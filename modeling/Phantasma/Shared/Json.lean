import Mathlib.Data.UInt
import Mathlib.Data.List.Basic

/-!
# JSON values

The messages of the protocol cross the wire as JSON.  `Json` is a JSON value, an object
being the list of its members in the order of the text.  `JsonCodec` is the text layer
of a JSON library: the bytes it writes for a value and the value it reads from bytes.

The members of a record are read off a value as `serde` derives it for a struct: from an
object that has every member of the struct exactly once, other members being ignored, or
from an array with one element for each member.
-/

namespace Phantasma

/-- A byte string, `Vec<u8>` in the source. -/
abbrev Bytes := List UInt8

/-- A JSON value.  A number is an integer or the text of any other number. -/
inductive Json where
  | null
  | bool (b : Bool)
  | int (n : ℤ)
  | float (text : String)
  | str (s : String)
  | arr (elements : List Json)
  | obj (members : List (String × Json))

/-- The text layer of a JSON library: `serde_json::to_vec` and `from_slice`, or
`JSON.stringify` and `JSON.parse` with the UTF-8 conversions around them. -/
structure JsonCodec where
  toVec : Json → Option Bytes
  fromSlice : Bytes → Option Json

namespace Json

/-- The value of the member `name` of an object, when it occurs exactly once. -/
def member (members : List (String × Json)) (name : String) : Option Json :=
  match members.filter (fun m => m.1 = name) with
  | [m] => some m.2
  | _ => none

/-- The values of the members of a struct, read from an object or from an array. -/
def structMembers (names : List String) : Json → Option (List Json)
  | .obj members => names.mapM (member members)
  | .arr elements => if elements.length = names.length then some elements else none
  | _ => none

/-- A string value. -/
def asString : Json → Option String
  | .str s => some s
  | _ => none

/-- A value of type `u8`: an integer from `0` to `255`. -/
def asU8 : Json → Option UInt8
  | .int n => if 0 ≤ n ∧ n < 256 then some (UInt8.ofNat n.toNat) else none
  | _ => none

/-- The integer value of a `u8`. -/
def ofU8 (n : UInt8) : Json :=
  .int n.toNat

@[simp]
theorem asU8_ofU8 (n : UInt8) :
  asU8 (ofU8 n) = some n
  := by
  have hlt : n.toNat < 256 := n.toNat_lt
  simp only [ofU8, asU8]
  rw [if_pos (by omega)]
  simp

/-! ### Plain values -/

mutual

/-- A value made of strings, numbers of type `u8` and objects whose members have
different names. -/
def plain : Json → Bool
  | .int n => decide (0 ≤ n ∧ n < 256)
  | .str _ => true
  | .obj members => decide ((members.map Prod.fst).Nodup) && plainMembers members
  | _ => false

/-- The values of the members are plain. -/
def plainMembers : List (String × Json) → Bool
  | [] => true
  | m :: members => plain m.2 && plainMembers members

end

end Json

/-! ### Compact text -/

namespace Json

/-- A character inside a JSON string. -/
def escape (ch : Char) : List Char :=
  if ch = '"' ∨ ch = '\\' then ['\\', ch]
  else if 0x20 ≤ ch.toNat then [ch]
  else if ch = '\n' then ['\\', 'n']
  else if ch = '\r' then ['\\', 'r']
  else if ch = '\t' then ['\\', 't']
  else if ch.toNat = 0x8 then ['\\', 'b']
  else if ch.toNat = 0xc then ['\\', 'f']
  else ['\\', 'u', '0', '0', (ch.toNat / 16).digitChar, (ch.toNat % 16).digitChar]

/-- A JSON string. -/
def quote (s : String) : List Char :=
  '"' :: s.toList.flatMap escape ++ ['"']

mutual

/-- The text of a value without white space. -/
def compact : Json → List Char
  | .null => ['n', 'u', 'l', 'l']
  | .bool true => ['t', 'r', 'u', 'e']
  | .bool false => ['f', 'a', 'l', 's', 'e']
  | .int n => (toString n).toList
  | .float text => text.toList
  | .str s => quote s
  | .arr elements => '[' :: List.intercalate [','] (compactElements elements) ++ [']']
  | .obj members => '{' :: List.intercalate [','] (compactMembers members) ++ ['}']

/-- The texts of the elements of an array. -/
def compactElements : List Json → List (List Char)
  | [] => []
  | v :: elements => compact v :: compactElements elements

/-- The texts of the members of an object. -/
def compactMembers : List (String × Json) → List (List Char)
  | [] => []
  | m :: members => (quote m.1 ++ ':' :: compact m.2) :: compactMembers members

end

/-- The UTF-8 bytes of the compact text of a value. -/
def compactBytes (v : Json) : Bytes :=
  v.compact.flatMap String.utf8EncodeChar

end Json

/-- The codec that writes the compact text and reads back the texts of the values it
lists. -/
def JsonCodec.ofValues (values : List Json) : JsonCodec where
  toVec v := some v.compactBytes
  fromSlice bytes := values.find? (fun v => v.compactBytes = bytes)

/-- What `writer` writes for a plain value, `reader` reads back as that value. -/
def JsonCodec.Inverts (writer reader : JsonCodec) : Prop :=
  ∀ v, v.plain → ∃ bytes, writer.toVec v = some bytes ∧ reader.fromSlice bytes = some v

end Phantasma
