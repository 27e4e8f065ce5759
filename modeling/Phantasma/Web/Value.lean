import Mathlib.Data.List.DropRight
import Phantasma.Shared.Json

/-!
# JavaScript values

What the browser client does with values it has read from JSON text: it takes their
properties, compares them, tests whether they are truthy and puts them into texts.  A
value is `none` where JavaScript has `undefined`.  A number is an integer when its value
is one of at most `2 ^ 53` in size, however it was written, and the text of any other number
is the one that JavaScript gives it, such as `1e+21`.
-/

namespace Phantasma.Web

/-- A value read from JSON text, or `undefined`. -/
abbrev Value := Option Json

/-- What is thrown: an error made by the client, or an exception of the engine or of a
library. -/
inductive Thrown where
  | error (message : String)
  | exception
deriving DecidableEq

/-- The value of an option, or an exception when there is none. -/
def orException {α : Type} : Option α → Except Thrown α
  | some a => .ok a
  | none => .error .exception

theorem orException_eq_ok {α : Type} {o : Option α} {a : α} :
  orException o = .ok a ↔ o = some a
  := by
  cases o <;> simp [orException]

theorem toOption_orException {α : Type} (o : Option α) :
  (orException o).toOption = o
  := by
  cases o <;> rfl

namespace Value

/-- A string. -/
def ofString (s : String) : Value :=
  some (.str s)

/-- The property `name` of a value, for a name that no built-in prototype has.  Of two
members of one name, `JSON.parse` keeps the last. -/
def property (name : String) : Value → Except Thrown Value
  | none | some .null => .error .exception
  | some (.obj members) => .ok ((members.reverse.find? fun m => m.1 = name).map Prod.snd)
  | some _ => .ok none

/-- `===`.  Two objects that were read separately are never the same. -/
def strictEq : Value → Value → Bool
  | none, none => true
  | some .null, some .null => true
  | some (.bool a), some (.bool b) => a = b
  | some (.int a), some (.int b) => a = b
  | some (.float a), some (.float b) => a = b
  | some (.str a), some (.str b) => a = b
  | _, _ => false

/-- The value counts as true in a condition. -/
def truthy : Value → Bool
  | none | some .null => false
  | some (.bool b) => b
  | some (.int n) => n ≠ 0
  | some (.str s) => !s.isEmpty
  | some _ => true

end Value

mutual

/-- The text of a value in a template literal.  An object has the text that the prototype gives it,
also if it has a member `toString` of its own, for which JavaScript throws. -/
def displayJson : Json → String
  | .null => "null"
  | .bool b => if b then "true" else "false"
  | .int n => toString n
  | .float text => text
  | .str s => s
  | .arr elements => String.intercalate "," (displayElements elements)
  | .obj _ => "[object Object]"

/-- The texts of the elements of an array, that of `null` being empty. -/
def displayElements : List Json → List String
  | [] => []
  | v :: elements =>
      (match v with
        | .null => ""
        | v => displayJson v) :: displayElements elements

end

/-- The text of a value in a template literal. -/
def Value.display : Value → String
  | some v => displayJson v
  | none => "undefined"

@[simp]
theorem Value.display_ofString (s : String) :
  (ofString s).display = s
  := rfl

@[simp]
theorem Value.strictEq_ofString (a b : String) :
  (ofString a).strictEq (ofString b) = decide (a = b)
  := rfl

/-- A character that `String.prototype.trim` removes. -/
def isWhitespace (ch : Char) : Bool :=
  (9 ≤ ch.toNat && ch.toNat ≤ 13) || (0x2000 ≤ ch.toNat && ch.toNat ≤ 0x200a) ||
    ch.toNat ∈ [0x20, 0xa0, 0x1680, 0x2028, 0x2029, 0x202f, 0x205f, 0x3000, 0xfeff]

/-- `String.prototype.trim`. -/
def trim (text : String) : String :=
  String.ofList ((text.toList.dropWhile isWhitespace).rdropWhile isWhitespace)

end Phantasma.Web
