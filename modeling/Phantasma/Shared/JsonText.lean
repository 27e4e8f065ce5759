import Mathlib.Tactic.IntervalCases
import Phantasma.Base.Utf8
import Phantasma.Shared.Json

/-!
# Reading compact JSON text

A codec that writes the compact text of a value and reads it back, for values made of
strings, natural numbers and objects.  Each part of the reader inverts the part of
`Json.compact` it is named after, in front of any text that a value can be followed by;
together, `inverts_compact`: what the codec writes for a plain value, it reads back.
-/

namespace Phantasma

namespace Json

/-! ### Strings -/

/-- The value of a hexadecimal digit in lower case. -/
def hexValue (ch : Char) : ℕ :=
  if ch.isDigit then ch.toNat - 48 else ch.toNat - 87

/-- The character that stands for `ch` after a backslash. -/
def unescape (ch : Char) : Char :=
  if ch = 'n' then '\n'
  else if ch = 'r' then '\r'
  else if ch = 't' then '\t'
  else if ch = 'b' then Char.ofNat 0x8
  else if ch = 'f' then Char.ofNat 0xc
  else ch

/-- The characters of a string, and the text behind its closing quotation mark. -/
def readString : List Char → Option (List Char × List Char)
  | [] => none
  | '"' :: text => some ([], text)
  | '\\' :: 'u' :: '0' :: '0' :: high :: low :: text =>
      (readString text).map fun (chars, rest) =>
        (Char.ofNat (16 * hexValue high + hexValue low) :: chars, rest)
  | '\\' :: ch :: text => (readString text).map fun (chars, rest) => (unescape ch :: chars, rest)
  | ch :: text => (readString text).map fun (chars, rest) => (ch :: chars, rest)

theorem readString_plain
    {ch : Char} (hquote : ch ≠ '"') (hslash : ch ≠ '\\') (text : List Char) :
  readString (ch :: text) = (readString text).map fun (chars, rest) => (ch :: chars, rest)
  := by
  rw [readString]
  · apply hquote
  · rintro _ _ _ rfl
    apply absurd rfl hslash
  · rintro _ _ rfl
    apply absurd rfl hslash

theorem readString_control {n : ℕ} (hlt : n < 0x20) (text : List Char) :
  readString (escape (Char.ofNat n) ++ text)
    = (readString text).map fun (chars, rest) => (Char.ofNat n :: chars, rest)
  := by
  interval_cases n <;> rfl

/-- An escaped character is read back as that character. -/
theorem readString_escape (ch : Char) (text : List Char) :
  readString (escape ch ++ text)
    = (readString text).map fun (chars, rest) => (ch :: chars, rest)
  := by
  by_cases hquoted : ch = '"' ∨ ch = '\\'
  · rcases hquoted with rfl | rfl <;> rfl
  · by_cases hplain : 0x20 ≤ ch.toNat
    · have hescape : escape ch = [ch] := by
        rw [escape, if_neg hquoted, if_pos hplain]
      rw [not_or] at hquoted
      rw [hescape, List.cons_append, List.nil_append, readString_plain hquoted.1 hquoted.2]
    · rw [← Char.ofNat_toNat ch]
      apply readString_control (not_le.mp hplain)

theorem readString_quote (s : String) (text : List Char) :
  readString (s.toList.flatMap escape ++ '"' :: text) = some (s.toList, text)
  := by
  induction s.toList with
  | nil => rw [List.flatMap_nil, List.nil_append, readString]
  | cons ch chars ih =>
      rw [List.flatMap_cons, List.append_assoc, readString_escape, ih, Option.map_some]

/-! ### Numbers -/

/-- The natural number at the head of a text, and the text behind it. -/
def readNat (text : List Char) : Option (ℕ × List Char) :=
  match text.takeWhile Char.isDigit with
  | [] => none
  | digits => some (Nat.ofDigitChars 10 digits 0, text.dropWhile Char.isDigit)

/-- A text that does not begin with a digit. -/
def EndsNumber (text : List Char) : Prop :=
  ∀ ch ∈ text.head?, ¬ ch.isDigit

theorem readNat_append
    {digits text : List Char} (hne : digits ≠ []) (hdigits : ∀ ch ∈ digits, ch.isDigit)
    (htext : EndsNumber text) :
  readNat (digits ++ text) = some (Nat.ofDigitChars 10 digits 0, text)
  := by
  have hspan : text.takeWhile Char.isDigit = [] ∧ text.dropWhile Char.isDigit = text := by
    cases text with
    | nil => exact ⟨rfl, rfl⟩
    | cons ch text =>
        have hch := htext ch rfl
        rw [List.takeWhile_cons_of_neg hch, List.dropWhile_cons_of_neg hch]
        exact ⟨rfl, rfl⟩
  rw [readNat, List.takeWhile_append_of_pos hdigits, List.dropWhile_append_of_pos hdigits,
    hspan.1, hspan.2, List.append_nil]
  cases digits with
  | nil => apply absurd rfl hne
  | cons => rfl

theorem isDigit_of_mem_toDigits
    {n : ℕ} {ch : Char} (hch : ch ∈ Nat.toDigits 10 n) :
  ch.isDigit
  := by
  apply Nat.isDigit_of_mem_toDigits _ _ hch
  all_goals omega

/-- The text of a natural number is its digits, and there is at least one. -/
theorem toList_toString (n : ℕ) :
  ∃ digit digits, (toString (n : ℤ)).toList = digit :: digits ∧ Nat.toDigits 10 n = digit :: digits
    ∧ digit.isDigit
  := by
  obtain ⟨digit, digits, hdigits⟩ := List.exists_cons_of_ne_nil (Nat.toDigits_ne_nil (b := 10))
  use digit, digits
  constructor
  · rw [Int.toString_eq_repr, Int.repr_eq_if, if_pos (Int.natCast_nonneg n), Int.toNat_natCast,
      Nat.repr_eq_ofList_toDigits, String.toList_ofList, hdigits]
  · constructor
    · exact hdigits
    · apply isDigit_of_mem_toDigits (n := n)
      rw [hdigits]
      exact List.mem_cons_self

/-- The digits of a natural number are read back as that number. -/
theorem readNat_toDigits
    (n : ℕ) {text : List Char} (htext : EndsNumber text) :
  readNat (Nat.toDigits 10 n ++ text) = some (n, text)
  := by
  rw [readNat_append Nat.toDigits_ne_nil (fun _ => isDigit_of_mem_toDigits) htext,
    Nat.ofDigitChars_ten_toDigits]

/-! ### Values -/

mutual

/-- The value at the head of a text, and the text behind it; `fuel` bounds the depth. -/
def readValue : ℕ → List Char → Option (Json × List Char)
  | 0, _ => none
  | _ + 1, '"' :: text =>
      (readString text).map fun (chars, rest) => (.str (String.ofList chars), rest)
  | _ + 1, '{' :: '}' :: text => some (.obj [], text)
  | fuel + 1, '{' :: text => (readMembers fuel text).map fun (members, rest) => (.obj members, rest)
  | _ + 1, text => (readNat text).map fun (n, rest) => (.int n, rest)

/-- The members of an object, and the text behind its closing bracket. -/
def readMembers : ℕ → List Char → Option (List (String × Json) × List Char)
  | fuel + 1, '"' :: text => do
      let (name, rest) ← readString text
      match rest with
      | ':' :: rest => do
          let (value, rest) ← readValue fuel rest
          match rest with
          | ',' :: rest => do
              let (members, rest) ← readMembers fuel rest
              return ((String.ofList name, value) :: members, rest)
          | '}' :: rest => return ([(String.ofList name, value)], rest)
          | _ => none
      | _ => none
  | _, _ => none

end

/-- The text of the members of an object with its closing bracket. -/
def membersText (members : List (String × Json)) : List Char :=
  List.intercalate [','] (compactMembers members) ++ ['}']

theorem membersText_cons (m : String × Json) (members : List (String × Json)) :
  membersText (m :: members)
    = quote m.1 ++ ':' :: compact m.2 ++ (if members = [] then ['}'] else ',' :: membersText members)
  := by
  cases members with
  | nil => simp [membersText, compactMembers]
  | cons m' members => simp [membersText, compactMembers]

theorem readValue_digit
    {digit : Char} (hdigit : digit.isDigit) (fuel : ℕ) (text : List Char) :
  readValue (fuel + 1) (digit :: text)
    = (readNat (digit :: text)).map fun (n, rest) => (.int n, rest)
  := by
  rw [readValue]
  all_goals
    rintro _ ⟨⟩
    cases hdigit

theorem readValue_int
    {n : ℤ} (hplain : (Json.int n).plain) {text : List Char} (htext : EndsNumber text) (fuel : ℕ) :
  readValue (fuel + 1) ((Json.int n).compact ++ text) = some (.int n, text)
  := by
  simp only [plain, decide_eq_true_eq] at hplain
  obtain ⟨m, rfl⟩ := Int.eq_ofNat_of_zero_le hplain.1
  obtain ⟨digit, digits, htoString, htoDigits, hdigit⟩ := toList_toString m
  have hread := readNat_toDigits m htext
  rw [htoDigits, List.cons_append] at hread
  rw [compact, htoString, List.cons_append, readValue_digit hdigit, hread, Option.map_some]

theorem readValue_str (s : String) (text : List Char) (fuel : ℕ) :
  readValue (fuel + 1) ((Json.str s).compact ++ text) = some (.str s, text)
  := by
  rw [compact, quote, List.cons_append, List.cons_append, List.append_assoc, readValue]
  rw [List.cons_append, List.nil_append, readString_quote, Option.map_some]
  simp only [String.ofList_toList]

theorem compact_obj (members : List (String × Json)) :
  (Json.obj members).compact
    = if members = [] then ['{', '}'] else '{' :: membersText members
  := by
  cases members with
  | nil => rfl
  | cons m members => simp [compact, membersText]

theorem readValue_obj
    {text : List Char} (htext : text.head? ≠ some '}') (fuel : ℕ) :
  readValue (fuel + 1) ('{' :: text)
    = (readMembers fuel text).map fun (members, rest) => (.obj members, rest)
  := by
  rw [readValue]
  rintro _ rfl
  apply htext rfl

/-- An object is read when its members are. -/
theorem readValue_members
    {members : List (String × Json)} (hne : members ≠ []) {text : List Char} {fuel : ℕ}
    (hmembers : readMembers fuel (membersText members ++ text) = some (members, text)) :
  readValue (fuel + 1) ((Json.obj members).compact ++ text) = some (.obj members, text)
  := by
  rw [compact_obj, if_neg hne, List.cons_append, readValue_obj, hmembers, Option.map_some]
  cases members with
  | nil => apply absurd rfl hne
  | cons m members =>
      rw [membersText_cons, quote]
      simp

theorem endsNumber_cons
    {ch : Char} (hch : ¬ ch.isDigit) (text : List Char) :
  EndsNumber (ch :: text)
  := by
  rintro _ ⟨⟩
  apply hch

mutual

/-- The text of a plain value is read back as that value. -/
theorem readValue_compact
    (v : Json) (hplain : v.plain) (text : List Char) (htext : EndsNumber text) (fuel : ℕ)
    (hfuel : (v.compact ++ text).length < fuel) :
  readValue fuel (v.compact ++ text) = some (v, text)
  := by
  obtain ⟨fuel, rfl⟩ := Nat.exists_eq_add_one_of_ne_zero (Nat.ne_zero_of_lt hfuel)
  match v with
  | .int n => apply readValue_int hplain htext
  | .str s => apply readValue_str
  | .obj [] =>
      rw [compact_obj, if_pos rfl]
      rfl
  | .obj (m :: members) =>
      simp only [plain, Bool.and_eq_true] at hplain
      rw [compact_obj, if_neg (List.cons_ne_nil _ _)] at hfuel
      apply readValue_members (List.cons_ne_nil _ _)
      apply readMembers_membersText (m :: members) (List.cons_ne_nil _ _) hplain.2
      simp only [List.cons_append, List.length_cons] at hfuel
      omega

/-- The text of the members of a plain object is read back as these members. -/
theorem readMembers_membersText
    (members : List (String × Json)) (hne : members ≠ []) (hplain : plainMembers members)
    (text : List Char) (fuel : ℕ) (hfuel : (membersText members ++ text).length < fuel) :
  readMembers fuel (membersText members ++ text) = some (members, text)
  := by
  obtain ⟨fuel, rfl⟩ := Nat.exists_eq_add_one_of_ne_zero (Nat.ne_zero_of_lt hfuel)
  match members with
  | [] => apply absurd rfl hne
  | (name, value) :: members =>
      simp only [plainMembers, Bool.and_eq_true] at hplain
      rw [membersText_cons] at hfuel ⊢
      simp only [quote, List.cons_append, List.append_assoc, List.nil_append, List.length_cons,
        List.length_append] at hfuel ⊢
      rw [readMembers, readString_quote]
      simp only [Option.bind_eq_bind, Option.bind_some, String.ofList_toList]
      cases members with
      | nil =>
          rw [readValue_compact value hplain.1]
          · rfl
          · apply endsNumber_cons
            decide
          · simp at hfuel ⊢
            omega
      | cons m members =>
          rw [if_neg (List.cons_ne_nil _ _)] at hfuel ⊢
          rw [readValue_compact value hplain.1]
          · have hmembers := readMembers_membersText (m :: members) (List.cons_ne_nil _ _) hplain.2
              text fuel (by simp at hfuel ⊢; omega)
            simp only [List.cons_append, Option.bind_some, hmembers]
            rfl
          · apply endsNumber_cons
            decide
          · simp at hfuel ⊢
            omega

end

/-- The text of a plain object is read back as that object, whatever follows it. -/
theorem readValue_compact_obj
    (members : List (String × Json)) (hplain : (Json.obj members).plain) (text : List Char)
    (fuel : ℕ) (hfuel : ((Json.obj members).compact ++ text).length < fuel) :
  readValue fuel ((Json.obj members).compact ++ text) = some (.obj members, text)
  := by
  obtain ⟨fuel, rfl⟩ := Nat.exists_eq_add_one_of_ne_zero (Nat.ne_zero_of_lt hfuel)
  by_cases hne : members = []
  · subst hne
    rw [compact_obj, if_pos rfl]
    rfl
  · simp only [plain, Bool.and_eq_true] at hplain
    rw [compact_obj, if_neg hne] at hfuel
    apply readValue_members hne
    apply readMembers_membersText members hne hplain.2
    simp only [List.cons_append, List.length_cons] at hfuel
    omega

/-- No text of a plain object continues that of another one. -/
theorem eq_nil_of_compact_obj_append
    {members members' : List (String × Json)} (hplain : (Json.obj members).plain)
    (hplain' : (Json.obj members').plain) {text : List Char}
    (h : (Json.obj members).compact = (Json.obj members').compact ++ text) :
  text = []
  := by
  have hread := readValue_compact_obj members hplain [] _ (Nat.lt_succ_self _)
  have hread' := readValue_compact_obj members' hplain' text _ (Nat.lt_succ_self _)
  rw [← h] at hread'
  rw [List.append_nil] at hread
  cases hread.symm.trans hread'
  rfl

/-- Only the texts of objects begin with a curly bracket. -/
theorem eq_obj_of_head_compact
    {v : Json} (hplain : v.plain) {text : List Char}
    (h : (v.compact ++ text).head? = some '{') :
  ∃ members, v = .obj members
  := by
  match v with
  | .int n =>
      simp only [plain, decide_eq_true_eq] at hplain
      obtain ⟨m, rfl⟩ := Int.eq_ofNat_of_zero_le hplain.1
      obtain ⟨digit, digits, htoString, -, hdigit⟩ := toList_toString m
      rw [compact, htoString] at h
      cases h
      cases hdigit
  | .str s => cases h
  | .obj members => use members

end Json

/-- The codec of compact text. -/
def JsonCodec.compact : JsonCodec where
  toVec v := some v.compactBytes
  fromSlice bytes := do
    let text ← Utf8.decode bytes
    match ← Json.readValue (text.length + 1) text with
    | (v, []) => some v
    | _ => none

/-- What the codec writes for a plain value, it reads back. -/
theorem JsonCodec.inverts_compact :
  JsonCodec.compact.Inverts JsonCodec.compact
  := by
  intro v hplain
  use v.compactBytes, rfl
  have hread := Json.readValue_compact v hplain [] (fun _ h => by cases h) (v.compact.length + 1)
    (by rw [List.append_nil]; omega)
  rw [List.append_nil] at hread
  simp only [JsonCodec.compact, Json.compactBytes, Utf8.decode_flatMap, Option.bind_eq_bind,
    Option.bind_some, hread]

/-- The codec of compact text that reads only what it writes for a plain value. -/
def JsonCodec.strict : JsonCodec where
  toVec v := some v.compactBytes
  fromSlice bytes := (JsonCodec.compact.fromSlice bytes).filter
    fun v => v.plain && v.compactBytes = bytes

theorem JsonCodec.inverts_strict :
  JsonCodec.strict.Inverts JsonCodec.strict
  := by
  intro v hplain
  obtain ⟨bytes, hwrite, hread⟩ := inverts_compact v hplain
  obtain rfl := Option.some.inj hwrite
  use v.compactBytes, rfl
  simp only [strict, hread, Option.filter_some, hplain, Bool.true_and, decide_true, if_true]

/-- A part of the text of a plain object is not read. -/
theorem JsonCodec.fromSlice_strict_take
    {members : List (String × Json)} (hplain : (Json.obj members).plain) {n : ℕ}
    (hlt : n < (Json.obj members).compactBytes.length) :
  JsonCodec.strict.fromSlice ((Json.obj members).compactBytes.take n) = none
  := by
  rw [Option.eq_none_iff_forall_ne_some]
  intro v hread
  obtain ⟨hread, hv⟩ := Option.filter_eq_some_iff.mp hread
  rw [Bool.and_eq_true, decide_eq_true_eq] at hv
  obtain ⟨hplain', hbytes⟩ := hv
  have hsplit := List.take_append_drop n (Json.obj members).compactBytes
  rw [← hbytes] at hsplit
  have hdecode := Utf8.decode_flatMap_append v.compact ((Json.obj members).compactBytes.drop n)
  rw [← Json.compactBytes, hsplit, Json.compactBytes, Utf8.decode_flatMap] at hdecode
  obtain ⟨text, -, htext⟩ := Option.map_eq_some_iff.mp hdecode.symm
  have hhead : (v.compact ++ text).head? = some '{' := by
    rw [htext, Json.compact_obj]
    split <;> rfl
  obtain ⟨members', rfl⟩ := Json.eq_obj_of_head_compact hplain' hhead
  obtain rfl := Json.eq_nil_of_compact_obj_append hplain hplain' htext.symm
  rw [List.append_nil] at htext
  have hlen := congrArg List.length hbytes
  rw [Json.compactBytes, htext, ← Json.compactBytes, List.length_take] at hlen
  omega

end Phantasma
