import Phantasma.Shared.JsonText

/-!
# JSON text of arrays

The browser client stores its contacts as an array.  The codec of compact text is extended
to arrays of plain values: the elements are read one after the other, each with the reader
of plain values, and what the codec writes for such an array it reads back
(`invertsArrays_compactArrays`).
-/

namespace Phantasma

namespace Json

/-- The elements of an array that is not empty, and the text behind its closing bracket. -/
def readElements : ℕ → List Char → Option (List Json × List Char)
  | 0, _ => none
  | fuel + 1, text => do
      let (value, rest) ← readValue fuel text
      match rest with
      | ',' :: rest => do
          let (elements, rest) ← readElements fuel rest
          return (value :: elements, rest)
      | ']' :: rest => return ([value], rest)
      | _ => none

/-- The text of the elements of an array with its closing bracket. -/
def elementsText (elements : List Json) : List Char :=
  List.intercalate [','] (compactElements elements) ++ [']']

theorem elementsText_cons (v : Json) (elements : List Json) :
  elementsText (v :: elements)
    = compact v ++ (if elements = [] then [']'] else ',' :: elementsText elements)
  := by
  cases elements with
  | nil => simp [elementsText, compactElements]
  | cons v' elements => simp [elementsText, compactElements]

theorem compact_arr (elements : List Json) :
  (Json.arr elements).compact = '[' :: elementsText elements
  := by
  rw [compact, elementsText, List.cons_append]

/-- The text of the elements of an array is read back as these elements. -/
theorem readElements_elementsText
    (elements : List Json) (hne : elements ≠ []) (hplain : ∀ v ∈ elements, v.plain)
    (text : List Char) (fuel : ℕ) (hfuel : (elementsText elements ++ text).length + 1 < fuel) :
  readElements fuel (elementsText elements ++ text) = some (elements, text)
  := by
  induction elements generalizing fuel with
  | nil => apply absurd rfl hne
  | cons v elements ih =>
      obtain ⟨fuel, rfl⟩ := Nat.exists_eq_add_one_of_ne_zero (Nat.ne_zero_of_lt hfuel)
      obtain ⟨hv, hrest⟩ := List.forall_mem_cons.mp hplain
      rw [elementsText_cons, List.append_assoc] at hfuel ⊢
      rw [readElements]
      by_cases hnil : elements = []
      · subst hnil
        rw [if_pos rfl] at hfuel ⊢
        rw [readValue_compact v hv]
        · rfl
        · apply endsNumber_cons
          decide
        · simp at hfuel ⊢
          omega
      · rw [if_neg hnil] at hfuel ⊢
        rw [readValue_compact v hv]
        · have helements := ih hnil hrest fuel (by simp at hfuel ⊢; omega)
          simp only [List.cons_append, Option.bind_eq_bind, Option.bind_some, helements]
          rfl
        · apply endsNumber_cons
          decide
        · simp at hfuel ⊢
          omega

/-- The text of a plain value is not that of an array. -/
theorem head_compact_ne {v : Json} (hplain : v.plain) :
  v.compact.head? ≠ some '['
  := by
  match v with
  | .int n =>
      simp only [plain, decide_eq_true_eq] at hplain
      obtain ⟨m, rfl⟩ := Int.eq_ofNat_of_zero_le hplain.1
      obtain ⟨digit, digits, htoString, -, hdigit⟩ := toList_toString m
      rw [compact, htoString]
      rintro ⟨⟩
      cases hdigit
  | .str s =>
      rintro ⟨⟩
  | .obj members =>
      rw [compact_obj]
      split <;> rintro ⟨⟩

end Json

/-- What `js` writes for an array of plain values, it reads back as that array. -/
def JsonCodec.InvertsArrays (js : JsonCodec) : Prop :=
  ∀ values : List Json, (∀ v ∈ values, v.plain) →
    ∃ bytes, js.toVec (.arr values) = some bytes ∧ js.fromSlice bytes = some (.arr values)

/-- The codec of compact text, with arrays of plain values. -/
def JsonCodec.compactArrays : JsonCodec where
  toVec v := some v.compactBytes
  fromSlice bytes := do
    match ← Utf8.decode bytes with
    | '[' :: ']' :: [] => some (.arr [])
    | '[' :: text =>
        match ← Json.readElements (text.length + 2) text with
        | (elements, []) => some (.arr elements)
        | _ => none
    | _ => JsonCodec.compact.fromSlice bytes

theorem JsonCodec.inverts_compactArrays :
  JsonCodec.compactArrays.Inverts JsonCodec.compactArrays
  := by
  intro v hplain
  obtain ⟨bytes, hwrite, hread⟩ := inverts_compact v hplain
  obtain rfl := Option.some.inj hwrite
  use v.compactBytes, rfl
  have hhead := Json.head_compact_ne hplain
  simp only [compactArrays, Json.compactBytes, Utf8.decode_flatMap, Option.bind_eq_bind,
    Option.bind_some]
  split
  · rename_i htext
    rw [htext] at hhead
    apply absurd rfl hhead
  · rename_i htext
    rw [htext] at hhead
    apply absurd rfl hhead
  · apply hread

/-- What the codec writes for an array of plain values, it reads back. -/
theorem JsonCodec.invertsArrays_compactArrays :
  JsonCodec.compactArrays.InvertsArrays
  := by
  intro values hplain
  use (Json.arr values).compactBytes, rfl
  simp only [compactArrays, Json.compactBytes, Utf8.decode_flatMap, Option.bind_eq_bind,
    Option.bind_some, Json.compact_arr]
  by_cases hnil : values = []
  · subst hnil
    rfl
  · have hread := Json.readElements_elementsText values hnil hplain []
      ((Json.elementsText values).length + 2) (by simp)
    rw [List.append_nil] at hread
    split
    · rename_i htext
      rw [(List.cons.inj htext).2] at hread
      cases hread
    · rename_i htext
      rw [← (List.cons.inj htext).2, hread]
      rfl
    · rename_i hother
      apply absurd rfl (hother _)

end Phantasma
