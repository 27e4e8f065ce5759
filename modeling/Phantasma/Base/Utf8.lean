import Mathlib.Data.UInt
import Mathlib.Data.List.Basic

/-!
# UTF-8

Decoding inverts the encoding of characters as byte strings.  A character is accepted only
in the form in which it is encoded, so overlong forms and surrogates are refused.
-/

namespace Utf8

/-- The character with the number `n`, written as `bytes`, in front of a text. -/
def accept (bytes : List UInt8) (n : ℕ) (text : Option (List Char)) : Option (List Char) :=
  if String.utf8EncodeChar (Char.ofNat n) = bytes then text.map (Char.ofNat n :: ·) else none

/-- The text of a byte string, if it is the encoding of one. -/
def decode : List UInt8 → Option (List Char)
  | [] => some []
  | a :: rest =>
      if a.toNat < 0x80 then accept [a] a.toNat (decode rest)
      else match rest with
        | [] => none
        | b :: rest =>
            if a.toNat < 0xe0 then
              accept [a, b] (a.toNat % 0x20 * 0x40 + b.toNat % 0x40) (decode rest)
            else match rest with
              | [] => none
              | c :: rest =>
                  if a.toNat < 0xf0 then
                    accept [a, b, c]
                      (a.toNat % 0x10 * 0x1000 + b.toNat % 0x40 * 0x40 + c.toNat % 0x40)
                      (decode rest)
                  else match rest with
                    | [] => none
                    | d :: rest =>
                        accept [a, b, c, d]
                          (a.toNat % 0x08 * 0x40000 + b.toNat % 0x40 * 0x1000
                            + c.toNat % 0x40 * 0x40 + d.toNat % 0x40)
                          (decode rest)

theorem accept_encode (ch : Char) (text : Option (List Char)) :
  accept (String.utf8EncodeChar ch) ch.toNat text = text.map (ch :: ·)
  := by
  rw [accept, Char.ofNat_toNat, if_pos rfl]

theorem toNat_lt (ch : Char) :
  ch.toNat < 0x110000
  := by
  have hvalid : ch.toNat < 0xd800 ∨ 0xdfff < ch.toNat ∧ ch.toNat < 0x110000 := ch.valid
  omega

/-! ### Decoding by the first byte -/

section

variable {a b c d : UInt8} {rest : List UInt8}

theorem decode_one (ha : a.toNat < 0x80) :
  decode (a :: rest) = accept [a] a.toNat (decode rest)
  := by
  rw [decode.eq_def]
  simp only [if_pos ha]

theorem decode_two (ha : 0x80 ≤ a.toNat) (ha' : a.toNat < 0xe0) :
  decode (a :: b :: rest)
    = accept [a, b] (a.toNat % 0x20 * 0x40 + b.toNat % 0x40) (decode rest)
  := by
  rw [decode.eq_def]
  simp only [if_neg ha.not_gt, if_pos ha']

theorem decode_three (ha : 0xe0 ≤ a.toNat) (ha' : a.toNat < 0xf0) :
  decode (a :: b :: c :: rest)
    = accept [a, b, c] (a.toNat % 0x10 * 0x1000 + b.toNat % 0x40 * 0x40 + c.toNat % 0x40)
      (decode rest)
  := by
  have ha'' : ¬ a.toNat < 0x80 := by omega
  rw [decode.eq_def]
  simp only [if_neg ha'', if_neg ha.not_gt, if_pos ha']

theorem decode_four (ha : 0xf0 ≤ a.toNat) :
  decode (a :: b :: c :: d :: rest)
    = accept [a, b, c, d]
      (a.toNat % 0x08 * 0x40000 + b.toNat % 0x40 * 0x1000 + c.toNat % 0x40 * 0x40
        + d.toNat % 0x40)
      (decode rest)
  := by
  have ha' : ¬ a.toNat < 0x80 := by omega
  have ha'' : ¬ a.toNat < 0xe0 := by omega
  rw [decode.eq_def]
  simp only [if_neg ha', if_neg ha'', if_neg ha.not_gt]

end

/-- The encoding of a character in front of other bytes is decoded to that character. -/
theorem decode_append (ch : Char) (bytes : List UInt8) :
  decode (String.utf8EncodeChar ch ++ bytes) = (decode bytes).map (ch :: ·)
  := by
  have hlt := toNat_lt ch
  have hval : ch.val.toNat = ch.toNat := rfl
  have hmod (n : ℕ) : (UInt8.ofNat n).toNat = n % 256 := UInt8.toNat_ofNat'
  rw [← accept_encode]
  generalize hencode : String.utf8EncodeChar ch = encoded
  rw [String.utf8EncodeChar] at hencode
  change (if ch.toNat ≤ 0x7f then _ else if ch.toNat ≤ 0x7ff then _
    else if ch.toNat ≤ 0xffff then _ else _) = _ at hencode
  split at hencode
  · subst hencode
    rw [List.cons_append, List.nil_append, decode_one (by rw [hmod]; omega), hmod]
    congr 1
    omega
  · split at hencode
    · subst hencode
      rw [List.cons_append, List.cons_append, List.nil_append,
        decode_two (by rw [hmod]; omega) (by rw [hmod]; omega), hmod, hmod]
      congr 1
      omega
    · split at hencode
      · subst hencode
        rw [List.cons_append, List.cons_append, List.cons_append, List.nil_append,
          decode_three (by rw [hmod]; omega) (by rw [hmod]; omega), hmod, hmod, hmod]
        congr 1
        omega
      · subst hencode
        rw [List.cons_append, List.cons_append, List.cons_append, List.cons_append,
          List.nil_append, decode_four (by rw [hmod]; omega), hmod, hmod, hmod, hmod]
        congr 1
        omega

/-- The encoding of a text in front of other bytes is decoded to that text. -/
theorem decode_flatMap_append (text : List Char) (bytes : List UInt8) :
  decode (text.flatMap String.utf8EncodeChar ++ bytes) = (decode bytes).map (text ++ ·)
  := by
  induction text with
  | nil =>
      simp only [List.flatMap_nil, List.nil_append]
      apply Option.map_id'.symm
  | cons ch text ih =>
      rw [List.flatMap_cons, List.append_assoc, decode_append, ih, Option.map_map]
      rfl

/-- Decoding inverts encoding. -/
@[simp]
theorem decode_flatMap (text : List Char) :
  decode (text.flatMap String.utf8EncodeChar) = some text
  := by
  have hdecode := decode_flatMap_append text []
  rw [List.append_nil] at hdecode
  rw [hdecode, decode, Option.map_some, List.append_nil]

end Utf8
