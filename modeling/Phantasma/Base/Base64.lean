import Mathlib.Data.UInt
import Mathlib.Data.List.Basic

/-!
# Base64 for URLs, without padding

The encoding of byte strings by the letters, the digits, `-` and `_`, six bits to a
character.  Decoding is strict: it takes no other character, no length that an encoding
does not have, and no last character with bits that encode nothing.
-/

namespace Base64

/-- The character of a six-bit value. -/
def toChar (v : Fin 64) : Char :=
  if v.val < 26 then Char.ofNat (v.val + 65)
  else if v.val < 52 then Char.ofNat (v.val + 71)
  else if v.val < 62 then Char.ofNat (v.val - 4)
  else if v.val = 62 then '-'
  else '_'

/-- The six-bit value of a character. -/
def ofChar (ch : Char) : Option (Fin 64) :=
  if ch.isUpper then some (Fin.ofNat 64 (ch.toNat - 65))
  else if ch.isLower then some (Fin.ofNat 64 (ch.toNat - 71))
  else if ch.isDigit then some (Fin.ofNat 64 (ch.toNat + 4))
  else if ch = '-' then some 62
  else if ch = '_' then some 63
  else none

/-- The six-bit values of a byte string, the last one filled up with zeros. -/
def toSextets : List UInt8 → List (Fin 64)
  | [] => []
  | [a] => [Fin.ofNat 64 (a.toNat / 4), Fin.ofNat 64 (a.toNat % 4 * 16)]
  | [a, b] =>
      [Fin.ofNat 64 (a.toNat / 4), Fin.ofNat 64 (a.toNat % 4 * 16 + b.toNat / 16),
        Fin.ofNat 64 (b.toNat % 16 * 4)]
  | a :: b :: c :: rest =>
      Fin.ofNat 64 (a.toNat / 4) :: Fin.ofNat 64 (a.toNat % 4 * 16 + b.toNat / 16) ::
        Fin.ofNat 64 (b.toNat % 16 * 4 + c.toNat / 64) :: Fin.ofNat 64 (c.toNat % 64) ::
        toSextets rest

/-- The byte string of six-bit values, if they are those of one. -/
def ofSextets : List (Fin 64) → Option (List UInt8)
  | [] => some []
  | [_] => none
  | [p, q] => if q.val % 16 = 0 then some [UInt8.ofNat (p.val * 4 + q.val / 16)] else none
  | [p, q, r] =>
      if r.val % 4 = 0 then
        some [UInt8.ofNat (p.val * 4 + q.val / 16), UInt8.ofNat (q.val % 16 * 16 + r.val / 4)]
      else none
  | p :: q :: r :: s :: rest => do
      let bytes ← ofSextets rest
      some (UInt8.ofNat (p.val * 4 + q.val / 16) :: UInt8.ofNat (q.val % 16 * 16 + r.val / 4) ::
        UInt8.ofNat (r.val % 4 * 64 + s.val) :: bytes)

/-- The text of a byte string. -/
def encode (bytes : List UInt8) : String :=
  String.ofList ((toSextets bytes).map toChar)

/-- The byte string of a text. -/
def decode (text : String) : Option (List UInt8) := do
  let sextets ← text.toList.mapM ofChar
  ofSextets sextets

theorem ofChar_toChar (v : Fin 64) :
  ofChar (toChar v) = some v
  := by
  revert v
  decide

theorem mapM_ofChar_map_toChar (sextets : List (Fin 64)) :
  (sextets.map toChar).mapM ofChar = some sextets
  := by
  induction sextets with
  | nil => rfl
  | cons v sextets ih =>
      rw [List.map_cons, List.mapM_cons, ofChar_toChar, ih]
      rfl

/-- A number with the bits of a byte is that byte. -/
theorem ofNat_eq {n : ℕ} {a : UInt8} (h : n = a.toNat) :
  UInt8.ofNat n = a
  := by
  rw [h, UInt8.ofNat_toNat]

/-- The six-bit values of a byte string are those of the byte string. -/
theorem ofSextets_toSextets (bytes : List UInt8) :
  ofSextets (toSextets bytes) = some bytes
  := by
  induction bytes using toSextets.induct with
  | case1 => rfl
  | case2 a =>
      have ha := a.toNat_lt
      simp only [toSextets, ofSextets, Fin.val_ofNat]
      rw [if_pos (by omega), ofNat_eq (a := a) (by omega)]
  | case3 a b =>
      have ha := a.toNat_lt
      have hb := b.toNat_lt
      simp only [toSextets, ofSextets, Fin.val_ofNat]
      rw [if_pos (by omega), ofNat_eq (a := a) (by omega), ofNat_eq (a := b) (by omega)]
  | case4 a b c rest ih =>
      have ha := a.toNat_lt
      have hb := b.toNat_lt
      have hc := c.toNat_lt
      simp only [toSextets, ofSextets, Fin.val_ofNat, ih]
      rw [ofNat_eq (a := a) (by omega), ofNat_eq (a := b) (by omega),
        ofNat_eq (a := c) (by omega)]
      rfl

/-- Decoding inverts encoding. -/
@[simp]
theorem decode_encode (bytes : List UInt8) :
  decode (encode bytes) = some bytes
  := by
  rw [decode, encode, String.toList_ofList, mapM_ofChar_map_toChar]
  apply ofSextets_toSextets

/-! ### Decoding is strict -/

/-- The alphabet is within ASCII. -/
theorem toNat_lt_of_ofChar {ch : Char} {v : Fin 64} (h : ofChar ch = some v) :
  ch.toNat < 128
  := by
  rw [ofChar] at h
  unfold Char.isUpper Char.isLower Char.isDigit at h
  simp only [Bool.and_eq_true, decide_eq_true_eq, UInt32.le_iff_toNat_le] at h
  change ch.val.toNat < 128
  split at h
  · rename_i hupper
    exact hupper.2.trans_lt (by decide)
  · split at h
    · rename_i hlower
      exact hlower.2.trans_lt (by decide)
    · split at h
      · rename_i hdigit
        exact hdigit.2.trans_lt (by decide)
      · split at h
        · subst ch
          decide
        · split at h
          · subst ch
            decide
          · cases h

/-- A character of the alphabet is the one of its value. -/
theorem toChar_ofChar {ch : Char} {v : Fin 64} (h : ofChar ch = some v) :
  toChar v = ch
  := by
  have hascii : ∀ n < 128, ∀ v ∈ ofChar (Char.ofNat n), toChar v = Char.ofNat n := by
    decide +kernel
  have hch := hascii ch.toNat (toNat_lt_of_ofChar h)
  rw [Char.ofNat_toNat] at hch
  apply hch v h

/-- The characters are those of their values. -/
theorem map_toChar_of_mapM
    {chars : List Char} {sextets : List (Fin 64)} (h : chars.mapM ofChar = some sextets) :
  sextets.map toChar = chars
  := by
  induction chars generalizing sextets with
  | nil =>
      cases h
      rfl
  | cons ch chars ih =>
      rw [List.mapM_cons] at h
      obtain ⟨v, hv, h⟩ := Option.bind_eq_some_iff.mp h
      obtain ⟨vs, hvs, ⟨⟩⟩ := Option.bind_eq_some_iff.mp h
      rw [List.map_cons, toChar_ofChar hv, ih hvs]

/-- A number that is a six-bit value modulo 64 is that value. -/
theorem finOfNat_eq {n : ℕ} {v : Fin 64} (h : n % 64 = v.val) :
  Fin.ofNat 64 n = v
  := by
  apply Fin.ext
  rw [Fin.val_ofNat, h]

/-- Six-bit values that are those of a byte string are the ones it is encoded with. -/
theorem toSextets_ofSextets
    {sextets : List (Fin 64)} {bytes : List UInt8} (h : ofSextets sextets = some bytes) :
  toSextets bytes = sextets
  := by
  induction sextets using ofSextets.induct generalizing bytes with
  | case1 =>
      cases h
      rfl
  | case2 => cases h
  | case3 p q hq =>
      rw [ofSextets, if_pos hq] at h
      cases h
      simp only [toSextets, UInt8.toNat_ofNat']
      rw [finOfNat_eq (v := p) (by omega), finOfNat_eq (v := q) (by omega)]
  | case4 p q hq =>
      rw [ofSextets, if_neg hq] at h
      cases h
  | case5 p q r hr =>
      rw [ofSextets, if_pos hr] at h
      cases h
      simp only [toSextets, UInt8.toNat_ofNat']
      rw [finOfNat_eq (v := p) (by omega), finOfNat_eq (v := q) (by omega),
        finOfNat_eq (v := r) (by omega)]
  | case6 p q r hr =>
      rw [ofSextets, if_neg hr] at h
      cases h
  | case7 p q r s rest ih =>
      obtain ⟨bytes', hrest, ⟨⟩⟩ := Option.bind_eq_some_iff.mp h
      simp only [toSextets, UInt8.toNat_ofNat', ih hrest]
      rw [finOfNat_eq (v := p) (by omega), finOfNat_eq (v := q) (by omega),
        finOfNat_eq (v := r) (by omega), finOfNat_eq (v := s) (by omega)]

/-- A text that decodes is the encoding of what it decodes to. -/
theorem encode_of_decode {text : String} {bytes : List UInt8} (h : decode text = some bytes) :
  encode bytes = text
  := by
  obtain ⟨sextets, hsextets, hbytes⟩ := Option.bind_eq_some_iff.mp h
  rw [encode, toSextets_ofSextets hbytes, map_toChar_of_mapM hsextets, String.ofList_toList]

/-- Two texts that decode to the same bytes are the same. -/
theorem eq_of_decode_eq
    {text text' : String} {bytes : List UInt8} (h : decode text = some bytes)
    (h' : decode text' = some bytes) :
  text = text'
  := by
  rw [← encode_of_decode h, encode_of_decode h']

/-! ### What decodes -/

/-- The alphabet is the letters, the digits, `-` and `_`. -/
theorem isSome_ofChar (ch : Char) :
  (ofChar ch).isSome = (ch.isAlphanum || ch = '-' || ch = '_')
  := by
  rw [ofChar]
  unfold Char.isAlphanum Char.isAlpha
  cases ch.isUpper
  · cases ch.isLower
    · cases ch.isDigit
      · by_cases hdash : ch = '-'
        · simp [hdash]
        · by_cases hscore : ch = '_' <;> simp [hdash, hscore]
      · rfl
    · rfl
  · rfl

/-- Characters have values when each one has. -/
theorem isSome_mapM_ofChar (chars : List Char) :
  (chars.mapM ofChar).isSome = chars.all fun ch => (ofChar ch).isSome
  := by
  induction chars with
  | nil => rfl
  | cons ch chars ih =>
      rw [List.mapM_cons, List.all_cons, ← ih]
      cases ofChar ch with
      | none => rfl
      | some v => cases chars.mapM ofChar <;> rfl

/-- Four characters encode three bytes, and those left of a group of four one or two. -/
theorem length_ofSextets
    {sextets : List (Fin 64)} {bytes : List UInt8} (h : ofSextets sextets = some bytes) :
  bytes.length = sextets.length * 3 / 4
  := by
  induction sextets using ofSextets.induct generalizing bytes with
  | case1 =>
      cases h
      rfl
  | case2 => cases h
  | case3 p q hq =>
      rw [ofSextets, if_pos hq] at h
      cases h
      simp
  | case4 p q hq =>
      rw [ofSextets, if_neg hq] at h
      cases h
  | case5 p q r hr =>
      rw [ofSextets, if_pos hr] at h
      cases h
      simp
  | case6 p q r hr =>
      rw [ofSextets, if_neg hr] at h
      cases h
  | case7 p q r s rest ih =>
      obtain ⟨bytes', hrest, ⟨⟩⟩ := Option.bind_eq_some_iff.mp h
      simp only [List.length_cons, ih hrest]
      omega

/-- Six-bit values are those of a byte string when not a single one is left of a group of
four, and the bits by which the last one exceeds the byte string are zero. -/
theorem isSome_ofSextets (sextets : List (Fin 64)) :
  (ofSextets sextets).isSome
    ↔ sextets.length % 4 ≠ 1
      ∧ ∀ v ∈ sextets.getLast?, v.val % 4 ^ ((4 - sextets.length % 4) % 4) = 0
  := by
  induction sextets using ofSextets.induct with
  | case1 => simp [ofSextets]
  | case2 => simp [ofSextets]
  | case3 p q hq => simp [ofSextets, hq]
  | case4 p q hq => simp [ofSextets, hq]
  | case5 p q r hr => simp [ofSextets, hr]
  | case6 p q r hr => simp [ofSextets, hr]
  | case7 p q r s rest ih =>
      have hbind : (ofSextets (p :: q :: r :: s :: rest)).isSome = (ofSextets rest).isSome := by
        rw [ofSextets]
        cases ofSextets rest <;> rfl
      have hlen : (p :: q :: r :: s :: rest).length % 4 = rest.length % 4 := by
        simp only [List.length_cons]
        omega
      rw [hbind, ih, hlen]
      cases rest with
      | nil => simp [Nat.mod_one]
      | cons v rest => simp only [List.getLast?_cons_cons]

/-- A text decodes when it is of the alphabet, not a single character is left of a group of
four, and the bits by which the last one exceeds the byte string are zero. -/
theorem isSome_decode (text : String) :
  (decode text).isSome
    ↔ (∀ ch ∈ text.toList, (ofChar ch).isSome) ∧ text.toList.length % 4 ≠ 1
      ∧ ∀ ch ∈ text.toList.getLast?, ∀ v ∈ ofChar ch,
        v.val % 4 ^ ((4 - text.toList.length % 4) % 4) = 0
  := by
  have hall := isSome_mapM_ofChar text.toList
  rw [decode]
  cases hsextets : text.toList.mapM ofChar with
  | none =>
      rw [hsextets, Option.isSome_none, eq_comm, List.all_eq_false] at hall
      constructor
      · intro h
        cases h
      · rintro ⟨halphabet, -⟩
        obtain ⟨ch, hch, hnone⟩ := hall
        exact absurd (halphabet ch hch) hnone
  | some sextets =>
      rw [hsextets, Option.isSome_some, eq_comm, List.all_eq_true] at hall
      rw [← map_toChar_of_mapM hsextets] at hall ⊢
      simp only [List.length_map, List.getLast?_map, Option.mem_map, forall_exists_index, and_imp,
        forall_apply_eq_imp_iff₂, ofChar_toChar, Option.mem_some, forall_eq']
      rw [← isSome_ofSextets]
      constructor
      · intro h
        exact ⟨hall, h⟩
      · rintro ⟨-, h⟩
        apply h

end Base64
