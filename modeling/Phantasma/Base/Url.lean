import Mathlib.Data.List.Basic
import Mathlib.Data.List.DropRight
import Phantasma.Base.Utf8

/-!
# URLs of HTTP

The parser of the WHATWG rules for a text with the scheme `http` or `https`, and the target
that a request for the URL carries.  The parser drops blanks, takes a backslash for a
slash, and removes the segments `.` and `..` from the path; the query and the fragment are
left out.  `parse_target` reads a text that is written from the segments of a path, and
`normalize_plain` leaves plain segments alone.
-/

namespace Url

/-- What is read from the text of a URL: the scheme, the authority and the segments of the
path. -/
structure Parsed where
  scheme : List Char
  authority : List Char
  path : List (List Char)
deriving DecidableEq

/-! ### The parts of a text -/

/-- A control character or a space. -/
def isBlank (ch : Char) : Bool :=
  ch.toNat ≤ 0x20

/-- A tabulator or a line break. -/
def isTabOrNewline (ch : Char) : Bool :=
  ch = '\t' || ch = '\n' || ch = '\r'

/-- A slash, or a backslash, which counts as one. -/
def isSlash (ch : Char) : Bool :=
  ch = '/' || ch = '\\'

/-- A character that begins the query or the fragment. -/
def endsPath (ch : Char) : Bool :=
  ch = '?' || ch = '#'

/-- The text without the blanks around it and without line breaks. -/
def clean (text : List Char) : List Char :=
  ((text.dropWhile isBlank).rdropWhile isBlank).filter fun ch => !isTabOrNewline ch

/-- The characters of the authority end at a slash, a query or a fragment. -/
def inAuthority (ch : Char) : Bool :=
  !isSlash ch && !endsPath ch

/-! ### Paths -/

/-- The percent-encoded form of a byte. -/
def encodeByte (byte : UInt8) : List Char :=
  ['%', (byte.toNat / 16).digitChar.toUpper, (byte.toNat % 16).digitChar.toUpper]

/-- A character that is percent-encoded in a path. -/
def inPathSet (ch : Char) : Bool :=
  ch.toNat < 0x20 || 0x7e < ch.toNat
    || ch ∈ [' ', '"', '#', '<', '>', '?', '^', '\x60', '\x7b', '\x7d']

/-- A segment with the characters of the path set encoded. -/
def encodeSegment (segment : List Char) : List Char :=
  segment.flatMap fun ch =>
    if inPathSet ch then (String.utf8EncodeChar ch).flatMap encodeByte else [ch]

/-- The segment stands for the segment itself. -/
def isSingleDot (segment : List Char) : Bool :=
  segment.map Char.toLower ∈ [".".toList, "%2e".toList]

/-- The segment stands for the one above. -/
def isDoubleDot (segment : List Char) : Bool :=
  segment.map Char.toLower ∈ ["..".toList, ".%2e".toList, "%2e.".toList, "%2e%2e".toList]

/-- The segments of a path without those that stand for others, behind the segments `done`,
the last of these first. -/
def normalize (done : List (List Char)) : List (List Char) → List (List Char)
  | [] => done.reverse
  | [segment] =>
      if isDoubleDot segment then ([] :: done.tail).reverse
      else if isSingleDot segment then ([] :: done).reverse
      else (encodeSegment segment :: done).reverse
  | segment :: rest =>
      if isDoubleDot segment then normalize done.tail rest
      else if isSingleDot segment then normalize done rest
      else normalize (encodeSegment segment :: done) rest

/-- The segments of the text of a path. -/
def parsePath (text : List Char) : List (List Char) :=
  normalize [] (List.splitOnP isSlash
    (match text with
      | [] => []
      | ch :: rest => if isSlash ch then rest else text))

/-- What is read from the text of a URL of HTTP. -/
def parse (text : List Char) : Option Parsed :=
  let text := clean text
  let scheme := (text.takeWhile (· ≠ ':')).map Char.toLower
  let rest := ((text.dropWhile (· ≠ ':')).drop 1).dropWhile isSlash
  let authority := rest.takeWhile inAuthority
  let path := (rest.dropWhile inAuthority).takeWhile fun ch => !endsPath ch
  if (scheme = "http".toList ∨ scheme = "https".toList) ∧ ':' ∈ text ∧ authority ≠ [] then
    some ⟨scheme, authority, parsePath path⟩
  else none

/-- The target of a request for a path. -/
def target (path : List (List Char)) : List Char :=
  path.flatMap ('/' :: ·)

/-! ### Percent-decoding -/

/-- The value of a hexadecimal digit. -/
def hexValue (ch : Char) : Option ℕ :=
  if ch.isDigit then some (ch.toNat - 48)
  else if 'a' ≤ ch ∧ ch ≤ 'f' then some (ch.toNat - 87)
  else if 'A' ≤ ch ∧ ch ≤ 'F' then some (ch.toNat - 55)
  else none

/-- The bytes of a percent-encoded text. -/
def decodeBytes : List Char → List UInt8
  | [] => []
  | '%' :: high :: low :: rest =>
      match hexValue high, hexValue low with
      | some high, some low => UInt8.ofNat (16 * high + low) :: decodeBytes rest
      | _, _ => String.utf8EncodeChar '%' ++ decodeBytes (high :: low :: rest)
  | ch :: rest => String.utf8EncodeChar ch ++ decodeBytes rest

/-- The text of a percent-encoded text. -/
def decode (text : List Char) : Option (List Char) :=
  Utf8.decode (decodeBytes text)

/-- A text without percent signs is decoded to itself. -/
theorem decode_plain {text : List Char} (h : ∀ ch ∈ text, ch ≠ '%') :
  decode text = some text
  := by
  have hbytes : decodeBytes text = text.flatMap String.utf8EncodeChar := by
    induction text with
    | nil => rfl
    | cons ch text ih =>
        rw [List.forall_mem_cons] at h
        rw [decodeBytes, ih h.2, List.flatMap_cons]
        rintro _ _ _ rfl
        apply absurd rfl h.1
  rw [decode, hbytes, Utf8.decode_flatMap]

/-! ### The segments that stand for others -/

theorem eq_of_toLower_eq
    {ch other : Char} (hother : other.isLower = false) (h : ch.toLower = other) :
  ch = other
  := by
  unfold Char.toLower at h
  unfold Char.isLower at hother
  split at h
  · rename_i hupper
    subst h
    exfalso
    simp only [ge_iff_le, Bool.and_eq_false_iff, decide_eq_false_iff_not,
      UInt32.le_iff_toNat_le] at hother hupper
    simp at hother hupper
    omega
  · exact h

/-- What is checked of the characters of a text holds of all of them. -/
theorem forall_mem_of_all
    {p : Char → Prop} [DecidablePred p] {text : List Char} (h : text.all fun ch => p ch) :
  ∀ ch ∈ text, p ch
  := by
  intro ch hch
  apply of_decide_eq_true
  apply List.all_eq_true.mp h ch hch

/-- A text without letters has no other case. -/
theorem eq_of_map_toLower_eq
    {text other : List Char} (hother : ∀ ch ∈ other, ch.isLower = false)
    (h : text.map Char.toLower = other) :
  text = other
  := by
  induction text generalizing other with
  | nil => apply h
  | cons ch text ih =>
      subst h
      rw [List.map_cons, List.forall_mem_cons] at hother
      rw [List.map_cons, ← eq_of_toLower_eq hother.1 rfl, ← ih hother.2 rfl]

theorem percent_notMem_map_toLower {text : List Char} (h : '%' ∉ text) :
  '%' ∉ text.map Char.toLower
  := by
  intro hmem
  obtain ⟨ch, hch, heq⟩ := List.mem_map.mp hmem
  apply h
  rwa [eq_of_toLower_eq rfl heq] at hch

/-- Without a percent sign, there is one text for a segment that stands for itself, -/
theorem isSingleDot_iff {segment : List Char} (h : '%' ∉ segment) :
  isSingleDot segment ↔ segment = ".".toList
  := by
  have hpercent := percent_notMem_map_toLower h
  simp only [isSingleDot, List.mem_cons, List.not_mem_nil, or_false, decide_eq_true_eq]
  constructor
  · rintro (hdot | hencoded)
    · apply eq_of_map_toLower_eq (forall_mem_of_all rfl) hdot
    · rw [hencoded] at hpercent
      apply absurd (by decide) hpercent
  · rintro rfl
    left
    rfl

/-- and one for a segment that stands for the one above. -/
theorem isDoubleDot_iff {segment : List Char} (h : '%' ∉ segment) :
  isDoubleDot segment ↔ segment = "..".toList
  := by
  have hpercent := percent_notMem_map_toLower h
  simp only [isDoubleDot, List.mem_cons, List.not_mem_nil, or_false, decide_eq_true_eq]
  constructor
  · rintro (hdots | hencoded | hencoded | hencoded)
    · apply eq_of_map_toLower_eq (forall_mem_of_all rfl) hdots
    all_goals
      rw [hencoded] at hpercent
      apply absurd (by decide) hpercent
  · rintro rfl
    left
    rfl

/-! ### Texts that are written as they are meant -/

/-- A segment whose characters are neither encoded nor end it, and that stands for no other
segment. -/
structure Plain (segment : List Char) : Prop where
  inPathSet : ∀ ch ∈ segment, inPathSet ch = false
  isSlash : ∀ ch ∈ segment, isSlash ch = false
  isSingleDot : isSingleDot segment = false
  isDoubleDot : isDoubleDot segment = false

theorem encodeSegment_plain
    {segment : List Char} (h : ∀ ch ∈ segment, inPathSet ch = false) :
  encodeSegment segment = segment
  := by
  induction segment with
  | nil => rfl
  | cons ch segment ih =>
      rw [List.forall_mem_cons] at h
      rw [encodeSegment, List.flatMap_cons, ← encodeSegment, ih h.2, h.1]
      rfl

/-- Plain segments stay as they are. -/
theorem normalize_plain
    (done : List (List Char)) {path : List (List Char)} (h : ∀ segment ∈ path, Plain segment) :
  normalize done path = done.reverse ++ path
  := by
  induction path generalizing done with
  | nil => rw [normalize, List.append_nil]
  | cons segment rest ih =>
      rw [List.forall_mem_cons] at h
      obtain ⟨hset, -, hsingle, hdouble⟩ := h.1
      cases rest with
      | nil =>
          rw [normalize, hsingle, hdouble, encodeSegment_plain hset]
          simp
      | cons segment' rest =>
          rw [normalize, hsingle, hdouble, encodeSegment_plain hset]
          · simp only [Bool.false_eq_true, if_false]
            rw [ih _ h.2]
            simp
          · rintro ⟨⟩

theorem splitOnP_cons_of_pos {p : Char → Bool} {sep : Char} (hsep : p sep) (text : List Char) :
  List.splitOnP p (sep :: text) = [] :: List.splitOnP p text
  := by
  have hnone : ∀ ch ∈ [], p ch = false := by
    rintro ch ⟨⟩
  apply List.splitOnP_append_cons_of_forall_mem hnone sep hsep text

/-- The text of a path is split at the slashes before its segments. -/
theorem splitOnP_target
    {p : Char → Bool} (hp : p '/') {path : List (List Char)}
    (h : ∀ segment ∈ path, ∀ ch ∈ segment, p ch = false) :
  List.splitOnP p (target path) = [] :: path
  := by
  induction path with
  | nil => rfl
  | cons segment rest ih =>
      rw [List.forall_mem_cons] at h
      rw [target, List.flatMap_cons, ← target, List.cons_append, splitOnP_cons_of_pos hp]
      congr 1
      cases rest with
      | nil =>
          rw [target, List.flatMap_nil, List.append_nil]
          apply List.splitOnP_eq_singleton h.1
      | cons segment' rest =>
          have hrest := ih h.2
          rw [target, List.flatMap_cons, ← target, List.cons_append] at hrest ⊢
          rw [splitOnP_cons_of_pos hp] at hrest
          rw [List.splitOnP_append_cons_of_forall_mem h.1 '/' hp, (List.cons.inj hrest).2]

theorem clean_of_forall
    {text : List Char} (h : ∀ ch ∈ text, isBlank ch = false) :
  clean text = text
  := by
  have hfilter : ∀ ch ∈ text, (!isTabOrNewline ch) = true := by
    intro ch hch
    have hblank := h ch hch
    rw [Bool.not_eq_true', Bool.eq_false_iff]
    intro htab
    simp only [isTabOrNewline, Bool.or_eq_true, decide_eq_true_eq] at htab
    rcases htab with (rfl | rfl) | rfl <;> cases hblank
  rw [clean, List.dropWhile_eq_self_iff.mpr, List.rdropWhile_eq_self_iff.mpr]
  · apply List.filter_eq_self.mpr hfilter
  · intro hne hblank
    rw [h _ (List.getLast_mem hne)] at hblank
    cases hblank
  · intro hlt hblank
    rw [h _ (List.getElem_mem hlt)] at hblank
    cases hblank

/-- The characters of a segment do not end it, and are not dropped. -/
def Unbroken (segment : List Char) : Prop :=
  ∀ ch ∈ segment, isSlash ch = false ∧ endsPath ch = false ∧ isBlank ch = false

/-- The characters of an authority do not end it, and are not dropped. -/
structure Authority (authority : List Char) : Prop where
  ne_nil : authority ≠ []
  inAuthority : ∀ ch ∈ authority, inAuthority ch = true
  isBlank : ∀ ch ∈ authority, isBlank ch = false

theorem parsePath_target
    {path : List (List Char)} (h : ∀ segment ∈ path, ∀ ch ∈ segment, isSlash ch = false)
    (hne : path ≠ []) :
  parsePath (target path) = normalize [] path
  := by
  have hsplit := splitOnP_target (p := isSlash) rfl h
  cases path with
  | nil => apply absurd rfl hne
  | cons segment rest =>
      rw [target, List.flatMap_cons, ← target, List.cons_append] at hsplit ⊢
      rw [splitOnP_cons_of_pos (p := isSlash) rfl] at hsplit
      rw [← (List.cons.inj hsplit).2]
      rfl

/-- The characters in front of a separator are taken, and the separator is left. -/
theorem takeWhile_append_cons
    {p : Char → Bool} {chars : List Char} (h : ∀ ch ∈ chars, p ch) {sep : Char}
    (hsep : p sep = false) (rest : List Char) :
  (chars ++ sep :: rest).takeWhile p = chars ∧ (chars ++ sep :: rest).dropWhile p = sep :: rest
  := by
  rw [List.takeWhile_append_of_pos h, List.dropWhile_append_of_pos h,
    List.takeWhile_cons_of_neg (by simp [hsep]), List.dropWhile_cons_of_neg (by simp [hsep]),
    List.append_nil]
  exact ⟨rfl, rfl⟩

theorem target_cons (segment : List Char) (rest : List (List Char)) :
  target (segment :: rest) = '/' :: (segment ++ target rest)
  := rfl

/-- A character of the text of a path is a slash or one of a segment. -/
theorem mem_target {path : List (List Char)} {ch : Char} (h : ch ∈ target path) :
  ch = '/' ∨ ∃ segment ∈ path, ch ∈ segment
  := by
  obtain ⟨segment, hsegment, hch⟩ := List.mem_flatMap.mp h
  rcases List.mem_cons.mp hch with rfl | hch
  · left
    rfl
  · right
    use segment, hsegment

/-- The text of a URL is read as it is written, except for the segments that stand for
others. -/
theorem parse_target
    {scheme authority : List Char} {path : List (List Char)}
    (hscheme : scheme = "http".toList ∨ scheme = "https".toList) (hauthority : Authority authority)
    (hpath : ∀ segment ∈ path, Unbroken segment) (hne : path ≠ []) :
  parse (scheme ++ ':' :: '/' :: '/' :: (authority ++ target path))
    = some ⟨scheme, authority, normalize [] path⟩
  := by
  have hletters : ∀ ch ∈ scheme, ch ≠ ':' ∧ isBlank ch = false := by
    apply forall_mem_of_all
    rcases hscheme with rfl | rfl <;> rfl
  have hlower : scheme.map Char.toLower = scheme := by
    rcases hscheme with rfl | rfl <;> decide
  obtain ⟨segment, rest, rfl⟩ := List.exists_cons_of_ne_nil hne
  obtain ⟨first, chars, rfl⟩ := List.exists_cons_of_ne_nil hauthority.ne_nil
  have hclean : clean (scheme ++ ':' :: '/' :: '/' :: (first :: chars ++ target (segment :: rest)))
      = scheme ++ ':' :: '/' :: '/' :: (first :: chars ++ target (segment :: rest)) := by
    apply clean_of_forall
    intro ch hch
    simp only [List.mem_append, List.mem_cons (b := ':'), List.mem_cons (b := '/')] at hch
    rcases hch with hch | rfl | rfl | rfl | hch | hch
    · apply (hletters ch hch).2
    · rfl
    · rfl
    · rfl
    · apply hauthority.isBlank ch hch
    · rcases mem_target hch with rfl | ⟨segment', hsegment, hch⟩
      · rfl
      · apply (hpath segment' hsegment ch hch).2.2
  have hcolon := takeWhile_append_cons (p := (· ≠ ':'))
    (fun ch hch => decide_eq_true (hletters ch hch).1) (decide_eq_false (not_not.mpr rfl))
    ('/' :: '/' :: (first :: chars ++ target (segment :: rest)))
  have hslashes : ('/' :: '/' :: (first :: chars ++ target (segment :: rest))).dropWhile isSlash
      = first :: chars ++ target (segment :: rest) := by
    have hfirst := hauthority.inAuthority first List.mem_cons_self
    simp only [inAuthority, Bool.and_eq_true, Bool.not_eq_true'] at hfirst
    rw [List.dropWhile_cons_of_pos rfl, List.dropWhile_cons_of_pos rfl, List.cons_append,
      List.dropWhile_cons_of_neg (by simp [hfirst.1])]
  have hslash : inAuthority '/' = false := rfl
  have hsplit := takeWhile_append_cons hauthority.inAuthority hslash (segment ++ target rest)
  have hpathText : (target (segment :: rest)).takeWhile (fun ch => !endsPath ch)
      = target (segment :: rest) := by
    apply List.takeWhile_eq_self_iff.mpr
    intro ch hch
    rcases mem_target hch with rfl | ⟨segment', hsegment, hch⟩
    · rfl
    · rw [(hpath segment' hsegment ch hch).2.1, Bool.not_false]
  rw [parse, hclean]
  simp only [hcolon, hslashes, List.drop_one, List.tail_cons]
  rw [target_cons, hsplit.1, hsplit.2, ← target_cons, hpathText, parsePath_target _ hne, hlower,
    if_pos]
  · refine ⟨hscheme, ?_, List.cons_ne_nil _ _⟩
    simp
  · intro segment' hsegment ch hch
    apply (hpath segment' hsegment ch hch).1

end Url
