import Phantasma.Client.ServerApi

/-!
# The normal form of the addresses of the relay

`from_optional_arg` takes the slashes off the end of the argument, then the scheme off its
front, and, if that is one of the two of websockets, `/ws` off the end of what is left.
`HasNormalForm` says that the two addresses it makes are a scheme each with the same rest,
which is not empty and does not end in a slash, so that they can be followed by a path and
be given as the argument again.  A slash in front of `/ws` is not taken off, and nothing
need be in front of it; `isNormal_iff` says that the addresses have a normal form in all
other cases.
-/

namespace Phantasma

/-! ### Prefixes and suffixes -/

theorem stripPrefix_eq_some {start : String} {text rest : List Char} :
  stripPrefix start text = some rest ↔ text = start.toList ++ rest
  := by
  constructor
  · intro h
    obtain ⟨hstart, ⟨⟩⟩ := Option.ite_none_right_eq_some.mp h
    apply (List.prefix_iff_eq_append.mp (List.isPrefixOf_iff_prefix.mp hstart)).symm
  · rintro rfl
    apply RelayEndpoints.stripPrefix_append

theorem stripSuffix_eq_some {ending : String} {text rest : List Char} :
  stripSuffix ending text = some rest ↔ text = rest ++ ending.toList
  := by
  simp only [stripSuffix, Option.map_eq_some_iff, stripPrefix_eq_some, String.toList_ofList]
  constructor
  · rintro ⟨front, hfront, rfl⟩
    rw [← List.reverse_inj, hfront, List.reverse_append, List.reverse_reverse]
  · rintro rfl
    use rest.reverse
    simp

/-- `trim_end_matches('/')`. -/
def trimEndSlashes (text : String) : List Char :=
  text.toList.rdropWhile (· = '/')

theorem getLast?_trimEndSlashes (text : String) :
  (trimEndSlashes text).getLast? ≠ some '/'
  := by
  intro hlast
  have hne : trimEndSlashes text ≠ [] := by
    rintro hnil
    rw [hnil] at hlast
    cases hlast
  apply List.rdropWhile_last_not (· = '/') text.toList hne
  rw [List.getLast?_eq_some_getLast hne, Option.some.injEq] at hlast
  apply decide_eq_true hlast

theorem trimEndSlashes_prefix_toList (text : String) :
  trimEndSlashes text <+: text.toList
  := List.rdropWhile_prefix _ _

/-- A text that does not end in a slash is left as it is. -/
theorem trimEndSlashes_eq_self {text : String} (h : text.toList.getLast? ≠ some '/') :
  trimEndSlashes text = text.toList
  := by
  apply List.rdropWhile_eq_self_iff.mpr
  intro hne hlast
  apply h
  rw [List.getLast?_eq_some_getLast hne, of_decide_eq_true hlast]

/-! ### The normal form -/

/-- The address that `register_public_key` requests. -/
def ServerEndpoints.registerUrl (endpoints : ServerEndpoints) : String :=
  s!"{endpoints.httpBaseUrl}/users"

namespace RelayEndpoints

/-- The scheme of HTTP, with TLS or without. -/
def httpScheme : Bool → String
  | false => "http://"
  | true => "https://"

/-- The scheme of websockets, with TLS or without. -/
def websocketScheme : Bool → String
  | false => "ws://"
  | true => "wss://"

/-- The two schemes with TLS, or the two without. -/
def schemes (tls : Bool) : List String :=
  [httpScheme tls, websocketScheme tls]

theorem httpScheme_mem (tls : Bool) :
  httpScheme tls ∈ schemes tls
  := List.mem_cons_self

theorem websocketScheme_mem (tls : Bool) :
  websocketScheme tls ∈ schemes tls
  := List.mem_cons_of_mem _ List.mem_cons_self

/-- The argument, or what is used in its place. -/
def given (arg : Option String) : String :=
  arg.getD "http://127.0.0.1:3000"

/-- The text begins with one of the two schemes with TLS, or one of the two without. -/
def Begins (tls : Bool) (raw : String) : Prop :=
  ∃ scheme ∈ schemes tls, scheme.toList <+: raw.toList

/-- The text is not empty and does not end in a slash. -/
def Plain (rest : List Char) : Prop :=
  rest ≠ [] ∧ rest.getLast? ≠ some '/'

/-- The address goes on after the base with exactly one slash. -/
def OneSlashAfter (base url : String) : Prop :=
  base.toList.getLast? ≠ some '/'
    ∧ ∃ path : String, url = base ++ "/" ++ path ∧ path.toList.head? ≠ some '/'

/-- The addresses made of the text `raw` are in normal form: they are the schemes with
the TLS of `raw` followed by `rest`, every address made of them has one slash after it, and
they are what is made of the first of them. -/
structure HasNormalForm (raw : String) (endpoints : RelayEndpoints) (rest : String) : Prop where
  plain : Plain rest.toList
  begins : ∃ tls, Begins tls raw
  bases : ∀ tls, Begins tls raw →
    endpoints.httpBaseUrl = httpScheme tls ++ rest
      ∧ endpoints.websocketBaseUrl = websocketScheme tls ++ rest
  registerUrl : OneSlashAfter endpoints.httpBaseUrl endpoints.registerUrl
  lookupUrl : ∀ username, OneSlashAfter endpoints.httpBaseUrl (endpoints.lookupUrl username)
  websocketUrl : ∀ username,
    OneSlashAfter endpoints.websocketBaseUrl (endpoints.websocketUrl username)
  again : fromOptionalArg (some endpoints.httpBaseUrl) = .ok endpoints

/-- If the argument is accepted, then the addresses made of it have a normal form. -/
def IsNormal (arg : Option String) : Prop :=
  ∀ endpoints, fromOptionalArg arg = .ok endpoints →
    ∃ rest, HasNormalForm (given arg) endpoints rest

/-- Without the slashes at its end the text is a scheme of websockets, followed by nothing
or by a text that ends in a slash, followed by `/ws`. -/
def LeavesSlash (raw : String) : Prop :=
  ∃ tls front, trimEndSlashes raw = (websocketScheme tls).toList ++ (front ++ "/ws".toList)
    ∧ (front = [] ∨ front.getLast? = some '/')

/-! ### The addresses that are made -/

/-- `strip_suffix("/ws").unwrap_or(rest)`. -/
def withoutSuffix (rest : List Char) : List Char :=
  (stripSuffix "/ws" rest).getD rest

theorem fromOptionalArg_of_http
    {arg : Option String} {tls : Bool} {rest : List Char}
    (h : trimEndSlashes (given arg) = (httpScheme tls).toList ++ rest) :
  fromOptionalArg arg = .ok (ofRest (httpScheme tls) (websocketScheme tls) rest)
  := by
  rw [trimEndSlashes, given] at h
  cases tls with
  | false =>
    rw [fromOptionalArg, h]
    simp only [httpScheme, websocketScheme, stripPrefix_append]
  | true =>
    have hhttp : stripPrefix "http://" ("https://".toList ++ rest) = none := rfl
    rw [fromOptionalArg, h]
    simp only [httpScheme, websocketScheme, hhttp, stripPrefix_append]

theorem fromOptionalArg_of_websocket
    {arg : Option String} {tls : Bool} {rest : List Char}
    (h : trimEndSlashes (given arg) = (websocketScheme tls).toList ++ rest) :
  fromOptionalArg arg
    = .ok (ofRest (httpScheme tls) (websocketScheme tls) (withoutSuffix rest))
  := by
  rw [trimEndSlashes, given] at h
  cases tls with
  | false =>
    have hhttp : stripPrefix "http://" ("ws://".toList ++ rest) = none := rfl
    have hhttps : stripPrefix "https://" ("ws://".toList ++ rest) = none := rfl
    rw [fromOptionalArg, h]
    simp only [httpScheme, websocketScheme, hhttp, hhttps, stripPrefix_append, withoutSuffix]
  | true =>
    have hhttp : stripPrefix "http://" ("wss://".toList ++ rest) = none := rfl
    have hhttps : stripPrefix "https://" ("wss://".toList ++ rest) = none := rfl
    have hws : stripPrefix "ws://" ("wss://".toList ++ rest) = none := rfl
    rw [fromOptionalArg, h]
    simp only [httpScheme, websocketScheme, hhttp, hhttps, hws, stripPrefix_append,
      withoutSuffix]

/-- What is accepted begins with one of the four schemes. -/
theorem cases_of_fromOptionalArg
    {arg : Option String} {endpoints : RelayEndpoints}
    (h : fromOptionalArg arg = .ok endpoints) :
  ∃ tls rest, trimEndSlashes (given arg) = (httpScheme tls).toList ++ rest
    ∨ trimEndSlashes (given arg) = (websocketScheme tls).toList ++ rest
  := by
  simp only [fromOptionalArg] at h
  split at h
  case h_1 rest hrest => use false, rest, .inl (stripPrefix_eq_some.mp hrest)
  split at h
  case h_1 rest hrest => use true, rest, .inl (stripPrefix_eq_some.mp hrest)
  split at h
  case h_1 rest hrest => use false, rest, .inr (stripPrefix_eq_some.mp hrest)
  split at h
  case h_1 rest hrest => use true, rest, .inr (stripPrefix_eq_some.mp hrest)
  cases h

/-! ### The rest -/

/-- What follows a scheme is plain, when there is no slash at the end. -/
theorem plain_of_append
    {scheme rest : List Char} (hscheme : scheme.getLast? = some '/')
    (h : (scheme ++ rest).getLast? ≠ some '/') :
  Plain rest
  := by
  constructor
  · rintro rfl
    apply h
    rw [List.append_nil, hscheme]
  · intro hlast
    apply h
    rw [List.getLast?_append, hlast]
    rfl

theorem plain_of_scheme
    {raw : String} {tls : Bool} {scheme : String} (hmem : scheme ∈ schemes tls)
    {rest : List Char} (h : trimEndSlashes raw = scheme.toList ++ rest) :
  Plain rest
  := by
  have hslash : ∀ tls, ∀ scheme ∈ schemes tls, scheme.toList.getLast? = some '/' := by
    decide +kernel
  apply plain_of_append (hslash tls scheme hmem)
  rw [← h]
  apply getLast?_trimEndSlashes

theorem withoutSuffix_append (front : List Char) :
  withoutSuffix (front ++ "/ws".toList) = front
  := by
  rw [withoutSuffix, stripSuffix_eq_some.mpr rfl, Option.getD_some]

/-- A plain text stays plain without the suffix, unless the suffix is all of it or comes
after a slash. -/
theorem plain_withoutSuffix_iff {rest : List Char} (hplain : Plain rest) :
  Plain (withoutSuffix rest)
    ↔ ¬ ∃ front, rest = front ++ "/ws".toList ∧ (front = [] ∨ front.getLast? = some '/')
  := by
  constructor
  · rintro hplain ⟨front, rfl, hfront⟩
    rw [withoutSuffix_append] at hplain
    rcases hfront with hnil | hlast
    · apply hplain.1 hnil
    · apply hplain.2 hlast
  · intro hnot
    cases hstrip : stripSuffix "/ws" rest with
    | none =>
      rw [withoutSuffix, hstrip]
      apply hplain
    | some front =>
      obtain rfl := stripSuffix_eq_some.mp hstrip
      rw [withoutSuffix_append]
      constructor
      · intro hnil
        apply hnot ⟨front, rfl, .inl hnil⟩
      · intro hlast
        apply hnot ⟨front, rfl, .inr hlast⟩

/-! ### The schemes -/

/-- No text begins with a scheme with TLS and with one without. -/
theorem Begins.tls_eq
    {raw : String} {tls tls' : Bool} (h : Begins tls raw) (h' : Begins tls' raw) :
  tls = tls'
  := by
  have hschemes : ∀ tls tls', ∀ scheme ∈ schemes tls, ∀ scheme' ∈ schemes tls',
      scheme.toList <+: scheme'.toList ∨ scheme'.toList <+: scheme.toList → tls = tls' := by
    decide +kernel
  obtain ⟨scheme, hmem, hstart⟩ := h
  obtain ⟨scheme', hmem', hstart'⟩ := h'
  apply hschemes tls tls' scheme hmem scheme' hmem'
  apply List.prefix_or_prefix_of_prefix hstart hstart'

theorem begins_of_scheme
    {raw : String} {tls : Bool} {scheme : String} (hmem : scheme ∈ schemes tls)
    {rest : List Char} (h : trimEndSlashes raw = scheme.toList ++ rest) :
  Begins tls raw
  := by
  use scheme, hmem
  apply List.IsPrefix.trans _ (trimEndSlashes_prefix_toList raw)
  rw [h]
  apply List.prefix_append

/-! ### When the addresses have a normal form -/

/-- No slash is at the end of a scheme that is followed by a plain text. -/
theorem getLast?_of_plain {scheme : String} {rest : List Char} (hplain : Plain rest) :
  (scheme ++ String.ofList rest).toList.getLast? ≠ some '/'
  := by
  rw [String.toList_append, String.toList_ofList, List.getLast?_append_of_ne_nil _ hplain.1]
  apply hplain.2

/-- An address of HTTP with a plain rest is taken as it is. -/
theorem fromOptionalArg_of_plain {tls : Bool} {rest : List Char} (hplain : Plain rest) :
  fromOptionalArg (some (httpScheme tls ++ String.ofList rest))
    = .ok (ofRest (httpScheme tls) (websocketScheme tls) rest)
  := by
  apply fromOptionalArg_of_http
  rw [given, Option.getD_some, trimEndSlashes_eq_self (getLast?_of_plain hplain),
    String.toList_append, String.toList_ofList]

/-- An address of HTTP without a path is taken as it is. -/
theorem httpBaseUrl_of_fromOptionalArg
    {scheme rest : String} (hscheme : scheme = "http://" ∨ scheme = "https://")
    (hrest : rest.toList ≠ []) (hslash : '/' ∉ rest.toList) {endpoints : RelayEndpoints}
    (h : fromOptionalArg (some (scheme ++ rest)) = .ok endpoints) :
  endpoints.httpBaseUrl = scheme ++ rest
  := by
  obtain ⟨tls, rfl⟩ : ∃ tls, scheme = httpScheme tls := by
    rcases hscheme with rfl | rfl
    · exact ⟨false, rfl⟩
    · exact ⟨true, rfl⟩
  have hplain : Plain rest.toList := by
    use hrest
    intro hlast
    apply hslash (List.mem_of_getLast? hlast)
  rw [← String.ofList_toList (s := rest), fromOptionalArg_of_plain hplain] at h
  cases h
  rw [ofRest, String.ofList_toList]

/-- The addresses with a plain rest are in normal form. -/
theorem hasNormalForm_of_plain
    {raw : String} {tls : Bool} {rest : List Char} (hbegins : Begins tls raw)
    (hplain : Plain rest) :
  HasNormalForm raw (ofRest (httpScheme tls) (websocketScheme tls) rest) (String.ofList rest)
  := by
  constructor
  case plain =>
    rw [String.toList_ofList]
    apply hplain
  case begins => use tls
  case bases =>
    intro tls' hbegins'
    obtain rfl := hbegins.tls_eq hbegins'
    constructor <;> rfl
  case registerUrl =>
    use getLast?_of_plain hplain, "users"
    constructor
    · apply String.toList_inj.mp
      simp [ServerEndpoints.registerUrl, toString]
    · decide
  case lookupUrl =>
    intro username
    use getLast?_of_plain hplain, "users/" ++ username ++ "/public-key"
    constructor
    · apply String.toList_inj.mp
      simp [ServerEndpoints.lookupUrl, toString]
    · simp
  case websocketUrl =>
    intro username
    use getLast?_of_plain hplain, "ws/" ++ username
    constructor
    · apply String.toList_inj.mp
      simp [RelayEndpoints.websocketUrl, toString]
    · simp
  case again => apply fromOptionalArg_of_plain hplain

/-- The rest of addresses in normal form is plain. -/
theorem plain_of_hasNormalForm
    {raw rest' : String} {tls : Bool} {rest : List Char} (hbegins : Begins tls raw)
    (hform : HasNormalForm raw (ofRest (httpScheme tls) (websocketScheme tls) rest) rest') :
  Plain rest
  := by
  have hbase := (hform.bases tls hbegins).1
  rw [ofRest, ← String.toList_inj, String.toList_append, String.toList_append,
    String.toList_ofList, List.append_cancel_left_eq] at hbase
  rw [hbase]
  apply hform.plain

/-- TLS is kept, also when a slash is left: the schemes of both addresses go with that of
the argument. -/
theorem eq_ofRest_of_fromOptionalArg
    {arg : Option String} {endpoints : RelayEndpoints} {tls : Bool}
    (h : fromOptionalArg arg = .ok endpoints) (hbegins : Begins tls (given arg)) :
  ∃ rest, endpoints = ofRest (httpScheme tls) (websocketScheme tls) rest
  := by
  obtain ⟨tls', rest, htrimmed | htrimmed⟩ := cases_of_fromOptionalArg h
  · obtain rfl := hbegins.tls_eq (begins_of_scheme (httpScheme_mem _) htrimmed)
    rw [fromOptionalArg_of_http htrimmed, Except.ok.injEq] at h
    use rest, h.symm
  · obtain rfl := hbegins.tls_eq (begins_of_scheme (websocketScheme_mem _) htrimmed)
    rw [fromOptionalArg_of_websocket htrimmed, Except.ok.injEq] at h
    use withoutSuffix rest, h.symm

/-- The addresses are in normal form unless a slash is left at the end of what they have in
common, or nothing is left. -/
theorem isNormal_iff (arg : Option String) :
  IsNormal arg ↔ ¬ LeavesSlash (given arg)
  := by
  constructor
  · rintro hnormal ⟨tls, front, htrimmed, hfront⟩
    have hmem := websocketScheme_mem tls
    obtain ⟨rest, hform⟩ := hnormal _ (fromOptionalArg_of_websocket htrimmed)
    have hplain := plain_of_hasNormalForm (begins_of_scheme hmem htrimmed) hform
    rw [plain_withoutSuffix_iff (plain_of_scheme hmem htrimmed)] at hplain
    apply hplain ⟨front, rfl, hfront⟩
  · intro hnot endpoints h
    obtain ⟨tls, rest, htrimmed | htrimmed⟩ := cases_of_fromOptionalArg h
    · have hmem := httpScheme_mem tls
      rw [fromOptionalArg_of_http htrimmed] at h
      cases h
      use String.ofList rest
      apply hasNormalForm_of_plain (begins_of_scheme hmem htrimmed)
      apply plain_of_scheme hmem htrimmed
    · have hmem := websocketScheme_mem tls
      rw [fromOptionalArg_of_websocket htrimmed] at h
      cases h
      use String.ofList (withoutSuffix rest)
      apply hasNormalForm_of_plain (begins_of_scheme hmem htrimmed)
      rw [plain_withoutSuffix_iff (plain_of_scheme hmem htrimmed)]
      rintro ⟨front, rfl, hfront⟩
      apply hnot ⟨tls, front, htrimmed, hfront⟩

/-- The second of two slashes in front of `/ws` goes with the suffix, and the first is left
at the end of both addresses; given as the argument, the first of them loses it. -/
theorem not_isNormal_of_two_slashes :
  fromOptionalArg (some "ws://host//ws") = .ok (ofRest "http://" "ws://" "host/".toList)
    ∧ ¬ IsNormal (some "ws://host//ws")
  := by
  have haccept : fromOptionalArg (some "ws://host//ws")
      = .ok (ofRest "http://" "ws://" "host/".toList) := rfl
  have hagain : fromOptionalArg (some "http://host/")
      = .ok (ofRest "http://" "ws://" "host".toList) := rfl
  use haccept
  intro hnormal
  obtain ⟨rest, hform⟩ := hnormal _ haccept
  have hsame := hform.again.symm.trans hagain
  rw [Except.ok.injEq] at hsame
  cases hsame

end RelayEndpoints

end Phantasma
