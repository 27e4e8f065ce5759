import Phantasma.Base.Words
import Phantasma.Client.Endpoints
import Phantasma.Client.Turns

/-!
# What the user types

The loop takes the white space off a line, looks for a command at its front, and reads what
is behind it; `send_message` cuts that at a space.  `Spelled` is the grammar of the lines
that come out of this, and `readRequest_eq_some_iff` says that a line is read as a request just
when it spells it.
-/

namespace Phantasma

open Words (IsBlank IsTrimmed)

/-! ### Requests -/

/-- What a line of the user asks for. -/
inductive Request where
  | quit
  | help
  | contacts
  | contact (username : String)
  | message (recipient body : String)
deriving DecidableEq

/-- The request on a line, unless it is empty, unknown, or without a message. -/
def readRequest (line : String) : Option Request :=
  match parseCommand line with
  | .nothing => none
  | .quit => some .quit
  | .help => some .help
  | .contacts => some .contacts
  | .add username => some (.contact username)
  | .send rest =>
      match parseSend rest with
      | some (recipient, body) => some (.message recipient body)
      | none => none
  | .unknown => none

/-- A text that is not empty and has no white space at its ends. -/
structure IsWord (text : String) : Prop where
  ne : text.toList ≠ []
  trimmed : IsTrimmed isWhitespace text.toList

/-- `request.Spelled text`: the text spells the request, with no white space around it. -/
inductive Request.Spelled : Request → List Char → Prop where
  | quit : quit.Spelled "/quit".toList
  | help : help.Spelled "/help".toList
  | contacts : contacts.Spelled "/contacts".toList
  | contact {command gap username} (hcommand : command ∈ ["/add", "/lookup"])
      (hgap : IsBlank isWhitespace gap) (husername : IsWord username) :
      (contact username).Spelled (command.toList ++ ' ' :: (gap ++ username.toList))
  | message {command gap recipient gap' body} (hcommand : command ∈ ["/send", "/to"])
      (hgap : IsBlank isWhitespace gap) (hrecipient : IsWord recipient)
      (hname : ' ' ∉ recipient.toList) (hgap' : IsBlank isWhitespace gap') (hcut : ' ' ∈ gap')
      (hbody : IsWord body) :
      (message recipient body).Spelled
        (command.toList ++ ' ' :: (gap ++ (recipient.toList ++ gap' ++ body.toList)))

/-- The line is spelled so, with white space around it. -/
def Request.IsTyped (request : Request) (line : String) : Prop :=
  ∃ before text after, request.Spelled text ∧ line.toList = before ++ text ++ after
    ∧ IsBlank isWhitespace before ∧ IsBlank isWhitespace after

/-! ### Reading the argument of a message -/

theorem splitOnce_eq_some_iff {text front rest : List Char} :
  splitOnce text = some (front, rest) ↔ text = front ++ ' ' :: rest ∧ ' ' ∉ front
  := by
  rw [← Words.cut_eq_some_iff, splitOnce, Words.cut]
  rcases text.dropWhile (· ≠ ' ') with _ | _ <;> rfl

theorem trim_eq_iff {text core : List Char} :
  trim text = core ↔ IsTrimmed isWhitespace core
    ∧ ∃ before after, text = before ++ core ++ after
      ∧ IsBlank isWhitespace before ∧ IsBlank isWhitespace after
  := Words.trim_eq_iff

/-- The recipient and the body are the two words around the first space. -/
theorem exists_words_of_parseSend
    {rest recipient body : String} (h : parseSend rest = some (recipient, body)) :
  IsWord recipient ∧ ' ' ∉ recipient.toList ∧ IsWord body
    ∧ ∃ before gap after,
      rest.toList = before ++ (recipient.toList ++ gap ++ body.toList) ++ after
        ∧ IsBlank isWhitespace before ∧ IsBlank isWhitespace gap ∧ ' ' ∈ gap
        ∧ IsBlank isWhitespace after
  := by
  obtain ⟨⟨front, back⟩, hcut, h⟩ := Option.bind_eq_some_iff.mp h
  obtain ⟨hempty, hwords⟩ := Option.ite_none_left_eq_some.mp h
  rw [Bool.or_eq_true, not_or, List.isEmpty_iff, List.isEmpty_iff] at hempty
  obtain ⟨hrecipient, hbody⟩ := Prod.mk.inj (Option.some.inj hwords)
  replace hrecipient : trim front = recipient.toList := by
    rw [← hrecipient, String.toList_ofList]
  replace hbody : trim back = body.toList := by
    rw [← hbody, String.toList_ofList]
  rw [hrecipient, hbody] at hempty
  obtain ⟨htext, hfront⟩ := splitOnce_eq_some_iff.mp hcut
  obtain ⟨-, before, after, hrest, hbefore, hafter⟩ := trim_eq_iff.mp htext
  obtain ⟨htrimmed, before', gap, rfl, hbefore', hgap⟩ := trim_eq_iff.mp hrecipient
  obtain ⟨htrimmed', gap', after', rfl, hgap', hafter'⟩ := trim_eq_iff.mp hbody
  refine ⟨⟨hempty.1, htrimmed⟩, ?_, ⟨hempty.2, htrimmed'⟩, before ++ before', gap ++ ' ' :: gap',
    after' ++ after, ?_, hbefore.append hbefore', hgap.append (hgap'.cons (by decide)), ?_,
    hafter'.append hafter⟩
  · intro hmem
    apply hfront (List.mem_append_left _ (List.mem_append_right _ hmem))
  · rw [hrest]
    simp only [List.append_assoc, List.cons_append]
  · apply List.mem_append_right _ List.mem_cons_self

theorem parseSend_of_words
    {rest recipient body : String} {before gap after : List Char}
    (hrecipient : IsWord recipient) (hname : ' ' ∉ recipient.toList) (hbody : IsWord body)
    (hrest : rest.toList = before ++ (recipient.toList ++ gap ++ body.toList) ++ after)
    (hbefore : IsBlank isWhitespace before) (hgap : IsBlank isWhitespace gap) (hcut : ' ' ∈ gap)
    (hafter : IsBlank isWhitespace after) :
  parseSend rest = some (recipient, body)
  := by
  have hwords : trim rest.toList = recipient.toList ++ gap ++ body.toList := by
    rw [hrest]
    apply Words.trim_append _ hbefore hafter
    rw [List.append_assoc]
    apply Words.isTrimmed_append hrecipient.trimmed.head hrecipient.ne
    · rw [List.getLast?_append_of_ne_nil _ hbody.ne]
      apply hbody.trimmed.last
    · simp [hbody.ne]
  obtain ⟨gap₁, gap₂, rfl, hgap₁⟩ := List.eq_append_cons_of_mem hcut
  have hsplit : splitOnce (trim rest.toList)
      = some (recipient.toList ++ gap₁, gap₂ ++ body.toList) := by
    rw [splitOnce_eq_some_iff, hwords]
    constructor
    · simp
    · rw [List.mem_append, not_or]
      exact ⟨hname, hgap₁⟩
  have hfront : trim (recipient.toList ++ gap₁) = recipient.toList := by
    rw [trim_eq_iff]
    refine ⟨hrecipient.trimmed, [], gap₁, rfl, Words.isBlank_nil, ?_⟩
    intro ch hch
    apply hgap ch (List.mem_append_left _ hch)
  have hback : trim (gap₂ ++ body.toList) = body.toList := by
    rw [trim_eq_iff]
    refine ⟨hbody.trimmed, gap₂, [], (List.append_nil _).symm, ?_, Words.isBlank_nil⟩
    intro ch hch
    apply hgap ch (List.mem_append_right _ (List.mem_cons_of_mem _ hch))
  rw [parseSend, hsplit]
  simp [hfront, hback, hrecipient.ne, hbody.ne]

/-! ### Reading a line -/

/-- `Reads text command`: the text, with no white space around it, is read as the command. -/
inductive Reads : List Char → Command → Prop where
  | nothing : Reads [] .nothing
  | quit : Reads "/quit".toList .quit
  | help : Reads "/help".toList .help
  | contacts : Reads "/contacts".toList .contacts
  | add {command text} (hcommand : command ∈ ["/add", "/lookup"]) :
      Reads (command.toList ++ ' ' :: text) (.add (String.ofList (trim text)))
  | send {command text} (hcommand : command ∈ ["/send", "/to"]) :
      Reads (command.toList ++ ' ' :: text) (.send (String.ofList text))
  | unknown {text} : Reads text .unknown

theorem reads_parseCommand (line : String) :
  Reads (trim line.toList) (parseCommand line)
  := by
  rw [parseCommand]
  generalize trim line.toList = command
  split_ifs with hempty hquit hhelp hcontacts
  · rw [List.isEmpty_iff.mp hempty]
    apply Reads.nothing
  · rw [hquit]
    apply Reads.quit
  · rw [hhelp]
    apply Reads.help
  · rw [hcontacts]
    apply Reads.contacts
  · rcases hadd : stripPrefix "/add " command with _ | text
    · rcases hsend : stripPrefix "/send " command with _ | text
      · rcases hto : stripPrefix "/to " command with _ | text
        · rcases hlookup : stripPrefix "/lookup " command with _ | text
          · apply Reads.unknown
          · rw [stripPrefix_eq_some.mp hlookup]
            apply Reads.add (by simp : "/lookup" ∈ ["/add", "/lookup"])
        · rw [stripPrefix_eq_some.mp hto]
          apply Reads.send (by simp : "/to" ∈ ["/send", "/to"])
      · rw [stripPrefix_eq_some.mp hsend]
        apply Reads.send (by simp : "/send" ∈ ["/send", "/to"])
    · rw [stripPrefix_eq_some.mp hadd]
      apply Reads.add (by simp : "/add" ∈ ["/add", "/lookup"])

theorem parseCommand_of_add
    {line command : String} {text : List Char} (hcommand : command ∈ ["/add", "/lookup"])
    (h : trim line.toList = command.toList ++ ' ' :: text) :
  parseCommand line = .add (String.ofList (trim text))
  := by
  rw [parseCommand, h]
  simp only [List.mem_cons, List.not_mem_nil, or_false] at hcommand
  rcases hcommand with rfl | rfl <;> simp [stripPrefix]

theorem parseCommand_of_send
    {line command : String} {text : List Char} (hcommand : command ∈ ["/send", "/to"])
    (h : trim line.toList = command.toList ++ ' ' :: text) :
  parseCommand line = .send (String.ofList text)
  := by
  rw [parseCommand, h]
  simp only [List.mem_cons, List.not_mem_nil, or_false] at hcommand
  rcases hcommand with rfl | rfl <;> simp [stripPrefix]

/-- There is a word behind the space of a line that is trimmed. -/
theorem trim_ne_nil
    {line : String} {command text : List Char} (h : trim line.toList = command ++ ' ' :: text) :
  trim text ≠ []
  := by
  intro hnil
  obtain ⟨-, before, after, htext, hbefore, hafter⟩ := trim_eq_iff.mp hnil
  have htrimmed := (trim_eq_iff.mp h).1
  apply htrimmed.not_isBlank (List.cons_ne_nil _ _)
  rw [htext, List.append_nil]
  apply (hbefore.append hafter).cons (by decide)

/-- A command with a word at the end is trimmed. -/
theorem isTrimmed_command
    {command word : String} {text : List Char}
    (hcommand : command ∈ ["/add", "/lookup", "/send", "/to"]) (hword : IsWord word) :
  IsTrimmed isWhitespace (command.toList ++ ' ' :: (text ++ word.toList))
  := by
  have hslash : ∀ command ∈ ["/add", "/lookup", "/send", "/to"],
      command.toList.head? = some '/' := by
    decide +kernel
  rw [← List.cons_append, ← List.append_assoc]
  apply Words.isTrimmed_append _ _ hword.trimmed.last hword.ne
  · rw [List.head?_append, hslash command hcommand, Option.some_or]
    rintro ch ⟨⟩
    decide
  · simp

/-- A text that spells a request is trimmed. -/
theorem Request.Spelled.isTrimmed
    {request : Request} {text : List Char} (h : request.Spelled text) :
  IsTrimmed isWhitespace text
  := by
  cases h with
  | quit | help | contacts => constructor <;> simp [isWhitespace]
  | contact hcommand hgap husername =>
      apply isTrimmed_command (List.mem_append_left _ hcommand) husername
  | message hcommand hgap hrecipient hname hgap' hcut hbody =>
      rw [← List.append_assoc _ _ (String.toList _)]
      apply isTrimmed_command (List.mem_append_right ["/add", "/lookup"] hcommand) hbody

theorem isTyped_of_add {line username : String} (h : parseCommand line = .add username) :
  (Request.contact username).IsTyped line
  := by
  have hreads := reads_parseCommand line
  rw [h] at hreads
  generalize htrim : trim line.toList = text at hreads
  cases hreads with
  | add hcommand =>
      obtain ⟨-, before, after, hline, hbefore, hafter⟩ := trim_eq_iff.mp htrim
      rename_i command text
      obtain ⟨gap, after', htext, hgap, hafter'⟩ := Words.exists_blanks isWhitespace text
      have hword : IsWord (String.ofList (trim text)) := by
        constructor <;> rw [String.toList_ofList]
        · apply trim_ne_nil htrim
        · apply Words.isTrimmed_trim
      refine ⟨before, _, after' ++ after, .contact hcommand hgap hword, ?_, hbefore,
        hafter'.append hafter⟩
      rw [hline, String.toList_ofList]
      nth_rewrite 1 [htext]
      simp only [trim, Words.trim, List.append_assoc, List.cons_append]

/-- A line with a recipient and a body spells the message. -/
theorem isTyped_of_send
    {line rest recipient body : String} (h : parseCommand line = .send rest)
    (hparse : parseSend rest = some (recipient, body)) :
  (Request.message recipient body).IsTyped line
  := by
  have hreads := reads_parseCommand line
  rw [h] at hreads
  generalize htrim : trim line.toList = text at hreads
  cases hreads with
  | send hcommand =>
      obtain ⟨-, before, after, hline, hbefore, hafter⟩ := trim_eq_iff.mp htrim
      obtain ⟨hrecipient, hname, hbody, gap, gap', after', hrest, hgap, hgap', hcut, hafter'⟩ :=
        exists_words_of_parseSend hparse
      refine ⟨before, _, after' ++ after,
        .message hcommand hgap hrecipient hname hgap' hcut hbody, ?_, hbefore,
        hafter'.append hafter⟩
      rw [String.toList_ofList] at hrest
      rw [hline, hrest]
      simp only [List.append_assoc, List.cons_append]

theorem isTyped_of_trim
    {request : Request} {line : String} {text : List Char} (hspelled : request.Spelled text)
    (htrim : trim line.toList = text) :
  request.IsTyped line
  := by
  obtain ⟨-, before, after, hline, hbefore, hafter⟩ := trim_eq_iff.mp htrim
  exact ⟨before, text, after, hspelled, hline, hbefore, hafter⟩

/-- A line that is read as a request spells it. -/
theorem isTyped_of_readRequest
    {request : Request} {line : String} (h : readRequest line = some request) :
  request.IsTyped line
  := by
  have hreads := reads_parseCommand line
  rw [readRequest] at h
  generalize htrim : trim line.toList = text at hreads
  generalize hcommand : parseCommand line = command at hreads h
  cases hreads with
  | nothing | unknown => cases h
  | quit =>
      cases h
      apply isTyped_of_trim .quit htrim
  | help =>
      cases h
      apply isTyped_of_trim .help htrim
  | contacts =>
      cases h
      apply isTyped_of_trim .contacts htrim
  | add =>
      cases h
      apply isTyped_of_add hcommand
  | send =>
      dsimp only at h
      split at h
      · rename_i hparse
        cases h
        apply isTyped_of_send hcommand hparse
      · cases h

/-- A line that spells a request is read as it. -/
theorem readRequest_of_isTyped
    {request : Request} {line : String} (h : request.IsTyped line) :
  readRequest line = some request
  := by
  obtain ⟨before, text, after, hspelled, hline, hbefore, hafter⟩ := h
  have htrim : trim line.toList = text := by
    rw [hline]
    apply Words.trim_append hspelled.isTrimmed hbefore hafter
  cases hspelled with
  | quit | help | contacts =>
      rw [readRequest, parseCommand, htrim]
      simp
  | contact hcommand hgap husername =>
      rw [readRequest, parseCommand_of_add hcommand htrim]
      have hname := Words.trim_append husername.trimmed hgap Words.isBlank_nil
      rw [List.append_nil] at hname
      dsimp only
      rw [trim, ← Words.trim, hname, String.ofList_toList]
  | message hcommand hgap hrecipient hname hgap' hcut hbody =>
      rw [readRequest, parseCommand_of_send hcommand htrim]
      dsimp only
      rw [parseSend_of_words hrecipient hname hbody _ hgap hgap' hcut Words.isBlank_nil]
      rw [String.toList_ofList, List.append_nil]

/-- A line is read as a request just when it spells it. -/
theorem readRequest_eq_some_iff (line : String) (request : Request) :
  readRequest line = some request ↔ request.IsTyped line
  := ⟨isTyped_of_readRequest, readRequest_of_isTyped⟩

example : readRequest "  /to  bob\t hello  bob " = some (.message "bob" "hello  bob")
  := by decide +kernel

end Phantasma
