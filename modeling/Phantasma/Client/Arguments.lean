import Phantasma.Base.Program
import Phantasma.Client.Endpoints

/-!
# The arguments of the client

`read_args` takes the arguments one by one: an option takes the argument after it as its
value, whatever that is, and what is no option is positional.  A `Part` is an option with its
value or a positional argument; `readOptions_words` says what the loop makes of a list of
parts and of what ends it, and every list of arguments is of that form (`exists_parts`).
`readArgs_iff` says which arguments are accepted, and as what.
-/

namespace Phantasma

/-- A function that prints lines of text. -/
abbrev Printing := Program (List String) Error

/-- The lines of `print_usage`. -/
def usageLines : List String :=
  ["usage: cargo run -p client -- --username <name> [--server http://127.0.0.1:3000]",
    "short form still works: cargo run -p client -- <name>"]

/-- `print_usage`. -/
def printUsage : Printing Unit :=
  modify fun printed => printed ++ usageLines

/-- The variables of `read_args` that the loop assigns. -/
structure ReadArgs where
  name : Option String
  server : Option String
  positional : List String

/-- The loop of `read_args`, from the argument it has come to.  It ends without a result when
the usage is asked for. -/
def readOptions (read : ReadArgs) : List String → Printing (Option ReadArgs)
  | [] => return some read
  | arg :: args =>
      if arg ∈ ["--help", "-h"] then do
        printUsage
        return none
      else if arg ∈ ["--username", "-u"] then
        match args with
        | [] => throw (.text "--username needs a value")
        | value :: args => readOptions { read with name := some value } args
      else if arg ∈ ["--server", "-s"] then
        match args with
        | [] => throw (.text "--server needs a value")
        | value :: args => readOptions { read with server := some value } args
      else if arg.toList.head? = some '-' then
        throw (.text s!"unknown option {arg}")
      else readOptions { read with positional := read.positional ++ [arg] } args

/-- A value that no option has given is the first of the positional arguments, if there is
one. -/
def takeFirst (value : Option String) (positional : List String) :
    Option String × List String :=
  match value, positional with
  | none, first :: rest => (some first, rest)
  | _, _ => (value, positional)

/-- The part of `read_args` after the loop. -/
def chooseArgs (read : ReadArgs) : Printing (Option (String × RelayEndpoints)) := do
  let (name, positional) := takeFirst read.name read.positional
  let (server, positional) := takeFirst read.server positional
  if !positional.isEmpty then
    throw (.text "too many arguments")
  match name with
  | none => do
      printUsage
      throw (.text "username is required")
  | some name =>
      let endpoints ← Program.ofExcept (RelayEndpoints.fromOptionalArg server)
      return some (name, endpoints)

/-- `read_args`. -/
def readArgs (args : List String) : Printing (Option (String × RelayEndpoints)) := do
  match ← readOptions ⟨none, none, []⟩ args with
  | none => return none
  | some read => chooseArgs read

/-! ### The parts of the arguments -/

/-- An option with its value, in its short form or its long one, or a positional argument. -/
inductive Part where
  | username (short : Bool) (value : String)
  | server (short : Bool) (value : String)
  | positional (text : String) (htext : text.toList.head? ≠ some '-')

namespace Part

def words : Part → List String
  | username short value => [if short then "-u" else "--username", value]
  | server short value => [if short then "-s" else "--server", value]
  | positional text _ => [text]

def username? : Part → Option String
  | username _ value => some value
  | _ => none

def server? : Part → Option String
  | server _ value => some value
  | _ => none

def positional? : Part → Option String
  | positional text _ => some text
  | _ => none

end Part

/-- What can come after the parts: nothing, the wish to see the usage, an option without its
value, or an argument that begins as an option does and is none. -/
inductive Ending where
  | done
  | help (short : Bool) (rest : List String)
  | noUsername (short : Bool)
  | noServer (short : Bool)
  | unknown (arg : String) (rest : List String) (harg : arg.toList.head? = some '-')
      (hnone : arg ∉ ["--help", "-h", "--username", "-u", "--server", "-s"])

namespace Ending

def words : Ending → List String
  | done => []
  | help short rest => (if short then "-h" else "--help") :: rest
  | noUsername short => [if short then "-u" else "--username"]
  | noServer short => [if short then "-s" else "--server"]
  | unknown arg rest _ _ => arg :: rest

/-- What the loop ends with, when `read` is what it has read before. -/
def outcome (read : ReadArgs) (printed : List String) :
    Ending → Except Error (Option ReadArgs) × List String
  | done => (.ok (some read), printed)
  | help _ _ => (.ok none, printed ++ usageLines)
  | noUsername _ => (.error (.text "--username needs a value"), printed)
  | noServer _ => (.error (.text "--server needs a value"), printed)
  | unknown arg _ _ _ => (.error (.text s!"unknown option {arg}"), printed)

end Ending

/-- What has been read after the parts: of an option that is given twice, the last value. -/
def ReadArgs.after (read : ReadArgs) (parts : List Part) : ReadArgs where
  name := (parts.filterMap Part.username?).getLast?.or read.name
  server := (parts.filterMap Part.server?).getLast?.or read.server
  positional := read.positional ++ parts.filterMap Part.positional?

/-! ### The loop -/

theorem readOptions_username (read : ReadArgs) (short : Bool) (value : String)
    (args : List String) :
  readOptions read ((Part.username short value).words ++ args)
    = readOptions { read with name := some value } args
  := by
  cases short <;> rfl

theorem readOptions_server (read : ReadArgs) (short : Bool) (value : String)
    (args : List String) :
  readOptions read ((Part.server short value).words ++ args)
    = readOptions { read with server := some value } args
  := by
  cases short <;> rfl

theorem notMem_options
    {arg : String} (harg : arg ∉ ["--help", "-h", "--username", "-u", "--server", "-s"]) :
  arg ∉ ["--help", "-h"] ∧ arg ∉ ["--username", "-u"] ∧ arg ∉ ["--server", "-s"]
  := by
  and_intros
  all_goals
    intro hmem
    apply harg
    grind

/-- An argument that is none of the options is positional, or unknown. -/
theorem readOptions_cons
    (read : ReadArgs) {arg : String} (args : List String)
    (harg : arg ∉ ["--help", "-h", "--username", "-u", "--server", "-s"]) :
  readOptions read (arg :: args)
    = if arg.toList.head? = some '-' then throw (.text s!"unknown option {arg}")
      else readOptions { read with positional := read.positional ++ [arg] } args
  := by
  obtain ⟨hhelp, husername, hserver⟩ := notMem_options harg
  rw [readOptions.eq_def]
  simp only [hhelp, husername, hserver, if_false]

/-- The options begin with a hyphen. -/
theorem notMem_options_of_head {text : String} (htext : text.toList.head? ≠ some '-') :
  text ∉ ["--help", "-h", "--username", "-u", "--server", "-s"]
  := by
  have hoptions : ∀ option ∈ ["--help", "-h", "--username", "-u", "--server", "-s"],
      option.toList.head? = some '-' := by
    decide +kernel
  intro hmem
  apply htext (hoptions text hmem)

theorem outcome_readOptions_ending (read : ReadArgs) (ending : Ending) (printed : List String) :
  (readOptions read ending.words).outcome printed = ending.outcome read printed
  := by
  cases ending with
  | done => rfl
  | help short rest =>
      rw [Ending.words, readOptions.eq_def]
      cases short <;> rfl
  | noUsername short => cases short <;> rfl
  | noServer short => cases short <;> rfl
  | unknown arg rest harg hnone =>
      rw [Ending.words, readOptions_cons read rest hnone, if_pos harg]
      rfl

/-- The last of the values that the parts give. -/
theorem getLast?_filterMap_cons
    (f : Part → Option String) (part : Part) (parts : List Part) (value : Option String) :
  ((part :: parts).filterMap f).getLast?.or value
    = (parts.filterMap f).getLast?.or ((f part).or value)
  := by
  rw [List.filterMap_cons]
  cases hpart : f part with
  | none => rfl
  | some first =>
      dsimp only
      rw [List.getLast?_cons]
      cases (parts.filterMap f).getLast? <;> rfl

theorem ReadArgs.after_cons (read : ReadArgs) (part : Part) (parts : List Part) :
  read.after (part :: parts)
    = ReadArgs.after ⟨part.username?.or read.name, part.server?.or read.server,
        read.positional ++ part.positional?.toList⟩ parts
  := by
  rw [ReadArgs.after, ReadArgs.after, getLast?_filterMap_cons, getLast?_filterMap_cons,
    List.append_assoc, List.filterMap_cons]
  cases part.positional? <;> rfl

/-- The parts are read one after another, and the loop ends as they are ended. -/
theorem readOptions_words
    (read : ReadArgs) (parts : List Part) (ending : Ending) (printed : List String) :
  (readOptions read (parts.flatMap Part.words ++ ending.words)).outcome printed
    = ending.outcome (read.after parts) printed
  := by
  induction parts generalizing read with
  | nil =>
      have hafter : read.after [] = read := by simp [ReadArgs.after]
      rw [hafter]
      apply outcome_readOptions_ending
  | cons part parts ih =>
      rw [List.flatMap_cons, List.append_assoc, ReadArgs.after_cons, ← ih]
      cases part with
      | username short value =>
          rw [readOptions_username]
          simp [Part.username?, Part.server?, Part.positional?]
      | server short value =>
          rw [readOptions_server]
          simp [Part.username?, Part.server?, Part.positional?]
      | positional text htext =>
          rw [Part.words, List.singleton_append,
            readOptions_cons read _ (notMem_options_of_head htext), if_neg htext]
          simp [Part.username?, Part.server?, Part.positional?]

theorem eq_ite_of_mem {arg long short : String} (h : arg ∈ [long, short]) :
  ∃ b : Bool, arg = if b then short else long
  := by
  rcases List.mem_pair.mp h with rfl | rfl
  · exact ⟨false, rfl⟩
  · exact ⟨true, rfl⟩

/-- Every list of arguments is a list of parts with an ending. -/
theorem exists_parts (args : List String) :
  ∃ (parts : List Part) (ending : Ending), args = parts.flatMap Part.words ++ ending.words
  := by
  have hcons (part : Part) {args : List String}
      (h : ∃ (parts : List Part) (ending : Ending),
        args = parts.flatMap Part.words ++ ending.words) :
      ∃ (parts : List Part) (ending : Ending),
        part.words ++ args = parts.flatMap Part.words ++ ending.words := by
    obtain ⟨parts, ending, rfl⟩ := h
    use part :: parts, ending
    rw [List.flatMap_cons, List.append_assoc]
  induction (⟨none, none, []⟩ : ReadArgs), args using readOptions.induct with
  | case1 => exact ⟨[], .done, rfl⟩
  | case2 read arg args hhelp =>
      obtain ⟨short, rfl⟩ := eq_ite_of_mem hhelp
      exact ⟨[], .help short args, rfl⟩
  | case3 read arg hhelp husername =>
      obtain ⟨short, rfl⟩ := eq_ite_of_mem husername
      exact ⟨[], .noUsername short, rfl⟩
  | case4 read arg hhelp husername value args ih =>
      obtain ⟨short, rfl⟩ := eq_ite_of_mem husername
      apply hcons (.username short value) ih
  | case5 read arg hhelp husername hserver =>
      obtain ⟨short, rfl⟩ := eq_ite_of_mem hserver
      exact ⟨[], .noServer short, rfl⟩
  | case6 read arg hhelp husername hserver value args ih =>
      obtain ⟨short, rfl⟩ := eq_ite_of_mem hserver
      apply hcons (.server short value) ih
  | case7 read arg args hhelp husername hserver hunknown =>
      have hnone : arg ∉ ["--help", "-h", "--username", "-u", "--server", "-s"] := by
        grind
      exact ⟨[], .unknown arg args hunknown hnone, rfl⟩
  | case8 read arg args hhelp husername hserver hpositional ih =>
      apply hcons (.positional arg hpositional) ih

/-! ### What is accepted -/

/-- The positional arguments stand for the values that no option gives. -/
structure ReadArgs.Selects (read : ReadArgs) (username : String) (address : Option String) :
    Prop where
  name : ∀ value, read.name = some value → username = value
  server : ∀ value, read.server = some value → address = some value
  positional : read.positional
    = (if read.name = none then [username] else [])
      ++ if read.server = none then address.toList else []

/-- A value is taken where it is given, or from the positional arguments in front of those
that are left. -/
theorem takeFirst_eq_iff {value chosen : Option String} {positional rest : List String} :
  takeFirst value positional = (chosen, rest)
    ↔ (∀ given, value = some given → chosen = some given)
      ∧ positional = (if value = none then chosen.toList else []) ++ rest
      ∧ (chosen = none → rest = [])
  := by
  cases value with
  | none =>
      cases positional with
      | nil => cases chosen <;> simp [takeFirst, eq_comm]
      | cons first later => cases chosen <;> simp +contextual [takeFirst, eq_comm]
  | some given => simp +contextual [takeFirst, eq_comm]

/-- What follows the loop succeeds when both values are taken, nothing is left, and the
address is one of a relay. -/
theorem outcome_chooseArgs_iff
    {read : ReadArgs} {printed : List String} {username : String}
    {endpoints : RelayEndpoints} :
  (chooseArgs read).outcome printed = (.ok (some (username, endpoints)), printed)
    ↔ ∃ positional address, takeFirst read.name read.positional = (some username, positional)
      ∧ takeFirst read.server positional = (address, [])
      ∧ RelayEndpoints.fromOptionalArg address = .ok endpoints
  := by
  rcases hname : takeFirst read.name read.positional with ⟨name, positional⟩
  rcases hserver : takeFirst read.server positional with ⟨address, rest⟩
  rw [chooseArgs, hname]
  simp only [hserver]
  cases rest with
  | cons _ _ =>
      constructor
      · rintro ⟨⟩
      · rintro ⟨_, _, ⟨⟩, hrest, -⟩
        rw [hserver] at hrest
        cases hrest
  | nil =>
      cases name with
      | none =>
          constructor
          · rintro ⟨⟩
          · rintro ⟨_, _, ⟨⟩, -⟩
      | some name =>
          cases hendpoints : RelayEndpoints.fromOptionalArg address with
          | error err =>
              constructor
              · rintro ⟨⟩
              · rintro ⟨_, _, ⟨⟩, hrest, hok⟩
                rw [hserver] at hrest
                cases hrest
                rw [hendpoints] at hok
                cases hok
          | ok _ =>
              constructor
              · rintro ⟨⟩
                exact ⟨_, _, rfl, hserver, hendpoints⟩
              · rintro ⟨_, _, ⟨⟩, hrest, hok⟩
                rw [hserver] at hrest
                cases hrest
                rw [hendpoints] at hok
                cases hok
                rfl

theorem chooseArgs_eq_iff
    {read : ReadArgs} {printed : List String} {username : String}
    {endpoints : RelayEndpoints} :
  (chooseArgs read).outcome printed = (.ok (some (username, endpoints)), printed)
    ↔ ∃ address, read.Selects username address
      ∧ RelayEndpoints.fromOptionalArg address = .ok endpoints
  := by
  simp only [outcome_chooseArgs_iff, takeFirst_eq_iff]
  constructor
  · rintro ⟨positional, address, ⟨hname, hpositional, -⟩, ⟨hserver, rfl, -⟩, hendpoints⟩
    refine ⟨address, ⟨?_, hserver, ?_⟩, hendpoints⟩
    · intro value hvalue
      apply Option.some.inj (hname value hvalue)
    · rw [hpositional, List.append_nil]
      rfl
  · rintro ⟨address, ⟨hname, hserver, hpositional⟩, hendpoints⟩
    refine ⟨_, address, ⟨?_, hpositional, ?_⟩, ⟨hserver, (List.append_nil _).symm, ?_⟩,
      hendpoints⟩
    · intro value hvalue
      rw [hname value hvalue]
    · rintro ⟨⟩
    · intro _
      trivial

/-- What the arguments end with, in terms of their parts. -/
theorem outcome_readArgs (parts : List Part) (ending : Ending) (printed : List String) :
  (readArgs (parts.flatMap Part.words ++ ending.words)).outcome printed
    = match ending.outcome (ReadArgs.after ⟨none, none, []⟩ parts) printed with
      | (.ok (some read), printed) => (chooseArgs read).outcome printed
      | (.ok none, printed) => (.ok none, printed)
      | (.error err, printed) => (.error err, printed)
  := by
  rw [readArgs, Program.outcome_bind, readOptions_words]
  rcases ending.outcome (ReadArgs.after ⟨none, none, []⟩ parts) printed with
    ⟨err | _ | read, later⟩
  · rfl
  · rfl
  · rfl

/-- What follows the loop has a result, if it does not fail. -/
theorem outcome_chooseArgs_ne (read : ReadArgs) (printed printed' : List String) :
  (chooseArgs read).outcome printed ≠ (.ok none, printed')
  := by
  rcases hname : takeFirst read.name read.positional with ⟨name, positional⟩
  rcases hserver : takeFirst read.server positional with ⟨address, rest⟩
  rw [chooseArgs, hname]
  simp only [hserver]
  cases rest with
  | cons _ _ => rintro ⟨⟩
  | nil =>
      cases name with
      | none => rintro ⟨⟩
      | some name =>
          cases RelayEndpoints.fromOptionalArg address with
          | error err => rintro ⟨⟩
          | ok endpoints => rintro ⟨⟩

/-- The arguments are accepted, as a username and the endpoints of a relay, just when they are
options with values and positional arguments, of which the last value of each option counts,
and the positional arguments are the values that no option gives, the username first; and the
usage is printed just when it is asked for behind such arguments. -/
theorem readArgs_iff (args printed : List String) :
  (∀ username endpoints,
    (readArgs args).outcome printed = (.ok (some (username, endpoints)), printed)
      ↔ ∃ (parts : List Part) (address : Option String),
        args = parts.flatMap Part.words
          ∧ (ReadArgs.after ⟨none, none, []⟩ parts).Selects username address
          ∧ RelayEndpoints.fromOptionalArg address = .ok endpoints)
    ∧ ((readArgs args).outcome printed = (.ok none, printed ++ usageLines)
      ↔ ∃ (parts : List Part) (short : Bool) (rest : List String),
        args = parts.flatMap Part.words ++ (Ending.help short rest).words)
  := by
  constructor
  · intro username endpoints
    constructor
    · intro h
      obtain ⟨parts, ending, rfl⟩ := exists_parts args
      rw [outcome_readArgs] at h
      cases ending with
      | done =>
          obtain ⟨address, hselects, hendpoints⟩ := chooseArgs_eq_iff.mp h
          exact ⟨parts, address, List.append_nil _, hselects, hendpoints⟩
      | help short rest => cases h
      | noUsername short => cases h
      | noServer short => cases h
      | unknown arg rest harg hnone => cases h
    · rintro ⟨parts, address, rfl, hselects, hendpoints⟩
      have hdone := outcome_readArgs parts .done printed
      rw [Ending.words, List.append_nil] at hdone
      rw [hdone]
      apply chooseArgs_eq_iff.mpr ⟨address, hselects, hendpoints⟩
  · constructor
    · intro h
      obtain ⟨parts, ending, rfl⟩ := exists_parts args
      rw [outcome_readArgs] at h
      cases ending with
      | done => exact absurd h (outcome_chooseArgs_ne _ _ _)
      | help short rest => exact ⟨parts, short, rest, rfl⟩
      | noUsername short => cases h
      | noServer short => cases h
      | unknown arg rest harg hnone => cases h
    · rintro ⟨parts, short, rest, rfl⟩
      rw [outcome_readArgs]
      rfl

end Phantasma
