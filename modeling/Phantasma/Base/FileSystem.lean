import Mathlib.Data.List.Basic
import Mathlib.Logic.Function.Basic
import Phantasma.Base.Program

/-!
# Files and their paths

A disk has its files under the places where they lie, and a path is resolved to a place: the
names of the directories from the root, with `.` and `..` taken out.  A file system compares
names exactly, or it ignores the case of ASCII letters; two paths of one `key` are paths of
one file.  `onFile` runs a program over a single file on the disk, and
`outcome_onFile_of_ne` is its frame rule.
-/

/-- What is to be known of a file system. -/
structure FileSystem where
  /-- The paths are those of Windows: a backslash counts as a slash, and a path may begin with
  the name of a drive. -/
  windows : Bool
  /-- Names that differ in the case of ASCII letters only are the same. -/
  ignoresCase : Bool
  /-- The place where a path that is not absolute starts. -/
  workingDir : List (List Char)

/-- The files, each under the key of its place. -/
abbrev Disk := List (List Char) → Option (List UInt8)

namespace FileSystem

variable (fs : FileSystem)

/-! ### Places -/

/-- A character that separates the names in a path. -/
def isSeparator (ch : Char) : Bool :=
  ch = '/' || (fs.windows && ch = '\\')

/-- The path starts with a separator, or with the name of a drive. -/
def isAbsolute : List Char → Bool
  | [] => false
  | ch :: rest => fs.isSeparator ch || (fs.windows && rest.head? = some ':')

/-- The place `name` below `place`. -/
def enter (place : List (List Char)) (name : List Char) : List (List Char) :=
  if name = [] ∨ name = ['.'] then place
  else if name = ['.', '.'] then place.dropLast
  else place ++ [name]

/-- The place that a path leads to. -/
def resolve (path : List Char) : List (List Char) :=
  (path.splitOnP fs.isSeparator).foldl enter (if fs.isAbsolute path then [] else fs.workingDir)

/-- A name as it is compared. -/
def fold (name : List Char) : List Char :=
  if fs.ignoresCase then name.map Char.toLower else name

/-- What a path has in common with the other paths of its file. -/
def key (path : List Char) : List (List Char) :=
  (fs.resolve path).map fs.fold

/-- The path leads directly into the directory. -/
def LiesIn (path dir : List Char) : Prop :=
  ∃ name, fs.resolve path = fs.resolve dir ++ [name]

/-- A name that stands for itself in a path of any file system. -/
structure Plain (name : List Char) : Prop where
  separated : ∀ ch ∈ name, ch ≠ '/' ∧ ch ≠ '\\' ∧ ch ≠ ':'
  named : name ≠ [] ∧ name ≠ ['.'] ∧ name ≠ ['.', '.']

variable {fs}

theorem enter_of_plain {name : List Char} (h : Plain name) (place : List (List Char)) :
  enter place name = place ++ [name]
  := by
  obtain ⟨hne, hdot, hdots⟩ := h.named
  rw [enter, if_neg (not_or.mpr ⟨hne, hdot⟩), if_neg hdots]

theorem isSeparator_of_plain {name : List Char} (h : Plain name) :
  ∀ ch ∈ name, fs.isSeparator ch = false
  := by
  intro ch hch
  obtain ⟨hslash, hbackslash, -⟩ := h.separated ch hch
  simp [isSeparator, hslash, hbackslash]

theorem isAbsolute_of_plain {name : List Char} (h : Plain name) :
  fs.isAbsolute name = false
  := by
  cases name with
  | nil => rfl
  | cons ch rest =>
      rw [isAbsolute, isSeparator_of_plain h ch List.mem_cons_self, Bool.false_or]
      cases rest with
      | nil => exact Bool.and_false _
      | cons colon rest =>
          have hcolon := (h.separated colon (List.mem_cons_of_mem _ List.mem_cons_self)).2.2
          simp [hcolon]

/-- What follows a slash does not make a path absolute, -/
theorem isAbsolute_slash (dir rest : List Char) :
  fs.isAbsolute (dir ++ '/' :: rest) = fs.isAbsolute (dir ++ ['/'])
  := by
  match dir with
  | [] => rfl
  | [_] => rfl
  | _ :: _ :: _ => rfl

/-- and a slash does not either, except at the beginning. -/
theorem isAbsolute_append_slash {dir : List Char} (hdir : dir ≠ []) :
  fs.isAbsolute (dir ++ ['/']) = fs.isAbsolute dir
  := by
  match dir with
  | [ch] => simp [isAbsolute]
  | _ :: _ :: _ => rfl

/-- A directory may be written with a slash at the end. -/
theorem resolve_append_slash {dir : List Char} (hdir : dir ≠ []) :
  fs.resolve (dir ++ ['/']) = fs.resolve dir
  := by
  have hslash : fs.isSeparator '/' := rfl
  rw [resolve, List.splitOnP_append_cons dir [] hslash, isAbsolute_append_slash hdir,
    List.foldl_append, ← resolve]
  rfl

/-- A name after a slash is entered from the directory before it. -/
theorem resolve_slash {name : List Char} (h : Plain name) (dir : List Char) :
  fs.resolve (dir ++ '/' :: name) = fs.resolve (dir ++ ['/']) ++ [name]
  := by
  have hslash : fs.isSeparator '/' := rfl
  rw [resolve, resolve, List.splitOnP_append_cons dir name hslash,
    List.splitOnP_append_cons dir [] hslash, List.splitOnP_eq_singleton (isSeparator_of_plain h),
    isAbsolute_slash, List.foldl_append, List.foldl_append, List.foldl_cons, List.foldl_nil,
    enter_of_plain h]
  rfl

/-- A name by itself is entered from the working directory, as the empty path is. -/
theorem resolve_of_plain {name : List Char} (h : Plain name) :
  fs.resolve name = fs.resolve [] ++ [name]
  := by
  rw [resolve, List.splitOnP_eq_singleton (isSeparator_of_plain h), isAbsolute_of_plain h,
    List.foldl_cons, List.foldl_nil, enter_of_plain h]
  rfl

theorem fold_append (name name' : List Char) :
  fs.fold (name ++ name') = fs.fold name ++ fs.fold name'
  := by
  rw [fold, fold, fold]
  split
  · apply List.map_append
  · rfl

/-! ### Programs over one file -/

/-- The program over the file that the path leads to. -/
def onFile {ε α : Type} (fs : FileSystem) (path : List Char)
    (x : Program (Option (List UInt8)) ε α) : Program Disk ε α := do
  let (result, file) := x.outcome ((← get) (fs.key path))
  modify fun disk => Function.update disk (fs.key path) file
  Program.ofExcept result

section

variable {ε α : Type} {path : List Char} {x : Program (Option (List UInt8)) ε α}

theorem outcome_onFile (disk : Disk) :
  (fs.onFile path x).outcome disk
    = ((x.outcome (disk (fs.key path))).1,
      Function.update disk (fs.key path) (x.outcome (disk (fs.key path))).2)
  := by
  simp only [onFile, Program.outcome_bind, Program.outcome_get, Program.outcome_modify,
    Program.outcome_ofExcept]

/-- Every other file is as it was. -/
theorem outcome_onFile_of_ne (disk : Disk) {place : List (List Char)} (h : place ≠ fs.key path) :
  ((fs.onFile path x).outcome disk).2 place = disk place
  := by
  rw [outcome_onFile]
  apply Function.update_of_ne h

end

end FileSystem
