import Phantasma.Shared.Wire
import Std.Data.ExtTreeMap

/-!
# The contact book

The functions of `contacts.rs` on a book that is open, with the file it is saved to.  A
write can fail before the file is opened, or stop after the file was truncated and any
number of bytes were written.
-/

namespace Phantasma

/-- How a call to `fs::write` ends. -/
inductive WriteOutcome where
  /-- The file cannot be opened. -/
  | notOpened
  /-- The file is truncated, and an error occurs after `written` bytes. -/
  | stopped (written : ℕ)
  | complete
deriving DecidableEq

/-- `ContactBook`. -/
structure ContactBook where
  contacts : Std.ExtTreeMap String PublicKeyEntry
  path : String

namespace ContactBook

/-- The JSON value of `StoredContacts`. -/
def toJson (book : ContactBook) : Json :=
  .obj [("contacts", .obj (book.contacts.toList.map fun (name, entry) => (name, entry.toJson)))]

/-- `get`. -/
def get (book : ContactBook) (username : String) : Option PublicKeyEntry :=
  book.contacts[username]?

/-- `names`. -/
def names (book : ContactBook) : List String :=
  book.contacts.keys

/-- `save`: its result and the file after it. -/
def save (pretty : JsonCodec) (write : WriteOutcome) (book : ContactBook) (file : Option Bytes) :
    Except Error Unit × Option Bytes :=
  match pretty.toVec book.toJson, write with
  | none, _ => (.error .serde, file)
  | some _, .notOpened => (.error (.text s!"failed to write {book.path}"), file)
  | some json, .stopped written =>
      (.error (.text s!"failed to write {book.path}"), some (json.take written))
  | some json, .complete => (.ok (), some json)

/-- The book with an entry set under the username that the entry carries. -/
def insert (book : ContactBook) (entry : PublicKeyEntry) : ContactBook :=
  { book with contacts := book.contacts.insert entry.username entry }

/-- `add`: its result, the book and the file after it. -/
def add (pretty : JsonCodec) (write : WriteOutcome) (book : ContactBook) (file : Option Bytes)
    (entry : PublicKeyEntry) : Except Error Unit × ContactBook × Option Bytes :=
  let saved := (book.insert entry).save pretty write file
  (saved.1, book.insert entry, saved.2)

theorem get_insert (book : ContactBook) (entry : PublicKeyEntry) (username : String) :
  (book.insert entry).get username
    = if entry.username = username then some entry else book.get username
  := by
  rw [get, insert, Std.ExtTreeMap.getElem?_insert]
  simp only [Std.LawfulEqCmp.compare_eq_iff_eq]
  rfl

@[simp]
theorem get_insert_self (book : ContactBook) (entry : PublicKeyEntry) :
  (book.insert entry).get entry.username = some entry
  := by
  rw [get_insert, if_pos rfl]

theorem get_insert_of_ne (book : ContactBook) {entry : PublicKeyEntry} {username : String}
    (hne : entry.username ≠ username) :
  (book.insert entry).get username = book.get username
  := by
  rw [get_insert, if_neg hne]

end ContactBook

end Phantasma
