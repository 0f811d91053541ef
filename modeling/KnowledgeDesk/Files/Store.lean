import KnowledgeDesk.Files.Key

/-!
# The file store

Stored files by key. The store refuses any name that is not a file key before looking, so an
unknown file and a malformed key are different failures. Deleting a file that is not there
succeeds.
-/

namespace KnowledgeDesk.Files

/-- Why the store could not do what was asked. -/
inductive FileError where
  | notFound (key : String)
  | invalidKey (key : String)
  deriving Repr, DecidableEq

/-- The text of a store error. -/
def FileError.text : FileError → String
  | .notFound key => "File " ++ key ++ " not found"
  | .invalidKey key => "Invalid file key " ++ key

/-- Files by key, in the order stored. -/
structure FileStore where
  files : List (String × ByteArray) := []

namespace FileStore

/-- Store a file under a key. -/
def put (fs : FileStore) (key : String) (bytes : ByteArray) : FileStore :=
  ⟨(fs.files.filter (·.1 != key)) ++ [(key, bytes)]⟩

/-- The content of a stored file. -/
def read (fs : FileStore) (key : String) : Except FileError ByteArray :=
  if !isValidKey key then .error (.invalidKey key)
  else match fs.files.find? (·.1 == key) with
    | some (_, bytes) => .ok bytes
    | none => .error (.notFound key)

/-- Delete a stored file; a missing one is no error. -/
def delete (fs : FileStore) (key : String) : Except FileError FileStore :=
  if !isValidKey key then .error (.invalidKey key)
  else .ok ⟨fs.files.filter (·.1 != key)⟩

/-- Delete a stored file if the key is well formed; otherwise leave the store as it is. -/
def discard (fs : FileStore) (key : String) : FileStore :=
  match fs.delete key with
  | .ok fs => fs
  | .error _ => fs

end FileStore

end KnowledgeDesk.Files
