import StaticAtoms.Files.Store

/-!
# Access to files

`MonadFiles` is what commands ask of the world: reading a file, writing a file, and creating
directories.  A `Store` as state provides it.
-/

namespace StaticAtoms

/-- A monad with files. -/
class MonadFiles (m : Type → Type) where
  /-- The content of a file. -/
  readFile : (path : String) → m (Except FileError Bytes)
  /-- Creates a file with a content, or replaces its content.  After a failure the file may be left with
  a part of the content. -/
  writeFile : (path : String) → Bytes → m (Except FileError Unit)
  /-- Creates a directory and the directories around it, as far as they are missing. -/
  createDirAll : (path : String) → m (Except FileError Unit)

instance : MonadFiles (StateM Store) where
  readFile path := fun store => (store.read path, store)
  writeFile path content := fun store =>
    let (after, result) := store.write path content
    (result, after)
  createDirAll path := fun store =>
    let (after, result) := store.createDirAll path
    (result, after)

variable {m : Type → Type} [Monad m] [MonadFiles m]

/-- The content of a file as a text. -/
def readText (path : String) : m (Except FileError String) := do
  match ← MonadFiles.readFile path with
  | .error failure => return .error failure
  | .ok content =>
      match Text.ofUtf8? content with
      | none => return .error .notText
      | some text => return .ok text

/-- Creates a file with a text, or replaces its content. -/
def writeText (path text : String) : m (Except FileError Unit) :=
  MonadFiles.writeFile path (Text.utf8 text)

end StaticAtoms
