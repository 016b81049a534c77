import StaticAtoms.Cache.Entry
import StaticAtoms.Files.Access
import StaticAtoms.Log.Event

/-!
# Cache directories

A directory of cache entries, each in a file named for its key.

* `Directory.store` writes an entry, `Directory.load` finds its output, and `Directory.inspect` its
  header.
* Whatever is wrong with a file is a miss.  Some misses are worth a warning.
-/

namespace StaticAtoms.Cache

/-- A directory of entries. -/
structure Directory where
  path : String
deriving DecidableEq

/-- A header with the file that it was found in. -/
structure Info where
  path : String
  header : Header
deriving DecidableEq

/-- The warning about a miss. -/
def Miss.events (path : String) (miss : Miss) : List Log.Event :=
  match miss.warning? path with
  | none => []
  | some message => [⟨.warn, .cache, message⟩]

namespace Directory

variable {m : Type → Type} [Monad m] [MonadFiles m]

/-- The file of an entry. -/
def entryPath (directory : Directory) (key : Digest) : String :=
  Path.join directory.path s!"{key.hex}.atc"

/-- The output that is stored for a key and a tool version, and warnings about the file. -/
def load (directory : Directory) (key : Digest) (tool : String) :
    m (List Log.Event × Option String) := do
  let path := directory.entryPath key
  match ← MonadFiles.readFile path with
  | .error _ => return ([], none)
  | .ok content =>
      match Entry.load content key tool with
      | .ok output => return ([], some output)
      | .error miss => return (miss.events path, none)

/-- The header of the entry that is stored for a key, and warnings about the file. -/
def inspect (directory : Directory) (key : Digest) : m (List Log.Event × Option Info) := do
  let path := directory.entryPath key
  match ← MonadFiles.readFile path with
  | .error _ => return ([], none)
  | .ok content =>
      match Header.read content with
      | .ok (header, _) => return ([], some ⟨path, header⟩)
      | .error miss => return (miss.events path, none)

/-- Writes the bytes of an entry.  A text that is too long leaves a file without it. -/
def writeEntry (path : String) (entry : Entry) : m (Except FileError Unit) :=
  match entry.encode with
  | .ok content => MonadFiles.writeFile path content
  | .error front => do
      match ← MonadFiles.writeFile path front with
      | .error failure => return .error failure
      | .ok () => return .error .tooLong

/-- Stores an entry, in place of one with the same key, and gives its file. -/
def store (directory : Directory) (entry : Entry) : m (Except FileError String) := do
  match ← MonadFiles.createDirAll directory.path with
  | .error failure => return .error failure
  | .ok () =>
      let path := directory.entryPath entry.key
      match ← writeEntry path entry with
      | .error failure => return .error failure
      | .ok () => return .ok path

end Directory

end StaticAtoms.Cache
