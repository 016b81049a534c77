import StaticAtoms.Command.Run

/-!
# The program

Runs the command line on the files of the system.
-/

namespace StaticAtoms

/-- The number of a failure, which the system may report negated. -/
def FileError.number (code : UInt32) : UInt32 :=
  if code < 0x80000000 then code else -code

/-- The failure that the system reports with a number and a text. -/
def FileError.ofSystem (code : UInt32) (details : String) : FileError :=
  match FileError.number code with
  | 2 => .notFound
  | 13 => .refused
  | 17 => .occupied
  | 20 => .notDirectory
  | 21 => .isDirectory
  | 28 => .noSpace
  | 36 => .nameTooLong
  | number => .other s!"{details.capitalize} (os error {number})"

/-- The failure of an action on the system. -/
def FileError.ofError : IO.Error → FileError
  | .alreadyExists _ code details => .ofSystem code details
  | .noFileOrDirectory _ code details => .ofSystem code details
  | .inappropriateType _ code details => .ofSystem code details
  | .permissionDenied _ code details => .ofSystem code details
  | .invalidArgument _ code details => .ofSystem code details
  | .resourceExhausted _ code details => .ofSystem code details
  | .otherError code details => .ofSystem code details
  | failure => .other (toString failure)

/-- The result of an action on the system. -/
def attempt {α : Type} (action : IO α) : IO (Except FileError α) := do
  match ← action.toBaseIO with
  | .ok value => return .ok value
  | .error failure => return .error (.ofError failure)

/-- Creates one directory, unless it is there. -/
def createDir (path : String) : IO (Except FileError Unit) := do
  match ← attempt (IO.FS.createDir path) with
  | .ok () => return .ok ()
  | .error failure =>
      if ← ((← IO.currentDir) / path).isDir then return .ok () else return .error failure

/-- Creates a directory after those of its ancestors, the nearest first, that are missing. -/
def createDirs (path : String) : (ancestors : List String) → IO (Except FileError Unit)
  | [] => createDir path
  | next :: ancestors => do
      match ← createDir path with
      | .error .notFound =>
          match ← createDirs next ancestors with
          | .ok () => createDir path
          | .error failure => return .error failure
      | result => return result

instance : MonadFiles IO where
  readFile path := attempt do return (← IO.FS.readBinFile path).data.toList
  writeFile path content := attempt (IO.FS.writeBinFile path ⟨content.toArray⟩)
  createDirAll path :=
    if path.isEmpty then return .ok () else createDirs path (Path.ancestors path)

end StaticAtoms

open StaticAtoms in
/-- Runs the command line, prints what it says, and exits with its status. -/
def main (arguments : List String) : IO UInt32 := do
  let filter := logFilter (← IO.getEnv "ATOMTAB_LOG") arguments
  let outcome ← run arguments
  (← IO.getStderr).putStr (outcome.errorOutput filter)
  (← IO.getStdout).putStr outcome.standardOutput
  return outcome.status.toUInt32
