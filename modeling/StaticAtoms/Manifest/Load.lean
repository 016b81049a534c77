import StaticAtoms.Files.Access
import StaticAtoms.Manifest.Basic

/-!
# Loading manifests

`Manifest.load` reads a manifest from a file.
-/

namespace StaticAtoms.Manifest

variable {m : Type → Type} [Monad m] [MonadFiles m]

/-- Reads the manifest in a file. -/
def load (path : String) : m (Except Problem Manifest) := do
  match ← readText path with
  | .error cause => return .error (.fileFailure path cause)
  | .ok source => return parse source

end StaticAtoms.Manifest
