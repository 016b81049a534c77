import StaticAtoms.Generated.Listing
import StaticAtoms.Generated.Table

/-!
# Output formats

The generator prints static atoms as a listing or as a table in JSON.
-/

namespace StaticAtoms

/-- A form of the generator's output. -/
inductive OutputFormat where
  | listing
  | json
deriving DecidableEq

namespace OutputFormat

/-- The name by which the user chooses a format. -/
def name : OutputFormat → String
  | listing => "table"
  | json => "json"

/-- The format with a name. -/
def ofName? : String → Option OutputFormat
  | "table" => some listing
  | "json" => some json
  | _ => none

/-- The atoms in the given format. -/
def render : OutputFormat → List StaticAtom → String
  | listing, atoms => Listing.render atoms
  | json, atoms => GeneratedTable.render atoms

end OutputFormat

end StaticAtoms
