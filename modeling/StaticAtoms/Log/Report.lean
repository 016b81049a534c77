import StaticAtoms.Log.Event
import StaticAtoms.Table

/-!
# Reports of compiling and registering

The events that tell about finished work follow from its result alone: `Log.compiled` from the atoms
of a manifest, and `Log.registered` from the atoms that were added to a table.
-/

namespace StaticAtoms.Log

/-- Tells about the atoms that a manifest was compiled to. -/
def compiled (atoms : List StaticAtom) : List Event :=
  let each (atom : StaticAtom) : Event :=
    ⟨.trace, .manifest,
      s!"{atom.ident} = {Quoted.quote atom.string} 0x{Hex.word atom.hash}"⟩
  atoms.map each ++ [⟨.debug, .manifest, s!"compiled {atoms.length} static atoms"⟩]

/-- Tells about static atoms that were added to a table, and how many the table has then. -/
def registered (atoms : List StaticAtom) (ids : List AtomId) (total : Nat) : List Event :=
  let each (atom : StaticAtom) (id : AtomId) : Event :=
    ⟨.trace, .table, s!"interned {atom.toAtom.display} as {id.display}"⟩
  List.zipWith each atoms ids
    ++ [⟨.debug, .table, s!"registered {ids.length} static atoms ({total} total)"⟩]

end StaticAtoms.Log
