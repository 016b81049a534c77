import StaticAtoms.Log.Directive

/-!
# Log filters

A filter is a list of directives separated by commas, of which the most special one that is about an
event decides whether it is shown.

* `Filter.ofText?` reads a filter; a single directive that cannot be read spoils it.
* `Filter.choose` takes the tool's own filter where none is set.
* `Filter.shows` applies a filter.
-/

namespace StaticAtoms.Log

/-- Directives in the order of the text. -/
structure Filter where
  directives : List Directive
deriving DecidableEq

namespace Filter

/-! ## Reading -/

/-- Splits at every comma. -/
def splitCommas : List Char → List (List Char)
  | [] => [[]]
  | c :: rest =>
      match splitCommas rest with
      | [] => [[c]]
      | part :: parts => if c = ',' then [] :: part :: parts else (c :: part) :: parts

/-- The filter of a level for all sources. -/
def ofLevel (level : Level) : Filter := ⟨[⟨none, none, none, some level⟩]⟩

/-- The filter of a level for the sources whose names begin with a target. -/
def ofTarget (target : String) (level : Level) : Filter := ⟨[⟨some target, none, none, some level⟩]⟩

/-- The filter with the given directives; without any, errors are shown. -/
def ofDirectives : List Directive → Filter
  | [] => ofLevel .error
  | directives => ⟨directives⟩

/-- Reads a filter.  Nothing has to stand between commas. -/
def ofText? (text : String) : Option Filter :=
  let pieces := (splitCommas text.toList).filter fun piece => !piece.isEmpty
  (pieces.mapM fun piece => Directive.ofText? (String.ofList piece)).map ofDirectives

/-- The filter that a run uses: the one that is set, if it can be read, and otherwise warnings, or the
tool's own events up to `debug` for a verbose run. -/
def choose (setting : Option String) (verbose : Bool) : Filter :=
  match setting.bind ofText? with
  | some filter => filter
  | none => if verbose then ofTarget "atomtab" .debug else ofLevel .warn

/-! ## Applying -/

/-- Of two directives about an event, the one that decides: the later one, unless the earlier one is
more special. -/
def prefer (earlier : Option Directive) (later : Directive) : Option Directive :=
  match earlier with
  | none => some later
  | some earlier => if earlier.isMoreSpecial later then some earlier else some later

/-- The directive that decides about the events of a source. -/
def directive? (filter : Filter) (source : Source) : Option Directive :=
  (filter.directives.filter fun directive => directive.applies source).foldl prefer none

/-- Whether an event is shown. -/
def shows (filter : Filter) (event : Event) : Bool :=
  match (filter.directive? event.source).bind Directive.level with
  | none => false
  | some level => event.level.rank ≤ level.rank

end Filter

end StaticAtoms.Log
