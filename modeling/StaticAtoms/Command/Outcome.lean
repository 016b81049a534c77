import StaticAtoms.Problem
import StaticAtoms.Log.Filter

/-!
# Outcomes of a run

An outcome is everything that a run says, in order, and whether it succeeded.  Output, error lines and
events are kept apart, so that a log filter changes nothing but which events are shown.
-/

namespace StaticAtoms

/-- Something that a run says. -/
inductive Utterance where
  /-- A text on the standard output. -/
  | output (text : String)
  /-- A line on the error output. -/
  | complaint (line : String)
  /-- An event, which is told on the error output if the log filter shows it. -/
  | event (event : Log.Event)
deriving DecidableEq

/-- What a run says, and whether it succeeds. -/
structure Outcome where
  said : List Utterance
  success : Bool
deriving DecidableEq

namespace Outcome

/-- A success with some output. -/
def done (text : String) : Outcome :=
  ⟨[.output text], true⟩

/-- A failure with some lines. -/
def complain (lines : List String) : Outcome :=
  ⟨lines.map .complaint, false⟩

/-- A failure because of problems. -/
def failed (problems : List Problem) : Outcome :=
  complain (problems.map fun problem => problem.diagnostic.display)

/-- An outcome with events in front of everything else. -/
def after (events : List Log.Event) (outcome : Outcome) : Outcome :=
  { outcome with said := events.map .event ++ outcome.said }

/-- The exit status. -/
def status (outcome : Outcome) : Nat :=
  if outcome.success then 0 else 1

/-- Everything on the standard output. -/
def standardOutput (outcome : Outcome) : String :=
  String.join <| outcome.said.map fun
    | .output text => text
    | _ => ""

/-- Everything on the error output, with the events that the filter shows. -/
def errorOutput (outcome : Outcome) (filter : Log.Filter) : String :=
  String.join <| outcome.said.map fun
    | .output _ => ""
    | .complaint line => line ++ "\n"
    | .event event => if filter.shows event then event.line ++ "\n" else ""

end Outcome

end StaticAtoms
