import StaticAtoms.Command.Run

/-!
# Commands on a store

`runOn` and `performOn` carry out a command line and a command on a store, and give what is said
and the store afterwards.  The other statements say what the parts of a command do to a store.

What is said is looked at as lines: `Outcome.Reports` is about the error output of a run that fails, and
`Outcome.EventsFirst` about that of any run.
-/

namespace StaticAtoms

/-- The content of a file as a text. -/
def Store.readText (store : Store) (path : String) : Except FileError String :=
  match store.read path with
  | .error failure => .error failure
  | .ok content =>
      match Text.ofUtf8? content with
      | none => .error .notText
      | some text => .ok text

/-- Carries out a command on a store. -/
def performOn (options : Options) (command : Command) (store : Store) : Outcome × Store :=
  (perform options command : StateM Store Outcome) store

/-- Carries out a command line on a store. -/
def runOn (arguments : List String) (store : Store) : Outcome × Store :=
  (run arguments : StateM Store Outcome) store

theorem runOn_of_understand {arguments : List String} {options : Options} {command : Command}
    (understood : understand arguments = .ok (options, command)) (store : Store) :
    runOn arguments store = performOn options command store := by
  simp only [runOn, run, understood, performOn]

theorem readText_run (path : String) (store : Store) :
    (readText path : StateM Store _) store = (store.readText path, store) := by
  simp only [readText, Store.readText, bind, StateT.bind, MonadFiles.readFile]
  cases store.read path with
  | error failure => rfl
  | ok content =>
    cases decoded : Text.ofUtf8? content with
    | none => simp only [decoded]; rfl
    | some text => simp only [decoded]; rfl

theorem Store.readText_eq_ok_iff {store : Store} {path text : String} :
    store.readText path = .ok text ↔ store.read path = .ok (Text.utf8 text) := by
  rw [readText]
  cases store.read path with
  | error failure => simp
  | ok content =>
    rw [Except.ok.injEq, ← Text.ofUtf8?_eq_some_iff]
    dsimp only
    cases Text.ofUtf8? content <;> simp

theorem withText_run (path : String) (next : String → StateM Store Outcome) (store : Store) :
    withText path next store =
      match store.readText path with
      | .error cause => (.failed [.fileFailure path cause], store)
      | .ok text => next text store := by
  have read := readText_run path store
  simp only [withText, bind, StateT.bind] at read ⊢
  rw [read]
  cases store.readText path <;> rfl

theorem performOn_verify (options : Options) (path : String) (store : Store) :
    performOn options (.verify path) store =
      match store.readText path with
      | .error cause => (.failed [.fileFailure path cause], store)
      | .ok text => (check text, store) := by
  rw [performOn, perform, withText_run]
  rfl

/-! ## What is said -/

/-- Lines as a text, each with a line break behind it. -/
def unlines (lines : List String) : String :=
  String.join (lines.map (· ++ "\n"))

theorem unlines_append (lines others : List String) :
    unlines (lines ++ others) = unlines lines ++ unlines others := by
  rw [unlines, List.map_append, String.join_append]
  rfl

/-- The line about an error: its code, its message, and its hint on a line of its own. -/
def errorLine (code message : String) (hint? : Option String) : String :=
  match hint? with
  | none => s!"error[{code}]: {message}"
  | some hint => s!"error[{code}]: {message}\n  hint: {hint}"

theorem Diagnostic.display_eq (diagnostic : Diagnostic) :
    diagnostic.display = errorLine diagnostic.code.text diagnostic.message diagnostic.hint := by
  obtain ⟨code, message, hint⟩ := diagnostic
  cases hint <;> rfl

namespace Outcome

@[simp] theorem status_after (events : List Log.Event) (outcome : Outcome) :
    (outcome.after events).status = outcome.status := rfl

/-- Events do not show on the standard output. -/
@[simp] theorem standardOutput_after (events : List Log.Event) (outcome : Outcome) :
    (outcome.after events).standardOutput = outcome.standardOutput := by
  induction events with
  | nil => rfl
  | cons event events ih =>
    simp only [standardOutput, after, List.map_cons, List.cons_append, String.join_cons,
      String.empty_append] at ih ⊢
    exact ih

@[simp] theorem standardOutput_done (text : String) : (done text).standardOutput = text := by
  simp [standardOutput, done, String.join_cons]

/-- The lines on the error output that are no events. -/
def errorLines (outcome : Outcome) : List String :=
  outcome.said.filterMap fun
    | .complaint line => some line
    | _ => none

@[simp] theorem errorLines_after (events : List Log.Event) (outcome : Outcome) :
    (outcome.after events).errorLines = outcome.errorLines := by
  induction events with
  | nil => rfl
  | cons event events ih => exact ih

/-- Lines that complain do not show on the standard output. -/
theorem standardOutput_complain (lines : List String) : (complain lines).standardOutput = "" := by
  induction lines with
  | nil => rfl
  | cons line lines ih =>
    simp only [standardOutput, complain, List.map_cons, String.join_cons, String.empty_append] at ih ⊢
    exact ih

theorem errorLines_complain (lines : List String) : (complain lines).errorLines = lines := by
  induction lines with
  | nil => rfl
  | cons line lines ih => exact congrArg (line :: ·) ih

/-- The lines on the error output that are events. -/
def eventLines (outcome : Outcome) (filter : Log.Filter) : List String :=
  outcome.said.filterMap fun
    | .event event => if filter.shows event then some event.line else none
    | _ => none

theorem eventLines_complain (lines : List String) (filter : Log.Filter) :
    (complain lines).eventLines filter = [] := by
  induction lines with
  | nil => rfl
  | cons line lines ih => exact ih

/-- Whether the events that a filter shows come first on the error output, and then the other lines. -/
def EventsFirst (outcome : Outcome) : Prop :=
  ∀ filter, outcome.errorOutput filter =
    unlines (outcome.eventLines filter ++ outcome.errorLines)

theorem eventsFirst_done (text : String) : (done text).EventsFirst :=
  fun _ => rfl

theorem errorOutput_complain (lines : List String) (filter : Log.Filter) :
    (complain lines).errorOutput filter = unlines lines := by
  simp only [errorOutput, complain, unlines, List.map_map]
  rfl

theorem eventsFirst_complain (lines : List String) : (complain lines).EventsFirst := by
  intro filter
  rw [eventLines_complain, errorLines_complain, List.nil_append, errorOutput_complain]

theorem eventLines_after (events : List Log.Event) (outcome : Outcome) (filter : Log.Filter) :
    (outcome.after events).eventLines filter =
      (events.filter filter.shows).map Log.Event.line ++ outcome.eventLines filter := by
  induction events with
  | nil => rfl
  | cons event events ih =>
    simp only [eventLines, after, List.map_cons, List.cons_append, List.filterMap_cons] at ih ⊢
    by_cases shown : filter.shows event <;> simp [shown, ih]

theorem errorOutput_after (events : List Log.Event) (outcome : Outcome) (filter : Log.Filter) :
    (outcome.after events).errorOutput filter =
      unlines ((events.filter filter.shows).map Log.Event.line) ++ outcome.errorOutput filter := by
  induction events with
  | nil => exact String.empty_append.symm
  | cons event events ih =>
    simp only [errorOutput, after, List.map_cons, List.cons_append, String.join_cons] at ih ⊢
    rw [ih]
    by_cases shown : filter.shows event <;> simp [shown, unlines, String.append_assoc]

theorem EventsFirst.after {outcome : Outcome} (first : outcome.EventsFirst)
    (events : List Log.Event) : (outcome.after events).EventsFirst := by
  intro filter
  rw [errorOutput_after, first filter, eventLines_after, errorLines_after, List.append_assoc,
    ← unlines_append]

/-- Whether a run fails, prints nothing, and has exactly the given lines on the error output, behind the
events that the filter shows. -/
structure Reports (outcome : Outcome) (lines : List String) : Prop where
  status : outcome.status = 1
  standardOutput : outcome.standardOutput = ""
  errorLines : outcome.errorLines = lines
  errorOutput : ∀ filter,
    outcome.errorOutput filter = unlines (outcome.eventLines filter ++ lines)

theorem reports_complain (lines : List String) : (complain lines).Reports lines where
  status := rfl
  standardOutput := standardOutput_complain lines
  errorLines := errorLines_complain lines
  errorOutput filter := by
    rw [eventLines_complain, List.nil_append, errorOutput_complain]

theorem Reports.after {outcome : Outcome} {lines : List String} (reports : outcome.Reports lines)
    (events : List Log.Event) : (outcome.after events).Reports lines where
  status := reports.status
  standardOutput := (standardOutput_after events outcome).trans reports.standardOutput
  errorLines := (errorLines_after events outcome).trans reports.errorLines
  errorOutput filter := by
    have first : outcome.EventsFirst := fun filter => by
      rw [reports.errorLines, reports.errorOutput]
    rw [first.after events filter, errorLines_after, reports.errorLines]

/-- Outcomes that differ in nothing but events. -/
structure Alike (left right : Outcome) : Prop where
  status : left.status = right.status
  standardOutput : left.standardOutput = right.standardOutput
  errorLines : left.errorLines = right.errorLines

theorem Alike.refl (outcome : Outcome) : Alike outcome outcome :=
  ⟨rfl, rfl, rfl⟩

theorem alike_after (outcome : Outcome) (events others : List Log.Event) :
    Alike (outcome.after events) (outcome.after others) where
  status := rfl
  standardOutput := by rw [standardOutput_after, standardOutput_after]
  errorLines := by rw [errorLines_after, errorLines_after]

end Outcome

end StaticAtoms
