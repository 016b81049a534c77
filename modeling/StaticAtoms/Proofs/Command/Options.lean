import StaticAtoms.Command.Run

/-!
# Flags without a value

A flag without a value is taken out of a command line before anything else is, so that it only shows
in the options: `understand_noCache`.
-/

namespace StaticAtoms

namespace Options

/-- The options with the cache switched off. -/
def withoutCache (options : Options) : Options :=
  { options with noCache := true }

theorem ofArguments_noCache (arguments : List String) :
    ofArguments (arguments ++ ["--no-cache"]) =
      (ofArguments arguments).map fun (options, rest) => (options.withoutCache, rest) := by
  have rest : (arguments ++ ["--no-cache"]).filter (fun argument => argument ∉ switches) =
      arguments.filter fun argument => argument ∉ switches := by
    rw [List.filter_append]
    exact List.append_nil _
  have verbose : "--verbose" ∈ arguments ++ ["--no-cache"] ↔ "--verbose" ∈ arguments := by
    simp
  have codePoints : "--code-points" ∈ arguments ++ ["--no-cache"] ↔ "--code-points" ∈ arguments := by
    simp
  have noCache : "--no-cache" ∈ arguments ++ ["--no-cache"] := by simp
  simp only [ofArguments, rest, verbose, codePoints, noCache, decide_true, bind, Except.bind]
  cases takeValue "--format" (arguments.filter fun argument => argument ∉ switches) with
  | error wrong => rfl
  | ok named =>
    dsimp only
    cases formatOf named.1 with
    | error wrong => rfl
    | ok format =>
      dsimp only
      cases takeValue "--out" named.2 with
      | error wrong => rfl
      | ok out =>
        dsimp only
        cases takeValue "--cache-dir" out.2 with
        | error wrong => rfl
        | ok directory =>
          dsimp only
          cases directory.2.find? isFlag <;> rfl

end Options

/-- The switch for the cache turns it off and changes nothing else, wherever it stands. -/
theorem understand_noCache {arguments : List String} {options : Options} {command : Command}
    (understood : understand arguments = .ok (options, command)) :
    understand (arguments ++ ["--no-cache"]) = .ok (options.withoutCache, command) := by
  simp only [understand, bind, Except.bind, Options.ofArguments_noCache] at understood ⊢
  cases read : Options.ofArguments arguments with
  | error wrong =>
    rw [read] at understood
    cases understood
  | ok parts =>
    obtain ⟨flags, rest⟩ := parts
    simp only [read, Except.map] at understood ⊢
    cases known : Command.ofArguments rest with
    | error wrong =>
      rw [known] at understood
      cases understood
    | ok command =>
      rw [known] at understood
      cases understood
      rfl

end StaticAtoms
