import StaticAtoms.Generated.Format

/-!
# Command lines

* `Options.ofArguments` takes the flags out of a command line, wherever they stand.
* `Command.ofArguments` reads the command that remains.
* `UsageError` lists what can be wrong, and `UsageError.lines` words it.
-/

namespace StaticAtoms

/-- What is wrong with a command line. -/
inductive UsageError where
  | noValue (flag : String)
  | unknownFormat (name : String)
  | unknownFlag (flag : String)
  | noArgument (usage : String)
  | unknownCommand (name : String)
deriving DecidableEq

/-- The lines about a wrong command line. -/
def UsageError.lines : UsageError → List String
  | noValue flag => [s!"Usage: atomtab ... {flag} <value>"]
  | unknownFormat name => [s!"Error: unknown format `{name}` (expected table or json)"]
  | unknownFlag flag =>
      [s!"Error: unknown flag `{flag}`", "Run `atomtab --help` for the list of flags."]
  | noArgument usage => [s!"Usage: atomtab {usage}"]
  | unknownCommand name => [s!"Error: unknown command `{name}`"]

/-! ## Flags -/

/-- The flags of a command line. -/
structure Options where
  verbose : Bool
  noCache : Bool
  codePoints : Bool
  format : OutputFormat
  out : Option String
  cacheDir : String
deriving DecidableEq

namespace Options

/-- The flags without a value. -/
def switches : List String :=
  ["--verbose", "--no-cache", "--code-points"]

/-- Where outputs are kept unless another directory is named. -/
def defaultCacheDir : String := "target/atomtab"

/-- Takes the first occurrence of a flag and its value out of the arguments. -/
def takeValue (flag : String) :
    List String → Except UsageError (Option String × List String)
  | [] => .ok (none, [])
  | argument :: rest =>
      if argument = flag then
        match rest with
        | [] => .error (.noValue flag)
        | value :: rest => .ok (some value, rest)
      else
        match takeValue flag rest with
        | .error wrong => .error wrong
        | .ok (value, rest) => .ok (value, argument :: rest)

/-- The format of a name; the listing unless one is named. -/
def formatOf : Option String → Except UsageError OutputFormat
  | none => .ok .listing
  | some name =>
      match OutputFormat.ofName? name with
      | some format => .ok format
      | none => .error (.unknownFormat name)

/-- Whether an argument looks like a flag, but for the one that is a command. -/
def isFlag (argument : String) : Bool :=
  argument.startsWith "--" && argument ≠ "--help"

/-- Splits arguments into flags and the rest.  The flags without a value are taken out first. -/
def ofArguments (arguments : List String) : Except UsageError (Options × List String) := do
  let rest := arguments.filter fun argument => argument ∉ switches
  let (name, rest) ← takeValue "--format" rest
  let format ← formatOf name
  let (out, rest) ← takeValue "--out" rest
  let (cacheDir, rest) ← takeValue "--cache-dir" rest
  match rest.find? isFlag with
  | some flag => .error (.unknownFlag flag)
  | none =>
      return ({ verbose := "--verbose" ∈ arguments
                noCache := "--no-cache" ∈ arguments
                codePoints := "--code-points" ∈ arguments
                format, out
                cacheDir := cacheDir.getD defaultCacheDir }, rest)

end Options

/-! ## Commands -/

/-- What the user wants done. -/
inductive Command where
  | help
  | hash (texts : List String)
  | generate (manifest : String)
  | verify (table : String)
  | fingerprint (manifest : String)
  | cacheInfo (manifest : String)
deriving DecidableEq

namespace Command

/-- A command about a file, which is its first argument; others are ignored. -/
def onFile (usage : String) (command : String → Command) :
    List String → Except UsageError Command
  | [] => .error (.noArgument usage)
  | path :: _ => .ok (command path)

/-- Reads the arguments without flags. -/
def ofArguments : List String → Except UsageError Command
  | [] => .ok help
  | name :: arguments =>
      match name with
      | "-h" | "--help" | "help" => .ok help
      | "hash" =>
          if arguments.isEmpty then .error (.noArgument "hash [--code-points] <text>...")
          else .ok (hash arguments)
      | "gen" =>
          onFile "gen <manifest.json> [--format table|json] [--out <file>]" generate arguments
      | "verify" => onFile "verify <generated.json>" verify arguments
      | "fingerprint" => onFile "fingerprint <manifest.json>" fingerprint arguments
      | "cache-info" =>
          onFile "cache-info <manifest.json> [--format table|json]" cacheInfo arguments
      | other => .error (.unknownCommand other)

end Command

end StaticAtoms
