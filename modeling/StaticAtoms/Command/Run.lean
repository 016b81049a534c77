import StaticAtoms.Cache.Directory
import StaticAtoms.Command.Options
import StaticAtoms.Command.Outcome
import StaticAtoms.Log.Report
import StaticAtoms.Manifest.Validation

/-!
# Running commands

`run` carries out a command line in any monad with files.  The decisions are pure: `produce` makes an
output from a manifest, `check` looks at a generated table; only reading the input, the cache and
writing the output touch files.
-/

namespace StaticAtoms

/-- The version of the tool, which is part of every cache entry. -/
def toolVersion : String := "0.1.0"

/-- The text about the command line. -/
def helpText : String :=
  "atomtab CLI

Usage:
  atomtab hash [--code-points] <text>...
  atomtab gen <manifest.json> [--format table|json] [--out <file>]
  atomtab verify <generated.json>
  atomtab fingerprint <manifest.json>
  atomtab cache-info <manifest.json> [--format table|json]

Flags:
  --verbose          Log cache status and compile summaries
  --no-cache         Always regenerate output
  --cache-dir <dir>  Output cache directory (default: target/atomtab)
  --format <name>    Output format for gen: table (default) or json
  --out <file>       Write generated output to a file instead of stdout
  --code-points      Hash by Unicode scalar value instead of UTF-16 unit
  -h, --help         Show this help message

Environment:
  ATOMTAB_LOG=<filter>  Override the log filter (e.g. debug, atomtab::manifest=trace)

"

/-! ## Pure parts -/

/-- The line about a text: its hash, whether it is free of ASCII capitals, and the text itself. -/
def hashLine (codePoints : Bool) (text : String) : String :=
  let hash := if codePoints then Hash.ofScalars text else Hash.ofText text
  s!"0x{Hex.word hash}  lowercase={isLowercase text}  {Quoted.quote text}\n"

/-- The static atoms of a manifest's source. -/
def compileSource (source : String) : Except (List Problem) (List StaticAtom) :=
  match Manifest.parse source with
  | .error problem => .error [problem]
  | .ok manifest => manifest.compile

/-- The output for a manifest's source, with the events on the way.  Its atoms have to load into an
empty table. -/
def produce (source : String) (format : OutputFormat) :
    List Log.Event × Except (List Problem) String :=
  match compileSource source with
  | .error problems => ([], .error problems)
  | .ok atoms =>
      match (Table.empty : Table String).register atoms with
      | (.error problem, _) => (Log.compiled atoms, .error [problem])
      | (.ok ids, table) =>
          (Log.compiled atoms ++ Log.registered atoms ids table.size, .ok (format.render atoms))

/-- What there is to say about a generated table.  Of the checks, the first that fails is told. -/
def check (source : String) : Outcome :=
  match GeneratedTable.parse source with
  | .error problem => .failed [problem]
  | .ok table =>
      match StaticAtom.verifyAll table.atoms with
      | problem :: problems => .failed (problem :: problems)
      | [] =>
          if !table.fingerprintMatches then
            .failed [.fingerprintMismatch table.fingerprint table.computedFingerprint]
          else
            match (Table.empty : Table String).register table.atoms with
            | (.error problem, _) => .failed [problem]
            | (.ok ids, loaded) =>
                let stats := loaded.stats
                (Outcome.done <| s!"ok: {stats.atoms} atoms, {stats.buckets} buckets, "
                  ++ s!"largest bucket {stats.largestBucket}, {stats.collided} collided\n").after
                  (Log.registered table.atoms ids loaded.size)

/-- The fingerprint of a manifest's atoms. -/
def fingerprintOf (source : String) : Outcome :=
  match compileSource source with
  | .error problems => .failed problems
  | .ok atoms => (Outcome.done s!"{(Fingerprint.ofAtoms atoms).hex}\n").after (Log.compiled atoms)

/-- The lines about a cache entry. -/
def infoText (info : Cache.Info) : String :=
  s!"cache file: {info.path}\n" ++ s!"format version: {info.header.formatVersion}\n"
    ++ s!"tool version: {info.header.tool}\n" ++ s!"cache key: {info.header.key.hex}\n"
    ++ s!"output: {info.header.outputLength} bytes\n"

/-! ## Parts with files -/

variable {m : Type → Type} [Monad m] [MonadFiles m]

/-- Goes on with the text of a file, or complains that it cannot be read. -/
def withText (path : String) (next : String → m Outcome) : m Outcome := do
  match ← readText path with
  | .error cause => return .failed [.fileFailure path cause]
  | .ok text => next text

/-- Prints an output, or writes it into a file. -/
def deliver (out : Option String) (output : String) : m Outcome :=
  match out with
  | none => return .done output
  | some path => do
      match ← writeText path output with
      | .error cause => return .failed [.fileFailure path cause]
      | .ok () => return Outcome.after [⟨.debug, .command, s!"wrote {path}"⟩] ⟨[], true⟩

/-- Looks for an output in the cache, if there is one. -/
def fromCache (cache : Option Cache.Directory) (key : Digest) :
    m (List Log.Event × Option String) :=
  match cache with
  | none => return ([], none)
  | some directory => directory.load key toolVersion

/-- Stores an output in the cache, if there is one.  A failure is only told. -/
def intoCache (cache : Option Cache.Directory) (key : Digest) (output : String) :
    m (List Log.Event) :=
  match cache with
  | none => return []
  | some directory => do
      match ← directory.store ⟨toolVersion, key, output⟩ with
      | .ok path => return [⟨.debug, .command, s!"cache: stored {path}"⟩]
      | .error cause => return [⟨.warn, .command, s!"cache: store failed: {cause.message}"⟩]

/-- Generates the output of a manifest, unless the cache has it. -/
def generate (path : String) (format : OutputFormat) (out : Option String)
    (cache : Option Cache.Directory) : m Outcome :=
  withText path fun source => do
    let key := Cache.key (Text.utf8 source) format toolVersion
    let (noticed, cached) ← fromCache cache key
    match cached with
    | some output =>
        let hit : Log.Event := ⟨.debug, .command, s!"cache: hit ({key.hex})"⟩
        return (← deliver out output).after (noticed ++ [hit])
    | none =>
        match produce source format with
        | (made, .error problems) => return (Outcome.failed problems).after (noticed ++ made)
        | (made, .ok output) =>
            let kept ← intoCache cache key output
            return (← deliver out output).after (noticed ++ made ++ kept)

/-- Shows the cache entry of a manifest. -/
def cacheInfo (path : String) (format : OutputFormat) (cache : Cache.Directory) : m Outcome :=
  withText path fun source => do
    let (noticed, info?) ← cache.inspect (Cache.key (Text.utf8 source) format toolVersion)
    let text := match info? with
      | some info => infoText info
      | none => s!"no cache entry for {path} ({format.name})\n"
    return (Outcome.done text).after noticed

/-! ## Command lines -/

/-- The outcome of a wrong command line.  An unknown command is answered with the help text, too. -/
def misused (wrong : UsageError) : Outcome :=
  match wrong with
  | .unknownCommand _ => ⟨wrong.lines.map .complaint ++ [.output helpText], false⟩
  | _ => .complain wrong.lines

/-- Carries out a command. -/
def perform (options : Options) : Command → m Outcome
  | .help => return .done helpText
  | .hash texts => return .done (String.join (texts.map (hashLine options.codePoints)))
  | .generate manifest =>
      generate manifest options.format options.out
        (if options.noCache then none else some ⟨options.cacheDir⟩)
  | .verify table => withText table fun source => return check source
  | .fingerprint manifest => withText manifest fun source => return fingerprintOf source
  | .cacheInfo manifest => cacheInfo manifest options.format ⟨options.cacheDir⟩

/-- The options and the command of a command line. -/
def understand (arguments : List String) : Except UsageError (Options × Command) := do
  let (options, rest) ← Options.ofArguments arguments
  return (options, ← Command.ofArguments rest)

/-- Carries out a command line, given without the name of the program. -/
def run (arguments : List String) : m Outcome :=
  match understand arguments with
  | .error wrong => return misused wrong
  | .ok (options, command) => perform options command

/-- The log filter of a command line, where `setting` is the one that the environment asks for. -/
def logFilter (setting : Option String) (arguments : List String) : Log.Filter :=
  .choose setting (decide ("--verbose" ∈ arguments))

end StaticAtoms
