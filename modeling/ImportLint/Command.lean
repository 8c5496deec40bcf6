import ImportLint.Options.Help
import ImportLint.Options.Parse
import ImportLint.Plan
import ImportLint.Report.Terminal
import ImportLint.Tree.Canonical

/-!
# The command

One run of the command: from a command line and a file tree to what is printed, the exit status, and
the tree with the report files that were asked for.
-/

namespace ImportLint

namespace Command

/-- What a run does by calls inside each other, as many as its input has levels. Files make no level,
so of a tree only its directories and links count. -/
inductive Work where
  /-- Resolving a path, with links inside links. -/
  | resolve (withoutFiles : Node) (path : Text)
  /-- Reading the text of a configuration, with arrays and tables inside each other. -/
  | read (configuration : Text)
  /-- Walking from a root as a plan asks for it, with directories inside each other. -/
  | walk (withoutFiles : Node) (root : Path) (plan : Plan)

structure Surroundings where
  workingDirectory : Place
  now : Text
  terminal : Bool
  /-- The words for a configuration that cannot be read. -/
  reason : ConfigFault → Text
  /-- Whether the host stops some work because it does not allow so many calls inside each other.
  How many it allows is known only to the host, and it depends on who has called the command. -/
  stops : Work → Bool

structure Outcome where
  exit : Nat
  /-- What is said last when there is nothing to analyze. -/
  exitMessage : Option Text := none
  output : Text := []
  errors : Text := []
  deriving DecidableEq, Repr

inductive Crash where
  | valueMissing (opt : Opt)
  | path (error : Node.ResolveError)
  /-- The tree cannot tell what is at a path, or a report file cannot be written. -/
  | access (error : AccessError)
  | integerTooLong (digits : Nat)
  /-- The host does not allow as many calls inside each other as some work takes. -/
  | callsTooDeep
  deriving DecidableEq, Repr

def Crash.message : Crash → Text
  | valueMissing opt => (Misuse.valueMissing opt).message
  | path error => error.message
  | access error => error.message
  | integerTooLong digits =>
    "Exceeds the limit (".toList ++ Text.ofNat Toml.digitLimit ++
      " digits) for integer string conversion: value has ".toList ++ Text.ofNat digits ++
      " digits".toList
  | callsTooDeep => "maximum recursion depth exceeded".toList

def Crash.ofStop : Config.Stop → Crash
  | .access error => .access error
  | .integerTooLong digits => .integerTooLong digits

def Surroundings.allow (surroundings : Surroundings) (work : Work) : Except Crash Unit :=
  if surroundings.stops work then .error .callsTooDeep else .ok ()

def asLine (t : Text) : Text := t ++ ['\n']

/-- The log lines that are shown: warnings, or everything if the options ask for it. -/
def logLines (surroundings : Surroundings) (options : Options) (events : List Event) : Text :=
  (events.filter fun event => options.verbose || event.level = .warning).flatMap fun event =>
    asLine (event.line surroundings.reason)

def printed (surroundings : Surroundings) (options : Options) (report : Report) : Text :=
  match options.format with
  | .json => asLine report.json
  | .text =>
    let color := !options.noColor && surroundings.terminal
    (report.diagnostics.flatMap fun diagnostic => asLine (diagnostic.line color)) ++
      asLine (report.summaryLine?.getD [])

structure Job where
  root : Path
  scope : Scope
  events : List Event

def configure (tree : Node) (surroundings : Surroundings) (directory : Path) :
    Except Crash (Config × List Event) := do
  if let .ok text := Config.textAt tree (directory.below [Config.fileName]) then
    surroundings.allow (.read text)
  (Config.load tree directory).mapError .ofStop

/-- What configuration and options ask for in the project at a path. -/
def job (tree : Node) (surroundings : Surroundings) (options : Options) (directory : Path) :
    Except Crash Job := do
  let (config, events) ← configure tree surroundings directory
  -- The path may still pass through links, and what they lead to is what is analyzed.
  surroundings.allow (.resolve tree.withoutFiles directory.text)
  let root ← (tree.canonical surroundings.workingDirectory directory.text).mapError .path
  let plan := Plan.of config options
  surroundings.allow (.walk tree.withoutFiles root plan)
  let scope ← (plan.scopeAt tree root).mapError .valueMissing
  return ⟨root, scope, events⟩

def Job.report (job : Job) (tree : Node) (now : Text) : Report × List Event :=
  let (report, events) :=
    analyze tree job.root now job.scope.included job.scope.excluded job.scope.extensions
  (report, job.events ++ events)

def runAt (tree : Node) (surroundings : Surroundings) (options : Options) (directory : Path) :
    Node × Except Crash Outcome :=
  match job tree surroundings options directory with
  | .error crash => (tree, .error crash)
  | .ok job =>
    let (report, events) := job.report tree surroundings.now
    let (tree, written) :=
      if options.writeReport then writeReport tree directory report else (tree, .ok ())
    match written with
    | .error error => (tree, .error (.access error))
    | .ok () =>
      (tree, .ok {
        exit := if report.diagnostics.isEmpty then 0 else 1
        output := printed surroundings options report
        errors := logLines surroundings options events })

/-- The directory that the options name, in canonical form, or how the run ends without one. -/
def directory (tree : Node) (workingDirectory : Place) (options : Options) :
    Except (Except Crash Outcome) Path :=
  match options.path with
  | none => .error (.error (.valueMissing .path))
  | some path =>
    match tree.canonical workingDirectory path with
    | .error error => .error (.error (.path error))
    | .ok directory =>
      match tree.existsAt directory with
      | .error error => .error (.error (.access error))
      | .ok _ =>
        if tree.isDirAt directory then .ok directory
        else
          .error (.ok {
            exit := 1
            exitMessage :=
              some ("Path does not exist or is not a directory: ".toList ++ directory.text) })

def runOptions (tree : Node) (surroundings : Surroundings) (options : Options) :
    Node × Except Crash Outcome :=
  if options.path.any fun path => surroundings.stops (.resolve tree.withoutFiles path) then
    (tree, .error .callsTooDeep)
  else
    match directory tree surroundings.workingDirectory options with
    | .error ending => (tree, ending)
    | .ok directory => runAt tree surroundings options directory

def run (tree : Node) (surroundings : Surroundings) (arguments : List Text) :
    Node × Except Crash Outcome :=
  match Options.parse arguments with
  | .error misuse =>
    (tree, .ok {
      exit := 2
      errors := Help.usage ++ asLine (Help.program ++ ": error: ".toList ++ misuse.message) })
  | .ok .help => (tree, .ok { exit := 0, output := Help.full })
  | .ok .version => (tree, .ok { exit := 0, output := Help.version })
  | .ok (.run options) => runOptions tree surroundings options

end Command

end ImportLint
