import FolderSieve.Config.File
import FolderSieve.Program.Task
import FolderSieve.Rules.Script

/-!
# Program — a run

`run` says what the program does with its arguments, its environment and the files it can see:
what it prints, what it reports, how it exits, and what the files are afterwards.

`build` compiles the configuration into a script and writes it; if that cannot be done the script
is printed instead.  Everything that can fail before comes before the script is written.  `check`
compiles each domain and counts its rules.  What is printed is plain text, whatever the files and
the arguments hold.
-/

namespace FolderSieve.Program

/-- All that can be seen of a run. -/
structure Run where
  exitCode : Nat := 0
  stdout : String := ""
  stderr : String := ""
  events : List Event := []
  crash : Option Crash := none
  workspace : Workspace

namespace Run

/-- A run that ends with a message. -/
def fails (w : Workspace) (message : String) (events : List Event := []) (stdout : String := "") :
    Run :=
  { exitCode := 1, stdout, stderr := s!"Error: {message}\n", events, workspace := w }

/-- A run that breaks off. -/
def crashes (w : Workspace) (crash : Crash) (events : List Event := []) : Run :=
  { exitCode := 1, events, crash := some crash, workspace := w }

/-- A text as it is printed: without control sequences, and with a line feed at the end of each
line that a carriage return and a line feed end. -/
def plainText (s : String) : String :=
  String.ofList (Text.unifyPairs (Text.dropSequences s.toList))

/-- A run that prints plain text. -/
def plain (r : Run) : Run :=
  { r with stdout := plainText r.stdout, stderr := plainText r.stderr }

end Run

/-- Why there is no configuration at a path. -/
abbrev LoadFault := Refusal ⊕ Config.File.Fault

/-- What is said where there is no configuration at a path. -/
def loadMessage (path : String) : LoadFault → String
  | .inl .missing => s!"Config file not found: {path}"
  | .inl why => s!"Cannot read config file {path}: {why.message}"
  | .inr (.notUtf8 fault) => s!"Config file {path} is not valid UTF-8: {fault.message}"
  | .inr (.notJson text) => s!"Config file {path} is not valid JSON: {text}"
  | .inr (.mistaken e) => e.text

/-- The domains configured in the file at a path. -/
def loadDomains (w : Workspace) (path : String) : Except LoadFault (List Config.Domain) :=
  match w.read (.ofString path) with
  | .error why => .error (.inl why)
  | .ok content => (Config.File.decode content).mapError .inr

/-- The end of a run without a configuration.  A path that cannot be one breaks it off. -/
def unloaded (w : Workspace) (path : String) : LoadFault → Run
  | .inl .unnameable => .crashes w (.refused .unnameable)
  | fault => .fails w (loadMessage path fault)

/-- How configured domains are reported. -/
def loadedEvent (path : String) (domains : List Config.Domain) : Event :=
  .loaded (Path.ofString path).toString domains.length

/-- The text that goes before a script, which is empty if there is no such file. -/
def loadPreamble (w : Workspace) (path : String) : Except Crash (String × List Event) :=
  let p := Path.ofString path
  match w.isFile p with
  | .error why => .error (.refused why)
  | .ok false => .ok ("", [.preambleMissing p.toString])
  | .ok true =>
      match w.read p with
      | .error why => .error (.refused why)
      | .ok content =>
          match Text.Utf8.decode content with
          | .error fault => .error (.notText fault)
          | .ok text => .ok (String.ofList (Text.unifyBreaks text), [])

/-- The file that a directory receives. -/
def outputName : String :=
  "filter.sieve"

/-- The file that a script is written to: the one asked for, or one in the directory asked for. -/
def outputTarget (w : Workspace) (path : String) : Except Refusal Path :=
  let p := Path.ofString path
  (w.isDirectory p).map fun yes => if yes then p.inside outputName else p

/-- Writes a script, and gives back the path it was written to. -/
def writeScript (w : Workspace) (path script : String) : Except Refusal (Path × Workspace) :=
  match outputTarget w path with
  | .error why => .error why
  | .ok target => (w.write target script).map fun w => (target, w)

/-- The end of a build whose script was written. -/
def written (w : Workspace) (events : List Event) (domains : Nat) (target script : String) : Run :=
  { stdout := s!"Wrote {domains} domain(s) to {target}\n"
    events := events ++ [.wrote script.utf8ByteSize target]
    workspace := w }

/-- The end of a build whose script could not be written. -/
def dumped (w : Workspace) (events : List Event) (output script : String) : Run :=
  { stdout := script ++ "\n"
    stderr := s!"Write to {output} failed, dumping final content to stdout...\n"
    events := events ++ [.writeFailed output]
    workspace := w }

/-- Compiles a configuration and writes the script. -/
def build (w : Workspace) (plan : BuildPlan) : Run :=
  match loadDomains w plan.config with
  | .error fault => unloaded w plan.config fault
  | .ok domains =>
      let loaded := [loadedEvent plan.config domains]
      match loadPreamble w plan.preamble with
      | .error crash => .crashes w crash loaded
      | .ok (preamble, events) =>
          let script := Script.compile preamble plan.firstFolder domains
          let events := loaded ++ events ++ script.events
          match script.result with
          | .error e => .fails w e.text events
          | .ok script =>
              match writeScript w plan.output script with
              | .error .unnameable => .crashes w (.refused .unnameable) events
              | .error _ => dumped w events plan.output script
              | .ok (target, w) => written w events domains.length target.toString script

/-- The line on a domain that has been checked. -/
def summary (r : DomainRules) : String :=
  s!"@{r.domain}: {r.custom.size} custom, {r.generic.size} generic\n"

/-- The lines on domains up to the first that fails, what was reported, and how that failed. -/
def checkDomains : List Config.Domain → String × List Event × Option Config.Error
  | [] => ("", [], none)
  | d :: ds =>
      let rules := d.rules false
      match rules.result with
      | .error e => ("", rules.events, some e)
      | .ok r =>
          let (lines, events, failure) := checkDomains ds
          (summary r ++ lines, rules.events ++ events, failure)

/-- Compiles a configuration and counts the rules of each domain. -/
def check (w : Workspace) (config : String) : Run :=
  match loadDomains w config with
  | .error fault => unloaded w config fault
  | .ok domains =>
      let (lines, events, failure) := checkDomains domains
      let events := loadedEvent config domains :: events
      match failure with
      | some e => .fails w e.text events lines
      | none => { stdout := lines ++ "Config OK.\n", events, workspace := w }

/-- What comes of a task. -/
def outcome (w : Workspace) : Task → Run
  | .print page => { stdout := page, workspace := w }
  | .remind page => { exitCode := 2, stderr := page, workspace := w }
  | .refuse complaint => { exitCode := 2, stderr := complaint, workspace := w }
  | .build plan => build w plan
  | .check config => check w config

/-- Does what the program is asked to do, and prints plain text. -/
def perform (w : Workspace) (task : Task) : Run :=
  (outcome w task).plain

/-- Runs the program. -/
def run (arguments : List String) (env : Settings.Environment) (w : Workspace) : Run :=
  match Settings.load env w with
  | .error crash => .crashes w crash
  | .ok s => perform w (Task.ofArguments s arguments)

end FolderSieve.Program
