import FolderSieve.Settings.EnvFile
import FolderSieve.Text.Lowercase
import FolderSieve.Workspace

/-!
# Settings

What holds unless the command line says otherwise.  Settings are variables with the prefix
`SIEVEGEN_`, taken from the environment and, where that is silent, from an environment file in the
working directory.  An empty variable is as good as none.
-/

namespace FolderSieve

/-- What the outside world does that a run cannot recover from. -/
inductive Crash where
  /-- A file that has to be text is not. -/
  | notText (fault : Text.Utf8.Fault)
  | refused (why : Refusal)
  deriving DecidableEq, Repr

namespace Crash

def message : Crash → String
  | .notText fault => fault.message
  | .refused why => why.message

end Crash

/-- The paths and the switch that a run starts from. -/
structure Settings where
  configPath : String
  preamblePath : String
  outputPath : String
  forceFirstFolder : Bool
  deriving DecidableEq, Repr

namespace Settings

/-- The variables of a process. -/
abbrev Environment := List (String × String)

/-- What the name of every setting starts with. -/
def variablePrefix : String :=
  "SIEVEGEN_"

/-- The names of the settings, without what they all start with. -/
def names : List String :=
  ["ENV_FILE", "CONFIG_PATH", "PREFIX_PATH", "OUTPUT_PATH", "FORCE_DOMAIN_FOLDER"]

/-- The environment file that is read: the one a variable names, or `sievegen.env`. -/
def filePath (env : Environment) : String :=
  ((env.find? fun v => v.1 == variablePrefix ++ "ENV_FILE").map (·.2)).getD "sievegen.env"

/-- The variables of the environment file; none if there is no such file. -/
def fileVariables (env : Environment) (w : Workspace) : Except Crash (List EnvFile.Variable) :=
  let path := Path.ofString (filePath env)
  match w.isFile path with
  | .error why => .error (.refused why)
  | .ok false => .ok []
  | .ok true =>
      match w.read path with
      | .error why => .error (.refused why)
      | .ok content =>
          match Text.Utf8.decode content with
          | .error fault => .error (.notText fault)
          | .ok text => .ok (EnvFile.read env text)

/-- Adds the settings of the environment to variables, and lets them win. -/
def overlay (env : Environment) (vs : List EnvFile.Variable) : List EnvFile.Variable :=
  let own := env.filter fun v => variablePrefix.toList.isPrefixOf v.1.toList
  vs.filter (fun v => !own.any fun o => o.1 == v.1) ++ own.map fun o => (o.1, some o.2)

/-- All variables that settings are taken from, by ascending name. -/
def allVariables (env : Environment) (w : Workspace) : Except Crash (List EnvFile.Variable) :=
  (fileVariables env w).map fun vs => sortBy (fun a b => a.1 ≤ b.1) (overlay env vs)

/-- A value that stands for yes: `true` in any case, with white space around it. -/
def isYes (value : Option String) : Bool :=
  Text.lower (Text.trim (value.getD "").toList) == "true".toList

/-- The value of a setting, or a default in the place of an empty one. -/
def textOr (vs : List EnvFile.Variable) (name default : String) : String :=
  match vs.find? fun v => v.1 == variablePrefix ++ name with
  | some (_, some value) => if value = "" then default else value
  | _ => default

/-- The settings that variables make. -/
def ofVariables (vs : List EnvFile.Variable) : Settings :=
  { configPath := textOr vs "CONFIG_PATH" "sieve.config.json"
    preamblePath := textOr vs "PREFIX_PATH" "prefix.sieve"
    outputPath := textOr vs "OUTPUT_PATH" "filter.sieve"
    forceFirstFolder := isYes (some (textOr vs "FORCE_DOMAIN_FOLDER" "false")) }

/-- The settings of a run. -/
def load (env : Environment) (w : Workspace) : Except Crash Settings :=
  (allVariables env w).map ofVariables

end Settings

end FolderSieve
