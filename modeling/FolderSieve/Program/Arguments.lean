import FolderSieve.Text.Quoted
import FolderSieve.Text.Similar

/-!
# Program — arguments

The command line is `sievegen`, options, the name of a command, and options of that command.  An
option has a long name, and perhaps a short one of a single letter; it may take a value, which
follows in the next argument, after an equals sign behind a long name, or right behind a short
one.  Short names may stand together behind one hyphen.  After two hyphens nothing is an option.
-/

namespace FolderSieve.Program

/-- What an option asks for. -/
inductive Switch where
  | help
  | verbose
  | config
  | preamble
  | output
  | firstFolder (on : Bool)
  deriving DecidableEq, Repr

namespace Switch

/-- The option takes a value. -/
def takesValue : Switch → Bool
  | .config | .preamble | .output => true
  | .help | .verbose | .firstFolder _ => false

end Switch

/-- The names of options, as they are written. -/
structure OptionTable where
  long : List (String × Switch)
  short : List (Char × Switch)

/-- The options before a command. -/
def mainTable : OptionTable where
  long := [("--verbose", .verbose), ("--help", .help)]
  short := [('v', .verbose)]

/-- The options of `build`. -/
def buildTable : OptionTable where
  long := [("--config", .config), ("--prefix", .preamble), ("--output", .output),
    ("--force-domain-folder", .firstFolder true), ("--no-force-domain-folder", .firstFolder false),
    ("--help", .help)]
  short := [('c', .config), ('p', .preamble), ('o', .output)]

/-- The options of `check`. -/
def checkTable : OptionTable where
  long := [("--config", .config), ("--help", .help)]
  short := [('c', .config)]

/-- What is wrong with a command line. -/
inductive UsageError where
  | unknownOption (name : String) (similar : List String)
  | valueMissing (name : String)
  | valueUnwanted (name : String)
  | commandMissing
  | unknownCommand (name : String) (similar : List String)
  | tooManyArguments (arguments : List String)
  deriving DecidableEq, Repr

namespace UsageError

/-- What was perhaps meant. -/
def suggestion : List String → String
  | [] => ""
  | [name] => s!" Did you mean {Text.quoted name}?"
  | names =>
      " (Did you mean one of: " ++
        ", ".intercalate ((sortBy (fun a b => a ≤ b) names).map Text.quoted) ++ "?)"

def message : UsageError → String
  | .unknownOption name similar =>
      s!"No such option {Text.quoted name}." ++ suggestion similar
  | .valueMissing name => s!"Option {Text.quoted name} requires an argument."
  | .valueUnwanted name => s!"Option {Text.quoted name} does not take a value."
  | .commandMissing => "Missing command."
  | .unknownCommand name similar =>
      s!"No such command {Text.quoted name}." ++ suggestion similar
  | .tooManyArguments arguments =>
      let many := if arguments.length = 1 then "argument" else "arguments"
      s!"Got unexpected extra {many} (" ++ " ".intercalate arguments ++ ")"

/-- How the command is used stands before the message. -/
def showsUsage : UsageError → Bool
  | .valueMissing _ | .valueUnwanted _ => false
  | .unknownOption .. | .commandMissing | .unknownCommand .. | .tooManyArguments _ => true

end UsageError

/-- An option that was given, with its value; empty if it takes none. -/
abbrev Given := Switch × String

/-- The options that were given, in order, and the arguments that are none. -/
structure Scanned where
  given : List Given
  rest : List String
  deriving DecidableEq, Repr

namespace Scanned

/-- Other options came first. -/
def withOptions (gs : List Given) (s : Scanned) : Scanned :=
  { s with given := gs ++ s.given }

/-- Another argument came first. -/
def withArgument (argument : String) (s : Scanned) : Scanned :=
  { s with rest := argument :: s.rest }

/-- An option was given. -/
def has (s : Scanned) (switch : Switch) : Bool :=
  s.given.any fun g => g.1 == switch

/-- The value an option was given last, or a default. -/
def valueOr (s : Scanned) (switch : Switch) (default : String) : String :=
  ((s.given.reverse.find? fun g => g.1 == switch).map (·.2)).getD default

/-- What the last of the options on the first folder says, or a default. -/
def firstFolderOr (s : Scanned) (default : Bool) : Bool :=
  let last := s.given.reverse.findSome? fun
    | (.firstFolder on, _) => some on
    | _ => none
  last.getD default

end Scanned

/-- Short names behind one hyphen: the options without a value, and perhaps one with a value at
the end, which is either there or in the next argument. -/
structure Cluster where
  flags : List Given
  last : Option (String × Switch × Option String)

/-- The short names that `letters` spell. -/
def cluster (t : OptionTable) : (letters : List Char) → Except UsageError Cluster
  | [] => .ok ⟨[], none⟩
  | c :: letters =>
      let name := String.ofList ['-', c]
      match t.short.find? fun o => o.1 == c with
      | none => .error (.unknownOption name [])
      | some (_, switch) =>
          if switch.takesValue then
            let value := if letters.isEmpty then none else some (String.ofList letters)
            .ok ⟨[], some (name, switch, value)⟩
          else
            (cluster t letters).map fun k => { k with flags := (switch, "") :: k.flags }

/-- A long option cut at its first equals sign. -/
def cutValue (argument : String) : String × Option String :=
  let name := argument.toList.takeWhile (· != '=')
  match argument.toList.dropWhile (· != '=') with
  | _ :: value => (String.ofList name, some (String.ofList value))
  | [] => (argument, none)

/-- An argument that has the form of an option: a hyphen and more. -/
def isOption (argument : String) : Bool :=
  match argument.toList with
  | '-' :: _ :: _ => true
  | _ => false

/-- The options that one argument gives, the last of which may wait for its value. -/
def optionsOf (t : OptionTable) (argument : String) : Except UsageError Cluster :=
  let (name, value) := cutValue argument
  match t.long.find? fun o => o.1 == name with
  | some (_, switch) =>
      if switch.takesValue then .ok ⟨[], some (name, switch, value)⟩
      else if value.isSome then .error (.valueUnwanted name)
      else .ok ⟨[(switch, "")], none⟩
  | none =>
      if "--".toList.isPrefixOf argument.toList then
        .error (.unknownOption name (Text.closeMatches name (t.long.map (·.1))))
      else cluster t (argument.toList.drop 1)

/-- Reads arguments.  Options may come after other arguments only if they are `mixed`; if not,
reading ends at the first argument that is no option. -/
def scan (t : OptionTable) (mixed : Bool) : List String → Except UsageError Scanned
  | [] => .ok ⟨[], []⟩
  | argument :: rest =>
      if argument = "--" then .ok ⟨[], rest⟩
      else if isOption argument then
        match optionsOf t argument with
        | .error e => .error e
        | .ok ⟨flags, none⟩ => (scan t mixed rest).map (Scanned.withOptions flags)
        | .ok ⟨flags, some (_, switch, some value)⟩ =>
            (scan t mixed rest).map (Scanned.withOptions (flags ++ [(switch, value)]))
        | .ok ⟨flags, some (name, switch, none)⟩ =>
            match rest with
            | [] => .error (.valueMissing name)
            | value :: rest =>
                (scan t mixed rest).map (Scanned.withOptions (flags ++ [(switch, value)]))
      else if mixed then (scan t mixed rest).map (Scanned.withArgument argument)
      else .ok ⟨[], argument :: rest⟩

end FolderSieve.Program
