import FolderSieve.Program.Arguments
import FolderSieve.Settings
import FolderSieve.Text.Paragraph

/-!
# Program — help

The help page of a command: how it is used, what it does, and a table of its options in two
columns.  Pages are eighty characters wide.
-/

namespace FolderSieve.Program

/-- The width of a page. -/
def pageWidth : Nat :=
  80

/-- The widest first column a table makes room for. -/
def columnLimit : Nat :=
  30

/-- A row of a table whose second column starts at `column`.  A first entry that does not fit has
a line of its own. -/
def tableRow (column : Nat) (row : String × String) : String :=
  let margin := "\n".pushn ' ' (column + 2)
  let width := max (pageWidth - column - 2) 10
  let text := (Text.wrap width row.2.toList).map String.ofList
  let gap := if row.1.length + 2 ≤ column then "".pushn ' ' (column - row.1.length) else margin
  "  " ++ row.1 ++ gap ++ margin.intercalate text ++ "\n"

/-- A table below its title. -/
def table (title : String) (rows : List (String × String)) : String :=
  let widest := rows.foldl (fun n row => max n row.1.length) 0
  title ++ ":\n" ++ String.join (rows.map (tableRow (min widest columnLimit + 2)))

/-- The commands of the program. -/
inductive CommandName where
  | main
  | build
  | check
  deriving DecidableEq, Repr

namespace CommandName

/-- How a command is called. -/
def path : CommandName → String
  | .main => "sievegen"
  | .build => "sievegen build"
  | .check => "sievegen check"

/-- The line that says how a command is used. -/
def usage (c : CommandName) : String :=
  let arguments :=
    match c with
    | .main => "[OPTIONS] COMMAND [ARGS]..."
    | .build | .check => "[OPTIONS]"
  s!"Usage: {c.path} {arguments}\n"

/-- What a command does. -/
def purpose : CommandName → String
  | .main => "sievegen: compile a JSON folder tree into a Sieve mail filter."
  | .build => "Compile the folder config into a Sieve script."
  | .check => "Compile without writing and summarize each domain."

/-- The row of the help option. -/
def helpRow : String × String :=
  ("--help", "Show this message and exit.")

/-- A description with the default behind it. -/
def withDefault (description default : String) : String :=
  s!"{description}  [default: {default}]"

/-- The row of the option for the configuration. -/
def configRow (s : Settings) : String × String :=
  ("-c, --config TEXT", withDefault "Folder config JSON file." s.configPath)

/-- The options of a command, given the settings that hold without them. -/
def optionRows (s : Settings) : CommandName → List (String × String)
  | .main => [("-v, --verbose", "Enable debug logging."), helpRow]
  | .build =>
      [configRow s,
        ("-p, --prefix TEXT",
          withDefault "Sieve file prepended to the output (ignored if missing)." s.preamblePath),
        ("-o, --output TEXT",
          withDefault "Output file, or directory to write filter.sieve into." s.outputPath),
        ("--force-domain-folder / --no-force-domain-folder",
          withDefault "Prefix every folder with @<domain>/ for all domains."
            (if s.forceFirstFolder then "force-domain-folder" else "no-force-domain-folder")),
        helpRow]
  | .check => [configRow s, helpRow]

/-- The help page of a command. -/
def page (s : Settings) (c : CommandName) : String :=
  c.usage ++ "\n  " ++ c.purpose ++ "\n\n" ++ table "Options" (c.optionRows s) ++
    match c with
    | .main =>
        "\n" ++ table "Commands" [("build", purpose .build), ("check", purpose .check)]
    | .build | .check => ""

/-- What a usage error of a command prints. -/
def complain (c : CommandName) (e : UsageError) : String :=
  (if e.showsUsage then c.usage ++ s!"Try '{c.path} --help' for help.\n\n" else "") ++
    s!"Error: {e.message}\n"

end CommandName

end FolderSieve.Program
