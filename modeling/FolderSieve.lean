import FolderSieve.Main
import FolderSieve.Program.Run
import FolderSieve.Settings.EnvFile
import FolderSieve.Text.Similar
import FolderSieve.Text.Wrap
import FolderSieve.Rules.Script
import FolderSieve.Config.Domain
import FolderSieve.Folder
import FolderSieve.Options
import FolderSieve.Sieve.Printer
import FolderSieve.Json.Reader
import FolderSieve.Text.Control
import FolderSieve.Text.Line
import FolderSieve.Text.Lowercase
import FolderSieve.Text.Quoted
import FolderSieve.Text.Utf8
import FolderSieve.Proofs.Text.Indentation
import FolderSieve.Proofs.Sieve.Token
import FolderSieve.Proofs.Sieve.Statement
import FolderSieve.Proofs.Sieve.Reading
import FolderSieve.Proofs.Rules.Located
import FolderSieve.Proofs.Config.Decoding
import FolderSieve.Proofs.Rules.Reordering
import FolderSieve.Proofs.Sieve.Row
import FolderSieve.Proofs.Rules.Outline
import FolderSieve.Proofs.Folder.Prefixes
import FolderSieve.Proofs.Rules.Verbatim
import FolderSieve.Proofs.Sieve.Execution
import FolderSieve.Proofs.Rules.Reached
import FolderSieve.Proofs.Rules.Routing
import FolderSieve.Proofs.Rules.Unknown
import FolderSieve.Proofs.Rules.Registry
import FolderSieve.Proofs.Folder.Localpart
import FolderSieve.Proofs.Rules.Soundness
import FolderSieve.Proofs.Rules.Malformed
import FolderSieve.Proofs.Json.Members
import FolderSieve.Proofs.Config.OptionsBlock
import FolderSieve.Proofs.Config.Reading
import FolderSieve.Proofs.Config.Writing
import FolderSieve.Proofs.Rules.Compilation
import FolderSieve.Proofs.Sieve.Glob
import FolderSieve.Proofs.Rules.Derived
import FolderSieve.Proofs.Rules.Filing
import FolderSieve.Proofs.Rules.Specificity
import FolderSieve.Proofs.Rules.Stations
import FolderSieve.Proofs.Rules.Fault
import FolderSieve.Proofs.Rules.Secrets
import FolderSieve.Proofs.Rules.Labels
import FolderSieve.Proofs.Options.Inheritance
import FolderSieve.Proofs.Rules.Incremental
import FolderSieve.Proofs.Rules.Rearrangement
import FolderSieve.Proofs.Rules.Uniqueness
import FolderSieve.Proofs.Json.Truth
import FolderSieve.Proofs.Config.Respelling
import FolderSieve.Proofs.Config.FirstFolder
import FolderSieve.Proofs.Config.Printable
import FolderSieve.Proofs.Text.FinalSigma
import FolderSieve.Proofs.Folder.Fullpath
import FolderSieve.Proofs.Rules.FirstFolder
import FolderSieve.Proofs.Sieve.Layout
import FolderSieve.Proofs.Rules.Controls
import FolderSieve.Proofs.Config.Positions
import FolderSieve.Proofs.Rules.Visits
import FolderSieve.Proofs.Rules.Warnings
import FolderSieve.Proofs.Workspace
import FolderSieve.Proofs.Text.Plain
import FolderSieve.Proofs.Text.Lines
import FolderSieve.Proofs.Sieve.StringList
import FolderSieve.Proofs.Text.Lowercase
import FolderSieve.Proofs.Folder.NormalForm
import FolderSieve.Proofs.Program.Output
import FolderSieve.Proofs.Program.Agreement
