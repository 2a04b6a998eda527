import CallSite.Command.Arguments
import CallSite.Text.Numeral

/-!
# Help

What the command prints about itself.
-/

namespace CallSite.Command

def versionText : String := "linemap 0.0.0\n"

def usage : String := "Usage: linemap [OPTIONS] " ++ pathTitle

/-- The options as they are written, each with what it does. -/
def optionRows : List (String × String) := [
  ("    " ++ (Switch.report).title, "Also write a human-readable <MODULE>.linemapreport"),
  ("    " ++ (Switch.mode .file).title, "Write the map to a <MODULE>.lmp side-car file"),
  ("    " ++ (Switch.mode .resource).title, "Embed the map into the module image (default)"),
  ("    " ++ (Switch.mode .apiResource).title, "Same as --resource"),
  ("    " ++ (Setting.output).title,
    "Write the result here instead of next to (or into) the module"),
  ("    " ++ (Setting.level).title,
    "Log level (error, warn, info, debug, trace); overrides RUST_LOG"),
  ("    " ++ (Setting.format).title,
    "Log format (pretty or json); overrides LINEMAP_LOG_FORMAT"),
  ("-h, " ++ (Switch.help).title, "Print help"),
  ("-V, " ++ (Switch.version).title, "Print version")]

/-- The width of the longest of the options. -/
def optionWidth : Nat :=
  (optionRows.map fun (option, _) => option.length).foldl max 0

def optionLine (row : String × String) : String :=
  "  " ++ Text.padRight optionWidth row.1 ++ "  " ++ row.2 ++ "\n"

def helpText : String :=
  "Embed compact source line maps into release binaries\n\n" ++ usage ++ "\n\n"
    ++ "Arguments:\n  " ++ pathTitle ++ "  Module (executable or shared library) to process\n\n"
    ++ "Options:\n" ++ String.join (optionRows.map optionLine)

/-- What is said about arguments that make no sense. -/
def Misuse.text (m : Misuse) : String :=
  "error: " ++ m.message ++ "\n\n" ++ usage ++ "\n\nFor more information, try '--help'."

end CallSite.Command
