import Scratchpad.CommandLine.Arguments

/-!
What the command line says about itself.
-/

set_option autoImplicit false
set_option relaxedAutoImplicit false

namespace Scratchpad.CommandLine

def versionText : Text :=
  "runbox 0.1.0\n".toList

def overviewText : Text :=
  Text.ofLines [
    "Command-line front end for the runbox snippet engine",
    "",
    "Usage: runbox [OPTIONS] <COMMAND>",
    "",
    "Commands:",
    "  run     Run a snippet file and print the result as JSON",
    "  locate  Show the interpreter and package manager found for a language",
    "  help    Print this message or the help of the given subcommand(s)",
    "",
    "Options:",
    "  -v, --verbose  Verbose logging",
    "  -h, --help     Print help",
    "  -V, --version  Print version"]

def locateText : Text :=
  Text.ofLines [
    "Show the interpreter and package manager found for a language",
    "",
    "Usage: runbox locate [OPTIONS] <LANGUAGE>",
    "",
    "Arguments:",
    "  <LANGUAGE>  Language to look up",
    "",
    "Options:",
    "  -v, --verbose  Verbose logging",
    "  -h, --help     Print help"]

def helpOnHelpText : Text :=
  Text.ofLines [
    "Print this message or the help of the given subcommand(s)",
    "",
    "Usage: runbox help [COMMAND]...",
    "",
    "Arguments:",
    "  [COMMAND]...  Print help for the subcommand(s)"]

def variableText (env : Environment) (s : Switch) : Text :=
  match variableOf? s with
  | some name => " [env: ".toList ++ name ++ '=' :: (env.lookup name).getD [] ++ [']']
  | none => []

/-- The column in which the help on the options of a run starts: two blanks behind the longest of
them. -/
def helpColumn : Nat :=
  37

/-- A text whose further lines are set in to the column of the help. -/
def indented (t : Text) : Text :=
  t.flatMap fun c => if c = '\n' then '\n' :: List.replicate helpColumn ' ' else [c]

def optionText (env : Environment) (s : Switch) (given does : String) : Text :=
  let label := "  ".toList ++ given.toList
  label ++ List.replicate (helpColumn - label.length) ' ' ++
    indented (does.toList ++ variableText env s) ++ ['\n']

def runText (env : Environment) : Text :=
  Text.ofLines [
    "Run a snippet file and print the result as JSON",
    "",
    "Usage: runbox run [OPTIONS] <FILE>",
    "",
    "Arguments:",
    "  <FILE>  Snippet file",
    "",
    "Options:"] ++
  optionText env .language "-l, --language <LANGUAGE>"
    "Language of the snippet (default: inferred from the file extension)" ++
  optionText env .noEcho "    --no-auto-log" "Do not wrap bare expressions in output calls" ++
  optionText env .timeLimit "    --timeout-ms <TIMEOUT_MS>"
    "Kill the interpreter after this many milliseconds" ++
  optionText env .verbose "-v, --verbose" "Verbose logging" ++
  optionText env .packagesDir "    --packages-dir <PACKAGES_DIR>"
    "Package directory added to the interpreter's search path" ++
  optionText env .interpreter "    --interpreter <INTERPRETER>"
    "Interpreter to use instead of searching for one" ++
  optionText env .tempDir "    --temp-dir <TEMP_DIR>" "Directory for temporary script files" ++
  optionText env .pretty "    --pretty" "Pretty-print the JSON result" ++
  optionText env .help "-h, --help" "Print help"

def helpText (env : Environment) : Topic → Text
  | .overview => overviewText
  | .run => runText env
  | .locate => locateText
  | .help => helpOnHelpText

end Scratchpad.CommandLine
