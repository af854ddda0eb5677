import Rowwise.CommandLine.Arguments

/-!
# Help

The help texts of the program and its commands, and what is told about arguments that make no
command.
-/

namespace Rowwise.CommandLine

namespace Topic

/-- The lines of a help text. -/
def helpLines : Topic → List String
  | program =>
    ["Render CSV/TSV rows through a text pattern",
     "",
     "Usage: rowcast <COMMAND>",
     "",
     "Commands:",
     "  render     Render every data row through a pattern",
     "  parse      Parse a file and output the dataset as JSON",
     "  compile    Compile a pattern and output the program as JSON",
     "  functions  Show available pattern functions",
     "  serve      Start HTTP server",
     "  help       Print this message or the help of the given subcommand(s)",
     "",
     "Options:",
     "  -h, --help  Print help"]
  | render =>
    ["Render every data row through a pattern",
     "",
     "Usage: rowcast render [OPTIONS] --pattern <PATTERN> [INPUT]",
     "",
     "Arguments:",
     "  [INPUT]  Input file (reads stdin when omitted and --text is not given)",
     "",
     "Options:",
     "  -t, --text <TEXT>                      Inline input text instead of a file",
     "  -p, --pattern <PATTERN>                Pattern applied to each row",
     "  -s, --separator <SEPARATOR>            " ++
       "Separator: comma or tab (auto-detect if not specified)",
     "      --header                           Treat the first row as column names",
     "      --line-separator <LINE_SEPARATOR>  " ++
       "Text appended after each rendered row [default: \"\\n\"]",
     "      --strict                           Reject patterns with unbalanced parentheses",
     "  -o, --output <OUTPUT>                  Output file (default: stdout)",
     "  -h, --help                             Print help"]
  | parse =>
    ["Parse a file and output the dataset as JSON",
     "",
     "Usage: rowcast parse [OPTIONS] <INPUT>",
     "",
     "Arguments:",
     "  <INPUT>  Input file",
     "",
     "Options:",
     "  -s, --separator <SEPARATOR>  Separator: comma or tab (auto-detect if not specified)",
     "      --header                 Treat the first row as column names",
     "  -o, --output <OUTPUT>        Output file (default: stdout)",
     "  -h, --help                   Print help"]
  | compile =>
    ["Compile a pattern and output the program as JSON",
     "",
     "Usage: rowcast compile [OPTIONS] <PATTERN>",
     "",
     "Arguments:",
     "  <PATTERN>  Pattern to compile",
     "",
     "Options:",
     "      --strict  Fail on structural problems instead of reporting them",
     "  -h, --help    Print help"]
  | functions =>
    ["Show available pattern functions",
     "",
     "Usage: rowcast functions",
     "",
     "Options:",
     "  -h, --help  Print help"]
  | serve =>
    ["Start HTTP server",
     "",
     "Usage: rowcast serve [OPTIONS]",
     "",
     "Options:",
     "  -p, --port <PORT>  Port to listen on (default: ROWCAST_PORT or 3000)",
     "  -h, --help         Print help"]
  | help =>
    ["Print this message or the help of the given subcommand(s)",
     "",
     "Usage: rowcast help [COMMAND]...",
     "",
     "Arguments:",
     "  [COMMAND]...  Print help for the subcommand(s)"]

/-- The help text. -/
def helpText (topic : Topic) : Text :=
  topic.helpLines.flatMap fun line => line.toList ++ ['\n']

end Topic

namespace UsageError

/-- The message for the user. -/
def message : UsageError → String
  | noCommand => "a command is required"
  | unknownCommand name => "there is no command '" ++ String.ofList name ++ "'"
  | unknownOption argument => "unexpected argument '" ++ String.ofList argument ++ "'"
  | missingValue option => "a value is required for '--" ++ option ++ "'"
  | superfluousValue option => "'--" ++ option ++ "' takes no value"
  | repeatedOption option => "'--" ++ option ++ "' cannot be used several times"
  | badValue option value =>
    "invalid value '" ++ String.ofList value ++ "'" ++
      (if option.isEmpty then "" else " for '--" ++ option ++ "'")
  | superfluousArgument argument => "unexpected argument '" ++ String.ofList argument ++ "'"
  | missingArgument name => "a value is required for '" ++ name ++ "'"
  | conflict first second => "'" ++ first ++ "' cannot be used with '" ++ second ++ "'"

end UsageError

end Rowwise.CommandLine
