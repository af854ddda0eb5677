import Rowwise.Charset.Reading
import Rowwise.CommandLine.Help
import Rowwise.CommandLine.Plan
import Rowwise.Job.Run
import Rowwise.Pattern.Document
import Rowwise.Server.Config

/-!
# Commands

What each command does, as a plan. Results go to standard output or into a file; what is told about
them goes to the terminal.
-/

namespace Rowwise

/-- A dataset as a value. -/
def Dataset.toJson (data : Dataset) : Json :=
  .record [("headers", .texts data.headers), ("rows", .array (data.rows.map .texts))]

namespace CommandLine

open Plan

variable (decoders : Charset.Decoders)

/-! ### Reading and writing -/

/-- The text in some bytes; its encoding is told. -/
def decodeInput (bytes : Bytes) : Plan Text :=
  match Charset.encodingOf bytes with
  | .error _ => .fail .abort
  | .ok encoding => do
    say ("   Encoding: " ++ encoding)
    match Charset.decodeAs decoders encoding bytes with
    | .ok text => pure text
    | .error error => failWith error.message

/-- The text in a file. -/
def readPath (path : Text) : Plan Text := do
  say ("📄 Reading: " ++ String.ofList path)
  decodeInput decoders (← contentOf path)

/-- The text of a source. -/
def readSource : Source → Plan Text
  | .file path => readPath decoders path
  | .inline text => pure text
  | .standardInput => do decodeInput decoders (← input)

/-- The separator that was asked for, or else the one guessed from the text; it is told. -/
def chooseSeparator (asked : Option Separator) (text : Text) : Plan Separator := do
  let kind := asked.getD (Separator.detect text)
  let remark := if asked.isNone then " (auto-detected)" else ""
  say ("   Separator: " ++ kind.name ++ remark)
  pure kind

/-- Writes a result to its file, or prints it. -/
def deliver (text : Text) : (output : Option Text) → Plan Unit
  | some path => do
    save path text
    say ("💾 Output written to: " ++ String.ofList path)
  | none => put text

/-- Names with commas between them. -/
def listing (names : List Text) : String :=
  String.ofList (Text.join [',', ' '] names)

/-! ### Commands -/

/-- Tells about an outcome, and delivers the rendered text. -/
def deliverOutcome (output : Option Text) : Option Job.Outcome → Plan Unit
  | none => say "⚠️  Nothing to render: input text or pattern is empty"
  | some outcome => do
    outcome.log.forM fun message => tell message.line (done ())
    say ("✅ Rendered " ++ toString (Text.utf8Size outcome.report.text) ++ " bytes")
    deliver outcome.report.text output

/-- Renders a text row by row. -/
def render (source : Source) (pattern : Text) (separator : Option Separator) (header : Bool)
    (lineSeparator : Text) (strict : Bool) (output : Option Text) (draws : Draws) :
    Plan Unit := do
  let text ← readSource decoders source
  let kind ← chooseSeparator separator text
  (Pattern.diagnose pattern).forM fun position =>
    say ("⚠️  Pattern: " ++ (PatternError.unbalancedParenthesis position).message)
  let request : Job.Request := ⟨text, pattern, kind, header⟩
  let options : Job.Options := ⟨lineSeparator, false⟩
  if strict then
    match Job.runStrict request options draws with
    | .ok (outcome, _) => deliverOutcome output outcome
    | .error error => failWith error.message
  else deliverOutcome output (Job.run request options none draws).outcome

/-- Shows the table in a file. -/
def parse (path : Text) (separator : Option Separator) (header : Bool) (output : Option Text) :
    Plan Unit := do
  let text ← readPath decoders path
  let kind ← chooseSeparator separator text
  let data := Table.parse text kind header
  if header then say ("   Columns: " ++ listing data.headers)
  say ("✅ Parsed " ++ toString data.rows.length ++ " rows")
  deliver (data.toJson.pretty ++ ['\n']) output

/-- Shows the program of a pattern. -/
def compile (pattern : Text) (strict : Bool) : Plan Unit := do
  let issues := (Pattern.diagnose pattern).map PatternError.unbalancedParenthesis
  match strict, issues with
  | true, issue :: _ => failWith issue.message
  | _, _ =>
    issues.forM fun issue => say ("⚠️  " ++ issue.message)
    let program := Pattern.compile pattern
    let columns := program.selectors
    let functions := program.functionNames
    if !columns.isEmpty then say ("   Columns: " ++ listing columns)
    if !functions.isEmpty then say ("   Functions: " ++ listing functions)
    put (program.document ++ ['\n'])

/-- The plan of a command. Serving takes a network, which a plan does not have. -/
def Command.plan (config : Server.Config) (draws : Draws) : Command → Plan Unit
  | .render source pattern separator header lineSeparator strict output =>
    CommandLine.render decoders source pattern separator header lineSeparator strict output draws
  | .parse input separator header output =>
    CommandLine.parse decoders input separator header output
  | .compile pattern strict => CommandLine.compile pattern strict
  | .functions => put (Function.help.toList ++ ['\n'])
  | .serve port =>
    let config := match port with
      | some port => config.withPort port
      | none => config
    failWith ("cannot listen on port " ++ toString config.port ++ " without a network")
  | .help topic => put topic.helpText

end CommandLine

end Rowwise
