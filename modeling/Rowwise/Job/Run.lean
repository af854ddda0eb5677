import Rowwise.Cache.Basic
import Rowwise.Job.Request
import Rowwise.Log.Message
import Rowwise.Table.Reader

/-!
# Running jobs

A job reads its text once, prepares its pattern once, and renders every row. An incomplete request
is no error: nothing is done, and there is no outcome.
-/

namespace Rowwise.Job

/-- Why a job has no outcome though its request is complete. -/
inductive Error
  /-- The pattern is malformed, and that was not to be tolerated. -/
  | pattern (error : PatternError)
  /-- The worker that ran the job broke off. -/
  | worker (message : Text)
  deriving DecidableEq

namespace Error

/-- The message for the user. -/
def message : Error → String
  | pattern error => "Pattern error: " ++ error.message
  | worker message => "Worker failed: " ++ String.ofList message

end Error

/-- What a job gives, and what it told on the way. -/
structure Outcome where
  hasHeader : Bool
  report : Report
  log : List Log.Message
  deriving DecidableEq

namespace Outcome

/-- The fields of the answer to a request. -/
def fields (outcome : Outcome) : List (String × Json) :=
  [("hasHeaderRow", .bool outcome.hasHeader), ("renderedText", .string outcome.report.text)]

/-- The answer to a request. -/
def toJson (outcome : Outcome) : Json :=
  .record outcome.fields

end Outcome

/-! ### The log of a job -/

/-- What a job tells about the text that it has read. -/
def readingLog (request : Request) (data : Dataset) : List Log.Message :=
  let size := toString (Text.utf8Size request.rawText)
  let headers : List Log.Message :=
    if request.hasHeader then
      [(Log.Message.mk .info ("Headers: ".toList ++ Text.join [',', ' '] data.headers) 0).indented]
    else []
  .ofString .info ("📖 Parsing " ++ size ++ " bytes as " ++ request.separator.name ++
      "-separated text...") ::
    headers ++
    [.ofString .success ("Read " ++ toString data.rows.length ++ " rows (" ++
      toString data.columnCount ++ " columns)")]

/-- What a job tells about the rows that it has rendered. -/
def renderingLog (program : Prepared) (report : Report) : List Log.Message :=
  let faults : List Log.Message :=
    if report.substitutions = 0 then []
    else
      [.ofString .warning (toString report.substitutions ++
        " segment(s) rendered as ERR (unknown column or function)")]
  .ofString .info ("⚙️  Rendering rows (" ++ toString program.segmentCount ++ " segments)...") ::
    faults ++
    [.ofString .success ("Rendered " ++ toString report.rows ++ " lines (" ++
      toString (Text.utf8Size report.text) ++ " bytes)")]

/-! ### Running -/

/-- Runs a job by a prepared program. -/
def execute (request : Request) (program : Prepared) (options : Options) (draws : Draws) :
    Outcome × Draws :=
  let data := Table.parse request.rawText request.separator request.hasHeader
  let (report, draws) := program.render data options.lineSeparator draws
  (⟨request.hasHeader, report, readingLog request data ++ renderingLog program report⟩, draws)

/-- The prepared program of a pattern, from the cache if there is one to use. -/
def prepare (pattern : Text) (options : Options) (cache : Option Cache) :
    Prepared × Option Cache :=
  match cache, options.useCache with
  | some cache, true =>
    let (program, cache) := cache.request pattern
    (program, some cache)
  | _, _ => (.ofProgram (Pattern.compile pattern), cache)

/-- What is left after a job. -/
structure Result where
  outcome : Option Outcome
  cache : Option Cache
  draws : Draws

/-- Runs a job; malformed patterns are tolerated. -/
def run (request : Request) (options : Options) (cache : Option Cache) (draws : Draws) : Result :=
  if request.isComplete then
    let (program, cache) := prepare request.pattern options cache
    let (outcome, draws) := execute request program options draws
    ⟨some outcome, cache, draws⟩
  else ⟨none, cache, draws⟩

/-- Runs a job with default options and without a cache. -/
def runDefault (request : Request) (draws : Draws) : Option Outcome × Draws :=
  let result := run request .default none draws
  (result.outcome, result.draws)

/-- Runs a job unless its pattern is malformed. -/
def runStrict (request : Request) (options : Options) (draws : Draws) :
    Except Error (Option Outcome × Draws) :=
  if request.isComplete then do
    let program ← (Pattern.compileStrict request.pattern).mapError .pattern
    let (outcome, draws) := execute request (.ofProgram program) options draws
    .ok (some outcome, draws)
  else .ok (none, draws)

/-- How a worker that was given a job ended. -/
inductive Worker
  | finished (result : Result)
  | brokeOff (message : Text)

/-- The result that a worker hands back. -/
def Worker.result : Worker → Except Error Result
  | finished result => .ok result
  | brokeOff message => .error (.worker message)

/-- Runs a job on a worker, which finishes because running a job always does. -/
def runOnWorker (request : Request) (options : Options) (cache : Option Cache) (draws : Draws) :
    Except Error Result :=
  (Worker.finished (run request options cache draws)).result

end Rowwise.Job
