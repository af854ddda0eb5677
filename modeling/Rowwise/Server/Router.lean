import Rowwise.Log.Channel
import Rowwise.Server.Config
import Rowwise.Server.Error
import Rowwise.Server.Upload

/-!
# Answering requests

The server keeps a cache, and a log channel to which everybody can subscribe. Requests are
answered in turn; each answer leaves the server in a new state.
-/

namespace Rowwise.Server

/-- A request, with its headers in order. -/
structure HttpRequest where
  method : String
  path : Text
  headers : List (Text × Bytes)
  body : Bytes

/-- The body of a response. -/
inductive Body
  | empty
  | json (value : Json)
  /-- The log entries for a subscriber, as they come. -/
  | events (subscriber : Nat)
  /-- A reason in plain words, which nothing depends on. -/
  | reason

/-- A response. -/
structure Response where
  status : Nat
  headers : List (String × String)
  body : Body

/-- What the server keeps from request to request. -/
structure State where
  cache : Cache
  log : Log.Channel Log.Message
  draws : Draws

namespace State

/-- A server that was just started. -/
def start (config : Config) (draws : Draws) : State :=
  ⟨.new config.cacheCapacity.toNat, .empty, draws⟩

/-- Tells something to those who follow the log. -/
def tell (state : State) (messages : List Log.Message) : State :=
  { state with log := state.log.sendAll messages }

end State

namespace Response

/-- A response with a JSON body. -/
def ofJson (status : Nat) (value : Json) : Response :=
  ⟨status, [("content-type", "application/json")], .json value⟩

/-- There is nothing to answer. -/
def noContent : Response := ⟨204, [], .empty⟩

/-- A request that does not even reach the part of the server that it is meant for. -/
def refusal (status : Nat) : Response := ⟨status, [], .reason⟩

end Response

/-! ### Answers -/

/-- The answer that tells an error. -/
def failed (state : State) (status : Nat) (message : String) : Response × State :=
  let (body, draws) := errorBody message.toList state.draws
  (.ofJson status body, { state with draws })

/-- The answer to a request that is bad for some reason. -/
def badRequest (state : State) (reason : String) : Response × State :=
  let error := Error.badRequest reason.toList
  failed state error.status error.message

/-- What the server is and how its cache does. -/
def health (state : State) : Json :=
  .record [("status", .ofString "ok"), ("service", .ofString "rowcast"),
    ("version", .ofString "0.1.0"), ("cache", state.cache.stats.toJson),
    ("endpoints", .record [("render", .ofString "POST /api/render"),
      ("upload", .ofString "POST /api/upload"), ("functions", .ofString "GET /api/functions"),
      ("logs", .ofString "GET /api/logs (SSE)")])]

/-- An entry of the function table as a value. -/
def functionJson (f : Function) : Json :=
  .record [("name", .string f.name), ("arity", .ofString f.arity.text),
    ("description", .ofString f.description), ("deterministic", .bool f.isDeterministic)]

/-- The function table as a value. -/
def functionsJson : Json :=
  .array (Function.table.map functionJson)

/-- Runs a job with the cache of the server and tells its log; `answer` makes the body of the
answer from the outcome, unless there is none. -/
def runJob (state : State) (request : Job.Request)
    (answer : Job.Outcome → Draws → Json × Draws) : Response × State :=
  match Job.runOnWorker request .default (some state.cache) state.draws with
  | .error error =>
    let told := state.tell [.ofString .error ("Job failed: " ++ error.message)]
    failed told (Error.job error).status (Error.job error).message
  | .ok result =>
    let state := { state with cache := result.cache.getD state.cache, draws := result.draws }
    match result.outcome with
    | none => (.noContent, state)
    | some outcome =>
      let state := state.tell outcome.log
      let (body, draws) := answer outcome state.draws
      (.ofJson 200 body, { state with draws })

/-! ### Bodies -/

/-- The greatest number of bytes in a body. -/
def bodyLimit : Nat := 2 * 1024 * 1024

/-- The content type of a request. -/
def contentType? (request : HttpRequest) : Option MediaType := do
  let named := fun (header : Text × Bytes) => header.1.map Char.toLower = "content-type".toList
  MediaType.ofText? (← Multipart.visibleText? (← request.headers.find? named).2)

/-- The text of a body. Bytes that are no text become U+0000, which JSON does not allow. -/
def bodyText (body : Bytes) : Text :=
  (Utf8.items body).map fun
    | .char c => c
    | _ => '\x00'

/-- Renders the job in a JSON body. -/
def render (state : State) (request : HttpRequest) : Response × State :=
  if !((contentType? request).any MediaType.isJson) then (.refusal 415, state)
  else if request.body.length > bodyLimit then (.refusal 413, state)
  else
    match Job.Request.ofDocument (bodyText request.body) with
    | .error .mismatch => (.refusal 422, state)
    | .error .malformed | .error .truncated => (.refusal 400, state)
    | .ok job => runJob state job fun outcome draws => (outcome.toJson, draws)

/-- The body of the answer to an upload, under a random job number. -/
def uploadBody (form : Form) (upload : Upload) (outcome : Job.Outcome) (draws : Draws) :
    Json × Draws :=
  let (id, draws) := draws.uuid
  let fileName : Json := match form.fileName with
    | some name => .string name
    | none => .null
  (.record ([("jobId", .string id), ("fileName", fileName),
    ("encoding", .ofString upload.encoding),
    ("separatorKind", .ofString upload.request.separator.name)] ++ outcome.fields), draws)

variable (decoders : Charset.Decoders)

/-- Renders the file in a form. Nothing is answered if the detection of its encoding breaks off. -/
def renderForm (state : State) (form : Form) : Option Response × State :=
  match form.file with
  | none =>
    (some .noContent, state.tell [.ofString .warning "Upload without a file, nothing to render"])
  | some bytes =>
    let name := form.fileName.getD "unknown".toList
    let state := state.tell [.ofString .info ("📄 Upload: " ++ String.ofList name ++ " (" ++
      toString bytes.length ++ " bytes)")]
    match Upload.ofBytes decoders bytes form.pattern form.separator form.hasHeader with
    | .error (.detection _) => (none, state)
    | .error (.decoding error) =>
      let (response, state) := badRequest state error.message
      (some response, state)
    | .ok upload =>
      let (response, state) := runJob state upload.request (uploadBody form upload)
      (some response, state)

/-- Renders the file that the parts of a form hold. A separator that is not known is told before a
fault after it. -/
def renderParts (state : State) (parts : Multipart) : Option Response × State :=
  match Form.ofFields decoders parts.fields, parts.fault with
  | .error error, _ =>
    let (response, state) := badRequest state error.message
    (some response, state)
  | .ok _, some fault =>
    let (response, state) := failed state 400 fault.message
    (some response, state)
  | .ok form, none => renderForm decoders state form

/-- Renders the file in a body that is sent in parts. -/
def renderUpload (state : State) (request : HttpRequest) : Option Response × State :=
  match (contentType? request).bind MediaType.boundary? with
  | none => (some (.refusal 400), state)
  | some boundary =>
    if request.body.length > bodyLimit then renderParts decoders state (.broken .noPart)
    else renderParts decoders state (.ofBody boundary request.body)

/-! ### Routes -/

/-- The parts of the server. -/
inductive Route
  | health
  | render
  | upload
  | functions
  | logs
  deriving DecidableEq

namespace Route

/-- The route of a path, whose query does not count. -/
def ofPath? (path : Text) : Option Route :=
  let path := path.takeWhile fun c => c ≠ '?' && c ≠ '#'
  [("/".toList, health), ("/health".toList, health), ("/api/render".toList, render),
   ("/api/upload".toList, upload), ("/api/functions".toList, functions),
   ("/api/logs".toList, logs)].lookup path

/-- The method of a route. -/
def method : Route → String
  | health | functions | logs => "GET"
  | render | upload => "POST"

end Route

/-- The answer of a route, with its body. -/
def serve (state : State) (request : HttpRequest) : Route → Option Response × State
  | .health => (some (.ofJson 200 (health state)), state)
  | .functions => (some (.ofJson 200 functionsJson), state)
  | .logs =>
    let (subscriber, log) := state.log.subscribe
    (some ⟨200, [("content-type", "text/event-stream")], .events subscriber⟩, { state with log })
  | .render =>
    let (response, state) := render state request
    (some response, state)
  | .upload => renderUpload decoders state request

/-- The answer without headers for other origins. `HEAD` is answered like `GET`, but without a
body, and opens no stream. -/
def dispatch (state : State) (request : HttpRequest) : Option Response × State :=
  match Route.ofPath? request.path with
  | none => (some (.refusal 404), state)
  | some route =>
    if request.method = route.method then serve decoders state request route
    else if request.method = "HEAD" && route.method = "GET" then
      ((serve decoders state request route).1.map fun response => { response with body := .empty },
        state)
    else (some (.refusal 405), state)

/-- The answer that allows other origins to ask. -/
def preflight : Response :=
  ⟨200, [("access-control-allow-origin", "*"),
    ("access-control-allow-methods", "GET,POST,OPTIONS"),
    ("access-control-allow-headers", "content-type,accept")], .empty⟩

/-- A response that other origins may see. -/
def shared (response : Response) : Response :=
  { response with
    headers := response.headers ++
      [("access-control-allow-origin", "*"), ("access-control-expose-headers", "content-type")] }

/-- Answers a request. There is no answer if the server breaks off. -/
def answer (state : State) (request : HttpRequest) : Option Response × State :=
  if request.method = "OPTIONS" then (some preflight, state)
  else
    let (response, state) := dispatch decoders state request
    (response.map shared, state)

/-- The messages that a stream has received since it was last read. -/
def readStream (state : State) (subscriber : Nat) : List Log.Message × State :=
  let (delivery, log) := state.log.receive subscriber
  (delivery.items, { state with log })

end Rowwise.Server
