import Rowwise.Job.Run

/-!
# Errors of the server

How errors are answered.
-/

namespace Rowwise.Server

/-- Why a request cannot be served. -/
inductive Error
  /-- The job that it asked for failed. -/
  | job (error : Job.Error)
  /-- It asks for something that is not there. -/
  | badRequest (message : Text)
  /-- The connection failed. -/
  | connection (message : Text)
  deriving DecidableEq

namespace Error

/-- The message for the user. -/
def message : Error → String
  | job error => "Job error: " ++ error.message
  | badRequest message => "Invalid request: " ++ String.ofList message
  | connection message => "Server IO error: " ++ String.ofList message

/-- The status of the answer: only a bad request is the fault of who asked. -/
def status : Error → Nat
  | badRequest _ => 400
  | job _ | connection _ => 500

end Error

/-- The body of an answer that tells an error, under a random job number. -/
def errorBody (message : Text) (draws : Draws) : Json × Draws :=
  let (id, draws) := draws.uuid
  (.record [("jobId", .string id), ("status", .ofString "error"), ("error", .string message)],
    draws)

end Rowwise.Server
