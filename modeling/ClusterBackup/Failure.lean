import ClusterBackup.Number.Digits
import ClusterBackup.Text.Quoted

/-! What can go wrong, by cause, and the message of each cause. -/

set_option autoImplicit false

namespace ClusterBackup

open Number

/-- The status object with which the API server answers a refused call. -/
structure ApiError where
  status : String
  message : String
  reason : String
  code : Nat
  deriving DecidableEq, Repr

inductive Failure where
  | api (error : ApiError)
  /-- A call of the API server that fails without being refused. -/
  | answer (message : String)
  | client (message : String)
  | conflict (message : String)
  | notFound (object nameSpace name : String)
  | validation (message : String)
  | invalidSchedule (expression reason : String)
  | missingSecret (nameSpace name : String)
  | exhausted (operation : String) (attempts : Nat)
  | busy (holder : String)
  | tool (command message : String)
  | timeout (message : String)
  | files (message : String)
  | serialization (message : String)
  | metrics (message : String)
  deriving DecidableEq, Repr

namespace ApiError

def describe (e : ApiError) : String :=
  "ApiError: " ++ e.message ++ ": " ++ e.reason ++ " (ErrorResponse \x7b status: "
    ++ Text.quote e.status ++ ", message: " ++ Text.quote e.message ++ ", reason: "
    ++ Text.quote e.reason ++ ", code: " ++ textOf e.code ++ " \x7d)"

end ApiError

namespace Failure

def message : Failure → String
  | .api error => "kubernetes error: " ++ error.describe
  | .answer message => "kubernetes error: " ++ message
  | .client message => "client error: " ++ message
  | .conflict message => "conflict: " ++ message
  | .notFound object nameSpace name => object ++ " " ++ nameSpace ++ "/" ++ name ++ " not found"
  | .validation message => "validation error: " ++ message
  | .invalidSchedule expression reason =>
    "invalid cron expression " ++ Text.quote expression ++ ": " ++ reason
  | .missingSecret nameSpace name => "missing repository secret " ++ nameSpace ++ "/" ++ name
  | .exhausted operation attempts => operation ++ " failed after " ++ textOf attempts ++ " attempts"
  | .busy holder => "backup gate busy: held by " ++ holder
  | .tool command message => "restic " ++ command ++ " failed: " ++ message
  | .timeout message => "timed out: " ++ message
  | .files message => "io error: " ++ message
  | .serialization message => "serialization error: " ++ message
  | .metrics message => "metrics error: " ++ message

def isConflict : Failure → Bool
  | .conflict _ => true
  | .api error => error.code == 409
  | _ => false

def isNotFound : Failure → Bool
  | .notFound .. => true
  | .api error => error.code == 404
  | _ => false

/-- Errors in what a user wrote stay until it is changed, so trying again is useless. -/
def isRetryable : Failure → Bool
  | .validation _ | .invalidSchedule .. | .serialization _ => false
  | _ => true

def ofWrite (error : ApiError) : Failure :=
  if error.code = 409 then .conflict error.message else .api error

end Failure

end ClusterBackup
