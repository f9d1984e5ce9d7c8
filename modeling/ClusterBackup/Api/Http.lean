import ClusterBackup.Api.Target
import ClusterBackup.Json.Reader
import ClusterBackup.Retry

/-! Talking to an API server: requests, and what their answers say.

A refusal is described by the body of the answer, or else by its number and text. -/

set_option autoImplicit false

namespace ClusterBackup.Api

open Json

inductive Method where
  | get
  | post
  | put
  | patch
  | delete
  deriving DecidableEq, Repr

structure HttpRequest where
  method : Method
  target : Target
  contentType : String := "application/json"
  body : Option Json := none
  deriving BEq, Repr

structure HttpResponse where
  status : Nat
  body : Json
  deriving BEq, Repr

inductive Exchange : Type → Type where
  | send (request : HttpRequest) : Exchange HttpResponse
  | now : Exchange Duration
  | sleep (time : Duration) : Exchange Unit

instance : Timed Exchange where
  now := .now
  sleep := .sleep

namespace Method

def name : Method → String
  | .get => "GET"
  | .post => "POST"
  | .put => "PUT"
  | .patch => "PATCH"
  | .delete => "DELETE"

end Method

/-- The phrases of the numbers of refusals. -/
def phrases : List (Nat × String) :=
  [ (400, "Bad Request"), (401, "Unauthorized"), (402, "Payment Required"), (403, "Forbidden"),
    (404, "Not Found"), (405, "Method Not Allowed"), (406, "Not Acceptable"),
    (407, "Proxy Authentication Required"), (408, "Request Timeout"), (409, "Conflict"),
    (410, "Gone"), (411, "Length Required"), (412, "Precondition Failed"),
    (413, "Payload Too Large"), (414, "URI Too Long"), (415, "Unsupported Media Type"),
    (416, "Range Not Satisfiable"), (417, "Expectation Failed"), (418, "I'm a teapot"),
    (421, "Misdirected Request"), (422, "Unprocessable Entity"), (423, "Locked"),
    (424, "Failed Dependency"), (425, "Too Early"), (426, "Upgrade Required"),
    (428, "Precondition Required"), (429, "Too Many Requests"),
    (431, "Request Header Fields Too Large"),
    (451, "Unavailable For Legal Reasons"), (500, "Internal Server Error"),
    (501, "Not Implemented"), (502, "Bad Gateway"), (503, "Service Unavailable"),
    (504, "Gateway Timeout"), (505, "HTTP Version Not Supported"),
    (506, "Variant Also Negotiates"), (507, "Insufficient Storage"), (508, "Loop Detected"),
    (510, "Not Extended"), (511, "Network Authentication Required") ]

def phrase (status : Nat) : String :=
  ((phrases.find? (·.1 == status)).map (·.2)).getD "<unknown status code>"

def errorOf? (j : Json) : Option ApiError := do
  let members ← Json.record? ["status", "message", "reason", "code"] j
  return {
    status := ← members.required "status" Json.text?
    message := ← members.defaulted "message" "" Json.text?
    reason := ← members.defaulted "reason" "" Json.text?
    code := ← members.required "code" fun j => (j.within? 0 65535).map Int.toNat }

namespace HttpResponse

def isRefusal (r : HttpResponse) : Bool := 400 ≤ r.status && r.status < 600

def error (r : HttpResponse) : ApiError :=
  (errorOf? r.body).getD
    { status := Number.textOf r.status ++ " " ++ phrase r.status
      message := Text.quote r.body.write
      reason := "Failed to parse error data"
      code := r.status }

def read {α : Type} (shape : Shape) (decode : Json → Option α) (r : HttpResponse) :
    Except Failure α := do
  if r.isRefusal then throw (.api r.error)
  match Json.read shape r.body.write with
  | .error fault => throw (malformed fault)
  | .ok j =>
    match decode j with
    | some a => return a
    | none => throw (malformed "the value is out of bounds")
where
  malformed (reason : String) : Failure := .answer ("Error deserializing response: " ++ reason)

end HttpResponse

abbrev Traffic := ExceptT Failure (Program Exchange)

def requestTo (method : Method) (target : String) : Traffic HttpRequest :=
  match Target.parse? target with
  | some target => pure { method, target }
  | none =>
    throw (.answer "Failed to build request: failed to build request: invalid uri character")

/-- Sends a request whose answer has a shape of its own choice. -/
def sendFor {α : Type} (shape : HttpResponse → Shape) (decode : Json → Option α)
    (request : HttpRequest) : Traffic α :=
  ExceptT.mk ((Program.ask (.send request)).bind fun response =>
    .done (response.read (shape response) decode))

def send {α : Type} (shape : Shape) (decode : Json → Option α) (request : HttpRequest) :
    Traffic α :=
  sendFor (fun _ => shape) decode request

namespace Traffic

def mapFailure {α : Type} (change : Failure → Except Failure α) (t : Traffic α) : Traffic α :=
  ExceptT.mk (t.run.bind fun
    | .ok a => .done (.ok a)
    | .error failure => .done (change failure))

/-- Without an object that is not found. -/
def unlessMissing {α : Type} (t : Traffic α) : Traffic (Option α) :=
  mapFailure (fun
    | .api e => if e.reason = "NotFound" then .ok none else .error (.api e)
    | failure => .error failure) (some <$> t)

/-- As a write, whose conflicts have a cause of their own. -/
def asWrite {α : Type} (t : Traffic α) : Traffic α :=
  mapFailure (fun
    | .api e => .error (.ofWrite e)
    | failure => .error failure) t

end Traffic

end ClusterBackup.Api
