import ClusterBackup.Api.Http

/-! An API server whose answers are prescribed. -/

set_option autoImplicit false

namespace ClusterBackup.Simulation

open Api

/-- The answers to the requests of one method and path in turn, the last one for all further
ones. -/
structure Prescribed where
  method : String
  path : String
  responses : List HttpResponse
  calls : Nat := 0

structure Service where
  prescribed : List Prescribed := []
  log : List HttpRequest := []
  clock : Nat := 0

namespace Service

/-- A refusal that was not prescribed in detail. -/
def refusal (status : Nat) : HttpResponse :=
  { status
    body := .object
      [ ("apiVersion", .string "v1"), ("code", .nat status), ("kind", .string "Status"),
        ("message", .string ("scripted " ++ Number.textOf status)), ("metadata", .object []),
        ("reason", .string (if status = 404 then "NotFound" else "Scripted")),
        ("status", .string "Failure") ] }

def next (request : HttpRequest) : List Prescribed → HttpResponse × List Prescribed
  | [] => (refusal 404, [])
  | p :: rest =>
    if p.method = request.method.name ∧ p.path = request.target.path then
      ((p.responses[p.calls]? <|> p.responses.getLast?).getD (refusal 404),
        { p with calls := p.calls + 1 } :: rest)
    else
      let (response, rest) := next request rest
      (response, p :: rest)

def answer {α : Type} (exchange : Exchange α) (s : Service) : α × Service :=
  match exchange with
  | .send request =>
    let (response, prescribed) := next request s.prescribed
    (response, { s with prescribed, log := s.log ++ [request] })
  | .now => (Duration.ofMillis s.clock, s)
  | .sleep time => ((), { s with clock := s.clock + time.nanos / 1000000 })

def enough : Nat := 100000

def run {α : Type} (s : Service) (program : Program Exchange α) : Option (α × Service) :=
  program.run answer enough s

end Service

end ClusterBackup.Simulation
