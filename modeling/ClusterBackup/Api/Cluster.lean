import ClusterBackup.Api.Http
import ClusterBackup.Cluster.Shape.Definition
import ClusterBackup.Request
import ClusterBackup.Resource.Definition

/-! The objects of a cluster through its API server. -/

set_option autoImplicit false

namespace ClusterBackup.Api

open Cluster Json

/-- The path of a collection. The oldest version has no group. -/
def collection (apiVersion nameSpace plural : String) : String :=
  (if apiVersion.toList.contains '/' then "/apis/" else "/api/") ++ apiVersion ++ "/namespaces/"
    ++ nameSpace ++ "/" ++ plural

def resources (kind : ResourceKind) (nameSpace : String) : String :=
  collection kind.apiVersion nameSpace kind.plural

def workloads (kind : WorkloadKind) (nameSpace : String) : String :=
  collection kind.apiVersion nameSpace kind.plural

def pods (nameSpace : String) : String := collection "v1" nameSpace "pods"

/-- A list of objects. Null stands for no items. -/
def listShape (item : Shape) : Shape :=
  .openRecord "ObjectList"
    [ Shape.dft "metadata" Shape.listMetadata,
      Shape.req "items" (.orNull (.many item)) ]

def itemsOf? {α : Type} (decode : Json → Option α) (j : Json) : Option (List α) := do
  (← j.members?).lenient "items" [] (Json.list? decode)

def member (path name : String) : Traffic String :=
  if name = "" then
    throw (.answer "Failed to build request: failed to validate request: A non-empty name is required")
  else pure (path ++ "/" ++ name)

def getObject {α : Type} (shape : Shape) (decode : Json → Option α) (path name : String) :
    Traffic (Option α) := do
  let request ← requestTo .get (← member path name)
  (send shape decode request).unlessMissing

def list {α : Type} (item : Shape) (decode : Json → Option α) (path : String)
    (parameters : List (String × String)) : Traffic (List α) := do
  let request ← requestTo .get (Target.text path parameters)
  send (listShape item) (itemsOf? decode) request

def putObject {α : Type} (shape : Shape) (decode : Json → Option α) (path : String)
    (body : Json) : Traffic α := do
  let request ← requestTo .put (Target.text path [])
  (send shape decode { request with body }).asWrite

def homeOf {kind : ResourceKind} (object : Resource kind) : Traffic String :=
  match object.metadata.nameSpace with
  | some nameSpace => pure nameSpace
  | none => throw (.validation (object.name ++ " has no namespace"))

def get (kind : ResourceKind) (nameSpace name : String) : Traffic (Option (Resource kind)) :=
  getObject (Resource.shape kind) (Resource.ofJson? kind) (resources kind nameSpace) name

def listResources (kind : ResourceKind) (nameSpace : String) : Traffic (List (Resource kind)) :=
  list (Resource.shape kind) (Resource.ofJson? kind) (resources kind nameSpace) []

def create {kind : ResourceKind} (object : Resource kind) : Traffic (Resource kind) := do
  let nameSpace ← homeOf object
  let request ← requestTo .post (Target.text (resources kind nameSpace) [])
  (send (Resource.shape kind) (Resource.ofJson? kind)
    { request with body := object.toJson }).asWrite

def replace {kind : ResourceKind} (object : Resource kind) : Traffic (Resource kind) := do
  let nameSpace ← homeOf object
  let path ← member (resources kind nameSpace) object.name
  putObject (Resource.shape kind) (Resource.ofJson? kind) path object.toJson

def replaceStatus {kind : ResourceKind} (object : Resource kind) : Traffic (Resource kind) := do
  let nameSpace ← homeOf object
  let path ← member (resources kind nameSpace) object.name
  putObject (Resource.shape kind) (Resource.ofJson? kind) (path ++ "/status") object.toJson

def secret (nameSpace name : String) : Traffic (Option Secret) :=
  getObject Secret.shape Secret.ofJson? (collection "v1" nameSpace "secrets") name

def workload (kind : WorkloadKind) (nameSpace name : String) : Traffic (Option Workload) :=
  getObject (Workload.shape kind) (Workload.ofJson? kind) (workloads kind nameSpace) name

def replaceWorkload (w : Workload) : Traffic Workload := do
  let path ← member (workloads w.kind w.nameSpace) w.name
  putObject (Workload.shape w.kind) (Workload.ofJson? w.kind) path w.toJson

def selecting (selector : String) : List (String × String) := [("labelSelector", selector)]

def listPods (nameSpace selector : String) : Traffic (List Pod) :=
  list Shape.pod Pod.ofJson? (pods nameSpace) (selecting selector)

/-- How the server tells of what became of a call. -/
def statusShape : Shape :=
  .record "Status"
    [ Shape.opt "status" (.choice ["Success", "Failure"]), Shape.dft "code" (.whole unsigned16),
      Shape.dft "message" .text, Shape.dft "reason" .text, Shape.opt "details" details ]
where
  details : Shape :=
    .record "StatusDetails"
      (["name", "group", "kind", "uid"].map (Shape.dft · .text)
        ++ [ Shape.dft "causes" (.many (.record "StatusCause"
              (["reason", "message", "field"].map (Shape.dft · .text)))),
             Shape.dft "retryAfterSeconds" (.whole unsigned32) ])

/-- Deleting is answered with a status, or with the objects that are going. -/
def deletionShape (answer : Json) : Shape :=
  if (answer.members?.bind (·.get? "kind")) == some (.string "Status") then statusShape
  else listShape Shape.pod

def deletePods (nameSpace selector : String) : Traffic Unit := do
  let request ← requestTo .delete (Target.text (pods nameSpace) (selecting selector))
  sendFor (fun response => deletionShape response.body) (fun _ => some ()) request

def eventJson (reporter : String) (e : Event) : Json :=
  .object ([("action", .string e.action), ("apiVersion", .string "events.k8s.io/v1"),
      ("kind", .string "Event"),
      ("metadata", .object (member? "namespace" .string e.object.nameSpace))]
    ++ member? "note" .string e.note
    ++ [("reason", .string e.reason), ("regarding", e.object.toJson),
      ("reportingController", .string reporter),
      ("type", .string (if e.warning then "Warning" else "Normal"))])

/-- Whatever becomes of an event, nobody waits for it. -/
def publish (reporter : String) (e : Event) : Traffic Unit :=
  Traffic.mapFailure (fun _ => .ok ()) do
    let path := collection "events.k8s.io/v1" (e.object.nameSpace.getD "default") "events"
    let request ← requestTo .post (Target.text path [])
    send .anything (fun _ => some ()) { request with body := eventJson reporter e }

def manager : String := "stash-operator"

/-- Takes possession of a definition, whoever wrote it before. -/
def installOne (d : Definition) : Traffic Unit := do
  let path := "/apis/apiextensions.k8s.io/v1/customresourcedefinitions/" ++ d.name
  let request ← requestTo .patch
    (Target.text path [("force", "true"), ("fieldManager", manager)])
  send Shape.definition (fun _ => some ())
    { request with contentType := "application/apply-patch+yaml", body := d.toJson }

def install : Traffic Unit := Definition.all.forM installOne

/-- What a request of a program is in exchanges with the server, if it is about the objects
of the cluster. -/
def ofRequest? (reporter : String) : {α : Type} → Request α → Option (Program Exchange α)
  | _, .get kind nameSpace name => some (get kind nameSpace name).run
  | _, .create _ o => some (create o).run
  | _, .replace _ o => some (replace o).run
  | _, .replaceStatus _ o => some (replaceStatus o).run
  | _, .secret nameSpace name => some (secret nameSpace name).run
  | _, .workload kind nameSpace name => some (workload kind nameSpace name).run
  | _, .replaceWorkload w => some (replaceWorkload w).run
  | _, .pods nameSpace selector => some (listPods nameSpace selector).run
  | _, .deletePods nameSpace selector => some (deletePods nameSpace selector).run
  | _, .publish event => some ((publish reporter event).run.bind fun _ => .done ())
  | _, _ => none

end ClusterBackup.Api
