import ClusterBackup.Api.Http
import ClusterBackup.Cluster.Workload

/-! Which kinds of objects an API server knows, by group and version. -/

set_option autoImplicit false

namespace ClusterBackup.Api

open Cluster Json

/-- The kinds of one version. -/
structure ServedVersion where
  version : String
  kinds : List String
  deriving DecidableEq, Repr

structure ServedGroup where
  name : String
  versions : List ServedVersion
  deriving DecidableEq, Repr

/-- A group as the server lists it: its name, and the full and short names of its versions. -/
structure ListedGroup where
  name : String
  versions : List (String × String)
  deriving DecidableEq, Repr

namespace ListedGroup

def versionShape : Shape :=
  Shape.part "GroupVersionForDiscovery" [Shape.req "groupVersion" .text, Shape.req "version" .text]

def addresses : Shape :=
  .many (Shape.part "ServerAddressByClientCIDR"
    [Shape.req "clientCIDR" .text, Shape.req "serverAddress" .text])

def shape : Shape :=
  .object "APIGroup" [("apiVersion", "v1"), ("kind", "APIGroup")]
    [ Shape.req "name" .text, Shape.opt "preferredVersion" versionShape,
      Shape.opt "serverAddressByClientCIDRs" addresses,
      Shape.req "versions" (.many versionShape) ]

def listShape : Shape :=
  .object "APIGroupList" [("apiVersion", "v1"), ("kind", "APIGroupList")]
    [Shape.req "groups" (.many shape)]

def coreShape : Shape :=
  .object "APIVersions" [("apiVersion", "v1"), ("kind", "APIVersions")]
    [ Shape.req "serverAddressByClientCIDRs" addresses,
      Shape.req "versions" (.many .text) ]

def version? (j : Json) : Option (String × String) := do
  let members ← j.members?
  return (← members.lenient "groupVersion" "" text?, ← members.lenient "version" "" text?)

def ofJson? (j : Json) : Option ListedGroup := do
  let members ← j.members?
  return {
    name := ← members.lenient "name" "" text?
    versions := ← members.lenient "versions" [] (list? version?) }

def listOf? (j : Json) : Option (List ListedGroup) := do
  (← j.members?).lenient "groups" [] (list? ofJson?)

/-- The group without a name, whose versions are listed apart. -/
def coreOf? (j : Json) : Option ListedGroup := do
  let versions ← (← j.members?).lenient "versions" [] (list? text?)
  return { name := "", versions := versions.map fun version => (version, version) }

end ListedGroup

def kindsShape : Shape :=
  .object "APIResourceList" [("apiVersion", "v1"), ("kind", "APIResourceList")]
    [ Shape.req "groupVersion" .text, Shape.req "resources" (.many resource) ]
where
  resource : Shape :=
    Shape.part "APIResource"
      (["kind", "name", "singularName"].map (Shape.req · .text)
        ++ Shape.texts ["group", "storageVersionHash", "version"]
        ++ Shape.each (.many .text) ["categories", "shortNames"]
        ++ [Shape.req "namespaced" .flag, Shape.req "verbs" (.many .text)])

/-- The name and kind of a resource. -/
def resource? (j : Json) : Option (String × String) := do
  let members ← j.members?
  return (← members.lenient "name" "" text?, ← members.lenient "kind" "" text?)

/-- The kinds of a list of resources. A name with a slash is a part of another resource. -/
def kindsOf? (j : Json) : Option (List String) := do
  let resources ← (← j.members?).lenient "resources" [] (list? resource?)
  return (resources.filter fun resource => ! resource.1.toList.contains '/').map (·.2)

def look {α : Type} (shape : Shape) (decode : Json → Option α) (path : String) : Traffic α :=
  match Target.parse? path with
  | some target => send shape decode { method := .get, target }
  | none => throw (.answer "HttpError: invalid uri character")

def version (root : String) (names : String × String) : Traffic ServedVersion := do
  return { version := names.2, kinds := ← look kindsShape kindsOf? (root ++ names.1) }

def group (root : String) (g : ListedGroup) : Traffic ServedGroup := do
  if g.versions.isEmpty then
    throw (.answer ("Error from discovery: Empty Api Group: " ++ g.name))
  return { name := g.name, versions := ← g.versions.mapM (version root) }

/-- All groups, the one without a name last. -/
def discover : Traffic (List ServedGroup) := do
  let listed ← look ListedGroup.listShape ListedGroup.listOf? "/apis"
  let groups ← listed.mapM (group "/apis/")
  let core ← look ListedGroup.coreShape ListedGroup.coreOf? "/api"
  return groups ++ [← group "/api/" core]

/-- Of several groups with one name the last counts. -/
def serves (groups : List ServedGroup) (apiVersion kind : String) : Bool :=
  let (name, version) := (Text.cutChar '/' apiVersion).getD ("", apiVersion)
  let versions := (((groups.filter (·.name == name)).getLast?).map (·.versions)).getD []
  (versions.find? (·.version == version)).any (·.kinds.contains kind)

def discoveryPolicy : RetryPolicy :=
  { RetryPolicy.unlimited with attempts := 5, initial := Duration.ofSeconds 1 }

def servedKinds : Traffic (List WorkloadKind) :=
  ExceptT.mk ((retryAlways discoveryPolicy discover.run).bind fun result =>
    .done (result.map fun groups =>
      WorkloadKind.all.filter fun kind => serves groups kind.apiVersion kind.name))

end ClusterBackup.Api
