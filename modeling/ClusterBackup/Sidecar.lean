import ClusterBackup.Cluster.Workload
import ClusterBackup.Options
import ClusterBackup.Resource.Resource

/-! The container that backs up a workload from inside its pods: putting it into the
template with its volumes, and taking it out again. -/

set_option autoImplicit false

namespace ClusterBackup

open Cluster

namespace Sidecar

def containerName : String := "stash"

def scratchVolumeName : String := "stash-scratchdir"

def podInfoVolumeName : String := "stash-podinfo"

def backendVolumeName : String := "stash-local"

def ownerAnnotation : String := "stash.dev/config"

def tagAnnotation : String := "stash.dev/tag"

def scratchPath : String := "/tmp"

def podInfoPath : String := "/etc/stash"

def imageTag (config : Configuration) (options : Options) : String :=
  let own := config.metadata.annotations.bind (·.get? tagAnnotation)
  (own.filter (· ≠ "")).getD options.imageTag

def boolText (b : Bool) : String := if b then "true" else "false"

def arguments (config : Configuration) (kind : WorkloadKind) (workload : String)
    (options : Options) : List String :=
  [ "backup", "--backup-configuration=" ++ config.name, "--workload-kind=" ++ kind.name,
    "--workload-name=" ++ workload, "--scratch-dir=" ++ scratchPath,
    "--enable-cache=" ++ boolText options.cache,
    "--max-connections=" ++ Number.textOf options.connections,
    "--metrics-enabled=" ++ boolText options.metrics,
    "--pushgateway-url=" ++ options.pushUrl ]
  ++ if options.resync.isZero then []
    else ["--resync-period=" ++ Number.textOf options.resync.seconds ++ "s"]

def mounts (config : Configuration) : List VolumeMount :=
  config.spec.mounts
    ++ [ { name := scratchVolumeName, path := scratchPath },
         { name := podInfoVolumeName, path := podInfoPath } ]
    ++ (config.spec.backend.volume.map fun v =>
        { name := backendVolumeName, path := v.mountPath }).toList

def container (config : Configuration) (kind : WorkloadKind) (workload : String)
    (options : Options) : Container :=
  { name := containerName
    image := options.image ++ ":" ++ imageTag config options
    pullPolicy := "IfNotPresent"
    arguments := arguments config kind workload options
    environment := some
      [ .ofField "NODE_NAME" "spec.nodeName", .ofField "POD_NAME" "metadata.name",
        .ofField "POD_NAMESPACE" "metadata.namespace" ]
    mounts := mounts config }

/-- An item in place of the first one of its name, or at the end. -/
def putBy {α : Type} (name : α → String) (item : α) : List α → List α
  | [] => [item]
  | x :: rest => if name x = name item then item :: rest else x :: putBy name item rest

def withVolume (item : Volume) (volumes : Option (List Volume)) : Option (List Volume) :=
  some (putBy Volume.name item (volumes.getD []))

/-- A list that becomes empty is no longer there. -/
def withoutVolume (name : String) (volumes : Option (List Volume)) : Option (List Volume) :=
  (volumes.map (List.filter (·.name != name))).filter (! ·.isEmpty)

def scratchVolume : Volume := { name := scratchVolumeName, more := [("emptyDir", .object [])] }

def podInfoVolume : Volume :=
  { name := podInfoVolumeName
    more := [("downwardAPI", .object [("items", .array [.object
      [ ("fieldRef", .object [("fieldPath", .string "metadata.labels")]),
        ("path", .string "labels") ]])])] }

def withBackendVolume (backend : Backend) (volumes : Option (List Volume)) : Option (List Volume) :=
  match backend.volume with
  | some v => withVolume { v.volume with name := backendVolumeName } volumes
  | none => withoutVolume backendVolumeName volumes

def podSpec (w : Workload) : Except Failure PodSpec :=
  match w.podSpec? with
  | some spec => .ok spec
  | none => .error (.validation (w.describe ++ " has no pod template"))

/-- Every part is put in place of an older one of its name. -/
def add (w : Workload) (config : Configuration) (c : Container) (tag : String) :
    Except Failure Workload := do
  let spec ← podSpec w
  let volumes := withBackendVolume config.spec.backend
    (withVolume podInfoVolume (withVolume scratchVolume spec.volumes))
  let spec := { spec with containers := putBy Container.name c spec.containers, volumes }
  let annotations := ((w.metadata.annotations.getD .empty).insert ownerAnnotation config.name).insert
    tagAnnotation tag
  return { w.withPodSpec spec with metadata := { w.metadata with annotations := some annotations } }

def remove (w : Workload) : Except Failure Workload := do
  let spec ← podSpec w
  let volumes := withoutVolume backendVolumeName
    (withoutVolume podInfoVolumeName (withoutVolume scratchVolumeName spec.volumes))
  let containers := spec.containers.filter (·.name != containerName)
  let annotations := (w.metadata.annotations.map fun a =>
    (a.erase ownerAnnotation).erase tagAnnotation).filter (! ·.isEmpty)
  return { w.withPodSpec { spec with containers, volumes } with
    metadata := { w.metadata with annotations } }

def isIn (spec : PodSpec) : Bool := spec.containers.any (·.name == containerName)

end Sidecar

end ClusterBackup
