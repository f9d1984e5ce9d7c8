import ClusterBackup.Resource.Resource
import ClusterBackup.Cluster.Secret

/-! Resources in memory. Every write gets the next version, and replacing an object takes
the version that is stored. -/

set_option autoImplicit false

namespace ClusterBackup.Simulation

open Cluster

structure Stored where
  kind : ResourceKind
  object : Resource kind

structure Store where
  version : Nat := 0
  objects : List Stored := []
  secrets : List Secret := []

namespace Store

def isAt (nameSpace name : String) (m : Metadata) : Bool :=
  m.anyNameSpace == nameSpace && m.anyName == name

def Stored.as? (kind : ResourceKind) (s : Stored) : Option (Resource kind) :=
  if same : s.kind = kind then some (same ▸ s.object) else none

def find? (store : Store) (kind : ResourceKind) (nameSpace name : String) : Option (Resource kind) :=
  store.objects.findSome? fun s => (Stored.as? kind s).filter fun r => isAt nameSpace name r.metadata

def all (store : Store) (kind : ResourceKind) : List (Resource kind) :=
  store.objects.filterMap (Stored.as? kind)

def secret? (store : Store) (nameSpace name : String) : Option Secret :=
  store.secrets.find? fun s => isAt nameSpace name s.metadata

def isSame (kind : ResourceKind) (m : Metadata) (s : Stored) : Bool :=
  s.kind == kind && isAt m.anyNameSpace m.anyName s.object.metadata

def put (store : Store) (kind : ResourceKind) (object : Resource kind) : Store :=
  if store.objects.any (isSame kind object.metadata) then
    { store with objects := store.objects.map fun s =>
        if isSame kind object.metadata s then ⟨kind, object⟩ else s }
  else { store with objects := store.objects ++ [⟨kind, object⟩] }

def withVersion {kind : ResourceKind} (version : Nat) (object : Resource kind) : Resource kind :=
  { object with
    metadata := { object.metadata with resourceVersion := some (Number.textOf version) } }

def accept (store : Store) (kind : ResourceKind) (object : Resource kind) : Resource kind × Store :=
  let version := store.version + 1
  let object := withVersion version object
  (object, { (store.put kind object) with version })

def delete (store : Store) (kind : ResourceKind) (nameSpace name : String) : Store :=
  { store with objects := store.objects.filter fun s =>
      ! (s.kind == kind && isAt nameSpace name s.object.metadata) }

def putSecret (store : Store) (secret : Secret) : Store :=
  let others := store.secrets.filter fun s =>
    ! isAt secret.metadata.anyNameSpace secret.metadata.anyName s.metadata
  { store with secrets := others ++ [secret] }

def deleteSecret (store : Store) (nameSpace name : String) : Store :=
  { store with secrets := store.secrets.filter fun s => ! isAt nameSpace name s.metadata }

def create (store : Store) (kind : ResourceKind) (object : Resource kind) :
    Except Failure (Resource kind) × Store :=
  if (store.find? kind object.nameSpace object.name).isSome then
    (.error (.conflict (object.key ++ " already exists")), store)
  else
    let (object, store) := store.accept kind object
    (.ok object, store)

def replace (store : Store) (kind : ResourceKind) (object : Resource kind) :
    Except Failure (Resource kind) × Store :=
  match store.find? kind object.nameSpace object.name with
  | none => (.error (.notFound "object" object.nameSpace object.name), store)
  | some old =>
    if old.metadata.resourceVersion = object.metadata.resourceVersion then
      let (object, store) := store.accept kind object
      (.ok object, store)
    else (.error (.conflict (object.key ++ " is stale")), store)

end Store

end ClusterBackup.Simulation
