import ClusterBackup.Cluster.Pod
import ClusterBackup.Failure
import ClusterBackup.Text.Scan

/-! Where snapshots are stored: a backend names one of seven providers, and the secret
with its password. -/

set_option autoImplicit false

namespace ClusterBackup

open Json Cluster

/-- A volume that is mounted next to the program. -/
structure VolumeBackend where
  volume : Volume
  mountPath : String
  deriving BEq, Repr

structure S3Backend where
  endpoint : String
  bucket : String
  path : String
  deriving DecidableEq, Repr

/-- A bucket or container, and a path inside it. -/
structure Bucket where
  name : String
  path : String
  deriving DecidableEq, Repr

structure Backend where
  volume : Option VolumeBackend := none
  s3 : Option S3Backend := none
  gcs : Option Bucket := none
  azure : Option Bucket := none
  swift : Option Bucket := none
  b2 : Option Bucket := none
  rest : Option String := none
  secretName : String := ""
  deriving BEq, Repr, Inhabited

/-- The one place that a well-formed backend names. -/
inductive Provider where
  | volume (v : VolumeBackend)
  | s3 (s : S3Backend)
  | gcs (b : Bucket)
  | azure (b : Bucket)
  | swift (b : Bucket)
  | b2 (b : Bucket)
  | rest (url : String)
  deriving BEq, Repr

namespace Provider

def name : Provider → String
  | .volume _ => "local"
  | .s3 _ => "s3"
  | .gcs _ => "gs"
  | .azure _ => "azure"
  | .swift _ => "swift"
  | .b2 _ => "b2"
  | .rest _ => "rest"

def limitsConnections : Provider → Bool
  | .gcs _ | .azure _ | .b2 _ => true
  | _ => false

end Provider

/-- Two pieces of a path with one slash between them. -/
def appendPath (base path : String) : String :=
  let base := Text.trimRightChar '/' base
  let path := Text.trimChar '/' path
  if path = "" then base else if base = "" then path else base ++ "/" ++ path

namespace VolumeBackend

def shape : Shape :=
  .record "LocalSpec" [Shape.req "volume" Shape.volume, Shape.req "mountPath" .text]

def ofJson? (j : Json) : Option VolumeBackend := do
  let members ← record? ["volume", "mountPath"] j
  return {
    volume := ← members.required "volume" Volume.ofJson?
    mountPath := ← members.required "mountPath" text? }

def toJson (v : VolumeBackend) : Json :=
  .object [("volume", v.volume.toJson), ("mountPath", .string v.mountPath)]

end VolumeBackend

def pathMember (path : String) : Members := if path = "" then [] else [("prefix", .string path)]

namespace S3Backend

def shape : Shape :=
  .record "S3Spec"
    [Shape.req "endpoint" .text, Shape.req "bucket" .text, Shape.dft "prefix" .text]

def ofJson? (j : Json) : Option S3Backend := do
  let members ← record? ["endpoint", "bucket", "prefix"] j
  return {
    endpoint := ← members.required "endpoint" text?
    bucket := ← members.required "bucket" text?
    path := ← members.defaulted "prefix" "" text? }

def toJson (s : S3Backend) : Json :=
  .object ([("endpoint", .string s.endpoint), ("bucket", .string s.bucket)] ++ pathMember s.path)

end S3Backend

namespace Bucket

def shape (name nameMember : String) : Shape :=
  .record name [Shape.req nameMember .text, Shape.dft "prefix" .text]

def ofJson? (nameMember : String) (j : Json) : Option Bucket := do
  let members ← record? [nameMember, "prefix"] j
  return {
    name := ← members.required nameMember text?
    path := ← members.defaulted "prefix" "" text? }

def toJson (nameMember : String) (b : Bucket) : Json :=
  .object ((nameMember, .string b.name) :: pathMember b.path)

def extend (b : Bucket) (path : String) : Bucket := { b with path := appendPath b.path path }

end Bucket

namespace Backend

def providers (b : Backend) : List Provider :=
  (b.volume.map .volume).toList ++ (b.s3.map .s3).toList ++ (b.gcs.map .gcs).toList
    ++ (b.azure.map .azure).toList ++ (b.swift.map .swift).toList ++ (b.b2.map .b2).toList
    ++ (b.rest.map .rest).toList

def provider (b : Backend) : Except Failure Provider :=
  match b.providers with
  | [one] => .ok one
  | [] => .error (.validation "backend must set exactly one provider, found none")
  | many => .error (.validation ("backend must set exactly one provider, found "
      ++ Number.textOf many.length ++ ": " ++ Text.join ", " (many.map Provider.name)))

def isLocal (b : Backend) : Bool := b.volume.isSome

/-- The backend with a longer path. A server's address stays as it is. -/
def extend (b : Backend) (path : String) : Backend :=
  { b with
    volume := b.volume.map fun v => { v with mountPath := appendPath v.mountPath path }
    s3 := b.s3.map fun s => { s with path := appendPath s.path path }
    gcs := b.gcs.map (·.extend path)
    azure := b.azure.map (·.extend path)
    swift := b.swift.map (·.extend path)
    b2 := b.b2.map (·.extend path) }

def shape : Shape :=
  .record "Backend"
    [ Shape.opt "local" VolumeBackend.shape, Shape.opt "s3" S3Backend.shape,
      Shape.opt "gcs" (Bucket.shape "GcsSpec" "bucket"),
      Shape.opt "azure" (Bucket.shape "AzureSpec" "container"),
      Shape.opt "swift" (Bucket.shape "SwiftSpec" "container"),
      Shape.opt "b2" (Bucket.shape "B2Spec" "bucket"),
      Shape.opt "rest" (.record "RestSpec" [Shape.req "url" .text]),
      Shape.dft "storageSecretName" .text ]

def ofJson? (j : Json) : Option Backend := do
  let members ← record? ["local", "s3", "gcs", "azure", "swift", "b2", "rest", "storageSecretName"] j
  return {
    volume := ← members.optional "local" VolumeBackend.ofJson?
    s3 := ← members.optional "s3" S3Backend.ofJson?
    gcs := ← members.optional "gcs" (Bucket.ofJson? "bucket")
    azure := ← members.optional "azure" (Bucket.ofJson? "container")
    swift := ← members.optional "swift" (Bucket.ofJson? "container")
    b2 := ← members.optional "b2" (Bucket.ofJson? "bucket")
    rest := ← members.optional "rest" fun j => do (← record? ["url"] j).required "url" text?
    secretName := ← members.defaulted "storageSecretName" "" text? }

def toJson (b : Backend) : Json :=
  .object (member? "local" VolumeBackend.toJson b.volume ++ member? "s3" S3Backend.toJson b.s3
    ++ member? "gcs" (Bucket.toJson "bucket") b.gcs
    ++ member? "azure" (Bucket.toJson "container") b.azure
    ++ member? "swift" (Bucket.toJson "container") b.swift
    ++ member? "b2" (Bucket.toJson "bucket") b.b2
    ++ member? "rest" (fun url => .object [("url", .string url)]) b.rest
    ++ [("storageSecretName", .string b.secretName)])

end Backend

end ClusterBackup
