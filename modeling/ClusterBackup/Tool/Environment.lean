import ClusterBackup.Cluster.Secret
import ClusterBackup.Resource.Backend
import ClusterBackup.Text.Path
import ClusterBackup.Url.Url

/-! What the backup tool needs to reach a repository: variables for its environment, and
files next to it.

Setting up is a plan: steps on files, and then an environment or a failure. -/

set_option autoImplicit false

namespace ClusterBackup

open Cluster

structure Environment where
  bindings : Dictionary
  provider : Provider
  authorities : Option String := none
  deriving BEq, Repr

inductive FileStep where
  | makeDirectory (path : String)
  | write (path : String) (content : List UInt8)
  | makePrivate (path : String)
  deriving DecidableEq, Repr

structure SetupPlan where
  steps : List FileStep
  outcome : Except Failure Environment

namespace Environment

def passwordKey : String := "RESTIC_PASSWORD"

def repositoryKey : String := "RESTIC_REPOSITORY"

def temporaryKey : String := "TMPDIR"

def authoritiesKey : String := "CA_CERT_DATA"

def accountFileKey : String := "GOOGLE_SERVICE_ACCOUNT_JSON_KEY"

def credentialsKey : String := "GOOGLE_APPLICATION_CREDENTIALS"

def usernameKey : String := "REST_SERVER_USERNAME"

def serverPasswordKey : String := "REST_SERVER_PASSWORD"

/-- Entries of a secret that a provider reads from its environment. -/
def keysOf : Provider → List String
  | .s3 _ => ["AWS_ACCESS_KEY_ID", "AWS_SECRET_ACCESS_KEY"]
  | .gcs _ => ["GOOGLE_PROJECT_ID"]
  | .azure _ => ["AZURE_ACCOUNT_NAME", "AZURE_ACCOUNT_KEY"]
  | .b2 _ => ["B2_ACCOUNT_ID", "B2_ACCOUNT_KEY"]
  | .swift _ =>
    [ "ST_AUTH", "ST_USER", "ST_KEY", "OS_AUTH_URL", "OS_REGION_NAME", "OS_USERNAME", "OS_PASSWORD",
      "OS_TENANT_ID", "OS_TENANT_NAME", "OS_USER_DOMAIN_NAME", "OS_PROJECT_NAME",
      "OS_PROJECT_DOMAIN_NAME", "OS_STORAGE_URL", "OS_AUTH_TOKEN" ]
  | .volume _ | .rest _ => []

def copyKeys (secret : Secret) (keys : List String) (bindings : Dictionary) : Dictionary :=
  keys.foldl (fun bindings key => match secret.text? key with
    | some value => bindings.insert key value
    | none => bindings) bindings

def bucketAddress (scheme : String) (b : Bucket) (path : String) : String :=
  scheme ++ ":" ++ b.name ++ ":/" ++ Path.segments [b.path, path]

def directoryOf (v : VolumeBackend) (path : String) : String :=
  let below := Path.segments [path]
  if below = "" then v.mountPath else Path.join v.mountPath below

/-- Credentials go into the address itself. A password alone is not used. -/
def serverAddress (url : String) (secret : Secret) : Except Failure String := do
  let parsed ← (Url.parse url).mapError fun fault =>
    .validation ("invalid rest url " ++ Text.quote url ++ ": " ++ fault.describe)
  let refuse : Option Url → Except Failure Url
    | some u => .ok u
    | none => .error (.validation "rest url cannot carry credentials")
  match secret.text? usernameKey with
  | none => return "rest:" ++ parsed.text
  | some username =>
    let named ← refuse (parsed.withUsername username)
    match secret.text? serverPasswordKey with
    | none => return "rest:" ++ named.text
    | some password => return "rest:" ++ (← refuse (named.withPassword password)).text

def addressOf (provider : Provider) (secret : Secret) (path : String) : Except Failure String :=
  match provider with
  | .volume v => .ok (directoryOf v path)
  | .s3 s => .ok ("s3:" ++ Text.trimRightChar '/' s.endpoint ++ "/"
      ++ Path.segments [s.bucket, s.path, path])
  | .gcs b => .ok (bucketAddress "gs" b path)
  | .azure b => .ok (bucketAddress "azure" b path)
  | .swift b => .ok (bucketAddress "swift" b path)
  | .b2 b => .ok (bucketAddress "b2" b path)
  | .rest url => serverAddress url secret

/-- Steps on files that a provider needs, and variables that point to them. -/
def providerFiles (provider : Provider) (secret : Secret) (scratch path : String) :
    List FileStep × Option (String × String) :=
  match provider with
  | .volume v => ([.makeDirectory (directoryOf v path)], none)
  | .gcs _ =>
    match secret.bytes? accountFileKey with
    | none => ([], none)
    | some content =>
      let file := Path.join scratch "gcs_sa.json"
      ([.write file content, .makePrivate file], some (credentialsKey, file))
  | _ => ([], none)

/-- The certificates that the secret brings, and the file for them. -/
def authorityFiles (secret : Secret) (scratch : String) : List FileStep × Option String :=
  match secret.bytes? authoritiesKey with
  | none => ([], none)
  | some content =>
    let directory := Path.join scratch "cacerts"
    let file := Path.join directory "ca.crt"
    ([.makeDirectory directory, .write file content], some file)

/-- The path keeps hosts that share a backend apart. -/
def plan (backend : Backend) (secret : Secret) (scratch path : String) : SetupPlan :=
  match backend.provider with
  | .error failure => ⟨[], .error failure⟩
  | .ok provider =>
    match secret.text? passwordKey with
    | none => ⟨[], .error (.validation ("secret " ++ backend.secretName ++ " has no " ++ passwordKey))⟩
    | some password =>
      let temporary := Path.join scratch "restic-tmp"
      let (authoritySteps, authorities) := authorityFiles secret scratch
      let (providerSteps, pointer) := providerFiles provider secret scratch path
      let bindings := (Dictionary.empty.insert passwordKey password).insert temporaryKey temporary
      let bindings := copyKeys secret (keysOf provider) bindings
      let bindings := (pointer.map fun (key, file) => bindings.insert key file).getD bindings
      { steps := .makeDirectory temporary :: authoritySteps ++ providerSteps
        outcome := do
          let address ← addressOf provider secret path
          return { bindings := bindings.insert repositoryKey address, provider, authorities } }

def repository? (e : Environment) : Option String := e.bindings.get? repositoryKey

end Environment

end ClusterBackup
