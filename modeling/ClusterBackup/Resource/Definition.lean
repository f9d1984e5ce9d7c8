import ClusterBackup.Resource.Resource
import ClusterBackup.Resource.Schema

/-! The definitions with which a cluster learns of the resources. -/

set_option autoImplicit false

namespace ClusterBackup

/-- A column of a table of resources: its name, the type of its cells, and where they are. -/
structure Column where
  name : String
  type : String
  path : String
  deriving DecidableEq, Repr

structure Definition where
  kind : ResourceKind
  shortName : String
  columns : List Column
  spec : Schema
  status : Schema

namespace Schema

def labelSelector : Schema :=
  .record "A label selector is a label query over a set of resources. The result of matchLabels and matchExpressions are ANDed. An empty label selector matches all objects. A null label selector matches no objects."
    [ ("matchExpressions", "matchExpressions is a list of label selector requirements. The requirements are ANDed.",
        .omittable, .list (.record "A label selector requirement is a selector that contains values, a key, and an operator that relates the key and values."
          [ ("key", "key is the label key that the selector applies to.", .required, .text),
            ("operator", "operator represents a key's relationship to a set of values. Valid operators are In, NotIn, Exists and DoesNotExist.",
              .required, .text),
            ("values", "values is an array of string values. If the operator is In or NotIn, the values array must be non-empty. If the operator is Exists or DoesNotExist, the values array must be empty. This array is replaced during a strategic merge patch.",
              .omittable, .list .text) ])),
      ("matchLabels", "matchLabels is a map of \x7bkey,value\x7d pairs. A single \x7bkey,value\x7d in the matchLabels map is equivalent to an element of matchExpressions, whose key field is \"key\", the operator is \"In\", and the values array contains only \"value\". The requirements are ANDed.",
        .omittable, .dictionary) ]

def volumeMount : Schema :=
  .record "VolumeMount describes a mounting of a Volume within a container."
    [ ("mountPath", "Path within the container at which the volume should be mounted.  Must not contain ':'.",
        .required, .text),
      ("mountPropagation", "mountPropagation determines how mounts are propagated from the host to container and the other way around. When not set, MountPropagationNone is used. This field is beta in 1.10. When RecursiveReadOnly is set to IfPossible or to Enabled, MountPropagation must be None or unspecified (which defaults to None).",
        .omittable, .text),
      ("name", "This must match the Name of a Volume.", .required, .text),
      ("readOnly", "Mounted read-only if true, read-write otherwise (false or unspecified). Defaults to false.",
        .omittable, .flag),
      ("recursiveReadOnly", "RecursiveReadOnly specifies whether read-only mounts should be handled recursively.\n\nIf ReadOnly is false, this field has no meaning and must be unspecified.\n\nIf ReadOnly is true, and this field is set to Disabled, the mount is not made recursively read-only.  If this field is set to IfPossible, the mount is made recursively read-only, if it is supported by the container runtime.  If this field is set to Enabled, the mount is made recursively read-only if it is supported by the container runtime, otherwise the pod will not be started and an error will be generated to indicate the reason.\n\nIf this field is set to IfPossible or Enabled, MountPropagation must be set to None (or be unspecified, which defaults to None).\n\nIf this field is not specified, it is treated as an equivalent of Disabled.",
        .omittable, .text),
      ("subPath", "Path within the volume from which the container's volume should be mounted. Defaults to \"\" (volume's root).",
        .omittable, .text),
      ("subPathExpr", "Expanded path within the volume from which the container's volume should be mounted. Behaves similarly to SubPath but environment variable references $(VAR_NAME) are expanded using the container's environment. Defaults to \"\" (volume's root). SubPathExpr and SubPath are mutually exclusive.",
        .omittable, .text) ]

def bucket (about nameField nameMeaning whole : String) : Schema :=
  .record about
    [ (nameField, nameMeaning, .required, .text),
      ("prefix", "Path prefix inside the " ++ whole, .omittable, .text) ]

def volumeBackend : Schema :=
  .record "Local backend: a volume mounted into the sidecar"
    [ ("mountPath", "Where the volume is mounted in the sidecar", .required, .text),
      ("volume", "Volume holding the repository; renamed on injection", .required, .anything) ]

def s3Backend : Schema :=
  .record "S3 or S3-compatible backend"
    [ ("bucket", "Bucket name", .required, .text),
      ("endpoint", "Endpoint host, e.g. `s3.amazonaws.com`", .required, .text),
      ("prefix", "Path prefix inside the bucket", .omittable, .text) ]

def backend : Schema :=
  .record "Storage backend descriptor"
    [ ("azure", "Azure", .optional,
        bucket "Azure Blob Storage backend" "container" "Container name" "container"),
      ("b2", "B2", .optional, bucket "Backblaze B2 backend" "bucket" "Bucket name" "bucket"),
      ("gcs", "GCS", .optional, bucket "Google Cloud Storage backend" "bucket" "Bucket name" "bucket"),
      ("local", "Local volume", .optional, volumeBackend),
      ("rest", "REST server", .optional, .record "restic REST server backend"
        [("url", "Server URL; credentials from the secret are added as user-info", .required, .text)]),
      ("s3", "S3", .optional, s3Backend),
      ("storageSecretName", "Secret holding `RESTIC_PASSWORD` and backend credentials",
        .defaulted (.string ""), .text),
      ("swift", "Swift", .optional,
        bucket "OpenStack Swift backend" "container" "Container name" "container") ]

def keepCount (period : String) : String × Presence × Schema :=
  ("Keep the last N " ++ period ++ "snapshots", .optional, .natural "uint32")

def retention : Schema :=
  .record "Snapshot retention for one file group"
    [ ("dryRun", "Only report what would be removed", .defaulted (.bool false), .flag),
      ("keepDaily", keepCount "daily "),
      ("keepHourly", keepCount "hourly "),
      ("keepLast", keepCount ""),
      ("keepMonthly", keepCount "monthly "),
      ("keepTags", "Keep snapshots carrying any of these tags", .omittable, .list .text),
      ("keepWeekly", keepCount "weekly "),
      ("keepYearly", keepCount "yearly "),
      ("prune", "Remove unreferenced data after forgetting", .defaulted (.bool false), .flag) ]

def fileGroup : Schema :=
  .record "One unit of backup work: a path, its snapshot tags and retention"
    [ ("path", "Absolute path inside the sidecar to back up", .required, .text),
      ("retentionPolicy", "Which snapshots of this path to keep",
        .defaulted (Retention.toJson {}), retention),
      ("tags", "Tags attached to every snapshot of this path", .omittable, .list .text) ]

def target : Schema :=
  .record "Reference to the workload a configuration targets"
    [ ("kind", "Workload kind (Deployment, StatefulSet, ...)", .required, .text),
      ("name", "Workload name, in the configuration's namespace", .required, .text),
      ("volumeSnapshotClassName", "VolumeSnapshotClass used by `create-vs`", .optional, .text) ]

def configuration : Schema :=
  .record "Specification for a BackupConfiguration"
    [ ("backend", "Where snapshots are stored", .required, backend),
      ("fileGroups", "Paths to back up, processed in order", .defaulted (.array []), .list fileGroup),
      ("paused", "Skip scheduled runs while true", .defaulted (.bool false), .flag),
      ("schedule", "Cron expression; empty means never scheduled", .defaulted (.string ""), .text),
      ("selector", "Workloads whose labels match get the sidecar", .optional, labelSelector),
      ("target", "Single workload targeted by this configuration", .optional, target),
      ("useAutoPrefix", "Prefix appended to the backend path per host",
        .defaulted (AutoPath.toJson .smart), .choice (AutoPath.all.map AutoPath.name)),
      ("volumeMounts", "Workload volumes mounted into the sidecar", .omittable, .list volumeMount) ]

def configurationStatus : Schema :=
  .record "Status written by the executor after each successful run"
    [ ("backupCount", "Number of successful runs", .defaulted (.nat 0), .integer "int64"),
      ("firstBackupTime", "Time of the first successful run", .optional, .time),
      ("lastBackupDuration", "Duration of the most recent run, e.g. `1m3.5s`", .optional, .text),
      ("lastBackupTime", "Time of the most recent run", .optional, .time),
      ("lastSuccessfulBackupTime", "Time of the most recent successful run", .optional, .time) ]

def repository : Schema :=
  .record "Specification for a Repository"
    [("backend", "Backend with the host prefix already applied", .required, backend)]

def repositoryStatus : Schema :=
  .record "Repository statistics"
    [ ("backupCount", "Number of successful backups", .defaulted (.nat 0), .integer "int64"),
      ("firstBackupTime", "Time of the first successful backup", .optional, .time),
      ("integrity", "Result of the last `restic check`", .optional, .flag),
      ("lastBackupDuration", "Duration of the last successful backup", .optional, .text),
      ("lastBackupTime", "Time of the last successful backup", .optional, .time),
      ("size", "Raw data size, e.g. `1.2 GiB`", .optional, .text),
      ("snapshotCount", "Number of snapshots in the repository", .optional, .integer "int64"),
      ("snapshotsRemovedOnLastCleanup", "Snapshots removed by the last forget", .optional,
        .integer "int64") ]

def phase : Schema := .choice (Phase.all.map Phase.name)

def hostEntry : Schema :=
  .record "Per-host outcome within a session"
    [ ("duration", "Human-readable duration, e.g. `1m3.5s`", .optional, .text),
      ("error", "Failure message", .optional, .text),
      ("hostname", "Snapshot hostname (or PVC name for volume snapshots)", .required, .text),
      ("phase", "Host phase", .required, phase) ]

def sessionStatus (about : String) : Schema :=
  .record about
    [ ("hosts", "One entry per host", .omittable, .list hostEntry),
      ("phase", "Overall phase derived from the host entries", .defaulted (Phase.toJson .pending), phase),
      ("totalHosts", "Number of hosts expected to report", .optional, .integer "int32") ]

def backupSession : Schema :=
  .record "Specification for a BackupSession"
    [("backupConfiguration", "Name of the BackupConfiguration to run, same namespace", .required, .text)]

def restoreRule : Schema :=
  .record "One restore rule"
    [ ("paths", "Paths to restore from their latest snapshot", .omittable, .list .text),
      ("snapshots", "Snapshot IDs to restore", .omittable, .list .text),
      ("sourceHost", "Host whose snapshots are restored; defaults to the restoring host", .optional, .text),
      ("targetHosts", "Hosts this rule applies to; empty means every host without its own rule",
        .omittable, .list .text) ]

def restoreSession : Schema :=
  .record "Specification for a RestoreSession"
    [ ("repository", "Name of the Repository to restore from, same namespace", .required, .text),
      ("rules", "Which hosts restore what", .defaulted (.array []), .list restoreRule) ]

end Schema

namespace Definition

def configuration : Definition :=
  { kind := .configuration
    shortName := "bc"
    columns :=
      [ ⟨"Schedule", "string", ".spec.schedule"⟩, ⟨"Paused", "boolean", ".spec.paused"⟩,
        ⟨"Backups", "integer", ".status.backupCount"⟩, ⟨"Last", "date", ".status.lastBackupTime"⟩ ]
    spec := Schema.configuration
    status := Schema.configurationStatus }

def repository : Definition :=
  { kind := .repository
    shortName := "repo"
    columns :=
      [ ⟨"Integrity", "boolean", ".status.integrity"⟩, ⟨"Size", "string", ".status.size"⟩,
        ⟨"Snapshots", "integer", ".status.snapshotCount"⟩, ⟨"Last", "date", ".status.lastBackupTime"⟩ ]
    spec := Schema.repository
    status := Schema.repositoryStatus }

def sessionColumns : List Column :=
  [⟨"Phase", "string", ".status.phase"⟩, ⟨"Age", "date", ".metadata.creationTimestamp"⟩]

def backupSession : Definition :=
  { kind := .backupSession
    shortName := "bs"
    columns := ⟨"Configuration", "string", ".spec.backupConfiguration"⟩ :: sessionColumns
    spec := Schema.backupSession
    status := Schema.sessionStatus "BackupSession progress" }

def restoreSession : Definition :=
  { kind := .restoreSession
    shortName := "rs"
    columns := ⟨"Repository", "string", ".spec.repository"⟩ :: sessionColumns
    spec := Schema.restoreSession
    status := Schema.sessionStatus "RestoreSession progress" }

def all : List Definition := [configuration, repository, backupSession, restoreSession]

def name (d : Definition) : String := d.kind.plural ++ "." ++ d.kind.group

def names (d : Definition) : Json :=
  .object [("categories", .array []), ("kind", .string d.kind.name), ("plural", .string d.kind.plural),
    ("shortNames", Json.strings [d.shortName]), ("singular", .string (Text.lowerAscii d.kind.name))]

def columnJson (c : Column) : Json :=
  .object [("jsonPath", .string c.path), ("name", .string c.name), ("type", .string c.type)]

def schemaJson (d : Definition) : Json :=
  .object
    [ ("description", .string ("Auto-generated derived type for " ++ d.kind.name
        ++ "Spec via `CustomResource`")),
      ("properties", .object
        [ ("spec", .object (d.spec.about ++ d.spec.members)),
          ("status", .object (d.status.about ++ Presence.optional.members ++ d.status.members)) ]),
      ("required", Json.strings ["spec"]), ("title", .string d.kind.name), ("type", .string "object") ]

def versionJson (d : Definition) : Json :=
  .object
    [ ("additionalPrinterColumns", .array (d.columns.map columnJson)),
      ("name", .string d.kind.version),
      ("schema", .object [("openAPIV3Schema", d.schemaJson)]),
      ("selectableFields", .array []), ("served", .bool true), ("storage", .bool true),
      ("subresources", .object [("status", .object [])]) ]

def toJson (d : Definition) : Json :=
  .object
    [ ("apiVersion", .string "apiextensions.k8s.io/v1"), ("kind", .string "CustomResourceDefinition"),
      ("metadata", .object [("name", .string d.name)]),
      ("spec", .object [("group", .string d.kind.group), ("names", d.names),
        ("scope", .string "Namespaced"), ("versions", .array [d.versionJson])]) ]

end Definition

end ClusterBackup
