import ClusterBackup.Json.Shape

/-! The shapes of what objects of a cluster have in common: metadata, selectors and references.
What a module reads into a structure of its own is listed apart from what is carried along. -/

set_option autoImplicit false

namespace ClusterBackup.Cluster.Shape

open Json Json.Shape

def integer64 : Shape := .whole signed64

def table : Shape := .table .text

def quantities : Shape := table

def labelSelector : Shape :=
  part "LabelSelector"
    [ opt "matchExpressions" (.many (part "LabelSelectorRequirement"
        [req "key" .text, req "operator" .text, opt "values" (.many .text)])),
      opt "matchLabels" table ]

def localReference : Shape := part "LocalObjectReference" [req "name" .text]

def fieldSelector : Shape :=
  part "ObjectFieldSelector" [opt "apiVersion" .text, req "fieldPath" .text]

def resourceSelector : Shape :=
  part "ResourceFieldSelector"
    [opt "containerName" .text, opt "divisor" .text, req "resource" .text]

def owner : Shape :=
  part "OwnerReference"
    ([req "apiVersion" .text, req "kind" .text, req "name" .text, req "uid" .text]
      ++ flags ["blockOwnerDeletion", "controller"])

def managedFields : Shape :=
  part "ManagedFieldsEntry"
    (texts ["apiVersion", "fieldsType", "manager", "operation", "subresource"]
      ++ [opt "fieldsV1" .anything, opt "time" .instant])

def metadataFields : Fields :=
  [ opt "creationTimestamp" .instant, opt "deletionGracePeriodSeconds" integer64,
    opt "finalizers" (.many .text), opt "managedFields" (.many managedFields), opt "selfLink" .text ]

def metadata : Shape :=
  part "ObjectMeta"
    (texts ["name", "generateName", "namespace", "uid", "resourceVersion"]
      ++ [ opt "labels" table, opt "annotations" table, opt "generation" integer64,
           opt "deletionTimestamp" .instant, opt "ownerReferences" (.many owner) ]
      ++ metadataFields)

def listMetadata : Shape :=
  part "ListMeta" (texts ["continue", "resourceVersion", "selfLink"]
    ++ [opt "remainingItemCount" integer64])

def condition (name : String) (times : List String) : Shape :=
  part name (each .instant times ++ texts ["message", "reason"]
    ++ [req "status" .text, req "type" .text])

/-- An object with a version and a kind that are fixed. -/
def identified (apiVersion kind : String) (fields : Fields) : Shape :=
  .object kind [("apiVersion", apiVersion), ("kind", kind)] (opt "metadata" metadata :: fields)

end ClusterBackup.Cluster.Shape
