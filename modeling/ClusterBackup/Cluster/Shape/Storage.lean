import ClusterBackup.Cluster.Shape.Object

/-! The shapes of volumes and of claims on storage. -/

set_option autoImplicit false

namespace ClusterBackup.Cluster.Shape

open Json Json.Shape

/-! ### Claims -/

def claimSpec : Shape :=
  part "PersistentVolumeClaimSpec"
    [ opt "accessModes" (.many .text),
      opt "dataSource" (part "TypedLocalObjectReference"
        [opt "apiGroup" .text, req "kind" .text, req "name" .text]),
      opt "dataSourceRef" (part "TypedObjectReference"
        [opt "apiGroup" .text, req "kind" .text, req "name" .text, opt "namespace" .text]),
      opt "resources" (part "VolumeResourceRequirements"
        [opt "limits" quantities, opt "requests" quantities]),
      opt "selector" labelSelector, opt "storageClassName" .text,
      opt "volumeAttributesClassName" .text, opt "volumeMode" .text, opt "volumeName" .text ]

def claimStatus : Shape :=
  part "PersistentVolumeClaimStatus"
    [ opt "accessModes" (.many .text), opt "allocatedResourceStatuses" table,
      opt "allocatedResources" quantities, opt "capacity" quantities,
      opt "conditions" (.many (condition "PersistentVolumeClaimCondition"
        ["lastProbeTime", "lastTransitionTime"])),
      opt "currentVolumeAttributesClassName" .text,
      opt "modifyVolumeStatus" (part "ModifyVolumeStatus"
        [req "status" .text, opt "targetVolumeAttributesClassName" .text]),
      opt "phase" .text ]

def claim : Shape :=
  identified "v1" "PersistentVolumeClaim" [opt "spec" claimSpec, opt "status" claimStatus]

/-! ### Files in volumes -/

def keyFiles : Shape :=
  .many (part "KeyToPath" [req "key" .text, opt "mode" (.whole signed32), req "path" .text])

def podFiles : Shape :=
  .many (part "DownwardAPIVolumeFile"
    [ opt "fieldRef" fieldSelector, opt "mode" (.whole signed32), req "path" .text,
      opt "resourceFieldRef" resourceSelector ])

def projection : Shape :=
  part "VolumeProjection"
    [ opt "clusterTrustBundle" (part "ClusterTrustBundleProjection"
        [ opt "labelSelector" labelSelector, opt "name" .text, opt "optional" .flag,
          req "path" .text, opt "signerName" .text ]),
      opt "configMap" (part "ConfigMapProjection"
        [opt "items" keyFiles, req "name" .text, opt "optional" .flag]),
      opt "downwardAPI" (part "DownwardAPIProjection" [opt "items" podFiles]),
      opt "secret" (part "SecretProjection"
        [opt "items" keyFiles, req "name" .text, opt "optional" .flag]),
      opt "serviceAccountToken" (part "ServiceAccountTokenProjection"
        [opt "audience" .text, opt "expirationSeconds" integer64, req "path" .text]) ]

/-! ### Where volumes come from -/

def clusterSources : Fields :=
  [ opt "configMap" (part "ConfigMapVolumeSource"
      [ opt "defaultMode" (.whole signed32), opt "items" keyFiles, req "name" .text,
        opt "optional" .flag ]),
    opt "downwardAPI" (part "DownwardAPIVolumeSource"
      [opt "defaultMode" (.whole signed32), opt "items" podFiles]),
    opt "emptyDir" (part "EmptyDirVolumeSource" (texts ["medium", "sizeLimit"])),
    opt "ephemeral" (part "EphemeralVolumeSource"
      [opt "volumeClaimTemplate" (part "PersistentVolumeClaimTemplate"
        [opt "metadata" metadata, req "spec" claimSpec])]),
    opt "gitRepo" (part "GitRepoVolumeSource"
      [opt "directory" .text, req "repository" .text, opt "revision" .text]),
    opt "hostPath" (part "HostPathVolumeSource" [req "path" .text, opt "type" .text]),
    opt "image" (part "ImageVolumeSource" (texts ["pullPolicy", "reference"])),
    opt "projected" (part "ProjectedVolumeSource"
      [opt "defaultMode" (.whole signed32), opt "sources" (.many projection)]),
    opt "secret" (part "SecretVolumeSource"
      [ opt "defaultMode" (.whole signed32), opt "items" keyFiles, opt "optional" .flag,
        opt "secretName" .text ]) ]

def diskSources : Fields :=
  [ opt "awsElasticBlockStore" (part "AWSElasticBlockStoreVolumeSource"
      [ opt "fsType" .text, opt "partition" (.whole signed32), opt "readOnly" .flag,
        req "volumeID" .text ]),
    opt "azureDisk" (part "AzureDiskVolumeSource"
      [ opt "cachingMode" .text, req "diskName" .text, req "diskURI" .text, opt "fsType" .text,
        opt "kind" .text, opt "readOnly" .flag ]),
    opt "cinder" (part "CinderVolumeSource"
      [ opt "fsType" .text, opt "readOnly" .flag, opt "secretRef" localReference,
        req "volumeID" .text ]),
    opt "fc" (part "FCVolumeSource"
      [ opt "fsType" .text, opt "lun" (.whole signed32), opt "readOnly" .flag,
        opt "targetWWNs" (.many .text), opt "wwids" (.many .text) ]),
    opt "flocker" (part "FlockerVolumeSource" (texts ["datasetName", "datasetUUID"])),
    opt "gcePersistentDisk" (part "GCEPersistentDiskVolumeSource"
      [ opt "fsType" .text, opt "partition" (.whole signed32), req "pdName" .text,
        opt "readOnly" .flag ]),
    opt "iscsi" (part "ISCSIVolumeSource"
      [ opt "chapAuthDiscovery" .flag, opt "chapAuthSession" .flag, opt "fsType" .text,
        opt "initiatorName" .text, req "iqn" .text, opt "iscsiInterface" .text,
        req "lun" (.whole signed32), opt "portals" (.many .text), opt "readOnly" .flag,
        opt "secretRef" localReference, req "targetPortal" .text ]),
    opt "photonPersistentDisk" (part "PhotonPersistentDiskVolumeSource"
      [opt "fsType" .text, req "pdID" .text]),
    opt "portworxVolume" (part "PortworxVolumeSource"
      [opt "fsType" .text, opt "readOnly" .flag, req "volumeID" .text]),
    opt "rbd" (part "RBDVolumeSource"
      [ opt "fsType" .text, req "image" .text, opt "keyring" .text, req "monitors" (.many .text),
        opt "pool" .text, opt "readOnly" .flag, opt "secretRef" localReference,
        opt "user" .text ]),
    opt "scaleIO" (part "ScaleIOVolumeSource"
      [ opt "fsType" .text, req "gateway" .text, opt "protectionDomain" .text,
        opt "readOnly" .flag, req "secretRef" localReference, opt "sslEnabled" .flag,
        opt "storageMode" .text, opt "storagePool" .text, req "system" .text,
        opt "volumeName" .text ]),
    opt "storageos" (part "StorageOSVolumeSource"
      [ opt "fsType" .text, opt "readOnly" .flag, opt "secretRef" localReference,
        opt "volumeName" .text, opt "volumeNamespace" .text ]),
    opt "vsphereVolume" (part "VsphereVirtualDiskVolumeSource"
      [ opt "fsType" .text, opt "storagePolicyID" .text, opt "storagePolicyName" .text,
        req "volumePath" .text ]) ]

def sharedSources : Fields :=
  [ opt "azureFile" (part "AzureFileVolumeSource"
      [opt "readOnly" .flag, req "secretName" .text, req "shareName" .text]),
    opt "cephfs" (part "CephFSVolumeSource"
      [ req "monitors" (.many .text), opt "path" .text, opt "readOnly" .flag,
        opt "secretFile" .text, opt "secretRef" localReference, opt "user" .text ]),
    opt "csi" (part "CSIVolumeSource"
      [ req "driver" .text, opt "fsType" .text, opt "nodePublishSecretRef" localReference,
        opt "readOnly" .flag, opt "volumeAttributes" table ]),
    opt "flexVolume" (part "FlexVolumeSource"
      [ req "driver" .text, opt "fsType" .text, opt "options" table, opt "readOnly" .flag,
        opt "secretRef" localReference ]),
    opt "glusterfs" (part "GlusterfsVolumeSource"
      [req "endpoints" .text, req "path" .text, opt "readOnly" .flag]),
    opt "nfs" (part "NFSVolumeSource" [req "path" .text, opt "readOnly" .flag, req "server" .text]),
    opt "quobyte" (part "QuobyteVolumeSource"
      [ opt "group" .text, opt "readOnly" .flag, req "registry" .text, opt "tenant" .text,
        opt "user" .text, req "volume" .text ]) ]

def volumeFields : Fields := clusterSources ++ diskSources ++ sharedSources

def volume : Shape :=
  part "Volume"
    ([ req "name" .text, opt "persistentVolumeClaim" (part "PersistentVolumeClaimVolumeSource"
        [req "claimName" .text, opt "readOnly" .flag]) ]
      ++ volumeFields)

end ClusterBackup.Cluster.Shape
