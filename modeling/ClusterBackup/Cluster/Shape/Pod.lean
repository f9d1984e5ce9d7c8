import ClusterBackup.Cluster.Shape.Container
import ClusterBackup.Cluster.Shape.Storage

/-! The shapes of pods: where they may run, what they hold, and how they are getting on. -/

set_option autoImplicit false

namespace ClusterBackup.Cluster.Shape

open Json Json.Shape

/-! ### Where pods may run -/

def preferred : String := "preferredDuringSchedulingIgnoredDuringExecution"

def demanded : String := "requiredDuringSchedulingIgnoredDuringExecution"

def nodeTerm : Shape :=
  part "NodeSelectorTerm" (each (.many (part "NodeSelectorRequirement"
    [req "key" .text, req "operator" .text, opt "values" (.many .text)]))
    ["matchExpressions", "matchFields"])

def nodeAffinity : Shape :=
  part "NodeAffinity"
    [ opt preferred (.many (part "PreferredSchedulingTerm"
        [req "preference" nodeTerm, req "weight" (.whole signed32)])),
      opt demanded (part "NodeSelector" [req "nodeSelectorTerms" (.many nodeTerm)]) ]

def podTerm : Shape :=
  part "PodAffinityTerm"
    [ opt "labelSelector" labelSelector, opt "matchLabelKeys" (.many .text),
      opt "mismatchLabelKeys" (.many .text), opt "namespaceSelector" labelSelector,
      opt "namespaces" (.many .text), req "topologyKey" .text ]

def podAffinity (name : String) : Shape :=
  part name
    [ opt preferred (.many (part "WeightedPodAffinityTerm"
        [req "podAffinityTerm" podTerm, req "weight" (.whole signed32)])),
      opt demanded (.many podTerm) ]

def affinity : Shape :=
  part "Affinity"
    [ opt "nodeAffinity" nodeAffinity, opt "podAffinity" (podAffinity "PodAffinity"),
      opt "podAntiAffinity" (podAffinity "PodAntiAffinity") ]

def toleration : Shape :=
  part "Toleration" (texts ["effect", "key", "operator", "value"]
    ++ [opt "tolerationSeconds" integer64])

def spread : Shape :=
  part "TopologySpreadConstraint"
    [ opt "labelSelector" labelSelector, opt "matchLabelKeys" (.many .text),
      req "maxSkew" (.whole signed32), opt "minDomains" (.whole signed32),
      opt "nodeAffinityPolicy" .text, opt "nodeTaintsPolicy" .text, req "topologyKey" .text,
      req "whenUnsatisfiable" .text ]

/-! ### What pods hold -/

def podSecurityContext : Shape :=
  part "PodSecurityContext"
    [ opt "appArmorProfile" armor, opt "fsGroup" integer64, opt "fsGroupChangePolicy" .text,
      opt "runAsGroup" integer64, opt "runAsNonRoot" .flag, opt "runAsUser" integer64,
      opt "seLinuxChangePolicy" .text, opt "seLinuxOptions" selinux,
      opt "seccompProfile" seccomp, opt "supplementalGroups" (.many integer64),
      opt "supplementalGroupsPolicy" .text,
      opt "sysctls" (.many (part "Sysctl" [req "name" .text, req "value" .text])),
      opt "windowsOptions" windows ]

def nameService : Shape :=
  part "PodDNSConfig"
    [ opt "nameservers" (.many .text),
      opt "options" (.many (part "PodDNSConfigOption" (texts ["name", "value"]))),
      opt "searches" (.many .text) ]

def podFields : Fields :=
  texts ["dnsPolicy", "hostname", "nodeName", "preemptionPolicy", "priorityClassName",
      "restartPolicy", "runtimeClassName", "schedulerName", "serviceAccount",
      "serviceAccountName", "subdomain"]
    ++ flags ["automountServiceAccountToken", "enableServiceLinks", "hostIPC", "hostNetwork",
      "hostPID", "hostUsers", "setHostnameAsFQDN", "shareProcessNamespace"]
    ++ [ opt "activeDeadlineSeconds" integer64, opt "affinity" affinity,
         opt "dnsConfig" nameService, opt "ephemeralContainers" (.many ephemeralContainer),
         opt "hostAliases" (.many (part "HostAlias"
          [opt "hostnames" (.many .text), req "ip" .text])),
         opt "imagePullSecrets" (.many localReference),
         opt "initContainers" (.many container), opt "nodeSelector" table,
         opt "os" (part "PodOS" [req "name" .text]), opt "overhead" quantities,
         opt "priority" (.whole signed32),
         opt "readinessGates" (.many (part "PodReadinessGate" [req "conditionType" .text])),
         opt "resourceClaims" (.many (part "PodResourceClaim"
          [ req "name" .text, opt "resourceClaimName" .text,
            opt "resourceClaimTemplateName" .text ])),
         opt "resources" resources,
         opt "schedulingGates" (.many (part "PodSchedulingGate" [req "name" .text])),
         opt "securityContext" podSecurityContext,
         opt "terminationGracePeriodSeconds" integer64, opt "tolerations" (.many toleration),
         opt "topologySpreadConstraints" (.many spread) ]

def podSpec : Shape :=
  part "PodSpec"
    ([req "containers" (.many container), opt "volumes" (.many volume)] ++ podFields)

def podTemplate : Shape :=
  part "PodTemplateSpec" [opt "metadata" metadata, opt "spec" podSpec]

/-! ### How pods are getting on -/

def podStatusFields : Fields :=
  texts ["hostIP", "message", "nominatedNodeName", "podIP", "qosClass", "reason", "resize"]
    ++ each (.many containerStatus)
      ["containerStatuses", "ephemeralContainerStatuses", "initContainerStatuses"]
    ++ [ opt "conditions" (.many (condition "PodCondition"
          ["lastProbeTime", "lastTransitionTime"])),
         opt "hostIPs" (.many (part "HostIP" [req "ip" .text])),
         opt "podIPs" (.many (part "PodIP" [req "ip" .text])),
         opt "resourceClaimStatuses" (.many (part "PodResourceClaimStatus"
          [req "name" .text, opt "resourceClaimName" .text])),
         opt "startTime" .instant ]

def podStatus : Shape := part "PodStatus" (opt "phase" .text :: podStatusFields)

def pod : Shape := identified "v1" "Pod" [opt "spec" podSpec, opt "status" podStatus]

end ClusterBackup.Cluster.Shape
