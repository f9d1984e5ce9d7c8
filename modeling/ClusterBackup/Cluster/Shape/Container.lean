import ClusterBackup.Cluster.Shape.Object

/-! The shapes of containers: environment, probes, privileges, and how they are getting on. -/

set_option autoImplicit false

namespace ClusterBackup.Cluster.Shape

open Json Json.Shape

/-! ### Environment -/

def keySelector (name : String) : Shape :=
  part name [req "key" .text, req "name" .text, opt "optional" .flag]

def variableSource : Shape :=
  part "EnvVarSource"
    [ opt "configMapKeyRef" (keySelector "ConfigMapKeySelector"), opt "fieldRef" fieldSelector,
      opt "resourceFieldRef" resourceSelector,
      opt "secretKeyRef" (keySelector "SecretKeySelector") ]

def environmentVariable : Shape :=
  part "EnvVar" [req "name" .text, opt "value" .text, opt "valueFrom" variableSource]

def variablesOf (name : String) : Shape := part name [req "name" .text, opt "optional" .flag]

def environmentSource : Shape :=
  part "EnvFromSource"
    [ opt "configMapRef" (variablesOf "ConfigMapEnvSource"), opt "prefix" .text,
      opt "secretRef" (variablesOf "SecretEnvSource") ]

/-! ### Privileges -/

def armor : Shape := part "AppArmorProfile" [opt "localhostProfile" .text, req "type" .text]

def seccomp : Shape := part "SeccompProfile" [opt "localhostProfile" .text, req "type" .text]

def selinux : Shape := part "SELinuxOptions" (texts ["level", "role", "type", "user"])

def windows : Shape :=
  part "WindowsSecurityContextOptions"
    (texts ["gmsaCredentialSpec", "gmsaCredentialSpecName", "runAsUserName"]
      ++ flags ["hostProcess"])

def securityContext : Shape :=
  part "SecurityContext"
    (flags ["allowPrivilegeEscalation", "privileged", "readOnlyRootFilesystem", "runAsNonRoot"]
      ++ [ opt "appArmorProfile" armor,
           opt "capabilities" (part "Capabilities" (each (.many .text) ["add", "drop"])),
           opt "procMount" .text, opt "runAsGroup" integer64, opt "runAsUser" integer64,
           opt "seLinuxOptions" selinux, opt "seccompProfile" seccomp,
           opt "windowsOptions" windows ])

/-! ### What is done to a container -/

def execute : Shape := part "ExecAction" [opt "command" (.many .text)]

def fetch : Shape :=
  part "HTTPGetAction"
    [ opt "host" .text,
      opt "httpHeaders" (.many (part "HTTPHeader" [req "name" .text, req "value" .text])),
      opt "path" .text, req "port" .amount, opt "scheme" .text ]

def connect : Shape := part "TCPSocketAction" [opt "host" .text, req "port" .amount]

def handler : Shape :=
  part "LifecycleHandler"
    [ opt "exec" execute, opt "httpGet" fetch,
      opt "sleep" (part "SleepAction" [req "seconds" integer64]), opt "tcpSocket" connect ]

def probe : Shape :=
  part "Probe"
    ([ opt "exec" execute,
       opt "grpc" (part "GRPCAction" [req "port" (.whole signed32), opt "service" .text]),
       opt "httpGet" fetch, opt "tcpSocket" connect,
       opt "terminationGracePeriodSeconds" integer64 ]
      ++ counts ["failureThreshold", "initialDelaySeconds", "periodSeconds", "successThreshold",
        "timeoutSeconds"])

/-! ### Containers -/

def resources : Shape :=
  part "ResourceRequirements"
    [ opt "claims" (.many (part "ResourceClaim" [req "name" .text, opt "request" .text])),
      opt "limits" quantities, opt "requests" quantities ]

def port : Shape :=
  part "ContainerPort"
    [ req "containerPort" (.whole signed32), opt "hostIP" .text, opt "hostPort" (.whole signed32),
      opt "name" .text, opt "protocol" .text ]

def mountFields : Fields :=
  texts ["mountPropagation", "recursiveReadOnly", "subPath", "subPathExpr"] ++ flags ["readOnly"]

def mount : Shape :=
  part "VolumeMount" ([req "mountPath" .text, req "name" .text] ++ mountFields)

def containerFields : Fields :=
  texts ["workingDir", "terminationMessagePath", "terminationMessagePolicy", "restartPolicy"]
    ++ flags ["stdin", "stdinOnce", "tty"]
    ++ [ opt "command" (.many .text), opt "envFrom" (.many environmentSource),
         opt "lifecycle" (part "Lifecycle" (each handler ["postStart", "preStop"])),
         opt "livenessProbe" probe, opt "ports" (.many port), opt "readinessProbe" probe,
         opt "resizePolicy" (.many (part "ContainerResizePolicy"
          [req "resourceName" .text, req "restartPolicy" .text])),
         opt "resources" resources, opt "securityContext" securityContext,
         opt "startupProbe" probe,
         opt "volumeDevices" (.many (part "VolumeDevice"
          [req "devicePath" .text, req "name" .text])) ]

def containerShape (name : String) (more : Fields) : Shape :=
  part name
    ([ req "name" .text, opt "image" .text, opt "imagePullPolicy" .text,
       opt "args" (.many .text), opt "env" (.many environmentVariable),
       opt "volumeMounts" (.many mount) ]
      ++ containerFields ++ more)

def container : Shape := containerShape "Container" []

def ephemeralContainer : Shape :=
  containerShape "EphemeralContainer" [opt "targetContainerName" .text]

/-! ### How containers are getting on -/

def containerState : Shape :=
  part "ContainerState"
    [ opt "running" (part "ContainerStateRunning" [opt "startedAt" .instant]),
      opt "terminated" (part "ContainerStateTerminated"
        [ opt "containerID" .text, req "exitCode" (.whole signed32), opt "finishedAt" .instant,
          opt "message" .text, opt "reason" .text, opt "signal" (.whole signed32),
          opt "startedAt" .instant ]),
      opt "waiting" (part "ContainerStateWaiting" (texts ["message", "reason"])) ]

def containerStatus : Shape :=
  part "ContainerStatus"
    [ opt "allocatedResources" quantities,
      opt "allocatedResourcesStatus" (.many (part "ResourceStatus"
        [ req "name" .text,
          opt "resources" (.many (part "ResourceHealth"
            [opt "health" .text, req "resourceID" .text])) ])),
      opt "containerID" .text, req "image" .text, req "imageID" .text,
      opt "lastState" containerState, req "name" .text, req "ready" .flag,
      opt "resources" resources, req "restartCount" (.whole signed32), opt "started" .flag,
      opt "state" containerState,
      opt "user" (part "ContainerUser"
        [opt "linux" (part "LinuxContainerUser"
          [req "gid" integer64, opt "supplementalGroups" (.many integer64), req "uid" integer64])]),
      opt "volumeMounts" (.many (part "VolumeMountStatus"
        [ req "mountPath" .text, req "name" .text, opt "readOnly" .flag,
          opt "recursiveReadOnly" .text ])) ]

end ClusterBackup.Cluster.Shape
