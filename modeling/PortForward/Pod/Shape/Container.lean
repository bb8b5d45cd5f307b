/-
# The shape of containers

What a pod says about each of its containers: what runs in it, its ports and variables, what it
needs and how its health is checked.
-/
import PortForward.Pod.Shape.Security

namespace PortForward.Shape

/-! ## Ports, variables and resources -/

/-- A declared port. -/
def containerPort : Shape := part "ContainerPort" [
  ("containerPort", int32), ("hostIP", .text), ("hostPort", int32), ("name", .text),
  ("protocol", .text)]

/-- A value in a map of texts. -/
def keySelector (name : String) : Shape := part name [
  ("key", .text), ("name", .text), ("optional", .flag)]

/-- A member of a pod. -/
def memberSelector : Shape := part "ObjectFieldSelector" [("apiVersion", .text), ("fieldPath", .text)]

/-- A resource of a container, in some unit. -/
def resourceSelector : Shape := part "ResourceFieldSelector" [
  ("containerName", .text), ("divisor", quantity), ("resource", .text)]

/-- Where the value of a variable comes from. -/
def environmentSource : Shape := part "EnvVarSource" [
  ("configMapKeyRef", keySelector "ConfigMapKeySelector"), ("fieldRef", memberSelector),
  ("fileKeyRef", part "FileKeySelector" [
    ("key", .text), ("optional", .flag), ("path", .text), ("volumeName", .text)]),
  ("resourceFieldRef", resourceSelector), ("secretKeyRef", keySelector "SecretKeySelector")]

/-- A variable of the environment of a container. -/
def environmentEntry : Shape := part "EnvVar" [
  ("name", .text), ("value", .text), ("valueFrom", environmentSource)]

/-- Variables that come from a map of texts. -/
def environmentMap : Shape := part "EnvFromSource" [
  ("configMapRef", part "ConfigMapEnvSource" [("name", .text), ("optional", .flag)]),
  ("prefix", .text),
  ("secretRef", part "SecretEnvSource" [("name", .text), ("optional", .flag)])]

/-- What a container or a pod needs. -/
def resources : Shape := part "ResourceRequirements" [
  ("claims", .list (part "ResourceClaim" [("name", .text), ("request", .text)])),
  ("limits", quantities), ("requests", quantities)]

/-- A volume as a container sees it. -/
def mount : Shape := part "VolumeMount" [
  ("mountPath", .text), ("mountPropagation", .text), ("name", .text), ("readOnly", .flag),
  ("recursiveReadOnly", .text), ("subPath", .text), ("subPathExpr", .text)]

/-! ## Actions and probes -/

/-- Runs a command. -/
def execAction : Shape := part "ExecAction" [("command", texts)]

/-- Asks for a page. -/
def httpGetAction : Shape := part "HTTPGetAction" [
  ("host", .text),
  ("httpHeaders", .list (part "HTTPHeader" [("name", .text), ("value", .text)])),
  ("path", .text), ("port", textOrInt32), ("scheme", .text)]

/-- Connects to a port. -/
def tcpSocketAction : Shape := part "TCPSocketAction" [("host", .text), ("port", textOrInt32)]

/-- What is done when a container starts or stops. -/
def lifecycleHandler : Shape := part "LifecycleHandler" [
  ("exec", execAction), ("httpGet", httpGetAction), ("sleep", part "SleepAction" [("seconds", int64)]),
  ("tcpSocket", tcpSocketAction)]

/-- What is done around the life of a container. -/
def lifecycle : Shape := part "Lifecycle" [
  ("postStart", lifecycleHandler), ("preStop", lifecycleHandler), ("stopSignal", .text)]

/-- How the health of a container is checked. -/
def probe : Shape := part "Probe" [
  ("exec", execAction), ("failureThreshold", int32),
  ("grpc", part "GRPCAction" [("port", int32), ("service", .text)]), ("httpGet", httpGetAction),
  ("initialDelaySeconds", int32), ("periodSeconds", int32), ("successThreshold", int32),
  ("tcpSocket", tcpSocketAction), ("terminationGracePeriodSeconds", int64),
  ("timeoutSeconds", int32)]

/-- When a container is restarted. -/
def restartRule : Shape := part "ContainerRestartRule" [
  ("action", .text),
  ("exitCodes", part "ContainerRestartRuleOnExitCodes" [
    ("operator", .text), ("values", .list int32)])]

/-! ## Containers -/

/-- The members of every container. -/
def containerMembers : List (String × Shape) := [
  ("args", texts), ("command", texts), ("env", .list environmentEntry),
  ("envFrom", .list environmentMap), ("image", .text), ("imagePullPolicy", .text),
  ("lifecycle", lifecycle), ("livenessProbe", probe), ("name", .text),
  ("ports", .list containerPort), ("readinessProbe", probe),
  ("resizePolicy", .list (part "ContainerResizePolicy" [
    ("resourceName", .text), ("restartPolicy", .text)])),
  ("resources", resources), ("restartPolicy", .text), ("restartPolicyRules", .list restartRule),
  ("securityContext", securityContext), ("startupProbe", probe), ("stdin", .flag),
  ("stdinOnce", .flag), ("terminationMessagePath", .text), ("terminationMessagePolicy", .text),
  ("tty", .flag),
  ("volumeDevices", .list (part "VolumeDevice" [("devicePath", .text), ("name", .text)])),
  ("volumeMounts", .list mount), ("workingDir", .text)]

/-- A container. -/
def container : Shape := part "Container" containerMembers

/-- A container that looks into another one for a while. -/
def ephemeralContainer : Shape :=
  part "EphemeralContainer" (("targetContainerName", .text) :: containerMembers)

end PortForward.Shape
