/-
# The shape of the status of a pod

What a pod reports about itself and about its containers.
-/
import PortForward.Pod.Shape.Container

namespace PortForward.Shape

/-! ## States -/

/-- The state of a container that runs. -/
def running : Shape := part "ContainerStateRunning" [("startedAt", .moment)]

/-- The state of a container that waits. -/
def waiting : Shape := part "ContainerStateWaiting" [("message", .text), ("reason", .text)]

/-- The state of a container that has ended. -/
def terminated : Shape := part "ContainerStateTerminated" [
  ("containerID", .text), ("exitCode", int32), ("finishedAt", .moment), ("message", .text),
  ("reason", .text), ("signal", int32), ("startedAt", .moment)]

/-- The state of a container. -/
def containerState : Shape := part "ContainerState" [
  ("running", running), ("terminated", terminated), ("waiting", waiting)]

/-! ## Reports -/

/-- How well the resources of a container are. -/
def resourceStatus : Shape := part "ResourceStatus" [
  ("name", .text),
  ("resources", .list (part "ResourceHealth" [("health", .text), ("resourceID", .text)]))]

/-- As whom a container runs. -/
def containerUser : Shape := part "ContainerUser" [
  ("linux", part "LinuxContainerUser" [
    ("gid", int64), ("supplementalGroups", .list int64), ("uid", int64)])]

/-- What a pod reports about a container. -/
def containerStatus : Shape := part "ContainerStatus" [
  ("allocatedResources", quantities), ("allocatedResourcesStatus", .list resourceStatus),
  ("containerID", .text), ("image", .text), ("imageID", .text), ("lastState", containerState),
  ("name", .text), ("ready", .flag), ("resources", resources), ("restartCount", int32),
  ("started", .flag), ("state", containerState), ("stopSignal", .text), ("user", containerUser),
  ("volumeMounts", .list (part "VolumeMountStatus" [
    ("mountPath", .text), ("name", .text), ("readOnly", .flag), ("recursiveReadOnly", .text)]))]

/-- What holds of a pod. -/
def condition : Shape := part "PodCondition" [
  ("lastProbeTime", .moment), ("lastTransitionTime", .moment), ("message", .text),
  ("observedGeneration", int64), ("reason", .text), ("status", .text), ("type", .text)]

/-- The claim behind the extended resources of a pod. -/
def extendedClaim : Shape := part "PodExtendedResourceClaimStatus" [
  ("requestMappings", .list (part "ContainerExtendedResourceRequest" [
    ("containerName", .text), ("requestName", .text), ("resourceName", .text)])),
  ("resourceClaimName", .text)]

/-- What a pod reports. -/
def podStatus : Shape := part "PodStatus" [
  ("allocatedResources", quantities), ("conditions", .list condition),
  ("containerStatuses", .list containerStatus),
  ("ephemeralContainerStatuses", .list containerStatus),
  ("extendedResourceClaimStatus", extendedClaim), ("hostIP", .text),
  ("hostIPs", .list (part "HostIP" [("ip", .text)])),
  ("initContainerStatuses", .list containerStatus), ("message", .text),
  ("nominatedNodeName", .text), ("observedGeneration", int64), ("phase", .text), ("podIP", .text),
  ("podIPs", .list (part "PodIP" [("ip", .text)])), ("qosClass", .text), ("reason", .text),
  ("resize", .text),
  ("resourceClaimStatuses", .list (part "PodResourceClaimStatus" [
    ("name", .text), ("resourceClaimName", .text)])),
  ("resources", resources), ("startTime", .moment)]

end PortForward.Shape
