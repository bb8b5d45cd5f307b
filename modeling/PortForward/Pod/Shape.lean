/-
# The shape of a pod

Of which form the API server's documents about pods are. Most of a pod does not matter here, but a
document is refused as a whole if any part of it is of another form.

* `Shape.pod` : a pod; its parts are in the modules of this folder.
-/
import PortForward.Pod.Shape.Placement
import PortForward.Pod.Shape.Status
import PortForward.Pod.Shape.Volume

namespace PortForward.Shape

/-- How names are looked up in a pod. -/
def dnsConfig : Shape := part "PodDNSConfig" [
  ("nameservers", texts),
  ("options", .list (part "PodDNSConfigOption" [("name", .text), ("value", .text)])),
  ("searches", texts)]

/-- Names of an address. -/
def hostAlias : Shape := part "HostAlias" [("hostnames", texts), ("ip", .text)]

/-- A resource that a pod claims. -/
def podResourceClaim : Shape := part "PodResourceClaim" [
  ("name", .text), ("resourceClaimName", .text), ("resourceClaimTemplateName", .text)]

/-- The workload that a pod belongs to. -/
def workloadReference : Shape := part "WorkloadReference" [
  ("name", .text), ("podGroup", .text), ("podGroupReplicaKey", .text)]

/-- What is wanted of a pod. -/
def podSpec : Shape := part "PodSpec" [
  ("activeDeadlineSeconds", int64), ("affinity", affinity),
  ("automountServiceAccountToken", .flag), ("containers", .list container),
  ("dnsConfig", dnsConfig), ("dnsPolicy", .text), ("enableServiceLinks", .flag),
  ("ephemeralContainers", .list ephemeralContainer), ("hostAliases", .list hostAlias),
  ("hostIPC", .flag), ("hostNetwork", .flag), ("hostPID", .flag), ("hostUsers", .flag),
  ("hostname", .text), ("hostnameOverride", .text), ("imagePullSecrets", .list localReference),
  ("initContainers", .list container), ("nodeName", .text), ("nodeSelector", labels),
  ("os", part "PodOS" [("name", .text)]), ("overhead", quantities), ("preemptionPolicy", .text),
  ("priority", int32), ("priorityClassName", .text),
  ("readinessGates", .list (part "PodReadinessGate" [("conditionType", .text)])),
  ("resourceClaims", .list podResourceClaim), ("resources", resources), ("restartPolicy", .text),
  ("runtimeClassName", .text), ("schedulerName", .text),
  ("schedulingGates", .list (part "PodSchedulingGate" [("name", .text)])),
  ("securityContext", podSecurityContext), ("serviceAccount", .text), ("serviceAccountName", .text),
  ("setHostnameAsFQDN", .flag), ("shareProcessNamespace", .flag), ("subdomain", .text),
  ("terminationGracePeriodSeconds", int64), ("tolerations", .list toleration),
  ("topologySpreadConstraints", .list spread), ("volumes", .list volume),
  ("workloadRef", workloadReference)]

/-- A pod. -/
def pod : Shape := .record "Pod" [
  ("apiVersion", .constant "v1"), ("kind", .constant "Pod"), ("metadata", .nullable metadata),
  ("spec", .nullable podSpec), ("status", .nullable podStatus)]

end PortForward.Shape
