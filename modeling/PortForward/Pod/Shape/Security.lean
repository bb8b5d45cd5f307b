/-
# The shape of security contexts

With which rights the processes of a pod or of a container run.
-/
import PortForward.Pod.Shape.Metadata

namespace PortForward.Shape

/-- A profile that confines processes. -/
def profile (name : String) : Shape := part name [("localhostProfile", .text), ("type", .text)]

/-- The labels that processes run under. -/
def processLabels : Shape := part "SELinuxOptions" [
  ("level", .text), ("role", .text), ("type", .text), ("user", .text)]

/-- The rights of processes on another system. -/
def windowsOptions : Shape := part "WindowsSecurityContextOptions" [
  ("gmsaCredentialSpec", .text), ("gmsaCredentialSpecName", .text), ("hostProcess", .flag),
  ("runAsUserName", .text)]

/-- The rights of a container. -/
def securityContext : Shape := part "SecurityContext" [
  ("allowPrivilegeEscalation", .flag), ("appArmorProfile", profile "AppArmorProfile"),
  ("capabilities", part "Capabilities" [("add", texts), ("drop", texts)]), ("privileged", .flag),
  ("procMount", .text), ("readOnlyRootFilesystem", .flag), ("runAsGroup", int64),
  ("runAsNonRoot", .flag), ("runAsUser", int64), ("seLinuxOptions", processLabels),
  ("seccompProfile", profile "SeccompProfile"), ("windowsOptions", windowsOptions)]

/-- The rights of a pod. -/
def podSecurityContext : Shape := part "PodSecurityContext" [
  ("appArmorProfile", profile "AppArmorProfile"), ("fsGroup", int64),
  ("fsGroupChangePolicy", .text), ("runAsGroup", int64), ("runAsNonRoot", .flag),
  ("runAsUser", int64), ("seLinuxChangePolicy", .text), ("seLinuxOptions", processLabels),
  ("seccompProfile", profile "SeccompProfile"), ("supplementalGroups", .list int64),
  ("supplementalGroupsPolicy", .text),
  ("sysctls", .list (part "Sysctl" [("name", .text), ("value", .text)])),
  ("windowsOptions", windowsOptions)]

end PortForward.Shape
