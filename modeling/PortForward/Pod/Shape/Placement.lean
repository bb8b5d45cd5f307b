/-
# The shape of placement

On which nodes a pod may run: near to or far from other pods, spread evenly, or in spite of taints.
-/
import PortForward.Pod.Shape.Metadata

namespace PortForward.Shape

/-! ## Nodes -/

/-- What the values of a label or of a member of a node have to be. -/
def nodeRequirement : Shape := part "NodeSelectorRequirement" [
  ("key", .text), ("operator", .text), ("values", texts)]

/-- What has to hold of a node. -/
def nodeTerm : Shape := part "NodeSelectorTerm" [
  ("matchExpressions", .list nodeRequirement), ("matchFields", .list nodeRequirement)]

/-- Which nodes a pod prefers and needs. -/
def nodeAffinity : Shape := part "NodeAffinity" [
  ("preferredDuringSchedulingIgnoredDuringExecution", .list (part "PreferredSchedulingTerm" [
    ("preference", nodeTerm), ("weight", int32)])),
  ("requiredDuringSchedulingIgnoredDuringExecution", part "NodeSelector" [
    ("nodeSelectorTerms", .list nodeTerm)])]

/-! ## Other pods -/

/-- Which pods matter, and what counts as one place. -/
def podTerm : Shape := part "PodAffinityTerm" [
  ("labelSelector", labelSelector), ("matchLabelKeys", texts), ("mismatchLabelKeys", texts),
  ("namespaceSelector", labelSelector), ("namespaces", texts), ("topologyKey", .text)]

/-- Which pods a pod prefers and needs to be near to, or far from. -/
def neighbours (name : String) : Shape := part name [
  ("preferredDuringSchedulingIgnoredDuringExecution", .list (part "WeightedPodAffinityTerm" [
    ("podAffinityTerm", podTerm), ("weight", int32)])),
  ("requiredDuringSchedulingIgnoredDuringExecution", .list podTerm)]

/-- Where a pod prefers and needs to be. -/
def affinity : Shape := part "Affinity" [
  ("nodeAffinity", nodeAffinity), ("podAffinity", neighbours "PodAffinity"),
  ("podAntiAffinity", neighbours "PodAntiAffinity")]

/-- How evenly pods are spread. -/
def spread : Shape := part "TopologySpreadConstraint" [
  ("labelSelector", labelSelector), ("matchLabelKeys", texts), ("maxSkew", int32),
  ("minDomains", int32), ("nodeAffinityPolicy", .text), ("nodeTaintsPolicy", .text),
  ("topologyKey", .text), ("whenUnsatisfiable", .text)]

/-- A taint that a pod tolerates. -/
def toleration : Shape := part "Toleration" [
  ("effect", .text), ("key", .text), ("operator", .text), ("tolerationSeconds", int64),
  ("value", .text)]

end PortForward.Shape
