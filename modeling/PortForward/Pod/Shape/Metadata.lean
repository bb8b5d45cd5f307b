/-
# The shape of metadata

What the cluster notes about every object, and the parts that many objects share. Every member of
a part may be missing or null.
-/
import PortForward.Json.Shape

namespace PortForward.Shape

/-- A record of which each member may be null. -/
def part (name : String) (members : List (String × Shape)) : Shape :=
  .record name (members.map fun (key, s) => (key, .nullable s))

/-- A list of texts. -/
def texts : Shape := .list .text

/-- Texts under keys. -/
def labels : Shape := .map .text

/-- Quantities of resources. -/
def quantities : Shape := .map quantity

/-- A reference to an object by its name. -/
def localReference : Shape := part "LocalObjectReference" [("name", .text)]

/-! ## Selectors -/

/-- What the values of a label have to be. -/
def labelRequirement : Shape := part "LabelSelectorRequirement" [
  ("key", .text), ("operator", .text), ("values", texts)]

/-- Selects objects by their labels. -/
def labelSelector : Shape := part "LabelSelector" [
  ("matchExpressions", .list labelRequirement), ("matchLabels", labels)]

/-! ## Metadata -/

/-- A reference to what owns a pod. -/
def owner : Shape := part "OwnerReference" [
  ("apiVersion", .text), ("blockOwnerDeletion", .flag), ("controller", .flag), ("kind", .text),
  ("name", .text), ("uid", .text)]

/-- What manages some members of a pod. -/
def manager : Shape := part "ManagedFieldsEntry" [
  ("apiVersion", .text), ("fieldsType", .text), ("fieldsV1", .anything), ("manager", .text),
  ("operation", .text), ("subresource", .text), ("time", .moment)]

/-- What the cluster notes about every object. -/
def metadata : Shape := part "ObjectMeta" [
  ("annotations", labels), ("creationTimestamp", .moment), ("deletionGracePeriodSeconds", int64),
  ("deletionTimestamp", .moment), ("finalizers", texts), ("generateName", .text),
  ("generation", int64), ("labels", labels), ("managedFields", .list manager), ("name", .text),
  ("namespace", .text), ("ownerReferences", .list owner), ("resourceVersion", .text),
  ("selfLink", .text), ("uid", .text)]

end PortForward.Shape
