/-
# Pods as documents

Reads pods and their parts from the documents that the API server answers with. Unknown members are
passed over, and missing ones have their defaults; a member of the wrong form spoils the document.

* `Pod.read` : a pod, or the first fault of the document.
-/
import PortForward.Pod
import PortForward.Pod.Shape

namespace PortForward

namespace Json

/-- The text under a key. -/
def textUnder? (j : Json) (key : String) : Option String := (j.member? key).bind string?

/-- The items of the list under a key, if there is one. -/
def itemsUnder (j : Json) (key : String) : List Json := ((j.member? key).bind items?).getD []

/-- The member under a key; without one, an empty object. -/
def under (j : Json) (key : String) : Json := (j.member? key).getD (.object [])

end Json

/-- The declared port in a document. -/
def ContainerPort.ofJson (j : Json) : ContainerPort where
  number := ((j.member? "containerPort").bind Json.number?).getD 0
  name := j.textUnder? "name"
  protocol := j.textUnder? "protocol"

/-- The container in a document. -/
def Container.ofJson (j : Json) : Container where
  name := (j.textUnder? "name").getD ""
  ports := (j.itemsUnder "ports").map ContainerPort.ofJson

/-- The state of a container in a document. -/
def ContainerState.ofJson (j : Json) : ContainerState where
  running := (j.member? "running").isSome
  waiting := (j.member? "waiting").isSome
  terminated := (j.member? "terminated").isSome

/-- The status of a container in a document. -/
def ContainerStatus.ofJson (j : Json) : ContainerStatus where
  name := (j.textUnder? "name").getD ""
  state := (j.member? "state").map ContainerState.ofJson

/-- The annotations in a document. -/
def Annotations.ofJson (j : Json) : Annotations :=
  Annotations.ofList ((j.members?.getD []).filterMap fun (key, value) =>
    value.string?.map fun v => (key, v))

/-- The pod in a document. -/
def Pod.ofJson (j : Json) : Pod where
  name := (j.under "metadata").textUnder? "name"
  ns := (j.under "metadata").textUnder? "namespace"
  annotations := Annotations.ofJson ((j.under "metadata").under "annotations")
  containers := ((j.under "spec").itemsUnder "containers").map Container.ofJson
  statuses := ((j.under "status").itemsUnder "containerStatuses").map ContainerStatus.ofJson

/-- Reads a container. -/
def Container.read (j : Json) : Except Fault Container := Shape.container.read Container.ofJson j

/-- Reads the state of a container. -/
def ContainerState.read (j : Json) : Except Fault ContainerState :=
  Shape.containerState.read ContainerState.ofJson j

/-- Reads the status of a container. -/
def ContainerStatus.read (j : Json) : Except Fault ContainerStatus :=
  Shape.containerStatus.read ContainerStatus.ofJson j

/-- Reads annotations: text values only. -/
def Annotations.read (j : Json) : Except Fault Annotations := Shape.labels.read Annotations.ofJson j

/-- Reads a pod. -/
def Pod.read (j : Json) : Except Fault Pod := Shape.pod.read Pod.ofJson j

/-- What can be read as a pod has the form of one. -/
theorem Pod.fault?_eq_none_of_read {j : Json} {pod : Pod} (h : Pod.read j = .ok pod) :
    Shape.pod.fault? 0 j = none := (Shape.read_eq_ok_iff.mp h).1

end PortForward
