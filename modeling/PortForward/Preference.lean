/-
# Preferred ports

A pod may say which ports an operator most likely wants, in an annotation such as
`web:http::8080,admin`: entries separated by commas, each with an optional container, the name or
number of a declared port, and an optional local port after `::`. The dialog is filled from it.

* `resolveAll` is all or nothing: one bad entry spoils the whole annotation;
* `suggestion` is what the dialog shows, also without an annotation.
-/
import PortForward.Pod
import PortForward.Text.Blank
import PortForward.Text.Pieces

namespace PortForward

/-- The annotation that names preferred ports. -/
def preferenceKey : String := "kfwd.io/port-forward"

/-- A preferred port, resolved to a declared one. -/
structure Draft where
  remote : PortSpec
  localPort : Option UInt16
deriving DecidableEq, Repr, Inhabited

/-- The local port to suggest: the preferred one, or else the container port. -/
def Draft.localOrRemote (d : Draft) : UInt16 := d.localPort.getD d.remote.port

namespace Preference

open Text (trim)

/-! ## Entries -/

/-- One entry of the annotation, not yet resolved. -/
structure Entry where
  container : Option (List Char)
  port : List Char
  localPort : Option (List Char)
deriving DecidableEq, Repr

/-- What stands before the first `::` of an entry, and the local port behind it, if there is one. -/
def cutLocal (entry : List Char) : List Char × Option (List Char) :=
  match Text.cutFirst entry with
  | some (head, l) => (head, some (trim l))
  | none => (entry, none)

/-- The container before the first colon, if there is one, and the port. -/
def cutContainer (head : List Char) : Option (List Char) × List Char :=
  match Text.cutAt ':' head with
  | some (c, p) => (some (trim c), trim p)
  | none => (none, trim head)

/-- The parts of an entry: it is split at its first `::`, and the part before it at its first colon. -/
def Entry.parts (entry : List Char) : Entry :=
  let (head, localPort) := cutLocal entry
  let (container, port) := cutContainer head
  ⟨container, port, localPort⟩

/-- Reads the parts of an entry. The port has to be there, and a container that is given. -/
def Entry.read (entry : List Char) : Except Unresolved Entry :=
  let e := parts entry
  if e.port = [] ∨ e.container = some [] then .error (.malformed (String.ofList entry)) else .ok e

/-- The local port of an entry, if it gives one. -/
def readLocal (given : Option (List Char)) : Except Unresolved (Option UInt16) :=
  match given with
  | none => .ok none
  | some l =>
    match Text.readNonzeroPort? l with
    | some p => .ok (some p)
    | none => .error (.badLocal (String.ofList l))

/-- Finds the declared port that an entry is about. -/
def Entry.resolve (e : Entry) (specs : List PortSpec) : Except Unresolved Draft := do
  match e.container, PortSpec.container? specs with
  | some wanted, some actual =>
    if String.ofList wanted ≠ actual then
      throw (.otherContainer (String.ofList e.port) (String.ofList wanted) actual)
  | _, _ => pure ()
  match PortSpec.lookup? specs (String.ofList e.port) with
  | none => throw (.unmatched (String.ofList e.port))
  | some remote =>
    let l ← readLocal e.localPort
    return ⟨remote, l⟩

/-! ## The annotation -/

/-- The entries of an annotation without blanks around them; blank entries do not count. -/
def entries (value : List Char) : List (List Char) :=
  ((Text.pieces ',' value).map trim).filter (· ≠ [])

/-- Resolves every entry, in order. -/
def resolveAll (value : String) (specs : List PortSpec) : Except Unresolved (List Draft) :=
  (entries value.toList).mapM fun entry => do (← Entry.read entry).resolve specs

/-- The preferred ports that a pod's annotations name. Without the annotation there are none; with
it, the container has to declare a port. -/
def ofAnnotations (a : Annotations) (specs : List PortSpec) : Except Error (List Draft) :=
  match a.get? preferenceKey with
  | none => .ok []
  | some value =>
    if specs = [] then .error (.unresolved .noPorts)
    else (resolveAll value specs).mapError .unresolved

/-! ## The suggestion -/

/-- What the remote field says about one port: with its label if there are several to tell apart. -/
def descriptor (s : PortSpec) (declared : Nat) : List Char :=
  if declared > 1 then s.label.toList ++ "::".toList ++ Text.portText s.port
  else Text.portText s.port

/-- Port numbers with commas between them. -/
def portList (ports : List UInt16) : List Char := Text.joined ',' (ports.map Text.portText)

/-- The remote and the local field that the dialog suggests: the preferred ports, or else the first
declared one. -/
def suggestion (drafts : List Draft) (specs : List PortSpec) : String × String :=
  match drafts with
  | [] =>
    match specs with
    | [] => ("", "")
    | first :: _ =>
      (String.ofList (descriptor first specs.length), String.ofList (Text.portText first.port))
  | [d] =>
    (String.ofList (descriptor d.remote specs.length), String.ofList (Text.portText d.localOrRemote))
  | ds =>
    (String.ofList (portList (ds.map (·.remote.port))),
      String.ofList (portList (ds.map (·.localOrRemote))))

end Preference
end PortForward
