/-
# The dialog's fields

The operator gives the container ports, the local ports and the bind address as text:

* the remote field is a list of port numbers, or `name::port`, or `port::local`;
* the local field is a list of as many ports, or empty, and then the remote field says which;
* an empty address stands for the default one.

`tunnels` reads them, all or nothing; `checkRemote` holds the remote field against what the
container declares; `localFill` is the text that an empty local field stands for.
-/
import PortForward.Error
import PortForward.PortSpec
import PortForward.Text.Blank
import PortForward.Text.Decimal
import PortForward.Text.Pieces

namespace PortForward.Fields

open Text (trim)

/-! ## The remote field -/

/-- A list of port numbers: digits only between the commas, blanks aside. -/
def isNumberList (s : List Char) : Bool :=
  (Text.pieces ',' s).all fun piece => trim piece ≠ [] && Text.allDigits (trim piece)

/-- Reads one port of a field. -/
def port (field : Field) (text : List Char) : Except Invalid UInt16 :=
  match Text.readNonzeroPort? (trim text) with
  | some p => .ok p
  | none => .error (.badPort field (String.ofList (trim text)))

/-- Reads a list of ports of a field. -/
def portList (field : Field) (text : List Char) : Except Invalid (List UInt16) :=
  (Text.pieces ',' text).mapM (port field)

/-- What the remote field says: the container ports, and the local port of `port::local`. -/
structure Remote where
  ports : List UInt16
  localPort : Option UInt16
deriving DecidableEq, Repr

/-- Reads the trimmed remote field. Of `A::B`, split at the last `::`, the part `A` is a container
port if it is all digits, and else the name of the port `B`. -/
def Remote.read (remote : List Char) : Except Invalid Remote :=
  match Text.cutLast remote with
  | some (head, tail) => do
    let head := trim head
    if head = [] ∨ ',' ∈ head then throw (.badPort .containerSide (String.ofList remote))
    let last ← port .containerSide tail
    if Text.allDigits head then return ⟨[← port .containerSide head], some last⟩
    else return ⟨[last], none⟩
  | none => do
    if !isNumberList remote then throw (.notNumeric (String.ofList remote))
    return ⟨← portList .containerSide remote, none⟩

/-- The local ports that a remote field stands for when the local field is empty. -/
def localFill (remote : List Char) : List Char :=
  let remote := trim remote
  match Text.cutLast remote with
  | some (_, tail) => trim tail
  | none => if isNumberList remote then remote else []

/-! ## All fields together -/

/-- The texts of the dialog, and the address that an empty address field stands for. -/
structure Input where
  address : String := ""
  remote : String
  localPorts : String := ""
  defaultAddress : String := "localhost"
deriving DecidableEq, Repr

/-- The local ports of the trimmed local field. -/
def localPorts (remote : List Char) (r : Remote) (localText : List Char) :
    Except Invalid (List UInt16) :=
  if localText = [] then
    match r.localPort with
    | some p => .ok [p]
    | none =>
      let fill := localFill remote
      if fill = [] then .error .noRemote else portList .localSide fill
  else portList .localSide localText

/-- The tunnels that the fields describe: one for each container port, in order. -/
def read (i : Input) : Except Invalid (List Tunnel) := do
  let remote := trim i.remote.toList
  if remote = [] then throw .noRemote
  let r ← Remote.read remote
  let locals ← localPorts remote r (trim i.localPorts.toList)
  if locals.length ≠ r.ports.length then throw (.mismatch r.ports.length locals.length)
  let address :=
    match trim i.address.toList with
    | [] => i.defaultAddress
    | a => String.ofList a
  return r.ports.zipWith (fun remotePort localPort => ⟨address, localPort, remotePort⟩) locals

/-- The tunnels that the fields describe, or what is wrong with the text. -/
def tunnels (i : Input) : Except Error (List Tunnel) := (read i).mapError .invalid

/-! ## The remote field and the declared ports -/

/-- The label in the trimmed remote field: what stands before the last `::`, unless it is a
number. -/
def label? (remote : List Char) : Option (List Char) :=
  (Text.cutLast remote).bind fun (head, _) =>
    if Text.allDigits (trim head) then none else some (trim head)

/-- A port of the remote field is declared, and the label, if there is one, is its name or
container. -/
def checkPort (specs : List PortSpec) (label : Option String) (p : UInt16) : Except Invalid Unit :=
  match PortSpec.findPort? specs p with
  | none => .error (.undeclared p)
  | some s =>
    match label with
    | none => .ok ()
    | some l => if s.name = some l ∨ s.container = l then .ok () else .error (.misnamed p l)

/-- Every port of the remote field is declared under the label that the field gives. -/
def checkRemote (remote : String) (specs : List PortSpec) : Except Error Unit :=
  let check : Except Invalid Unit := do
    let remote := trim remote.toList
    let r ← Remote.read remote
    r.ports.forM (checkPort specs ((label? remote).map String.ofList))
  check.mapError .invalid

/-- The text that an empty local field stands for. -/
def extractPort (remote : String) : String := String.ofList (localFill remote.toList)

end PortForward.Fields
