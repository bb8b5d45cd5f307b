/-
# Errors

Everything that can go wrong, by cause. Each cause has one message; the kind is a short word that
callers branch on and that log lines show.
-/
import PortForward.Json.Fault
import PortForward.Key
import PortForward.Text.Quoted
import PortForward.Tunnel

namespace PortForward

open Text (quote)

section Steps

variable {α β ε : Type} {x : Except ε α} {f : α → Except ε β} {a c : α} {b : β}

/-- Two steps succeed if the first one does and the second one does on its result. -/
theorem bind_eq_ok_iff : x >>= f = .ok b ↔ ∃ a, x = .ok a ∧ f a = .ok b := by
  cases x with
  | error e => simp [bind, Except.bind]
  | ok a => simp [bind, Except.bind]

/-- Two steps fail with the error of the first one, or else with that of the second one. -/
theorem bind_eq_error_iff {e : ε} :
    x >>= f = .error e ↔ x = .error e ∨ ∃ a, x = .ok a ∧ f a = .error e := by
  cases x with
  | error cause => simp [bind, Except.bind]
  | ok a => simp [bind, Except.bind]

/-- A step fails exactly if it does not succeed. -/
theorem exists_error_iff : (∃ e, x = .error e) ↔ ¬ ∃ a, x = .ok a := by
  cases x <;> simp

theorem mapError_eq_error_iff {ε' : Type} {g : ε → ε'} {e : ε'} :
    x.mapError g = .error e ↔ ∃ cause, x = .error cause ∧ g cause = e := by
  cases x with
  | error cause =>
    constructor
    · rintro ⟨⟩
      exact ⟨cause, rfl, rfl⟩
    · rintro ⟨_, ⟨⟩, rfl⟩
      rfl
  | ok a =>
    constructor
    · rintro ⟨⟩
    · rintro ⟨_, ⟨⟩, _⟩

theorem pure_eq_ok_iff : (pure a : Except ε α) = .ok c ↔ a = c := by
  simp [pure, Except.pure]

end Steps

/-- The two port fields of the dialog. -/
inductive Field where
  | containerSide
  | localSide
deriving DecidableEq, Repr

/-- The word for a field in messages. -/
def Field.word : Field → String
  | .containerSide => "container"
  | .localSide => "local"

/-- What is wrong with the text in the dialog. -/
inductive Invalid where
  /-- No container port is given. -/
  | noRemote
  /-- The two fields name different numbers of ports. -/
  | mismatch (containerPorts localPorts : Nat)
  /-- Not a port where one is due. -/
  | badPort (field : Field) (text : String)
  /-- Neither a list of numbers nor a name with a port. -/
  | notNumeric (text : String)
  /-- The container does not declare the port. -/
  | undeclared (port : UInt16)
  /-- The declared port has another name. -/
  | misnamed (port : UInt16) (label : String)
  /-- A batch without tunnels. -/
  | emptyBatch
deriving DecidableEq, Repr

/-- Says what is wrong with the text in the dialog. -/
def Invalid.message : Invalid → String
  | .noRemote => "container to local port mismatch"
  | .mismatch c l =>
    "container to local port mismatch (" ++ toString c ++ " container vs " ++ toString l ++ " local)"
  | .badPort field text => "invalid " ++ field.word ++ " port " ++ quote text
  | .notNumeric text => "container ports must be numeric, got " ++ quote text
  | .undeclared port => "container does not declare port " ++ toString port
  | .misnamed port label => "port " ++ toString port ++ " is not named " ++ quote label
  | .emptyBatch => "no ports to forward"

/-- Why the annotation of a pod cannot be resolved against the declared ports. -/
inductive Unresolved where
  /-- The container declares no port that can be forwarded. -/
  | noPorts
  /-- The entry lacks a port, or names an empty container. -/
  | malformed (entry : String)
  /-- The entry is about another container. -/
  | otherContainer (port wanted actual : String)
  /-- No declared port has this name or number. -/
  | unmatched (port : String)
  /-- The local part is not a port. -/
  | badLocal (text : String)
deriving DecidableEq, Repr

/-- Says why the annotation cannot be resolved. -/
def Unresolved.message : Unresolved → String
  | .noPorts => "container exposes no forwardable ports"
  | .malformed entry => "malformed port annotation entry " ++ quote entry
  | .otherContainer port wanted actual =>
    "port " ++ quote port ++ " is annotated for container " ++ quote wanted ++ ", not " ++
      quote actual
  | .unmatched port => "no container port matches " ++ quote port
  | .badLocal text => "invalid local port " ++ quote text

/-- How far a container has come. -/
inductive Phase where
  | running
  | waiting
  | terminated
  | unknown
deriving DecidableEq, Repr

/-- The word for a phase in messages. -/
def Phase.word : Phase → String
  | .running => "Running"
  | .waiting => "Waiting"
  | .terminated => "Terminated"
  | .unknown => "Unknown"

/-- Why a request cannot be made. -/
inductive Unrequestable where
  | noName
  /-- The address has a character that no address may have. -/
  | badCharacter
  | tooLong
deriving DecidableEq, Repr

/-- Says why a request cannot be made. -/
def Unrequestable.message : Unrequestable → String
  | .noName => "failed to validate request: A non-empty name is required"
  | .badCharacter => "failed to build request: invalid uri character"
  | .tooLong => "failed to build request: uri too long"

/-- Why a workload cannot be reached or forwarded. -/
inductive Unavailable where
  /-- The pod has no container of this name. -/
  | noContainer (name : String)
  /-- The pod reports no status for the container. -/
  | noStatus (name : String)
  /-- A container that does not run has no socket to reach. -/
  | notRunning (name : String) (phase : Phase)
  | podNotFound (ns name : String)
  /-- The container declares no TCP port. -/
  | noTcpPorts (container : String)
  /-- No connection to the API server. -/
  | unreachable
  /-- The API server does not answer, or not with a proper answer. -/
  | unanswered
  /-- The API server refuses, with its own words. -/
  | refused (message reason : String)
  /-- The name does not fit into a request. -/
  | badRequest (cause : Unrequestable)
  /-- The answer is not a pod. -/
  | badAnswer (fault : Fault)
deriving DecidableEq, Repr

/-- Says why a workload is unavailable. -/
def Unavailable.message : Unavailable → String
  | .noContainer name => "unable to locate container named " ++ quote name
  | .noStatus name => "unable to locate container status for " ++ quote name
  | .notRunning name phase => "container " ++ name ++ " is not running (" ++ phase.word ++ ")"
  | .podNotFound ns name => "pod " ++ ns ++ "/" ++ name ++ " not found"
  | .noTcpPorts container => "container " ++ container ++ " exposes no TCP ports"
  | .unreachable => "ServiceError: client error (Connect)"
  | .unanswered => "ServiceError: client error (SendRequest)"
  | .refused message reason => "ApiError: " ++ message ++ ": " ++ reason
  | .badRequest _ => "Failed to build request"
  | .badAnswer _ => "Error deserializing response"

/-- The message, with all that is known about the cause. -/
def Unavailable.account : Unavailable → String
  | .badRequest cause => "Failed to build request: " ++ cause.message
  | .badAnswer fault => "Error deserializing response: " ++ fault.message
  | e => e.message

/-- Why the settings cannot be loaded. -/
inductive Unloadable where
  | unreadable (path reason : String)
  | malformed (path : String)
deriving DecidableEq, Repr

/-- Says why the settings cannot be loaded. -/
def Unloadable.message : Unloadable → String
  | .unreadable path reason => "failed to read " ++ path ++ ": " ++ reason
  | .malformed path => "failed to parse " ++ path

/-- Why the machine refuses to listen on an endpoint. -/
inductive IoError where
  | addressInUse
  | addressNotAvailable
  | permissionDenied
  | invalidArgument
  | noSuchDevice
  | unknownName
  | nulInName
  /-- Any other reason, in the words of the machine. -/
  | other (text : String)
deriving DecidableEq, Repr

/-- The words of the machine. -/
def IoError.message : IoError → String
  | .addressInUse => "Address already in use (os error 98)"
  | .addressNotAvailable => "Cannot assign requested address (os error 99)"
  | .permissionDenied => "Permission denied (os error 13)"
  | .invalidArgument => "Invalid argument (os error 22)"
  | .noSuchDevice => "No such device (os error 19)"
  | .unknownName => "failed to lookup address information: Name or service not known"
  | .nulInName => "file name contained an unexpected NUL byte"
  | .other text => text

/-- Every error of the library. -/
inductive Error where
  | invalid (cause : Invalid)
  | unresolved (cause : Unresolved)
  /-- The key already has a forwarder. -/
  | keyTaken (key : Key)
  /-- The local endpoint belongs to a forwarder. -/
  | endpointTaken (address : String) (port : UInt16) (owner : Key)
  | bind (tunnel : Tunnel) (cause : IoError)
  /-- A forwarder that ran has ended on its own. -/
  | terminated (key : Key) (reason : String)
  | notFound (key : Key)
  /-- A stop came before the start was through. -/
  | cancelled (key : Key)
  | limitReached (limit : Nat)
  | unavailable (cause : Unavailable)
  | unloadable (cause : Unloadable)
deriving DecidableEq, Repr

namespace Error

/-- The short word for an error. -/
def kind : Error → String
  | .invalid _ => "validation"
  | .unresolved _ => "resolution"
  | .keyTaken _ => "conflict"
  | .endpointTaken _ _ _ => "conflict"
  | .bind _ _ => "bind"
  | .terminated _ _ => "runtime"
  | .notFound _ => "not_found"
  | .cancelled _ => "cancelled"
  | .limitReached _ => "limit"
  | .unavailable _ => "workload"
  | .unloadable _ => "config"

/-- The message for people. -/
def message : Error → String
  | .invalid cause => cause.message
  | .unresolved cause => "unable to resolve preferred port: " ++ cause.message
  | .keyTaken key => "a port-forward already exists on container " ++ key.text
  | .endpointTaken address port owner =>
    "local port " ++ address ++ ":" ++ toString port ++ " is already forwarded by " ++ owner.text
  | .bind tunnel cause =>
    "unable to bind " ++ tunnel.address ++ ":" ++ toString tunnel.localPort ++ ": " ++ cause.message
  | .terminated key reason => "port-forward " ++ key.text ++ " terminated: " ++ reason
  | .notFound key => "no port-forward found for " ++ key.text
  | .cancelled key => "port-forward " ++ key.text ++ " was cancelled while starting"
  | .limitReached limit => "port-forward limit reached (max " ++ toString limit ++ ")"
  | .unavailable cause => cause.message
  | .unloadable cause => "config: " ++ cause.message

/-- The message, with all that is known about the cause. -/
def account : Error → String
  | .unavailable cause => cause.account
  | e => e.message

/-- Better text in the dialog may help. -/
def isRecoverable : Error → Bool
  | .invalid _ => true
  | .unresolved _ => true
  | _ => false

/-- The error of the operating system behind this one. -/
def source? : Error → Option String
  | .bind _ cause => some cause.message
  | _ => none

end Error
end PortForward
