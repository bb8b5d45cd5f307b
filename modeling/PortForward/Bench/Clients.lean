/-
# Clients and container ports

A container port says first who it is and then repeats what it is sent. Clients send, and hear the
reply to its end; of a long reply they keep how it begins.

* `Scenario.send` : what a client hears;
* `Cluster.echo` : what it hears through an API server, if the pod does not misbehave.
-/
import PortForward.Cluster.Dial
import PortForward.Scenario

namespace PortForward

/-- The pod announces another port, or hangs up before it has said anything. -/
def Cluster.misbehaves (r : Response) : Bool :=
  match (r.body.member? "pod").bind Json.string? with
  | some pod => pod == "wrong_port" || pod == "hang_up"
  | none => false

/-- A pod that says who it is and repeats what it is sent. -/
def Cluster.echo : Cluster.PodSide := fun path port r data =>
  if misbehaves r then "" else path ++ "#" ++ toString port ++ ">" ++ data

namespace Scenario

/-- What a container port says first to everybody who connects. -/
def banner (key : Key) (port : UInt16) : String := key.text ++ "#" ++ toString port ++ ">"

/-- What a client hears. -/
inductive Heard where
  | refused
  | text (reply : String)
  /-- Of a long reply, its length in bytes and how it begins. -/
  | long (bytes : Nat) (head : String)

/-- A reply of at most so many bytes is heard whole. -/
def wholeReply : Nat := 300

/-- The banner and the data so many times, as it is heard. -/
def echo (banner data : String) (times : Nat) : Heard :=
  let bytes := banner.utf8ByteSize + times * data.utf8ByteSize
  let text (times : Nat) := banner ++ String.join (List.replicate times data)
  if bytes ≤ wholeReply then .text (text (if data = "" then 0 else times))
  else .long bytes (String.ofList ((text (min times 40)).toList.take 40))

/-- Connects, sends data so many times and hears the reply to its end. -/
def send (sc : Scenario) (address : String) (port : UInt16) (data : String) (times : Nat) : Heard :=
  match sc.meet address port with
  | .refused => .refused
  | .closed => .text ""
  | .tunnel key remote => echo (banner key remote) data times

/-- Why nothing can be accepted when no more files can be opened. -/
def noFiles : String := "Too many open files (os error 24)"

end Scenario
end PortForward
