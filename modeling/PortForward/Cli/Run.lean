/-
# A run of the program

What a run prints, logs and asks, as a function of what surrounds it: the arguments, the
environment, the files, the cluster, the machine, and what happens from outside while it forwards.
How the cluster is asked for a pod is left open, up to `run`.

* `Run.chooseFields`, `Run.batch`, `Run.prepare` : from the options to the tunnels;
* `Run.idle`, `Run.start` : a registry of its own, which is asked for these tunnels;
* `Run.forward` : starts the forwarder and accompanies it to its end.
-/
import PortForward.Cli.Arguments
import PortForward.Cli.Filter
import PortForward.Cluster.Dial
import PortForward.Cluster.Watch
import PortForward.Preference
import PortForward.Scenario
import PortForward.Settings

namespace PortForward.Cli

/-- A request to end. -/
inductive Signal where
  | interrupt
  | terminate
deriving DecidableEq, Repr

/-- The name of a signal. -/
def Signal.word : Signal → String
  | .interrupt => "SIGINT"
  | .terminate => "SIGTERM"

/-- A client that connects and sends data. -/
structure Visit where
  address : String
  port : UInt16
  data : String

/-- What surrounds a run. -/
structure Surroundings where
  environment : Settings.Environment := []
  files : Files := default
  cluster : Cluster := {}
  platform : Platform := default
  /-- Where other programs listen. -/
  held : List (String × UInt16) := []
  podSide : Cluster.PodSide := fun _ _ _ _ => ""
  /-- The clients that come before the signal. -/
  visits : List Visit := []
  signal : Option Signal := none

/-- The machine that a run finds. -/
def Surroundings.machine (s : Surroundings) : Machine :=
  s.held.foldl (fun m endpoint => m.hold endpoint.1 endpoint.2) { platform := s.platform }

/-- What a run writes: a text, or a log line. -/
inductive Written where
  | text (s : String)
  | line (l : LogLine)

/-- The text, if it is one. -/
def Written.text? : Written → Option String
  | .text s => some s
  | .line _ => none

/-- What a run leaves behind. -/
structure Outcome where
  exitCode : Nat
  written : List Written := []
  /-- What the clients heard; nothing if they could not connect. -/
  replies : List (Option String) := []
  complaint : Option String := none
  requests : List String := []

/-- A run on its way: the cluster as it is now, and what was written and heard. -/
structure Run where
  settings : Settings
  cluster : Cluster
  written : List Written := []
  replies : List (Option String) := []
  /-- The registry, on its machine, as soon as it was asked for a forwarder. -/
  registry : Option Scenario := none

namespace Run

/-- Lines about the run as a whole come from here. -/
def mainOrigin : String := "kfwd"

/-- Lines about forwarders come from here. -/
def registryOrigin : String := "kfwd::forward"

/-- Lines about listeners and connections come from here. -/
def tunnelOrigin : String := "kfwd::forward::tunnel"

/-- Lines about the watch of a target come from here. -/
def watchOrigin : String := "kfwd::forward::dialer"

/-- Lines about asking for pods come from here. -/
def podOrigin : String := "kfwd::workload"

/-- Remarks on answers come from here. -/
def clientOrigin : String := "kube_client::client"

/-- Remarks on exchanges that have failed come from here. -/
def exchangeOrigin : String := "kube_client::client::builder"

/-- Adds a log line. -/
def log (r : Run) (l : LogLine) : Run := { r with written := r.written ++ [.line l] }

/-- Adds log lines. -/
def logAll (r : Run) (ls : List LogLine) : Run := { r with written := r.written ++ ls.map .line }

/-- Prints a text. -/
def print (r : Run) (s : String) : Run := { r with written := r.written ++ [.text s] }

/-- The texts that were printed. -/
def texts (r : Run) : List String := r.written.filterMap Written.text?

/-- A line about a forwarder. -/
def keyed (severity : Severity) (origin message : String) (key : Key) : LogLine :=
  ⟨severity, origin, message, [("key", .plain key.text)]⟩

/-- The values that a line about an error ends with. The message of a refusal goes on with details
of the server, and with them all that follows is left out. -/
def valuesAfter (e : Unavailable) (values : List (String × LogValue)) : List (String × LogValue) :=
  match e with
  | .refused _ _ => values.map fun (name, _) => (name, .unshown)
  | _ => values

/-- The line about the error that a run ends with. -/
def finalLine (e : Error) : LogLine :=
  let values := [("kind", LogValue.quoted e.kind)]
  ⟨.error, mainOrigin, e.account,
    match e with
    | .unavailable cause => valuesAfter cause values
    | _ => values⟩

/-- The words for a missing answer. -/
def missingAnswer : Unavailable → String
  | .unreachable => "client error (Connect)"
  | _ => "client error (SendRequest)"

/-- The line of a remark of the client. -/
def remarkLine : Remark → LogLine
  | .failedStatus status =>
    ⟨.error, exchangeOrigin, "failed with status " ++ Cluster.statusText status, []⟩
  | .noAnswer cause => ⟨.error, exchangeOrigin, "failed with error " ++ missingAnswer cause, []⟩
  | .oddRefusal text => ⟨.warn, clientOrigin, "Unsuccessful data error parse: " ++ text, []⟩
  | .oddPod text fault =>
    ⟨.warn, clientOrigin, text ++ ", Error(" ++ Text.quote fault.complaint ++ ", line: 1, column: " ++
      toString fault.column ++ ")", []⟩

/-- Goes on with a cluster, whose remarks are logged. -/
def follow (r : Run) (cluster : Cluster) : Run :=
  { r with cluster := cluster.quiet }.logAll (cluster.remarks.map remarkLine)

/-! ## The suggestion -/

/-- The preferred ports, or none if the annotation is faulty. -/
def preferred (annotations : Annotations) (specs : List PortSpec) : List Draft :=
  match Preference.ofAnnotations annotations specs with
  | .ok drafts => drafts
  | .error _ => []

/-- The line about a faulty annotation. -/
def annotationLine? (key : Key) (annotations : Annotations) (specs : List PortSpec) :
    Option LogLine :=
  match Preference.ofAnnotations annotations specs with
  | .ok _ => none
  | .error e =>
    some ⟨.warn, mainOrigin, "ignoring port-forward annotation: " ++ e.message,
      [("path", .quoted key.path), ("container", .quoted key.container)]⟩

/-- Asks for the ports of a container that can be forwarded; there has to be one. -/
def discover (ask : Cluster.Ask) (r : Run) (key : Key) :
    Run × Except Error (List PortSpec × Annotations) :=
  let (ns, name) := Pod.splitPath key.path r.settings.ns
  let r := r.log ⟨.debug, podOrigin, "fetching pod",
    [("ns", .quoted ns), ("name", .quoted name)]⟩
  let (cluster, found) := Cluster.listForwardable ask r.cluster r.settings.ns key
  (r.follow cluster, do
    let (specs, annotations) ← found
    if specs = [] then throw (.unavailable (.noTcpPorts key.container))
    return (specs, annotations))

/-! ## Showing ports -/

/-- A declared port as JSON. -/
def specJson (s : PortSpec) : Json :=
  .object [
    ("container", .string s.container),
    ("name", (s.name.map Json.string).getD .null),
    ("port", .number s.port.toNat),
    ("protocol", .string s.protocol)]

/-- The declared ports and the suggestion, as text or as JSON. -/
def portsText (specs : List PortSpec) (suggestion : String × String) (json : Bool) : String :=
  if json then
    Json.pretty 0 (.object [
      ("local", .string suggestion.2),
      ("ports", .array (specs.map specJson)),
      ("remote", .string suggestion.1)]) ++ "\n"
  else
    PortSpec.listing specs ++ "suggested: --remote " ++ suggestion.1 ++ " --local " ++
      suggestion.2 ++ "\n"

/-- Shows the ports of a container. -/
def showPorts (ask : Cluster.Ask) (r : Run) (key : Key) (json : Bool) : Run × Except Error Unit :=
  let (r, found) := r.discover ask key
  match found with
  | .error e => (r, .error e)
  | .ok (specs, annotations) =>
    let r := r.logAll (annotationLine? key annotations specs).toList
    let suggestion := Preference.suggestion (preferred annotations specs) specs
    (r.print (portsText specs suggestion json), .ok ())

/-! ## From options to tunnels -/

/-- The remote and the local field: what is given, or else what is suggested. The suggested local
field belongs to the suggested remote field only. -/
def chooseFields (remote localPorts : Option String) (suggestion : String × String) :
    String × String :=
  match remote, localPorts with
  | some remote, localPorts => (remote, localPorts.getD "")
  | none, some localPorts => (suggestion.1, localPorts)
  | none, none => suggestion

/-- The tunnels that are asked for. They lead to declared ports. -/
def batch (settings : Settings) (specs : List PortSpec) (fields : String × String)
    (address : Option String) : Except Error (List Tunnel) := do
  let tunnels ← Fields.tunnels ⟨address.getD "", fields.1, fields.2, settings.address⟩
  Fields.checkRemote fields.1 specs
  return tunnels

/-- The tunnels that are asked for, of a container that is there and runs. Each was listened for once
on the machine. -/
def prepare (ask : Cluster.Ask) (r : Run) (machine : Machine) (key : Key)
    (remote localPorts address : Option String) : Run × Machine × Except Error (List Tunnel) :=
  let (r, found) := r.discover ask key
  match found with
  | .error e => (r, machine, .error e)
  | .ok (specs, annotations) =>
    let r := r.logAll (annotationLine? key annotations specs).toList
    let suggestion := Preference.suggestion (preferred annotations specs) specs
    let fields := chooseFields remote localPorts suggestion
    match batch r.settings specs fields address with
    | .error e => (r, machine, .error e)
    | .ok tunnels =>
      let (machine, tried) := machine.tryAll tunnels
      (r, machine, tried.map fun _ => tunnels)

/-! ## Forwarding -/

/-- A client connects, sends its data and hears the reply. -/
def visit (podSide : Cluster.PodSide) (sc : Scenario) (r : Run) (v : Visit) : Run :=
  match sc.meet v.address v.port with
  | .refused => { r with replies := r.replies ++ [none] }
  | .closed => { r with replies := r.replies ++ [some ""] }
  | .tunnel key remote =>
    let (cluster, reply) := r.cluster.dial podSide r.settings.ns key.path remote v.data
    let r := r.follow cluster
    match reply with
    | .ok reply =>
      { r with replies := r.replies ++ [some reply] }.log
        ⟨.debug, tunnelOrigin, "connection closed",
          [("key", .plain key.text), ("peer", .unshown),
            ("up", .plain (toString v.data.utf8ByteSize)),
            ("down", .plain (toString reply.utf8ByteSize))]⟩
    | .error e =>
      { r with replies := r.replies ++ [some ""] }.log
        ⟨.warn, tunnelOrigin, "unable to reach container port: " ++ e.message,
          [("key", .plain key.text), ("peer", .unshown),
            ("remote_port", .plain (toString remote))]⟩

/-- The lines of a forwarder that starts. -/
def startLines (v : View) : List LogLine :=
  [⟨.debug, registryOrigin, "port-forward pending",
      [("key", .plain v.key.text), ("tunnels", .plain (Tunnel.batchText v.tunnels)),
        ("total", .plain "1")]⟩,
    ⟨.info, registryOrigin, "port-forward active",
      [("key", .plain v.key.text), ("tunnels", .plain (Tunnel.batchText v.tunnels))]⟩]

/-- The lines of a forwarder that has started. -/
def readyLines (v : View) : List LogLine :=
  v.tunnels.map (fun t => ⟨.info, tunnelOrigin, "tunnel listening",
    [("key", .plain v.key.text), ("tunnel", .plain t.text)]⟩) ++
  [⟨.info, mainOrigin, "port-forward ready, press Ctrl-C to stop", [("id", .unshown)]⟩]

/-- The text that tells where forwarding starts from. -/
def forwardingText (tunnels : List Tunnel) : String :=
  String.join (tunnels.map fun t => "Forwarding from " ++ t.text ++ "\n")

/-- Tells that a forwarder has started. -/
def welcome (r : Run) (v : View) : Run :=
  ((r.logAll (startLines v)).print (forwardingText v.tunnels)).logAll (readyLines v)

/-- The lines of a look at the target. -/
def lookLines (key : Key) (look : Cluster.Look) : List LogLine :=
  look.remarks.map remarkLine ++ look.failure.toList.map fun e =>
    ⟨.warn, watchOrigin, "liveness probe failed: " ++ e.account,
      valuesAfter e [("key", .plain key.text)]⟩

/-- The lines of tunnels that end while nobody is connected. -/
def tunnelLines (key : Key) (tunnels : List Tunnel) : List LogLine :=
  tunnels.map fun t => ⟨.debug, tunnelOrigin, "tunnel stopped",
    [("key", .plain key.text), ("tunnel", .plain t.text), ("open", .plain "0")]⟩

/-- The lines of a forwarder that is stopped on request. -/
def stopLines (signal : Signal) (key : Key) (tunnels : List Tunnel) : List LogLine :=
  [⟨.info, mainOrigin, "Received " ++ signal.word, []⟩] ++ tunnelLines key tunnels ++
  [keyed .info registryOrigin "port-forward stopped" key,
    keyed .info mainOrigin "port-forward closed" key,
    ⟨.info, registryOrigin, "Shut down 1 port-forward(s)", []⟩]

/-- The lines of a forwarder that has ended on its own. -/
def endLines (key : Key) (tunnels : List Tunnel) (cause : Error) : List LogLine :=
  [keyed .warn registryOrigin ("port-forward terminated: " ++ cause.message) key] ++
  tunnelLines key tunnels ++
  [keyed .warn mainOrigin ("port-forward ended: " ++ cause.message) key]

/-- Accompanies a forwarder until the target is gone or a signal comes. A signal comes before the
second look at the target. -/
def accompany (r : Run) (sc : Scenario) (v : View) (surroundings : Surroundings) :
    Run × Except Error Unit :=
  let key := v.key
  let (cluster, seen) :=
    match surroundings.signal with
    | some _ => Cluster.watchFor r.settings.ns key 1 r.cluster
    | none => r.cluster.watch r.settings.ns key
  let r := { r with cluster }.logAll (seen.looks.flatMap (lookLines key))
  match seen.reason with
  | some reason =>
    let cause := Error.terminated key reason
    (r.logAll (endLines key v.tunnels cause), .error (.terminated key cause.message))
  | none =>
    let r := surroundings.visits.foldl (visit surroundings.podSide sc) r
    (r.logAll ((surroundings.signal.map fun s => stopLines s key v.tunnels).getD []), .ok ())

/-- A registry of its own on a machine, where nothing is forwarded yet. -/
def idle (settings : Settings) (machine : Machine) : Scenario where
  system := { world := { registry := { limit := settings.maxForwarders }, machine } }
  stopTimeout := settings.stopTimeout

/-- Starts a forwarder on a machine and accompanies it. -/
def start (r : Run) (machine : Machine) (key : Key) (tunnels : List Tunnel)
    (surroundings : Surroundings) : Run × Except Error Unit :=
  let (sc, answer) := (idle r.settings machine).performOne (.start key tunnels {})
  let r := { r with registry := some sc }
  match answer with
  | .error e => (r, .error e)
  | .ok (.view v) => (r.welcome v).accompany sc v surroundings
  | .ok _ => (r, .ok ())

/-- Forwards ports of a container. -/
def forward (ask : Cluster.Ask) (r : Run) (key : Key) (remote localPorts address : Option String)
    (surroundings : Surroundings) : Run × Except Error Unit :=
  let (r, machine, prepared) := r.prepare ask surroundings.machine key remote localPorts address
  match prepared with
  | .error e => (r, .error e)
  | .ok tunnels => r.start machine key tunnels surroundings

/-- Does what a command asks for. -/
def perform (ask : Cluster.Ask) (r : Run) (surroundings : Surroundings) :
    Command → Run × Except Error Unit
  | .ports path container json => r.showPorts ask ⟨path, container⟩ json
  | .forward path container remote localPorts address =>
    r.forward ask ⟨path, container⟩ remote localPorts address surroundings

/-- The log filter of a run, if it can be read. -/
def filter? (settings : Settings) (environment : Settings.Environment) : Option Filter :=
  Filter.read? ((environment.get? "RUST_LOG").getD settings.level)

/-- What a run leaves behind when it ends. An error is logged. -/
def finish (r : Run) (filter : Filter) (result : Except Error Unit) : Outcome :=
  let (exitCode, r) :=
    match result with
    | .ok _ => (0, r)
    | .error e => (1, r.log (finalLine e))
  { exitCode
    written := r.written.filter fun
      | .text _ => true
      | .line l => filter.shows l
    replies := r.replies
    requests := r.cluster.requests.eraseDups }

end Run

/-- The exit code of a run that could not begin. -/
def usageExit : Nat := 2

/-- The exit code of a run that breaks off because its log filter cannot be read. -/
def filterExit : Nat := 101

/-- The whole program. -/
def run (args : List String) (s : Surroundings) : Outcome :=
  match Invocation.read args with
  | .error .misused => { exitCode := usageExit }
  | .error .version => { exitCode := 0, written := [.text versionText] }
  | .error (.help topic) => { exitCode := 0, written := [.text (helpText topic)] }
  | .ok i =>
    match Settings.load i.config s.files s.environment with
    | .error e => { exitCode := usageExit, complaint := some e.message }
    | .ok settings =>
      match Run.filter? settings s.environment with
      | none => { exitCode := filterExit }
      | some filter =>
        let r : Run := { settings, cluster := s.cluster }
        let (r, result) := r.perform Cluster.askPod s i.command
        r.finish filter result

end PortForward.Cli
