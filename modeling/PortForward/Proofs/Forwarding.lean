/-
# What a run forwards to

A run asks for a pod, chooses the fields, reads the tunnels and tries their endpoints, and only then
starts a forwarder. So it listens for connections only to ports that a running container of the pod
declares. Whatever is wrong before is an error that leaves nothing behind but log lines; a
faulty annotation is no such error.

* `declared_of_batch` : the tunnels of a batch lead to declared ports;
* `Run.prepare_eq` : what comes of preparing, from the pod on;
* `Run.idle_vacant`, `Run.launched_start` : the registry of a run is asked for the tunnels once;
* `Run.Grounded`, `Run.grounded_of_tunnelsOf` : what the tunnels of a run that is ready rest on;
* `Run.tunnelsOf_faulty` : a faulty annotation is passed over;
* `Run.forward_grounded` : what a run forwards to, and what it leaves behind if it does not.
-/
import PortForward.Bench.Platforms
import PortForward.Cli.Run
import PortForward.Proofs.FirstStarts
import PortForward.Proofs.Suggestions

namespace PortForward

/-! ## Pods -/

/-- The container declares a TCP port with this number, which is one that a port can have. -/
def Container.Declares (c : Container) (port : UInt16) : Prop :=
  ∃ p ∈ c.ports, p.number = port.toNat ∧ 1 ≤ p.number ∧ p.number ≤ 65535 ∧
    Text.sameLetters (p.protocol.getD PortSpec.tcp).toList PortSpec.tcp.toList = true

/-- A port that can be forwarded is one that the container declares. -/
theorem Container.declares_of_specs {c : Container} {s : PortSpec} (hs : s ∈ c.specs) :
    c.Declares s.port := by
  obtain ⟨p, hp, hspec⟩ := List.mem_filterMap.mp hs
  rw [ContainerPort.spec?, Option.ite_none_right_eq_some, Option.some.injEq] at hspec
  obtain ⟨⟨htcp, hpos, hlt⟩, rfl⟩ := hspec
  refine ⟨p, hp, ?_, hpos, by omega, htcp⟩
  show p.number = ((UInt16.ofNat p.number.toNat).toNat : Int)
  rw [UInt16.toNat_ofNat']
  omega

/-- The container is the first one of its name in the pod, and the first status of this name says
that it runs. -/
structure Pod.Runs (pod : Pod) (c : Container) : Prop where
  first : Container.find? c.name pod.containers = some c
  status : ∃ s state, pod.statuses.find? (·.name == c.name) = some s ∧ s.state = some state ∧
    state.running = true

/-- A container that can be forwarded runs, and the ports are those that it declares. -/
theorem Pod.runs_of_forwardable {pod : Pod} {container : String} {specs : List PortSpec}
    (h : pod.forwardable container = .ok specs) :
    ∃ c, pod.Runs c ∧ c.name = container ∧ c.specs = specs := by
  obtain ⟨c, hfind, ⟨s, hs, hphase⟩, rfl⟩ := forwardable_eq_ok_iff.mp h
  obtain rfl : c.name = container := by simpa using List.find?_some hfind
  obtain ⟨state, hstate, hrunning⟩ := ContainerState.phase_eq_running_iff.mp hphase
  exact ⟨c, ⟨hfind, s, state, hs, hstate, hrunning⟩, rfl, rfl⟩

namespace Cli

variable {settings : Settings} {specs : List PortSpec} {fields : String × String}
variable {address remote localPorts : Option String} {tunnels : List Tunnel}

/-! ## From the fields to the tunnels -/

/-- A batch is what the fields describe, if the remote field agrees with the declared ports. -/
theorem batch_eq_ok_iff :
    Run.batch settings specs fields address = .ok tunnels ↔
      Fields.tunnels ⟨address.getD "", fields.1, fields.2, settings.address⟩ = .ok tunnels ∧
        Fields.checkRemote fields.1 specs = .ok () := by
  simp only [Run.batch, bind_eq_ok_iff, pure_eq_ok_iff]
  constructor
  · rintro ⟨ts, hread, u, hcheck, rfl⟩
    exact ⟨hread, hcheck⟩
  · rintro ⟨hread, hcheck⟩
    exact ⟨tunnels, hread, (), hcheck, rfl⟩

/-- The tunnels of a batch lead to declared ports. -/
theorem declared_of_batch (h : Run.batch settings specs fields address = .ok tunnels) :
    ∀ t ∈ tunnels, ∃ s ∈ specs, s.port = t.remotePort := by
  obtain ⟨hread, hcheck⟩ := batch_eq_ok_iff.mp h
  rw [Fields.tunnels_eq_ok_iff, Fields.read_steps] at hread
  obtain ⟨q, locals, hremote, -, hlength, hzip⟩ := hread
  obtain ⟨q', hremote', hports⟩ := Preference.checkRemote_eq_ok_iff.mp hcheck
  -- both have read the same remote field
  obtain rfl : q = q' := Except.ok.inj (hremote.symm.trans hremote')
  have hremotes := ((Fields.zipWith_eq_iff hlength).mp hzip).1
  intro t ht
  have hchecked := hports t.remotePort (hremotes ▸ List.mem_map_of_mem ht)
  rw [Fields.checkPort] at hchecked
  cases hfound : PortSpec.findPort? specs t.remotePort with
  | none =>
    rw [hfound] at hchecked
    cases hchecked
  | some s => exact ⟨s, PortSpec.findPort?_eq_some hfound⟩

/-- The remote field is the one that is given, or else the suggested one. The local field is the one
that is given; else it is the suggested one if no remote field is given either; else it is empty. -/
theorem chooseFields_eq (suggestion : String × String) :
    Run.chooseFields remote localPorts suggestion =
      (remote.getD suggestion.1, localPorts.getD (if remote = none then suggestion.2 else "")) := by
  cases remote <;> cases localPorts <;> rfl

/-- A faulty annotation prefers what none does: nothing. -/
theorem preferred_of_faulty {a b : Annotations} {cause : Error}
    (ha : Preference.ofAnnotations a specs = .error cause) (hb : b.get? preferenceKey = none) :
    Run.preferred a specs = Run.preferred b specs := by
  unfold Run.preferred
  rw [ha, Preference.ofAnnotations, hb]

/-! ## What a run has done so far -/

/-- From the one run to the other nothing was printed, and the registry is the same. -/
structure Mute (r r' : Run) : Prop where
  settings : r'.settings = r.settings
  registry : r'.registry = r.registry
  texts : r'.texts = r.texts

theorem Mute.trans {r r' r'' : Run} (h : Mute r r') (h' : Mute r' r'') : Mute r r'' :=
  ⟨h'.settings.trans h.settings, h'.registry.trans h.registry, h'.texts.trans h.texts⟩

theorem Mute.replies (r : Run) (replies : List (Option String)) : Mute r { r with replies } :=
  ⟨rfl, rfl, rfl⟩

theorem Mute.cluster (r : Run) (cluster : Cluster) : Mute r { r with cluster } := ⟨rfl, rfl, rfl⟩

/-- From the one run to the other, nothing but log lines was written, nobody has connected, and the
registry is the same. -/
structure Logs (r r' : Run) : Prop where
  settings : r'.settings = r.settings
  registry : r'.registry = r.registry
  replies : r'.replies = r.replies
  written : ∃ lines : List LogLine, r'.written = r.written ++ lines.map .line

namespace Logs

variable {r r' r'' : Run}

theorem trans (h : Logs r r') (h' : Logs r' r'') : Logs r r'' := by
  obtain ⟨lines, hlines⟩ := h.written
  obtain ⟨more, hmore⟩ := h'.written
  refine ⟨h'.settings.trans h.settings, h'.registry.trans h.registry, h'.replies.trans h.replies,
    lines ++ more, ?_⟩
  rw [hmore, hlines, List.map_append, List.append_assoc]

theorem log (r : Run) (l : LogLine) : Logs r (r.log l) := ⟨rfl, rfl, rfl, [l], rfl⟩

theorem logAll (r : Run) (ls : List LogLine) : Logs r (r.logAll ls) := ⟨rfl, rfl, rfl, ls, rfl⟩

theorem follow (r : Run) (c : Cluster) : Logs r (r.follow c) := ⟨rfl, rfl, rfl, _, rfl⟩

theorem discover (ask : Cluster.Ask) (r : Run) (key : Key) : Logs r (r.discover ask key).1 :=
  (log r _).trans (follow _ _)

/-- Log lines are no texts. -/
theorem mute (h : Logs r r') : Mute r r' := by
  obtain ⟨lines, hlines⟩ := h.written
  have hnone : (lines.map Written.line).filterMap Written.text? = [] := by
    rw [List.filterMap_map]
    exact List.filterMap_eq_nil_iff.mpr fun _ _ => rfl
  refine ⟨h.settings, h.registry, ?_⟩
  rw [Run.texts, hlines, List.filterMap_append, hnone, List.append_nil]
  rfl

end Logs

namespace Run

variable {ask : Cluster.Ask} {r : Run} {key : Key} {surroundings : Surroundings}
variable {machine : Machine} {container : String} {pod : Pod} {annotations : Annotations}

/-! ## The pod -/

/-- What the run is told of the pod of a path. -/
def fetched (ask : Cluster.Ask) (r : Run) (path : String) : Except Error Pod :=
  (Cluster.fetchPod ask r.cluster r.settings.ns path).2

/-- The ports at which a container of a pod can be forwarded; there has to be one. -/
def portsOf (container : String) (pod : Pod) : Except Error (List PortSpec) := do
  let specs ← pod.forwardable container
  if specs = [] then throw (.unavailable (.noTcpPorts container))
  return specs

theorem portsOf_eq_ok_iff :
    portsOf container pod = .ok specs ↔ pod.forwardable container = .ok specs ∧ specs ≠ [] := by
  unfold portsOf
  cases pod.forwardable container with
  | error e => simp [bind, Except.bind]
  | ok found =>
    simp only [bind, Except.bind, Except.ok.injEq]
    by_cases hnone : found = []
    · simp only [hnone, ↓reduceIte, throw, throwThe, MonadExceptOf.throw, reduceCtorEq, false_iff]
      rintro ⟨rfl, hne⟩
      exact hne rfl
    · simp only [hnone, ↓reduceIte, pure, Except.pure, Except.ok.injEq, iff_self_and]
      rintro rfl
      exact hnone

/-- What a run finds out about a container, it finds out from the pod. -/
theorem discover_eq (ask : Cluster.Ask) (r : Run) (key : Key) :
    (r.discover ask key).2 = (do
      let pod ← r.fetched ask key.path
      return (← portsOf key.container pod, pod.annotations)) := by
  -- to ask for the pod, the run only writes a log line first
  show (do
      let found ← (do
        let pod ← r.fetched ask key.path
        return (← pod.forwardable key.container, pod.annotations) : Except Error _)
      if found.1 = [] then throw (Error.unavailable (.noTcpPorts key.container))
      return (found.1, found.2)) = _
  cases r.fetched ask key.path with
  | error e => rfl
  | ok pod =>
    simp only [portsOf, bind, Except.bind]
    cases pod.forwardable key.container with
    | error e => rfl
    | ok specs =>
      by_cases hnone : specs = []
      · rw [hnone]
        rfl
      · simp [hnone, pure, Except.pure]

/-! ## Ready to forward -/

/-- The fields that a run reads: those that are given or suggested for a container with these ports. -/
def fieldsOf (remote localPorts : Option String) (specs : List PortSpec) (annotations : Annotations) :
    String × String :=
  chooseFields remote localPorts (Preference.suggestion (preferred annotations specs) specs)

/-- The tunnels that are asked for, as soon as the pod is known. -/
def tunnelsOf (settings : Settings) (machine : Machine) (container : String)
    (remote localPorts address : Option String) (pod : Pod) : Except Error (List Tunnel) := do
  let specs ← portsOf container pod
  let tunnels ← batch settings specs (fieldsOf remote localPorts specs pod.annotations) address
  machine.available tunnels
  return tunnels

theorem tunnelsOf_eq_ok_iff :
    tunnelsOf settings machine container remote localPorts address pod = .ok tunnels ↔
      ∃ specs, (pod.forwardable container = .ok specs ∧ specs ≠ []) ∧
        batch settings specs (fieldsOf remote localPorts specs pod.annotations) address =
          .ok tunnels ∧ machine.available tunnels = .ok () := by
  simp only [tunnelsOf, bind_eq_ok_iff, portsOf_eq_ok_iff, pure_eq_ok_iff]
  constructor
  · rintro ⟨specs, hports, ts, hbatch, u, htried, rfl⟩
    exact ⟨specs, hports, hbatch, htried⟩
  · rintro ⟨specs, hports, hbatch, htried⟩
    exact ⟨specs, hports, tunnels, hbatch, (), htried, rfl⟩

/-- What comes of preparing depends on the pod. Of what is listened for, nothing is left. -/
theorem prepare_eq (ask : Cluster.Ask) (r : Run) (machine : Machine) (key : Key)
    (remote localPorts address : Option String) :
    (r.prepare ask machine key remote localPorts address).2 = (machine,
      r.fetched ask key.path >>=
        tunnelsOf r.settings machine key.container remote localPorts address) := by
  have hsettings : (r.discover ask key).1.settings = r.settings :=
    (Logs.discover ask r key).settings
  have hfound : (r.discover ask key).2 = _ := discover_eq ask r key
  -- of the run that goes on, only the settings matter
  unfold prepare
  generalize r.discover ask key = d at hsettings hfound ⊢
  obtain ⟨r', found⟩ := d
  replace hsettings : r'.settings = r.settings := hsettings
  replace hfound : found = _ := hfound
  subst hfound
  cases r.fetched ask key.path with
  | error e => rfl
  | ok pod =>
    simp only [bind, Except.bind, tunnelsOf]
    cases portsOf key.container pod with
    | error e => rfl
    | ok specs =>
      simp only [pure, Except.pure, (Logs.logAll _ _).settings, hsettings, Machine.tryAll_eq,
        fieldsOf]
      generalize batch r.settings specs _ address = b
      cases b with
      | error e => rfl
      | ok tunnels => cases machine.available tunnels <;> rfl

/-- Preparing leaves log lines. -/
theorem logs_prepare (ask : Cluster.Ask) (r : Run) (machine : Machine) (key : Key)
    (remote localPorts address : Option String) :
    Logs r (r.prepare ask machine key remote localPorts address).1 := by
  have hfound : Logs r (r.discover ask key).1 := Logs.discover ask r key
  unfold Run.prepare
  generalize r.discover ask key = d at hfound ⊢
  obtain ⟨r', found⟩ := d
  cases found with
  | error e => exact hfound
  | ok found =>
    have hnoted (ls : List LogLine) : Logs r (r'.logAll ls) := hfound.trans (.logAll r' ls)
    dsimp only
    split <;> exact hnoted _

/-- What is wrong before a forwarder starts is what the run ends with. -/
theorem forward_of_error {e : Error}
    (h : (r.prepare ask surroundings.machine key remote localPorts address).2.2 = .error e) :
    r.forward ask key remote localPorts address surroundings =
      ((r.prepare ask surroundings.machine key remote localPorts address).1, .error e) := by
  unfold forward
  dsimp only
  rw [h]

/-- A run that is ready to forward starts its forwarder on the machine as it was. -/
theorem forward_of_ok
    (h : (r.prepare ask surroundings.machine key remote localPorts address).2.2 = .ok tunnels) :
    r.forward ask key remote localPorts address surroundings =
      (r.prepare ask surroundings.machine key remote localPorts address).1.start
        surroundings.machine key tunnels surroundings := by
  have hmachine : (r.prepare ask surroundings.machine key remote localPorts address).2.1 =
      surroundings.machine := by
    rw [prepare_eq]
  unfold forward
  dsimp only
  rw [h]
  exact congrArg (fun machine => start _ machine key tunnels surroundings) hmachine

/-! ## The registry of a run -/

/-- Other programs listen one after the other. -/
theorem run_holds (s : System) (held : List (String × UInt16)) :
    s.run (held.map fun endpoint => .hold endpoint.1 endpoint.2) =
      s.withWorld fun w =>
        { w with machine := held.foldl (fun m endpoint => m.hold endpoint.1 endpoint.2) w.machine } := by
  induction held generalizing s with
  | nil => rfl
  | cons endpoint held ih => exact ih (s.step (.hold endpoint.1 endpoint.2))

/-- The registry of a run comes about where only other programs have listened so far. -/
theorem idle_vacant (settings : Settings) (surroundings : Surroundings) :
    (idle settings surroundings.machine).Vacant surroundings.machine := by
  have hheld : (idle settings surroundings.machine).system =
      (System.initial settings.maxForwarders surroundings.platform).run
        (surroundings.held.map fun endpoint => .hold endpoint.1 endpoint.2) := by
    rw [run_holds]
    rfl
  refine ⟨⟨?_, ⟨?_, rfl, fun t ht => ?_⟩, fun e he => ?_⟩, rfl, rfl, rfl⟩
  · rw [hheld]
    exact System.reachable_run _ _ _
  · intro c hc
    exact ⟨_, List.mem_singleton.mp hc⟩
  · cases ht
  · cases he

/-- A client that comes leaves no text. -/
theorem mute_visit (podSide : Cluster.PodSide) (sc : Scenario) (r : Run) (v : Visit) :
    Mute r (visit podSide sc r v) := by
  unfold visit
  split
  · exact .replies r _
  · exact .replies r _
  · have hfollowed (c : Cluster) (replies : List (Option String)) (l : LogLine) :
        Mute r (Run.log { r.follow c with replies } l) :=
      (Logs.follow r c).mute.trans ((Mute.replies _ replies).trans (Logs.log _ l).mute)
    dsimp only
    split <;> exact hfollowed _ _ _

/-- Neither do all clients. -/
theorem mute_visits (podSide : Cluster.PodSide) (sc : Scenario) (visits : List Visit) (r : Run) :
    Mute r (visits.foldl (visit podSide sc) r) := by
  induction visits generalizing r with
  | nil => exact ⟨rfl, rfl, rfl⟩
  | cons v visits ih => exact (mute_visit podSide sc r v).trans (ih _)

/-- To accompany a forwarder leaves no text. -/
theorem mute_accompany (r : Run) (sc : Scenario) (v : View) (surroundings : Surroundings) :
    Mute r (r.accompany sc v surroundings).1 := by
  have hlooked (c : Cluster) (ls : List LogLine) : Mute r (Run.logAll { r with cluster := c } ls) :=
    (Mute.cluster r c).trans (Logs.logAll _ ls).mute
  unfold accompany
  dsimp only
  split
  · exact (hlooked _ _).trans (Logs.logAll _ _).mute
  · exact ((hlooked _ _).trans (mute_visits _ sc _ _)).trans (Logs.logAll _ _).mute

/-- The only text about a forwarder that has started is where forwarding starts from. -/
theorem texts_welcome (r : Run) (v : View) :
    (r.welcome v).texts = r.texts ++ [forwardingText v.tunnels] := by
  have hprinted : ((r.logAll (startLines v)).print (forwardingText v.tunnels)).texts =
      (r.logAll (startLines v)).texts ++ [forwardingText v.tunnels] := List.filterMap_append
  rw [welcome, (Logs.logAll _ _).mute.texts, hprinted, (Logs.logAll _ _).mute.texts]

/-- What a run has done, with which result, that has asked its registry for these tunnels and for
nothing else. The registry has answered, and this is what it left on the machine. The run has told
where forwarding starts from if the answer was a forwarder; an error is its result. -/
structure Launched (r : Run) (machine : Machine) (key : Key) (tunnels : List Tunnel)
    (sc : Scenario) (answer : Answer) (result : Run × Except Error Unit) : Prop where
  asked : (idle r.settings machine).performOne (.start key tunnels {}) = (sc, answer)
  registry : result.1.registry = some sc
  first : sc.First machine key tunnels answer
  told : ∀ reply, answer = .ok reply → result.1.texts = r.texts ++ [forwardingText tunnels]
  failed : ∀ e, answer = .error e → result.2 = .error e ∧ result.1.texts = r.texts

/-- What a run has done so far without a text makes no difference. -/
theorem Launched.of_mute {r' : Run} {sc : Scenario} {answer : Answer}
    {result : Run × Except Error Unit} (h : Launched r' machine key tunnels sc answer result)
    (hr : Mute r r') : Launched r machine key tunnels sc answer result where
  asked := hr.settings ▸ h.asked
  registry := h.registry
  first := h.first
  told := hr.texts ▸ h.told
  failed := hr.texts ▸ h.failed

/-- A run that starts a forwarder asks its registry for it. -/
theorem launched_start (r : Run) (key : Key) (tunnels : List Tunnel) (surroundings : Surroundings) :
    ∃ sc answer, Launched r surroundings.machine key tunnels sc answer
      (r.start surroundings.machine key tunnels surroundings) := by
  have hfirst := (idle_vacant r.settings surroundings).first_start key tunnels {}
  unfold start
  generalize hasked : (idle r.settings surroundings.machine).performOne _ = asked at hfirst
  obtain ⟨sc, answer⟩ := asked
  refine ⟨sc, answer, ?_⟩
  dsimp only at hfirst ⊢
  cases answer with
  | error e => exact ⟨hasked, rfl, hfirst, nofun, fun _ he => ⟨by rw [he], rfl⟩⟩
  | ok reply =>
    obtain ⟨g, rfl, -⟩ := hfirst.active reply rfl
    have hmute := mute_accompany (welcome { r with registry := some sc } ⟨g, key, tunnels, .active⟩) sc
      ⟨g, key, tunnels, .active⟩ surroundings
    exact ⟨hasked, hmute.registry, hfirst,
      fun _ _ => hmute.texts.trans (texts_welcome _ ⟨g, key, tunnels, .active⟩), nofun⟩

/-! ## What the tunnels rest on -/

/-- A run may forward tunnels to a container of a pod: it was told of the pod, the container runs in
it and declares some port and those of all tunnels, and the tunnels are what the fields describe. A
field that is not given is the suggested one, but the suggested local field belongs to the suggested
remote field; with another one it is empty. -/
structure Grounded (ask : Cluster.Ask) (r : Run) (key : Key)
    (remote localPorts address : Option String) (pod : Pod) (c : Container) (tunnels : List Tunnel) :
    Prop where
  told : r.fetched ask key.path = .ok pod
  runs : pod.Runs c
  name : c.name = key.container
  exposes : ∃ port, c.Declares port
  declared : ∀ t ∈ tunnels, c.Declares t.remotePort
  read : let suggestion := Preference.suggestion (preferred pod.annotations c.specs) c.specs
    Fields.tunnels ⟨address.getD "", remote.getD suggestion.1,
      localPorts.getD (if remote = none then suggestion.2 else ""), r.settings.address⟩ = .ok tunnels

/-- The tunnels that a run asks for have grounds. -/
theorem grounded_of_tunnelsOf (hpod : r.fetched ask key.path = .ok pod)
    (h : tunnelsOf r.settings machine key.container remote localPorts address pod = .ok tunnels) :
    ∃ c, Grounded ask r key remote localPorts address pod c tunnels := by
  obtain ⟨specs, ⟨hfor, hsome⟩, hbatch, -⟩ := tunnelsOf_eq_ok_iff.mp h
  obtain ⟨c, hruns, hname, rfl⟩ := Pod.runs_of_forwardable hfor
  obtain ⟨s, hs⟩ := List.exists_mem_of_ne_nil _ hsome
  have hread := (batch_eq_ok_iff.mp hbatch).1
  simp only [fieldsOf, chooseFields_eq] at hread
  refine ⟨c, hpod, hruns, hname, ⟨s.port, Container.declares_of_specs hs⟩, ?_, hread⟩
  intro t ht
  obtain ⟨s', hs', hport⟩ := declared_of_batch hbatch t ht
  exact hport ▸ Container.declares_of_specs hs'

/-- A faulty annotation is passed over. -/
theorem tunnelsOf_faulty {cause : Error}
    (hfaulty : Preference.ofAnnotations pod.annotations
      (Container.resolve container pod.containers) = .error cause)
    (hnone : annotations.get? preferenceKey = none) :
    tunnelsOf settings machine container remote localPorts address pod =
      tunnelsOf settings machine container remote localPorts address { pod with annotations } := by
  have hports : portsOf container { pod with annotations } = portsOf container pod := rfl
  unfold tunnelsOf
  rw [hports]
  cases hspecs : portsOf container pod with
  | error e => rfl
  | ok specs =>
    obtain ⟨c, hfind, -, rfl⟩ := Pod.forwardable_eq_ok_iff.mp (portsOf_eq_ok_iff.mp hspecs).1
    rw [Container.resolve, hfind] at hfaulty
    simp only [bind, Except.bind, fieldsOf, preferred_of_faulty hfaulty hnone]

/-- The dialog of a container with one port is filled with it, also if the annotation is faulty. -/
example :
    tunnelsOf .default { platform := .bare } "web" none none none
      { annotations := ⟨[(preferenceKey, "web:")]⟩
        containers := [{ name := "web", ports := [{ number := 8080 }] }]
        statuses := [{ name := "web", state := some { running := true } }] } =
      .ok [⟨"localhost", 8080, 8080⟩] := by decide

/-- A run asks for the pod, and asks its registry for tunnels only if it is ready: the container in
the pod runs and declares the ports of all tunnels, and these are what the fields describe. Besides
what was listened for before, it listens for such tunnels only, and for none if the registry answers
with an error. Whatever is wrong before leaves log lines, and neither a listener nor a text. A faulty
annotation counts as none. -/
theorem forward_grounded (ask : Cluster.Ask) (r : Run) (key : Key)
    (remote localPorts address : Option String) (surroundings : Surroundings) :
    let machine := surroundings.machine
    let prepared := r.prepare ask machine key remote localPorts address
    let result := r.forward ask key remote localPorts address surroundings
    prepared.2 = (machine, r.fetched ask key.path >>=
        tunnelsOf r.settings machine key.container remote localPorts address) ∧
      Logs r prepared.1 ∧
      (∀ e, prepared.2.2 = .error e → result = (prepared.1, .error e)) ∧
      (∀ tunnels, prepared.2.2 = .ok tunnels → ∃ pod c sc answer,
        Grounded ask r key remote localPorts address pod c tunnels ∧
          Launched r machine key tunnels sc answer result ∧
          ∀ l ∈ sc.system.world.machine.listeners,
            l ∈ machine.listeners ∨ ∃ g t, l.owner = .tunnel g t ∧ c.Declares t.remotePort) ∧
      ∀ ask' pod annotations cause, r.fetched ask key.path = .ok pod →
        r.fetched ask' key.path = .ok { pod with annotations } →
        Preference.ofAnnotations pod.annotations
          (Container.resolve key.container pod.containers) = .error cause →
        annotations.get? preferenceKey = none →
        (r.prepare ask' machine key remote localPorts address).2 = prepared.2 := by
  intro machine prepared result
  have hprepared : prepared.2 = (machine, r.fetched ask key.path >>= tunnelsOf r.settings machine
    key.container remote localPorts address) := prepare_eq ask r machine key remote localPorts address
  refine ⟨hprepared, logs_prepare .., fun e he => forward_of_error he, ?_, ?_⟩
  · intro tunnels hok
    obtain ⟨pod, hpod, htunnels⟩ := bind_eq_ok_iff.mp ((congrArg Prod.snd hprepared).symm.trans hok)
    obtain ⟨c, hgrounded⟩ := grounded_of_tunnelsOf hpod htunnels
    obtain ⟨sc, answer, hlaunched⟩ := launched_start prepared.1 key tunnels surroundings
    have hresult : result = prepared.1.start machine key tunnels surroundings := forward_of_ok hok
    refine ⟨pod, c, sc, answer, hgrounded, ?_, ?_⟩
    · rw [hresult]
      exact hlaunched.of_mute (logs_prepare ask r machine key remote localPorts address).mute
    · intro l hl
      refine (hlaunched.first.listeners l hl).imp_right ?_
      rintro ⟨g, t, ht, howner⟩
      exact ⟨g, t, howner, hgrounded.declared t ht⟩
  · intro ask' pod annotations cause hpod hpod' hfaulty hnone
    rw [prepare_eq, hpod', hprepared, hpod]
    exact congrArg (Prod.mk machine) (tunnelsOf_faulty hfaulty hnone).symm

/-- A pod with a container that runs and declares a port, and with a faulty annotation. -/
def webPod : Pod where
  annotations := ⟨[(preferenceKey, "web:")]⟩
  containers := [{ name := "web", ports := [{ number := 8080 }, { number := 0 }] }]
  statuses := [{ name := "web", state := some { running := true } }]

/-- The machine of its run, where another program listens on a port. -/
def webSurroundings : Surroundings where
  platform := .loopbackOnly
  held := [("127.0.0.1", 9090)]
  signal := some .interrupt

/-- Forwarding to it starts from the port that is suggested without the annotation. -/
theorem webPod_forwarded :
    let result := forward (fun c _ _ => (c, .ok (some webPod))) { settings := .default, cluster := {} }
      ⟨"default/web", "web"⟩ none none none webSurroundings
    ∃ sc g, result.1.registry = some sc ∧ sc.system.world.owned = [(g, ⟨"localhost", 8080, 8080⟩)] ∧
      result.1.texts = ["Forwarding from localhost:8080 -> 8080\n"] := by
  obtain ⟨-, -, -, hready, -⟩ := forward_grounded (fun c _ _ => (c, .ok (some webPod)))
    { settings := .default, cluster := {} } ⟨"default/web", "web"⟩ none none none webSurroundings
  obtain ⟨pod, c, sc, answer, -, hlaunched, -⟩ := hready [⟨"localhost", 8080, 8080⟩] rfl
  have hanswer : answer =
      .ok (.view ⟨1, ⟨"default/web", "web"⟩, [⟨"localhost", 8080, 8080⟩], .active⟩) := by
    have hasked := congrArg Prod.snd hlaunched.asked
    exact hasked.symm.trans rfl
  obtain ⟨g, -, -, howned⟩ := hlaunched.first.active _ hanswer
  exact ⟨sc, g, hlaunched.registry, List.perm_singleton.mp howned, hlaunched.told _ hanswer⟩

end Run
end Cli
end PortForward
