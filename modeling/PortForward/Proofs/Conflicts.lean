/-
# The clash check and the machine

The registry refuses a batch by comparing texts; the machine refuses a listener that another one
excludes. For tunnels at local IPv4 addresses the two come to the same: the check finds the tunnel
that the machine would refuse as in use if nobody listened but the forwarders.

* `Machine.listenAll`, `Machine.own` : a batch is bound in order; a machine without other programs;
* `Mirrors` : a machine whose listeners exclude just what clashes with some tunnels;
* `Mirrors.listenAll` : on such a machine the check of the registry foretells what happens;
* `Settled.mirrors` : the machine of a settled registry is one;
* `Scenario.clash_is_bind_conflict` : what that means for a start.
-/
import PortForward.Bench.Platforms
import PortForward.Proofs.Hosts
import PortForward.Proofs.StartErrors

namespace PortForward

/-- A tunnel at a local IPv4 address, given in dotted decimal or as `localhost`, with a port of its
own. -/
structure Tunnel.IsLocal (t : Tunnel) : Prop where
  host : ∃ x, Net.plainIPv4? t.address = some x ∧ (x.isLoopback = true ∨ x = .wildcard)
  port : t.localPort ≠ 0

/-- The local IPv4 addresses belong to the machine: all of the loopback network, and the wildcard. -/
def Platform.HasLocal (p : Platform) : Prop :=
  ∀ x : Net.IPv4, x.isLoopback = true ∨ x = .wildcard → p.assigns (.v4 x) = true

/-- What keeps a program from a local IPv4 address, whoever listens already, is a port that is kept
for the system. -/
theorem Platform.HasLocal.obstacle? {p : Platform} (h : p.HasLocal) {x : Net.IPv4}
    (hx : x.isLoopback = true ∨ x = .wildcard) (port : UInt16) :
    p.obstacle? ⟨.v4 x, 0⟩ port = if p.reserves port = true then some .permissionDenied else none := by
  simp [Platform.obstacle?, Net.IpAddress.isGroup, Platform.zoneFault?, h x hx]

/-! ## Batches on a machine -/

namespace Machine

variable {m m' : Machine} {g : Nat} {t : Tunnel} {x : Net.IPv4} {batch : List Tunnel}

/-- Listens for the tunnels of a batch in order, until one is refused. -/
def listenAll (m : Machine) (generation : Nat) : List Tunnel → Except (Tunnel × IoError) Machine
  | [] => .ok m
  | t :: ts =>
    match m.listen (.tunnel generation t) t.address t.localPort with
    | .ok m => m.listenAll generation ts
    | .error cause => .error (t, cause)

/-- The machine as it would be if there were nothing but the forwarders: no listeners of other
programs, and no port kept for the system. -/
def own (m : Machine) : Machine :=
  { m.close (fun o => o.tunnel?.isNone) with
    platform := { m.platform with reserves := fun _ => false } }

/-- One more listener. -/
def withTunnel (m : Machine) (generation : Nat) (t : Tunnel) (x : Net.IpAddress) : Machine :=
  { m with listeners := m.listeners ++ [⟨x, t.localPort, .tunnel generation t⟩] }

/-- A tunnel is listened for unless its port is kept for the system or its endpoint is in use. -/
theorem listen_local (hm : m.platform.HasLocal) (ht : t.IsLocal)
    (hx : Net.plainIPv4? t.address = some x) :
    m.listen (.tunnel g t) t.address t.localPort =
      if m.platform.reserves t.localPort = true then .error .permissionDenied
      else if m.inUse (.v4 x) t.localPort = true then .error .addressInUse
      else .ok (m.withTunnel g t (.v4 x)) := by
  obtain ⟨y, hy, hlocal⟩ := ht.host
  rw [hx, Option.some.injEq] at hy
  rw [← hy] at hlocal
  rw [listen, probe, Platform.resolve_of_plain hx]
  dsimp only
  rw [hm.obstacle? hlocal]
  cases m.platform.reserves t.localPort with
  | true => rfl
  | false => cases m.inUse (.v4 x) t.localPort <;> rfl

/-- With fewer listeners and no port kept for the system, a batch can be bound that can be bound
otherwise. -/
theorem listenAll_mono (hm : m.platform.HasLocal) (hm' : m'.platform.HasLocal)
    (hbatch : ∀ t ∈ batch, t.IsLocal) (hreserves : ∀ port, m'.platform.reserves port = false)
    (hlisteners : ∀ l ∈ m'.listeners, l ∈ m.listeners) (h : ∃ k, m.listenAll g batch = .ok k) :
    ∃ k, m'.listenAll g batch = .ok k := by
  induction batch generalizing m m' with
  | nil => exact ⟨m', rfl⟩
  | cons t ts ih =>
    obtain ⟨k, hk⟩ := h
    have ht := hbatch t List.mem_cons_self
    obtain ⟨x, hx, -⟩ := ht.host
    rw [listenAll, listen_local hm ht hx] at hk
    rw [listenAll, listen_local hm' ht hx, hreserves, if_neg Bool.false_ne_true]
    cases hreserved : m.platform.reserves t.localPort with
    | true => simp [hreserved] at hk
    | false =>
      cases huse : m.inUse (.v4 x) t.localPort with
      | true => simp [hreserved, huse] at hk
      | false =>
        have hfree : m'.inUse (.v4 x) t.localPort = false := by
          rw [inUse, List.any_eq_false] at huse ⊢
          exact fun l hl => huse l (hlisteners l hl)
        simp only [hreserved, huse, Bool.false_eq_true, if_false] at hk
        rw [hfree, if_neg Bool.false_ne_true]
        refine @ih (m.withTunnel g t (.v4 x)) (m'.withTunnel g t (.v4 x)) hm hm'
          (fun u hu => hbatch u (List.mem_cons_of_mem t hu)) hreserves ?_ ⟨k, hk⟩
        intro l hl
        rcases List.mem_append.mp hl with hl | hl
        · exact List.mem_append_left _ (hlisteners l hl)
        · exact List.mem_append_right _ hl

end Machine

/-! ## What clashes and what is in use -/

/-- The listeners of the machine exclude just what clashes with these tunnels. -/
def Mirrors (m : Machine) (ts : Tunnel → Prop) : Prop :=
  ∀ t x, t.IsLocal → Net.plainIPv4? t.address = some x →
    (m.inUse (.v4 x) t.localPort = true ↔ ∃ u, ts u ∧ u.clashes t = true)

namespace Mirrors

variable {m : Machine} {ts : Tunnel → Prop} {t : Tunnel} {x : Net.IPv4} {g : Nat} {r : Registry}

/-- A listener for one more tunnel excludes what clashes with this one. -/
theorem withTunnel (h : Mirrors m ts) (ht : Net.plainIPv4? t.address = some x) :
    Mirrors (m.withTunnel g t (.v4 x)) fun u => ts u ∨ u = t := by
  intro u y hu hy
  have huse : (m.withTunnel g t (.v4 x)).inUse (.v4 y) u.localPort =
      (m.inUse (.v4 y) u.localPort || t.clashes u) := by
    rw [Machine.inUse, Machine.withTunnel, List.any_append, List.any_cons, List.any_nil,
      Bool.or_false, Tunnel.clashes_eq_blocks ht hy hu.port rfl rfl]
    rfl
  rw [huse, Bool.or_eq_true, h u y hu hy]
  constructor
  · rintro (⟨v, hv, hclash⟩ | hclash)
    · exact ⟨v, Or.inl hv, hclash⟩
    · exact ⟨t, Or.inr rfl, hclash⟩
  · rintro ⟨v, hv | rfl, hclash⟩
    · exact Or.inl ⟨v, hv, hclash⟩
    · exact Or.inr hclash

/-- Where a machine mirrors the entries and the earlier tunnels of a batch, the registry finds a
clash in the rest exactly if the machine refuses a tunnel as in use, and they name the same one. -/
theorem listenAll {earlier batch : List Tunnel}
    (h : Mirrors m fun u => u ∈ earlier ∨ ∃ e ∈ r.entries, u ∈ e.tunnels) (key : Key) (g : Nat)
    (hm : m.platform.HasLocal) (hreserves : ∀ port, m.platform.reserves port = false)
    (hbatch : ∀ t ∈ batch, t.IsLocal) :
    (∃ t owner, r.clash? key earlier batch = some (t, owner) ∧
        m.listenAll g batch = .error (t, .addressInUse)) ∨
      (r.clash? key earlier batch = none ∧ ∃ k, m.listenAll g batch = .ok k) := by
  induction batch generalizing m earlier with
  | nil => exact Or.inr ⟨rfl, m, rfl⟩
  | cons t ts ih =>
    have hlocal := hbatch t List.mem_cons_self
    obtain ⟨x, hx, -⟩ := hlocal.host
    rw [Registry.clash?, Machine.listenAll, Machine.listen_local hm hlocal hx, hreserves,
      if_neg Bool.false_ne_true]
    have huse := h t x hlocal hx
    by_cases hearlier : earlier.any (·.clashes t) = true
    · obtain ⟨u, hu, hclash⟩ := List.any_eq_true.mp hearlier
      rw [if_pos hearlier, if_pos (huse.mpr ⟨u, Or.inl hu, hclash⟩)]
      exact Or.inl ⟨t, key, rfl, rfl⟩
    · rw [if_neg hearlier]
      cases howner : r.clashOwner? t with
      | some owner =>
        obtain ⟨e, he, -, u, hu, hclash⟩ := Registry.clashOwner?_eq_some howner
        rw [if_pos (huse.mpr ⟨u, Or.inr ⟨e, he, hu⟩, hclash⟩)]
        exact Or.inl ⟨t, owner, rfl, rfl⟩
      | none =>
        have hfree : ¬ m.inUse (.v4 x) t.localPort = true := by
          intro hin
          obtain ⟨u, hu | ⟨e, he, hu⟩, hclash⟩ := huse.mp hin
          · exact hearlier (List.any_eq_true.mpr ⟨u, hu, hclash⟩)
          · rw [Registry.clashOwner?_eq_none howner e he u hu] at hclash
            cases hclash
        rw [if_neg hfree]
        refine ih ?_ hm hreserves fun u hu => hbatch u (List.mem_cons_of_mem t hu)
        -- for the rest of the batch, this tunnel is an earlier one
        intro u y hu hy
        rw [h.withTunnel hx u y hu hy]
        simp only [List.mem_append, List.mem_singleton]
        exact exists_congr fun v => and_congr_left fun _ => or_right_comm

end Mirrors

namespace System

variable {s : System} {key : Key} {batch : List Tunnel}

/-- The tunnels of all listed forwarders are at local IPv4 addresses. -/
def ListedLocal (s : System) : Prop :=
  ∀ v ∈ s.world.registry.list, ∀ t ∈ v.tunnels, t.IsLocal

/-- A listener of a forwarder is where its tunnel says. -/
theorem blocks_of_placed {l : Listener} {u t : Tunnel} {x : Net.IPv4} (hu : u.IsLocal)
    (ht : t.IsLocal) (hx : Net.plainIPv4? t.address = some x)
    {p : Platform}
    (hplaced : l.port = u.localPort ∧ ∃ zone, p.resolve u.address = .ok ⟨l.address, zone⟩) :
    l.blocks (.v4 x) t.localPort = u.clashes t := by
  obtain ⟨hport, zone, hresolve⟩ := hplaced
  obtain ⟨y, hy, -⟩ := hu.host
  exact Tunnel.clashes_eq_blocks hy hx ht.port (Platform.eq_of_resolve hy hresolve) hport

/-- The listeners of a settled registry exclude just what clashes with its tunnels. -/
theorem Settled.mirrors (h : s.Settled) (hr : s.Reachable) (hlocal : s.ListedLocal) :
    Mirrors s.world.machine.own fun u =>
      u ∈ ([] : List Tunnel) ∨ ∃ e ∈ s.world.registry.entries, u ∈ e.tunnels := by
  have hentry : ∀ e ∈ s.world.registry.entries, ∀ u ∈ e.tunnels, u.IsLocal := fun e he =>
    hlocal e.view (List.mem_map_of_mem he)
  intro t x ht hx
  rw [Machine.inUse, List.any_eq_true]
  constructor
  · rintro ⟨l, hl, hblocks⟩
    obtain ⟨hl, hown⟩ := List.mem_filter.mp hl
    cases howner : l.owner with
    | foreign address =>
      rw [howner] at hown
      cases hown
    | tunnel g u =>
      obtain ⟨e, he, -, hu⟩ := (h.mem_owned hr).mp (World.mem_owned.mpr ⟨l, hl, howner⟩)
      refine ⟨u, Or.inr ⟨e, he, hu⟩, ?_⟩
      rw [← blocks_of_placed (hentry e he u hu) ht hx (hr.placed l hl g u howner)]
      exact hblocks
  · rintro ⟨u, hu | ⟨e, he, hu⟩, hclash⟩
    · cases hu
    · obtain ⟨l, hl, howner⟩ := World.mem_owned.mp ((h.mem_owned hr).mpr ⟨e, he, rfl, hu⟩)
      refine ⟨l, List.mem_filter.mpr ⟨hl, by rw [howner]; rfl⟩, ?_⟩
      rw [blocks_of_placed (hentry e he u hu) ht hx (hr.placed l hl _ u howner)]
      exact hclash

/-- Where a batch may start, only another program or the system keeps one of its tunnels from being
bound. -/
theorem foreign_of_excused (h : s.Settled) (hr : s.Reachable) (hlocal : s.ListedLocal)
    (hm : s.world.machine.platform.HasLocal) (hbatch : ∀ t ∈ batch, t.IsLocal)
    (hadm : s.world.registry.Admissible key batch) {t : Tunnel} {cause : IoError}
    (hexcused : Excused s.world.machine s.world.registry.next key batch (.bind t cause)) :
    t ∈ batch ∧
      (cause = .permissionDenied ∧ s.world.machine.platform.reserves t.localPort = true ∨
      cause = .addressInUse ∧ ∃ x, Net.plainIPv4? t.address = some x ∧
        ∃ l ∈ s.world.machine.listeners, l.owner.tunnel? = none ∧
          l.blocks (.v4 x) t.localPort = true) := by
  obtain hcancelled | ⟨t', ht, cause', m, he, hbeside, hlisten⟩ := hexcused
  · cases hcancelled
  · cases he
    have htlocal := hbatch t ht
    obtain ⟨x, hx, -⟩ := htlocal.host
    refine ⟨ht, ?_⟩
    rw [Machine.listen_local (hbeside.platform ▸ hm) htlocal hx] at hlisten
    split at hlisten
    · rename_i hreserved
      cases hlisten
      refine Or.inl ⟨rfl, ?_⟩
      rw [← hreserved, hbeside.platform]
    split at hlisten
    · rename_i huse
      cases hlisten
      refine Or.inr ⟨rfl, x, hx, ?_⟩
      obtain ⟨l, hl, hblocks⟩ := List.any_eq_true.mp huse
      cases howner : l.owner with
      | foreign address =>
        rcases hbeside.listeners l hl with hold | ⟨y, -, -, hy⟩
        · exact ⟨l, hold, by rw [howner]; rfl, hblocks⟩
        · rw [howner] at hy
          cases hy
      | tunnel f u =>
        -- a listener of a forwarder is for a tunnel that does not clash
        have hplaced := hbeside.placed l hl f u howner
        rcases hbeside.listeners l hl with hold | ⟨y, hybatch, hne, hy⟩
        · obtain ⟨e, he, -, hu⟩ := (h.mem_owned hr).mp (World.mem_owned.mpr ⟨l, hold, howner⟩)
          have hulocal := hlocal e.view (List.mem_map_of_mem he) u hu
          rw [blocks_of_placed hulocal htlocal hx hplaced, hadm.clear e he u hu t ht] at hblocks
          cases hblocks
        · rw [howner, Owner.tunnel.injEq] at hy
          obtain ⟨-, rfl⟩ := hy
          rw [blocks_of_placed (hbatch u hybatch) htlocal hx hplaced,
            hadm.listenable.clashes_of_ne hybatch ht hne] at hblocks
          cases hblocks
    · cases hlisten

end System

namespace Scenario

open PortForward.System

/-- Of a batch with a free key and room for it, the registry only checks whether it clashes. -/
theorem admission_eq {r : Registry} {key : Key} (hfree : r.isForwarded key = false)
    (hroom : r.isFull = false) (batch : List Tunnel) :
    r.admission key batch =
      if batch = [] then .error (.invalid .emptyBatch)
      else match r.clash? key [] batch with
        | some (t, owner) => .error (.endpointTaken t.address t.localPort owner)
        | none => .ok () := by
  unfold Registry.admission
  rw [hfree, hroom]
  rfl

variable {sc : Scenario} {key : Key} {batch : List Tunnel} {hooks : Hooks}

/-- A start whose batch clashes is refused. -/
theorem start_clashes (hr : sc.system.Reachable) (hs : sc.system.Settled)
    (hfree : sc.system.world.registry.isForwarded key = false)
    (hroom : sc.system.world.registry.isFull = false) {t : Tunnel} {owner : Key}
    (hclash : sc.system.world.registry.clash? key [] batch = some (t, owner)) :
    (sc.performOne (.start key batch hooks)).2 =
      .error (.endpointTaken t.address t.localPort owner) := by
  have hempty : batch ≠ [] := by
    rintro rfl
    cases hclash
  apply start_rejected hr hs
  rw [admission_eq hfree hroom, if_neg hempty, hclash]

/-- A start whose batch does not clash fails only for want of a batch or for a tunnel that cannot be
bound, or because it was cancelled. -/
theorem start_clear (hr : sc.system.Reachable) (hs : sc.system.Settled)
    (hfree : sc.system.world.registry.isForwarded key = false)
    (hroom : sc.system.world.registry.isFull = false)
    (hclear : sc.system.world.registry.clash? key [] batch = none) {e : Error}
    (he : (sc.performOne (.start key batch hooks)).2 = .error e) :
    e = .invalid .emptyBatch ∨ sc.system.world.registry.Admissible key batch ∧
      Excused sc.system.world.machine sc.system.world.registry.next key batch e := by
  have hadmission := admission_eq hfree hroom batch
  rw [hclear] at hadmission
  by_cases hempty : batch = []
  · rw [if_pos hempty] at hadmission
    rw [start_rejected hr hs hadmission] at he
    cases he
    exact Or.inl rfl
  · rw [if_neg hempty] at hadmission
    exact Or.inr ⟨Registry.admissible_of_admission hadmission, start_excused hr hs hadmission he⟩

/-- In a script whose tunnels are all at local IPv4 addresses, a start with a free key and room for
it is refused an endpoint as taken exactly if its batch, bound in order beside the listeners of the
forwarders alone, meets an endpoint in use, and then it is that one. If a tunnel cannot be bound,
some other program listens in its way or its port is kept for the system, and a batch that can be
bound is not refused as taken. -/
theorem clash_is_bind_conflict (limit : Nat) (platform : Platform) (stopTimeout : Nat)
    (parallel : Bool) (deeds : List Deed) (key : Key) (batch : List Tunnel) (hooks : Hooks)
    (hlocal : platform.HasLocal)
    (hlisted : ((unused limit platform stopTimeout parallel).play deeds).system.ListedLocal)
    (hbatch : ∀ t ∈ batch, t.IsLocal)
    (hfree : ((unused limit platform stopTimeout parallel).play
      deeds).system.world.registry.isForwarded key = false)
    (hroom : ((unused limit platform stopTimeout parallel).play
      deeds).system.world.registry.isFull = false) :
    let sc := (unused limit platform stopTimeout parallel).play deeds
    let m := sc.system.world.machine
    let g := sc.system.world.registry.next
    let answer := (sc.performOne (.start key batch hooks)).2
    (∀ address port, (∃ owner, answer = .error (.endpointTaken address port owner)) ↔
      ∃ t, m.own.listenAll g batch = .error (t, .addressInUse) ∧ t.address = address ∧
        t.localPort = port) ∧
    (∀ t cause, answer = .error (.bind t cause) →
      t ∈ batch ∧ (cause = .permissionDenied ∧ m.platform.reserves t.localPort = true ∨
        cause = .addressInUse ∧ ∃ x, Net.plainIPv4? t.address = some x ∧
          ∃ l ∈ m.listeners, l.owner.tunnel? = none ∧ l.blocks (.v4 x) t.localPort = true)) ∧
    ((∃ k, m.listenAll g batch = .ok k) →
      ∀ address port owner, answer ≠ .error (.endpointTaken address port owner)) := by
  intro sc m g answer
  obtain ⟨hr, hs⟩ := play_settled limit platform stopTimeout parallel deeds
  have hplatform : m.platform = platform := play_platform limit platform stopTimeout parallel deeds
  have hm : m.platform.HasLocal := hplatform ▸ hlocal
  rcases (hs.mirrors hr hlisted).listenAll key g hm (fun _ => rfl) hbatch with
    ⟨t, owner, hclash, hlisten⟩ | ⟨hclear, k, hlisten⟩
  · -- the batch clashes: it is refused, and cannot be bound
    have hanswer : answer = .error (.endpointTaken t.address t.localPort owner) :=
      start_clashes hr hs hfree hroom hclash
    refine ⟨fun address port => ?_, fun u cause hbind => ?_, fun hbound => ?_⟩
    · rw [hanswer, hlisten]
      constructor
      · rintro ⟨owner', he⟩
        cases he
        exact ⟨t, rfl, rfl, rfl⟩
      · rintro ⟨u, he, haddress, hport⟩
        cases he
        exact ⟨owner, by rw [haddress, hport]⟩
    · rw [hanswer] at hbind
      cases hbind
    · have hown : ∃ k, m.own.listenAll g batch = .ok k :=
        Machine.listenAll_mono hm hm hbatch (fun _ => rfl) (fun l hl => (List.mem_filter.mp hl).1)
          hbound
      obtain ⟨k, hk⟩ := hown
      rw [hlisten] at hk
      cases hk
  · -- nothing clashes: the batch can be bound beside the forwarders alone
    have hnot : ∀ address port owner, answer ≠ .error (.endpointTaken address port owner) := by
      intro address port owner he
      rcases start_clear hr hs hfree hroom hclear he with
        hempty | ⟨-, hcancelled | ⟨t, -, cause, n, hbind, -⟩⟩
      · cases hempty
      · cases hcancelled
      · cases hbind
    refine ⟨fun address port => ⟨?_, ?_⟩, fun t cause hbind => ?_, fun _ => hnot⟩
    · rintro ⟨owner, he⟩
      exact absurd he (hnot address port owner)
    · rintro ⟨t, he, -⟩
      rw [hlisten] at he
      cases he
    · rcases start_clear hr hs hfree hroom hclear hbind with hempty | ⟨hadm, hexcused⟩
      · cases hempty
      · exact foreign_of_excused hs hr hlisted hm hbatch hadm hexcused

set_option maxRecDepth 2000 in
/-- The wildcard is taken where a forwarder listens on the loopback address. -/
theorem wildcard_is_bind_conflict :
    let sc := (unused 0 .loopbackOnly 1000 false).play
      [.perform (.start ⟨"default/web", "app"⟩ [⟨"localhost", 8080, 80⟩] {})]
    ∃ owner, (sc.performOne (.start ⟨"default/db", "app"⟩ [⟨"0.0.0.0", 8080, 5432⟩] {})).2 =
      .error (.endpointTaken "0.0.0.0" 8080 owner) := by
  intro sc
  have hlist : sc.system.world.registry.list =
      [⟨1, ⟨"default/web", "app"⟩, [⟨"localhost", 8080, 80⟩], .active⟩] := rfl
  have hlisted : sc.system.ListedLocal := by
    intro v hv t ht
    rw [hlist, List.mem_singleton] at hv
    rw [hv, List.mem_singleton] at ht
    rw [ht]
    exact ⟨⟨.localhost, by decide, Or.inl rfl⟩, by decide⟩
  have hbatch : ∀ t ∈ [(⟨"0.0.0.0", 8080, 5432⟩ : Tunnel)], t.IsLocal := by
    intro t ht
    rw [List.mem_singleton] at ht
    rw [ht]
    exact ⟨⟨.wildcard, by decide, Or.inr rfl⟩, by decide⟩
  have hlocal : Platform.loopbackOnly.HasLocal := by
    rintro x (hx | rfl)
    · simp [Platform.loopbackOnly, hx]
    · rfl
  have hconflict := clash_is_bind_conflict 0 .loopbackOnly 1000 false
    [.perform (.start ⟨"default/web", "app"⟩ [⟨"localhost", 8080, 80⟩] {})] ⟨"default/db", "app"⟩
    [⟨"0.0.0.0", 8080, 5432⟩] {} hlocal hlisted hbatch rfl rfl
  exact (hconflict.1 "0.0.0.0" 8080).mpr ⟨⟨"0.0.0.0", 8080, 5432⟩, rfl, rfl, rfl⟩

/-- Other programs are not the only ones to keep a tunnel from being bound: where low ports are kept
for the system, a start on one of them fails though nobody listens. -/
theorem low_port_refused :
    let sc := unused 0 .bare 1000 false
    let answer := (sc.performOne (.start ⟨"default/web", "app"⟩ [⟨"127.0.0.1", 80, 80⟩] {})).2
    Platform.bare.HasLocal ∧ sc.system.ListedLocal ∧ Tunnel.IsLocal ⟨"127.0.0.1", 80, 80⟩ ∧
      sc.system.world.registry.isForwarded ⟨"default/web", "app"⟩ = false ∧
      sc.system.world.registry.isFull = false ∧
      answer = .error (.bind ⟨"127.0.0.1", 80, 80⟩ .permissionDenied) ∧
      ¬ ∀ t cause, answer = .error (.bind t cause) →
        ∃ l ∈ sc.system.world.machine.listeners, l.owner.tunnel? = none := by
  have hanswer : ((unused 0 .bare 1000 false).performOne
      (.start ⟨"default/web", "app"⟩ [⟨"127.0.0.1", 80, 80⟩] {})).2 =
        .error (.bind ⟨"127.0.0.1", 80, 80⟩ .permissionDenied) := rfl
  refine ⟨fun _ _ => rfl, ?_, ⟨⟨.localhost, by decide, Or.inl rfl⟩, by decide⟩, rfl, rfl, hanswer,
    fun hforeign => ?_⟩
  · intro v hv
    cases hv
  · obtain ⟨l, hl, -⟩ := hforeign _ _ hanswer
    cases hl

end Scenario

end PortForward
