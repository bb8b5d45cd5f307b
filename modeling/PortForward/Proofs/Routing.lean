/-
# Where connections go

A connection to an address of the machine is for a tunnel that has its port and its address, or the
wildcard. At most one listed tunnel is in question. The task of this tunnel gets the connection and
asks the target of its forwarder for its container port, and nothing else gets it.

* `Registry.Sound.eq_of_receives` : a connection is for one tunnel at most;
* `Settled.arrives`, `Settled.destination` : the listener of that tunnel gets it, and no other;
* `Settled.holders_eq` : and so does its task alone;
* `Scenario.routed_unambiguously` : what this comes to for a client.
-/
import PortForward.Bench.Platforms
import PortForward.Proofs.Hosts
import PortForward.Proofs.Scripts
import PortForward.Proofs.Sockets

namespace PortForward

/-- A tunnel at an IPv4 address, given in dotted decimal or as `localhost`, with a port of its own. -/
structure Tunnel.IsPlain (t : Tunnel) : Prop where
  host : ∃ x, Net.plainIPv4? t.address = some x
  port : t.localPort ≠ 0

/-- A connection to an endpoint is for the tunnel: the tunnel has its port, and its address or the
wildcard of IPv4. -/
def Tunnel.Receives (t : Tunnel) (y : Net.IpAddress) (port : UInt16) : Prop :=
  t.localPort = port ∧ ∃ x, Net.plainIPv4? t.address = some x ∧
    (y = .v4 x ∨ x = .wildcard ∧ ∃ z, y = .v4 z)

/-! ## Endpoints -/

section Endpoints

variable {t u : Tunnel} {x : Net.IPv4} {y : Net.IpAddress} {port : UInt16}

/-- What is for a tunnel is what a listener at its address accepts. -/
theorem Tunnel.receives_iff (hx : Net.plainIPv4? t.address = some x) :
    t.Receives y port ↔ t.localPort = port ∧ (Net.IpAddress.v4 x).covers y = true := by
  have hcovers : (Net.IpAddress.v4 x).covers y = true ↔
      y = .v4 x ∨ x = .wildcard ∧ ∃ z, y = .v4 z := by
    cases y with
    | v4 z =>
      simp [Net.IpAddress.covers, Net.IpAddress.sameFamily, eq_comm (a := z)]
    | v6 z => simp [Net.IpAddress.covers, Net.IpAddress.sameFamily]
  rw [Receives, hx, hcovers]
  simp

/-- Tunnels that are both in question for a connection clash. -/
theorem Tunnel.clashes_of_receives (ht : t.Receives y port) (hu : u.Receives y port) :
    t.clashes u = true := by
  obtain ⟨x, hx, -⟩ := ht.2
  obtain ⟨z, hz, -⟩ := hu.2
  obtain ⟨htport, htcovers⟩ := (receives_iff hx).mp ht
  obtain ⟨huport, hucovers⟩ := (receives_iff hz).mp hu
  have hhost : Net.sameHost t.address u.address = true := by
    rw [Net.sameHost, Net.hostAddress?_of_plain hx, Net.hostAddress?_of_plain hz]
    dsimp only
    rw [Net.overlaps_eq_excludes]
    exact Net.IpAddress.excludes_of_covers htcovers hucovers
  rw [clashes, hhost, htport, huport, beq_self_eq_true, Bool.and_true]

/-- A connection is for one tunnel of one forwarder at most. -/
theorem Registry.Sound.eq_of_receives {r : Registry} (h : r.Sound) {d e : Entry} (hd : d ∈ r.entries)
    (he : e ∈ r.entries) (ht : t ∈ d.tunnels) (hu : u ∈ e.tunnels) (htr : t.Receives y port)
    (hur : u.Receives y port) : d = e ∧ t = u := by
  have hclash := Tunnel.clashes_of_receives htr hur
  have hde : d = e := by
    by_contra hne
    rw [(h.apart_of_ne hd he hne).tunnels t ht u hu] at hclash
    cases hclash
  subst hde
  refine ⟨rfl, ?_⟩
  by_contra hne
  rw [(h.batch d hd).clashes_of_ne ht hu hne] at hclash
  cases hclash

/-- Connections that stay on the machine arrive at the listener that accepts them. -/
theorem Machine.listener?_eq {m : Machine} {address : String}
    (hy : m.platform.target? address = some y) :
    m.listener? address port =
      if m.platform.reaches y = true then m.listeners.find? (·.accepts y port) else none := by
  rw [listener?, hy]
  rfl

/-- What a connection arrives at is a listener of the machine. -/
theorem Machine.mem_of_listener? {m : Machine} {address : String} {l : Listener}
    (h : m.listener? address port = some l) : l ∈ m.listeners := by
  cases hy : m.platform.target? address with
  | none =>
    rw [listener?, hy] at h
    cases h
  | some y =>
    rw [listener?_eq hy, Option.ite_none_right_eq_some] at h
    exact List.mem_of_find?_eq_some h.2

/-- The listener that a connection arrives at accepts it. -/
theorem Machine.listener?_eq_some {m : Machine} {address : String} {l : Listener}
    (hy : m.platform.target? address = some y) (h : m.listener? address port = some l) :
    l ∈ m.listeners ∧ l.accepts y port = true := by
  refine ⟨mem_of_listener? h, ?_⟩
  rw [listener?_eq hy, Option.ite_none_right_eq_some] at h
  simpa using List.find?_some h.2

end Endpoints

namespace System

variable {s : System} {e : Entry} {t : Tunnel} {l : Listener} {g : Nat} {y : Net.IpAddress}
variable {address : String} {port : UInt16}

/-- The tunnels of all listed forwarders are at IPv4 addresses. -/
def ListedPlain (s : System) : Prop :=
  ∀ v ∈ s.world.registry.list, ∀ t ∈ v.tunnels, t.IsPlain

theorem ListedPlain.entry (h : s.ListedPlain) (he : e ∈ s.world.registry.entries)
    (ht : t ∈ e.tunnels) : t.IsPlain := h e.view (List.mem_map_of_mem he) t ht

/-! ## The listener that a connection arrives at -/

/-- The listener of a tunnel accepts what is for the tunnel. -/
theorem Reachable.accepts_iff (hr : s.Reachable) (ht : t.IsPlain) (hl : l ∈ s.world.machine.listeners)
    (howner : l.owner = .tunnel g t) : l.accepts y port = true ↔ t.Receives y port := by
  obtain ⟨x, hx⟩ := ht.host
  obtain ⟨hport, zone, hresolve⟩ := hr.placed l hl g t howner
  rw [Listener.accepts_iff, Tunnel.receives_iff hx, hport, Platform.eq_of_resolve hx hresolve]
  constructor
  · exact fun h => h.2
  · exact fun h => ⟨h.1 ▸ ht.port, h⟩

/-- What is for a listed tunnel arrives at its listener. -/
theorem Settled.arrives (h : s.Settled) (hr : s.Reachable) (hlisted : s.ListedPlain)
    (he : e ∈ s.world.registry.entries) (ht : t ∈ e.tunnels) (hreceives : t.Receives y port)
    (hy : s.world.machine.platform.target? address = some y)
    (hreach : s.world.machine.platform.reaches y = true) :
    ∃ l, s.world.machine.listener? address port = some l ∧ l.owner = .tunnel e.generation t := by
  obtain ⟨l, hl, howner⟩ := World.mem_owned.mp ((h.mem_owned hr).mpr ⟨e, he, rfl, ht⟩)
  have haccepts := (hr.accepts_iff (hlisted.entry he ht) hl howner).mpr hreceives
  cases hk : s.world.machine.listener? address port with
  | none =>
    rw [Machine.listener?_eq hy, if_pos hreach] at hk
    exact absurd haccepts (List.find?_eq_none.mp hk l hl)
  | some k =>
    -- no other listener accepts it
    obtain ⟨hmem, hkaccepts⟩ := Machine.listener?_eq_some hy hk
    have hkl : k = l := hr.apart.eq_of_accepts hmem hl hkaccepts haccepts
    exact ⟨k, rfl, hkl ▸ howner⟩

/-- A connection arrives nowhere, at another program, or at the listener of a listed tunnel that it
is for. -/
theorem Settled.destination (h : s.Settled) (hr : s.Reachable) (hlisted : s.ListedPlain)
    (hy : s.world.machine.platform.target? address = some y) (port : UInt16) :
    s.world.machine.listener? address port = none ∨
      (∃ l ∈ s.world.machine.listeners, s.world.machine.listener? address port = some l ∧
        l.accepts y port = true ∧ ∃ other, l.owner = .foreign other) ∨
      ∃ l, s.world.machine.listener? address port = some l ∧
        ∃ e ∈ s.world.registry.entries, ∃ t ∈ e.tunnels, t.Receives y port ∧
          l.owner = .tunnel e.generation t := by
  cases hl : s.world.machine.listener? address port with
  | none => exact Or.inl rfl
  | some l =>
    right
    obtain ⟨hmem, haccepts⟩ := Machine.listener?_eq_some hy hl
    cases howner : l.owner with
    | foreign other => exact Or.inl ⟨l, hmem, rfl, haccepts, other, howner⟩
    | tunnel g t =>
      obtain ⟨e, he, rfl, ht⟩ := (h.mem_owned hr).mp (World.mem_owned.mpr ⟨l, hmem, howner⟩)
      have hreceives := (hr.accepts_iff (hlisted.entry he ht) hmem howner).mp haccepts
      exact Or.inr ⟨l, rfl, e, he, t, ht, hreceives, howner⟩

/-! ## The task that gets a connection -/

/-- No task is there twice. -/
theorem Staffed.nodup (h : s.Staffed) : s.world.tasks.Nodup := by
  refine (List.pairwise_map.mp h.apart).imp ?_
  rintro t u hapart rfl
  exact hapart rfl rfl

/-- The listener of a listed tunnel is held by one task, which is there for the key of the
forwarder. -/
theorem Settled.holders_eq (h : s.Settled) (hr : s.Reachable) (he : e ∈ s.world.registry.entries)
    (ht : t ∈ e.tunnels) :
    ∃ u, s.world.tasks.filter (World.heldBy · (.tunnel e.generation t)) = [u] ∧
      u.key = e.key ∧ u.role = .tunnel t := by
  have hpost := h.posts hr he (show Role.tunnel t ∈ _ by simp [Entry.roles, ht])
  obtain ⟨u, hu, hposted⟩ := List.mem_map.mp hpost
  obtain ⟨hg, hkey, hrole⟩ : u.generation = e.generation ∧ u.key = e.key ∧ u.role = .tunnel t := by
    simpa [Task.post] using hposted
  refine ⟨u, List.perm_singleton.mp ?_, hkey, hrole⟩
  refine (List.perm_ext_iff_of_nodup (hr.staffed.nodup.filter _) (List.nodup_singleton u)).mpr ?_
  intro v
  rw [List.mem_filter, List.mem_singleton, World.heldBy_tunnel]
  constructor
  · rintro ⟨hv, hvg, hvrole⟩
    exact hr.staffed.eq_of_post hv hu (hvg.trans hg.symm) (hvrole.trans hrole.symm)
  · rintro rfl
    exact ⟨hu, hg, hrole⟩

/-- What arrives at the listener of a listed tunnel makes its task ask for the container port. -/
theorem Settled.dials_eq (h : s.Settled) (hr : s.Reachable) (he : e ∈ s.world.registry.entries)
    (ht : t ∈ e.tunnels) (hl : s.world.machine.listener? address port = some l)
    (howner : l.owner = .tunnel e.generation t) :
    s.world.dials address port = [(e.key, t.remotePort)] := by
  obtain ⟨u, hholders, hkey, hrole⟩ := h.holders_eq hr he ht
  rw [World.dials, hl]
  dsimp only
  rw [howner, hholders]
  simp [Task.dial?, hrole, hkey]

/-- Where no listener accepts, nothing is asked for. -/
theorem dials_eq_nil {w : World} (hl : w.machine.listener? address port = none) :
    w.dials address port = [] := by
  rw [World.dials, hl]

/-- Nor does what arrives at another program make a task ask for anything. -/
theorem dials_foreign {w : World} {other : String} (hl : w.machine.listener? address port = some l)
    (howner : l.owner = .foreign other) : w.dials address port = [] := by
  have hheld : ∀ u, World.heldBy u (.foreign other) = false := by
    intro u
    unfold World.heldBy
    cases u.role <;> rfl
  rw [World.dials, hl]
  dsimp only
  rw [howner]
  simp [hheld]

/-- Whatever is asked for is the container port of a listed tunnel that the connection is for. -/
theorem Settled.dials_listed (h : s.Settled) (hr : s.Reachable) (hlisted : s.ListedPlain)
    (hy : s.world.machine.platform.target? address = some y) {key : Key} {remote : UInt16}
    (hdial : (key, remote) ∈ s.world.dials address port) :
    ∃ v ∈ s.world.registry.list, v.key = key ∧ ∃ t ∈ v.tunnels, t.remotePort = remote ∧
      t.Receives y port := by
  obtain hl | ⟨l, -, hl, -, other, howner⟩ | ⟨l, hl, e, he, t, ht, hreceives, howner⟩ :=
    h.destination hr hlisted hy port
  · rw [dials_eq_nil hl] at hdial
    cases hdial
  · rw [dials_foreign hl howner] at hdial
    cases hdial
  · rw [h.dials_eq hr he ht hl howner, List.mem_singleton, Prod.mk.injEq] at hdial
    exact ⟨e.view, List.mem_map_of_mem he, hdial.1.symm, t, ht, hdial.2.symm, hreceives⟩

end System

namespace Scenario

open PortForward.System

variable {sc : Scenario} {e : Entry} {t : Tunnel} {address : String} {port : UInt16} {l : Listener}

/-- Who connects where a listed tunnel listens meets this tunnel. -/
theorem meet_tunnel (hr : sc.system.Reachable) (hs : sc.system.Settled)
    (he : e ∈ sc.system.world.registry.entries) (ht : t ∈ e.tunnels)
    (hl : sc.system.world.machine.listener? address port = some l)
    (howner : l.owner = .tunnel e.generation t) :
    sc.meet address port =
      if sc.refusing.contains t.remotePort = true then .closed else .tunnel e.key t.remotePort := by
  rw [meet, hl, hs.dials_eq hr he ht hl howner]

/-- Who connects where another program listens meets no tunnel. -/
theorem meet_foreign {other : String}
    (hl : sc.system.world.machine.listener? address port = some l)
    (howner : l.owner = .foreign other) : sc.meet address port = .closed := by
  rw [meet, hl, dials_foreign hl howner]

/-- Who connects where no listener accepts meets nobody. -/
theorem meet_refused (hl : sc.system.world.machine.listener? address port = none) :
    sc.meet address port = .refused := by
  rw [meet, hl]

/-- Whatever tunnel a client meets, its task is the one that asks, and for nothing else. -/
theorem meet_dials (hr : sc.system.Reachable) (hs : sc.system.Settled)
    (hlisted : sc.system.ListedPlain) {y : Net.IpAddress}
    (hy : sc.system.world.machine.platform.target? address = some y) {key : Key} {remote : UInt16}
    (hmeet : sc.meet address port = .tunnel key remote) :
    sc.system.world.dials address port = [(key, remote)] := by
  obtain hl | ⟨l, -, hl, -, other, howner⟩ | ⟨l, hl, d, hd, u, hu, -, howner⟩ :=
    hs.destination hr hlisted hy port
  · rw [meet_refused hl] at hmeet
    cases hmeet
  · rw [meet_foreign hl howner] at hmeet
    cases hmeet
  · rw [meet_tunnel hr hs hd hu hl howner] at hmeet
    split at hmeet
    · cases hmeet
    · cases hmeet
      exact hs.dials_eq hr hd hu hl howner

/-- In a settled registry whose tunnels are all at IPv4 addresses, a connection is for one listed
tunnel at most. It makes the task of this tunnel ask the target of its forwarder for its container
port, and the client meets this port, or a closed connection if the container port refuses. Whatever
is asked for, and whatever container port a client meets, is that of a listed tunnel that the
connection is for. If it is for none and no other program accepts it, then it is refused. -/
theorem routed_unambiguously {sc : Scenario} (hr : sc.system.Reachable) (hs : sc.system.Settled)
    (hlisted : sc.system.ListedPlain) {address : String} {y : Net.IpAddress}
    (hy : sc.system.world.machine.platform.target? address = some y) (port : UInt16) :
    let w := sc.system.world
    (∀ v ∈ w.registry.list, ∀ t ∈ v.tunnels, ∀ v' ∈ w.registry.list, ∀ t' ∈ v'.tunnels,
      t.Receives y port → t'.Receives y port → v = v' ∧ t = t') ∧
    (∀ v ∈ w.registry.list, ∀ t ∈ v.tunnels, t.Receives y port →
      w.machine.platform.reaches y = true →
        w.dials address port = [(v.key, t.remotePort)] ∧
        sc.meet address port =
          if sc.refusing.contains t.remotePort = true then .closed else .tunnel v.key t.remotePort) ∧
    (∀ key remote, (key, remote) ∈ w.dials address port →
      ∃ v ∈ w.registry.list, v.key = key ∧ ∃ t ∈ v.tunnels, t.remotePort = remote ∧
        t.Receives y port) ∧
    (∀ key remote, sc.meet address port = .tunnel key remote →
      w.dials address port = [(key, remote)] ∧
        ∃ v ∈ w.registry.list, v.key = key ∧ ∃ t ∈ v.tunnels, t.remotePort = remote ∧
          t.Receives y port) ∧
    ((∀ v ∈ w.registry.list, ∀ t ∈ v.tunnels, ¬ t.Receives y port) →
      (∀ l ∈ w.machine.listeners, l.owner.tunnel? = none → l.accepts y port = false) →
        sc.meet address port = .refused ∧ w.dials address port = []) := by
  intro w
  refine ⟨?_, ?_, fun key remote => hs.dials_listed hr hlisted hy, ?_, ?_⟩
  · intro v hv t ht v' hv' t' ht' hreceives hreceives'
    obtain ⟨e, he, rfl⟩ := List.mem_map.mp hv
    obtain ⟨e', he', rfl⟩ := List.mem_map.mp hv'
    obtain ⟨rfl, rfl⟩ := hr.sound.eq_of_receives he he' ht ht' hreceives hreceives'
    exact ⟨rfl, rfl⟩
  · intro v hv t ht hreceives hreach
    obtain ⟨e, he, rfl⟩ := List.mem_map.mp hv
    obtain ⟨l, hl, howner⟩ := hs.arrives hr hlisted he ht hreceives hy hreach
    exact ⟨hs.dials_eq hr he ht hl howner, meet_tunnel hr hs he ht hl howner⟩
  · intro key remote hmeet
    have hdials := meet_dials hr hs hlisted hy hmeet
    exact ⟨hdials, hs.dials_listed hr hlisted hy (hdials ▸ List.mem_singleton_self _)⟩
  · intro hnone hforeign
    obtain hl | ⟨l, hmem, -, haccepts, other, howner⟩ | ⟨l, -, e, he, t, ht, hreceives, -⟩ :=
      hs.destination hr hlisted hy port
    · exact ⟨meet_refused hl, dials_eq_nil hl⟩
    · rw [hforeign l hmem (by rw [howner]; rfl)] at haccepts
      cases haccepts
    · exact absurd hreceives (hnone e.view (List.mem_map_of_mem he) t ht)

/-- After a port was freed, connections to it reach the forwarder that has it now. -/
theorem freed_port_routed :
    let sc := (unused 0 .loopbackOnly 1000 false).play
      [.perform (.start ⟨"default/web", "app"⟩ [⟨"0.0.0.0", 8080, 80⟩] {}),
        .perform (.stop ⟨"default/web", "app"⟩),
        .perform (.start ⟨"default/db", "app"⟩ [⟨"localhost", 8080, 5432⟩] {})]
    sc.system.world.dials "127.0.0.1" 8080 = [(⟨"default/db", "app"⟩, 5432)] := by
  intro sc
  obtain ⟨hr, hs⟩ := play_settled 0 .loopbackOnly 1000 false
    [.perform (.start ⟨"default/web", "app"⟩ [⟨"0.0.0.0", 8080, 80⟩] {}),
      .perform (.stop ⟨"default/web", "app"⟩),
      .perform (.start ⟨"default/db", "app"⟩ [⟨"localhost", 8080, 5432⟩] {})]
  have hlist : sc.system.world.registry.list =
      [⟨2, ⟨"default/db", "app"⟩, [⟨"localhost", 8080, 5432⟩], .active⟩] := by decide +kernel
  have hlisted : sc.system.ListedPlain := by
    intro v hv t ht
    rw [hlist, List.mem_singleton] at hv
    rw [hv, List.mem_singleton] at ht
    rw [ht]
    exact ⟨⟨.localhost, by decide⟩, by decide⟩
  have hplatform : sc.system.world.machine.platform = .loopbackOnly :=
    play_platform 0 .loopbackOnly 1000 false _
  have hy : sc.system.world.machine.platform.target? "127.0.0.1" = some (.v4 .localhost) := by
    rw [hplatform]
    decide
  have hreceives : Tunnel.Receives ⟨"localhost", 8080, 5432⟩ (.v4 .localhost) 8080 :=
    ⟨rfl, .localhost, by decide, Or.inl rfl⟩
  have hroutes := @routed_unambiguously sc hr hs hlisted _ _ hy 8080
  exact (hroutes.2.1 _ (hlist ▸ List.mem_singleton_self _) _ (List.mem_singleton_self _) hreceives
    (by rw [hplatform]; rfl)).1

end Scenario
end PortForward
