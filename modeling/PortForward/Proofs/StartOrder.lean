/-
# Starts in either order

Two starts that both succeed, one after the other, do so in the other order as well, and come to the
same but for generations: that the limit allows both does not depend on who comes first, and neither
is in the way of the other, as clashing and excluding are symmetric.

* `World.Fits`, `Scenario.start_fits` : what a start needs to succeed;
* `World.Joins` : what a start leaves;
* `Fits.before`, `Fits.after` : what fits after another forwarder has joined also fits before, and
  what fits before still fits after one with which it does not clash;
* `Scenario.starts_commute` : starts in either order.
-/
import PortForward.Bench.Platforms
import PortForward.Proofs.Arrivals
import PortForward.Proofs.Likeness

namespace PortForward

/-- A listener that is where its tunnel says excludes what clashes with the tunnel. -/
theorem Tunnel.IsPlain.blocks {t u : Tunnel} {l : Listener} {z : Net.ScopedAddress} {p : Platform}
    (ht : t.IsPlain) (hu : u.IsPlain)
    (hplaced : l.port = u.localPort ∧ ∃ zone, p.resolve u.address = .ok ⟨l.address, zone⟩)
    (hz : p.resolve t.address = .ok z) :
    l.blocks z.address t.localPort = u.clashes t := by
  obtain ⟨hport, zone, hresolve⟩ := hplaced
  obtain ⟨x, hx⟩ := ht.host
  obtain ⟨y, hy⟩ := hu.host
  rw [Platform.eq_of_resolve hx hz]
  exact Tunnel.clashes_eq_blocks hy hx ht.port (Platform.eq_of_resolve hy hresolve) hport

namespace World

variable {w w' : World} {key : Key} {batch : List Tunnel} {e : Entry}

/-- A start succeeds: it is admitted, and each tunnel of its batch can be listened for. -/
structure Fits (w : World) (key : Key) (batch : List Tunnel) : Prop where
  admissible : w.registry.Admissible key batch
  probes : ∀ t ∈ batch, ∃ x, w.machine.probe t.address t.localPort = .ok x

/-- A forwarder with this entry has joined: it is registered, its listeners are there, and all else
is as it was. -/
structure Joins (e : Entry) (w w' : World) : Prop where
  entries : w'.registry.entries.Perm (e :: w.registry.entries)
  limit : w'.registry.limit = w.registry.limit
  platform : w'.machine.platform = w.machine.platform
  kept : ∀ l ∈ w.machine.listeners, l ∈ w'.machine.listeners
  opened : ∀ l ∈ w'.machine.listeners, l ∈ w.machine.listeners ∨
    ∃ t ∈ e.tunnels, l.port = t.localPort ∧
      ∃ zone, w.machine.platform.resolve t.address = .ok ⟨l.address, zone⟩

namespace Joins

theorem mem_iff (h : Joins e w w') {x : Entry} :
    x ∈ w'.registry.entries ↔ x = e ∨ x ∈ w.registry.entries := by
  rw [h.entries.mem_iff, List.mem_cons]

theorem length_eq (h : Joins e w w') :
    w'.registry.entries.length = w.registry.entries.length + 1 := by
  rw [h.entries.length_eq, List.length_cons]

/-- The list with the forwarder that has joined, but for generations. -/
theorem list_undated (h : Joins e w w') :
    (w'.registry.list.map View.undated).Perm
      (e.view.undated :: w.registry.list.map View.undated) :=
  (h.entries.map Entry.view).map View.undated

/-- What may be listened on after a forwarder has joined could be so before. -/
theorem probe_before (h : Joins e w w') {t : Tunnel} {x : Net.IpAddress}
    (hx : w'.machine.probe t.address t.localPort = .ok x) :
    w.machine.probe t.address t.localPort = .ok x := by
  obtain ⟨z, hz, hobstacle, hfree, rfl⟩ := Machine.probe_eq_ok hx
  refine Machine.probe_of_free (h.platform ▸ hz) (h.platform ▸ hobstacle) ?_
  rw [Machine.inUse, List.any_eq_false] at hfree ⊢
  exact fun l hl => hfree l (h.kept l hl)

/-- What could be listened on before a forwarder joined may be so after, if it does not clash with
the tunnels of the forwarder. -/
theorem probe_after (h : Joins e w w') (he : ∀ u ∈ e.tunnels, u.IsPlain) {t : Tunnel}
    (ht : t.IsPlain) (hclear : ∀ u ∈ e.tunnels, u.clashes t = false) {x : Net.IpAddress}
    (hx : w.machine.probe t.address t.localPort = .ok x) :
    w'.machine.probe t.address t.localPort = .ok x := by
  obtain ⟨z, hz, hobstacle, hfree, rfl⟩ := Machine.probe_eq_ok hx
  refine Machine.probe_of_free (h.platform ▸ hz) (h.platform ▸ hobstacle) ?_
  rw [Machine.inUse, List.any_eq_false] at hfree ⊢
  intro l hl
  rcases h.opened l hl with hl | ⟨u, hu, hplaced⟩
  · exact hfree l hl
  · rw [ht.blocks (he u hu) hplaced hz, hclear u hu]
    exact Bool.false_ne_true

end Joins

namespace Fits

/-- What fits after a forwarder has joined also fits before. -/
theorem before (h : w'.Fits key batch) (hj : Joins e w w') : w.Fits key batch where
  admissible :=
    { listenable := h.admissible.listenable
      free := fun x hx => h.admissible.free x (hj.mem_iff.mpr (Or.inr hx))
      room := by
        have := h.admissible.room
        rw [hj.limit, hj.length_eq] at this
        omega
      clear := fun x hx => h.admissible.clear x (hj.mem_iff.mpr (Or.inr hx)) }
  probes t ht := by
    obtain ⟨x, hx⟩ := h.probes t ht
    exact ⟨x, hj.probe_before hx⟩

/-- What fits before a forwarder joins still fits after, if the keys differ, there is room for both,
and no tunnels clash. -/
theorem after (h : w.Fits key batch) (hj : Joins e w w') (hkey : e.key ≠ key)
    (hroom : 0 < w.registry.limit → w.registry.entries.length + 1 < w.registry.limit)
    (hclear : Clear e.tunnels batch) (he : ∀ u ∈ e.tunnels, u.IsPlain)
    (hbatch : ∀ t ∈ batch, t.IsPlain) : w'.Fits key batch where
  admissible :=
    { listenable := h.admissible.listenable
      free := by
        intro x hx
        rcases hj.mem_iff.mp hx with rfl | hx
        · exact hkey
        · exact h.admissible.free x hx
      room := by
        rw [hj.limit, hj.length_eq]
        exact hroom
      clear := by
        intro x hx
        rcases hj.mem_iff.mp hx with rfl | hx
        · exact hclear
        · exact h.admissible.clear x hx }
  probes t ht := by
    obtain ⟨x, hx⟩ := h.probes t ht
    exact ⟨x, hj.probe_after he (hbatch t ht) (fun u hu => hclear u hu t ht) hx⟩

/-- What fits before another one also fits after that. -/
theorem swap {d : Entry} {u v : World} (h : w.Fits d.key d.tunnels) (hd : Joins d w u)
    (hnext : u.Fits e.key e.tunnels) (he : Joins e w v) (hds : ∀ t ∈ d.tunnels, t.IsPlain)
    (hes : ∀ t ∈ e.tunnels, t.IsPlain) : v.Fits d.key d.tunnels := by
  have hmem := hd.mem_iff.mpr (Or.inl rfl)
  refine h.after he (hnext.admissible.free d hmem).symm ?_ (hnext.admissible.clear d hmem).symm
    hes hds
  have hroom := hnext.admissible.room
  rwa [hd.limit, hd.length_eq] at hroom

end Fits
end World

/-- A batch passes the check exactly if each of its tunnels can be listened for. -/
theorem Machine.available_iff {m : Machine} {batch : List Tunnel} :
    m.available batch = .ok () ↔ ∀ t ∈ batch, ∃ x, m.probe t.address t.localPort = .ok x := by
  induction batch with
  | nil => exact ⟨fun _ t ht => absurd ht List.not_mem_nil, fun _ => rfl⟩
  | cons t ts ih =>
    rw [available_cons, List.forall_mem_cons, ← ih]
    cases m.probe t.address t.localPort with
    | ok x => exact ⟨fun h => ⟨⟨x, rfl⟩, h⟩, And.right⟩
    | error cause =>
      constructor
      · intro h
        cases h
      · rintro ⟨⟨x, hx⟩, -⟩
        cases hx

namespace System

variable {t : System} {w : World} {e : Entry}

/-- In a settled system, a new forwarder that is registered has joined those that there were. -/
theorem Settled.joins (h : t.Settled) (hr : t.Reachable) (he : e ∈ t.world.registry.entries)
    (helse : w.Elsewhere (· == e.generation) t.world)
    (hentries : ∀ x ∈ w.registry.entries, x.generation ≠ e.generation)
    (hlisteners : ∀ l ∈ w.machine.listeners, l.owner.isOf (· == e.generation) = false) :
    World.Joins e w t.world where
  entries := helse.arrival hr.sound hentries he
  limit := helse.limit
  platform := helse.platform
  kept l hl := (helse.mem_listeners (hlisteners l hl)).mpr hl
  opened := by
    intro l hl
    cases howner : l.owner.isOf (· == e.generation) with
    | false => exact Or.inl ((helse.mem_listeners howner).mp hl)
    | true =>
      cases hl' : l.owner with
      | foreign address =>
        rw [hl'] at howner
        cases howner
      | tunnel g x =>
        rw [hl', Owner.isOf, beq_iff_eq] at howner
        obtain ⟨d, hd, hg, hx⟩ := (h.mem_owned hr).mp (World.mem_owned.mpr ⟨l, hl, hl'⟩)
        rw [hr.sound.eq_of_generation hd he (hg.trans howner)] at hx
        exact Or.inr ⟨x, hx, helse.platform ▸ hr.placed l hl g x hl'⟩

/-- Two forwarders that joined in either order come to the same. -/
theorem Settled.alike_of_joins {s : System} {d d' e' : Entry} {u v : World} (hs : s.Settled)
    (hsr : s.Reachable) (ht : t.Settled) (htr : t.Reachable) (hd : World.Joins d w u)
    (he : World.Joins e u s.world) (he' : World.Joins e' w v) (hd' : World.Joins d' v t.world)
    (hdd' : d'.view.undated = d.view.undated) (hee' : e'.view.undated = e.view.undated)
    (hforeign : t.world.foreign = s.world.foreign) : s.world.Alike t.world := by
  have hplatform := (hd'.platform.trans he'.platform).trans (he.platform.trans hd.platform).symm
  refine hs.alike hsr ht htr hplatform (System.list_undated hsr htr ?_) hforeign
  have hfirst := he.list_undated.trans (hd.list_undated.cons _)
  have hsecond := hd'.list_undated.trans (he'.list_undated.cons _)
  rw [hdd', hee'] at hsecond
  exact (hsecond.trans (List.Perm.swap _ _ _)).trans hfirst.symm

end System

namespace Scenario

open PortForward.System

variable {sc : Scenario} {key : Key} {batch : List Tunnel} {hooks : Hooks}

/-- Where all is at rest, exactly what fits is started. -/
theorem start_fits (h : sc.AtRest) (hbatch : ∀ t ∈ batch, t.IsPlain) (hooks : Hooks) :
    (∃ reply, (sc.performOne (.start key batch hooks)).2 = .ok reply) ↔
      sc.system.world.Fits key batch := by
  constructor
  · rintro ⟨reply, hok⟩
    obtain ⟨hadm, ⟨k, hlisten⟩, -⟩ := start_succeeded h hok
    have hadmissible := Registry.admission_iff.mp hadm
    refine ⟨hadmissible, Machine.available_iff.mp ?_⟩
    rcases Machine.available_listenAll (g := sc.system.world.registry.next) sc.system.world.machine
      hbatch hadmissible.listenable.apart fun _ _ => rfl with
      ⟨havailable, -⟩ | ⟨t, cause, -, -, hrefused⟩
    · exact havailable
    · rw [hlisten] at hrefused
      cases hrefused
  · rintro ⟨hadmissible, hprobes⟩
    have havailable := Machine.available_iff.mpr hprobes
    refine ⟨_, start_succeeds h (Registry.admission_iff.mpr hadmissible) ?_⟩
    rcases Machine.available_listenAll (g := sc.system.world.registry.next) sc.system.world.machine
      hbatch hadmissible.listenable.apart fun _ _ => rfl with
      ⟨-, hbound⟩ | ⟨t, cause, -, hrefused, -⟩
    · exact hbound
    · rw [havailable] at hrefused
      cases hrefused

/-- What a start that succeeds leaves, as long as its target is there. -/
theorem start_joins (h : sc.AtRest) (hthere : sc.doomed.lookup key = none) {reply : Reply}
    (hok : (sc.performOne (.start key batch hooks)).2 = .ok reply) :
    World.Joins (sc.system.world.registry.newEntry key batch hooks.onStop).activated
      sc.system.world (sc.performOne (.start key batch hooks)).1.system.world := by
  obtain ⟨hadm, -⟩ := start_succeeded h hok
  have hrest := performOne_atRest h (.start key batch hooks)
  refine hrest.settled.joins hrest.reachable ?_ (start_elsewhere h hadm hooks)
    (fun x hx => Nat.ne_of_lt (h.reachable.sound.old x hx)) (h.settled.not_isOf_next h.reachable)
  rw [(start_arrives h hadm hthere hok).mem_iff]
  exact List.mem_cons_self

/-- Where all is at rest and both targets are there, take two starts of batches with ports of their
own at IPv4 addresses. If they succeed one after the other, so they do in the other order, and it
comes to the same but for generations. -/
theorem starts_commute (h : sc.AtRest) {a b : Key} {as bs : List Tunnel} (hooksA hooksB : Hooks)
    (has : ∀ t ∈ as, t.IsPlain) (hbs : ∀ t ∈ bs, t.IsPlain)
    (ha : sc.doomed.lookup a = none) (hb : sc.doomed.lookup b = none) {replyA replyB : Reply}
    (hfirst : (sc.performOne (.start a as hooksA)).2 = .ok replyA)
    (hsecond : ((sc.performOne (.start a as hooksA)).1.performOne (.start b bs hooksB)).2 =
      .ok replyB) :
    let ab := (sc.performOne (.start a as hooksA)).1.performOne (.start b bs hooksB)
    let first := sc.performOne (.start b bs hooksB)
    let ba := first.1.performOne (.start a as hooksA)
    (∃ v, first.2 = .ok (.view v) ∧ v.undated = ⟨0, b, bs, .active⟩) ∧
      (∃ v, ba.2 = .ok (.view v) ∧ v.undated = ⟨0, a, as, .active⟩) ∧
      ab.1.system.world.Alike ba.1.system.world := by
  intro ab first ba
  have hrestA := performOne_atRest h (.start a as hooksA)
  have hrestB := performOne_atRest h (.start b bs hooksB)
  have hjoinsA := start_joins h ha hfirst
  have hjoinsAB := start_joins hrestA (by rw [performOne_doomed, hb]) hsecond
  have hfitsA := (start_fits h has hooksA).mp ⟨replyA, hfirst⟩
  have hfitsAB := (start_fits hrestA hbs hooksB).mp ⟨replyB, hsecond⟩
  -- the second one fits without the first, and then the first one after it
  obtain ⟨reply, hok⟩ := (start_fits h hbs hooksB).mpr (hfitsAB.before hjoinsA)
  have hjoinsB := start_joins h hb hok
  have hfitsBA : (sc.performOne (.start b bs hooksB)).1.system.world.Fits a as :=
    hfitsA.swap hjoinsA hfitsAB hjoinsB has hbs
  obtain ⟨reply', hok'⟩ := (start_fits hrestB has hooksA).mpr hfitsBA
  have hjoinsBA := start_joins hrestB (by rw [performOne_doomed, ha]) hok'
  obtain ⟨hadmA, -⟩ := start_succeeded h hfirst
  obtain ⟨hadmAB, -⟩ := start_succeeded hrestA hsecond
  obtain ⟨hadmB, -, rfl⟩ := start_succeeded h hok
  obtain ⟨hadmBA, -, rfl⟩ := start_succeeded hrestB hok'
  have hrestAB := performOne_atRest hrestA (.start b bs hooksB)
  have hrestBA := performOne_atRest hrestB (.start a as hooksA)
  have hforeignAB := (start_elsewhere hrestA hadmAB hooksB).foreign.trans
    (start_elsewhere h hadmA hooksA).foreign
  have hforeignBA := (start_elsewhere hrestB hadmBA hooksA).foreign.trans
    (start_elsewhere h hadmB hooksB).foreign
  refine ⟨⟨_, hok, rfl⟩, ⟨_, hok', rfl⟩, ?_⟩
  refine hrestAB.settled.alike_of_joins hrestAB.reachable hrestBA.settled hrestBA.reachable hjoinsA
    hjoinsAB hjoinsB hjoinsBA ?_ ?_ (hforeignBA.trans hforeignAB.symm)
  · rw [View.undated_newEntry, View.undated_newEntry]
  · rw [View.undated_newEntry, View.undated_newEntry]

/-- A registry with two places left, beside a forwarder and a port that another program holds. -/
def twoPlaces : Scenario :=
  (unused 3 .loopbackOnly 1000 false).play [.hold "127.0.0.1" 9000,
    .perform (.start ⟨"default/db", "app"⟩ [⟨"127.0.0.1", 5432, 5432⟩] {})]

/-- Two tunnels, one of them on the held port but at another address. -/
def webBatch : List Tunnel := [⟨"0.0.0.0", 8080, 80⟩, ⟨"127.0.0.2", 9000, 90⟩]

theorem webBatch_plain : ∀ t ∈ webBatch, t.IsPlain := by
  intro t ht
  simp only [webBatch, List.mem_cons, List.not_mem_nil, or_false] at ht
  rcases ht with rfl | rfl
  · exact ⟨⟨.wildcard, by decide⟩, by decide⟩
  · exact ⟨⟨⟨127, 0, 0, 2⟩, by decide⟩, by decide⟩

/-- Two starts that take the last places. -/
def webStart : Operation := .start ⟨"default/web", "app"⟩ webBatch {}

def apiStart : Operation := .start ⟨"default/api", "app"⟩ [⟨"localhost", 8081, 80⟩] {}

/-- The last two places can be taken in either order. -/
theorem last_places_commute :
    twoPlaces.AtRest ∧
      (twoPlaces.performOne webStart).2 =
        .ok (.view ⟨2, ⟨"default/web", "app"⟩, webBatch, .active⟩) ∧
      ((twoPlaces.performOne webStart).1.performOne apiStart).2 =
        .ok (.view ⟨3, ⟨"default/api", "app"⟩, [⟨"localhost", 8081, 80⟩], .active⟩) ∧
      ((twoPlaces.performOne webStart).1.performOne apiStart).1.system.world.Alike
        ((twoPlaces.performOne apiStart).1.performOne webStart).1.system.world := by
  have hrest : twoPlaces.AtRest := play_atRest 3 .loopbackOnly 1000 false _
  have hlocal : ∀ t ∈ [(⟨"localhost", 8081, 80⟩ : Tunnel)], t.IsPlain := by
    intro t ht
    rw [List.mem_singleton.mp ht]
    exact ⟨⟨.localhost, by decide⟩, by decide⟩
  have hfirst : (twoPlaces.performOne webStart).2 =
      .ok (.view ⟨2, ⟨"default/web", "app"⟩, webBatch, .active⟩) := rfl
  have hsecond : ((twoPlaces.performOne webStart).1.performOne apiStart).2 =
      .ok (.view ⟨3, ⟨"default/api", "app"⟩, [⟨"localhost", 8081, 80⟩], .active⟩) := rfl
  exact ⟨hrest, hfirst, hsecond,
    (starts_commute hrest {} {} webBatch_plain hlocal rfl rfl hfirst hsecond).2.2⟩

end Scenario
end PortForward
