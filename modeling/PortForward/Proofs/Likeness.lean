/-
# Alike but for generations

Two runs that differ in what came first give their forwarders different generations. Apart from
these they may come to the same: the same keys, tunnels and statuses in the list, and the same listeners.
Of settled registries it is enough to compare the lists and the listeners of other programs; the
listeners of forwarders follow from their tunnels.

* `View.undated`, `Listener.undated` : what they are without the generation;
* `World.Alike` : the same but for generations;
* `Settled.alike` : when settled registries are.
-/
import PortForward.Proofs.Elsewhere
import PortForward.Proofs.KeyOrder

namespace PortForward

/-- A forwarder without its generation. -/
def View.undated (v : View) : View := { v with generation := 0 }

/-- A new forwarder that has become active differs from another one of its key and batch by the
generation only. -/
theorem View.undated_newEntry (r : Registry) (key : Key) (batch : List Tunnel) (stopHook : Bool) :
    (r.newEntry key batch stopHook).activated.view.undated = ⟨0, key, batch, .active⟩ := rfl

/-- The owner of a listener without the generation. -/
def Owner.undated : Owner → Owner
  | .tunnel _ t => .tunnel 0 t
  | .foreign address => .foreign address

/-- A listener without the generation of its owner. -/
def Listener.undated (l : Listener) : Listener := { l with owner := l.owner.undated }

/-- The owner is another program. -/
def Owner.isForeign (o : Owner) : Bool := o.tunnel?.isNone

/-- The listener of a tunnel, at the address that the text of the tunnel names. -/
def Platform.listener (p : Platform) (t : Tunnel) : Listener :=
  let address :=
    match p.resolve t.address with
    | .ok x => x.address
    | .error _ => .v4 .wildcard
  ⟨address, t.localPort, .tunnel 0 t⟩

/-- A list of listeners is that of its tunnels and of other programs, if each is where its tunnel
says. -/
theorem undated_perm {p : Platform} {ls : List Listener}
    (hplaced : ∀ l ∈ ls, ∀ g t, l.owner = .tunnel g t → l.undated = p.listener t) :
    (ls.map Listener.undated).Perm
      ((ls.filterMap (·.owner.tunnel?)).map (fun x => p.listener x.2) ++
      (ls.filter (·.owner.isForeign)).map Listener.undated) := by
  induction ls with
  | nil => exact List.Perm.refl _
  | cons l ls ih =>
    have hrest := ih fun k hk => hplaced k (List.mem_cons_of_mem l hk)
    cases howner : l.owner with
    | tunnel g t =>
      have hl := hplaced l List.mem_cons_self g t howner
      simp only [List.map_cons, List.filterMap_cons, howner, Owner.tunnel?_tunnel,
        List.filter_cons, Owner.isForeign, Option.isNone_some, Bool.false_eq_true, if_false, hl]
      exact hrest.cons _
    | foreign address =>
      simp only [List.map_cons, List.filterMap_cons, howner, Owner.tunnel?_foreign,
        List.filter_cons, Owner.isForeign, Option.isNone_none, if_true]
      exact (hrest.cons _).trans List.perm_middle.symm

namespace World

variable {G : Nat → Bool} {w w' w'' : World}

/-- The listeners of other programs. -/
def foreign (w : World) : List Listener := w.machine.listeners.filter (·.owner.isForeign)

/-- What is done to forwarders changes no listener of another program. -/
theorem Elsewhere.foreign (h : w.Elsewhere G w') : w'.foreign = w.foreign := by
  refine filter_eq_stricter (fun l hl => ?_) h.listeners
  cases howner : l.owner with
  | foreign address => rfl
  | tunnel g t =>
    rw [howner] at hl
    cases hl

/-- The list is the same and so are the listeners, but for generations. -/
structure Alike (w w' : World) : Prop where
  list : w'.registry.list.map View.undated = w.registry.list.map View.undated
  listeners : (w'.machine.listeners.map Listener.undated).Perm
    (w.machine.listeners.map Listener.undated)

end World

namespace System

variable {s t : System}

/-- Every listener of a forwarder is that of its tunnel. -/
theorem Reachable.undated (hr : s.Reachable) {l : Listener} (hl : l ∈ s.world.machine.listeners)
    {g : Nat} {x : Tunnel} (howner : l.owner = .tunnel g x) :
    l.undated = s.world.machine.platform.listener x := by
  obtain ⟨hport, zone, hresolve⟩ := hr.placed l hl g x howner
  unfold Listener.undated Platform.listener
  rw [hresolve, howner, hport]
  rfl

/-- The listeners of a settled registry, but for generations: those of all listed tunnels, and those
of other programs. -/
theorem Settled.listeners_perm (h : s.Settled) (hr : s.Reachable) :
    (s.world.machine.listeners.map Listener.undated).Perm
      ((s.world.registry.list.map View.undated).flatMap
          (fun v => v.tunnels.map s.world.machine.platform.listener) ++
        s.world.foreign.map Listener.undated) := by
  have howned := (h.owned_perm hr).map fun x => s.world.machine.platform.listener x.2
  rw [List.map_flatMap] at howned
  simp only [List.map_map] at howned
  have hplaced := undated_perm fun l (hl : l ∈ s.world.machine.listeners) g x howner =>
    hr.undated hl howner
  refine hplaced.trans (List.Perm.append_right _ (howned.trans ?_))
  rw [List.flatMap_map]
  exact List.Perm.refl _

/-- Settled registries with the same list, on machines with the same other programs, have the same
listeners. -/
theorem Settled.alike (hs : s.Settled) (hr : s.Reachable) (ht : t.Settled) (htr : t.Reachable)
    (hplatform : t.world.machine.platform = s.world.machine.platform)
    (hlist : t.world.registry.list.map View.undated = s.world.registry.list.map View.undated)
    (hforeign : t.world.foreign = s.world.foreign) : s.world.Alike t.world where
  list := hlist
  listeners := by
    have hperm := ht.listeners_perm htr
    rw [hplatform, hlist, hforeign] at hperm
    exact hperm.trans (hs.listeners_perm hr).symm

/-- Lists with the same forwarders, but for generations, are in the same order. -/
theorem list_undated (hr : s.Reachable) (htr : t.Reachable)
    (h : (t.world.registry.list.map View.undated).Perm (s.world.registry.list.map View.undated)) :
    t.world.registry.list.map View.undated = s.world.registry.list.map View.undated := by
  have hsorted : ∀ {s : System}, s.Reachable → (s.world.registry.list.map View.undated).Pairwise
      fun v v' => v.key.before v'.key = true :=
    fun hr => List.pairwise_map.mpr (List.pairwise_map.mpr hr.sorted)
  exact Key.eq_of_perm View.key (hsorted htr) (hsorted hr) h

end System
end PortForward
