/-
# What the others notice

Something happens to some forwarders, told by their generations: one is started, some are removed,
the tasks of one fail. As long as no other forwarder has lost its target, and no report of another
one waits, what the schedule does besides is about these forwarders alone: all other entries stay as
they are, and so do all other listeners.

* `World.Elsewhere` : but for some forwarders, registry and machine are the same;
* `Call.Advances.elsewhere` : a call changes them only for what it starts;
* `Sheltered.step`, `Sheltered.scheduled` : who has no reason to leave stays as it is;
* `Settled.elsewhere` : what there is once the forwarders in question are gone.
-/
import PortForward.Proofs.Departures
import PortForward.Proofs.FailedStarts
import PortForward.Proofs.Reports

namespace PortForward

/-- Whoever is kept by a stricter test is kept by it alone. -/
theorem filter_stricter {α : Type} {p q : α → Bool} (h : ∀ x, q x = true → p x = true)
    (as : List α) : (as.filter p).filter q = as.filter q := by
  rw [List.filter_filter]
  refine List.filter_congr fun x _ => ?_
  cases hq : q x with
  | false => rfl
  | true => exact h x hq

/-- Lists that agree after a test agree after a stricter one. -/
theorem filter_eq_stricter {α : Type} {p q : α → Bool} (h : ∀ x, q x = true → p x = true)
    {as bs : List α} (heq : as.filter p = bs.filter p) : as.filter q = bs.filter q := by
  rw [← filter_stricter h as, heq, filter_stricter h]

/-- The listener belongs to one of these forwarders. -/
def Owner.isOf (G : Nat → Bool) : Owner → Bool
  | .tunnel g _ => G g
  | .foreign _ => false

namespace World

variable {G H : Nat → Bool} {w w' w'' : World} {g : Nat} {u : Task}

/-- From the one world to the other, nothing has changed in registry and machine but the entries and
the listeners of these forwarders. -/
structure Elsewhere (G : Nat → Bool) (w w' : World) : Prop where
  entries : w'.registry.entries.filter (fun e => !G e.generation) =
    w.registry.entries.filter fun e => !G e.generation
  limit : w'.registry.limit = w.registry.limit
  platform : w'.machine.platform = w.machine.platform
  listeners : w'.machine.listeners.filter (fun l => !l.owner.isOf G) =
    w.machine.listeners.filter fun l => !l.owner.isOf G

namespace Elsewhere

theorem refl (G : Nat → Bool) (w : World) : w.Elsewhere G w := ⟨rfl, rfl, rfl, rfl⟩

theorem trans (h : w.Elsewhere G w') (h' : w'.Elsewhere G w'') : w.Elsewhere G w'' where
  entries := h'.entries.trans h.entries
  limit := h'.limit.trans h.limit
  platform := h'.platform.trans h.platform
  listeners := h'.listeners.trans h.listeners

/-- The listeners of others are there or not, as they were before. -/
theorem mem_listeners (h : w.Elsewhere G w') {l : Listener} (hl : l.owner.isOf G = false) :
    l ∈ w'.machine.listeners ↔ l ∈ w.machine.listeners := by
  have hmem := congrArg (l ∈ ·) h.listeners
  simpa only [List.mem_filter, hl, Bool.not_false, and_true, eq_iff_iff] using hmem

/-- What has not changed but for some has not changed but for more. -/
theorem mono (h : w.Elsewhere G w') (hGH : ∀ g, G g = true → H g = true) : w.Elsewhere H w' where
  entries := by
    refine filter_eq_stricter (fun e he => ?_) h.entries
    cases hG : G e.generation with
    | false => rfl
    | true => rw [hGH _ hG] at he; cases he
  limit := h.limit
  platform := h.platform
  listeners := by
    refine filter_eq_stricter (fun l hl => ?_) h.listeners
    cases howner : l.owner with
    | foreign address => rfl
    | tunnel g t =>
      rw [howner] at hl
      cases hG : G g with
      | false => simp [Owner.isOf, hG]
      | true => simp [Owner.isOf, hGH _ hG] at hl

/-- The entries of all but one forwarder decide about those of all but several. -/
theorem of_others (hg : G g = true)
    (hentries : w'.registry.entries.filter (·.generation != g) =
      w.registry.entries.filter (·.generation != g))
    (hlimit : w'.registry.limit = w.registry.limit) (hmachine : w'.machine = w.machine) :
    w.Elsewhere G w' where
  entries := by
    refine filter_eq_stricter (fun e he => ?_) hentries
    rw [bne_iff_ne]
    rintro rfl
    rw [hg] at he
    cases he
  limit := hlimit
  platform := by rw [hmachine]
  listeners := by rw [hmachine]

/-- To close listeners of these forwarders changes no other one. -/
theorem of_close (gone : Owner → Bool) (hgone : ∀ o, gone o = true → o.isOf G = true)
    (hregistry : w'.registry = w.registry) (hmachine : w'.machine = w.machine.close gone) :
    w.Elsewhere G w' := by
  refine ⟨by rw [hregistry], by rw [hregistry], by rw [hmachine]; rfl, ?_⟩
  rw [hmachine]
  refine filter_stricter (fun l hl => ?_) w.machine.listeners
  cases hclosed : gone l.owner with
  | false => rfl
  | true => rw [hgone _ hclosed] at hl; cases hl

/-- To open a listener of one of these forwarders changes no other one. -/
theorem withListener (hg : G g = true) (t : Tunnel) (x : Net.IpAddress) :
    w.Elsewhere G (w.withListener g t x) := by
  refine ⟨rfl, rfl, rfl, ?_⟩
  simp [World.withListener, List.filter_append, Owner.isOf, hg]

/-- To close the listeners that the start of one of these forwarders holds changes no other one. -/
theorem drop (hg : G g = true) (bound : List Tunnel) : w.Elsewhere G (w.drop g bound) := by
  refine of_close (boundBy g bound) (fun o ho => ?_) rfl rfl
  cases o with
  | tunnel f t => rw [Owner.isOf, beq_iff_eq.mp (Bool.and_eq_true_iff.mp ho).1, hg]
  | foreign address => cases ho

/-- A task that ends closes a listener of its own forwarder, or none if it watches a target. -/
theorem endTask (hu : G u.generation = true ∨ u.role = .monitor) :
    w.Elsewhere G (w.endTask u) := by
  refine of_close (heldBy u) (fun o ho => ?_) rfl rfl
  cases o with
  | tunnel g t =>
    obtain ⟨hg, hrole⟩ := heldBy_tunnel.mp ho
    rcases hu with hu | hu
    · rw [Owner.isOf, ← hg, hu]
    · rw [hu] at hrole
      cases hrole
  | foreign address =>
    unfold heldBy at ho
    split at ho
    · contradiction
    · cases ho

/-- A new forwarder changes no other entry. -/
theorem register (hg : G w.registry.next = true) (key : Key) (batch : List Tunnel)
    (stopHook : Bool) : w.Elsewhere G (w.register key batch stopHook) :=
  ⟨Registry.insertSorted_filter (by simp [hg]) _, rfl, rfl, rfl⟩

/-- To remove some forwarders changes no other entry. -/
theorem remove {p : Key → Bool}
    (hp : ∀ e ∈ w.registry.entries, p e.key = true → G e.generation = true) :
    w.Elsewhere G (w.remove p).2 := by
  refine ⟨?_, rfl, rfl, rfl⟩
  show (w.registry.entries.filter fun e => !p e.key).filter _ = _
  rw [List.filter_filter]
  refine List.filter_congr fun e he => ?_
  cases hk : p e.key with
  | false => simp
  | true => simp [hp e he hk]

end Elsewhere
end World

namespace Call

variable {G : Nat → Bool} {w w' : World} {c d : Call}

/-- A call that goes on changes nothing but for the forwarder that it starts. -/
theorem Advances.elsewhere (h : Advances w c w' d) (hs : w.registry.Sound)
    (hown : ∀ g, c.own? = some g → G g = true) : w.Elsewhere G w' := by
  cases h with
  | bound _ => exact .withListener (hown _ rfl) _ _
  | committed hr =>
    obtain ⟨e, -, -, -, -, hregistry⟩ := Registry.commit_eq_some hr
    exact .of_others (hown _ rfl) (System.others_commit hs hr) (by rw [hregistry]; rfl) rfl
  | dropped => exact .drop (hown _ rfl) _
  | evicted hev =>
    obtain ⟨-, -, -, rfl⟩ := Registry.evict_eq_some hev
    exact .of_others (hown _ rfl) (System.others_evict hs hev) rfl rfl
  | hooked => split <;> exact ⟨rfl, rfl, rfl, rfl⟩
  | ended => split <;> exact ⟨rfl, rfl, rfl, rfl⟩
  | _ => exact ⟨rfl, rfl, rfl, rfl⟩

/-- So does a call that waits no longer. -/
theorem giveUp_elsewhere (G : Nat → Bool) (w : World) (c : Call) :
    w.Elsewhere G (c.giveUp w).1 := by
  cases c <;> exact ⟨rfl, rfl, rfl, rfl⟩

end Call

namespace System

variable {G : Nat → Bool} {s t : System} {a : Action} {e x : Entry} {u : Task} {k : Nat}
variable {gone : List (Key × String)} {calls : List Nat}

/-- But for these forwarders, nobody has a reason to leave or to come: no report waits of any other
one that is registered, no other one has lost its target, and no other one is being started. Of
others that were told to end, only those who watch a target are left. -/
structure Sheltered (G : Nat → Bool) (gone : List (Key × String)) (s : System) : Prop where
  reports : ∀ q ∈ s.world.reports, q.generation ∈ s.world.cancelled ∨ G q.generation = true
  tasks : ∀ u ∈ s.world.tasks, u.generation ∈ s.world.cancelled →
    G u.generation = true ∨ u.role = .monitor
  targets : ∀ e ∈ s.world.registry.entries, G e.generation = true ∨ gone.lookup e.key = none
  threads : ∀ c ∈ s.threads, ∀ g, c.own? = some g → G g = true

/-- In a settled system everybody is sheltered who has not lost its target. -/
theorem Settled.sheltered (h : s.Settled) (hr : s.Reachable)
    (htargets : ∀ e ∈ s.world.registry.entries,
      G e.generation = true ∨ gone.lookup e.key = none) : s.Sheltered G gone := by
  refine ⟨?_, ?_, htargets, ?_⟩
  · intro q hq
    rw [h.reports] at hq
    cases hq
  · exact fun u hu htold => Or.inr (hr.staffed.stalled u hu (h.cleared u hu htold))
  · intro c hc g hg
    obtain ⟨answer, rfl⟩ := h.idle c hc
    cases hg

/-- The action is one of what runs already, and it lets no task fail but of these forwarders and of
those that were told to end. -/
structure Mild (G : Nat → Bool) (s : System) (a : Action) : Prop where
  own : a.isOwn = true
  fails : ∀ u reason, a = .fail u reason → u ∈ s.world.tasks →
    u.generation ∈ s.world.cancelled ∨ G u.generation = true

namespace Sheltered

/-- A task that ends is of one of these forwarders, or it watches a target. -/
theorem ending (h : s.Sheltered G gone) (hu : u ∈ s.world.tasks)
    (hends : u.generation ∈ s.world.cancelled ∨ G u.generation = true) :
    G u.generation = true ∨ u.role = .monitor :=
  hends.elim (h.tasks u hu) Or.inl

/-- Only these forwarders leave. -/
theorem removes (h : s.Sheltered G gone) (hr : s.Reachable) (ha : a.isOwn = true)
    (he : e ∈ s.world.registry.entries) {cause : Option Error} (hrem : Removes e s a cause) :
    G e.generation = true := by
  cases hrem with
  | stop => cases ha
  | stopPath => cases ha
  | stopAll => cases ha
  | unbound hi => exact h.threads _ (List.mem_cons_of_mem _ (List.mem_of_getElem? hi)) _ rfl
  | reported _ hreports =>
    rcases h.reports _ (hreports ▸ List.mem_cons_self) with htold | hG
    · exact absurd rfl ((hr.staffed.told _ htold).2 e he)
    · exact hG

/-- A report that is taken is of one of these forwarders, or of one that is not registered. -/
theorem reap (h : s.Sheltered G gone) (hr : s.Reachable) :
    s.world.Elsewhere G (s.step .reap).world := by
  by_cases htakes : ∃ q, TakesReport q s .reap
  · obtain ⟨q, hq⟩ := htakes
    rcases h.reports q hq.mem with htold | hG
    · rw [hq.stale (hr.staffed.told _ htold).2]
      exact ⟨rfl, rfl, rfl, rfl⟩
    · rw [hq.step_eq]
      have htaken := Call.takes_ofReport { s.world with reports := s.world.reports.tail } q
      generalize Call.ofReport { s.world with reports := s.world.reports.tail } q = p at htaken
      obtain ⟨w, c⟩ := p
      cases htaken with
      | evicted hev =>
        obtain ⟨-, -, -, rfl⟩ := Registry.evict_eq_some hev
        exact .of_others hG (others_evict hr.sound hev) rfl rfl
      | stale _ => exact ⟨rfl, rfl, rfl, rfl⟩
  · rw [step_reap_idle htakes]
    exact .refl G s.world

/-- Nothing changes elsewhere. -/
theorem elsewhere (h : s.Sheltered G gone) (hr : s.Reachable) (ha : Mild G s a) :
    s.world.Elsewhere G (s.step a).world := by
  have hown := ha.own
  -- a thread that goes on does so for one of these forwarders, or for none
  have goes : ∀ (k : Nat) (c : Call), s.threads[k]? = some c →
      s.world.Elsewhere G (c.advance s.world).1 := fun k c hc =>
    (Call.advances_advance s.world c).elsewhere hr.sound (h.threads c (List.mem_of_getElem? hc))
  have ends : ∀ u ∈ s.world.tasks,
      u.generation ∈ s.world.cancelled ∨ G u.generation = true →
      s.world.Elsewhere G (s.world.endTask u) := fun u hu hends => .endTask (h.ending hu hends)
  cases a with
  | advance i =>
    rw [System.step]
    rcases withCall_cases s i Call.advance with h | ⟨c, hc, h⟩
    · rw [h]
      exact .refl G s.world
    · rw [h, put_world]
      exact goes (i + 1) c hc
  | giveUp i =>
    rw [System.step]
    rcases withCall_cases s i Call.giveUp with h | ⟨c, -, h⟩
    · rw [h]
      exact .refl G s.world
    · rw [h, put_world]
      exact Call.giveUp_elsewhere G s.world c
  | reap => exact h.reap hr
  | advanceReaper => exact goes 0 s.reaper (threads_zero s)
  | reaperGivesUp => exact Call.giveUp_elsewhere G s.world s.reaper
  | close u =>
    rw [System.step]
    split
    · rename_i hguard
      rw [Bool.and_eq_true, List.contains_iff_mem, List.contains_iff_mem] at hguard
      exact ends u hguard.1 (Or.inl hguard.2)
    · exact .refl G s.world
  | fail u reason =>
    rw [System.step]
    split
    · rename_i hu
      rw [List.contains_iff_mem] at hu
      have hended := ends u hu (ha.fails u reason rfl hu)
      exact ⟨hended.entries, hended.limit, hended.platform, hended.listeners⟩
    · exact .refl G s.world
  | die u =>
    rw [System.step]
    split
    · rename_i hguard
      rw [Bool.and_eq_true, List.contains_iff_mem] at hguard
      have hended := ends u hguard.1 (Or.inl (hr.staffed.aborted u hguard.1 hguard.2))
      exact ⟨hended.entries, hended.limit, hended.platform, hended.listeners⟩
    · exact .refl G s.world
  | _ => cases hown

/-- Whose tasks were told to end by an action is one of these forwarders, or was told before. -/
theorem told (h : s.Sheltered G gone) (hr : s.Reachable) (ha : a.isOwn = true) {g : Nat}
    (hg : g ∈ (s.step a).world.cancelled) : g ∈ s.world.cancelled ∨ G g = true := by
  obtain ⟨lost, hcancelled, hloses⟩ := step_cancelled hr.sound a
  rw [hcancelled, List.mem_append] at hg
  rcases hg with hg | hg
  · obtain ⟨x, hx, rfl⟩ := List.mem_map.mp hg
    obtain ⟨hmem, hgone⟩ := (hloses x).mp hx
    rcases (move_step s a).fate hr.sound hr.single hmem with hkept | ⟨-, hkept⟩ | ⟨cause, hrem, -⟩
    · exact absurd rfl (hgone x hkept)
    · exact absurd rfl (hgone x.activated hkept)
    · exact Or.inr (h.removes hr ha hmem hrem)
  · exact Or.inl hg

/-- A change by what runs already leaves everybody sheltered. -/
theorem step (h : s.Sheltered G gone) (hr : s.Reachable) (ha : Mild G s a) :
    (s.step a).Sheltered G gone := by
  have hmove := move_step s a
  have request : ∀ r, a ≠ .request r := by
    rintro r rfl
    cases ha.own
  refine ⟨?_, ?_, ?_, ?_⟩
  · intro q hq
    rcases step_report_from hq with hq | ⟨u, hu⟩
    · exact (h.reports q hq).imp_left (cancelled_step hr.sound a)
    · rw [hu.of_task.1]
      cases hu with
      | failed hu reason => exact (ha.fails u reason rfl hu).imp_left (cancelled_step hr.sound _)
      | died hu haborted =>
        exact Or.inl (cancelled_step hr.sound _ (hr.staffed.aborted u hu haborted))
  · intro u hu htold
    rcases h.told hr ha.own htold with htold | hG
    · -- who was told before fills no new post
      have hold := post_of_step hr (p := u.post) htold (List.mem_map_of_mem hu)
      obtain ⟨v, hv, hpost⟩ := List.mem_map.mp hold
      have hg : v.generation = u.generation := congrArg (·.1) hpost
      have hrole : v.role = u.role := congrArg (·.2.2) hpost
      rw [← hg, ← hrole]
      exact h.tasks v hv (hg ▸ htold)
    · exact Or.inl hG
  · intro e he
    rcases hmove.entry hr.sound hr.single he with he | ⟨_, ha', -⟩ | ⟨d, hd, -, rfl⟩
    · exact h.targets e he
    · exact absurd ha' (request _)
    · exact h.targets d hd
  · intro d hd g hg
    obtain ⟨i, hi⟩ := List.getElem?_of_mem hd
    obtain ⟨w, -, ho⟩ := hmove.origin hi
    cases ho with
    | stays hc => exact h.threads d (List.mem_of_getElem? hc) g hg
    | begins ha' _ => exact absurd ha' (request _)
    | advances _ hc hadv => exact h.threads _ (List.mem_of_getElem? hc) g (hadv.own? hg)
    | givesUp _ _ => cases hg
    | takes _ _ _ ht => cases ht <;> cases hg

/-- What the schedule does lets none of the others fail. -/
theorem mild (h : s.Sheltered G gone) (hr : s.Reachable) (ha : a.Due calls gone) : Mild G s a := by
  refine ⟨ha.isOwn, ?_⟩
  rintro u reason rfl hu
  cases ha with
  | fail hrole hlost =>
    rcases hr.staffed.forwarder hu with htold | ⟨e, he, -, hg, hk, -⟩
    · exact Or.inl htold
    · rcases h.targets e he with hG | hthere
      · exact Or.inr (hg ▸ hG)
      · rw [hk, hlost] at hthere
        cases hthere

/-- With every change that the schedule makes, the others are left alone. -/
theorem due {w : World} (h : s.Sheltered G gone) (helse : w.Elsewhere G s.world) (hr : s.Reachable)
    (ha : a.Due calls gone) :
    (s.step a).Sheltered G gone ∧ w.Elsewhere G (s.step a).world := by
  have hmild := h.mild hr ha
  exact ⟨h.step hr hmild, helse.trans (h.elsewhere hr hmild)⟩

/-- Whatever the schedule does, the others are left alone. -/
theorem scheduled (h : s.Sheltered G gone) (hr : s.Reachable) (hst : Scheduled calls gone s t) :
    t.Sheltered G gone ∧ s.world.Elsewhere G t.world :=
  hst.keeps (P := fun t => t.Sheltered G gone ∧ s.world.Elsewhere G t.world)
    (fun _ _ ht ha h => h.1.due h.2 (ht.reachable hr) ha) ⟨h, .refl G s.world⟩

/-- One mild change after the other leaves the others alone, -/
theorem steps {β : Type} {act : β → Action} (h : s.Sheltered G gone) (hr : s.Reachable)
    (bs : List β) (hmild : ∀ b ∈ bs, ∀ s, Mild G s (act b)) :
    (bs.foldl (fun s b => s.step (act b)) s).Sheltered G gone ∧
      s.world.Elsewhere G (bs.foldl (fun s b => s.step (act b)) s).world := by
  induction bs generalizing s with
  | nil => exact ⟨h, .refl G s.world⟩
  | cons b bs ih =>
    have hfirst := hmild b List.mem_cons_self s
    obtain ⟨hrest, helse⟩ := ih (h.step hr hfirst) (hr.run [act b])
      fun c hc => hmild c (List.mem_cons_of_mem b hc)
    exact ⟨hrest, (h.elsewhere hr hfirst).trans helse⟩

/-- as when tasks end that were given up, -/
theorem reapAborted (h : s.Sheltered G gone) (hr : s.Reachable) :
    s.reapAborted.Sheltered G gone ∧ s.world.Elsewhere G s.reapAborted.world :=
  h.steps hr s.world.tasks fun _ _ _ => ⟨rfl, by simp⟩

/-- and when tasks of the forwarders in question fail. -/
theorem failing (h : s.Sheltered G gone) (hr : s.Reachable) (ts : List Task)
    (hts : ∀ u ∈ ts, G u.generation = true) (reason : String) :
    (ts.foldl (fun s u => s.step (.fail u reason)) s).Sheltered G gone ∧
      s.world.Elsewhere G (ts.foldl (fun s u => s.step (.fail u reason)) s).world := by
  refine h.steps hr ts fun u hu s => ⟨rfl, ?_⟩
  rintro v _ ⟨⟩ -
  exact Or.inr (hts u hu)

end Sheltered

/-! ## What is left -/

/-- Once none of these forwarders is registered and everything has settled, the entries and the
listeners are those that all others had. -/
theorem Settled.elsewhere {w : World} (h : t.Settled) (hr : t.Reachable)
    (hgone : ∀ e ∈ t.world.registry.entries, G e.generation = false)
    (helse : w.Elsewhere G t.world) :
    t.world.registry.entries = w.registry.entries.filter (fun e => !G e.generation) ∧
      t.world.machine.listeners = w.machine.listeners.filter fun l => !l.owner.isOf G := by
  rw [← helse.entries, ← helse.listeners]
  constructor
  · refine (List.filter_eq_self.mpr fun e he => ?_).symm
    rw [hgone e he]
    rfl
  · refine (List.filter_eq_self.mpr fun l hl => ?_).symm
    cases howner : l.owner with
    | foreign address => rfl
    | tunnel g x =>
      obtain ⟨e, he, rfl, -⟩ := (h.mem_owned hr).mp (World.mem_owned.mpr ⟨l, hl, howner⟩)
      rw [Owner.isOf, hgone e he]
      rfl

/-- If there were none of them before either, everything is as it was. -/
theorem Settled.unchanged {w : World} (h : t.Settled) (hr : t.Reachable)
    (helse : w.Elsewhere G t.world)
    (hgone : ∀ e ∈ t.world.registry.entries, G e.generation = false)
    (hentries : ∀ e ∈ w.registry.entries, G e.generation = false)
    (hlisteners : ∀ l ∈ w.machine.listeners, l.owner.isOf G = false) :
    t.world.registry.entries = w.registry.entries ∧ t.world.machine = w.machine := by
  obtain ⟨hregistry, hmachine⟩ := h.elsewhere hr hgone helse
  rw [List.filter_eq_self.mpr fun e he => by rw [hentries e he]; rfl] at hregistry
  rw [List.filter_eq_self.mpr fun l hl => by rw [hlisteners l hl]; rfl] at hmachine
  refine ⟨hregistry, ?_⟩
  show t.world.machine = ⟨w.machine.platform, w.machine.listeners⟩
  rw [← helse.platform, ← hmachine]

/-- No listener of a settled registry is of a generation to come. -/
theorem Settled.not_isOf_next (h : t.Settled) (hr : t.Reachable) :
    ∀ l ∈ t.world.machine.listeners, l.owner.isOf (· == t.world.registry.next) = false := by
  intro l hl
  cases howner : l.owner with
  | foreign address => rfl
  | tunnel g x =>
    obtain ⟨d, hd, rfl, -⟩ := (h.mem_owned hr).mp (World.mem_owned.mpr ⟨l, hl, howner⟩)
    exact beq_eq_false_iff_ne.mpr (Nat.ne_of_lt (hr.sound.old d hd))

end System
end PortForward
