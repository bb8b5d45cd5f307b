/-
# Who holds the listeners

A listener of a forwarder is held by the start that bound it until the forwarder becomes active, or
until that start closes it; from then on each task holds the listener of its own tunnel. No other
listener of a forwarder is open, none of them twice, and each is where its tunnel says.

* `Housed.step`, `Reachable.housed` : who holds which listeners, at every moment of every run;
* `Reachable.unbound_free` : a start has no listener yet for the tunnels that are left to bind;
* `Reachable.placed` : a listener has the port and the address of its tunnel.
-/
import PortForward.Proofs.Sockets
import PortForward.Proofs.Staffing

namespace PortForward

namespace World

variable {w w' : World} {g : Nat} {x : Tunnel}

/-- Some task carries this tunnel of this forwarder. -/
def Carries (w : World) (g : Nat) (x : Tunnel) : Prop :=
  ∃ p ∈ w.posts, p.1 = g ∧ p.2.2 = .tunnel x

/-- A task carries its own tunnel. -/
theorem carries_of_task {t : Task} (ht : t ∈ w.tasks) (hrole : t.role = .tunnel x) :
    w.Carries t.generation x := ⟨t.post, List.mem_map_of_mem ht, rfl, hrole⟩

/-- A tunnel that is carried is carried by a task. -/
theorem Carries.task (h : w.Carries g x) : ∃ t ∈ w.tasks, t.generation = g ∧ t.role = .tunnel x := by
  obtain ⟨p, hp, hg, hrole⟩ := h
  obtain ⟨t, ht, rfl⟩ := List.mem_map.mp hp
  exact ⟨t, ht, hg, hrole⟩

/-- When a forwarder becomes active, what was carried before still is, and so are its own tunnels. -/
theorem carries_withActive {r : Registry} {e : Entry} :
    (w.withActive r e.activated.view e.generation e.tunnels).Carries g x ↔
      w.Carries g x ∨ (g = e.generation ∧ x ∈ e.tunnels) := by
  unfold Carries
  rw [posts_withActive]
  constructor
  · rintro ⟨p, hp, hg, hrole⟩
    rcases List.mem_append.mp hp with hp | hp
    · exact Or.inl ⟨p, hp, hg, hrole⟩
    · obtain ⟨hpe, -, hroles⟩ := Entry.mem_posts.mp hp
      rw [hrole] at hroles
      refine Or.inr ⟨hg.symm.trans hpe, ?_⟩
      simpa [Entry.roles] using hroles
  · rintro (⟨p, hp, hg, hrole⟩ | ⟨rfl, hx⟩)
    · exact ⟨p, List.mem_append_left _ hp, hg, hrole⟩
    · refine ⟨(e.generation, e.key, .tunnel x), List.mem_append_right _ ?_, rfl, rfl⟩
      exact Entry.mem_posts.mpr ⟨rfl, rfl, by simp [Entry.roles, hx]⟩

end World

namespace System

variable {s s' : System} {a : Action} {g k : Nat} {x : Tunnel} {c d : Call} {w : World}
variable {st st' : Start} {bound bound' left : List Tunnel}

/-! ## Threads that hold listeners -/

/-- The thread that was put somewhere is there. -/
theorem mem_put (hc : s.threads[k]? = some c) : d ∈ (s.put k w d).threads := by
  rw [threads_put]
  exact List.mem_set (List.getElem?_eq_some_iff.mp hc).1 d

/-- All other threads are still there. -/
theorem mem_put_of_ne (hc : s.threads[k]? = some c) {y : Call} (hy : y ∈ s.threads) (hne : y ≠ c) :
    y ∈ (s.put k w d).threads := by
  obtain ⟨i, hi⟩ := List.getElem?_of_mem hy
  have hik : k ≠ i := by
    rintro rfl
    rw [hc, Option.some.injEq] at hi
    exact hne hi.symm
  refine List.mem_of_getElem? (i := i) ?_
  rw [threads_put, List.getElem?_set_ne hik]
  exact hi

/-- Some start may hold listeners, for these tunnels of its forwarder. -/
def Holds (s : System) (st : Start) (bound : List Tunnel) : Prop :=
  ∃ c ∈ s.threads, c.bound? = some (st, bound)

/-- A start that may hold listeners has not started its forwarder yet. -/
theorem Holds.unstarted (h : s.Holds st bound) (hr : s.Reachable) : s.Unstarted st.generation := by
  obtain ⟨c, hc, hb⟩ := h
  obtain ⟨i, hi⟩ := List.getElem?_of_mem hc
  exact hr.opening_unstarted hi (Call.opening?_of_bound? hb)

/-- Only one start may hold listeners of a forwarder. -/
theorem Single.holds_unique (h : s.Single) (h₁ : s.Holds st bound) (h₂ : s.Holds st' bound')
    (hg : st'.generation = st.generation) : st' = st ∧ bound' = bound := by
  obtain ⟨c, hc, hcb⟩ := h₁
  obtain ⟨d, hd, hdb⟩ := h₂
  obtain ⟨i, hi⟩ := List.getElem?_of_mem hc
  obtain ⟨j, hj⟩ := List.getElem?_of_mem hd
  have hcown := Call.own?_of_opening? (Call.opening?_of_bound? hcb)
  have hdown := Call.own?_of_opening? (Call.opening?_of_bound? hdb)
  obtain rfl := h.unique i j c d _ hi hj hcown (hg ▸ hdown)
  rw [hi, Option.some.injEq] at hj
  subst hj
  rw [hcb, Option.some.injEq, Prod.mk.injEq] at hdb
  exact ⟨hdb.1.symm, hdb.2.symm⟩

/-- After a move of a start that may hold listeners, it holds what it says; others hold theirs. -/
theorem Single.holds_put (h : s.Single) (hc : s.threads[k]? = some c)
    (hb : c.bound? = some (st, bound)) :
    (s.put k w d).Holds st' bound' ↔
      d.bound? = some (st', bound') ∨ s.Holds st' bound' ∧ st'.generation ≠ st.generation := by
  constructor
  · rintro ⟨y, hy, hyb⟩
    obtain ⟨i, hi⟩ := List.getElem?_of_mem hy
    rcases of_threads_put hi with ⟨-, rfl⟩ | ⟨hik, hi⟩
    · exact Or.inl hyb
    · have hold : s.Holds st' bound' := ⟨y, List.mem_of_getElem? hi, hyb⟩
      refine Or.inr ⟨hold, fun hg => hik ?_⟩
      have hcown := Call.own?_of_opening? (Call.opening?_of_bound? hb)
      have hyown := Call.own?_of_opening? (Call.opening?_of_bound? hyb)
      exact h.unique i k y c _ hi hc (hg ▸ hyown) hcown
  · rintro (hd | ⟨⟨y, hy, hyb⟩, hne⟩)
    · exact ⟨d, mem_put hc, hd⟩
    · refine ⟨y, mem_put_of_ne hc hy ?_, hyb⟩
      rintro rfl
      rw [hb] at hyb
      cases hyb
      exact hne rfl

/-- What is held is held by this start, or stays held whatever becomes of this start. -/
theorem Single.mine_or_kept (h : s.Single) (hc : s.threads[k]? = some c)
    (hb : c.bound? = some (st, bound)) (hst : s.Holds st' bound') :
    (st' = st ∧ bound' = bound) ∨ ∀ w d, (s.put k w d).Holds st' bound' := by
  by_cases hg : st'.generation = st.generation
  · exact Or.inl (h.holds_unique ⟨c, List.mem_of_getElem? hc, hb⟩ hst hg)
  · exact Or.inr fun w d => (h.holds_put hc hb).mpr (Or.inr ⟨hst, hg⟩)

/-- A thread that still holds what it held changes nothing about who holds what. -/
theorem holds_put_same (hc : s.threads[k]? = some c) (hsame : d.bound? = c.bound?) :
    (s.put k w d).Holds st bound ↔ s.Holds st bound := by
  constructor
  · rintro ⟨y, hy, hyb⟩
    obtain ⟨i, hi⟩ := List.getElem?_of_mem hy
    rcases of_threads_put hi with ⟨-, rfl⟩ | ⟨-, hi⟩
    · exact ⟨c, List.mem_of_getElem? hc, hsame ▸ hyb⟩
    · exact ⟨y, List.mem_of_getElem? hi, hyb⟩
  · rintro ⟨y, hy, hyb⟩
    by_cases hyc : y = c
    · exact ⟨d, mem_put hc, by rw [hsame, ← hyc, hyb]⟩
    · exact ⟨y, mem_put_of_ne hc hy hyc, hyb⟩

/-- The tunnels that a start binds, and has bound, are different. -/
theorem Reachable.batch_nodup (h : s.Reachable) {i : Nat}
    (hc : s.threads[i]? = some (.binding st bound left)) : (bound ++ left).Nodup := by
  refine h.induction (P := fun s => ∀ i st bound left,
    s.threads[i]? = some (.binding st bound left) → (bound ++ left).Nodup) ?_ ?_ i st bound left hc
  · intro limit platform i st bound left hc
    cases threads_initial hc
  · intro s a ih i st bound left hd
    obtain ⟨w, -, ho⟩ := (move_step s a).origin hd
    cases ho with
    | stays hc => exact ih i st bound left hc
    | begins _ hb =>
      cases hb with
      | admitted hadm => exact (Registry.admissible_of_admission hadm).listenable.nodup
    | advances _ hc hadv =>
      cases hadv with
      | @bound _ before _ t _ _ =>
        rw [List.append_assoc]
        exact ih i st before (t :: left) hc
    | takes _ _ _ ht => cases ht

/-! ## The invariant -/

/-- Who holds which listeners of forwarders. -/
structure Housed (s : System) : Prop where
  /-- No tunnel is listened for twice. -/
  once : s.world.owned.Nodup
  /-- A listener is held by the start that bound it, or by the task of its tunnel. -/
  holder : ∀ g x, (g, x) ∈ s.world.owned →
    (∃ st bound, s.Holds st bound ∧ st.generation = g ∧ x ∈ bound) ∨ s.world.Carries g x
  /-- Every tunnel that is carried has its listener. -/
  carried : ∀ g x, s.world.Carries g x → (g, x) ∈ s.world.owned
  /-- A start has the listeners of the tunnels that it has bound. -/
  opened : ∀ st bound, s.Holds st bound → ∀ x ∈ bound, (st.generation, x) ∈ s.world.owned

theorem housed_initial (limit : Nat) (platform : Platform) : (initial limit platform).Housed := by
  refine ⟨?_, ?_, ?_, ?_⟩
  · exact List.nodup_nil
  · intro g x hx
    cases hx
  · rintro g x ⟨p, hp, -⟩
    cases hp
  · rintro st bound ⟨c, hc, hb⟩
    obtain ⟨i, hi⟩ := List.getElem?_of_mem hc
    rw [threads_initial hi] at hb
    cases hb

namespace Housed

/-- Where neither listeners nor tasks nor their holders change, neither does who holds what. -/
theorem same (h : s.Housed) (ho : s'.world.owned = s.world.owned)
    (hp : s'.world.posts = s.world.posts)
    (ht : ∀ st bound, s'.Holds st bound ↔ s.Holds st bound) : s'.Housed where
  once := ho ▸ h.once
  holder g x hx := by
    rw [ho] at hx
    rcases h.holder g x hx with ⟨st, bound, hst, hg⟩ | hcarries
    · exact Or.inl ⟨st, bound, (ht st bound).mpr hst, hg⟩
    · right
      unfold World.Carries
      rw [hp]
      exact hcarries
  carried g x hx := by
    unfold World.Carries at hx
    rw [hp] at hx
    rw [ho]
    exact h.carried g x hx
  opened st bound hst := by
    rw [ho]
    exact h.opened st bound ((ht st bound).mp hst)

/-- A start that has not bound a tunnel yet has no listener for it. -/
theorem free (h : s.Housed) (hr : s.Reachable) {t : Tunnel}
    (hc : s.threads[k]? = some (.binding st bound left)) (ht : t ∈ left) :
    (st.generation, t) ∉ s.world.owned := by
  have hholds : s.Holds st bound := ⟨_, List.mem_of_getElem? hc, rfl⟩
  intro howned
  rcases h.holder _ t howned with ⟨st', bound', hst, hg, hmem⟩ | hcarries
  · obtain ⟨rfl, rfl⟩ := hr.single.holds_unique hholds hst hg
    exact (List.nodup_append.mp (hr.batch_nodup hc)).2.2 t hmem t ht rfl
  · obtain ⟨u, hu, hg, -⟩ := hcarries.task
    exact (hholds.unstarted hr).tasks u hu hg

/-- A start that is admitted has bound nothing yet. -/
theorem admitted (h : s.Housed) {key : Key} {batch : List Tunnel} {startHook stopHook : Bool} :
    System.Housed ⟨s.world.register key batch stopHook,
      s.calls ++ [.binding ⟨s.world.registry.next, key, startHook⟩ [] batch], s.reaper⟩ := by
  have hold : ∀ y ∈ s.threads, y ∈ (⟨s.world.register key batch stopHook,
      s.calls ++ [.binding ⟨s.world.registry.next, key, startHook⟩ [] batch], s.reaper⟩ :
        System).threads := by
    intro y hy
    rw [threads, List.mem_cons] at hy ⊢
    exact hy.imp id (List.mem_append_left _)
  refine ⟨h.once, ?_, h.carried, ?_⟩
  · intro g x hx
    rcases h.holder g x hx with ⟨st, bound, ⟨c, hc, hb⟩, hg⟩ | hcarries
    · exact Or.inl ⟨st, bound, ⟨c, hold c hc, hb⟩, hg⟩
    · exact Or.inr hcarries
  · rintro st bound ⟨c, hc, hb⟩ x hx
    rw [threads, List.mem_cons, List.mem_append, List.mem_singleton, ← or_assoc] at hc
    rcases hc with hc | rfl
    · exact h.opened st bound ⟨c, List.mem_cons.mpr hc, hb⟩ x hx
    · cases hb
      cases hx

/-- A start that binds one more tunnel holds one more listener. -/
theorem bind (h : s.Housed) (hr : s.Reachable) {t : Tunnel} {address : Net.IpAddress}
    (hc : s.threads[k]? = some (.binding st bound (t :: left))) :
    (s.put k (s.world.withListener st.generation t address)
      (.binding st (bound ++ [t]) left)).Housed := by
  have hfree := h.free hr hc List.mem_cons_self
  refine ⟨?_, ?_, ?_, ?_⟩
  · rw [put_world, World.owned_withListener]
    refine List.nodup_append.mpr ⟨h.once, List.nodup_singleton _, ?_⟩
    rintro p hp q hq rfl
    rw [List.mem_singleton] at hq
    exact hfree (hq ▸ hp)
  · intro g x hx
    rw [put_world, World.owned_withListener, List.mem_append, List.mem_singleton] at hx
    have hmine : (s.put k (s.world.withListener st.generation t address)
        (.binding st (bound ++ [t]) left)).Holds st (bound ++ [t]) :=
      (hr.single.holds_put hc rfl).mpr (Or.inl rfl)
    rcases hx with hx | hx
    · rcases h.holder g x hx with ⟨st', bound', hst, hg, hmem⟩ | hcarries
      · rcases hr.single.mine_or_kept hc rfl hst with ⟨rfl, rfl⟩ | hkept
        · exact Or.inl ⟨st', _, hmine, hg, List.mem_append_left _ hmem⟩
        · exact Or.inl ⟨st', bound', hkept _ _, hg, hmem⟩
      · rw [put_world]
        exact Or.inr hcarries
    · cases hx
      exact Or.inl ⟨st, _, hmine, rfl, List.mem_append_right _ List.mem_cons_self⟩
  · intro g x hx
    rw [put_world] at hx ⊢
    rw [World.owned_withListener]
    exact List.mem_append_left _ (h.carried g x hx)
  · intro st' bound' hst x hx
    rw [put_world, World.owned_withListener, List.mem_append, List.mem_singleton]
    rcases (hr.single.holds_put hc rfl).mp hst with hmine | ⟨hold, -⟩
    · cases hmine
      rcases List.mem_append.mp hx with hx | hx
      · exact Or.inl (h.opened st bound ⟨_, List.mem_of_getElem? hc, rfl⟩ x hx)
      · exact Or.inr (by rw [List.mem_singleton.mp hx])
    · exact Or.inl (h.opened st' bound' hold x hx)

/-- A start that closes its listeners leaves those of others. -/
theorem drop (h : s.Housed) (hr : s.Reachable) {setback : Setback}
    (hc : s.threads[k]? = some (.dropping st bound setback)) :
    (s.put k (s.world.drop st.generation bound) (.releasing st setback)).Housed := by
  have hholds : s.Holds st bound := ⟨_, List.mem_of_getElem? hc, rfl⟩
  refine ⟨?_, ?_, ?_, ?_⟩
  · rw [put_world]
    exact h.once.sublist (World.owned_close_sublist _ _)
  · intro g x hx
    rw [put_world, World.mem_owned_drop] at hx
    rcases h.holder g x hx.1 with ⟨st', bound', hst, hg, hmem⟩ | hcarries
    · rcases hr.single.mine_or_kept hc rfl hst with ⟨rfl, rfl⟩ | hkept
      · -- its own listeners were all closed
        exact absurd ⟨hg.symm, hmem⟩ hx.2
      · exact Or.inl ⟨st', bound', hkept _ _, hg, hmem⟩
    · rw [put_world]
      exact Or.inr hcarries
  · intro g x hx
    rw [put_world] at hx ⊢
    rw [World.mem_owned_drop]
    refine ⟨h.carried g x hx, ?_⟩
    -- nothing of the forwarder is carried while it is being opened
    rintro ⟨rfl, -⟩
    obtain ⟨t, ht, hg, -⟩ := World.Carries.task (w := s.world) hx
    exact (hholds.unstarted hr).tasks t ht hg
  · intro st' bound' hst x hx
    rw [put_world, World.mem_owned_drop]
    rcases (hr.single.holds_put hc rfl).mp hst with hmine | ⟨hold, hne⟩
    · cases hmine
      cases hx
    · exact ⟨h.opened st' bound' hold x hx, fun hg => hne hg.1⟩

/-- A start whose listeners are closed holds nothing. -/
theorem release (h : s.Housed) (h1 : s.Single) {setback : Setback}
    (hc : s.threads[k]? = some (.releasing st setback)) (hd : d.bound? = none) :
    (s.put k (s.world.release st.generation) d).Housed := by
  refine ⟨?_, ?_, ?_, ?_⟩
  · rw [put_world]
    exact h.once
  · intro g x hx
    rw [put_world] at hx ⊢
    rcases h.holder g x hx with ⟨st', bound', hst, hg, hmem⟩ | hcarries
    · rcases h1.mine_or_kept hc rfl hst with ⟨rfl, rfl⟩ | hkept
      · cases hmem
      · exact Or.inl ⟨st', bound', hkept _ _, hg, hmem⟩
    · exact Or.inr hcarries
  · intro g x hx
    rw [put_world] at hx ⊢
    exact h.carried g x hx
  · intro st' bound' hst x hx
    rw [put_world]
    rcases (h1.holds_put hc rfl).mp hst with hmine | ⟨hold, -⟩
    · rw [hd] at hmine
      cases hmine
    · exact h.opened st' bound' hold x hx

/-- The tasks of a forwarder that becomes active take its listeners over. -/
theorem commit (h : s.Housed) (h1 : s.Single) {v : View} {r : Registry} {startHook : Bool}
    (hc : s.threads[k]? = some (.binding st bound []))
    (hv : s.world.registry.commit st.key st.generation bound = some (v, r)) :
    (s.put k (s.world.withActive r v st.generation bound) (.activated v startHook)).Housed := by
  obtain ⟨e, he, -, hg, rfl, -⟩ := Registry.commit_eq_some hv
  obtain rfl : bound = e.tunnels := by
    rw [(h1.order k st bound [] hc e he hg).2, List.append_nil]
  rw [← hg]
  refine ⟨?_, ?_, ?_, ?_⟩
  · rw [put_world]
    exact h.once
  · intro f x hx
    rw [put_world] at hx ⊢
    rw [World.carries_withActive]
    rcases h.holder f x hx with ⟨st', bound', hst, hf, hmem⟩ | hold
    · rcases h1.mine_or_kept hc rfl hst with ⟨rfl, rfl⟩ | hkept
      · exact Or.inr (Or.inr ⟨hf.symm.trans hg.symm, hmem⟩)
      · exact Or.inl ⟨st', bound', hkept _ _, hf, hmem⟩
    · exact Or.inr (Or.inl hold)
  · intro f x hx
    rw [put_world] at hx ⊢
    rcases World.carries_withActive.mp hx with hold | ⟨rfl, hmem⟩
    · exact h.carried f x hold
    · rw [hg]
      exact h.opened st e.tunnels ⟨_, List.mem_of_getElem? hc, rfl⟩ x hmem
  · intro st' bound' hst x hx
    rw [put_world]
    rcases (h1.holds_put hc rfl).mp hst with hmine | ⟨hold, -⟩
    · cases hmine
    · exact h.opened st' bound' hold x hx

/-- A task that ends takes its listener with it; other programs take none. -/
theorem calm (h : s.Housed) (hr : s.Reachable) (hw : s.world.Calm w) :
    System.Housed { s with world := w } where
  once := h.once.sublist hw.owned
  holder g x hx := by
    rcases h.holder g x (hw.owned.subset hx) with hst | hcarries
    · exact Or.inl hst
    · right
      obtain ⟨t, ht, rfl, hrole⟩ := hcarries.task
      by_cases hkept : t ∈ w.tasks
      · exact World.carries_of_task hkept hrole
      · exact absurd hx (hw.closed t ht hkept x hrole)
  carried g x hx := by
    obtain ⟨t, ht, rfl, hrole⟩ := hx.task
    have hold := hw.tasks.subset ht
    rcases hw.kept _ x (h.carried _ x (World.carries_of_task hold hrole)) with
      hkept | ⟨u, hu, hgone, hg, hrole'⟩
    · exact hkept
    · -- the task that ended would be the one that has not
      rw [hr.staffed.eq_of_post hu hold hg (hrole'.trans hrole.symm)] at hgone
      exact absurd ht hgone
  opened st bound hst x hx := by
    have hst : s.Holds st bound := hst
    rcases hw.kept _ x (h.opened st bound hst x hx) with hkept | ⟨t, ht, -, hg, -⟩
    · exact hkept
    · exact absurd hg ((hst.unstarted hr).tasks t ht)

/-- Every change of a call keeps who holds what. -/
theorem advance (h : s.Housed) (hr : s.Reachable) (hc : s.threads[k]? = some c)
    (hadv : c.Advances s.world w d) : (s.put k w d).Housed := by
  have settled (ho : w.owned = s.world.owned) (hp : w.posts = s.world.posts)
      (hsame : d.bound? = c.bound?) : (s.put k w d).Housed := by
    apply h.same
    · rw [put_world, ho]
    · rw [put_world, hp]
    · exact fun st bound => holds_put_same hc hsame
  cases hadv with
  | bound _ => exact h.bind hr hc
  | refused _ => exact settled rfl rfl rfl
  | committed hv => exact h.commit hr.single hc hv
  | overtaken _ => exact settled rfl rfl rfl
  | dropped => exact h.drop hr hc
  | released => exact h.release hr.single hc rfl
  | withdrawn => exact h.release hr.single hc rfl
  | hooked => refine settled ?_ ?_ rfl <;> split <;> rfl
  | ended => refine settled ?_ ?_ rfl <;> split <;> rfl
  | _ => exact settled rfl rfl rfl

/-- Every action keeps who holds what. -/
theorem step (h : s.Housed) (hr : s.Reachable) (a : Action) : (s.step a).Housed := by
  have hmove := move_step s a
  generalize s.step a = s' at hmove
  cases hmove with
  | @request r w c hbegins =>
    cases hbegins with
    | admitted _ => exact h.admitted
    | _ => exact h.same rfl rfl (by simp [Holds, threads, Call.bound?])
  | advance _ hc hadv => exact h.advance hr hc hadv
  | giveUp _ hc =>
    apply h.same
    · rw [put_world]
      rfl
    · rw [put_world, World.posts_abort]
    · exact fun st bound => holds_put_same hc rfl
  | @reap answer r reports w c ho hreports ht =>
    have hreaper : s.threads[0]? = some (.over answer) := by rw [threads_zero, ho]
    apply h.same
    · rw [put_world]
      cases ht <;> rfl
    · rw [put_world]
      cases ht <;> rfl
    · intro st bound
      refine holds_put_same hreaper ?_
      cases ht <;> rfl
  | calm _ hw => exact h.calm hr hw

end Housed

/-- Who holds which listeners, in everything that can come about. -/
theorem Reachable.housed (h : s.Reachable) : s.Housed :=
  h.invariant housed_initial fun _ a hr hs => hs.step hr a

/-- A start has no listener yet for the tunnels that are left to bind. -/
theorem Reachable.unbound_free (h : s.Reachable) {t : Tunnel}
    (hc : s.threads[k]? = some (.binding st bound left)) (ht : t ∈ left) :
    (st.generation, t) ∉ s.world.owned := h.housed.free h hc ht

/-! ## Where listeners are -/

/-- Every listener of a tunnel has its port, at the address that its text names. -/
def Placed (w : World) : Prop :=
  ∀ l ∈ w.machine.listeners, ∀ g t, l.owner = .tunnel g t →
    l.port = t.localPort ∧ ∃ zone, w.machine.platform.resolve t.address = .ok ⟨l.address, zone⟩

/-- A tunnel that may be listened for is listened for at the address that its text names. -/
theorem resolve_of_probe {m : Machine} {address : String} {port : UInt16} {y : Net.IpAddress}
    (h : m.probe address port = .ok y) :
    ∃ zone, m.platform.resolve address = .ok ⟨y, zone⟩ := by
  obtain ⟨z, hz, -, -, rfl⟩ := Machine.probe_eq_ok h
  exact ⟨z.zone, hz⟩

theorem Placed.subset {w w' : World} (h : Placed w) (hp : w'.machine.platform = w.machine.platform)
    (hl : ∀ l ∈ w'.machine.listeners, l ∈ w.machine.listeners ∨
      ∃ address, l.owner = .foreign address) : Placed w' := by
  intro l hmem g t howner
  rcases hl l hmem with hold | ⟨address, hforeign⟩
  · rw [hp]
    exact h l hold g t howner
  · rw [hforeign] at howner
    cases howner

/-- A call opens listeners only where their tunnels say. -/
theorem Placed.advance {w w' : World} (h : Placed w) (hadv : Call.Advances w c w' d) : Placed w' := by
  cases hadv with
  | @bound st bound left t y hy =>
    intro l hl g u howner
    rcases List.mem_append.mp hl with hl | hl
    · exact h l hl g u howner
    · rw [List.mem_singleton.mp hl] at howner ⊢
      cases howner
      exact ⟨rfl, resolve_of_probe (m := w.machine) hy⟩
  | dropped => exact h.subset rfl fun l hl => Or.inl (World.mem_listeners_drop hl)
  | hooked => split <;> exact h
  | ended => split <;> exact h
  | _ => exact h

/-- Every listener is where its tunnel says, in everything that can come about. -/
theorem Reachable.placed (h : s.Reachable) : Placed s.world := by
  refine h.induction (P := fun s => Placed s.world) ?_ ?_
  · intro limit platform l hl
    cases hl
  · intro s a hs
    have hmove := move_step s a
    have hp := (step_machine s a).platform
    generalize s.step a = s' at hmove hp
    cases hmove with
    | request hbegins => cases hbegins <;> exact hs
    | advance _ _ hadv =>
      rw [put_world]
      exact hs.advance hadv
    | giveUp _ _ =>
      rw [put_world]
      exact hs
    | reap _ _ ht =>
      rw [put_world]
      cases ht <;> exact hs
    | calm _ hw => exact hs.subset hp hw.listeners

end System
end PortForward
