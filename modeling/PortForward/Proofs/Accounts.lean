/-
# What is due to a forwarder

With its admission a forwarder is due one last event, and one call of its stop hook if it has one.
What is due stands in the registry while the forwarder does; the removal takes it over, and pays
it with a record in the journal. Every move passes it on or pays it, and none drops or doubles it.

* `Move.account` : only admissions change what is due and paid in all;
* `account_run` : what an admitted forwarder is due and was paid is, in all, what it was due at
  first.
-/
import PortForward.Proofs.Admissions

namespace PortForward

/-! ## What is due and what is paid -/

/-- What a forwarder is due when it ends. -/
inductive Mark where
  | stopHook
  | lastEvent
deriving DecidableEq

/-- What a record pays. -/
def Record.mark? : Record → Option Mark
  | .stopHook _ _ _ => some .stopHook
  | .stopped _ _ => some .lastEvent
  | .failed _ _ => some .lastEvent
  | _ => none

/-- The record pays this to a forwarder. -/
def Record.pays (m : Mark) (g : Nat) (r : Record) : Bool := r.generation == g && r.mark? == some m

/-- The forwarder of an entry wants it. -/
def Entry.wants (m : Mark) (e : Entry) : Bool :=
  match m with
  | .stopHook => e.stopHook
  | .lastEvent => true

/-- A call of a stop hook pays a stop hook. -/
theorem Record.stopHook_pays {m : Mark} {g : Nat} (e : Entry) (cause : Option Error) :
    (Record.stopHook e.generation e.key cause).pays m g =
      (e.generation == g && m == .stopHook) := by
  cases m <;> rfl

/-- The event that a forwarder ends with pays its last event. -/
theorem Record.lastRecord_pays {m : Mark} {g : Nat} (e : Entry) (cause : Option Error) :
    (e.lastRecord cause).pays m g = (e.generation == g && m == .lastEvent) := by
  cases cause <;> cases m <;> rfl

/-- What entries of one generation are due. -/
def due (m : Mark) (g : Nat) (es : List Entry) : Nat :=
  es.countP fun e => e.generation == g && e.wants m

/-- What a journal has paid to one generation. -/
def paid (m : Mark) (g : Nat) (journal : List Record) : Nat := journal.countP (Record.pays m g)

/-- The entries that a call still has to pay. -/
def Call.owed (m : Mark) : Call → List Entry
  | .waiting r => r.entries
  | .ending r => r.entries
  | .reporting r =>
    match m with
    | .stopHook => r.entries.tail
    | .lastEvent => r.entries
  | _ => []

/-- What the registry and the journal hold of one generation. -/
def World.account (m : Mark) (g : Nat) (w : World) : Nat :=
  due m g w.registry.entries + paid m g w.journal

/-- What one generation is due and was paid in all. -/
def System.account (m : Mark) (g : Nat) (s : System) : Nat :=
  s.world.account m g + due m g (s.threads.flatMap (Call.owed m))

variable {m : Mark} {g : Nat}

@[simp] theorem due_nil : due m g [] = 0 := rfl

theorem due_append (ds es : List Entry) : due m g (ds ++ es) = due m g ds + due m g es :=
  List.countP_append

theorem due_cons (e : Entry) (es : List Entry) : due m g (e :: es) = due m g [e] + due m g es :=
  due_append [e] es

theorem paid_append (journal : List Record) (r : Record) :
    paid m g (journal ++ [r]) = paid m g journal + (r.pays m g).toNat := by
  unfold paid
  rw [List.countP_append, List.countP_singleton]
  cases r.pays m g <;> rfl

/-- A new record pays what it is for. -/
theorem World.account_note (w : World) (r : Record) :
    (w.note r).account m g = w.account m g + (r.pays m g).toNat := by
  unfold account note
  rw [paid_append, Nat.add_assoc]

/-- Nothing is due to a generation that is not there. -/
theorem due_eq_zero {es : List Entry} (h : ∀ e ∈ es, e.generation ≠ g) : due m g es = 0 := by
  apply List.countP_eq_zero.mpr
  intro e he
  simp [h e he]

theorem due_singleton (e : Entry) :
    due m g [e] = (e.generation == g && e.wants m).toNat := by
  unfold due
  rw [List.countP_singleton]
  cases e.generation == g && e.wants m <;> rfl

/-- Several entries are due at least what one of them is. -/
theorem due_le_of_mem {e : Entry} {es : List Entry} (he : e ∈ es) : due m g [e] ≤ due m g es := by
  obtain ⟨as, bs, rfl⟩ := List.append_of_mem he
  have hcons := due_cons (m := m) (g := g) e bs
  rw [due_append]
  omega

/-- A forwarder that is active is due what it was when it was pending. -/
theorem due_activated (e : Entry) : due m g [e.activated] = due m g [e] := by
  cases m <;> rfl

/-! ## Entries that move -/

namespace Registry

variable {r r' : Registry} {e : Entry}

/-- What is admitted adds what it is due. -/
theorem due_insert (key : Key) (batch : List Tunnel) (stopHook : Bool) :
    due m g (r.insert key batch stopHook).entries =
      due m g r.entries + due m g [r.newEntry key batch stopHook] := by
  have hperm : due m g (r.insert key batch stopHook).entries =
      due m g (r.newEntry key batch stopHook :: r.entries) :=
    (insert_entries_perm r key batch stopHook).countP_eq _
  rw [hperm, due_cons, Nat.add_comm]

/-- What is removed and what stays are all entries. -/
theorem take_perm (r : Registry) (p : Key → Bool) :
    ((r.take p).1 ++ (r.take p).2.entries).Perm r.entries := List.filter_append_perm _ _

/-- What is removed takes along what it is due. -/
theorem due_take (p : Key → Bool) :
    due m g (r.take p).1 + due m g (r.take p).2.entries = due m g r.entries :=
  (List.countP_eq_countP_filter_add r.entries _ _).symm

/-- What becomes active is due what it was before. -/
theorem due_commit {key : Key} {generation : Nat} {bound : List Tunnel} {v : View}
    (h : r.commit key generation bound = some (v, r')) :
    due m g r'.entries = due m g r.entries := by
  obtain ⟨e, -, -, -, -, rfl⟩ := commit_eq_some h
  simp only [due, List.countP_map]
  congr 1
  funext x
  rw [Function.comp_apply]
  split
  · cases m <;> rfl
  · rfl

/-- The key of an entry removes that entry alone. -/
theorem Sound.taken_key (h : r.Sound) (he : e ∈ r.entries) : (r.take (· == e.key)).1 = [e] := by
  obtain ⟨as, bs, hsplit⟩ := List.append_of_mem he
  have hpair := h.apart
  rw [hsplit] at hpair
  obtain ⟨-, hright, hcross⟩ := List.pairwise_append.mp hpair
  have has : as.filter (·.key == e.key) = [] := by
    apply List.filter_eq_nil_iff.mpr
    intro x hx
    simpa using (hcross x hx e List.mem_cons_self).key
  have hbs : bs.filter (·.key == e.key) = [] := by
    apply List.filter_eq_nil_iff.mpr
    intro x hx
    simpa using ((List.pairwise_cons.mp hright).1 x hx).key.symm
  unfold Registry.take
  rw [hsplit, List.filter_append, List.filter_cons, has, hbs]
  simp

/-- All entries of other generations are left without the key of an entry. -/
theorem Sound.other_generations (h : r.Sound) (he : e ∈ r.entries) :
    r.entries.filter (fun x => x.generation != e.generation) = (r.take (· == e.key)).2.entries := by
  refine List.filter_congr fun x hx => ?_
  rw [Bool.eq_iff_iff, Bool.not_eq_true', beq_eq_false_iff_ne, bne_iff_ne]
  refine not_congr ⟨fun hg => ?_, fun hk => ?_⟩
  · rw [h.eq_of_generation hx he hg]
  · rw [h.eq_of_key hx he hk]

/-- What is removed by key and generation is one entry, and all others stay. -/
theorem Sound.evict_perm (h : r.Sound) {key : Key} {generation : Nat}
    (hv : r.evict key generation = some (e, r')) : (e :: r'.entries).Perm r.entries := by
  obtain ⟨he, rfl, -, rfl⟩ := evict_eq_some hv
  have hperm := take_perm r (· == e.key)
  rwa [h.taken_key he] at hperm

/-- What is removed by key and generation takes along what it is due. -/
theorem Sound.due_evict (h : r.Sound) {key : Key} {generation : Nat}
    (hv : r.evict key generation = some (e, r')) :
    due m g [e] + due m g r'.entries = due m g r.entries := by
  obtain ⟨he, rfl, -, rfl⟩ := evict_eq_some hv
  rw [← due_take (r := r) (· == e.key), h.taken_key he]

end Registry

/-! ## Calls pass it on or pay it -/

namespace Call

variable {w w' : World} {c d : Call}

/-- A call that begins takes over what it removes, unless it is a start that is admitted. -/
theorem Begins.account {r : Request} (h : Begins w r w' c) :
    ((∀ key batch startHook stopHook, r = .start key batch startHook stopHook →
        w.registry.admission key batch ≠ .ok ()) ∧
      w'.account m g + due m g (c.owed m) = w.account m g) ∨
      ∃ key batch startHook stopHook, r = .start key batch startHook stopHook ∧
        w.registry.admission key batch = .ok () ∧
        w'.account m g + due m g (c.owed m) =
          w.account m g + due m g [w.registry.newEntry key batch stopHook] := by
  cases h with
  | @admitted key batch startHook stopHook h =>
    refine Or.inr ⟨key, batch, startHook, stopHook, rfl, h, ?_⟩
    have hdue := Registry.due_insert (m := m) (g := g) (r := w.registry) key batch stopHook
    simp only [World.account, World.register, owed, due_nil]
    omega
  | rejected h =>
    left
    refine ⟨?_, rfl⟩
    intro key batch startHook stopHook hr hadm
    cases hr
    rw [h] at hadm
    cases hadm
  | @nothing r p answer hp h =>
    have hdue := Registry.due_take (m := m) (g := g) (r := w.registry) p
    rw [h, due_nil] at hdue
    left
    constructor
    · intro _ _ _ _ hr
      rw [hr] at hp
      cases hp
    · simp only [World.account, World.remove, owed, due_nil]
      omega
  | @removed r p answer hp h =>
    have hdue := Registry.due_take (m := m) (g := g) (r := w.registry) p
    left
    constructor
    · intro _ _ _ _ hr
      rw [hr] at hp
      cases hp
    · simp only [World.account, World.remove, owed]
      omega

/-- A call that goes on takes over what it removes, and pays what it notes. -/
theorem Advances.account (h : Advances w c w' d) (hs : w.registry.Sound) :
    w'.account m g + due m g (d.owed m) = w.account m g + due m g (c.owed m) := by
  cases h with
  | @committed s bound v r h =>
    have hdue := Registry.due_commit (m := m) (g := g) h
    simp only [World.account, World.withActive, owed, hdue]
  | @evicted s t cause e r h =>
    have hdue := hs.due_evict (m := m) (g := g) h
    simp only [World.account, World.withoutEntry, owed, due_nil]
    omega
  | @hooked v startHook =>
    have hpays : (Record.startHook v).pays m g = false := by simp [Record.pays, Record.mark?]
    cases startHook with
    | true => simp [World.account_note, owed, hpays]
    | false => rfl
  | @announced v =>
    have hpays : (Record.started v).pays m g = false := by simp [Record.pays, Record.mark?]
    simp [World.account_note, owed, hpays]
  | @ended e es cause answer =>
    have hdue := due_cons (m := m) (g := g) e es
    have hpays := Record.stopHook_pays (m := m) (g := g) e cause
    rw [due_singleton] at hdue
    cases m with
    | stopHook =>
      -- the hook is paid now if there is one, and nothing is due otherwise
      cases hhook : e.stopHook with
      | true =>
        simp only [Entry.wants, hhook] at hdue
        simp only [if_true, World.account_note, hpays, owed, List.tail_cons, BEq.rfl]
        omega
      | false =>
        simp only [Entry.wants, hhook, Bool.and_false, Bool.toNat_false] at hdue
        simp only [Bool.false_eq_true, if_false, owed, List.tail_cons]
        omega
    | lastEvent =>
      -- the event is paid later
      have hnothing : (Record.stopHook e.generation e.key cause).pays .lastEvent g = false := by
        rw [hpays]
        simp
      split
      · simp [World.account_note, hnothing, owed]
      · rfl
  | @reported e es cause answer =>
    have hdue := due_cons (m := m) (g := g) e es
    have hpays := Record.lastRecord_pays (m := m) (g := g) e cause
    rw [due_singleton] at hdue
    cases m with
    | stopHook => simp [World.account_note, hpays, owed]
    | lastEvent =>
      simp only [Entry.wants] at hdue
      simp only [World.account_note, hpays, owed, BEq.rfl]
      omega
  | allReported => cases m <;> rfl
  | _ => rfl

/-- A report that is taken passes on what its forwarder is due. -/
theorem Takes.account {report : Report} (h : Takes w report w' c) (hs : w.registry.Sound) :
    w'.account m g + due m g (c.owed m) = w.account m g := by
  cases h with
  | @evicted e r h =>
    have hdue := hs.due_evict (m := m) (g := g) h
    simp only [World.account, World.withoutEntry, owed]
    omega
  | stale _ => rfl

end Call

/-! ## Runs -/

/-- Where one call is put for another, what it has takes the place of what the other one had. -/
theorem flatMap_set_perm {α : Type} (f : Call → List α) {calls : List Call} {k : Nat} {c : Call}
    (hc : calls[k]? = some c) (d : Call) :
    ((calls.set k d).flatMap f ++ f c).Perm (calls.flatMap f ++ f d) := by
  induction calls generalizing k with
  | nil => simp at hc
  | cons z calls ih =>
    cases k with
    | zero =>
      rw [List.getElem?_cons_zero, Option.some.injEq] at hc
      rw [List.set_cons_zero, List.flatMap_cons, List.flatMap_cons, hc, List.append_assoc (f c)]
      exact List.perm_append_comm.trans (List.perm_append_comm.append_left (f c))
    | succ k =>
      rw [List.getElem?_cons_succ] at hc
      rw [List.set_cons_succ, List.flatMap_cons, List.flatMap_cons, List.append_assoc,
        List.append_assoc]
      exact (ih hc).append_left (f z)

/-- A call that stands elsewhere changes what is owed in all by what it owes itself. -/
theorem due_flatMap_set {calls : List Call} {k : Nat} {c : Call} (hc : calls[k]? = some c)
    (d : Call) :
    due m g ((calls.set k d).flatMap (Call.owed m)) + due m g (c.owed m) =
      due m g (calls.flatMap (Call.owed m)) + due m g (d.owed m) := by
  rw [← due_append, ← due_append]
  exact (flatMap_set_perm (Call.owed m) hc d).countP_eq _

namespace System

variable {s s' : System} {a : Action} {e : Entry} {limit : Nat} {platform : Platform}
variable {actions : List Action}

/-- A thread that goes on changes the account by what it does itself. -/
theorem account_put {k : Nat} {c : Call} (hc : s.threads[k]? = some c) (w : World) (d : Call) :
    (s.put k w d).account m g + s.world.account m g + due m g (c.owed m) =
      s.account m g + w.account m g + due m g (d.owed m) := by
  have hsum := due_flatMap_set (m := m) (g := g) hc d
  simp only [account, put_world, threads_put]
  omega

/-- Only an admission changes what is due and paid in all: it adds what the new forwarder is due. -/
theorem Move.account (h : Move s a s') (hs : s.world.registry.Sound) :
    ((∀ e, ¬ Admits e s a) ∧ s'.account m g = s.account m g) ∨
      ∃ e, Admits e s a ∧ s'.account m g = s.account m g + due m g [e] := by
  have other : (∀ r, a ≠ .request r) → ∀ e, ¬ Admits e s a := by
    rintro hne e ⟨_, ha, -⟩
    exact hne _ ha
  cases h with
  | @request r w c h =>
    have hsum : (⟨w, s.calls ++ [c], s.reaper⟩ : System).account m g =
        w.account m g + due m g (c.owed m) + due m g (s.threads.flatMap (Call.owed m)) := by
      show w.account m g + due m g ((s.threads ++ [c]).flatMap (Call.owed m)) = _
      rw [List.flatMap_append, due_append, List.flatMap_singleton]
      omega
    rcases h.account (m := m) (g := g) with
      ⟨hno, h⟩ | ⟨key, batch, startHook, stopHook, rfl, hadm, h⟩
    · left
      constructor
      · rintro e ⟨_, ha, hadm, -⟩
        exact hno _ _ _ _ (Action.request.inj ha) hadm
      · rw [hsum, h]
        rfl
    · right
      refine ⟨s.world.registry.newEntry key batch stopHook, ⟨startHook, rfl, hadm, rfl⟩, ?_⟩
      rw [hsum, h]
      unfold System.account
      omega
  | @advance a k c d w ha hc h =>
    have hput := account_put (m := m) (g := g) hc w d
    have hcall := h.account (m := m) (g := g) hs
    left
    constructor
    · apply other
      intro r ha'
      rw [ha'] at ha
      cases ha
    · omega
  | @giveUp a k r ha hc =>
    have hput := account_put (m := m) (g := g) hc (s.world.abort (r.entries.map (·.generation)))
      (.ending r)
    have habort : (s.world.abort (r.entries.map (·.generation))).account m g =
        s.world.account m g := rfl
    rw [habort] at hput
    left
    constructor
    · apply other
      intro r ha'
      rw [ha'] at ha
      cases ha
    · exact Nat.add_right_cancel (Nat.add_right_cancel hput)
  | @reap answer r reports w c ho hr h =>
    have hreaper : s.threads[0]? = some (.over answer) := by rw [threads_zero, ho]
    have hput := account_put (m := m) (g := g) hreaper w c
    have hcall := h.account (m := m) (g := g) hs
    have hreports : World.account m g { s.world with reports } = s.world.account m g := rfl
    -- a reaper that takes a report has paid all that it owed
    have hidle : due m g (Call.owed m (.over answer)) = 0 := rfl
    exact Or.inl ⟨other (by simp), by omega⟩
  | calm ha hw =>
    refine Or.inl ⟨other ha, ?_⟩
    simp only [System.account, World.account, hw.registry, hw.journal]
    rfl

/-- A generation that is to come has no account; one that was admitted has, in all, what it was
due with its admission. -/
theorem account_run (limit : Nat) (platform : Platform) (actions : List Action) :
    (∀ g, ((initial limit platform).run actions).world.registry.next ≤ g →
      ((initial limit platform).run actions).account m g = 0) ∧
    ∀ e, (initial limit platform).Along actions (Admits e) →
      ((initial limit platform).run actions).account m e.generation = due m e.generation [e] := by
  refine run_induction (s := initial limit platform) (motive := fun actions t =>
    (∀ g, t.world.registry.next ≤ g → t.account m g = 0) ∧
      ∀ e, (initial limit platform).Along actions (Admits e) →
        t.account m e.generation = due m e.generation [e]) ?_ ?_ actions
  · constructor
    · intro g _
      rfl
    · intro e he
      exact absurd he not_along_nil
  rintro actions a ⟨hnone, hold⟩
  have hmove := move_step ((initial limit platform).run actions) a
  have hnext := hmove.change.next_le
  have hsound := (reachable_run limit platform actions).sound
  constructor
  · intro g hg
    rcases hmove.account (m := m) (g := g) hsound with ⟨-, hsame⟩ | ⟨d, hd, hadd⟩
    · rw [hsame, hnone g (by omega)]
    · -- the one that is admitted is not to come any more
      have hother : due m g [d] = 0 := by
        apply due_eq_zero
        intro x hx
        have hgen := hd.generation
        have hnew := hd.next
        rw [List.mem_singleton.mp hx]
        omega
      rw [hadd, hnone g (by omega), hother]
  · intro e he
    rcases hmove.account (m := m) (g := e.generation) hsound with ⟨hno, hsame⟩ | ⟨d, hd, hadd⟩
    · rcases along_snoc.mp he with he | he
      · rw [hsame, hold e he]
      · exact absurd he (hno e)
    · rcases along_snoc.mp he with he | he
      · have hother : due m e.generation [d] = 0 := by
          apply due_eq_zero
          intro x hx
          have hgen := hd.generation
          have hold := he.admits_old
          rw [List.mem_singleton.mp hx]
          omega
        rw [hadd, hold e he, hother, Nat.add_zero]
      · rw [hadd, hnone e.generation (Nat.le_of_eq he.generation.symm), hd.eq he, Nat.zero_add]

/-- All calls have returned, and the reaper is busy with nothing. -/
def Idle (s : System) : Prop := ∀ c ∈ s.threads, ∃ answer, c = .over answer

variable {x : Entry}

/-- Nothing is paid twice, and nothing that nobody wants. -/
theorem paid_le (he : (initial limit platform).Along actions (Admits e)) :
    paid m e.generation ((initial limit platform).run actions).world.journal ≤
      (e.wants m).toNat := by
  have haccount := (account_run (m := m) limit platform actions).2 e he
  unfold System.account World.account at haccount
  rw [due_singleton, BEq.rfl, Bool.true_and] at haccount
  omega

/-- Nothing is paid to a forwarder that is registered. -/
theorem paid_registered (he : (initial limit platform).Along actions (Admits e))
    (hx : x ∈ ((initial limit platform).run actions).world.registry.entries)
    (hg : x.generation = e.generation) :
    paid m e.generation ((initial limit platform).run actions).world.journal = 0 := by
  have haccount := (account_run (m := m) limit platform actions).2 e he
  have hdue : due m e.generation [x] = due m e.generation [e] := by
    rcases he.admits_entry hx hg with rfl | rfl
    · rfl
    · exact due_activated e
  -- all that is due stands in the registry, so nothing of it is paid
  have hle := due_le_of_mem (m := m) (g := e.generation) hx
  unfold System.account World.account at haccount
  omega

/-- Once no call owes it any more, all that was due to a forwarder that is not registered any more
is paid. -/
theorem paid_unowed (he : (initial limit platform).Along actions (Admits e))
    (howed : ∀ c ∈ ((initial limit platform).run actions).threads, ∀ x ∈ c.owed m,
      x.generation ≠ e.generation)
    (hgone : ∀ x ∈ ((initial limit platform).run actions).world.registry.entries,
      x.generation ≠ e.generation) :
    paid m e.generation ((initial limit platform).run actions).world.journal =
      (e.wants m).toNat := by
  have haccount := (account_run (m := m) limit platform actions).2 e he
  -- nothing is due in the registry or to a call, so all of it is paid
  have hnothing : due m e.generation
      (((initial limit platform).run actions).threads.flatMap (Call.owed m)) = 0 := by
    apply due_eq_zero
    intro x hx
    obtain ⟨c, hc, hx⟩ := List.mem_flatMap.mp hx
    exact howed c hc x hx
  unfold System.account World.account at haccount
  rw [due_singleton, BEq.rfl, Bool.true_and, due_eq_zero hgone, hnothing] at haccount
  omega

/-- With nothing in flight, all that was due to a forwarder that is not registered any more is
paid. -/
theorem paid_idle (he : (initial limit platform).Along actions (Admits e))
    (hidle : ((initial limit platform).run actions).Idle)
    (hgone : ∀ x ∈ ((initial limit platform).run actions).world.registry.entries,
      x.generation ≠ e.generation) :
    paid m e.generation ((initial limit platform).run actions).world.journal =
      (e.wants m).toNat := by
  refine paid_unowed he ?_ hgone
  intro c hc x hx
  obtain ⟨answer, rfl⟩ := hidle c hc
  cases hx

end System
end PortForward
