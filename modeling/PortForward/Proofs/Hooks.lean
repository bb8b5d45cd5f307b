/-
# Hook calls and events

Who starts a forwarder may want to be called when it has started, and when it has ended. Both calls
stand beside an event: the start hook is called right before the start is told, the stop hook right
before the end. So with nothing in flight, the hook calls that were asked for match the events one
to one, and there are no others.

* `starts_run` : start hooks and starts, at every moment of every run;
* `ends_match` : stop hooks and ends, while nothing is in flight;
* `hooksMatch_between` : both, for every forwarder of a run, between two moments in which nothing is
  in flight.
-/
import PortForward.Proofs.EventOrder

namespace PortForward

/-! ## What hooks and events say -/

namespace Record

/-- The view that a start hook was called with. -/
def hookedStart? : Record → Option View
  | .startHook v => some v
  | _ => none

/-- The view that was told to have started. -/
def toldStart? : Record → Option View
  | .started v => some v
  | _ => none

/-- The key and the cause that a stop hook was called with. -/
def hookedEnd? : Record → Option (Key × Option Error)
  | .stopHook _ key cause => some (key, cause)
  | _ => none

/-- The key and the cause of an end that was told. -/
def toldEnd? : Record → Option (Key × Option Error)
  | .stopped _ key => some (key, none)
  | .failed v cause => some (v.key, some cause)
  | _ => none

end Record

/-- What the records of one generation say. -/
def said {α : Type} (f : Record → Option α) (g : Nat) (records : List Record) : List α :=
  (records.filter (·.generation == g)).filterMap f

theorem said_append {α : Type} (f : Record → Option α) (g : Nat) (as bs : List Record) :
    said f g (as ++ bs) = said f g as ++ said f g bs := by
  rw [said, List.filter_append, List.filterMap_append]
  rfl

/-- Nothing is said of a generation without records. -/
theorem said_eq_nil {α : Type} (f : Record → Option α) {g : Nat} {records : List Record}
    (h : ∀ r ∈ records, r.generation ≠ g) : said f g records = [] := by
  have hnone : records.filter (·.generation == g) = [] := by
    apply List.filter_eq_nil_iff.mpr
    intro r hr
    simpa using h r hr
  rw [said, hnone, List.filterMap_nil]

/-- The hook calls for a forwarder match its events one to one if it has the hook, and there are
none if it has not. -/
structure HooksMatch (e : Entry) (startHook : Bool) (records : List Record) : Prop where
  start : (said Record.hookedStart? e.generation records).Perm
    (if startHook then said Record.toldStart? e.generation records else [])
  stop : (said Record.hookedEnd? e.generation records).Perm
    (if e.stopHook then said Record.toldEnd? e.generation records else [])

/-- What matches before and after has matched in between. -/
theorem perm_cancel {α : Type} {b : Bool} {hs hs' es es' : List α}
    (h : hs.Perm (if b then es else [])) (h' : (hs ++ hs').Perm (if b then es ++ es' else [])) :
    hs'.Perm (if b then es' else []) := by
  cases b with
  | true => exact (List.perm_append_left_iff es).mp ((h.symm.append_right hs').trans h')
  | false =>
    rw [if_neg (by simp)] at h' ⊢
    exact (List.append_eq_nil_iff.mp h'.eq_nil).2 ▸ .refl _

theorem HooksMatch.cancel {e : Entry} {startHook : Bool} {journal records : List Record}
    (h : HooksMatch e startHook journal) (h' : HooksMatch e startHook (journal ++ records)) :
    HooksMatch e startHook records where
  start := by
    have hall := h'.start
    rw [said_append, said_append] at hall
    exact perm_cancel h.start hall
  stop := by
    have hall := h'.stop
    rw [said_append, said_append] at hall
    exact perm_cancel h.stop hall

/-! ## Who wants a start hook -/

namespace Call

/-- The generation that a call starts, and whether its start hook is still to be called. -/
def startHook? : Call → Option (Nat × Bool)
  | .binding st _ _ => some (st.generation, st.startHook)
  | .dropping st _ _ => some (st.generation, st.startHook)
  | .releasing st _ => some (st.generation, st.startHook)
  | .unbound st _ _ => some (st.generation, st.startHook)
  | .activated v startHook => some (v.generation, startHook)
  | _ => none

/-- The view of this generation whose start hook was called if there is one, and whose start is still
to be told. -/
def pendingStart (g : Nat) : Call → List View
  | .announcing v => if v.generation = g then [v] else []
  | _ => []

/-- A call does not forget whether there is a start hook. -/
theorem Advances.startHook? {w w' : World} {c d : Call} {p : Nat × Bool} (h : Advances w c w' d)
    (hp : d.startHook? = some p) : c.startHook? = some p := by
  cases h with
  | committed h =>
    obtain ⟨e, -, -, hgen, rfl, -⟩ := Registry.commit_eq_some h
    rw [← hp, Call.startHook?, Call.startHook?, ← hgen]
    rfl
  | bound _ => exact hp
  | refused _ => exact hp
  | overtaken _ => exact hp
  | dropped => exact hp
  | released => exact hp
  | _ => cases hp

/-- Of the starts of one generation, a call tells those whose hooks it has called before or calls
now, unless they are still to be told. -/
def PassesStarts (g : Nat) (b : Bool) (c d : Call) : Prop :=
  (said Record.hookedStart? g c.writes?.toList ++ if b then c.pendingStart g else []).Perm
    (if b then said Record.toldStart? g c.writes?.toList ++ d.pendingStart g else [])

/-- What is written about no start passes on none. -/
theorem passesStarts_silent {c d : Call} {g : Nat} (b : Bool)
    (hw : ∀ r ∈ c.writes?, r.hookedStart? = none ∧ r.toldStart? = none)
    (hc : c.pendingStart g = []) (hd : d.pendingStart g = []) : PassesStarts g b c d := by
  have hboth : said Record.hookedStart? g c.writes?.toList = [] ∧
      said Record.toldStart? g c.writes?.toList = [] := by
    cases hr : c.writes? with
    | none => exact ⟨rfl, rfl⟩
    | some r =>
      obtain ⟨hhooked, htold⟩ := hw r hr
      constructor <;> by_cases hg : r.generation = g <;> simp [said, hg, hhooked, htold]
  rw [PassesStarts, hboth.1, hboth.2, hc, hd]
  simp

/-- A call that goes on passes on its starts, if it calls the start hook when there is one. -/
theorem Advances.passesStarts {w w' : World} {c d : Call} {g : Nat} {b : Bool}
    (h : Advances w c w' d) (hb : ∀ b', c.startHook? = some (g, b') → b' = b) :
    PassesStarts g b c d := by
  cases h with
  | @hooked v startHook =>
    rw [PassesStarts]
    by_cases hg : v.generation = g
    · obtain rfl := hb startHook (by rw [← hg]; rfl)
      have hrec : (Record.startHook v).generation = g := hg
      cases startHook with
      | true => simp [said, writes?, pendingStart, Record.hookedStart?, Record.toldStart?, hrec, hg]
      | false => simp [said, writes?]
    · have hrec : (Record.startHook v).generation ≠ g := hg
      cases startHook <;> simp [said, writes?, pendingStart, hrec, hg]
  | @announced v =>
    have hhooked : (Record.started v).hookedStart? = none := rfl
    rw [PassesStarts]
    by_cases hg : v.generation = g
    · have hrec : (Record.started v).generation = g := hg
      simp [said, writes?, pendingStart, Record.toldStart?, hhooked, hrec, hg]
    · have hrec : (Record.started v).generation ≠ g := hg
      simp [said, writes?, pendingStart, hrec, hg]
  | @ended e es cause answer =>
    refine passesStarts_silent b ?_ rfl rfl
    intro r hr
    rw [writes?] at hr
    split at hr
    · cases hr
      exact ⟨rfl, rfl⟩
    · cases hr
  | @reported e es cause answer =>
    refine passesStarts_silent b ?_ rfl rfl
    intro r hr
    cases hr
    cases cause <;> exact ⟨rfl, rfl⟩
  | _ => exact passesStarts_silent b (fun r hr => by cases hr) rfl rfl

end Call

namespace System

variable {s s' : System} {a : Action} {e d : Entry} {b b' : Bool} {g : Nat} {v : View}
variable {limit : Nat} {platform : Platform} {actions : List Action}

/-- The action admits a start that has this start hook, and this is the entry that it gets. -/
def Launches (e : Entry) (startHook : Bool) (s : System) (a : Action) : Prop :=
  a = .request (.start e.key e.tunnels startHook e.stopHook) ∧
    s.world.registry.admission e.key e.tunnels = .ok () ∧
    e = s.world.registry.newEntry e.key e.tunnels e.stopHook

theorem Launches.admits (h : Launches e b s a) : Admits e s a := ⟨b, h⟩

/-- What was launched was admitted. -/
theorem Along.launches_admits (h : s.Along actions (Launches e b)) :
    s.Along actions (Admits e) := by
  obtain ⟨before, a, after, hsplit, hl⟩ := h
  exact ⟨before, a, after, hsplit, hl.admits⟩

/-- A generation has a start hook or has none. -/
theorem Along.launches_eq (hd : s.Along actions (Launches d b)) (he : s.Along actions (Launches e b'))
    (hg : d.generation = e.generation) : b = b' := by
  refine run_induction (s := s) (motive := fun actions _ => s.Along actions (Launches d b) →
    s.Along actions (Launches e b') → b = b') (fun h => absurd h not_along_nil) ?_ actions hd he
  intro actions a ih hd he
  -- of two moments, the later one has the later generation
  rcases along_snoc.mp hd with hd | hd <;> rcases along_snoc.mp he with he | he
  · exact ih hd he
  · have := hd.launches_admits.admits_old
    have := he.admits.generation
    omega
  · have := he.launches_admits.admits_old
    have := hd.admits.generation
    omega
  · have hreq := hd.1.symm.trans he.1
    rw [Action.request.injEq, Request.start.injEq] at hreq
    exact hreq.2.2.1

/-- A call that starts a forwarder has its start hook from the launch. -/
theorem launched_run {i : Nat} {c : Call}
    (hc : ((initial limit platform).run actions).threads[i]? = some c)
    (h : c.startHook? = some (g, b)) :
    ∃ e, (initial limit platform).Along actions (Launches e b) ∧ e.generation = g := by
  refine run_induction (s := initial limit platform) (motive := fun actions t =>
    ∀ i c, t.threads[i]? = some c → c.startHook? = some (g, b) →
      ∃ e, (initial limit platform).Along actions (Launches e b) ∧ e.generation = g)
    ?_ ?_ actions i c hc h
  · intro i c hc h
    rw [threads_initial hc] at h
    cases h
  · intro actions a ih i d hd h
    have earlier : ∀ c, ((initial limit platform).run actions).threads[i]? = some c →
        c.startHook? = some (g, b) →
          ∃ e, (initial limit platform).Along (actions ++ [a]) (Launches e b) ∧
            e.generation = g := by
      intro c hc h
      obtain ⟨e, he, hg⟩ := ih i c hc h
      exact ⟨e, he.append [a], hg⟩
    obtain ⟨w, -, ho⟩ := (move_step _ a).origin hd
    cases ho with
    | stays hc => exact earlier d hc h
    | begins ha hb =>
      cases hb with
      | @admitted key batch startHook stopHook hadm =>
        cases h
        exact ⟨Registry.newEntry _ key batch stopHook,
          along_snoc.mpr (Or.inr ⟨ha, hadm, rfl⟩), rfl⟩
      | _ => cases h
    | advances _ hc hadv => exact earlier _ hc (hadv.startHook? h)
    | givesUp _ _ => cases h
    | takes _ _ _ ht => cases ht <;> cases h

/-! ## Start hooks and starts -/

/-- The starts of one generation whose hook was called and that are still to be told. -/
def pendingStarts (g : Nat) (s : System) : List View := s.threads.flatMap (Call.pendingStart g)

/-- The start hook was called for the starts that were told and for those that are still to be told,
if there is one. -/
def StartsMatch (g : Nat) (b : Bool) (s : System) : Prop :=
  (said Record.hookedStart? g s.world.journal).Perm
    (if b then said Record.toldStart? g s.world.journal ++ s.pendingStarts g else [])

/-- Of one thread that goes on, only what it does itself changes what is still to be told. -/
theorem pendingStarts_put {k : Nat} {c : Call} (hc : s.threads[k]? = some c) (w : World)
    (d : Call) :
    ((s.put k w d).pendingStarts g ++ c.pendingStart g).Perm
      (s.pendingStarts g ++ d.pendingStart g) := by
  rw [pendingStarts, threads_put]
  exact flatMap_set_perm (Call.pendingStart g) hc d

/-- Where threads and journal stay, everything matches as before. -/
theorem StartsMatch.same (h : s.StartsMatch g b) (hj : s'.world.journal = s.world.journal)
    (hp : (s'.pendingStarts g).Perm (s.pendingStarts g)) : s'.StartsMatch g b := by
  unfold StartsMatch at h ⊢
  rw [hj]
  cases b with
  | true => exact h.trans (hp.symm.append_left _)
  | false => exact h

/-- A thread that goes on keeps start hooks and starts matched. -/
theorem StartsMatch.advance {k : Nat} {c d : Call} {w : World} (h : s.StartsMatch g b)
    (hc : s.threads[k]? = some c) (hadv : Call.Advances s.world c w d)
    (hb : ∀ b', c.startHook? = some (g, b') → b' = b) : (s.put k w d).StartsMatch g b := by
  have hown := hadv.passesStarts hb
  have hput := pendingStarts_put (g := g) hc w d
  unfold StartsMatch at h ⊢
  rw [put_world, hadv.journal, said_append, said_append]
  cases b with
  | true =>
    -- count each view: what the thread had pending before stands on both sides
    simp only [Call.PassesStarts, if_true, List.perm_iff_count, List.count_append] at h hown hput ⊢
    intro v
    have := h v
    have := hown v
    have := hput v
    omega
  | false =>
    rw [Call.PassesStarts, if_neg (by simp), if_neg (by simp), List.append_nil] at hown
    rw [if_neg (by simp)] at h ⊢
    rw [h.eq_nil, hown.eq_nil]
    exact .refl _

/-- At every moment of every run, the start hook of a forwarder was called for the starts that were
told and for those that are still to be told. -/
theorem starts_run (limit : Nat) (platform : Platform) (actions : List Action)
    (hb : ∀ e b', (initial limit platform).Along actions (Launches e b') → e.generation = g →
      b' = b) : ((initial limit platform).run actions).StartsMatch g b := by
  refine run_induction (s := initial limit platform) (motive := fun actions t =>
    (∀ e b', (initial limit platform).Along actions (Launches e b') → e.generation = g → b' = b) →
      t.StartsMatch g b) ?_ ?_ actions hb
  · intro _
    cases b <;> exact .refl _
  · intro actions a ih hb
    have hbefore : ∀ e b', (initial limit platform).Along actions (Launches e b') →
        e.generation = g → b' = b := fun e b' he => hb e b' (he.append [a])
    have hs := ih hbefore
    have hmove := move_step ((initial limit platform).run actions) a
    generalize ((initial limit platform).run actions).step a = s' at hmove
    cases hmove with
    | @request r w c h =>
      refine hs.same h.journal ?_
      show ((((initial limit platform).run actions).threads ++ [c]).flatMap _).Perm _
      have hnone : c.pendingStart g = [] := by cases h <;> rfl
      rw [List.flatMap_append, List.flatMap_singleton, hnone, List.append_nil]
      exact .refl _
    | advance _ hc h =>
      refine hs.advance hc h ?_
      intro b' hc'
      obtain ⟨e, he, hg⟩ := launched_run hc hc'
      exact hbefore e b' he hg
    | @giveUp a k r _ hc =>
      have hput := pendingStarts_put (g := g) hc
        (((initial limit platform).run actions).world.abort (r.entries.map (·.generation)))
        (.ending r)
      refine hs.same ?_ (by simpa [Call.pendingStart] using hput)
      rw [put_world]
      rfl
    | @reap answer r reports w c ho _ h =>
      have hc : ((initial limit platform).run actions).threads[0]? = some (.over answer) := by
        rw [threads_zero, ho]
      have hput := pendingStarts_put (g := g) hc w c
      have hnone : c.pendingStart g = [] := by cases h <;> rfl
      rw [hnone, List.append_nil] at hput
      refine hs.same ?_ (by simpa [Call.pendingStart] using hput)
      rw [put_world, h.journal]
    | calm _ hw => exact hs.same hw.journal (.refl _)

/-- With nothing in flight, no start is still to be told. -/
theorem Idle.pendingStarts (h : s.Idle) : s.pendingStarts g = [] := by
  apply List.flatMap_eq_nil_iff.mpr
  intro c hc
  obtain ⟨answer, rfl⟩ := h c hc
  rfl

/-! ## Stop hooks and ends -/

/-- What was said of the ends of a generation is what was paid to it. -/
theorem said_payments (s : System) (g : Nat) :
    said Record.hookedEnd? g s.world.journal =
        (s.payments .stopHook g).filterMap Record.hookedEnd? ∧
      said Record.toldEnd? g s.world.journal =
        (s.payments .lastEvent g).filterMap Record.toldEnd? := by
  have same : ∀ (m : Mark) {β : Type} (f : Record → Option β),
      (∀ r, r.mark? ≠ some m → f r = none) →
      said f g s.world.journal = (s.payments m g).filterMap f := by
    intro m β f hf
    rw [said, payments, List.filterMap_filter, List.filterMap_filter]
    congr 1
    funext r
    by_cases hm : r.mark? = some m
    · simp [Record.pays, hm]
    · simp [hf r hm]
  constructor
  · apply same
    intro r hr
    cases r with
    | stopHook h key cause => exact absurd rfl hr
    | _ => rfl
  · apply same
    intro r hr
    cases r with
    | stopped h key => exact absurd rfl hr
    | failed v cause => exact absurd rfl hr
    | _ => rfl

/-- With nothing in flight, the stop hook of an admitted forwarder was called for its end, if there
is one. -/
theorem ends_match (he : (initial limit platform).Along actions (Admits e))
    (hidle : ((initial limit platform).run actions).Idle) :
    (said Record.hookedEnd? e.generation ((initial limit platform).run actions).world.journal).Perm
      (if e.stopHook then
        said Record.toldEnd? e.generation ((initial limit platform).run actions).world.journal
      else []) := by
  obtain ⟨hhooked, htold⟩ := said_payments ((initial limit platform).run actions) e.generation
  have hends := ends_once he
  rw [hhooked, htold]
  rcases registered_or_left he with ⟨x, hx, hg⟩ | ⟨x, cause, hg, hleaves⟩
  · rw [hends.registered x hx hg, hends.registered x hx hg]
    simp
  · obtain ⟨hhook, hevent⟩ := hends.ended hidle x cause hg hleaves
    have hcause : (e.lastRecord cause).toldEnd? = some (e.key, cause) := by cases cause <;> rfl
    rw [hhook, hevent]
    cases e.stopHook <;> simp [Record.hookedEnd?, hcause]

/-! ## All hooks -/

/-- With nothing in flight, the hook calls for a forwarder match its events, whether it was launched
so far or is launched only later. -/
theorem hooksMatch_run {more : List Action}
    (he : (initial limit platform).Along (actions ++ more) (Launches e b))
    (hidle : ((initial limit platform).run actions).Idle) :
    HooksMatch e b ((initial limit platform).run actions).world.journal := by
  constructor
  · have hstarts : ((initial limit platform).run actions).StartsMatch e.generation b :=
      starts_run limit platform actions fun d b' hd hg => (hd.append more).launches_eq he hg
    rw [StartsMatch, hidle.pendingStarts, List.append_nil] at hstarts
    exact hstarts
  · by_cases hadm : (initial limit platform).Along actions (Admits e)
    · exact ends_match hadm hidle
    · -- all records are of forwarders that were admitted so far
      have hnone : ∀ r ∈ ((initial limit platform).run actions).world.journal,
          r.generation ≠ e.generation := by
        intro r hr hg
        obtain ⟨d, hd, hrg⟩ := record_admits hr
        obtain rfl := (hd.append more).admits_eq he.launches_admits (hrg.symm.trans hg)
        exact hadm hd
      rw [said_eq_nil _ hnone, said_eq_nil _ hnone]
      simp

/-- Between two moments in which nothing is in flight, all records are of forwarders that were
launched, and the hook calls for each of them match its events. -/
theorem hooksMatch_between {more : List Action} (hidle : ((initial limit platform).run actions).Idle)
    (hidle' : ((initial limit platform).run (actions ++ more)).Idle) :
    ∃ records, ((initial limit platform).run (actions ++ more)).world.journal =
        ((initial limit platform).run actions).world.journal ++ records ∧
      (∀ r ∈ records, ∃ e b, (initial limit platform).Along (actions ++ more) (Launches e b) ∧
        r.generation = e.generation) ∧
      ∀ e b, (initial limit platform).Along (actions ++ more) (Launches e b) →
        HooksMatch e b records := by
  obtain ⟨records, hrecords⟩ := journal_run ((initial limit platform).run actions) more
  rw [← run_append] at hrecords
  refine ⟨records, hrecords, ?_, ?_⟩
  · intro r hr
    have hmem : r ∈ ((initial limit platform).run (actions ++ more)).world.journal := by
      rw [hrecords]
      exact List.mem_append_right _ hr
    obtain ⟨e, ⟨before, a, after, hsplit, b, hl⟩, hg⟩ := record_admits hmem
    exact ⟨e, b, ⟨before, a, after, hsplit, hl⟩, hg⟩
  · intro e b he
    have hall : HooksMatch e b ((initial limit platform).run (actions ++ more)).world.journal :=
      hooksMatch_run (he.append []) hidle'
    rw [hrecords] at hall
    exact (hooksMatch_run he hidle).cancel hall

end System
end PortForward
