/-
# Files with something left out

A key or a whole section may be left out of a file. What is left has the same values for all settings
that cannot stand in what is left out, and a file with values of the right types stays one.

* `Settings.Omission` : what is left out;
* `Settings.gives_applyTo_iff` : the other settings;
* `Settings.Proper.applyTo` : the types of what is left.
-/
import PortForward.Proofs.FileSettings

namespace PortForward.Settings

variable {t : Toml.Table} {x : Setting} {v : Toml.Value}

/-! ## What is left out -/

/-- A table without a key. -/
def without (key : String) (t : Toml.Table) : Toml.Table := t.filter fun m => m.1 != key

/-- A value without a key, if it is a table. -/
def valueWithout (key : String) : Toml.Value → Toml.Value
  | .table origin members => .table origin (without key members)
  | other => other

/-- What can be left out of a file: a whole section, or a key of a section. -/
inductive Omission where
  | whole (heading : String)
  | single (heading key : String)

/-- The file in which something is left out. -/
def Omission.applyTo : Omission → Toml.Table → Toml.Table
  | .whole heading, t => without heading t
  | .single heading key, t =>
    t.map fun m => (m.1, if m.1 = heading then valueWithout key m.2 else m.2)

/-- The settings that may stand in what is left out. -/
def Omission.Concerns : Omission → Setting → Prop
  | .whole heading, x => x.heading = heading
  | .single heading key, x => x.heading = heading ∧ x.key = key

theorem lookup_without (key k : String) (t : Toml.Table) :
    (without key t).lookup k = if k = key then none else t.lookup k := by
  induction t with
  | nil => simp [without]
  | cons m t ih =>
    obtain ⟨n, v⟩ := m
    by_cases hn : n = key
    · -- what is dropped is found under no other key
      subst hn
      have hdrop : without n ((n, v) :: t) = without n t := List.filter_cons_of_neg (by simp)
      rw [hdrop, ih, List.lookup_cons]
      by_cases hk : k = n
      · rw [if_pos hk, if_pos hk]
      · rw [if_neg hk, if_neg hk, beq_eq_false_iff_ne.mpr hk]
    · have hkeep : without key ((n, v) :: t) = (n, v) :: without key t :=
        List.filter_cons_of_pos (by simpa using hn)
      rw [hkeep, List.lookup_cons, List.lookup_cons, ih]
      cases hk : k == n with
      | true => exact (if_neg fun hkey => hn ((beq_iff_eq.mp hk).symm.trans hkey)).symm
      | false => rfl

theorem lookup_map_snd (f : String → Toml.Value → Toml.Value) (k : String) (t : Toml.Table) :
    (t.map fun m => (m.1, f m.1 m.2)).lookup k = (t.lookup k).map (f k) := by
  induction t with
  | nil => rfl
  | cons m t ih =>
    rw [List.map_cons, List.lookup_cons, List.lookup_cons]
    cases h : k == m.1 with
    | true => simp [beq_iff_eq.mp h]
    | false => exact ih

/-- What is under a heading once a key is left out. -/
theorem lookup_single (heading key k : String) (t : Toml.Table) :
    ((Omission.single heading key).applyTo t).lookup k =
      (t.lookup k).map fun v => if k = heading then valueWithout key v else v :=
  lookup_map_snd (fun n v => if n = heading then valueWithout key v else v) k t

theorem isSection_valueWithout (key : String) (v : Toml.Value) :
    isSection (valueWithout key v) = isSection v := by
  cases v <;> rfl

/-- A section keeps its fields when another key is left out. -/
theorem field?_valueWithout {key k : String} (hk : k ≠ key) (v : Toml.Value) (place : Nat) :
    field? (valueWithout key v) place k = field? v place k := by
  cases v with
  | table origin members => exact (lookup_without key k members).trans (if_neg hk)
  | _ => rfl

/-- Leaving out a key gives a section no fields. -/
theorem field?_of_valueWithout {key k : String} {v w : Toml.Value} {place : Nat}
    (h : field? (valueWithout key v) place k = some w) : field? v place k = some w := by
  by_cases hk : k = key
  · cases v with
    | table origin members =>
      cases ((lookup_without key k members).trans (if_pos hk)).symm.trans h
    | _ => exact h
  · rwa [field?_valueWithout hk] at h

variable {o : Omission}

/-- A file keeps the settings that may not stand in what is left out. -/
theorem gives_applyTo_iff (h : ¬ o.Concerns x) : Gives (o.applyTo t) x v ↔ Gives t x v := by
  rw [gives_iff, gives_iff, given?, given?]
  cases o with
  | whole heading => rw [Omission.applyTo, lookup_without, if_neg (show ¬ x.heading = heading from h)]
  | single heading key =>
    rw [lookup_single]
    by_cases hx : x.heading = heading
    · have hk : x.key ≠ key := fun hk => h ⟨hx, hk⟩
      simp only [if_pos hx]
      cases t.lookup x.heading with
      | none => rfl
      | some there => exact congrArg (· = some v) (field?_valueWithout hk there x.position) ▸ Iff.rfl
    · simp only [if_neg hx, Option.map_id']

/-- Leaving something out adds nothing. -/
theorem gives_of_applyTo (h : Gives (o.applyTo t) x v) : Gives t x v := by
  by_cases hx : o.Concerns x
  · rw [gives_iff, given?] at h ⊢
    cases o with
    | whole heading =>
      rw [Omission.applyTo, lookup_without, if_pos (show x.heading = heading from hx)] at h
      cases h
    | single heading key =>
      rw [lookup_single] at h
      simp only [if_pos hx.1] at h
      cases hlookup : t.lookup x.heading with
      | none =>
        rw [hlookup] at h
        cases h
      | some there =>
        rw [hlookup] at h
        exact field?_of_valueWithout h
  · exact (gives_applyTo_iff hx).mp h

/-- Leaving something out does no harm. -/
theorem Proper.applyTo (h : Proper t) (o : Omission) : Proper (o.applyTo t) := by
  refine ⟨fun x v hv => ?_, fun x v hv => h.fields x v (gives_of_applyTo hv)⟩
  cases o with
  | whole heading =>
    rw [Omission.applyTo, lookup_without, Option.ite_none_left_eq_some] at hv
    exact h.sections x v hv.2
  | single heading key =>
    rw [lookup_single, Option.map_eq_some_iff] at hv
    obtain ⟨w, hw, rfl⟩ := hv
    split
    · rw [isSection_valueWithout]
      exact h.sections x w hw
    · exact h.sections x w hw

end PortForward.Settings
