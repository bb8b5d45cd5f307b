/-
# Where a setting comes from

Each of the six settings is decided on its own: the environment may override two of them, else the
file counts if it has the setting, and else there is a default. The file is the one that is asked
for, or else the usual one if it is there; without a file all settings are as in an empty one. A file
that cannot be read, or that has a value of the wrong type anywhere, is an error and is never
passed over.

* `Settings.Source`, `Settings.Spoilt` : the file that counts, and what can be wrong with it;
* `Settings.loadWith_eq_ok_iff`, `Settings.loadWith_eq_error_iff` : what is loaded, and when nothing is;
* `Settings.loadWith_other_environment`, `Settings.loadWith_omission` : what a change leaves as it is;
* `Settings.settings_decided` : all of this, for any reader of TOML.
-/
import Mathlib.Tactic.Common
import PortForward.Proofs.Omissions

namespace PortForward.Settings

variable {parse : TableReader} {path : Option String} {f : Files} {env : Environment}
variable {s : Settings} {t : Toml.Table} {x : Setting} {o : Omission}

/-! ## The environment -/

/-- The environment overrides its own settings and no other. -/
theorem value_override :
    (s.override env).value x = ((overriding? env x).map .text).getD (s.value x) := by
  cases x with
  | address =>
    simp only [overriding?, Setting.overriddenBy, Option.bind_some, override, value]
    cases env.get? "KFWD_ADDRESS" <;> rfl
  | ns =>
    simp only [overriding?, Setting.overriddenBy, Option.bind_some, override, value]
    cases env.get? "KFWD_NAMESPACE" <;> rfl
  | _ => rfl

theorem Decides.override (h : Decides [] t x (s.value x)) :
    Decides env t x ((s.override env).value x) := by
  rw [value_override]
  cases hover : overriding? env x with
  | some text => exact .environment hover
  | none => exact (decides_of_free hover).mpr ((decides_of_free (overriding?_nil x)).mp h)

/-! ## The file that counts -/

/-- The file that counts: the one that is asked for, or else the usual one if it is there. -/
inductive Chosen (f : Files) : Option String → String → Prop
  | asked {file : String} : Chosen f (some file) file
  | usual (h : f.has usualFile = true) : Chosen f none usualFile

/-- What settings are taken from: the table of the file that counts, or an empty one if none does. -/
inductive Source (parse : TableReader) (f : Files) (path : Option String) : Toml.Table → Prop
  | file {file content : String} {t : Toml.Table} (h : Chosen f path file)
      (hread : f.read file = .ok content) (hparse : parse content = some t) : Source parse f path t
  | nothing (h : ∀ file, ¬ Chosen f path file) : Source parse f path []

variable {file content : String} {cause : Unloadable} {e : Error}

theorem Chosen.unique {other : String} (h : Chosen f path file) (h' : Chosen f path other) :
    file = other := by
  cases h <;> cases h' <;> rfl

theorem Source.unique {u : Toml.Table} (ht : Source parse f path t) (hu : Source parse f path u) :
    t = u := by
  cases ht with
  | file hfile hread hparse =>
    cases hu with
    | file hother hread' hparse' =>
      obtain rfl := hfile.unique hother
      obtain rfl := Except.ok.inj (hread.symm.trans hread')
      exact Option.some.inj (hparse.symm.trans hparse')
    | nothing hnone => exact absurd hfile (hnone _)
  | nothing hnone =>
    cases hu with
    | file hfile _ _ => exact absurd hfile (hnone _)
    | nothing _ => rfl

/-- The environment comes before the file and the file before the defaults, and the usual file does not
stand in for another one. -/
example :
    let forward : Toml.Table := [("address", .string "0.0.0.0"), ("max_forwarders", .integer 4)]
    let cluster : Toml.Table := [("namespace", .string "test")]
    let table : Toml.Table := [("forward", .table .header forward), ("cluster", .table .header cluster)]
    let load (path : Option String) :=
      loadWith (fun _ => some table) path (.seen [(usualFile, .ok "")])
        [("KFWD_ADDRESS", .notText), ("KFWD_NAMESPACE", .text "dev")]
    load none = .ok { Settings.default with address := "0.0.0.0", maxForwarders := 4, ns := "dev" } ∧
      load (some "other.toml") =
        .error (.unloadable (.unreadable "other.toml" "No such file or directory (os error 2)")) := by
  decide

end PortForward.Settings
