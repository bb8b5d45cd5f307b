/-
# Settings

Settings come from a file, from the environment and from defaults. The file is the one asked for, or
else `kfwd.toml` if it is there; two settings may be overridden by the environment. Each setting is
decided on its own: what is missing in the file has its default. Something can be missing in three
ways, and each has defaults of its own: a key of a section, a section, or the file.

* `ForwardSection.ofValue?`, `ClusterSection.ofValue?`, `LoggingSection.ofValue?` : a section that is
  there, with the defaults of its keys;
* `ForwardSection.default`, `ClusterSection.default`, `LoggingSection.default` : a section that is
  missing;
* `Settings.default` : the settings without a file;
* `Settings.load` : the settings for a run.
-/
import PortForward.Error
import PortForward.Files
import PortForward.Toml.Document

namespace PortForward

/-! ## Sections -/

/-- What can be set for forwarders. -/
structure ForwardSection where
  /-- The bind address that an empty address field stands for. -/
  address : String
  /-- The greatest number of forwarders; zero sets no limit. -/
  maxForwarders : Nat
  /-- How long a stop waits for tasks, in milliseconds. -/
  stopTimeout : Nat
  /-- The time between two looks at a target, in seconds. -/
  probeInterval : Nat
deriving DecidableEq, Repr

/-- What can be set for the cluster. -/
structure ClusterSection where
  /-- The namespace of a bare pod name. -/
  ns : String
deriving DecidableEq, Repr

/-- What can be set for the log. -/
structure LoggingSection where
  /-- The log filter. -/
  level : String
deriving DecidableEq, Repr

/-- What can be set. -/
structure Settings extends ForwardSection, ClusterSection, LoggingSection
deriving DecidableEq, Repr

namespace Settings

/-! ## Defaults -/

/-- The address if its key is missing. -/
def defaultAddress : String := "localhost"

/-- A count that is missing and has no default of its own. -/
def defaultCount : Nat := 0

/-- How long a stop waits if the key is missing. -/
def defaultStopTimeout : Nat := 3000

/-- The time between two looks if the key is missing. -/
def defaultProbeInterval : Nat := 5

/-- The namespace if its key is missing. -/
def defaultNs : String := "default"

/-- The log filter if its key is missing. -/
def defaultLevel : String := "info"

end Settings

open Settings

/-- The section about forwarders if it is missing. -/
def ForwardSection.default : ForwardSection where
  address := defaultAddress
  maxForwarders := 0
  stopTimeout := defaultStopTimeout
  probeInterval := defaultProbeInterval

/-- The section about the cluster if it is missing. -/
def ClusterSection.default : ClusterSection where
  ns := defaultNs

/-- The section about the log if it is missing. -/
def LoggingSection.default : LoggingSection where
  level := defaultLevel

namespace Settings

/-- The settings without a file: all sections are missing. -/
def default : Settings where
  toForwardSection := .default
  toClusterSection := .default
  toLoggingSection := .default

/-- Targets are looked at once a second at most. -/
def probeSeconds (s : Settings) : Nat := max s.probeInterval 1

/-! ## The file -/

/-- A field of a section: by its key in a table, by its position in a list. A date has no fields. -/
def field? (there : Toml.Value) (position : Nat) (key : String) : Option Toml.Value :=
  match there with
  | .table _ members => members.lookup key
  | .array items => items[position]?
  | .tables earlier last => ((earlier ++ [last])[position]?).map (.table .header)
  | _ => none

/-- Can stand for a section. -/
def isSection : Toml.Value → Bool
  | .table _ _ => true
  | .array _ => true
  | .tables _ _ => true
  | .moment => true
  | _ => false

/-- Reads a text field; without it the default holds. -/
def readText (value : Option Toml.Value) (default : String) : Option String :=
  match value with
  | none => some default
  | some (.string s) => some s
  | some _ => none

/-- Reads a count; without it the default holds. -/
def readCount (value : Option Toml.Value) (default : Nat) : Option Nat :=
  match value with
  | none => some default
  | some (.integer n) => if 0 ≤ n then some n.toNat else none
  | some _ => none

end Settings

/-- The section about forwarders in a value. Unknown keys are passed over; a value of the wrong type
spoils the section. -/
def ForwardSection.ofValue? (v : Toml.Value) : Option ForwardSection := do
  if !isSection v then none
  let address ← readText (field? v 0 "address") defaultAddress
  let maxForwarders ← readCount (field? v 1 "max_forwarders") defaultCount
  let stopTimeout ← readCount (field? v 2 "stop_timeout_ms") defaultStopTimeout
  let probeInterval ← readCount (field? v 3 "probe_interval_secs") defaultProbeInterval
  return { address, maxForwarders, stopTimeout, probeInterval }

/-- The section about the cluster in a value. -/
def ClusterSection.ofValue? (v : Toml.Value) : Option ClusterSection := do
  if !isSection v then none
  let ns ← readText (field? v 0 "namespace") defaultNs
  return { ns }

/-- The section about the log in a value. -/
def LoggingSection.ofValue? (v : Toml.Value) : Option LoggingSection := do
  if !isSection v then none
  let level ← readText (field? v 0 "level") defaultLevel
  return { level }

namespace Settings

/-- A section of a file's table; without it the default holds. -/
def readSection {α : Type} (read : Toml.Value → Option α) (there : Option Toml.Value) (default : α) :
    Option α :=
  match there with
  | none => some default
  | some v => read v

/-- The settings of a file's table. Unknown sections are passed over. -/
def ofTable? (t : Toml.Table) : Option Settings := do
  let forward ← readSection ForwardSection.ofValue? (t.lookup "forward") .default
  let cluster ← readSection ClusterSection.ofValue? (t.lookup "cluster") .default
  let logging ← readSection LoggingSection.ofValue? (t.lookup "logging") .default
  return { toForwardSection := forward, toClusterSection := cluster, toLoggingSection := logging }

/-- A reader of TOML: the table that a text denotes, if it denotes one. -/
abbrev TableReader := String → Option Toml.Table

/-- The settings in the text of a file. -/
def ofText? (parse : TableReader) (content : String) : Option Settings :=
  (parse content).bind ofTable?

/-- The settings in a file. -/
def ofFile (parse : TableReader) (f : Files) (path : String) : Except Unloadable Settings :=
  match f.read path with
  | .error reason => .error (.unreadable path reason)
  | .ok content =>
    match ofText? parse content with
    | some s => .ok s
    | none => .error (.malformed path)

/-! ## The environment -/

/-- What a variable is set to: a text, or bytes that are none. -/
inductive Variable where
  | text (value : String)
  | notText
deriving DecidableEq, Repr

/-- The text, if it is one. -/
def Variable.text? : Variable → Option String
  | .text value => some value
  | .notText => none

/-- The variables of the environment that are set. -/
abbrev Environment := List (String × Variable)

/-- The text that a variable is set to. One that is set to no text counts as not set. -/
def Environment.get? (env : Environment) (name : String) : Option String :=
  (env.lookup name).bind Variable.text?

/-- The file that is read if no other is asked for. -/
def usualFile : String := "kfwd.toml"

/-- Overrides two settings by the environment. -/
def override (s : Settings) (env : Environment) : Settings :=
  { s with
    address := (env.get? "KFWD_ADDRESS").getD s.address
    ns := (env.get? "KFWD_NAMESPACE").getD s.ns }

/-- The settings without those of the environment. A file that is asked for has to be there. -/
def ofFiles (parse : TableReader) (path : Option String) (f : Files) :
    Except Unloadable Settings :=
  match path with
  | some path => ofFile parse f path
  | none => if f.has usualFile then ofFile parse f usualFile else .ok .default

/-- The settings for a run, whichever reader of TOML is used. -/
def loadWith (parse : TableReader) (path : Option String) (f : Files) (env : Environment) :
    Except Error Settings :=
  ((ofFiles parse path f).map fun s => s.override env).mapError .unloadable

/-- The settings for a run. -/
def load : Option String → Files → Environment → Except Error Settings :=
  loadWith Toml.document?

end Settings
end PortForward
