/-
# The registry

The registry knows every live forwarder, at most one for a key. It decides which batches of
tunnels may start; what it decides and what it notes happen in one step.

The registry is a map from keys to entries, and who asks for all of them gets them sorted. Here the
map is the list of its entries in the order of their keys: they are put where they belong as they
come, and not sorted whenever somebody asks.

* `admission` : the check before a start;
* `insert`, `commit`, `evict`, `take` : everything that changes entries;
* `find?`, `list`, ... : what callers may ask.
-/
import PortForward.Error
import PortForward.Registry.Entry

namespace PortForward

/-- The live forwarders, with a limit on their number if it is not zero. -/
structure Registry where
  limit : Nat := 0
  /-- The generation of the next forwarder. -/
  next : Nat := 1
  entries : List Entry := []
deriving Repr, Inhabited

namespace Registry

/-! ## Queries -/

/-- The entry of a key. -/
def entry? (r : Registry) (key : Key) : Option Entry := r.entries.find? fun e => e.key == key

/-- The forwarder of a key. -/
def find? (r : Registry) (key : Key) : Option View := (r.entry? key).map Entry.view

/-- The key has a forwarder. -/
def isForwarded (r : Registry) (key : Key) : Bool := (r.entry? key).isSome

/-- Some container of the pod has a forwarder. -/
def isPathForwarded (r : Registry) (path : String) : Bool :=
  r.entries.any fun e => e.key.path == path

/-- All forwarders, in the order of their keys. -/
def list (r : Registry) : List View := r.entries.map Entry.view

/-- The number of forwarders. -/
def count (r : Registry) : Nat := r.entries.length

/-! ## Admission -/

/-- The key of the first entry with a tunnel that clashes. -/
def clashOwner? (r : Registry) (t : Tunnel) : Option Key :=
  (r.entries.find? fun e => e.tunnels.any (·.clashes t)).map (·.key)

/-- The first tunnel of a batch that clashes with an earlier one of the batch or with an entry,
and who has its endpoint. -/
def clash? (r : Registry) (key : Key) (earlier : List Tunnel) : List Tunnel → Option (Tunnel × Key)
  | [] => none
  | t :: ts =>
    if earlier.any (·.clashes t) then some (t, key)
    else
      match r.clashOwner? t with
      | some owner => some (t, owner)
      | none => r.clash? key (earlier ++ [t]) ts

/-- No more forwarders may start. -/
def isFull (r : Registry) : Bool := 0 < r.limit && r.limit ≤ r.entries.length

/-- A batch may start: it has tunnels, its key is free, there is room, and nothing clashes. -/
def admission (r : Registry) (key : Key) (batch : List Tunnel) : Except Error Unit :=
  if batch = [] then .error (.invalid .emptyBatch)
  else if r.isForwarded key then .error (.keyTaken key)
  else if r.isFull then .error (.limitReached r.limit)
  else
    match r.clash? key [] batch with
    | some (t, owner) => .error (.endpointTaken t.address t.localPort owner)
    | none => .ok ()

/-! ## Changes -/

/-- Puts an entry before the first one with a later key. -/
def insertSorted (e : Entry) : List Entry → List Entry
  | [] => [e]
  | x :: xs => if e.key.before x.key then e :: x :: xs else x :: insertSorted e xs

/-- Notes a new forwarder, not active yet, as the next generation. -/
def insert (r : Registry) (key : Key) (batch : List Tunnel) (stopHook : Bool) : Registry :=
  let e : Entry := { generation := r.next, key, tunnels := batch, stopHook }
  { r with next := r.next + 1, entries := insertSorted e r.entries }

/-- The entry is the one of this key and generation. -/
def isEntry (key : Key) (generation : Nat) (e : Entry) : Bool :=
  e.key == key && e.generation == generation

/-- Makes a forwarder active for the tunnels that were bound, if it is still the one of its key. -/
def commit (r : Registry) (key : Key) (generation : Nat) (bound : List Tunnel) :
    Option (View × Registry) :=
  match r.entry? key with
  | some e =>
    if e.generation = generation then
      some ((e.activeWith bound).view,
        { r with entries := r.entries.map fun x => if x.key = key then x.activeWith bound else x })
    else none
  | none => none

/-- Removes the entries of some keys. -/
def take (r : Registry) (p : Key → Bool) : List Entry × Registry :=
  (r.entries.filter fun e => p e.key, { r with entries := r.entries.filter fun e => !p e.key })

/-- Removes a forwarder, if it is still the one of its key. -/
def evict (r : Registry) (key : Key) (generation : Nat) : Option (Entry × Registry) :=
  match r.entry? key with
  | some e => if e.generation = generation then some (e, (r.take (· == key)).2) else none
  | none => none

end Registry
end PortForward
