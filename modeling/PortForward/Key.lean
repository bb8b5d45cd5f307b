/-
# Keys of forwarders

A forwarder is known by the pod it reaches and the container in it. Keys are ordered by path first
and container second, character by character.
-/

namespace PortForward

/-- The pod path (namespace and name) and the container that a forwarder reaches. -/
structure Key where
  path : String
  container : String
deriving DecidableEq, Repr, Inhabited

namespace Key

/-- How a key stands in messages. -/
def text (k : Key) : String := k.path ++ "|" ++ k.container

/-- Comes earlier in the order of keys. -/
def before (j k : Key) : Bool :=
  decide (j.path < k.path) || (j.path == k.path && decide (j.container < k.container))

/-- Puts a key into a sorted list without repetitions. -/
def insertSorted (k : Key) : List Key → List Key
  | [] => [k]
  | j :: ks =>
    if k = j then j :: ks
    else if k.before j then k :: j :: ks
    else j :: insertSorted k ks

/-- The keys of a list in order, each once. -/
def sorted (ks : List Key) : List Key := ks.foldl (fun sorted k => insertSorted k sorted) []

end Key
end PortForward
