/-
# Where requests go

A request goes to a path, perhaps with a query. Names are put into it as they stand, without any
escaping, so a name with a character that no request may have makes the request impossible.

* `unrequestable?` : what keeps an address from being requested.
-/
import PortForward.Pod

namespace PortForward.Cluster

/-- May stand in a path. -/
def isPathChar (c : Char) : Bool :=
  let n := c.toNat
  (0x21 ≤ n && n ≤ 0x22) || (0x24 ≤ n && n ≤ 0x3B) || n == 0x3D || (0x40 ≤ n && n ≤ 0x5F) ||
    (0x61 ≤ n && n ≤ 0x7E) || 0x80 ≤ n

/-- May stand in a query. -/
def isQueryChar (c : Char) : Bool :=
  let n := c.toNat
  n == 0x21 || (0x24 ≤ n && n ≤ 0x3B) || n == 0x3D || (0x3F ≤ n && n ≤ 0x7E) || 0x80 ≤ n

/-- A text up to a character. -/
def upTo (stop : Char) (s : List Char) : List Char := s.takeWhile (· != stop)

/-- What is sent of an address: a number sign and what follows are left out. -/
def sent (url : String) : String := String.ofList (upTo '#' url.toList)

/-- The path of an address, without the query. -/
def pathOf (url : String) : String := String.ofList (upTo '?' (sent url).toList)

/-- The most bytes of an address. -/
def longestUrl : Nat := 65534

/-- All characters may stand where they do. -/
def isWellFormed (url : String) : Bool :=
  let s := (sent url).toList
  (upTo '?' s).all isPathChar && ((s.dropWhile (· != '?')).drop 1).all isQueryChar

/-- What keeps an address from being requested. -/
def unrequestable? (url : String) : Option Unrequestable :=
  if longestUrl < url.utf8ByteSize then some .tooLong
  else if !isWellFormed url then some .badCharacter
  else none

/-- The address of a pod. -/
def podUrl (ns name : String) : String := "/api/v1/namespaces/" ++ ns ++ "/pods/" ++ name

/-- The address that carries connections to a port of a pod. -/
def portUrl (ns name : String) (port : UInt16) : String :=
  podUrl ns name ++ "/portforward?&ports=" ++ toString port

end PortForward.Cluster
