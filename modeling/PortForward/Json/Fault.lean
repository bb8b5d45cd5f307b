/-
# Faults of documents

A document that departs from the form that it should have, or that ends too early, has a fault: what
is wrong, and how many bytes of it had been read when that was noticed.
-/

namespace PortForward

/-- What is wrong with a document, and after how many bytes. -/
structure Fault where
  complaint : String
  column : Nat
deriving DecidableEq, Repr

namespace Fault

/-- A number or a word between backquotes, as complaints show it. -/
def shown (s : String) : String := "\x60" ++ s ++ "\x60"

/-- Says what is wrong and where. All documents are of one line. -/
def message (f : Fault) : String :=
  f.complaint ++ " at line 1 column " ++ toString f.column

/-- The fault, noticed some bytes later. -/
def later (f : Fault) (bytes : Nat) : Fault := { f with column := f.column + bytes }

/-- A document that ends before anything has begun. -/
def empty : Fault := ⟨"EOF while parsing a value", 0⟩

end Fault
end PortForward
