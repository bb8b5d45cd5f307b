/-
# Files

What a program sees of the files around it, by their paths: what comes of reading one, and whether
something is there. Which files there are, and which of them may be read, differs from machine to
machine.

* `Files` : the files of any machine;
* `Files.seen` : files of which it is known what comes of reading them.
-/

namespace PortForward

/-- The files around a program. Reading one gives its text, or the words of the operating system why
there is none: there is no such file, it may not be read, its bytes are no text, ... -/
structure Files where
  read : String → Except String String
  /-- Something is there under this path. -/
  has : String → Bool
  /-- What can be read is there. -/
  has_of_read : ∀ path text, read path = .ok text → has path = true

namespace Files

/-- The words of the operating system where nothing is. -/
def missing : String := "No such file or directory (os error 2)"

/-- The files of which it is known what comes of reading them, and no others. -/
def seen (known : List (String × Except String String)) : Files where
  read path := (known.lookup path).getD (.error missing)
  has path := (known.lookup path).isSome
  has_of_read path text h := by
    cases hknown : known.lookup path with
    | none => simp [hknown] at h
    | some _ => rfl

end Files

instance : Inhabited Files := ⟨.seen []⟩

end PortForward
