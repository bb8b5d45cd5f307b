/-
# Files by name

The files that the program is tried out with: texts below the working directory, by their paths, and
a root directory as any machine has it. A path is followed name by name, from the working directory
or from the root. What cannot be read has the reason that an operating system gives.

* `walk` : follows a path;
* `read` : the content of a file, or why there is none;
* `toFiles` : what a program sees of them.
-/
import PortForward.Files
import PortForward.Text.Pieces

namespace PortForward

/-- The files below the working directory: path and content. -/
structure Directory where
  files : List (String × String)
deriving Repr, Inhabited

namespace Directory

/-! ## Places -/

/-- The names that lead to a place below the working directory; a slash comes first if they lead
there from the root. -/
abbrev Names := List (List Char)

/-- The names in a path; a dot and an empty name lead nowhere else. -/
def names (path : String) : Names :=
  let ns := (Text.pieces '/' path.toList).filter fun name => name ≠ [] && name ≠ ['.']
  if path.toList.head? = some '/' then ['/'] :: ns else ns

/-- What stands at a place. -/
inductive Node where
  | file (content : String)
  | directory
deriving DecidableEq, Repr

/-- What every machine has at the root. -/
def standard : List (String × Node) := [
  ("/bin", .directory), ("/boot", .directory), ("/dev", .directory), ("/dev/null", .file ""),
  ("/etc", .directory), ("/etc/hostname", .file "localhost\n"),
  ("/etc/hosts", .file "127.0.0.1 localhost\n"),
  ("/etc/passwd", .file "root:x:0:0:root:/root:/bin/sh\n"), ("/home", .directory),
  ("/lib", .directory), ("/media", .directory),
  ("/mnt", .directory), ("/opt", .directory), ("/proc", .directory), ("/run", .directory),
  ("/sbin", .directory), ("/srv", .directory), ("/sys", .directory), ("/tmp", .directory),
  ("/usr", .directory), ("/usr/bin", .directory), ("/usr/lib", .directory), ("/var", .directory)]

/-- A place on a walk: one that names lead to, or the inside of a directory above the working
directory, of which nothing is known. -/
inductive Place where
  | known (names : Names)
  | above
deriving DecidableEq, Repr

/-- The names lead to a directory on the way to a file. -/
def isOnTheWay (d : Directory) (ns : Names) : Bool :=
  ns = [] || ns = [['/']] || d.files.any fun f =>
    decide (ns.length < (names f.1).length) && ns.isPrefixOf (names f.1)

/-- What stands at a place. -/
def node? (d : Directory) : Place → Option Node
  | .above => some .directory
  | .known ns =>
    match d.files.find? fun f => names f.1 = ns with
    | some f => some (.file f.2)
    | none =>
      if d.isOnTheWay ns then some .directory
      else (standard.find? fun s => names s.1 = ns).map (·.2)

/-- The directory that a place lies in. The root lies in itself. -/
def Place.parent : Place → Place
  | .above => .above
  | .known [] => .above
  | .known [['/']] => .known [['/']]
  | .known ns => .known ns.dropLast

/-! ## Walks -/

/-- Why a path leads to no file. -/
inductive Unreadable where
  | badName
  | missing
  | notDirectory
  | isDirectory
  | tooLong
deriving DecidableEq, Repr

/-- The words of the operating system. -/
def Unreadable.message : Unreadable → String
  | .badName => "file name contained an unexpected NUL byte"
  | .missing => Files.missing
  | .notDirectory => "Not a directory (os error 20)"
  | .isDirectory => "Is a directory (os error 21)"
  | .tooLong => "File name too long (os error 36)"

/-- The most bytes of a name. -/
def longestName : Nat := 255

/-- The most bytes of a path. -/
def longestPath : Nat := 4095

/-- Enters a name of a directory. Nothing can be found by name above the working directory. -/
def Place.enter (p : Place) (name : List Char) : Except Unreadable Place :=
  if name = [] ∨ name = ['.'] then .ok p
  else if name = ['.', '.'] then .ok p.parent
  else if longestName < (String.ofList name).utf8ByteSize then .error .tooLong
  else
    match p with
    | .known ns => .ok (.known (ns ++ [name]))
    | .above => .error .missing

/-- Follows names from a place: at each but the last there has to be a directory. -/
def walk (d : Directory) (p : Place) : Names → Except Unreadable Node
  | [] =>
    match d.node? p with
    | some node => .ok node
    | none => .error .missing
  | name :: rest =>
    match d.node? p with
    | some .directory =>
      match p.enter name with
      | .ok q => walk d q rest
      | .error e => .error e
    | some (.file _) => .error .notDirectory
    | none => .error .missing

/-- What a path leads to. -/
def find (d : Directory) (path : String) : Except Unreadable Node :=
  if '\x00' ∈ path.toList then .error .badName
  else if path = "" then .error .missing
  else if longestPath < path.utf8ByteSize then .error .tooLong
  else
    match path.toList with
    | '/' :: rest => d.walk (.known [['/']]) (Text.pieces '/' rest)
    | s => d.walk (.known []) (Text.pieces '/' s)

/-- The content of a file, or why it cannot be read. -/
def read (d : Directory) (path : String) : Except Unreadable String :=
  match d.find path with
  | .ok (.file content) => .ok content
  | .ok .directory => .error .isDirectory
  | .error e => .error e

/-- A file or directory of this path is there. -/
def has (d : Directory) (path : String) : Bool := (d.find path).isOk

/-- What a program sees of the files. -/
def toFiles (d : Directory) : Files where
  read path := (d.read path).mapError Unreadable.message
  has := d.has
  has_of_read path text h := by
    unfold read at h
    unfold has
    cases hfind : d.find path with
    | error e =>
      rw [hfind] at h
      cases h
    | ok node => rfl

end Directory
end PortForward
