/-
# Log filters

A filter is a list of directives with commas between them. It says which lines are shown: of the
directives that fit a line, the closest one counts, which is the one with the longest origin and the
most names.

* `Filter.read?` : the directives of a text;
* `Filter.shows` : the lines that a filter lets through.
-/
import PortForward.Cli.Directive

namespace PortForward.Cli

/-- Which lines are shown. -/
structure Filter where
  directives : List Directive
deriving Repr

namespace Filter

/-- The filter if there is no directive: only errors are shown. -/
def usual : Filter := ⟨[{ rank := 1 }]⟩

/-- Reads the directives of a list. What has not the form of a directive is passed over; a directive
with a torn part spoils the list. -/
def readAll? (pieces : List (List Char)) : Option (List Directive) :=
  pieces.foldrM (fun piece ds =>
    match Directive.read piece with
    | .ok d => some (d :: ds)
    | .error .malformed => some ds
    | .error .torn => none) []

/-- Reads a filter. The directives that ask for spans or for values show nothing by themselves,
since lines are written outside of spans; those that ask for names come last. -/
def read? (s : String) : Option Filter :=
  (readAll? (Text.pieces ',' s.toList)).map fun ds =>
    if ds = [] then usual
    else
      let (selective, plain) := ds.partition Directive.isSelective
      ⟨plain ++ selective.filter Directive.isDecidable⟩

/-- The directive that counts for a line: the closest one, and of those with the same scope the
last. -/
def chosen? (f : Filter) (l : LogLine) : Option Directive :=
  (f.directives.filter (Directive.fits l)).foldl (fun best d =>
    match best with
    | none => some d
    | some b => if d.sameScope b || d.isCloser b then some d else some b) none

/-- The line is shown. -/
def shows (f : Filter) (l : LogLine) : Bool :=
  match f.chosen? l with
  | none => false
  | some d => l.severity.rank ≤ d.rank

end Filter
end PortForward.Cli
