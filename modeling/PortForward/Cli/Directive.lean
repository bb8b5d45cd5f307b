/-
# Directives of log filters

A directive has the form `origin[span]{names}=level` with every part optional, and is about the
lines of an origin within a span and with some named values.

* `Directive.read` : the grammar of a directive;
* `Directive.fits` : the lines that a directive is about.
-/
import PortForward.Cli.Log
import PortForward.Text.Alphanumeric
import PortForward.Text.Ascii
import PortForward.Text.Blank
import PortForward.Text.Bytes
import PortForward.Text.Decimal
import PortForward.Text.Pattern
import PortForward.Text.Pieces
import PortForward.Text.Real

namespace PortForward.Cli

/-- Shows lines up to a rank, none at rank zero: those of an origin, within a span, and with some
named values. -/
structure Directive where
  origin : Option (List Char) := none
  span : Option (List Char) := none
  names : List (List Char) := []
  /-- Some value is asked for, not its name alone. -/
  hasValue : Bool := false
  rank : Nat := 5
deriving DecidableEq, Repr

/-! ## Reading directives -/

/-- The rank that a text names: a number, or a word in any letter case. -/
def readRank? (s : List Char) : Option Nat :=
  match Text.readNumber? s with
  | some n => if n ≤ 5 then some n else none
  | none =>
    match String.ofList (Text.lowered s) with
    | "off" => some 0
    | "error" => some 1
    | "warn" => some 2
    | "info" => some 3
    | "debug" => some 4
    | "trace" => some 5
    | _ => none

/-- May be the first character of a directive without a span. -/
def isFirst (c : Char) : Bool := c ∈ ['-', ':', '_'] || Text.isAlphanumeric c

namespace Directive

/-- Where the reading of a directive stands, and where in the text the current part has begun. -/
inductive Stage where
  | first
  /-- In a level or an origin. -/
  | word (start : Nat)
  | span (start : Nat)
  | name (start : Nat)
  /-- After the closing brace. -/
  | named
  /-- After the closing bracket. -/
  | closed
  | level (start : Nat)

/-- Why a text is no directive. -/
inductive Unread where
  /-- It has not the form of one. -/
  | malformed
  /-- One of its parts would begin or end within a character. -/
  | torn
deriving DecidableEq, Repr

/-- What a name can be asked to be: a number, or a pattern. -/
def isWish (value : List Char) : Bool := Text.isReal value || Text.isPattern value

/-- Adds a name, perhaps with the value that it has to have. -/
def addName (d : Directive) (text : List Char) : Except Unread Directive :=
  if text = [] then .error .malformed
  else
    match Text.pieces '=' text with
    | name :: value :: _ =>
      if isWish value then .ok { d with names := d.names ++ [name], hasValue := true }
      else .error .malformed
    | names => .ok { d with names := d.names ++ names }

/-- The part of a text between two places. -/
def part (whole : List Char) (start stop : Nat) : Except Unread (List Char) :=
  match Text.between? whole start stop with
  | some text => .ok text
  | none => .error .torn

/-- Reads one more character, which stands at a byte of the directive's trimmed text. The parts are
taken from the text before it was trimmed. -/
def next (whole : List Char) : Directive × Stage → Nat × Char → Except Unread (Directive × Stage)
  | (d, .first), (i, c) =>
    if c = '[' then .ok (d, .span (i + 1))
    else if isFirst c then .ok (d, .word i)
    else .error .malformed
  | (d, .word start), (i, c) =>
    if c = '=' then do return ({ d with origin := some (← part whole start i) }, .level (i + 1))
    else if c = '[' then do return ({ d with origin := some (← part whole start i) }, .span (i + 1))
    else .ok (d, .word start)
  | (d, .span start), (i, c) =>
    if c = ']' then do return ({ d with span := some (← part whole start i) }, .closed)
    else if c = '\x7b' then do
      let span ← part whole start i
      return ({ d with span := if span = [] then none else some span }, .name (i + 1))
    else .ok (d, .span start)
  | (d, .name start), (i, c) =>
    if c = '\x7d' then do return (← d.addName (← part whole start i), .named)
    else .ok (d, .name start)
  | (d, .named), (_, c) => if c = ']' then .ok (d, .closed) else .error .malformed
  | (d, .closed), (i, c) => if c = '=' then .ok (d, .level (i + 1)) else .error .malformed
  | (d, .level start), _ => .ok (d, .level start)

/-- The directive that was read. A single word is a level if it can be one, and else an origin. -/
def finish (whole : List Char) : Directive × Stage → Except Unread Directive
  | (d, .word start) => do
    let text ← part whole start (Text.byteSize whole)
    match readRank? text with
    | some rank => return { d with rank }
    | none => return { d with origin := some text }
  | (d, .level start) => do
    let text ← part whole start (Text.byteSize whole)
    if text = [] then return d
    match readRank? text with
    | some rank => return { d with rank }
    | none => throw .malformed
  | (d, .closed) => .ok d
  | _ => .error .malformed

/-- Reads a directive. -/
def read (s : List Char) : Except Unread Directive := do
  finish s (← (Text.placed 0 (Text.trim s)).foldlM (next s) ({}, .first))

/-- Places are counted from the first mark of a text and parts are cut from its blank beginning
on, so a part can be torn: here within the second character. -/
example : read " é=warn".toList = .error .torn := by cbv

/-! ## What directives are about -/

/-- The directive asks for a span or for named values. -/
def isSelective (d : Directive) : Bool := d.span.isSome || !d.names.isEmpty

/-- The directive can be decided for a line by itself: it asks for no span and no value. -/
def isDecidable (d : Directive) : Bool := d.span.isNone && !d.hasValue

/-- The directive is about this line. -/
def fits (l : LogLine) (d : Directive) : Bool :=
  (match d.origin with
    | none => true
    | some origin => origin.isPrefixOf l.origin.toList) &&
  d.names.all fun name => l.names.contains (String.ofList name)

/-- The length of the origin in bytes; a missing one is shorter than any. -/
def closeness (d : Directive) : Nat :=
  match d.origin with
  | none => 0
  | some origin => Text.byteSize origin + 1

/-- The directives are about the same lines. -/
def sameScope (d e : Directive) : Bool := d.origin == e.origin && d.names == e.names

/-- The directive names lines more closely than another one, or equally closely and later in the
order of letters. -/
def isCloser (d e : Directive) : Bool :=
  if d.closeness ≠ e.closeness then e.closeness < d.closeness
  else if d.names.length ≠ e.names.length then e.names.length < d.names.length
  else if d.origin ≠ e.origin then decide (e.origin.getD [] < d.origin.getD [])
  else decide (e.names < d.names)

end Directive

end PortForward.Cli
