import Strata.Pattern
import Strata.Text.Utf8

/-!
# Globs in ignore files

`*` and `?` stay inside one component of a path, `**/` stands for any number of leading
directories, `/**/` for any number of directories in between, and `/**` for everything below.
`[a-z]` and `[!a-z]` are sets, `\x7ba,b\x7d` is a choice, and a backslash takes away the meaning
of the next character.  A set that does not end is an ordinary bracket; any other fault makes the
text no glob.

Paths are matched byte by byte, so that `?` and a set stand for one byte.
-/

namespace Strata.IgnoreGlob

/-- Bytes, each as a character. -/
def ofBytes (bytes : List UInt8) : List Char := bytes.map fun b => Char.ofNat b.toNat

/-- The bytes that encode a text, each as a character. -/
def bytes (text : String) : List Char := ofBytes (Text.bytes text)

/-- A unit of a glob in an ignore file. -/
inductive Piece where
  /-- A character that stands for itself. -/
  | literal (c : Char)
  /-- `?`: one byte other than a slash. -/
  | single
  /-- `*`: any bytes other than slashes. -/
  | inside
  /-- A leading `**/`: any number of directories. -/
  | leading
  /-- `/**/`: a slash, or directories between slashes. -/
  | between
  /-- A final `/**`: everything below. -/
  | below
  /-- A set. -/
  | set (negated : Bool) (ranges : List (Char × Char))
  /-- A choice; nothing if all of its branches are empty. -/
  | group (choice : Option Pattern)
deriving DecidableEq, Repr

/-- The text of a character as a pattern over bytes. -/
def literalPattern (c : Char) : Pattern :=
  .chain ((bytes (String.singleton c)).map fun b => .one (.lit b))

/-- Ranges of bytes that a range of characters becomes: the last byte of its start and the first
byte of its end make a range, and the other bytes stand for themselves. -/
def byteRanges (range : Char × Char) : List (Char × Char) :=
  let start := bytes (String.singleton range.1)
  let stop := bytes (String.singleton range.2)
  if range.1 = range.2 then start.map fun b => (b, b)
  else
    start.dropLast.map (fun b => (b, b)) ++
      ((start.getLast?.bind fun a => stop.head?.map fun b => (a, b)).toList) ++
      stop.tail.map fun b => (b, b)

/-- A slash. -/
def slash : Pattern := .one (.lit '/')

/-- A byte other than a slash. -/
def notSlash : Pattern := .one (.noneOf ['/'])

/-- Any bytes. -/
def anyBytes : Pattern := .many .anyChar

/-- The pattern that a unit stands for. -/
def Piece.toPattern : Piece → Pattern
  | literal c => literalPattern c
  | single => notSlash
  | inside => .many notSlash
  | leading => .alt (.optional slash) (.seq anyBytes slash)
  | between => .alt slash (.seq slash (.seq anyBytes slash))
  | below => .seq slash anyBytes
  | set false ranges => .one (.within (ranges.flatMap byteRanges))
  | set true ranges => .one (.outside (ranges.flatMap byteRanges))
  | group choice => choice.getD .empty

/-- Whether a unit stands for nothing at all. -/
def Piece.isVoid : Piece → Bool
  | group none => true
  | _ => false

/-- One unit after another. -/
def sequence (pieces : List Piece) : Pattern :=
  .chain (pieces.map Piece.toPattern)

/-- A choice between branches; empty branches do not count. -/
def choiceOf (branches : List (List Piece)) : Piece :=
  match branches.filter fun branch => !branch.all Piece.isVoid with
  | [] => .group none
  | filled => .group (some (.choice (filled.map sequence)))

/-- A choice that is being read. -/
structure Group where
  /-- The units before the choice, last one first. -/
  before : List Piece
  /-- The branches before the one the choice stands in, last one first. -/
  branches : List (List Piece)
deriving Repr

/-- How far a glob has been read. -/
structure Reading where
  /-- The units of the branch being read, last one first. -/
  pieces : List Piece := []
  /-- The finished branches of the innermost choice, last one first. -/
  branches : List (List Piece) := []
  /-- The choices around, innermost first. -/
  around : List Group := []
  /-- The character before. -/
  previous : Option Char := none
deriving Repr

/-- A set that is being read. -/
structure SetReading where
  /-- Whether its start has been read, where a mark may negate it. -/
  started : Bool := false
  /-- Whether the set is negated. -/
  negated : Bool := false
  /-- The ranges so far, last one first. -/
  ranges : List (Char × Char) := []
  /-- Whether no character of it has been read. -/
  first : Bool := true
  /-- Whether a range has been started. -/
  inRange : Bool := false
deriving Repr

namespace Reading

/-- Whether a choice is being read. -/
def inGroup (r : Reading) : Bool := !r.around.isEmpty

/-- Adds a unit that ends in the character `c`. -/
def push (r : Reading) (c : Char) (piece : Piece) : Reading :=
  { r with pieces := piece :: r.pieces, previous := some c }

/-- Adds two stars that have no meaning of their own. -/
def pushStars (r : Reading) : Reading :=
  { r with pieces := .inside :: .inside :: r.pieces, previous := some '*' }

/-- Opens a choice. -/
def openGroup (r : Reading) : Reading where
  around := ⟨r.pieces, r.branches⟩ :: r.around
  previous := some '\x7b'

/-- A comma: the next branch of a choice, or itself. -/
def comma (r : Reading) : Reading :=
  if r.inGroup then
    { r with pieces := [], branches := r.pieces.reverse :: r.branches, previous := some ',' }
  else r.push ',' (.literal ',')

/-- Closes a choice, if there is one. -/
def closeGroup? (r : Reading) : Option Reading :=
  match r.around with
  | [] => none
  | group :: around =>
    some
      { pieces := choiceOf (r.pieces.reverse :: r.branches).reverse :: group.before
        branches := group.branches
        around := around
        previous := some '\x7d' }

/-- Whether two stars after other units may stand for directories: they have to follow a slash,
or, inside a choice, the start of a branch. -/
def mayDescend (r : Reading) : Bool :=
  r.previous == some '/' ||
    (r.inGroup && (r.previous == some ',' || r.previous == some '\x7b'))

/-- A character outside sets that needs no look at what follows it. -/
def plain (r : Reading) (c : Char) : Reading :=
  if c = '*' then r.push c .inside
  else if c = '?' then r.push c .single
  else if c = '\x7b' then r.openGroup
  else if c = ',' then r.comma
  else r.push c (.literal c)

/-- Puts the unit for two stars in place of the slash before them. -/
def descend (r : Reading) (c : Char) (piece : Piece) : Reading :=
  match r.pieces with
  | .leading :: _ => { r with previous := some c }
  | .below :: _ => { r with previous := some c }
  | _ :: before => { r with pieces := piece :: before, previous := some c }
  | [] => { r with pieces := [piece], previous := some c }

end Reading

/-- Whether a set opened before this text is closed: its first character does not close it. -/
def setCloses : List Char → Bool
  | '!' :: _ :: rest => rest.contains ']'
  | '^' :: _ :: rest => rest.contains ']'
  | ['!'] => false
  | ['^'] => false
  | _ :: rest => rest.contains ']'
  | [] => false

/-- Ends the range that has been started in a set, unless it runs backwards. -/
def SetReading.endRange? (s : SetReading) (c : Char) : Option SetReading :=
  match s.ranges with
  | (start, _) :: others =>
    if c < start then none
    else some { s with ranges := (start, c) :: others, first := false, inRange := false }
  | [] => none

/-- Adds a character to a set. -/
def SetReading.add? (s : SetReading) (c : Char) : Option SetReading :=
  if !s.started ∧ (c = '!' ∨ c = '^') then some { s with started := true, negated := true }
  else if c = '-' ∧ !s.first ∧ !s.inRange then some { s with inRange := true }
  else if s.inRange then s.endRange? c
  else
    some
      { s with started := true, ranges := (c, c) :: s.ranges, first := false, inRange := false }

/-- The unit for a set that has been read; a hyphen at its end stands for itself. -/
def SetReading.toPiece (s : SetReading) : Piece :=
  .set s.negated (if s.inRange then ('-', '-') :: s.ranges else s.ranges).reverse

/-- Reads a glob; the set that is being read comes first, if there is one. -/
def read? : Option SetReading → Reading → List Char → Option Reading
  | some _, _, [] => none
  | some s, r, c :: rest =>
    if c = ']' ∧ !s.first then read? none (r.push ']' s.toPiece) rest
    else (s.add? c).bind fun s => read? (some s) r rest
  | none, r, [] => if r.inGroup then none else some r
  | none, r, '*' :: '*' :: rest =>
    if r.pieces.isEmpty then
      match rest with
      | [] => read? none (r.push '*' .leading) []
      | '/' :: rest => read? none (r.push '/' .leading) rest
      | c :: rest => read? none r.pushStars (c :: rest)
    else if !r.mayDescend then read? none r.pushStars rest
    else
      match rest with
      | [] => read? none (r.descend '*' .below) []
      | '/' :: rest => read? none (r.descend '/' .between) rest
      | c :: rest =>
        if r.inGroup && (c == ',' || c == '\x7d') then
          read? none (r.descend '*' .below) (c :: rest)
        else read? none r.pushStars (c :: rest)
  | none, r, '[' :: rest =>
    if setCloses rest then read? (some {}) r rest
    else read? none (r.push '[' (.literal '[')) rest
  | none, _, ['\\'] => none
  | none, r, '\\' :: c :: rest => read? none (r.push c (.literal c)) rest
  | none, r, '\x7d' :: rest => r.closeGroup?.bind fun r => read? none r rest
  | none, r, c :: rest => read? none (r.plain c) rest
termination_by _ _ glob => glob.length

/-- The pattern over bytes that a glob stands for, if it is one. -/
def toPattern? (glob : List Char) : Option Pattern :=
  (read? none {} glob).map fun r =>
    match r.pieces with
    | [.leading] => .seq anyBytes .atEnd
    | pieces => .chain (pieces.reverse.map Piece.toPattern ++ [.atEnd])

/-- Whether a path, given by its bytes, fits the pattern of a glob. -/
def fits (pattern : Pattern) (path : List UInt8) : Bool :=
  pattern.canMatch (ofBytes path)

end Strata.IgnoreGlob
