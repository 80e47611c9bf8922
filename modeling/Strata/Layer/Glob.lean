import Strata.Pattern

/-!
# Path globs of layers

A layer says which files belong to it by a glob over slashed paths.  `**/` stands for any number
of leading directories, `**` for any text, `*` for any text inside one component, `?` for one
character inside a component, and every other character for itself.

A glob is read into tokens, and the tokens are put together to a `Pattern`.  The three common
shapes `**/name/**`, `dir/**` and `**/name` are matched directly on the path; they agree with the
pattern except that `dir/**` also takes the path `dir` itself.
-/

namespace Strata.Glob

open Strata.Text

/-- A unit of a glob. -/
inductive Token where
  /-- `**/`: nothing, or any text that ends in a slash. -/
  | directories
  /-- `**`: any text. -/
  | anything
  /-- `*`: any text without a slash. -/
  | inside
  /-- `?`: one character other than a slash. -/
  | single
  /-- Any other character: itself. -/
  | literal (c : Char)
deriving DecidableEq, Repr

/-- The tokens of a glob, each as long as possible. -/
def tokens : List Char → List Token
  | [] => []
  | '*' :: '*' :: '/' :: rest => .directories :: tokens rest
  | '*' :: '*' :: rest => .anything :: tokens rest
  | '*' :: rest => .inside :: tokens rest
  | '?' :: rest => .single :: tokens rest
  | c :: rest => .literal c :: tokens rest

/-- A character other than a slash. -/
def notSlash : Pattern := .one (.noneOf ['/'])

/-- The pattern that a token stands for. -/
def Token.toPattern : Token → Pattern
  | directories => .optional (.seq (.many (.one .any)) (.one (.lit '/')))
  | anything => .many (.one .any)
  | inside => .many notSlash
  | single => notSlash
  | literal c => .one (.lit c)

/-- The pattern that takes exactly the paths that a glob stands for. -/
def toPattern (glob : String) : Pattern :=
  .chain (.atStart :: (tokens glob.toList).map Token.toPattern ++ [.atEnd])

/-- How many characters of a glob are no wildcards. -/
def specificity (glob : String) : Nat :=
  (glob.toList.filter fun c => c != '*' && c != '?').length

/-- Whether a part of a glob is not empty and holds no character used in globs. -/
def isLiteral (part : List Char) : Bool :=
  !part.isEmpty && !part.any fun c => ['*', '?', '[', ']', '\x7b', '\x7d'].contains c

/-- A shape of glob that is matched directly on the path. -/
inductive Shortcut where
  /-- `**/name/**`: some directory on the path has this name. -/
  | within (name : List Char)
  /-- `dir/**`: the path is this directory or lies below it. -/
  | below (dir : List Char)
  /-- `**/name`: the path ends in this name. -/
  | named (name : List Char)
deriving DecidableEq, Repr

/-- The leading `**/` of a glob. -/
def anyDirectories : List Char := ['*', '*', '/']

/-- The final `/**` of a glob. -/
def anyBelow : List Char := ['/', '*', '*']

/-- The shortcut that a glob allows.  The first shape that fits decides, and it allows a shortcut
only if the part between the wildcards is literal. -/
def shortcut? (glob : List Char) : Option Shortcut :=
  match (after? anyDirectories glob).bind (before? anyBelow) with
  | some name => if isLiteral name then some (.within name) else none
  | none =>
    match before? anyBelow glob with
    | some dir => if isLiteral dir then some (.below dir) else none
    | none =>
      match after? anyDirectories glob with
      | some name => if isLiteral name then some (.named name) else none
      | none => none

/-- Whether a path fits a shortcut. -/
def Shortcut.accepts (path : List Char) : Shortcut → Bool
  | within name => startsWith (name ++ ['/']) path || contains ('/' :: name ++ ['/']) path
  | below dir => path == dir || startsWith (dir ++ ['/']) path
  | named name => path == name || endsWith ('/' :: name) path

/-- A path without one leading `./`. -/
def dropHere (path : List Char) : List Char :=
  (after? ['.', '/'] path).getD path

/-- Whether a path fits a glob. -/
def accepts (glob path : String) : Bool :=
  let path := dropHere path.toList
  match shortcut? glob.toList with
  | some shortcut => shortcut.accepts path
  | none => (toPattern glob).canMatch path

end Strata.Glob
