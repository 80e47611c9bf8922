import Strata.Pattern

/-!
# Exclude globs

Globs by which a user leaves files out.  `*` stands for any text, slashes included, and `?` for
any character.  `**` is a whole component of the path and stands for any number of directories.
`[abc]`, `[a-z]` and `[!abc]` stand for one character in or outside a set, where a `]` directly
after the opening belongs to the set.
-/

namespace Strata.Exclude

/-- A unit of an exclude glob. -/
inductive Token where
  /-- A character that stands for itself. -/
  | literal (c : Char)
  /-- `?`: any character. -/
  | single
  /-- `*`: any text. -/
  | anything
  /-- `**/` or a final `**`: any number of directories. -/
  | directories
  /-- `[...]`: a character of a set. -/
  | within (ranges : List (Char × Char))
  /-- `[!...]`: a character outside a set. -/
  | outside (ranges : List (Char × Char))
deriving DecidableEq, Repr

/-- What is wrong with an exclude glob. -/
inductive Fault where
  /-- More than two stars in a row. -/
  | manyStars
  /-- A `**` that is not a whole component. -/
  | notComponent
  /-- A set that does not end. -/
  | badSet
deriving DecidableEq, Repr

/-- A fault with its place in the glob, counted in characters from zero. -/
structure GlobError where
  /-- The place. -/
  place : Nat
  /-- What is wrong. -/
  fault : Fault
deriving DecidableEq, Repr

/-- What is said about a fault. -/
def Fault.describe : Fault → String
  | manyStars => "wildcards are either regular `*` or recursive `**`"
  | notComponent => "recursive wildcards must form a single path component"
  | badSet => "invalid range pattern"

/-- The report on a fault. -/
def GlobError.message (error : GlobError) : String :=
  "Pattern syntax error near position " ++ toString error.place ++ ": " ++ error.fault.describe

/-- The ranges in a set: `a-z` is a range and any other character one by itself. -/
def ranges : List Char → List (Char × Char)
  | [] => []
  | a :: '-' :: b :: rest => (a, b) :: ranges rest
  | c :: rest => (c, c) :: ranges rest

/-- Reads a set whose first character is `first`, up to the bracket that closes it. -/
def readSet? (first : Char) (rest : List Char) : Option (List (Char × Char) × List Char) :=
  match rest.dropWhile (· != ']') with
  | [] => none
  | _ :: later => some (ranges (first :: rest.takeWhile (· != ']')), later)

/-- The token for a set and what follows it. -/
def readSetToken? : List Char → Option (Token × List Char)
  | '!' :: first :: rest => (readSet? first rest).map fun (rs, later) => (.outside rs, later)
  | '!' :: [] => none
  | first :: rest => (readSet? first rest).map fun (rs, later) => (.within rs, later)
  | [] => none

/-- Adds `**` to the tokens before it, last one first; it is not repeated, except at the start. -/
def addDirectories : List Token → List Token
  | .directories :: t :: before => .directories :: t :: before
  | before => .directories :: before

/-- Reads the tokens of a glob from a place on.  The character before the place is `previous`, and
the tokens read so far stand in `before`, last one first. -/
def tokensFrom (place : Nat) (previous : Option Char) (before : List Token) :
    (bound : Nat) → List Char → Except GlobError (List Token)
  | 0, _ => .ok before.reverse
  | _ + 1, [] => .ok before.reverse
  | bound + 1, '?' :: rest => tokensFrom (place + 1) (some '?') (.single :: before) bound rest
  | bound + 1, '*' :: rest =>
    match rest with
    | '*' :: '*' :: _ => .error ⟨place + 2, .manyStars⟩
    | '*' :: later =>
      if previous.isSome && previous != some '/' then .error ⟨place - 1, .notComponent⟩
      else
        match later with
        | [] => tokensFrom (place + 2) (some '*') (addDirectories before) bound []
        | '/' :: later => tokensFrom (place + 3) (some '/') (addDirectories before) bound later
        | _ :: _ => .error ⟨place + 2, .notComponent⟩
    | later => tokensFrom (place + 1) (some '*') (.anything :: before) bound later
  | bound + 1, '[' :: rest =>
    match readSetToken? rest with
    | some (token, later) =>
      tokensFrom (place + 1 + (rest.length - later.length)) (some ']') (token :: before) bound later
    | none => .error ⟨place, .badSet⟩
  | bound + 1, c :: rest => tokensFrom (place + 1) (some c) (.literal c :: before) bound rest

/-- The tokens of a glob. -/
def tokens (glob : String) : Except GlobError (List Token) :=
  tokensFrom 0 none [] (glob.length + 1) glob.toList

/-- The pattern that a token stands for.  Directories end in a slash, or go on to the end. -/
def Token.toPattern : Token → Pattern
  | literal c => .one (.lit c)
  | single => .anyChar
  | anything => .many .anyChar
  | directories =>
    .choice
      [.empty, .seq (.many .anyChar) (.one (.lit '/')), .seq (.many .anyChar) .atEnd]
  | within rs => .one (.within rs)
  | outside rs => .one (.outside rs)

/-- Whether a path fits a glob. -/
def accepts (glob : List Token) (path : String) : Bool :=
  (Pattern.chain (glob.map Token.toPattern ++ [.atEnd])).canMatch path.toList

/-- Reads globs; the first one with a fault stops it. -/
def readAll (globs : List String) : Except GlobError (List (List Token)) :=
  globs.mapM tokens

end Strata.Exclude
