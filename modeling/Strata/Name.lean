import Strata.Text.Lines

/-!
# Import names

Imports refer to code by dotted names (`com.example.User`, `app.models`) or by slashed ones
(`@scope/pkg/sub`).  A name is kept as it is written; this file cuts it into segments and decides
whether it fits a pattern.  In a pattern the segment `*` stands for one segment and `**` for any
number of them.
-/

namespace Strata.Name

open Strata.Text

/-- The segments of a name: its parts between dots and slashes, without the empty ones. -/
def segments (name : String) : List String :=
  (partsBy (fun c => c == '.' || c == '/') name).filter fun part => part != ""

/-- The first segment of a name, or the name itself if it has no segment. -/
def root (name : String) : String :=
  (segments name).head?.getD name

/-- The first `n` dot-separated parts of a name, empty parts included, if `n` is positive and the
name has that many. -/
def leading (name : String) (n : Nat) : Option String :=
  let parts := partsAt '.' name
  if n = 0 ∨ parts.length < n then none else some (joinWith "." (parts.take n))

/-- What follows the last dot of a name. -/
def last (name : String) : String :=
  (partsAt '.' name).getLast?.getD name

/-- Puts two names together with a dot between them; an empty name adds nothing. -/
def join (base name : String) : String :=
  if base = "" then name
  else if name = "" then base
  else base ++ "." ++ name

/-- Whether `p` holds of a list or of one of its tails. -/
def anyTail {α : Type} (p : List α → Bool) : List α → Bool
  | [] => p []
  | a :: rest => p (a :: rest) || anyTail p rest

/-- Whether a list of segments fits the segments of a pattern. -/
def fits : (pattern name : List String) → Bool
  | [], name => name.isEmpty
  | p :: pattern, name =>
    if p = "**" then anyTail (fits pattern) name
    else
      match name with
      | [] => false
      | segment :: rest => (p = "*" || p = segment) && fits pattern rest

/-- Whether a name fits a pattern, segment by segment. -/
def matchesPattern (name pattern : String) : Bool :=
  fits (segments pattern) (segments name)

end Strata.Name
