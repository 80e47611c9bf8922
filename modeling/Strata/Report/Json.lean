import Strata.Text.Lines

/-!
# JSON texts

The part of JSON that reports are written in, laid out with one item per line and two blanks for
each level.
-/

namespace Strata.Report

/-- A JSON value. -/
inductive Json where
  /-- A text. -/
  | text (s : String)
  /-- A natural number. -/
  | number (n : Nat)
  /-- A list. -/
  | list (items : List Json)
  /-- A record with its fields in order. -/
  | record (fields : List (String × Json))
deriving Inhabited

namespace Json

/-- A character inside a quoted text: quotes, backslashes and control characters are escaped. -/
def escape (c : Char) : String :=
  if c = '"' then "\\\""
  else if c = '\\' then "\\\\"
  else if c = '\n' then "\\n"
  else if c = '\r' then "\\r"
  else if c = '\t' then "\\t"
  else if c = '\x08' then "\\b"
  else if c = '\x0c' then "\\f"
  else if c < ' ' then
    "\\u00" ++ (if c.toNat < 16 then "0" else "") ++ String.ofList (Nat.toDigits 16 c.toNat)
  else String.singleton c

/-- A text in quotes. -/
def quote (s : String) : String :=
  "\"" ++ String.join (s.toList.map escape) ++ "\""

/-- A new line with the blanks of a level. -/
def newLine (level : Nat) : String :=
  "\n" ++ String.ofList (List.replicate (2 * level) ' ')

mutual

/-- A value as text, standing at a level. -/
def render (level : Nat) : Json → String
  | text s => quote s
  | number n => toString n
  | list [] => "[]"
  | list (item :: rest) =>
    "[" ++ newLine (level + 1) ++ render (level + 1) item ++ renderItems (level + 1) rest ++
      newLine level ++ "]"
  | record [] => "\x7b\x7d"
  | record ((name, value) :: rest) =>
    "\x7b" ++ newLine (level + 1) ++ quote name ++ ": " ++ render (level + 1) value ++
      renderFields (level + 1) rest ++ newLine level ++ "\x7d"

/-- The items of a list after the first one. -/
def renderItems (level : Nat) : List Json → String
  | [] => ""
  | item :: rest => "," ++ newLine level ++ render level item ++ renderItems level rest

/-- The fields of a record after the first one. -/
def renderFields (level : Nat) : List (String × Json) → String
  | [] => ""
  | (name, value) :: rest =>
    "," ++ newLine level ++ quote name ++ ": " ++ render level value ++ renderFields level rest

end

end Json

end Strata.Report
