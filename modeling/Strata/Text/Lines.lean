import Strata.Text.Blank

/-!
# Lines and separators

Cutting a text into lines and into parts between separators, and putting parts together again.
-/

namespace Strata.Text

/-- The parts of a string between the characters that satisfy `p`, empty parts included. -/
def partsBy (p : Char → Bool) (text : String) : List String :=
  (pieces p text.toList).map String.ofList

/-- The parts of a string between occurrences of `sep`, empty parts included. -/
def partsAt (sep : Char) (text : String) : List String :=
  partsBy (· == sep) text

/-- The rest of `text` after the leading part `start`, if it starts that way. -/
def after? : (start text : List Char) → Option (List Char)
  | [], text => some text
  | _ :: _, [] => none
  | a :: start, c :: text => if a = c then after? start text else none

/-- Whether `text` starts with `start`. -/
def startsWith (start text : List Char) : Bool :=
  (after? start text).isSome

/-- Whether `text` ends with `ending`. -/
def endsWith (ending text : List Char) : Bool :=
  startsWith ending.reverse text.reverse

/-- The part of `text` before the ending `ending`, if it ends that way. -/
def before? (ending text : List Char) : Option (List Char) :=
  (after? ending.reverse text.reverse).map List.reverse

/-- A line without the carriage return at its end, if it has one. -/
def dropReturn (line : List Char) : List Char :=
  (before? ['\r'] line).getD line

/-- Ends every line but the last one; a last line that is empty is no line. -/
def closeLines : List (List Char) → List (List Char)
  | [] => []
  | [last] => if last.isEmpty then [] else [last]
  | line :: rest => dropReturn line :: closeLines rest

/-- The lines of a text.  A line ends at a line feed, and a carriage return directly before the
line feed belongs to the line end.  A text that ends in a line feed has no empty last line. -/
def lines (text : List Char) : List (List Char) :=
  closeLines (pieces (· == '\n') text)

/-- Whether `part` occurs in `text` as consecutive characters. -/
def contains (part : List Char) : List Char → Bool
  | [] => part.isEmpty
  | c :: rest => startsWith part (c :: rest) || contains part rest

/-- Whether a string starts with another. -/
def hasStart (start text : String) : Bool :=
  startsWith start.toList text.toList

/-- Whether a string ends with another. -/
def hasEnd (ending text : String) : Bool :=
  endsWith ending.toList text.toList

/-- The rest of a string after its leading part. -/
def afterStart? (start text : String) : Option String :=
  (after? start.toList text.toList).map String.ofList

/-- The part of a string before its ending. -/
def beforeEnd? (ending text : String) : Option String :=
  (before? ending.toList text.toList).map String.ofList

/-- Whether a string occurs inside another. -/
def occursIn (part text : String) : Bool :=
  contains part.toList text.toList

/-- The strings of a list with `sep` between neighbours. -/
def joinWith (sep : String) : List String → String
  | [] => ""
  | [part] => part
  | part :: rest => part ++ sep ++ joinWith sep rest

/-- A string with blanks trimmed at both ends. -/
def trimmed (text : String) : String :=
  String.ofList (trim text.toList)

/-- A string with its ASCII capitals made small. -/
def asciiLower (text : String) : String :=
  String.ofList (text.toList.map Char.toLower)

end Strata.Text
