import Strata.Text.Lines
import Strata.Text.Utf8

/-!
# Names of files

A file system knows its entries by bytes.  Most names are texts, but some bytes are not those of any
text; such a name can be shown, but not so that it could be found again.
-/

namespace Strata

open Strata.Text

/-- The name of an entry of a directory. -/
inductive FileName where
  /-- A text. -/
  | text (s : String)
  /-- Bytes that are not those of a text. -/
  | raw (bytes : List UInt8) (broken : none ∈ Utf8.decode bytes)
deriving DecidableEq, Repr

namespace FileName

instance : Inhabited FileName := ⟨.text ""⟩

instance : Coe String FileName := ⟨.text⟩

/-- The name with these bytes. -/
def ofBytes (bytes : List UInt8) : FileName :=
  if broken : none ∈ Utf8.decode bytes then raw bytes broken else text (Utf8.shown bytes)

/-- The bytes of a name. -/
def bytes : FileName → List UInt8
  | text s => Text.bytes s
  | raw bytes _ => bytes

/-- The text that a name is. -/
def text? : FileName → Option String
  | text s => some s
  | raw _ _ => none

/-- How a name is shown. -/
def shown : FileName → String
  | text s => s
  | raw bytes _ => Utf8.shown bytes

/-- A name with an ending. -/
def append : FileName → String → FileName
  | text s, ending => text (s ++ ending)
  | raw bytes _, ending => ofBytes (bytes ++ Text.bytes ending)

/-- The order of names by their bytes. -/
def before (a b : FileName) : Bool := a.bytes < b.bytes

/-- How names that lead from one to the next are shown. -/
def path (names : List FileName) : String := joinWith "/" (names.map shown)

/-- The bytes of names that lead from one to the next, with slashes between them. -/
def pathBytes (names : List FileName) : List UInt8 :=
  (Text.bytes "/").intercalate (names.map bytes)

end FileName

end Strata
