/-!
# TOML values

The values of a TOML document and the rules by which headers and keys build up its tables.  A
table remembers how it came about, because that decides whether later lines may add to it: a table
with its own header is complete once the next header starts, a table that only stands on the way
to another one may still get its header, and a table made by dotted keys takes further dotted keys.
-/

namespace Strata.Toml

/-- How a table came about. -/
inductive TableForm where
  /-- It has a header of its own. -/
  | header
  /-- It stands on the way to a table that has a header. -/
  | implied
  /-- It was made by a dotted key, inside braces if `inBraces`. -/
  | dotted (inBraces : Bool)
  /-- It is written in braces. -/
  | braces
deriving DecidableEq, Repr

namespace TableForm

/-- Whether a table was made by dotted keys. -/
def isDotted : TableForm → Bool
  | dotted _ => true
  | _ => false

/-- Whether a table stands inside a value. -/
def isInline : TableForm → Bool
  | dotted inBraces => inBraces
  | braces => true
  | _ => false

end TableForm

/-- A value.  Floats and dates are told from other values, but nothing is kept of them. -/
inductive Value where
  /-- A text. -/
  | string (text : String)
  /-- A whole number. -/
  | integer (n : Int)
  /-- A number with a fraction or an exponent, infinity, or no number. -/
  | float
  /-- True or false. -/
  | boolean (b : Bool)
  /-- A date, a time or both. -/
  | datetime
  /-- A list in brackets. -/
  | array (items : List Value)
  /-- The tables under headers in double brackets. -/
  | tables (items : List Value)
  /-- A table with its entries in the order of their insertion. -/
  | table (form : TableForm) (entries : List (String × Value))
deriving Inhabited, Repr

/-- The entries of a table in the order of their insertion. -/
abbrev Entries := List (String × Value)

namespace Entries

/-- The value of a key. -/
def get? (entries : Entries) (key : String) : Option Value :=
  (entries.find? fun entry => entry.1 == key).map Prod.snd

/-- The entries without those of a key. -/
def erase (entries : Entries) (key : String) : Entries :=
  entries.filter fun entry => entry.1 != key

/-- The entries with another value for a key that is there. -/
def replace (entries : Entries) (key : String) (value : Value) : Entries :=
  entries.map fun entry => if entry.1 == key then (key, value) else entry

end Entries

/-- Who goes down a path of keys. -/
inductive Descent where
  /-- The path of a header. -/
  | header
  /-- The path before the last part of a dotted key. -/
  | keys (inBraces : Bool)
deriving DecidableEq, Repr

namespace Descent

/-- The form of a table made on the way. -/
def makes : Descent → TableForm
  | header => .implied
  | keys inBraces => .dotted inBraces

/-- Whether a table may be entered on the way. -/
def mayEnter : Descent → TableForm → Bool
  | header, form => !form.isInline
  | keys true, form => form == .dotted true
  | keys false, form => form == .dotted false || form == .implied

end Descent

/-- The entries of the last of several tables. -/
def lastEntries? (items : List Value) : Option (TableForm × Entries) :=
  match items.getLast? with
  | some (.table form entries) => some (form, entries)
  | _ => none

/-- Changes the table at the end of a path by `change`, making the tables on the way that are
missing.  In a list of tables the way goes on in the last one. -/
def alterAt (descent : Descent) (change : TableForm → Entries → Option Entries) :
    (path : List String) → TableForm → Entries → Option Entries
  | [], form, entries => change form entries
  | key :: path, _, entries =>
    match entries.get? key with
    | none => do
      let below ← alterAt descent change path descent.makes []
      return entries ++ [(key, .table descent.makes below)]
    | some (.table form below) =>
      if descent.mayEnter form then do
        let below ← alterAt descent change path form below
        return entries.replace key (.table form below)
      else none
    | some (.tables items) =>
      match lastEntries? items with
      | none => none
      | some (form, below) => do
        let below ← alterAt descent change path form below
        return entries.replace key (.tables (items.dropLast ++ [.table form below]))
    | some _ => none

/-- A key with the parts before its last dot, and its value. -/
structure Assignment where
  /-- The parts before the last one. -/
  path : List String
  /-- The last part. -/
  key : String
  /-- The value. -/
  value : Value

/-- Adds an assignment to a table.  The key must be new, and dotted keys must not mix with other
ways to fill a table. -/
def assign (inBraces : Bool) (form : TableForm) (entries : Entries) (a : Assignment) :
    Option Entries :=
  alterAt (.keys inBraces)
    (fun form entries =>
      if form.isDotted = a.path.isEmpty ∨ (entries.get? a.key).isSome then none
      else some (entries ++ [(a.key, a.value)]))
    a.path form entries

/-- Adds assignments one after another. -/
def assignAll (inBraces : Bool) (form : TableForm) (entries : Entries)
    (assignments : List Assignment) : Option Entries :=
  assignments.foldlM (assign inBraces form) entries

/-- The table that some assignments in braces make. -/
def Value.ofBraces? (assignments : List Assignment) : Option Value :=
  (assignAll true .braces [] assignments).map (.table .braces)

/-- A header. -/
structure Header where
  /-- Whether it is written in double brackets. -/
  many : Bool
  /-- The keys before the last one. -/
  path : List String
  /-- The last key. -/
  key : String

/-- A stretch of a document: its header, if it has one, and the assignments under it. -/
structure Section where
  /-- The header; the start of a document has none. -/
  header : Option Header
  /-- The assignments. -/
  assignments : List Assignment

/-- The table that a header and the assignments under it make out of what stands there already. -/
def openTable (header : Header) (assignments : List Assignment) (_ : TableForm)
    (entries : Entries) : Option Entries :=
  let fill (before : Entries) : Option Value :=
    (assignAll false .header before assignments).map (.table .header)
  if header.many then
    match entries.get? header.key with
    | none => (fill []).map fun table => entries ++ [(header.key, .tables [table])]
    | some (.tables items) =>
      (fill []).map fun table => entries.replace header.key (.tables (items ++ [table]))
    | some _ => none
  else
    match entries.get? header.key with
    | none => (fill []).map fun table => entries ++ [(header.key, table)]
    | some (.table .implied before) =>
      (fill before).map fun table => entries.erase header.key ++ [(header.key, table)]
    | some _ => none

/-- Adds a stretch of a document to the tables before it. -/
def addSection (entries : Entries) (part : Section) : Option Entries :=
  match part.header with
  | none => assignAll false .header entries part.assignments
  | some header => alterAt .header (openTable header part.assignments) header.path .header entries

/-- The top table of a document. -/
def ofSections? (parts : List Section) : Option Entries :=
  parts.foldlM addSection []

end Strata.Toml
