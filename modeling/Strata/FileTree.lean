import Strata.Path

/-!
# File trees

A directory with everything below it, held in memory.  Paths are followed as an operating system
follows them: `..` leads to the directory above, and only a directory has something below it.
There are directories above the tree, but what else they hold does not exist.
-/

namespace Strata

open Strata.Text

/-- What a file holds. -/
inductive Content where
  /-- A text. -/
  | text (s : String)
  /-- Bytes that are not the encoding of a text. -/
  | binary (bytes : ByteArray)
deriving Inhabited

namespace Content

/-- The content that some bytes make. -/
def ofBytes (bytes : ByteArray) : Content :=
  match String.fromUTF8? bytes with
  | some s => text s
  | none => binary bytes

/-- The text of a file, if it holds one. -/
def text? : Content → Option String
  | text s => some s
  | binary _ => none

/-- Cuts bytes at line feeds. -/
def byteLines : List UInt8 → List (List UInt8)
  | [] => [[]]
  | b :: rest =>
    if b == 10 then [] :: byteLines rest
    else
      match byteLines rest with
      | [] => [[b]]
      | line :: others => (b :: line) :: others

/-- The texts of some lines up to the first line that is not text. -/
def readableLines : List (List UInt8) → List (List Char)
  | [] => []
  | line :: rest =>
    match String.fromUTF8? ⟨line.toArray⟩ with
    | some s => s.toList :: readableLines rest
    | none => []

/-- The lines of a file, up to the first one that is not text. -/
def lines : Content → List (List Char)
  | text s => Text.lines s.toList
  | binary bytes => (readableLines (byteLines bytes.toList)).map Text.dropReturn

end Content

/-- A file, or a directory with the entries in it. -/
inductive FileTree where
  /-- A file. -/
  | file (content : Content)
  /-- A directory. -/
  | dir (entries : List (FileName × FileTree))
deriving Inhabited

/-- Why a path leads nowhere. -/
inductive LookupError where
  /-- There is nothing of that name. -/
  | notFound
  /-- Something that is not a directory stands where one is needed. -/
  | notDirectory
  /-- A directory stands where a file is needed. -/
  | isDirectory
  /-- The file holds no text. -/
  | notText
  /-- A directory above the tree, of which nothing is known. -/
  | outside
deriving DecidableEq, Repr

/-- What the operating system says about it. -/
def LookupError.message : LookupError → String
  | notFound => "No such file or directory (os error 2)"
  | notDirectory => "Not a directory (os error 20)"
  | isDirectory => "Is a directory (os error 21)"
  | notText => "stream did not contain valid UTF-8"
  | outside => "No such file or directory (os error 2)"

namespace FileTree

/-- An empty directory. -/
def empty : FileTree := dir []

/-- The entries of a directory; a file has none. -/
def entries : FileTree → List (FileName × FileTree)
  | file _ => []
  | dir entries => entries

/-- Whether it is a directory. -/
def isDirectory : FileTree → Bool
  | file _ => false
  | dir _ => true

/-- The entry of this name. -/
def child? (tree : FileTree) (name : FileName) : Option FileTree :=
  (tree.entries.find? fun entry => entry.1 == name).map Prod.snd

/-- What lies at the end of a chain of names. -/
def at? (tree : FileTree) : List FileName → Option FileTree
  | [] => some tree
  | name :: rest =>
    match tree.child? name with
    | none => none
    | some below => below.at? rest

/-- The tree with an entry of this name set to what `f` makes of the present one. -/
def setChild (name : FileName) (f : Option FileTree → FileTree) :
    List (FileName × FileTree) → List (FileName × FileTree)
  | [] => [(name, f none)]
  | (key, tree) :: rest =>
    if key = name then (key, f (some tree)) :: rest else (key, tree) :: setChild name f rest

/-- Puts something at the end of a chain of names, making the directories on the way.  Putting a
directory where one is already changes nothing. -/
def insert (item : FileTree) : List FileName → FileTree → FileTree
  | [], tree =>
    match item, tree with
    | dir [], dir entries => dir entries
    | _, _ => item
  | name :: rest, tree =>
    dir (setChild name (fun below => insert item rest (below.getD empty)) tree.entries)

/-- A place in a tree: what stands there, and the directories above it, nearest first, each with
the name that leads on from it. -/
structure Place where
  /-- The directories above. -/
  above : List (FileName × FileTree)
  /-- What stands there. -/
  here : FileTree

namespace Place

/-- The names that lead to the place from the top of the tree. -/
def names (place : Place) : List FileName := (place.above.map Prod.fst).reverse

/-- Whether a path leads nowhere but upwards. -/
def onlyUp (path : Path) : Bool :=
  path.all fun part => part == .here || part == .up

/-- Follows a path from a place. -/
def follow (place : Place) : Path → Except LookupError Place
  | [] => .ok place
  | part :: rest =>
    if !place.here.isDirectory then .error .notDirectory
    else
      match part with
      | .root => .error .notFound
      | .here => follow place rest
      | .up =>
        match place.above with
        | [] => .error (if onlyUp rest then .outside else .notFound)
        | (_, parent) :: others => follow ⟨others, parent⟩ rest
      | .name name =>
        match place.here.child? name with
        | none => .error .notFound
        | some below => follow ⟨(name, place.here) :: place.above, below⟩ rest

end Place

/-- The place that a path leads to.  The empty path and absolute paths lead nowhere. -/
def place (tree : FileTree) (path : Path) : Except LookupError Place :=
  if path = [] ∨ path.head? = some .root then .error .notFound
  else Place.follow ⟨[], tree⟩ path

/-- What a path leads to. -/
def lookup (tree : FileTree) (path : Path) : Except LookupError FileTree :=
  (tree.place path).map Place.here

/-- Whether a path leads to a file. -/
def isFileAt (tree : FileTree) (path : Path) : Bool :=
  match tree.lookup path with
  | .ok (file _) => true
  | _ => false

/-- Whether a path leads to a directory. -/
def isDirAt (tree : FileTree) (path : Path) : Bool :=
  match tree.lookup path with
  | .ok (dir _) => true
  | _ => false

/-- The text of the file that a path leads to. -/
def readText (tree : FileTree) (path : Path) : Except LookupError String :=
  match tree.lookup path with
  | .error e => .error e
  | .ok (dir _) => .error .isDirectory
  | .ok (file content) =>
    match content.text? with
    | some s => .ok s
    | none => .error .notText

end FileTree

end Strata
