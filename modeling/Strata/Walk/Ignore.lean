import Strata.FileTree
import Strata.Walk.IgnoreGlob

/-!
# Ignore files

A directory may hold rules about what to leave out below it: in `.ignore`, and, inside a git
repository, in `.gitignore` and in the repository's exclude file.  Of the rules in one file the
last one that fits decides, a rule in a deeper directory decides before one further up, and the
three kinds of file come in this order.  A rule may also keep what another one leaves out.
-/

namespace Strata.Ignore

open Strata.Text

/-- A line of an ignore file. -/
structure Rule where
  /-- What it applies to, over the bytes of the path below the directory of the file. -/
  pattern : Pattern
  /-- Whether it keeps what it applies to. -/
  keeps : Bool
  /-- Whether it applies to directories only. -/
  directoriesOnly : Bool
deriving Repr

/-- A line without trailing blanks; a blank after a backslash at its end stays, with all others. -/
def trimLine (line : List Char) : List Char :=
  if endsWith ['\\', ' '] line then line else trimEnd line

/-- A glob that has no slash applies in every directory below. -/
def anywhere (anchored : Bool) (glob : List Char) : List Char :=
  if anchored || glob.contains '/' || startsWith ['*', '*', '/'] glob || glob == ['*', '*'] then
    glob
  else ['*', '*', '/'] ++ glob

/-- A final `/**` means what is in the directory and not the directory itself. -/
def insideOnly (glob : List Char) : List Char :=
  if endsWith ['/', '*', '*'] glob then glob ++ ['/', '*'] else glob

/-- A glob without the slash at its end, and whether it has one; a backslash before the slash goes
with it. -/
def splitDirectoryMark (glob : List Char) : List Char × Bool :=
  match before? ['/'] glob with
  | none => (glob, false)
  | some rest => ((before? ['\\'] rest).getD rest, true)

/-- The rule with this glob after the marks at its start have been read. -/
def ruleOf? (keeps anchored : Bool) (glob : List Char) : Option Rule :=
  let (glob, directoriesOnly) := splitDirectoryMark glob
  (IgnoreGlob.toPattern? (insideOnly (anywhere anchored glob))).map fun pattern =>
    ⟨pattern, keeps, directoriesOnly⟩

/-- The glob without a slash at its start, and whether it has one. -/
def ruleAfterMark? (keeps : Bool) : List Char → Option Rule
  | '/' :: rest => ruleOf? keeps true rest
  | glob => ruleOf? keeps false glob

/-- Reads a line of an ignore file.  Comments and blank lines are no rules, and neither are lines
whose glob is at fault. -/
def parseRule? (line : List Char) : Option Rule :=
  if line.head? = some '#' then none
  else
    match trimLine line with
    | [] => none
    | '\\' :: '!' :: rest => ruleOf? false false ('!' :: rest)
    | '\\' :: '#' :: rest => ruleOf? false false ('#' :: rest)
    | '!' :: rest => ruleAfterMark? true rest
    | line => ruleAfterMark? false line

/-- The lines of a file without the marks that may stand at its start to tell its encoding. -/
def dropMarks : List (List Char) → List (List Char)
  | [] => []
  | line :: rest => line.dropWhile (· == '\ufeff') :: rest

/-- The rules in a file; there are none where no file is. -/
def rulesIn : Option FileTree → List Rule
  | some (.file content) => (dropMarks content.lines).filterMap parseRule?
  | _ => []

/-- What the rules of a file say about a path below its directory: whether to keep it. -/
def verdict? (rules : List Rule) (path : List UInt8) (isDirectory : Bool) : Option Bool :=
  (rules.reverse.find? fun rule =>
    (isDirectory || !rule.directoriesOnly) && IgnoreGlob.fits rule.pattern path).map Rule.keeps

/-- The rules in a directory. -/
structure DirectoryRules where
  /-- Those in `.ignore`. -/
  ignore : List Rule
  /-- Those in `.gitignore`. -/
  gitignore : List Rule
  /-- Those in the exclude file of the repository. -/
  exclude : List Rule
  /-- Whether the directory is the top of a repository. -/
  isRepository : Bool
deriving Repr

/-- The rules in a directory. -/
def DirectoryRules.ofTree (tree : FileTree) : DirectoryRules where
  ignore := rulesIn (tree.child? ".ignore")
  gitignore := rulesIn (tree.child? ".gitignore")
  exclude := rulesIn (tree.at? [".git", "info", "exclude"])
  isRepository := (tree.child? ".git").isSome

/-- A directory with rules, and the names that lead from it to the directory looked at. -/
structure Scope where
  /-- The rules. -/
  rules : DirectoryRules
  /-- The names. -/
  names : List FileName
deriving Repr

namespace Scope

/-- The scopes of a directory below, with its own rules. -/
def descend (scopes : List Scope) (name : FileName) (below : FileTree) : List Scope :=
  ⟨.ofTree below, []⟩ :: scopes.map fun scope => { scope with names := scope.names ++ [name] }

/-- The scopes up to the top of the innermost repository; none outside a repository. -/
def inRepository : List Scope → List Scope
  | [] => []
  | scope :: above =>
    if scope.rules.isRepository then [scope]
    else if above.any fun other => other.rules.isRepository then scope :: inRepository above
    else []

/-- What the nearest file of one kind says about an entry of the directory looked at. -/
def decide? (scopes : List Scope) (kind : DirectoryRules → List Rule) (name : FileName)
    (isDirectory : Bool) : Option Bool :=
  scopes.findSome? fun scope =>
    verdict? (kind scope.rules) (FileName.pathBytes (scope.names ++ [name])) isDirectory

/-- Whether an entry of the directory looked at is left out. -/
def ignores (scopes : List Scope) (name : FileName) (isDirectory : Bool) : Bool :=
  let repository := inRepository scopes
  let keeps :=
    (decide? scopes DirectoryRules.ignore name isDirectory).or <|
      (decide? repository DirectoryRules.gitignore name isDirectory).or <|
        decide? repository DirectoryRules.exclude name isDirectory
  keeps == some false

end Scope

end Strata.Ignore
