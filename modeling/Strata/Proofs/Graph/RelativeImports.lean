import Strata.Language.Python
import Strata.Proofs.Graph.Growth
import Strata.Proofs.Text.Parts

/-!
# Relative imports

A relative import is counted from the package of the importing file, an absolute one gives the name
in full.  Putting names together is associative, also where one of them is empty, so both look for
the same name.  If that name leads nowhere, a relative import is local by its form, and an absolute
one if its first segment starts a package.  The importing file belongs to such a package: the name
starts with the first segment of its own.  So both ways of writing an import lead to the same place
and are of the same kind (`classify_relative_eq_absolute`).
-/

namespace Strata

open Strata.Text

/-! ### Dotted names -/

namespace Name

lemma join_empty_left (name : String) : join "" name = name := if_pos rfl

lemma join_empty_right (base : String) : join base "" = base := by
  by_cases hbase : base = ""
  · rw [hbase, join_empty_left]
  · rw [join, if_neg hbase, if_pos rfl]

lemma join_of_ne {base name : String} (hbase : base ≠ "") (hname : name ≠ "") :
    join base name = base ++ "." ++ name := by
  rw [join, if_neg hbase, if_neg hname]

/-- Names can be put together in any order, empty ones included. -/
lemma join_assoc (a b c : String) : join (join a b) c = join a (join b c) := by
  by_cases ha : a = ""
  · rw [ha, join_empty_left, join_empty_left]
  by_cases hb : b = ""
  · rw [hb, join_empty_left, join_empty_right]
  by_cases hc : c = ""
  · rw [hc, join_empty_right, join_empty_right]
  have hab : a ++ "." ++ b ≠ "" := by simp
  have hbc : b ++ "." ++ c ≠ "" := by simp
  rw [join_of_ne ha hb, join_of_ne hb hc, join_of_ne hab hc, join_of_ne ha hbc]
  simp only [String.append_assoc]

/-- The name consists of `first` alone, or goes on after it with a dot. -/
def StartsAt (first name : String) : Prop := name = first ∨ ∃ more, name = first ++ "." ++ more

lemma StartsAt.join {first base : String} (h : StartsAt first base) (hfirst : first ≠ "")
    (name : String) : StartsAt first (join base name) := by
  by_cases hname : name = ""
  · rwa [hname, join_empty_right]
  rcases h with rfl | ⟨more, rfl⟩
  · exact Or.inr ⟨name, join_of_ne hfirst hname⟩
  · refine Or.inr ⟨more ++ "." ++ name, ?_⟩
    rw [join_of_ne (by simp) hname]
    simp only [String.append_assoc]

lemma startsAt_joinWith (first : String) (others : List String) :
    StartsAt first (joinWith "." (first :: others)) := by
  cases others with
  | nil => exact Or.inl rfl
  | cons next others => exact Or.inr ⟨joinWith "." (next :: others), rfl⟩

/-- A name that starts at a segment has that segment as its root. -/
lemma StartsAt.root_eq {first name : String} (h : StartsAt first name) (hfirst : first ≠ "")
    (hdot : '.' ∉ first.toList) (hslash : '/' ∉ first.toList) : root name = first := by
  have hfree : ∀ c ∈ first.toList, (c == '.' || c == '/') = false := by
    intro c hc
    have hcdot : c ≠ '.' := by
      rintro rfl
      exact hdot hc
    have hcslash : c ≠ '/' := by
      rintro rfl
      exact hslash hc
    simp [hcdot, hcslash]
  -- whatever follows, the first segment ends where `first` ends
  have hparts : ∃ others, partsBy (fun c => c == '.' || c == '/') name = first :: others := by
    rcases h with rfl | ⟨more, rfl⟩
    · refine ⟨[], ?_⟩
      rw [partsBy, pieces_of_forall hfree]
      simp
    · have hchars : (first ++ "." ++ more).toList = first.toList ++ '.' :: more.toList := by simp
      rw [partsBy, hchars, pieces_append_cons hfree rfl, List.map_cons, String.ofList_toList]
      exact ⟨_, rfl⟩
  obtain ⟨others, hothers⟩ := hparts
  rw [root, segments, hothers, List.filter_cons_of_pos (by simpa using hfirst)]
  rfl

end Name

/-! ### Packages and what looks local -/

namespace Index

/-- The first segment of a package makes names look local. -/
lemma head_mem_localPrefixes {package first : String} {others : List String}
    (hparts : partsAt '.' package = first :: others) : first ∈ localPrefixes package := by
  have hleading : Name.leading package 1 = some first := by
    simp [Name.leading, hparts, joinWith]
  rw [localPrefixes, List.mem_cons]
  exact Or.inr (List.mem_filterMap.2 ⟨1, by simp, hleading⟩)

/-- A name looks local if it starts with the first segment of a file's package. -/
lemma looksLocal_of_startsAt {files : List OutlinedFile} {file : OutlinedFile}
    (hfile : file ∈ files) {package first name : String} {others : List String}
    (hpackage : file.2.package = some package) (hparts : partsAt '.' package = first :: others)
    (hfirst : first ≠ "") (hslash : '/' ∉ first.toList) (hname : Name.StartsAt first name) :
    (ofFiles files).looksLocal name = true := by
  have hdot : '.' ∉ first.toList :=
    not_mem_of_mem_partsAt (hparts ▸ List.mem_cons_self)
  have hknown : first ∈ (ofFiles files).prefixes :=
    mem_prefixes_ofFiles.2 ⟨file, hfile, package, hpackage, head_mem_localPrefixes hparts⟩
  rw [looksLocal, hname.root_eq hfirst hdot hslash, Bool.or_eq_true]
  exact Or.inl (List.contains_iff_mem.2 hknown)

end Index

namespace Language.Python

/-- The package of a file is put together from parts of its path. -/
lemma exists_package_eq (path : String) : ∃ parts : List String,
    (∀ part ∈ parts, '/' ∉ part.toList) ∧ (moduleNames path).2 = joinWith "." parts := by
  let parts := (partsAt '/' ((beforeEnd? ".py" path).getD path)).filter fun part => part != ""
  let below := if 1 < parts.length && parts.head? == some "src" then parts.drop 1 else parts
  refine ⟨below.dropLast, ?_, ?_⟩
  · intro part hpart
    have hbelow : part ∈ below := (List.dropLast_sublist below).subset hpart
    -- a leading `src` is left out, and nothing comes in
    have hparts : part ∈ parts := by
      simp only [below] at hbelow
      split at hbelow
      · exact List.mem_of_mem_drop hbelow
      · exact hbelow
    exact not_mem_of_mem_partsAt (List.mem_filter.1 hparts).1
  · have hnames : moduleNames path =
        if below.getLast? = some "__init__" then
          (joinWith "." below.dropLast, joinWith "." below.dropLast)
        else (joinWith "." below, joinWith "." below.dropLast) := rfl
    rw [hnames, apply_ite Prod.snd, ite_self]

/-- The package of a file holds no slash, whatever its path. -/
lemma slash_not_mem_package (path : String) : '/' ∉ (moduleNames path).2.toList := by
  obtain ⟨parts, hparts, hpackage⟩ := exists_package_eq path
  rw [hpackage]
  clear hpackage
  fun_induction joinWith "." parts with
  | case1 => simp
  | case2 part => exact hparts part List.mem_cons_self
  | case3 part rest _ ih =>
    have hpart := hparts part List.mem_cons_self
    have hrest := ih fun other hother => hparts other (List.mem_cons_of_mem _ hother)
    simp [hpart, hrest]

end Language.Python

namespace Resolution

open Index

/-- A relative import is counted from a package that starts where the importing one starts. -/
lemma startsAt_relativeBase {package base first : String} {others : List String} {level : ℕ}
    (hparts : partsAt '.' package = first :: others) (hsegments : "" ∉ partsAt '.' package)
    (hbase : relativeBase package level = some base) : Name.StartsAt first base := by
  have hkept : (partsAt '.' package).filter (fun part => part != "") = first :: others := by
    rw [hparts] at hsegments ⊢
    refine List.filter_eq_self.2 fun part hpart => bne_iff_ne.2 ?_
    rintro rfl
    exact hsegments hpart
  unfold relativeBase at hbase
  simp only [hkept] at hbase
  split_ifs at hbase with hascent
  -- at least one segment is left
  have hcount : ∃ count, (first :: others).length - (level - 1) = count + 1 := by
    refine ⟨(first :: others).length - (level - 1) - 1, ?_⟩
    simp only [List.length_cons] at hascent ⊢
    omega
  obtain ⟨count, hcount⟩ := hcount
  rw [hcount, List.take_succ_cons] at hbase
  rw [← Option.some.inj hbase]
  exact Name.startsAt_joinWith first (others.take count)

lemma settle_kind_ne_external {found : Option String} {name : String} :
    (settle found name .unresolved).2 ≠ .external := by
  cases found <;> simp [settle]

/-- An import counted from the package of a file means the same as one that gives the whole name,
and is never external: for a name and for everything in a package, on any line and however the
statements are written.  The file belongs to the package that its path gives, and that package has
no empty segment. -/
theorem classify_relative_eq_absolute {files : List OutlinedFile} {file : OutlinedFile}
    (hfile : file ∈ files) {package base : String} (hpackage : file.2.package = some package)
    (hpath : package = (Language.Python.moduleNames file.1).2)
    (hsegments : "" ∉ partsAt '.' package) {level : ℕ}
    (hbase : relativeBase package level = some base) (module name : String) (line line' : ℕ)
    (statement statement' : String) :
    let target := fun entry => classify (ofFiles files) file.2.package entry
    let relative : Import := ⟨line, statement, .relative level (Name.join module name) false⟩
    let absolute : Import := ⟨line', statement', .name (Name.join (Name.join base module) name)⟩
    let relativeAll : Import := ⟨line, statement, .relative level module true⟩
    let absoluteAll : Import := ⟨line', statement', .wildcard (Name.join base module)⟩
    (target relative = target absolute ∧ (target relative).2 ≠ .external) ∧
      (target relativeAll = target absoluteAll ∧ (target relativeAll).2 ≠ .external) := by
  intro target relative absolute relativeAll absoluteAll
  obtain ⟨first, others, hparts⟩ := List.exists_cons_of_ne_nil (partsAt_ne_nil '.' package)
  have hfirst : first ≠ "" := by
    rintro rfl
    exact hsegments (hparts ▸ List.mem_cons_self)
  have hslash : '/' ∉ first.toList := by
    intro hmem
    have hwhole : '/' ∈ package.toList := mem_of_mem_partsAt (hparts ▸ List.mem_cons_self) hmem
    rw [hpath] at hwhole
    exact Language.Python.slash_not_mem_package file.1 hwhole
  have hstart := startsAt_relativeBase hparts hsegments hbase
  -- whatever is counted from the package looks local
  have hmissing : ∀ rest, kindOfMissing (ofFiles files) (Name.join base rest) = .unresolved := by
    intro rest
    rw [kindOfMissing, if_pos]
    exact looksLocal_of_startsAt hfile hpackage hparts hfirst hslash (hstart.join hfirst rest)
  have hrelative : ∀ rest all, target ⟨line, statement, .relative level rest all⟩ =
      settle (if all then wildcard? (ofFiles files) (Name.join base rest)
        else (ofFiles files).lookup? (Name.join base rest)) (Name.join base rest) .unresolved := by
    intro rest all
    simp only [target, classify, hpackage, Option.getD_some, hbase]
  refine ⟨⟨?_, ?_⟩, ?_, ?_⟩
  · rw [hrelative, ← hmissing (Name.join module name), ← Name.join_assoc]
    rfl
  · rw [hrelative]
    exact settle_kind_ne_external
  · rw [hrelative, ← hmissing module]
    rfl
  · rw [hrelative]
    exact settle_kind_ne_external

/-- A Python file with its outline. -/
def pythonFile (path content : String) : OutlinedFile :=
  (path, Language.Python.outline path content.toList)

/-- From `app.views`, two dots lead to `app`: a known module, a name that no file has and everything
in a package are found, or missed, as under their whole names. -/
theorem classify_relative_eq_absolute_home :
    let home := pythonFile "src/app/views/home.py" ""
    let files := [pythonFile "src/app/orders/place.py" "def place(): pass", home]
    let target := fun entry => classify (ofFiles files) home.2.package entry
    home ∈ files ∧ home.2.package = some "app.views" ∧
      "app.views" = (Language.Python.moduleNames home.1).2 ∧ "" ∉ partsAt '.' "app.views" ∧
      relativeBase "app.views" 2 = some "app" ∧
      target ⟨1, "from ..orders import place", .relative 2 "orders.place" false⟩ =
        target ⟨8, "from app.orders import place", .name "app.orders.place"⟩ ∧
      target ⟨1, "from ..orders import place", .relative 2 "orders.place" false⟩ =
        ("src/app/orders/place.py", .resolved) ∧
      target ⟨2, "from .. import ghost", .relative 2 "ghost" false⟩ =
        target ⟨9, "from app import ghost", .name "app.ghost"⟩ ∧
      target ⟨2, "from .. import ghost", .relative 2 "ghost" false⟩ = ("app.ghost", .unresolved) ∧
      target ⟨1, "from ..orders import *", .relative 2 "orders" true⟩ =
        target ⟨8, "from app.orders import *", .wildcard "app.orders"⟩ ∧
      target ⟨1, "from ..orders import *", .relative 2 "orders" true⟩ =
        ("src/app/orders/place.py", .resolved) := by
  intro home files target
  have hfile : home ∈ files := by simp [files]
  have hpackage : home.2.package = some "app.views" := by decide +kernel
  have hpath : "app.views" = (Language.Python.moduleNames home.1).2 := by decide +kernel
  have hsegments : "" ∉ partsAt '.' "app.views" := by decide +kernel
  have hbase : relativeBase "app.views" 2 = some "app" := by decide +kernel
  have hagree := classify_relative_eq_absolute hfile hpackage hpath hsegments hbase
  refine ⟨hfile, hpackage, hpath, hsegments, hbase, ?_, by decide +kernel, ?_, by decide +kernel,
    ?_, by decide +kernel⟩
  · exact (hagree "orders" "place" 1 8 _ _).1.1
  · exact (hagree "" "ghost" 2 9 _ _).1.1
  · exact (hagree "orders" "" 1 8 _ _).2.1

end Resolution

end Strata
