import Mathlib.Data.List.Basic
import Mathlib.Tactic.Common
import Strata.Path

/-!
# Routes

Read component by component, a relative path goes up some levels and then down along names: a `..`
takes back the last name, and where there is none it goes up one more level.  Normalisation keeps
the names of this route but not the number of levels.  The `..` that it has kept looks to it like
a name, and the next `..` takes it away, so only whether the number is odd is left
(`normalize_eq_reduced`).
-/

namespace Strata.Path

/-- The way that a relative path goes. -/
structure Route where
  /-- How many levels it goes up. -/
  ups : ℕ := 0
  /-- The names that it then goes down along, last one first. -/
  names : List FileName := []
deriving DecidableEq, Repr

namespace Route

/-- The way with one more component.  A slash at the start of a path is where its way begins. -/
def step : Route → Part → Route
  | _, .root => {}
  | route, .here => route
  | ⟨ups, []⟩, .up => ⟨ups + 1, []⟩
  | ⟨ups, _ :: names⟩, .up => ⟨ups, names⟩
  | ⟨ups, names⟩, .name name => ⟨ups, name :: names⟩

/-- What normalisation keeps on the way, last component first, if `base` is what it starts with. -/
def kept (base : Path) (route : Route) : Path :=
  route.names.map .name ++ (List.replicate (route.ups % 2) .up ++ base)

/-- With nothing before it but maybe the slash of an absolute path, a `..` is kept or takes the
last `..` away. -/
lemma normalStep_up {base : Path} (hbase : base = [] ∨ base = [.root]) (ups : ℕ) :
    normalStep (List.replicate (ups % 2) .up ++ base) .up =
      List.replicate ((ups + 1) % 2) .up ++ base := by
  rcases Nat.mod_two_eq_zero_or_one ups with heven | hodd
  · rw [heven, Nat.add_mod, heven]
    rcases hbase with rfl | rfl <;> rfl
  · rw [hodd, Nat.add_mod, hodd]
    rcases hbase with rfl | rfl <;> rfl

/-- Normalisation follows the route. -/
lemma normalStep_kept {base : Path} (hbase : base = [] ∨ base = [.root]) (route : Route)
    {part : Part} (hpart : part ≠ .root) :
    normalStep (route.kept base) part = (route.step part).kept base := by
  obtain ⟨ups, names⟩ := route
  cases part with
  | root => exact absurd rfl hpart
  | here => rfl
  | name name => rfl
  | up =>
    cases names with
    | nil => exact normalStep_up hbase ups
    | cons name names => rfl

lemma foldl_normalStep_kept {base : Path} (hbase : base = [] ∨ base = [.root]) {path : Path}
    (hpath : .root ∉ path) (route : Route) :
    path.foldl normalStep (route.kept base) = (path.foldl step route).kept base := by
  induction path generalizing route with
  | nil => rfl
  | cons part path ih =>
    obtain ⟨hpart, hrest⟩ := not_or.1 (mt List.mem_cons.2 hpath)
    rw [List.foldl_cons, List.foldl_cons, normalStep_kept hbase route (Ne.symm hpart), ih hrest]

/-- Every name on the way was there before, or the component is that name. -/
lemma mem_names_of_step {route : Route} {part : Part} {name : FileName}
    (h : name ∈ (route.step part).names) : name ∈ route.names ∨ part = .name name := by
  obtain ⟨ups, names⟩ := route
  cases part with
  | root => exact absurd h List.not_mem_nil
  | here => exact Or.inl h
  | name other =>
    rcases List.mem_cons.1 h with rfl | h
    · exact Or.inr rfl
    · exact Or.inl h
  | up =>
    cases names with
    | nil => exact Or.inl h
    | cons last names => exact Or.inl (List.mem_cons_of_mem _ h)

lemma mem_of_mem_names {path : Path} {route : Route} {name : FileName}
    (h : name ∈ (path.foldl step route).names) : name ∈ route.names ∨ .name name ∈ path := by
  induction path generalizing route with
  | nil => exact Or.inl h
  | cons part path ih =>
    rcases ih h with hmem | hmem
    · rcases mem_names_of_step hmem with hmem | rfl
      · exact Or.inl hmem
      · exact Or.inr List.mem_cons_self
    · exact Or.inr (List.mem_cons_of_mem _ hmem)

/-- Each `..` goes up one level at most. -/
lemma ups_foldl_step_le (path : Path) (route : Route) :
    (path.foldl step route).ups ≤ route.ups + path.count .up := by
  induction path generalizing route with
  | nil => exact Nat.le_refl _
  | cons part path ih =>
    have hstep : (route.step part).ups ≤ route.ups + [part].count .up := by
      obtain ⟨ups, names⟩ := route
      cases part with
      | root => exact Nat.zero_le _
      | here => exact Nat.le_refl _
      | name name => exact Nat.le_refl _
      | up =>
        cases names with
        | nil => exact Nat.le_refl _
        | cons name names => exact Nat.le_succ _
    have hcount : (part :: path).count .up = [part].count .up + path.count .up := by
      rw [← List.count_append, List.singleton_append]
    have hrest := ih (route.step part)
    rw [List.foldl_cons]
    omega

end Route

/-- The way that a path goes. -/
def route (path : Path) : Route := path.foldl Route.step {}

/-- How many levels above the place that it is counted from a path climbs. -/
def climb (path : Path) : ℕ := (route path).ups

/-- The names that a path goes down along in the end. -/
def descent (path : Path) : List FileName := (route path).names.reverse

lemma climb_le_count (path : Path) : climb path ≤ path.count .up := by
  have hle := Route.ups_foldl_step_le path {}
  rwa [Nat.zero_add] at hle

lemma mem_of_mem_descent {path : Path} {name : FileName} (h : name ∈ descent path) :
    .name name ∈ path :=
  (Route.mem_of_mem_names (List.mem_reverse.1 h)).resolve_left List.not_mem_nil

/-- What is left of a path when it is normalised, apart from the slash of an absolute path. -/
def reduced (path : Path) : Path :=
  List.replicate (climb path % 2) .up ++ (descent path).map .name

lemma reverse_kept (base path : Path) :
    ((route path).kept base).reverse = base.reverse ++ reduced path := by
  simp [Route.kept, reduced, climb, descent]

/-- The normal form of a relative path: its names, and one `..` before them if it climbs an odd
number of levels. -/
lemma normalize_eq_reduced {path : Path} (hpath : .root ∉ path) :
    normalize path = reduced path := by
  have hfold := Route.foldl_normalStep_kept (Or.inl rfl) hpath {}
  rw [normalize]
  exact (congrArg List.reverse hfold).trans (reverse_kept [] path)

/-- The normal form of an absolute path. -/
lemma normalize_root_cons {path : Path} (hpath : .root ∉ path) :
    normalize (.root :: path) = .root :: reduced path := by
  have hfold := Route.foldl_normalStep_kept (Or.inr rfl) hpath {}
  rw [normalize]
  exact (congrArg List.reverse hfold).trans (reverse_kept [.root] path)

end Strata.Path
