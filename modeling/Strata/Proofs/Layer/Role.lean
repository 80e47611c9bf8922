import Mathlib.Order.Lattice
import Strata.Layer.Role
import Strata.Proofs.Text.Parts

/-!
# Roles of longer names

Roles are ordered by how early they are tried, so the role of a layer is the greatest one that its
name gives away.  A name gives away what its words give away one by one, and what they give away
when they are written together (`le_ofLayer_iff`).  Putting two names together keeps the words, so
no role is lost that a single word gives away; but all words are written together then, and the role
of a name such as `view-model`, whose words give it away only together, can be lost
(`ofLayer_append_dash`).
-/

namespace Strata.Role

open Strata.Text

/-! ### The order of roles -/

/-- How early a role is tried: the greater, the earlier. -/
def rank : Role → ℕ
  | stateHolder => 4
  | presentation => 3
  | domain => 2
  | data => 1
  | other => 0

lemma rank_injective : Function.Injective rank := by
  intro a b h
  cases a <;> cases b <;> first | rfl | exact absurd h (by decide)

instance : LinearOrder Role := LinearOrder.lift' rank rank_injective

lemma other_le (role : Role) : other ≤ role := Nat.zero_le role.rank

/-- The roles are tried from the greatest one down. -/
lemma pairwise_tried : tried.Pairwise (· > ·) := by decide

/-- The first role of a falling list that passes a test is the greatest one that does. -/
lemma le_find?_iff {roles : List Role} (hroles : roles.Pairwise (· > ·)) (test : Role → Bool)
    {role : Role} :
    role ≤ (roles.find? test).getD other ↔
      role = other ∨ ∃ r ∈ roles, test r = true ∧ role ≤ r := by
  induction roles with
  | nil => simpa using (other_le role).ge_iff_eq'
  | cons first roles ih =>
    obtain ⟨hfirst, hroles⟩ := List.pairwise_cons.1 hroles
    by_cases htest : test first = true
    · rw [List.find?_cons_of_pos htest, Option.getD_some]
      constructor
      · exact fun h => .inr ⟨first, List.mem_cons_self, htest, h⟩
      · rintro (rfl | ⟨r, hr, -, h⟩)
        · exact other_le first
        · rcases List.mem_cons.1 hr with rfl | hr
          · exact h
          · exact h.trans (hfirst r hr).le
    · rw [List.find?_cons_of_neg htest, ih hroles]
      simp [htest]

/-! ### What words give away -/

lemma knows_empty (role : Role) : knows role.vocabulary "" = false := by
  cases role <;> decide +kernel

/-- A role is given away by a single word, or by all words written together.  If there are not
several words, writing them together gives nothing new. -/
lemma isIn_iff {words : List String} {role : Role} :
    isIn words role = true ↔
      (∃ word ∈ words, knows role.vocabulary word = true) ∨
        knows role.vocabulary (String.join words) = true := by
  rw [isIn, Bool.or_eq_true, List.any_eq_true, Bool.and_eq_true, decide_eq_true_eq]
  match words with
  | [] => simp [knows_empty]
  | [word] => simp
  | first :: second :: others => simp

/-- A text of small ASCII letters and digits. -/
def Compact (text : String) : Prop := ∀ c ∈ text.toList, c.isAlphanum = true ∧ c.toLower = c

/-- A letter that has been made small stays as it is. -/
lemma toLower_toLower (c : Char) : c.toLower.toLower = c.toLower := by
  by_cases h : c.val ≥ 'A'.val ∧ c.val ≤ 'Z'.val
  · have hsmall : c.toLower.val = c.val + ('a'.val - 'A'.val) := congrArg Char.val (dif_pos h)
    refine dif_neg ?_
    rw [hsmall]
    grind
  · have hself : c.toLower = c := dif_neg h
    rw [hself, hself]

lemma compact_of_mem_words {layer word : String} (h : word ∈ words layer) : Compact word := by
  obtain ⟨piece, hpiece, rfl⟩ := List.mem_map.1 (List.mem_of_mem_filter h)
  intro c hc
  rw [String.toList_ofList] at hc
  have halnum : (!c.isAlphanum) = false := eq_false_of_mem_pieces hpiece hc
  have hmem := mem_of_mem_pieces hpiece hc
  rw [asciiLower, String.toList_ofList] at hmem
  obtain ⟨a, -, rfl⟩ := List.mem_map.1 hmem
  exact ⟨by simpa using halnum, toLower_toLower a⟩

lemma compact_join_words (layer : String) : Compact (String.join (words layer)) := by
  intro c hc
  rw [String.toList_join] at hc
  obtain ⟨word, hword, hc⟩ := List.mem_flatMap.1 hc
  exact compact_of_mem_words hword c hc

/-- Such a text is its only word, unless it is empty. -/
lemma Compact.words_eq {text : String} (h : Compact text) :
    words text = if text = "" then [] else [text] := by
  have hlower : asciiLower text = text := by
    rw [asciiLower, ← String.toList_inj, String.toList_ofList]
    exact (List.map_congr_left fun c hc => (h c hc).2).trans (List.map_id _)
  have hparts : partsBy (fun c => !c.isAlphanum) text = [text] := by
    rw [partsBy, pieces_of_forall fun c hc => by simp [(h c hc).1]]
    simp
  rw [words, hlower, hparts]
  by_cases hempty : text = "" <;> simp [hempty]

/-- The role of such a text is the one that it gives away as a word. -/
lemma Compact.le_ofLayer_iff {text : String} (h : Compact text) {role : Role} :
    role ≤ ofLayer text ↔
      role = other ∨ ∃ r ∈ tried, knows r.vocabulary text = true ∧ role ≤ r := by
  have hisIn : ∀ r, isIn (words text) r = knows r.vocabulary text := by
    intro r
    rw [Bool.eq_iff_iff, isIn_iff, h.words_eq]
    split_ifs with hempty
    · simp [hempty]
    · simp
  rw [ofLayer, le_find?_iff pairwise_tried]
  simp only [hisIn]

/-- The role of a layer is the greatest among the roles of its words and of all its words written
together. -/
lemma le_ofLayer_iff {layer : String} {role : Role} :
    role ≤ ofLayer layer ↔
      (∃ word ∈ words layer, role ≤ ofLayer word) ∨
        role ≤ ofLayer (String.join (words layer)) := by
  have hwords : (∃ word ∈ words layer, role ≤ ofLayer word) ↔ ∃ word ∈ words layer,
      role = other ∨ ∃ r ∈ tried, knows r.vocabulary word = true ∧ role ≤ r :=
    exists_congr fun word => and_congr_right fun hword =>
      (compact_of_mem_words hword).le_ofLayer_iff
  rw [hwords, (compact_join_words layer).le_ofLayer_iff, ofLayer, le_find?_iff pairwise_tried]
  simp only [isIn_iff]
  constructor
  · rintro (h | ⟨r, hr, ⟨word, hword, hknows⟩ | hknows, h⟩)
    · exact .inr (.inl h)
    · exact .inl ⟨word, hword, .inr ⟨r, hr, hknows, h⟩⟩
    · exact .inr (.inr ⟨r, hr, hknows, h⟩)
  · rintro (⟨word, hword, h | ⟨r, hr, hknows, h⟩⟩ | h | ⟨r, hr, hknows, h⟩)
    · exact .inl h
    · exact .inr ⟨r, hr, .inl ⟨word, hword, hknows⟩, h⟩
    · exact .inl h
    · exact .inr ⟨r, hr, .inr hknows, h⟩

/-! ### Names put together -/

lemma words_append_dash (a b : String) : words (a ++ "-" ++ b) = words a ++ words b := by
  have hlower : asciiLower (a ++ "-" ++ b) =
      asciiLower a ++ String.ofList ['-'] ++ asciiLower b := by
    rw [← String.toList_inj]
    simp [asciiLower]
  rw [words, hlower, partsBy_append_sep (by decide), List.filter_append]
  rfl

/-- Putting two names together with a dash loses no role that a single word gives away.  The role of
either name is kept if and only if one of all the words, or all of them written together, give away
a role that is not less. -/
theorem ofLayer_append_dash (a b : String) :
    (∀ word ∈ words a ++ words b, ofLayer word ≤ ofLayer (a ++ "-" ++ b)) ∧
    (ofLayer a ≤ ofLayer (a ++ "-" ++ b) ↔
      (∃ word ∈ words a ++ words b, ofLayer a ≤ ofLayer word) ∨
        ofLayer a ≤ ofLayer (String.join (words a ++ words b))) ∧
    (ofLayer b ≤ ofLayer (a ++ "-" ++ b) ↔
      (∃ word ∈ words a ++ words b, ofLayer b ≤ ofLayer word) ∨
        ofLayer b ≤ ofLayer (String.join (words a ++ words b))) := by
  simp only [← words_append_dash]
  exact ⟨fun word hword => le_ofLayer_iff.2 (.inl ⟨word, hword, le_rfl⟩), le_ofLayer_iff,
    le_ofLayer_iff⟩

/-- A role that a word gives away, and one that all words give away together, with and without one
more word. -/
theorem ofLayer_append_dash_network :
    "views" ∈ words "net-work" ++ words "Views" ∧
      ofLayer "views" ≤ ofLayer ("net-work" ++ "-" ++ "Views") ∧
      ofLayer "net-work" = data ∧ ofLayer "net-work" ≤ ofLayer ("net-work" ++ "-" ++ "ing") := by
  have hviews : "views" ∈ words "net-work" ++ words "Views" := by decide +kernel
  refine ⟨hviews, (ofLayer_append_dash "net-work" "Views").1 _ hviews, by decide +kernel, ?_⟩
  exact (ofLayer_append_dash "net-work" "ing").2.1.2 (.inr (by decide +kernel))

/-- One more word makes a view of a view model, wherever it is put. -/
theorem ofLayer_append_dash_viewModel :
    ofLayer "view-model" = stateHolder ∧
      ofLayer ("view-model" ++ "-" ++ "home") = presentation ∧
      ofLayer ("home" ++ "-" ++ "view-model") = presentation ∧
      ¬ ofLayer "view-model" ≤ ofLayer ("view-model" ++ "-" ++ "home") ∧
      ¬ ofLayer "view-model" ≤ ofLayer ("home" ++ "-" ++ "view-model") := by
  decide +kernel

end Strata.Role
