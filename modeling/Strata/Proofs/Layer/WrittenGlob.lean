import Strata.Proofs.Layer.Glob
import Strata.Proofs.Pattern.Reading

/-!
# Globs as written patterns

The pattern of a glob is handed on in its written form.  Read back, that text stands for the pattern
it was written from, whatever characters the glob holds: no character of a glob is taken for a sign
of the written pattern, and no token runs into the next one (`read?_render_toPattern`).

The tokens themselves are characterised by how they are written.  From left to right, each token is
the longest one that the rest of the glob starts with (`longestMatch_iff`).
-/

namespace Strata.Glob

open Strata.Text

/-! ### Longest tokens -/

namespace Token

/-- How a token is written in a glob. -/
def written : Token → List Char
  | directories => ['*', '*', '/']
  | anything => ['*', '*']
  | inside => ['*']
  | single => ['?']
  | literal c => [c]

/-- The token can stand in a glob: a wildcard is no literal character. -/
def Proper : Token → Prop
  | literal c => c ≠ '*' ∧ c ≠ '?'
  | directories | anything | inside | single => True

/-- The token is the longest one that the text starts with. -/
structure IsLongest (token : Token) (text : List Char) : Prop where
  proper : token.Proper
  starts : token.written <+: text
  longest : ∀ other : Token, other.Proper → other.written <+: text →
    other.written.length ≤ token.written.length

end Token

/-- The tokens make up the glob, and each is the longest one that the glob goes on with. -/
inductive LongestMatch : List Char → List Token → Prop where
  /-- An empty glob has no tokens. -/
  | nil : LongestMatch [] []
  /-- The longest token, and the tokens of what follows it. -/
  | cons (token : Token) (rest : List Char) {tokens : List Token}
      (hfirst : token.IsLongest (token.written ++ rest)) (hrest : LongestMatch rest tokens) :
      LongestMatch (token.written ++ rest) (token :: tokens)

/-- Reading tokens takes the longest one first. -/
lemma tokens_of_isLongest {token : Token} {rest : List Char}
    (h : token.IsLongest (token.written ++ rest)) :
    tokens (token.written ++ rest) = token :: tokens rest := by
  cases token with
  | directories => simp [Token.written, tokens]
  | anything =>
    have hslash : ∀ tail, rest ≠ '/' :: tail := by
      rintro tail rfl
      have hle := h.longest .directories trivial ⟨tail, rfl⟩
      simp [Token.written] at hle
    simp only [Token.written, List.cons_append, List.nil_append]
    rw [tokens]
    exact hslash
  | inside =>
    have hstar : ∀ tail, rest ≠ '*' :: tail := by
      rintro tail rfl
      have hle := h.longest .anything trivial ⟨tail, rfl⟩
      simp [Token.written] at hle
    simp only [Token.written, List.cons_append, List.nil_append]
    rw [tokens]
    · exact fun tail htail => hstar _ htail
    · exact hstar
  | single => simp [Token.written, tokens]
  | literal c =>
    obtain ⟨hstar, hmark⟩ := h.proper
    exact tokens_cons hstar hmark rest

/-- The first token that is read is the longest one. -/
lemma longestMatch_tokens (glob : List Char) : LongestMatch glob (tokens glob) := by
  fun_induction tokens glob with
  | case1 => exact .nil
  | case2 rest ih =>
    refine LongestMatch.cons .directories rest ⟨trivial, List.prefix_append _ _, ?_⟩ ih
    intro other _ _
    cases other <;> simp [Token.written]
  | case3 rest hslash ih =>
    refine LongestMatch.cons .anything rest ⟨trivial, List.prefix_append _ _, ?_⟩ ih
    intro other _ hstarts
    cases other with
    | directories =>
      obtain ⟨tail, htail⟩ := hstarts
      simp only [Token.written, List.cons_append, List.nil_append, List.cons.injEq, true_and]
        at htail
      exact absurd htail.symm (hslash tail)
    | _ => simp [Token.written]
  | case4 rest hslash hstar ih =>
    refine LongestMatch.cons .inside rest ⟨trivial, List.prefix_append _ _, ?_⟩ ih
    intro other _ hstarts
    cases other with
    | directories | anything =>
      obtain ⟨tail, htail⟩ := hstarts
      simp only [Token.written, List.cons_append, List.nil_append, List.cons.injEq, true_and]
        at htail
      exact absurd htail.symm (hstar _)
    | _ => simp [Token.written]
  | case5 rest ih =>
    refine LongestMatch.cons .single rest ⟨trivial, List.prefix_append _ _, ?_⟩ ih
    intro other _ hstarts
    cases other with
    | directories | anything | inside => simp [Token.written] at hstarts
    | _ => simp [Token.written]
  | case6 c rest _ _ hstar hmark ih =>
    have hc : c ≠ '*' ∧ c ≠ '?' := ⟨fun h => hstar h, fun h => hmark h⟩
    refine LongestMatch.cons (.literal c) rest ⟨hc, List.prefix_append _ _, ?_⟩ ih
    intro other _ hstarts
    cases other with
    | directories | anything | inside =>
      exact absurd (List.cons_prefix_cons.1 hstarts).1.symm hc.1
    | _ => simp [Token.written]

/-- The tokens of a glob are the longest ones, and no other tokens are. -/
lemma longestMatch_iff {glob : List Char} {found : List Token} :
    LongestMatch glob found ↔ found = tokens glob := by
  constructor
  · intro h
    induction h with
    | nil => rfl
    | cons _ _ hfirst _ ih => rw [tokens_of_isLongest hfirst, ih]
  · rintro rfl
    exact longestMatch_tokens glob

/-! ### The written pattern -/

namespace Token

/-- Where a reader stands behind the written pattern of a token. -/
def modeBehind : Token → Pattern.Mode
  | directories | anything | inside => .repeated
  | single | literal _ => .ready

/-- Behind a whole item, the written pattern of a token is read as that pattern. -/
lemma foldlM_render (token : Token) {r : Pattern.Reader} (hr : r.settled = true) :
    token.toPattern.render.toList.foldlM Pattern.Reader.step r =
      some ⟨token.modeBehind, token.toPattern :: r.items, r.outer⟩ := by
  cases token with
  | directories =>
    have htext : directories.toPattern.render.toList = '(' :: "?:.*/)?".toList := by decide +kernel
    have hopen : r.step '(' = some { r with mode := .opened } :=
      Pattern.Reader.step_of_settled hr (by decide)
    rw [htext, List.foldlM_cons, hopen]
    rfl
  | anything =>
    have htext : anything.toPattern.render.toList = '.' :: "*".toList := by decide +kernel
    have hdot : r.step '.' = some (r.push (.one .any)) :=
      Pattern.Reader.step_of_settled hr (by decide)
    rw [htext, List.foldlM_cons, hdot]
    rfl
  | inside =>
    have htext : inside.toPattern.render.toList = '[' :: "^/]*".toList := by decide +kernel
    have hset : r.step '[' = some { r with mode := .setStart } :=
      Pattern.Reader.step_of_settled hr (by decide)
    rw [htext, List.foldlM_cons, hset]
    rfl
  | single =>
    have htext : single.toPattern.render.toList = '[' :: "^/]".toList := by decide +kernel
    have hset : r.step '[' = some { r with mode := .setStart } :=
      Pattern.Reader.step_of_settled hr (by decide)
    rw [htext, List.foldlM_cons, hset]
    rfl
  | literal c => exact Pattern.Reader.foldlM_escape hr c

lemma settled_modeBehind (token : Token) (items : List Pattern) (outer : List (List Pattern)) :
    Pattern.Reader.settled ⟨token.modeBehind, items, outer⟩ = true := by
  cases token <;> rfl

end Token

/-- The written patterns of some tokens, one behind another, are read as these patterns. -/
lemma foldlM_render_tokens (found : List Token) {r : Pattern.Reader} (hr : r.settled = true) :
    ∃ mode, (found.flatMap fun token => token.toPattern.render.toList).foldlM
        Pattern.Reader.step r =
      some ⟨mode, (found.map Token.toPattern).reverse ++ r.items, r.outer⟩ ∧
        Pattern.Reader.settled ⟨mode, [], []⟩ = true := by
  induction found generalizing r with
  | nil => exact ⟨r.mode, rfl, hr⟩
  | cons token found ih =>
    obtain ⟨mode, hread, hmode⟩ :=
      ih (token.settled_modeBehind (token.toPattern :: r.items) r.outer)
    refine ⟨mode, ?_, hmode⟩
    rw [List.flatMap_cons, List.foldlM_append, token.foldlM_render hr]
    simpa using hread

/-- The written pattern of a glob is read as the pattern of the glob. -/
lemma read?_render_toPattern (glob : String) :
    Pattern.read? (toPattern glob).render.toList = some (toPattern glob) := by
  have htext : (toPattern glob).render.toList =
      '^' ::
        (((tokens glob.toList).flatMap fun token => token.toPattern.render.toList) ++ ['$']) := by
    rw [toPattern, Pattern.toList_render_chain]
    simp [Pattern.render, List.flatMap_map]
  have hstart : Pattern.Reader.step ⟨.ready, [], []⟩ '^' = some ⟨.ready, [.atStart], []⟩ := rfl
  obtain ⟨mode, hread, hmode⟩ := foldlM_render_tokens (tokens glob.toList)
    (r := ⟨.ready, [.atStart], []⟩) rfl
  have hend : Pattern.Reader.step
      ⟨mode, ((tokens glob.toList).map Token.toPattern).reverse ++ [.atStart], []⟩ '$' =
        some ⟨.ready, .atEnd :: (((tokens glob.toList).map Token.toPattern).reverse ++ [.atStart]),
          []⟩ :=
    Pattern.Reader.step_of_settled hmode (by decide)
  rw [Pattern.read?, htext, List.foldlM_cons, hstart, Option.bind_eq_bind, Option.bind_some,
    List.foldlM_append, hread, Option.bind_eq_bind, Option.bind_some, List.foldlM_cons, hend]
  simp [Pattern.Reader.settled, toPattern]

example : (toPattern "src/**/[a].ts?").render = "^src/(?:.*/)?\\[a\\]\\.ts[^/]$" := by
  decide +kernel

/-! ### Searching -/

/-- Searching for the pattern of a glob is matching it from the start. -/
lemma occurs_toPattern_iff (glob : String) {path : List Char} :
    (toPattern glob).occurs path = true ↔ (toPattern glob).canMatch path = true := by
  have hfree := captureFree_toPattern glob
  have hchain : toPattern glob = .seq .atStart
      (Pattern.chain ((tokens glob.toList).map Token.toPattern ++ [.atEnd])) :=
    Pattern.chain_cons _ (by simp)
  rw [Pattern.occurs, Pattern.search?, Pattern.searchFrom_isSome_iff hfree,
    Pattern.canMatch_iff hfree]
  constructor
  · rintro ⟨skipped, part, rest, rfl, hpart⟩
    -- the anchor leaves no character before the match
    have hnone : Pattern.lastOf none skipped = none := by
      rw [hchain, Pattern.takes_seq_iff] at hpart
      obtain ⟨_, _, _, hanchor, _⟩ := hpart
      exact (Pattern.takes_atStart_iff.1 hanchor).2
    have hskipped : skipped = [] := by simpa [Pattern.lastOf] using hnone
    subst hskipped
    exact ⟨part, rest, rfl, hpart⟩
  · rintro ⟨part, rest, rfl, hpart⟩
    exact ⟨[], part, rest, rfl, hpart⟩

/-- The written pattern of a glob is read as the pattern of the glob.  Whether that pattern is
searched for in a path without a line feed or matched from its start, it accepts the path exactly if
the path is put together from pieces that fit, in their order, the longest tokens of the glob. -/
theorem written_accepts_iff_spells (glob : String) :
    Pattern.read? (toPattern glob).render.toList = some (toPattern glob) ∧
    ∀ path : String, '\n' ∉ path.toList →
      ((toPattern glob).occurs path.toList = true ↔
        ∃ found, LongestMatch glob.toList found ∧ Spells found path.toList) ∧
      ((toPattern glob).canMatch path.toList = true ↔
        ∃ found, LongestMatch glob.toList found ∧ Spells found path.toList) := by
  refine ⟨read?_render_toPattern glob, ?_⟩
  intro path hpath
  have hspells : (toPattern glob).canMatch path.toList = true ↔
      ∃ found, LongestMatch glob.toList found ∧ Spells found path.toList := by
    simp only [longestMatch_iff, exists_eq_left, canMatch_toPattern_iff glob hpath]
  exact ⟨(occurs_toPattern_iff glob).trans hspells, hspells⟩

/-- Brackets and pluses of a glob are literal, three stars are two tokens, and a question mark
takes one character. -/
theorem written_accepts_iff_spells_brackets :
    let glob := "src/**/[a+b]***.ts?"
    '\n' ∉ "src/[a+b]/x.tsx".toList ∧ '\n' ∉ "src/x/a.tsx".toList ∧
      (∃ found, LongestMatch glob.toList found ∧ Spells found "src/[a+b]/x.tsx".toList) ∧
      ¬ ∃ found, LongestMatch glob.toList found ∧ Spells found "src/x/a.tsx".toList := by
  intro glob
  have hfits : '\n' ∉ "src/[a+b]/x.tsx".toList := by decide +kernel
  have hother : '\n' ∉ "src/x/a.tsx".toList := by decide +kernel
  have haccepts := (written_accepts_iff_spells glob).2
  refine ⟨hfits, hother, (haccepts _ hfits).1.1 (by decide +kernel), ?_⟩
  intro hspells
  have hoccurs := (haccepts _ hother).1.2 hspells
  exact absurd hoccurs (by decide +kernel)

end Strata.Glob
