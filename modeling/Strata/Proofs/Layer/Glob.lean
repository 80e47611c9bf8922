import Mathlib.Data.List.Forall2
import Mathlib.Data.List.Infix
import Strata.Layer.Glob
import Strata.Proofs.Pattern.Takes
import Strata.Proofs.Text.Lines

/-!
# What globs stand for

The tokens of a glob spell a path if the path can be cut into pieces, one for each token, that fit
the tokens in their order.  On a path without a line feed the pattern of a glob matches exactly what
its tokens spell (`canMatch_toPattern_iff`).

The three shapes of globs that are matched directly on the path are compared with this.  They decide
in the same way, with one exception: the glob `dir/**` takes the path `dir` itself, which its
pattern does not match (`accepts_eq_canMatch`).
-/

namespace Strata.Glob

open Strata.Text

/-! ### Tokens and pieces -/

/-- The piece of a path is one that the token stands for. -/
def Token.Fits : Token → List Char → Prop
  | directories, piece => piece = [] ∨ ∃ start, piece = start ++ ['/']
  | anything, _ => True
  | inside, piece => '/' ∉ piece
  | single, piece => ∃ c, c ≠ '/' ∧ piece = [c]
  | literal c, piece => piece = [c]

/-- The text is put together from pieces that fit the tokens one after another. -/
def Spells (tokens : List Token) (text : List Char) : Prop :=
  ∃ pieces, List.Forall₂ Token.Fits tokens pieces ∧ pieces.flatten = text

variable {token : Token} {rest : List Token} {text : List Char}

lemma spells_nil_iff : Spells [] text ↔ text = [] := by
  simp [Spells, eq_comm]

lemma spells_cons_iff : Spells (token :: rest) text ↔
    ∃ u v, text = u ++ v ∧ token.Fits u ∧ Spells rest v := by
  simp only [Spells, List.forall₂_cons_left_iff]
  constructor
  · rintro ⟨_, ⟨u, pieces, hu, hpieces, rfl⟩, rfl⟩
    exact ⟨u, pieces.flatten, List.flatten_cons, hu, pieces, hpieces, rfl⟩
  · rintro ⟨u, _, rfl, hu, pieces, hpieces, rfl⟩
    exact ⟨u :: pieces, ⟨u, pieces, hu, hpieces, rfl⟩, List.flatten_cons⟩

/-- Literal tokens spell their own characters. -/
lemma spells_literals_iff {part : List Char} : Spells (part.map .literal ++ rest) text ↔
    ∃ tail, text = part ++ tail ∧ Spells rest tail := by
  induction part generalizing text with
  | nil => simp
  | cons c part ih =>
    simp only [List.map_cons, List.cons_append, spells_cons_iff, ih]
    constructor
    · rintro ⟨_, _, rfl, rfl, tail, rfl, htail⟩
      exact ⟨tail, rfl, htail⟩
    · rintro ⟨tail, rfl, htail⟩
      exact ⟨[c], part ++ tail, rfl, rfl, tail, rfl, htail⟩

/-! ### The pattern of a glob -/

/-- Without a line feed, the pattern of a token takes the pieces that the token stands for. -/
lemma Token.takes_toPattern_iff (token : Token) {before : Option Char} {piece rest : List Char}
    (hpiece : '\n' ∉ piece) : token.toPattern.Takes before piece rest ↔ token.Fits piece := by
  have hany : ∀ part : List Char, '\n' ∉ part → ∀ c ∈ part, CharClass.any.contains c = true := by
    intro part hpart c hc
    rw [CharClass.contains, bne_iff_ne]
    rintro rfl
    exact hpart hc
  cases token with
  | directories =>
    simp only [toPattern, Pattern.optional, Pattern.many, Pattern.takes_alt_iff,
      Pattern.takes_seq_iff, Pattern.takes_star_one_iff, Pattern.takes_one_iff,
      Pattern.takes_empty_iff, CharClass.contains, beq_iff_eq, Fits]
    constructor
    · rintro (⟨start, _, rfl, -, c, rfl, rfl⟩ | rfl)
      · exact Or.inr ⟨start, rfl⟩
      · exact Or.inl rfl
    · rintro (rfl | ⟨start, rfl⟩)
      · exact Or.inr rfl
      · have hstart : '\n' ∉ start := fun hmem => hpiece (List.mem_append_left _ hmem)
        exact Or.inl ⟨start, ['/'], rfl, hany start hstart, '/', rfl, rfl⟩
  | anything =>
    simp only [toPattern, Pattern.many, Pattern.takes_star_one_iff, Fits, iff_true]
    exact hany piece hpiece
  | inside =>
    simp only [toPattern, Pattern.many, notSlash, Pattern.takes_star_one_iff, CharClass.contains,
      Fits]
    constructor
    · intro h hslash
      simpa using h '/' hslash
    · intro hslash c hc
      have hne : c ≠ '/' := by
        rintro rfl
        exact hslash hc
      simpa using hne
  | single =>
    simp [toPattern, notSlash, Pattern.takes_one_iff, CharClass.contains, Fits]
  | literal c =>
    simp [toPattern, Pattern.takes_one_iff, CharClass.contains, Fits]

/-- Up to the end of the text, the patterns of some tokens take what the tokens spell. -/
lemma takes_chain_iff (tokens : List Token) {before : Option Char} {part rest : List Char}
    (hpart : '\n' ∉ part) :
    (Pattern.chain (tokens.map Token.toPattern ++ [.atEnd])).Takes before part rest ↔
      Spells tokens part ∧ rest = [] := by
  induction tokens generalizing before part with
  | nil =>
    rw [spells_nil_iff]
    exact Pattern.takes_atEnd_iff
  | cons token tokens ih =>
    rw [List.map_cons, List.cons_append, Pattern.chain_cons _ (by simp), Pattern.takes_seq_iff,
      spells_cons_iff]
    constructor
    · rintro ⟨u, v, rfl, hu, hv⟩
      rw [List.mem_append, not_or] at hpart
      obtain ⟨hspells, hrest⟩ := (ih hpart.2).1 hv
      exact ⟨⟨u, v, rfl, (token.takes_toPattern_iff hpart.1).1 hu, hspells⟩, hrest⟩
    · rintro ⟨⟨u, v, rfl, hu, hv⟩, hrest⟩
      rw [List.mem_append, not_or] at hpart
      exact ⟨u, v, rfl, (token.takes_toPattern_iff hpart.1).2 hu, (ih hpart.2).2 ⟨hv, hrest⟩⟩

lemma captureFree_toPattern (glob : String) : (toPattern glob).captureFree = true := by
  apply Pattern.captureFree_chain
  intro p hp
  simp only [List.cons_append, List.mem_cons, List.mem_append, List.mem_map, List.not_mem_nil,
    or_false] at hp
  rcases hp with rfl | ⟨token, -, rfl⟩ | rfl
  · rfl
  · cases token <;> rfl
  · rfl

/-- On a path without a line feed, the pattern of a glob matches what its tokens spell. -/
lemma canMatch_toPattern_iff (glob : String) {path : List Char} (hpath : '\n' ∉ path) :
    (toPattern glob).canMatch path = true ↔ Spells (tokens glob.toList) path := by
  have hchain : toPattern glob = .seq .atStart
      (Pattern.chain ((tokens glob.toList).map Token.toPattern ++ [.atEnd])) :=
    Pattern.chain_cons _ (by simp)
  rw [Pattern.canMatch_iff (captureFree_toPattern glob), hchain]
  simp only [Pattern.takes_seq_iff, Pattern.takes_atStart_iff]
  constructor
  · rintro ⟨_, rest, rfl, _, part, rfl, ⟨rfl, -⟩, hpart⟩
    have hfree : '\n' ∉ part := fun hmem => hpath (by simp [hmem])
    obtain ⟨hspells, rfl⟩ := (takes_chain_iff _ hfree).1 hpart
    simpa using hspells
  · intro hspells
    refine ⟨path, [], by simp, [], path, rfl, ⟨rfl, trivial⟩, ?_⟩
    exact (takes_chain_iff _ hpath).2 ⟨hspells, rfl⟩

/-! ### The tokens of literal parts -/

/-- The characters of a literal part are no wildcards. -/
lemma ne_of_isLiteral {part : List Char} (hpart : isLiteral part = true) {c : Char}
    (hc : c ∈ part) : c ≠ '*' ∧ c ≠ '?' := by
  have hall := (Bool.and_eq_true_iff.1 hpart).2
  rw [Bool.not_eq_true', List.any_eq_false] at hall
  have hnone := hall c hc
  simp only [List.contains_iff_mem, List.mem_cons, not_or] at hnone
  exact ⟨hnone.1, hnone.2.1⟩

lemma star_not_mem {part : List Char} (hpart : isLiteral part = true) : '*' ∉ part :=
  fun hmem => (ne_of_isLiteral hpart hmem).1 rfl

lemma ne_nil_of_isLiteral {part : List Char} (hpart : isLiteral part = true) : part ≠ [] := by
  rintro rfl
  cases hpart

lemma tokens_cons {c : Char} (hstar : c ≠ '*') (hmark : c ≠ '?') (tail : List Char) :
    tokens (c :: tail) = .literal c :: tokens tail := by
  rw [tokens] <;> simp [hstar, hmark]

lemma tokens_append {part : List Char} (hpart : isLiteral part = true) (tail : List Char) :
    tokens (part ++ tail) = part.map .literal ++ tokens tail := by
  have hfree : ∀ c ∈ part, c ≠ '*' ∧ c ≠ '?' := fun c hc => ne_of_isLiteral hpart hc
  clear hpart
  induction part with
  | nil => rfl
  | cons c part ih =>
    obtain ⟨hstar, hmark⟩ := hfree c List.mem_cons_self
    rw [List.cons_append, tokens_cons hstar hmark,
      ih fun other hother => hfree other (List.mem_cons_of_mem _ hother)]
    rfl

lemma tokens_anyDirectories (tail : List Char) :
    tokens (anyDirectories ++ tail) = .directories :: tokens tail := by
  simp [anyDirectories, tokens]

lemma tokens_anyBelow : tokens anyBelow = [.literal '/', .anything] := by
  simp [anyBelow, tokens]

/-- What the end of a glob that takes everything below a directory spells. -/
lemma spells_anyBelow_iff : Spells (tokens anyBelow) text ↔ ∃ tail, text = '/' :: tail := by
  simp [tokens_anyBelow, spells_cons_iff, spells_nil_iff, Token.Fits]

/-! ### Shortcuts -/

namespace Shortcut

/-- The part of the glob between the wildcards. -/
def inner : Shortcut → List Char
  | within name => name
  | below dir => dir
  | named name => name

/-- The glob that the shortcut is for. -/
def written : Shortcut → List Char
  | within name => anyDirectories ++ (name ++ anyBelow)
  | below dir => dir ++ anyBelow
  | named name => anyDirectories ++ name

end Shortcut

/-- A glob that ends in a literal part does not end in `/**`. -/
lemma before?_anyBelow_eq_none (start : List Char) {name : List Char}
    (hname : isLiteral name = true) : before? anyBelow (start ++ name) = none := by
  rw [Option.eq_none_iff_forall_ne_some]
  intro dir hdir
  have heq : start ++ name = dir ++ anyBelow := before?_eq_some_iff.1 hdir
  have hlast := congrArg List.getLast? heq
  rw [List.getLast?_append_of_ne_nil _ (ne_nil_of_isLiteral hname)] at hlast
  have hstar : name.getLast? = some '*' := by simpa [anyBelow] using hlast
  exact star_not_mem hname (List.mem_of_getLast? hstar)

/-- A glob that starts with a literal part does not start with `**/`. -/
lemma after?_anyDirectories_eq_none {dir tail : List Char} (hdir : isLiteral dir = true) :
    after? anyDirectories (dir ++ tail) = none := by
  rw [after?_eq_none_iff]
  cases dir with
  | nil => cases hdir
  | cons c dir =>
    intro hstart
    have hc : '*' = c := (List.cons_prefix_cons.1 hstart).1
    subst hc
    exact star_not_mem hdir List.mem_cons_self

/-- A glob allows a shortcut if it is written in its shape, with a literal part inside. -/
lemma shortcut?_eq_some_iff {glob : List Char} {shortcut : Shortcut} :
    shortcut? glob = some shortcut ↔
      glob = shortcut.written ∧ isLiteral shortcut.inner = true := by
  constructor
  · intro h
    unfold shortcut? at h
    -- the shapes in the order in which they are tried
    split at h
    · rename_i name hname
      obtain ⟨tail, hglob, htail⟩ := Option.bind_eq_some_iff.1 hname
      rw [after?_eq_some_iff] at hglob
      rw [before?_eq_some_iff] at htail
      subst hglob htail
      split_ifs at h with hliteral
      cases h
      exact ⟨rfl, hliteral⟩
    · split at h
      · rename_i dir hdir
        rw [before?_eq_some_iff] at hdir
        subst hdir
        split_ifs at h with hliteral
        cases h
        exact ⟨rfl, hliteral⟩
      · split at h
        · rename_i name hname
          rw [after?_eq_some_iff] at hname
          subst hname
          split_ifs at h with hliteral
          cases h
          exact ⟨rfl, hliteral⟩
        · cases h
  · rintro ⟨rfl, hliteral⟩
    have hafter : ∀ tail, after? anyDirectories (anyDirectories ++ tail) = some tail :=
      fun tail => after?_eq_some_iff.2 rfl
    have hbefore : ∀ start, before? anyBelow (start ++ anyBelow) = some start :=
      fun start => before?_eq_some_iff.2 rfl
    cases shortcut with
    | within name =>
      have hname : isLiteral name = true := hliteral
      simp [shortcut?, Shortcut.written, hafter, hbefore, hname]
    | below dir =>
      have hdir : isLiteral dir = true := hliteral
      simp [shortcut?, Shortcut.written, after?_anyDirectories_eq_none hdir, hbefore, hdir]
    | named name =>
      have hname : isLiteral name = true := hliteral
      have hnone : before? anyBelow name = none := before?_anyBelow_eq_none [] hname
      simp [shortcut?, Shortcut.written, hafter, hnone, before?_anyBelow_eq_none _ hname, hname]

/-! ### What the globs with shortcuts spell -/

lemma spells_within_iff {name : List Char} (hname : isLiteral name = true) :
    Spells (tokens (Shortcut.within name).written) text ↔
      name ++ ['/'] <+: text ∨ '/' :: name ++ ['/'] <:+: text := by
  simp only [Shortcut.written, tokens_anyDirectories, tokens_append hname, spells_cons_iff,
    spells_literals_iff, spells_anyBelow_iff, Token.Fits]
  constructor
  · -- the leading directories are none, or end in the slash before the name
    rintro ⟨_, _, rfl, rfl | ⟨start, rfl⟩, _, rfl, tail, rfl⟩
    · exact Or.inl ⟨tail, by simp⟩
    · exact Or.inr ⟨start, tail, by simp⟩
  · rintro (⟨tail, rfl⟩ | ⟨start, tail, rfl⟩)
    · exact ⟨[], _, rfl, Or.inl rfl, '/' :: tail, by simp, tail, rfl⟩
    · exact ⟨start ++ ['/'], name ++ '/' :: tail, by simp, Or.inr ⟨start, rfl⟩, _, rfl, tail, rfl⟩

lemma spells_below_iff {dir : List Char} (hdir : isLiteral dir = true) :
    Spells (tokens (Shortcut.below dir).written) text ↔ dir ++ ['/'] <+: text := by
  simp only [Shortcut.written, tokens_append hdir, spells_literals_iff, spells_anyBelow_iff]
  constructor
  · rintro ⟨_, rfl, tail, rfl⟩
    exact ⟨tail, by simp⟩
  · rintro ⟨tail, rfl⟩
    exact ⟨'/' :: tail, by simp, tail, rfl⟩

lemma spells_named_iff {name : List Char} (hname : isLiteral name = true) :
    Spells (tokens (Shortcut.named name).written) text ↔ text = name ∨ '/' :: name <:+ text := by
  have hspells : ∀ tail, Spells (tokens name) tail ↔ tail = name := by
    intro tail
    have htokens := tokens_append hname []
    rw [List.append_nil] at htokens
    rw [htokens, spells_literals_iff]
    simp [tokens, spells_nil_iff]
  simp only [Shortcut.written, tokens_anyDirectories, spells_cons_iff, hspells, Token.Fits]
  constructor
  · rintro ⟨_, _, rfl, rfl | ⟨start, rfl⟩, rfl⟩
    · exact Or.inl rfl
    · exact Or.inr ⟨start, by simp⟩
  · rintro (rfl | ⟨start, rfl⟩)
    · exact ⟨[], text, rfl, Or.inl rfl, rfl⟩
    · exact ⟨start ++ ['/'], name, by simp, Or.inr ⟨start, rfl⟩, rfl⟩

/-- A shortcut decides as the tokens of its glob do, but for a directory itself. -/
lemma Shortcut.accepts_iff {shortcut : Shortcut} (hliteral : isLiteral shortcut.inner = true) :
    shortcut.accepts text = true ↔
      shortcut = .below text ∨ Spells (tokens shortcut.written) text := by
  cases shortcut with
  | within name =>
    have hname : isLiteral name = true := hliteral
    rw [spells_within_iff hname]
    simp [accepts, contains_iff]
  | below dir =>
    have hdir : isLiteral dir = true := hliteral
    rw [spells_below_iff hdir]
    simp only [accepts, Bool.or_eq_true, beq_iff_eq, startsWith_iff, below.injEq]
    exact or_congr_left eq_comm
  | named name =>
    have hname : isLiteral name = true := hliteral
    rw [spells_named_iff hname]
    simp [accepts, endsWith_iff]

lemma Shortcut.not_spells_below {dir : List Char} (hdir : isLiteral dir = true) :
    ¬ Spells (tokens (Shortcut.below dir).written) dir := by
  rw [spells_below_iff hdir]
  intro hstart
  have hlength := hstart.length_le
  simp only [List.length_append, List.length_singleton] at hlength
  omega

lemma dropHere_subset (path : List Char) : dropHere path ⊆ path := by
  unfold dropHere
  cases hafter : after? ['.', '/'] path with
  | none => exact List.Subset.refl path
  | some rest =>
    rw [after?_eq_some_iff] at hafter
    rw [hafter]
    exact List.subset_append_right _ _

/-- A glob allows a shortcut exactly if it is `**/name/**`, `dir/**` or `**/name` with a literal
part inside.  On a path without a line feed, less one leading `./`, the shortcut then decides as
the pattern of the glob does.  The one exception is the path `dir` for the glob `dir/**`: the
shortcut takes it and the pattern does not. -/
theorem accepts_eq_canMatch (glob : String) (shortcut : Shortcut) :
    (shortcut? glob.toList = some shortcut ↔
      glob.toList = shortcut.written ∧ isLiteral shortcut.inner = true) ∧
    (shortcut? glob.toList = some shortcut → ∀ path : String, '\n' ∉ path.toList →
      (shortcut ≠ .below (dropHere path.toList) →
        accepts glob path = (toPattern glob).canMatch (dropHere path.toList)) ∧
      (shortcut = .below (dropHere path.toList) →
        accepts glob path = true ∧ (toPattern glob).canMatch (dropHere path.toList) = false)) := by
  refine ⟨shortcut?_eq_some_iff, ?_⟩
  intro hshortcut path hpath
  obtain ⟨hglob, hliteral⟩ := shortcut?_eq_some_iff.1 hshortcut
  have hfree : '\n' ∉ dropHere path.toList := fun hmem => hpath (dropHere_subset _ hmem)
  have haccepts : accepts glob path = shortcut.accepts (dropHere path.toList) := by
    simp only [accepts, hshortcut]
  have hmatch := canMatch_toPattern_iff glob hfree
  rw [hglob] at hmatch
  constructor
  · intro hother
    rw [haccepts, Bool.eq_iff_iff, shortcut.accepts_iff hliteral, hmatch, or_iff_right hother]
  · intro hsame
    refine ⟨by rw [haccepts, shortcut.accepts_iff hliteral]; exact Or.inl hsame, ?_⟩
    rw [Bool.eq_false_iff, ne_eq, hmatch]
    subst hsame
    exact Shortcut.not_spells_below hliteral

/-- What lies below `src/data` is taken by the shortcut and by the pattern of its glob, and
`src/data` itself by the shortcut only. -/
theorem accepts_eq_canMatch_data :
    let glob := "src/data/**"
    let shortcut := Shortcut.below "src/data".toList
    shortcut? glob.toList = some shortcut ∧
      '\n' ∉ "./src/data/api.ts".toList ∧ '\n' ∉ "./src/data".toList ∧
      accepts glob "./src/data/api.ts" = (toPattern glob).canMatch "src/data/api.ts".toList ∧
      accepts glob "./src/data/api.ts" = true ∧
      accepts glob "./src/data" = true ∧ (toPattern glob).canMatch "src/data".toList = false := by
  intro glob shortcut
  have hshortcut : shortcut? glob.toList = some shortcut := by decide +kernel
  have hapi : '\n' ∉ "./src/data/api.ts".toList := by decide +kernel
  have hdata : '\n' ∉ "./src/data".toList := by decide +kernel
  have hdecides := (accepts_eq_canMatch glob shortcut).2 hshortcut
  refine ⟨hshortcut, hapi, hdata, ?_, by decide +kernel, ?_⟩
  · exact (hdecides "./src/data/api.ts" hapi).1 (by decide +kernel)
  · exact (hdecides "./src/data" hdata).2 (by decide +kernel)

end Strata.Glob
