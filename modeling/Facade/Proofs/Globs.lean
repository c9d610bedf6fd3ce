import Facade.Text.CharClass
import Facade.Text.Glob
import Mathlib.Data.List.Forall2

/-!
# What globs match

The expression that a pattern is turned into matches what the pattern says: the name splits into one
piece for each character of the pattern, and each character stands for its piece.

* `Item.Accepts`, `fullMatches_iff`: an expression matches a text that splits into what its items
  accept.
* `replacePair_flatMap`: a replacement inside a text that is escaped character by character.
* `read?_regexText`: the expression of a pattern, item by item, whatever stands next to a backslash.
* `Stands`, `matchesAny_iff`: what the characters of a pattern stand for, and which names match.
-/

namespace Facade.Text

/-! ## Expressions -/

/-- The texts that an item accepts. -/
def Item.Accepts (i : Item) (s : List Char) : Prop :=
  if i.repeats then ∀ c ∈ s, i.atom.accepts c = true else ∃ c, i.atom.accepts c = true ∧ s = [c]

namespace Regex

variable {a : Atom} {rest : List Char → Bool} {r : Regex} {s : List Char}

theorem runMatches_iff : runMatches a rest s = true ↔
    ∃ run t, run ++ t = s ∧ (∀ c ∈ run, a.accepts c = true) ∧ rest t = true := by
  induction s with
  | nil => simp [runMatches]
  | cons c s ih =>
    rw [runMatches, Bool.or_eq_true, Bool.and_eq_true, ih]
    constructor
    · rintro (h | ⟨hc, run, t, rfl, hrun, ht⟩)
      · exact ⟨[], c :: s, rfl, by simp, h⟩
      · exact ⟨c :: run, t, rfl, List.forall_mem_cons.mpr ⟨hc, hrun⟩, ht⟩
    · rintro ⟨run, t, hsplit, hrun, ht⟩
      cases run with
      | nil => exact .inl (hsplit ▸ ht)
      | cons d run =>
        obtain ⟨rfl, rfl⟩ := List.cons.inj hsplit
        rw [List.forall_mem_cons] at hrun
        exact .inr ⟨hrun.1, run, t, rfl, hrun.2, ht⟩

/-- **An expression matches the texts that split into what its items accept.** -/
theorem fullMatches_iff : fullMatches r s = true ↔
    ∃ pieces : List (List Char), pieces.flatten = s ∧ List.Forall₂ Item.Accepts r pieces := by
  induction r generalizing s with
  | nil =>
    rw [fullMatches, List.isEmpty_iff]
    constructor
    · rintro rfl
      exact ⟨[], rfl, .nil⟩
    · rintro ⟨_, rfl, ⟨⟩⟩
      rfl
  | cons i r ih =>
    have hsplit : (∃ pieces : List (List Char), pieces.flatten = s ∧
        List.Forall₂ Item.Accepts (i :: r) pieces) ↔
          ∃ u t, u ++ t = s ∧ i.Accepts u ∧ fullMatches r t = true := by
      simp only [List.forall₂_cons_left_iff, ih]
      constructor
      · rintro ⟨_, rfl, u, us, hu, hus, rfl⟩
        exact ⟨u, us.flatten, rfl, hu, us, rfl, hus⟩
      · rintro ⟨u, _, rfl, hu, us, rfl, hus⟩
        exact ⟨u :: us, rfl, u, us, hu, hus, rfl⟩
    rw [hsplit]
    obtain ⟨a, repeats⟩ := i
    cases repeats with
    | true => exact runMatches_iff
    | false =>
      cases s with
      | nil => simp [fullMatches, Item.Accepts]
      | cons c s =>
        rw [fullMatches, Bool.and_eq_true]
        constructor
        · rintro ⟨hc, hs⟩
          exact ⟨[c], s, rfl, ⟨c, hc, rfl⟩, hs⟩
        · rintro ⟨_, t, hut, ⟨d, hd, rfl⟩, ht⟩
          obtain ⟨rfl, rfl⟩ := List.cons.inj hut
          exact ⟨hd, ht⟩

end Regex

namespace Glob

/-! ## The expression of a pattern -/

section Replace

variable {a b c : Char} {new s : List Char}

theorem replacePair_cons (h : c ≠ a ∨ s.head? ≠ some b) :
    replacePair a b new (c :: s) = c :: replacePair a b new s := by
  cases s with
  | nil => rfl
  | cons d s =>
    rw [replacePair, if_neg]
    rintro ⟨rfl, rfl⟩
    simp at h

/-- What a character becomes in a text in which the first of two characters takes the next one for
itself: another character than the two, or a pair. -/
inductive IsEscapeUnit (a b : Char) : List Char → Prop
  | plain {d : Char} : d ≠ a → d ≠ b → IsEscapeUnit a b [d]
  | pair (d : Char) : IsEscapeUnit a b [a, d]

theorem head?_flatMap_ne (hab : a ≠ b) {f : Char → List Char} (h : ∀ c, IsEscapeUnit a b (f c))
    (p : List Char) : (p.flatMap f).head? ≠ some b := by
  cases p with
  | nil => simp
  | cons c p =>
    have hc := h c
    rw [List.flatMap_cons]
    generalize f c = unit at hc
    cases hc with
    | plain _ hb => simpa using hb
    | pair _ => simpa using hab

/-- **Units are replaced as a whole.** The end of one and the beginning of the next never make up the
pair. -/
theorem replacePair_flatMap (hab : a ≠ b) {f : Char → List Char} (h : ∀ c, IsEscapeUnit a b (f c))
    (p : List Char) : replacePair a b new (p.flatMap f) =
      p.flatMap fun c => if f c = [a, b] then new else f c := by
  induction p with
  | nil => rfl
  | cons c p ih =>
    have hnext := head?_flatMap_ne hab h p
    have hc := h c
    rw [List.flatMap_cons, List.flatMap_cons, ← ih]
    generalize p.flatMap f = rest at hnext
    generalize f c = unit at hc
    cases hc with
    | plain ha _ => rw [if_neg (by simp), List.singleton_append, replacePair_cons (.inl ha)]; rfl
    | pair d =>
      by_cases hd : d = b
      · rw [hd, if_pos rfl]
        simp [replacePair]
      · rw [if_neg (by simpa using hd)]
        show replacePair a b new (a :: d :: rest) = a :: d :: replacePair a b new rest
        rw [replacePair_cons (.inr (by simpa using hd)), replacePair_cons (.inr hnext)]

end Replace

/-- What a character of a pattern becomes in the text of the expression. -/
def unitOf (c : Char) : List Char :=
  if c = '*' then ['.', '*'] else if c = '?' then ['.'] else escapeRegexChar c

/-- The item that a character of a pattern becomes. -/
def itemOf (c : Char) : Item :=
  if c = '*' then ⟨.any, true⟩ else if c = '?' then ⟨.any, false⟩ else ⟨.char c, false⟩

theorem escapeRegexChar_cases (c : Char) :
    c ∈ escapedChars ∧ escapeRegexChar c = ['\\', c] ∨
      c ∉ escapedChars ∧ escapeRegexChar c = [c] := by
  unfold escapeRegexChar
  by_cases h : c ∈ escapedChars
  · exact .inl ⟨h, if_pos (List.contains_iff_mem.mpr h)⟩
  · exact .inr ⟨h, if_neg fun hc => h (List.contains_iff_mem.mp hc)⟩

/-- **The text of the expression consists of units,** one for each character of the pattern. -/
theorem regexText_eq (p : List Char) : regexText p = p.flatMap unitOf := by
  have hne {c d : Char} (hc : c ∉ escapedChars) (hd : d ∈ escapedChars) : c ≠ d :=
    fun he => hc (he ▸ hd)
  have hfirst (c : Char) : IsEscapeUnit '\\' '?' (escapeRegexChar c) := by
    rcases escapeRegexChar_cases c with ⟨-, h⟩ | ⟨hc, h⟩
    · exact h ▸ .pair c
    · exact h ▸ .plain (hne hc (by decide)) (hne hc (by decide))
  have hsecond (c : Char) : IsEscapeUnit '\\' '*'
      (if escapeRegexChar c = ['\\', '?'] then ['.'] else escapeRegexChar c) := by
    split
    · exact .plain (by decide) (by decide)
    · rcases escapeRegexChar_cases c with ⟨-, h⟩ | ⟨hc, h⟩
      · exact h ▸ .pair c
      · exact h ▸ .plain (hne hc (by decide)) (hne hc (by decide))
  rw [regexText, escape, replacePair_flatMap (by decide) hfirst,
    replacePair_flatMap (by decide) hsecond]
  refine List.flatMap_congr fun c _ => ?_
  rcases escapeRegexChar_cases c with ⟨-, h⟩ | ⟨hc, h⟩
  · rw [h, unitOf, h]
    by_cases hq : c = '?'
    · subst hq
      rfl
    · by_cases hs : c = '*'
      · subst hs
        rfl
      · simp [hq, hs]
  · rw [h, unitOf, if_neg (hne hc (by decide)), if_neg (hne hc (by decide)), h]
    simp

/-- A unit is read as one item. -/
theorem foldlM_unitOf (c : Char) (is : List Item) :
    (unitOf c).foldlM Regex.readChar { items := is } = some { items := itemOf c :: is } := by
  have hplain : ∀ d ∈ escapedChars, d.isAlphanum = false := forall_of_all (by decide)
  have hoperators : ∀ d ∈ Regex.operators, d ∈ escapedChars := forall_of_all (by decide)
  unfold unitOf itemOf
  by_cases hs : c = '*'
  · rw [if_pos hs, if_pos hs]
    rfl
  rw [if_neg hs, if_neg hs]
  by_cases hq : c = '?'
  · rw [if_pos hq, if_pos hq]
    rfl
  rw [if_neg hq, if_neg hq]
  rcases escapeRegexChar_cases c with ⟨hc, h⟩ | ⟨hc, h⟩
  · rw [h]
    show Regex.readChar { items := is, escaped := true } c >>= pure = _
    simp [Regex.readChar, hplain c hc, Regex.Reading.push]
  · have hne {d : Char} (hd : d ∈ escapedChars) : c ≠ d := fun he => hc (he ▸ hd)
    have hno : Regex.operators.contains c = false :=
      Bool.eq_false_iff.mpr fun ho => hc (hoperators c (List.contains_iff_mem.mp ho))
    rw [h]
    show Regex.readChar { items := is } c >>= pure = _
    rw [Regex.readChar, if_neg (by simp), if_neg (hne (by decide)), if_neg (hne (by decide)),
      if_neg hs, hno]
    rfl

/-- **The expression of a pattern has one item for each character.** -/
theorem read?_regexText (p : List Char) : Regex.read? (regexText p) = some (p.map itemOf) := by
  have hfold (is : List Item) : (p.flatMap unitOf).foldlM Regex.readChar { items := is } =
      some { items := (p.map itemOf).reverse ++ is } := by
    induction p generalizing is with
    | nil => rfl
    | cons c p ih =>
      rw [List.flatMap_cons, List.foldlM_append, foldlM_unitOf]
      show (p.flatMap unitOf).foldlM Regex.readChar { items := itemOf c :: is } = _
      rw [ih, List.map_cons, List.reverse_cons, List.append_assoc]
      rfl
  rw [Regex.read?, regexText_eq, show ({} : Regex.Reading) = { items := [] } from rfl, hfold]
  simp

/-! ## Names -/

/-- What a character of a pattern stands for. -/
inductive Stands : Char → List Char → Prop
  /-- A star stands for any run without a line feed. -/
  | star {s} : '\n' ∉ s → Stands '*' s
  /-- A question mark stands for one character, which is no line feed. -/
  | one {d} : d ≠ '\n' → Stands '?' [d]
  /-- Every other character stands for itself. -/
  | itself {c} : c ≠ '*' → c ≠ '?' → Stands c [c]

theorem accepts_itemOf_iff (c : Char) (s : List Char) : (itemOf c).Accepts s ↔ Stands c s := by
  unfold itemOf Item.Accepts
  by_cases hs : c = '*'
  · subst hs
    have hrun : (∀ d ∈ s, Atom.any.accepts d = true) ↔ '\n' ∉ s := by
      simp only [Atom.accepts, bne_iff_ne]
      exact ⟨fun h hm => h _ hm rfl, fun h d hd he => h (he ▸ hd)⟩
    rw [if_pos rfl, if_pos rfl, hrun]
    exact ⟨.star, fun | .star h => h | .itself h _ => absurd rfl h⟩
  rw [if_neg hs]
  by_cases hq : c = '?'
  · subst hq
    rw [if_pos rfl, if_neg (by simp)]
    constructor
    · rintro ⟨d, hd, rfl⟩
      exact .one (by simpa [Atom.accepts] using hd)
    · intro h
      cases h with
      | one hd => exact ⟨_, by simpa [Atom.accepts] using hd, rfl⟩
      | itself _ h => exact absurd rfl h
  · rw [if_neg hq, if_neg (by simp)]
    constructor
    · rintro ⟨d, hd, rfl⟩
      obtain rfl : d = c := by simpa [Atom.accepts] using hd
      exact .itself hs hq
    · intro h
      cases h with
      | star _ => exact absurd rfl hs
      | one _ => exact absurd rfl hq
      | itself _ _ => exact ⟨c, by simp [Atom.accepts], rfl⟩

theorem globMatches_iff (p s : List Char) : globMatches p s = true ↔
    ∃ pieces : List (List Char), pieces.flatten = s ∧ List.Forall₂ Stands p pieces := by
  rw [globMatches, read?_regexText, Option.any_some, Regex.fullMatches_iff]
  refine exists_congr fun pieces => and_congr_right fun _ => ?_
  rw [List.forall₂_map_left_iff]
  exact ⟨fun h => h.imp fun c s hs => (accepts_itemOf_iff c s).mp hs,
    fun h => h.imp fun c s hs => (accepts_itemOf_iff c s).mpr hs⟩

/-- **A name matches a list of patterns** if it is one of them, or splits into pieces that the
characters of one of them stand for. -/
theorem matchesAny_iff (name : String) (patterns : List String) :
    matchesAny name patterns = true ↔ ∃ p ∈ patterns, p = name ∨
      ∃ pieces : List (List Char), pieces.flatten = name.toList ∧
        List.Forall₂ Stands p.toList pieces := by
  rw [matchesAny, List.any_eq_true]
  refine exists_congr fun p => and_congr_right fun _ => ?_
  rw [Bool.or_eq_true, beq_iff_eq, eq_comm, globMatches_iff]

/-- A backslash in front of a wildcard stands for itself, and the wildcard is one. -/
example : matchesAny "a\\b.c" ["a\\?.*"] = true := by decide

end Glob

end Facade.Text
