import Facade.Proofs.Quoting
import Facade.Proofs.Yielding
import Facade.Source.Embedding

/-!
# What a source that holds its own text says

The text of a source is put where the placeholder occurs first. Where that is the line that consists of
the placeholder, this line alone changes, and what stands in it evaluates to the text less such lines.
An earlier occurrence, as in a comment, takes the text instead, and the line stays.

* `Text.exists_stripBy`: a text is what is left of it between what is stripped.
* `replaceFirst_eq`: only the first occurrence of a piece is replaced.
* `PlaceIn`: a line is the place, and the placeholder does not occur before it.
* `placeIn_last`: the last line is the place if the placeholder occurs once.
* `embeds`: what becomes of a source with a place, and of one without a placeholder.
* `embed_misses_place`: what becomes of a source with a placeholder in a comment.
-/

namespace Facade

/-! ## What is stripped -/

namespace Text

variable (p : Char → Bool)

theorem exists_stripEndBy (cs : List Char) :
    ∃ after, cs = stripEndBy p cs ++ after ∧ ∀ c ∈ after, p c = true := by
  refine ⟨(cs.reverse.takeWhile p).reverse, ?_, fun c hc => ?_⟩
  · rw [stripEndBy, ← List.reverse_append, List.takeWhile_append_dropWhile, List.reverse_reverse]
  · exact List.all_eq_true.mp List.all_takeWhile c (List.mem_reverse.mp hc)

/-- A text is what is left of it between what is stripped. -/
theorem exists_stripBy (cs : List Char) :
    ∃ before after, cs = before ++ stripBy p cs ++ after ∧ (∀ c ∈ before, p c = true) ∧
      ∀ c ∈ after, p c = true := by
  obtain ⟨after, hafter, hp⟩ := exists_stripEndBy p (cs.dropWhile p)
  refine ⟨cs.takeWhile p, after, ?_, List.all_eq_true.mp List.all_takeWhile, hp⟩
  rw [stripBy, List.append_assoc, ← hafter, List.takeWhile_append_dropWhile]

variable {p}

/-- What is left of a text does not open with what is stripped. -/
theorem of_stripBy_eq_cons {cs r : List Char} {c : Char} (h : stripBy p cs = c :: r) :
    p c = false := by
  obtain ⟨after, hafter, -⟩ := exists_stripEndBy p (cs.dropWhile p)
  rw [← stripBy, h, List.cons_append] at hafter
  have hhead := List.head?_dropWhile_not p cs
  rw [hafter] at hhead
  simpa using hhead

end Text

namespace Source

/-! ## The first occurrence of a piece -/

theorem replaceFirst_eq_self {old new cs : List Char} (h : ¬ old <:+: cs) :
    replaceFirst old new cs = cs := by
  induction cs with
  | nil =>
    have hne : old ≠ [] := by rintro rfl; exact h (List.nil_infix)
    simp [replaceFirst, hne]
  | cons c r ih =>
    have hhere : ¬ old <+: c :: r := fun hp => h hp.isInfix
    have hrest : ¬ old <:+: r := fun hr => h (hr.trans (List.suffix_cons c r).isInfix)
    rw [replaceFirst, if_neg (by simpa using hhere), ih hrest]

/-- **Only the first occurrence of a piece is replaced.** -/
theorem replaceFirst_eq {old new before after : List Char}
    (h : ∀ i < before.length, ¬ old <+: (before ++ old ++ after).drop i) :
    replaceFirst old new (before ++ old ++ after) = before ++ new ++ after := by
  induction before with
  | nil => exact replaceFirst_append old new after
  | cons c r ih =>
    have hhere := h 0 (by simp)
    have hrest : ∀ i < r.length, ¬ old <+: (r ++ old ++ after).drop i := by
      intro i hi
      simpa using h (i + 1) (by simpa using hi)
    simp only [List.drop_zero, List.cons_append] at hhere
    rw [List.cons_append, List.cons_append, replaceFirst, if_neg (by simpa using hhere), ih hrest]
    rfl

/-! ## The place of the text -/

/-- A line of a source consists of the placeholder, and the placeholder does not occur before it. -/
structure PlaceIn (source name : String) (before : List (List Char)) (line : List Char)
    (after : List (List Char)) : Prop where
  /-- The line stands between these lines. -/
  lines : Text.splitLinesKeep source.toList = before ++ line :: after
  /-- It consists of the placeholder. -/
  keeps : Text.strip line = (placeholder name).toList
  /-- Nowhere before the line does the placeholder begin. -/
  first : ∀ i < before.flatten.length, ¬ (placeholder name).toList <+: source.toList.drop i

namespace PlaceIn

variable {source name : String} {before after : List (List Char)} {line : List Char}

theorem toList_eq (h : PlaceIn source name before line after) :
    source.toList = before.flatten ++ line ++ after.flatten := by
  rw [← Text.flatten_splitLinesKeep source.toList, h.lines]
  simp

/-- The text that is put into a source consists of the other lines, less those that consist of the
placeholder too. -/
theorem withoutPlaceholder_eq (h : PlaceIn source name before line after) :
    withoutPlaceholder source name =
      String.ofList (((before ++ after).filter
        fun l => Text.strip l != (placeholder name).toList).flatten) := by
  simp [withoutPlaceholder, h.lines, h.keeps]

/-- The blanks in front of the placeholder are not where it begins. -/
theorem not_prefix_drop (h : PlaceIn source name before line after) {indent trail : List Char}
    (hline : line = indent ++ (placeholder name).toList ++ trail)
    (hindent : ∀ c ∈ indent, Text.isBlank c = true) :
    ∀ i < (before.flatten ++ indent).length, ¬ (placeholder name).toList <+: source.toList.drop i := by
  intro i hi hp
  rw [List.length_append] at hi
  rcases Nat.lt_or_ge i before.flatten.length with hlt | hge
  · exact h.first i hlt hp
  obtain ⟨k, rfl⟩ := Nat.exists_eq_add_of_le hge
  have hk : k < indent.length := by omega
  obtain ⟨c, r, hm⟩ : ∃ c r, (placeholder name).toList = c :: r :=
    List.exists_cons_of_ne_nil (by simp [placeholder])
  have hblank : Text.isBlank c = false := Text.of_stripBy_eq_cons (h.keeps.trans hm)
  rw [h.toList_eq, hline, List.append_assoc, List.drop_length_add_append, List.append_assoc,
    List.append_assoc, List.drop_append_of_le_length hk.le, List.drop_eq_getElem_cons hk, hm] at hp
  have hc : c = indent[k] := (List.cons_prefix_cons.mp hp).1
  rw [hc, hindent _ (List.getElem_mem hk)] at hblank
  cases hblank

/-- Lines before the place do not consist of the placeholder. -/
theorem strip_ne (h : PlaceIn source name before line after) :
    ∀ l ∈ before, Text.strip l ≠ (placeholder name).toList := by
  intro l hl hkeeps
  obtain ⟨p, q, rfl⟩ := List.append_of_mem hl
  obtain ⟨indent, trail, hline, -, -⟩ := Text.exists_stripBy Text.isBlank l
  rw [← Text.strip, hkeeps] at hline
  have hsource : source.toList = (p.flatten ++ indent) ++ ((placeholder name).toList ++
      (trail ++ (q.flatten ++ (line ++ after.flatten)))) := by
    rw [h.toList_eq, hline]
    simp
  have hne : 0 < (placeholder name).toList.length := by simp [placeholder]
  refine h.first (p.flatten ++ indent).length ?_ ?_
  · rw [hline]
    simp only [List.flatten_append, List.flatten_cons, List.length_append] at hne ⊢
    omega
  · rw [hsource, List.drop_left]
    exact List.prefix_append _ _

/-- What is put into a source whose last line is the place are all the lines above. -/
theorem withoutPlaceholder_last (h : PlaceIn source name before line []) :
    withoutPlaceholder source name = String.ofList before.flatten := by
  rw [h.withoutPlaceholder_eq, List.append_nil, List.filter_eq_self.mpr]
  simpa using h.strip_ne

/-- The place alone changes. -/
theorem embed_eq (h : PlaceIn source name before line after) {indent trail : List Char}
    (hline : line = indent ++ (placeholder name).toList ++ trail)
    (hindent : ∀ c ∈ indent, Text.isBlank c = true) :
    embed source name = String.ofList (before.flatten ++
      (indent ++ (name ++ " = " ++ Text.quote (withoutPlaceholder source name)).toList ++ trail) ++
      after.flatten) := by
  have hsource : source.toList = (before.flatten ++ indent) ++ (placeholder name).toList ++
      (trail ++ after.flatten) := by
    rw [h.toList_eq, hline]
    simp only [List.append_assoc]
  have hfirst := h.not_prefix_drop hline hindent
  rw [hsource] at hfirst
  rw [embed, hsource, replaceFirst_eq hfirst]
  simp only [List.append_assoc]

end PlaceIn

/-! ## Places at the end -/

variable {piece cs : List Char} {i j : Nat}

theorem occurrences_pos (h : piece <+: cs.drop i) (hi : i < cs.length) : 0 < occurrences piece cs := by
  induction cs generalizing i with
  | nil => cases hi
  | cons c r ih =>
    rw [occurrences]
    cases i with
    | zero =>
      have h : piece <+: c :: r := h
      rw [if_pos (List.isPrefixOf_iff_prefix.mpr h)]
      omega
    | succ i =>
      have := ih (i := i) h (by simpa using hi)
      omega

/-- A piece that occurs at two places occurs twice. -/
theorem one_lt_occurrences (hij : i < j) (hi : piece <+: cs.drop i) (hj : piece <+: cs.drop j)
    (hlt : j < cs.length) : 1 < occurrences piece cs := by
  induction cs generalizing i j with
  | nil => cases hlt
  | cons c r ih =>
    obtain ⟨j, rfl⟩ := Nat.exists_eq_add_of_lt (Nat.zero_lt_of_lt hij)
    rw [Nat.zero_add] at hj hlt hij
    rw [occurrences]
    cases i with
    | zero =>
      have := occurrences_pos (i := j) hj (by simpa using hlt)
      have hi : piece <+: c :: r := hi
      rw [if_pos (List.isPrefixOf_iff_prefix.mpr hi)]
      omega
    | succ i =>
      have := ih (i := i) (j := j) (by omega) hi hj (by simpa using hlt)
      omega

theorem prefix_append_feed {p a b : List Char} (hp : '\n' ∉ p) :
    p <+: a ++ '\n' :: b ↔ p <+: a := by
  refine ⟨fun h => ?_, fun h => h.trans (List.prefix_append _ _)⟩
  rcases Nat.lt_or_ge a.length p.length with hlt | hle
  · have hfeed : a ++ ['\n'] <+: a ++ '\n' :: b := List.prefix_append_right_inj a |>.mpr ⟨b, rfl⟩
    have := List.prefix_of_prefix_length_le hfeed h (by simp; omega)
    exact absurd (this.subset (by simp)) hp
  · exact List.prefix_of_prefix_length_le h (List.prefix_append _ _) hle

/-- What stands on one line is counted line by line. -/
theorem occurrences_append_feed (hp : '\n' ∉ piece) (hne : piece ≠ []) (a b : List Char) :
    occurrences piece (a ++ '\n' :: b) = occurrences piece a + occurrences piece b := by
  have hfront (a : List Char) : piece.isPrefixOf (a ++ '\n' :: b) = piece.isPrefixOf a := by
    rw [Bool.eq_iff_iff, List.isPrefixOf_iff_prefix, List.isPrefixOf_iff_prefix, prefix_append_feed hp]
  induction a with
  | nil =>
    have hnil : piece.isPrefixOf ([] : List Char) = false := by
      cases piece with
      | nil => exact absurd rfl hne
      | cons => rfl
    have hfeed : piece.isPrefixOf ('\n' :: b) = false := (hfront []).trans hnil
    rw [List.nil_append, occurrences, occurrences, hfeed, if_neg Bool.false_ne_true]
  | cons c a ih =>
    have := hfront (c :: a)
    rw [List.cons_append] at this ⊢
    rw [occurrences, occurrences, this, ih, Nat.add_assoc]

theorem splitLinesKeep_cons {c : Char} {r : List Char} (h : c = '\r' → r.head? ≠ some '\n') :
    Text.splitLinesKeep (c :: r) =
      if Text.isLineEnd c then [c] :: Text.splitLinesKeep r
      else Text.pushFront c (Text.splitLinesKeep r) := by
  rw [Text.splitLinesKeep]
  rintro s rfl rfl
  exact h rfl rfl

theorem pushFront_append {c : Char} {ls ms : List (List Char)} (h : ls ≠ []) :
    Text.pushFront c (ls ++ ms) = Text.pushFront c ls ++ ms := by
  cases ls with
  | nil => exact absurd rfl h
  | cons l ls => rfl

/-- After a line feed, a line begins. -/
theorem splitLinesKeep_feed (xs ys : List Char) :
    Text.splitLinesKeep (xs ++ '\n' :: ys) =
      Text.splitLinesKeep (xs ++ ['\n']) ++ Text.splitLinesKeep ys := by
  have hfeed (ys : List Char) : Text.splitLinesKeep ('\n' :: ys) = ['\n'] :: Text.splitLinesKeep ys := by
    rw [splitLinesKeep_cons (fun h => absurd h (by decide)), if_pos (by decide)]
  have hne (xs : List Char) : Text.splitLinesKeep (xs ++ ['\n']) ≠ [] := by
    intro h
    have := Text.flatten_splitLinesKeep (xs ++ ['\n'])
    rw [h] at this
    simp at this
  have step {c : Char} {r : List Char} (hr : c = '\r' → r.head? ≠ some '\n')
      (ih : Text.splitLinesKeep (r ++ '\n' :: ys) =
        Text.splitLinesKeep (r ++ ['\n']) ++ Text.splitLinesKeep ys) :
      Text.splitLinesKeep (c :: r ++ '\n' :: ys) =
        Text.splitLinesKeep (c :: r ++ ['\n']) ++ Text.splitLinesKeep ys := by
    by_cases hc : c = '\r' ∧ r = []
    · obtain ⟨rfl, rfl⟩ := hc
      show Text.splitLinesKeep ('\r' :: '\n' :: ys) = Text.splitLinesKeep ['\r', '\n'] ++ _
      rw [Text.splitLinesKeep, Text.splitLinesKeep, Text.splitLinesKeep]
      rfl
    · have hhead (zs : List Char) : c = '\r' → (r ++ '\n' :: zs).head? ≠ some '\n' := by
        intro h
        cases r with
        | nil => exact absurd ⟨h, rfl⟩ hc
        | cons d r => exact hr h
      rw [List.cons_append, List.cons_append, splitLinesKeep_cons (hhead ys),
        splitLinesKeep_cons (hhead []), ih]
      split
      · rfl
      · exact pushFront_append (hne r)
  induction xs using Text.splitLinesKeep.induct with
  | case1 => exact hfeed ys
  | case2 r ih =>
    rw [List.cons_append, List.cons_append, List.cons_append, List.cons_append,
      Text.splitLinesKeep, Text.splitLinesKeep, ih]
    rfl
  | case3 c r hcr _ ih | case4 c r hcr _ ih =>
    refine step (fun hc hr => ?_) ih
    cases r with
    | nil => cases hr
    | cons d r => exact hcr r hc (by rw [Option.some.inj hr])

/-- **The last line of a text is the place** if it consists of the placeholder, which occurs nowhere
else. -/
theorem placeIn_last {name : String} {above : List Char} {line : List Char}
    (hlines : Text.splitLinesKeep (above ++ line) = Text.splitLinesKeep above ++ [line])
    (hkeeps : Text.strip line = (placeholder name).toList)
    (hone : occurrences (placeholder name).toList (above ++ line) ≤ 1) :
    PlaceIn (String.ofList (above ++ line)) name (Text.splitLinesKeep above) line [] where
  lines := by rw [String.toList_ofList, hlines]
  keeps := hkeeps
  first := by
    intro i hi hp
    rw [Text.flatten_splitLinesKeep] at hi
    rw [String.toList_ofList] at hp
    obtain ⟨indent, trail, hline, -, -⟩ := Text.exists_stripBy Text.isBlank line
    rw [← Text.strip, hkeeps] at hline
    have htext : above ++ line = (above ++ indent) ++ ((placeholder name).toList ++ trail) := by
      rw [hline]
      simp
    have hne : 0 < (placeholder name).toList.length := by simp [placeholder]
    have hlt : i < (above ++ indent).length := by
      rw [List.length_append]
      omega
    have hend : (above ++ indent).length < (above ++ line).length := by
      rw [htext]
      simp only [List.length_append] at hne ⊢
      omega
    have := one_lt_occurrences hlt hp (by rw [htext, List.drop_left]; exact List.prefix_append _ _) hend
    omega

/-! ## What becomes of a source -/

/-- A source with a place holds its own text there. -/
structure Embeds (source name : String) : Prop where
  /-- A source in which the placeholder does not occur stays as it is. -/
  absent : ¬ (placeholder name).toList <:+: source.toList → embed source name = source
  /-- The line that consists of the placeholder alone changes: between the same blanks, what is assigned
  is now an expression that evaluates, in any world, to the text of the other lines, less those that
  consist of the placeholder too. -/
  filled : ∀ before line after, PlaceIn source name before line after →
    ∃ indent trail kept written e,
      line = indent ++ (placeholder name).toList ++ trail ∧
      (∀ c ∈ indent ++ trail, Text.isBlank c = true) ∧
      embed source name = String.ofList (before.flatten ++
        (indent ++ (name ++ " = " ++ written).toList ++ trail) ++ after.flatten) ∧
      kept = String.ofList (((before ++ after).filter
        fun l => Text.strip l != (placeholder name).toList).flatten) ∧
      Syntax.readExpr written = .ok e ∧
      ∀ w fr, Execution.Yields w fr e (.str kept)

theorem embeds (source name : String) : Embeds source name where
  absent h := by rw [embed, replaceFirst_eq_self h, String.ofList_toList]
  filled before line after h := by
    obtain ⟨indent, trail, hline, hindent, htrail⟩ := Text.exists_stripBy Text.isBlank line
    rw [← Text.strip, h.keeps] at hline
    exact ⟨indent, trail, withoutPlaceholder source name, Text.quote (withoutPlaceholder source name),
      .const (.str (withoutPlaceholder source name)), hline,
      fun c hc => (List.mem_append.mp hc).elim (hindent c) (htrail c), h.embed_eq hline hindent,
      h.withoutPlaceholder_eq, Syntax.readExpr_quote _, fun w fr => Execution.yields_const _⟩

/-- A source with a place, and the placeholder once more in a comment below. -/
def placed : String :=
  "a = \"'\"\n __source__ = '__typeforge_source__'\n# __source__ = '__typeforge_source__'\n"

theorem placeIn_placed : PlaceIn placed sourceAttribute
    ["a = \"'\"\n".toList] " __source__ = '__typeforge_source__'\n".toList
    ["# __source__ = '__typeforge_source__'\n".toList] where
  lines := by decide +kernel
  keeps := by decide +kernel
  first := by decide +kernel

/-- A source whose placeholder stands in a comment above its place. -/
def commented : String :=
  "# __source__ = '__typeforge_source__'\n__source__ = '__typeforge_source__'\n"

/-- **An earlier occurrence takes the text instead:** the comment changes, and the line that consists
of the placeholder stays. -/
theorem embed_misses_place :
    Text.splitLinesKeep commented.toList =
        ["# __source__ = '__typeforge_source__'\n".toList] ++
          "__source__ = '__typeforge_source__'\n".toList :: [] ∧
      Text.strip "__source__ = '__typeforge_source__'\n".toList =
        (placeholder sourceAttribute).toList ∧
      withoutPlaceholder commented sourceAttribute = "# __source__ = '__typeforge_source__'\n" ∧
      embed commented sourceAttribute =
        "# __source__ = \"# __source__ = '__typeforge_source__'\\n\"\n" ++
          "__source__ = '__typeforge_source__'\n" := by
  decide +kernel

end Source

end Facade
