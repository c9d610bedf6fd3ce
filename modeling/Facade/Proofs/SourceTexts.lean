import Facade.Proofs.Embedding
import Facade.Wrapper.Type

/-!
# Texts that hold themselves

The module of a class that is to hold its source ends with the line that keeps the place for it. Once the
source is there, the last line assigns all the lines above it.

* `HoldsItself`: the last line of a text assigns the lines above it.
* `holdsItself_embed`: what becomes of a text whose last line keeps the place.
* `exists_render`: the text of a module that ends with such a class has such a line.
-/

namespace Facade

open Syntax (Stmt Layout)

/-! ## Texts that hold themselves -/

namespace Source

/-- Whole lines, one after the other. -/
def linesText (ls : List String) : String := String.join (ls.map (· ++ "\n"))

/-- The last line of a text, four blanks deep, assigns the lines above it. -/
def HoldsItself (text kept : String) : Prop :=
  (∃ above, kept = linesText above) ∧
    text = kept ++ ("    " ++ sourceAttribute ++ " = " ++ Text.quote kept ++ "\n")

/-- The line that keeps the place, at the end of a text. -/
def placeLine : String := "    " ++ placeholder sourceAttribute

theorem linesText_concat (ls : List String) (l : String) :
    linesText (ls ++ [l]) = linesText ls ++ (l ++ "\n") := by
  simp [linesText]

theorem intercalate_feed {ls : List String} (h : ls ≠ []) :
    "\n".intercalate ls ++ "\n" = linesText ls := by
  rw [linesText, ← String.toList_inj, String.toList_append, String.toList_intercalate,
    String.toList_join]
  induction ls with
  | nil => exact absurd rfl h
  | cons l ls ih =>
    cases ls with
    | nil => simp
    | cons k ls =>
      have := ih (by simp)
      simp only [List.map_cons, List.flatMap_cons, List.intercalate_cons_cons, List.append_assoc,
        String.toList_append] at this ⊢
      rw [this]

/-- What stands on one line is counted line by line. -/
theorem occurrences_linesText {piece : List Char} (hp : '\n' ∉ piece) (hne : piece ≠ [])
    (ls : List String) : occurrences piece (linesText ls).toList =
      (ls.map fun l => occurrences piece l.toList).sum := by
  induction ls with
  | nil => rfl
  | cons l ls ih =>
    have htext : (linesText (l :: ls)).toList = l.toList ++ '\n' :: (linesText ls).toList := by
      simp [linesText]
    rw [htext, occurrences_append_feed hp hne, ih, List.map_cons, List.sum_cons]

theorem toList_placeLine : (placeLine ++ "\n").toList =
    "    ".toList ++ (placeholder sourceAttribute).toList ++ "\n".toList := by
  simp [placeLine]

theorem isBlank_indent : ∀ c ∈ "    ".toList, Text.isBlank c = true := by
  intro c hc
  obtain rfl : c = ' ' := by simpa using hc
  decide

theorem strip_placeLine :
    Text.strip (placeLine ++ "\n").toList = (placeholder sourceAttribute).toList := by
  decide +kernel

theorem splitLinesKeep_placeLine :
    Text.splitLinesKeep (placeLine ++ "\n").toList = [(placeLine ++ "\n").toList] := by
  decide +kernel

/-- The line that keeps the place is a line of its own behind other lines. -/
theorem splitLinesKeep_linesText (above : List String) :
    Text.splitLinesKeep ((linesText above).toList ++ (placeLine ++ "\n").toList) =
      Text.splitLinesKeep (linesText above).toList ++ [(placeLine ++ "\n").toList] := by
  rcases List.eq_nil_or_concat above with rfl | ⟨ls, l, rfl⟩
  · exact splitLinesKeep_placeLine
  · have htext : (linesText (ls.concat l)).toList = ((linesText ls).toList ++ l.toList) ++ ['\n'] := by
      rw [List.concat_eq_append, linesText_concat]
      simp
    rw [htext, List.append_assoc, List.singleton_append, splitLinesKeep_feed,
      splitLinesKeep_placeLine]

/-- **A text whose last line keeps the place comes to hold itself,** if the placeholder occurs nowhere
else. -/
theorem holdsItself_embed {above : List String}
    (hone : occurrences (placeholder sourceAttribute).toList
      (linesText (above ++ [placeLine])).toList ≤ 1) :
    withoutPlaceholder (linesText (above ++ [placeLine])) sourceAttribute = linesText above ∧
      HoldsItself (embed (linesText (above ++ [placeLine])) sourceAttribute) (linesText above) := by
  have htext : String.ofList ((linesText above).toList ++ (placeLine ++ "\n").toList) =
      linesText (above ++ [placeLine]) := by
    rw [linesText_concat, ← String.toList_append, String.ofList_toList]
  have hplace := placeIn_last (splitLinesKeep_linesText above) strip_placeLine
    (by rwa [← String.toList_append, ← linesText_concat])
  rw [htext] at hplace
  have hkept : withoutPlaceholder (linesText (above ++ [placeLine])) sourceAttribute =
      linesText above := by
    rw [hplace.withoutPlaceholder_last, Text.flatten_splitLinesKeep, String.ofList_toList]
  refine ⟨hkept, ⟨above, rfl⟩, ?_⟩
  rw [hplace.embed_eq toList_placeLine isBlank_indent, hkept, Text.flatten_splitLinesKeep]
  rw [← String.toList_inj]
  simp

end Source

/-! ## The text of a class -/

namespace Syntax

theorem bodyLines_append (l : Layout) (level : Nat) (as bs : List Stmt) :
    Stmt.bodyLines l level (as ++ bs) = Stmt.bodyLines l level as ++ Stmt.bodyLines l level bs := by
  induction as with
  | nil => rfl
  | cons a as ih => rw [List.cons_append, Stmt.bodyLines, Stmt.bodyLines, ih, List.append_assoc]

/-- A statement that is no documentation adds its lines at the end. -/
theorem documentedLines_concat (l : Layout) (level : Nat) (as : List Stmt) {s : Stmt}
    (hs : s.docstring? = none) : Stmt.documentedLines l level (as ++ [s]) =
      Stmt.documentedLines l level as ++ s.lines l level := by
  cases as with
  | nil => simp [Stmt.documentedLines, Stmt.bodyLines, hs]
  | cons a as =>
    rw [List.cons_append, Stmt.documentedLines, Stmt.documentedLines, bodyLines_append,
      Stmt.bodyLines, Stmt.bodyLines, List.append_nil, List.append_assoc]

/-- Every line of a draft is kept. -/
theorem render_draft (body : List Stmt) :
    render .draft body = "\n".intercalate (Stmt.documentedLines .draft 0 body) ++ "\n" := by
  unfold render
  dsimp only
  split <;> rfl

end Syntax

namespace Wrapper

open Source Syntax

theorem lines_placeholderStmt (l : Layout) : placeholderStmt.lines l 1 = [placeLine] := by
  have htext : String.join [(Expr.name sourceAttribute).textAt l .tuple ++ " = "] ++
      (Expr.str sourceMarker).text l = placeholder sourceAttribute := by
    rw [String.join_cons, String.join_nil, String.append_empty]
    rfl
  rw [placeholderStmt, Stmt.lines, List.map_singleton, htext]
  rfl

/-- **The text of a module ends with the line that keeps the place** if the module ends with a class
whose body does. -/
theorem exists_render (l : Layout) (front body : List Stmt) (name : String) (bases : List Expr)
    (keywords : List (Option String × Expr)) (decorators : List Expr) :
    ∃ above, render l (front ++
      [.class name bases keywords decorators (body ++ [placeholderStmt])]) =
        linesText (above ++ [placeLine]) := by
  obtain ⟨opening, hclass⟩ : ∃ opening,
      (Stmt.class name bases keywords decorators (body ++ [placeholderStmt])).lines l 0 =
        (opening ++ lineAt 0 (classHeader l name bases keywords) ::
          Stmt.documentedLines l 1 body) ++ [placeLine] := by
    refine ⟨(if l.spacesDefinitions then [""] else []) ++
      decorators.map (fun d => lineAt 0 ("@" ++ d.text l)), ?_⟩
    rw [Stmt.lines, documentedLines_concat l 1 body rfl, lines_placeholderStmt]
    simp
  have hlines : ∃ x above, Stmt.documentedLines l 0 (front ++
      [.class name bases keywords decorators (body ++ [placeholderStmt])]) =
        x :: (above ++ [placeLine]) := by
    rw [documentedLines_concat l 0 front rfl, hclass, ← List.append_assoc]
    obtain ⟨x, above, h⟩ := List.exists_cons_of_ne_nil
      (l := Stmt.documentedLines l 0 front ++ (opening ++
        lineAt 0 (classHeader l name bases keywords) :: Stmt.documentedLines l 1 body)) (by simp)
    exact ⟨x, above, by rw [h]; rfl⟩
  obtain ⟨x, above, hlines⟩ := hlines
  have hjoin (ls : List String) : "\n".intercalate (ls ++ [placeLine]) ++ "\n" =
      linesText (ls ++ [placeLine]) := intercalate_feed (by simp)
  unfold render
  rw [hlines]
  dsimp only
  split
  · rename_i r heq
    obtain ⟨-, rfl⟩ := List.cons.inj heq
    split
    · exact ⟨above, hjoin above⟩
    · exact ⟨x :: above, hjoin (x :: above)⟩
  · exact ⟨x :: above, hjoin (x :: above)⟩

/-- How often the placeholder occurs in a draft, counted line by line. -/
theorem occurrences_render (body : List Stmt) :
    occurrences (placeholder sourceAttribute).toList (render .draft body).toList =
      ((Stmt.documentedLines .draft 0 body).map fun l =>
        occurrences (placeholder sourceAttribute).toList l.toList).sum := by
  rw [render_draft]
  generalize Stmt.documentedLines .draft 0 body = ls
  cases ls with
  | nil => decide +kernel
  | cons l ls =>
    rw [intercalate_feed (by simp), occurrences_linesText (by decide +kernel) (by decide +kernel)]

end Wrapper

end Facade
