import Facade.Proofs.Beginnings
import Facade.Proofs.Splicing
import Mathlib.Data.List.TakeWhile

/-!
# Blocks that are written

What is written of nested blocks is told by its lines, each with the number of blocks that are open. A
block holds the lines behind its header that are deeper than it. It has a statement of its own if its
body writes one, or writes no fragment: a block of blank lines is filled, but the comments around a
fragment are taken for content.

* `isFlushCode`: lines that are neither blank nor comments, and not indented on their own.
* `Step.laid`, `laidAll`, `write_eq_laid`: the lines of a step with their depths.
* `Within`, `laid_within`: a block of a program, and where it stands among the lines.
* `Step.fills`, `filled_iff`: when a block has a statement of its own.
* `block_filled_iff`: blocks of a program as they are rendered.
* `fragment_leaves_block_empty`: a block around an empty fragment is left without a statement.
-/

namespace Facade.Source

open Text Syntax

/-! ## Lines -/

/-- Whether a line is neither blank nor a comment, and not indented. -/
def isFlushCode (t : String) : Bool := t.toList.head?.any fun c => !isBlank c && c != '#'

theorem isFlushCode_iff {t : String} :
    isFlushCode t = true ↔ ∃ c r, t.toList = c :: r ∧ isBlank c = false ∧ c ≠ '#' := by
  unfold isFlushCode
  cases t.toList with
  | nil => simp
  | cons c r => simp

theorem isBlankLine_iff {t : String} : isBlankLine t = true ↔ ∀ c ∈ t.toList, isBlank c = true := by
  rw [isBlankLine, List.isEmpty_iff]
  constructor
  · intro h c hc
    obtain ⟨before, after, hsplit, hbefore, hafter⟩ := exists_stripBy isBlank t.toList
    rw [← strip, h, List.append_nil] at hsplit
    rw [hsplit] at hc
    exact (List.mem_append.mp hc).elim (hbefore c) (hafter c)
  · intro h
    rw [strip, stripBy, List.dropWhile_eq_nil_iff.mpr h]
    rfl

theorem isBlankLine_lineAt (level : Nat) (t : String) :
    isBlankLine (lineAt level t) = isBlankLine t := by
  rw [Bool.eq_iff_iff, isBlankLine_iff, isBlankLine_iff, toList_lineAt, padded]
  split_ifs with h
  · rw [h]
  · have hblanks : ∀ c ∈ List.replicate (4 * level) ' ', isBlank c = true := fun c hc =>
      List.eq_of_mem_replicate hc ▸ rfl
    simp only [List.mem_append, or_imp, forall_and]
    exact and_iff_right hblanks

/-! ## Lines with their depths -/

/-- What stands under a header, a statement that does nothing included. -/
def closeLaid (level : Nat) (body : List (Nat × String)) : List (Nat × String) :=
  if body.all fun p => isBlankLine p.2 then body ++ [(level, "pass")] else body

mutual

/-- The lines of a step, each with the number of blocks that are open. -/
def Step.laid (level : Nat) : Step → List (Nat × String)
  | .line text => [(level, text)]
  | .lines texts => texts.map fun t => (level, t)
  | .fragment code label => (fragmentLines code label).map fun t => (level, t)
  | .block header body => (level, header) :: closeLaid (level + 1) (laidAll (level + 1) body)
  | .raise _ => []

/-- The lines of steps, each with the number of blocks that are open. -/
def laidAll (level : Nat) : List Step → List (Nat × String)
  | [] => []
  | s :: r => s.laid level ++ laidAll level r

end

mutual

/-- Lines that are blank or statements, each of them one line; headers that are statements; fragments of
any kind; and no exceptions. -/
def Step.isProper : Step → Bool
  | .line text => isPlainLine text.toList && (isBlankLine text || isFlushCode text)
  | .lines texts => texts.all fun t => isPlainLine t.toList && (isBlankLine t || isFlushCode t)
  | .fragment _ label => isPlainLine label.toList
  | .block header body => isPlainLine header.toList && isFlushCode header && allProper body
  | .raise _ => false

/-- All of several steps are proper. -/
def allProper : List Step → Bool
  | [] => true
  | s :: r => s.isProper && allProper r

end

theorem allProper_iff {steps : List Step} : allProper steps = true ↔ ∀ s ∈ steps, s.isProper = true := by
  induction steps with
  | nil => simp [allProper]
  | cons s r ih => simp [allProper, ih]

theorem laidAll_append (level : Nat) (ss ts : List Step) :
    laidAll level (ss ++ ts) = laidAll level ss ++ laidAll level ts := by
  induction ss with
  | nil => rfl
  | cons s ss ih => rw [List.cons_append, laidAll, laidAll, ih, List.append_assoc]

theorem mem_laidAll {level : Nat} {steps : List Step} {p : Nat × String} :
    p ∈ laidAll level steps ↔ ∃ s ∈ steps, p ∈ s.laid level := by
  induction steps with
  | nil => simp [laidAll]
  | cons s r ih => simp [laidAll, ih]

/-- A line at its depth. -/
def place (p : Nat × String) : String := lineAt p.1 p.2

theorem closeBlock_place (level : Nat) (body : List (Nat × String)) :
    closeBlock level (body.map place) = (closeLaid level body).map place := by
  have hall : (body.map place).all isBlankLine = body.all fun p => isBlankLine p.2 := by
    rw [List.all_map]
    exact congrArg body.all (funext fun p => isBlankLine_lineAt p.1 p.2)
  rw [closeBlock, closeLaid, hall]
  split_ifs
  · rw [List.map_append]
    rfl
  · rfl

mutual

theorem write_eq_laid (level : Nat) (s : Step) (h : s.isProper = true) :
    s.write level = ((s.laid level).map place, none) := by
  cases s with
  | line text => rfl
  | lines texts => simp [Step.write, Step.laid, place, Function.comp_def]
  | fragment code label => simp [Step.write, Step.laid, place, Function.comp_def]
  | block header body =>
    rw [Step.isProper, Bool.and_eq_true, Bool.and_eq_true] at h
    rw [Step.write, writeAll_eq_laid (level + 1) body h.2, Step.laid, List.map_cons,
      ← closeBlock_place]
    rfl
  | raise text => cases h
termination_by sizeOf s

/-- **What is written are lines at their depths.** -/
theorem writeAll_eq_laid (level : Nat) (steps : List Step) (h : allProper steps = true) :
    writeAll level steps = ((laidAll level steps).map place, none) := by
  cases steps with
  | nil => rfl
  | cons s r =>
    rw [allProper, Bool.and_eq_true] at h
    rw [writeAll, write_eq_laid level s h.1, writeAll_eq_laid level r h.2, laidAll, List.map_append]
termination_by sizeOf steps

end

/-! ## Blocks among the lines -/

/-- A block of a program with `k` blocks around it. -/
inductive Within : List Step → Nat → String → List Step → Prop
  | here {steps : List Step} {header : String} {body : List Step} :
      .block header body ∈ steps → Within steps 0 header body
  | inside {steps outer body : List Step} {around header : String} {k : Nat} :
      .block around outer ∈ steps → Within outer k header body → Within steps (k + 1) header body

section Depths

variable {level k : Nat} {steps body : List Step} {header : String}

theorem mem_closeLaid {ls : List (Nat × String)} {p : Nat × String} (h : p ∈ closeLaid level ls) :
    p ∈ ls ∨ p = (level, "pass") := by
  unfold closeLaid at h
  split_ifs at h
  · simpa using h
  · exact .inl h

theorem closeLaid_eq (level : Nat) (ls : List (Nat × String)) :
    ∃ filler, closeLaid level ls = ls ++ filler ∧ ∀ p ∈ filler, p.1 = level := by
  unfold closeLaid
  split_ifs
  · exact ⟨_, rfl, by simp⟩
  · exact ⟨[], (List.append_nil ls).symm, nofun⟩

mutual

theorem le_of_mem_laid (level : Nat) (s : Step) : ∀ p ∈ s.laid level, level ≤ p.1 := by
  intro p hp
  cases s with
  | line text => exact (List.mem_singleton.mp hp ▸ Nat.le_refl level)
  | lines texts =>
    obtain ⟨t, -, rfl⟩ := List.mem_map.mp hp
    exact Nat.le_refl level
  | fragment code label =>
    obtain ⟨t, -, rfl⟩ := List.mem_map.mp hp
    exact Nat.le_refl level
  | block header body =>
    rw [Step.laid, List.mem_cons] at hp
    rcases hp with rfl | hp
    · exact Nat.le_refl level
    · rcases mem_closeLaid hp with hp | rfl
      · exact Nat.le_of_succ_le (le_of_mem_laidAll (level + 1) body p hp)
      · exact Nat.le_succ level
  | raise text => cases hp
termination_by sizeOf s

/-- Steps write nothing less deep than they are. -/
theorem le_of_mem_laidAll (level : Nat) (steps : List Step) : ∀ p ∈ laidAll level steps, level ≤ p.1 := by
  intro p hp
  cases steps with
  | nil => cases hp
  | cons s r =>
    rcases List.mem_append.mp hp with hp | hp
    · exact le_of_mem_laid level s p hp
    · exact le_of_mem_laidAll level r p hp
termination_by sizeOf steps

end

/-- The first line that steps write is as deep as they are. -/
theorem head?_laidAll (level : Nat) (steps : List Step) :
    ∀ p ∈ (laidAll level steps).head?, p.1 = level := by
  induction steps with
  | nil => exact nofun
  | cons s r ih =>
    intro p hp
    rw [laidAll, List.head?_append] at hp
    cases s with
    | line text => exact (Option.some.inj hp ▸ rfl)
    | lines texts =>
      cases texts with
      | nil => exact ih p hp
      | cons t ts => exact (Option.some.inj hp ▸ rfl)
    | fragment code label => exact (Option.some.inj hp ▸ rfl)
    | block header body => exact (Option.some.inj hp ▸ rfl)
    | raise text => exact ih p hp

/-- **Where a block stands among the lines:** behind its header, up to a line that is not deeper. -/
theorem laid_within (h : Within steps k header body) : ∀ level, ∃ pre post,
    laidAll level steps = pre ++ (level + k, header) ::
      (closeLaid (level + k + 1) (laidAll (level + k + 1) body) ++ post) ∧
    ∀ p ∈ post.head?, p.1 ≤ level + k := by
  induction h with
  | @here steps header body hmem =>
    intro level
    obtain ⟨before, after, rfl⟩ := List.append_of_mem hmem
    refine ⟨laidAll level before, laidAll level after, ?_, fun p hp =>
      (head?_laidAll level after p hp).le⟩
    rw [laidAll_append, laidAll, Step.laid]
    rfl
  | @inside steps outer body around header k hmem _ ih =>
    intro level
    obtain ⟨before, after, rfl⟩ := List.append_of_mem hmem
    obtain ⟨pre, post, hlaid, hpost⟩ := ih (level + 1)
    obtain ⟨filler, hfiller, hdepth⟩ := closeLaid_eq (level + 1) (laidAll (level + 1) outer)
    have hk : level + 1 + k = level + (k + 1) := by omega
    refine ⟨laidAll level before ++ (level, around) :: pre,
      post ++ filler ++ laidAll level after, ?_, ?_⟩
    · rw [laidAll_append, laidAll, Step.laid, hfiller, hlaid, hk]
      simp only [List.append_assoc, List.cons_append]
    · intro p hp
      rw [hk] at hpost
      rcases post with _ | ⟨q, post⟩
      · rcases filler with _ | ⟨q, filler⟩
        · exact (head?_laidAll level after p hp).le.trans (Nat.le_add_right _ _)
        · obtain rfl := Option.some.inj hp
          exact (hdepth _ List.mem_cons_self).le.trans (by omega)
      · obtain rfl := Option.some.inj hp
        exact hpost _ rfl

/-! ## Statements of a block -/

/-- Whether a step writes a statement that is as deep as it is. -/
def Step.fills : Step → Bool
  | .line text => isFlushCode text
  | .lines texts => texts.any isFlushCode
  | .fragment code label => (fragmentLines code label).any isFlushCode
  | .block _ _ => true
  | .raise _ => false

/-- Whether a step is a fragment. -/
def Step.isFragment : Step → Bool
  | .fragment _ _ => true
  | _ => false

theorem fills_iff {s : Step} (h : s.isProper = true) :
    s.fills = true ↔ ∃ p ∈ s.laid level, p.1 = level ∧ isFlushCode p.2 = true := by
  cases s with
  | line text => simp [Step.fills, Step.laid]
  | lines texts => simp [Step.fills, Step.laid]
  | fragment code label => simp [Step.fills, Step.laid]
  | block header body =>
    rw [Step.isProper, Bool.and_eq_true, Bool.and_eq_true] at h
    exact iff_of_true rfl ⟨(level, header), List.mem_cons_self, rfl, h.1.2⟩
  | raise text => cases h

theorem fills_of_not_blank {s : Step} (h : s.isProper = true) (hfragment : s.isFragment = false)
    (hblank : ∃ p ∈ s.laid level, isBlankLine p.2 = false) : s.fills = true := by
  obtain ⟨p, hp, hblank⟩ := hblank
  cases s with
  | line text =>
    obtain rfl := List.mem_singleton.mp hp
    simp_all [Step.isProper, Step.fills]
  | lines texts =>
    obtain ⟨t, ht, rfl⟩ := List.mem_map.mp hp
    simp only [Step.isProper, List.all_eq_true, Bool.and_eq_true, Bool.or_eq_true] at h
    exact List.any_eq_true.mpr ⟨t, ht, (h t ht).2.resolve_left (by rw [hblank]; exact Bool.false_ne_true)⟩
  | fragment code label => cases hfragment
  | block header body => rfl
  | raise text => cases h

/-- **When a block has a statement of its own:** if its body writes one, or writes no fragment. -/
theorem filled_iff (h : allProper body = true) :
    (∃ p ∈ closeLaid level (laidAll level body), p.1 = level ∧ isFlushCode p.2 = true) ↔
      (∃ s ∈ body, s.fills = true) ∨ ∀ s ∈ body, s.isFragment = false := by
  rw [allProper_iff] at h
  have hwritten : (∃ p ∈ laidAll level body, p.1 = level ∧ isFlushCode p.2 = true) ↔
      ∃ s ∈ body, s.fills = true := by
    constructor
    · rintro ⟨p, hp, hcode⟩
      obtain ⟨s, hs, hps⟩ := mem_laidAll.mp hp
      exact ⟨s, hs, (fills_iff (h s hs)).mpr ⟨p, hps, hcode⟩⟩
    · rintro ⟨s, hs, hfills⟩
      obtain ⟨p, hp, hcode⟩ := (fills_iff (h s hs)).mp hfills
      exact ⟨p, mem_laidAll.mpr ⟨s, hs, hp⟩, hcode⟩
  by_cases hblank : ((laidAll level body).all fun p => isBlankLine p.2) = true
  · have hnone : ∀ s ∈ body, s.isFragment = false := by
      intro s hs
      cases s with
      | fragment code label =>
        have hcomment := List.all_eq_true.mp hblank (level, "# " ++ label ++ " begins")
          (mem_laidAll.mpr ⟨_, hs, by simp [Step.laid, fragmentLines]⟩)
        have hmarked := isBlankLine_comment level (label ++ " begins")
        rw [isBlankLine_lineAt, ← String.append_assoc, hcomment] at hmarked
        cases hmarked
      | _ => rfl
    refine iff_of_true ⟨(level, "pass"), ?_, rfl, show isFlushCode "pass" = true by decide⟩
      (.inr hnone)
    rw [closeLaid, if_pos hblank]
    simp
  · rw [closeLaid, if_neg hblank, hwritten]
    refine ⟨.inl, fun hor => hor.elim id fun hnone => ?_⟩
    obtain ⟨p, hp, hp'⟩ : ∃ p ∈ laidAll level body, isBlankLine p.2 = false := by
      simpa using hblank
    obtain ⟨s, hs, hps⟩ := mem_laidAll.mp hp
    exact ⟨s, hs, fills_of_not_blank (h s hs) (hnone s hs) ⟨p, hps, hp'⟩⟩

/-- **A fragment that reads as a source with a statement fills the block** that it stands in. -/
theorem fills_fragment {code : String} (label : String) {s : Stmt} {ss : List Stmt}
    (h : readModule (String.ofList (fragmentText code)) = .ok (s :: ss)) :
    (Step.fragment code label).fills = true := by
  have hbegins := begins_of_readModule h
  rw [String.toList_ofList] at hbegins
  obtain ⟨c, l, hl, hblank, hhash⟩ := hbegins.splitLines
  obtain ⟨z, hz, hzblank⟩ := exists_stripEndBy isBlank (c :: l)
  have hmem : String.ofList (stripEnd (c :: l)) ∈ fragmentLines code label := by
    simp only [fragmentLines, List.mem_append, List.mem_map]
    exact .inl (.inr ⟨c :: l, hl, rfl⟩)
  refine List.any_eq_true.mpr ⟨_, hmem, isFlushCode_iff.mpr ?_⟩
  rw [String.toList_ofList]
  rcases hstrip : stripEnd (c :: l) with _ | ⟨d, l'⟩
  · rw [← stripEnd, hstrip, List.nil_append] at hz
    rw [hzblank c (by rw [← hz]; exact List.mem_cons_self)] at hblank
    cases hblank
  · rw [← stripEnd, hstrip] at hz
    obtain rfl := (List.cons.inj hz).1
    exact ⟨c, l', rfl, hblank, hhash⟩

/-! ## Programs that are rendered -/

mutual

theorem isPlainLine_laid (level : Nat) (s : Step) (h : s.isProper = true) :
    ∀ p ∈ s.laid level, isPlainLine p.2.toList = true := by
  intro p hp
  cases s with
  | line text =>
    obtain rfl := List.mem_singleton.mp hp
    exact (Bool.and_eq_true_iff.mp h).1
  | lines texts =>
    obtain ⟨t, ht, rfl⟩ := List.mem_map.mp hp
    exact (Bool.and_eq_true_iff.mp (List.all_eq_true.mp h t ht)).1
  | fragment code label =>
    obtain ⟨t, ht, rfl⟩ := List.mem_map.mp hp
    exact isPlainLine_fragmentLines h t ht
  | block header body =>
    rw [Step.isProper, Bool.and_eq_true, Bool.and_eq_true] at h
    rw [Step.laid, List.mem_cons] at hp
    rcases hp with rfl | hp
    · exact h.1.1
    · rcases mem_closeLaid hp with hp | rfl
      · exact isPlainLine_laidAll (level + 1) body h.2 p hp
      · exact show isPlainLine "pass".toList = true by decide
  | raise text => cases h
termination_by sizeOf s

/-- No line that proper steps write holds a line end. -/
theorem isPlainLine_laidAll (level : Nat) (steps : List Step) (h : allProper steps = true) :
    ∀ p ∈ laidAll level steps, isPlainLine p.2.toList = true := by
  intro p hp
  cases steps with
  | nil => cases hp
  | cons s r =>
    rw [allProper, Bool.and_eq_true] at h
    rcases List.mem_append.mp hp with hp | hp
    · exact isPlainLine_laid level s h.1 p hp
    · exact isPlainLine_laidAll level r h.2 p hp
termination_by sizeOf steps

end

/-- The lines of the text that is rendered. -/
theorem sourceLines_textOf (h : allProper steps = true) (hne : laidAll 0 steps ≠ []) :
    sourceLines (textOf (writeAll 0 steps).1).toList =
      (laidAll 0 steps).map fun p => padded (4 * p.1) p.2.toList := by
  have hplain : ∀ l ∈ ((laidAll 0 steps).map place).map String.toList, isPlainLine l = true := by
    intro l hl
    obtain ⟨t, ht, rfl⟩ := List.mem_map.mp hl
    obtain ⟨p, hp, rfl⟩ := List.mem_map.mp ht
    exact isPlainLine_lineAt p.1 (isPlainLine_laidAll 0 steps h p hp)
  rw [writeAll_eq_laid 0 steps h, toList_textOf (by simpa using hne), sourceLines_feedLines hplain,
    List.map_map]
  exact List.map_congr_left fun p _ => toList_lineAt p.1 p.2

/-- A block that was closed is not blank. -/
theorem exists_not_blank (level : Nat) (ls : List (Nat × String)) :
    ∃ p ∈ closeLaid level ls, isBlankLine p.2 = false := by
  unfold closeLaid
  split_ifs with h
  · exact ⟨(level, "pass"), by simp, show isBlankLine "pass" = false by decide⟩
  · simpa using h

theorem allProper_within (h : Within steps k header body) (hp : allProper steps = true) :
    allProper body = true := by
  induction h with
  | here hmem =>
    have hblock := allProper_iff.mp hp _ hmem
    rw [Step.isProper, Bool.and_eq_true] at hblock
    exact hblock.2
  | inside hmem _ ih =>
    have hblock := allProper_iff.mp hp _ hmem
    rw [Step.isProper, Bool.and_eq_true] at hblock
    exact ih hblock.2

/-- **Blocks as they are rendered.** The lines of the text are those of the program, each behind four
blanks for every block that is open, and empty ones behind none. Behind the header of a block stand
lines that are deeper, one of which is not blank, up to one that is not deeper. Just one level deeper
there is a line that is neither blank nor a comment if and only if the body fills the block or writes no
fragment; every fragment that reads as a source with a statement fills it. -/
theorem block_filled_iff (hp : allProper steps = true) (h : Within steps k header body) :
    (writeAll 0 steps).2 = none ∧
    sourceLines (textOf (writeAll 0 steps).1).toList =
      (laidAll 0 steps).map (fun p => padded (4 * p.1) p.2.toList) ∧
    ∃ pre inner post, laidAll 0 steps = pre ++ (k, header) :: (inner ++ post) ∧
      (∀ p ∈ inner, k < p.1) ∧ (∀ p ∈ post.head?, p.1 ≤ k) ∧
      (∃ p ∈ inner, isBlankLine p.2 = false) ∧
      ((∃ p ∈ inner, p.1 = k + 1 ∧ isFlushCode p.2 = true) ↔
        (∃ s ∈ body, s.fills = true) ∨ ∀ s ∈ body, s.isFragment = false) ∧
      ∀ code label s ss, .fragment code label ∈ body →
        readModule (String.ofList (fragmentText code)) = .ok (s :: ss) →
          ∃ p ∈ inner, p.1 = k + 1 ∧ isFlushCode p.2 = true := by
  have hbody := allProper_within h hp
  obtain ⟨pre, post, hlaid, hpost⟩ := laid_within h 0
  rw [Nat.zero_add] at hlaid hpost
  have hfilled : (∃ p ∈ closeLaid (k + 1) (laidAll (k + 1) body),
      p.1 = k + 1 ∧ isFlushCode p.2 = true) ↔
        (∃ s ∈ body, s.fills = true) ∨ ∀ s ∈ body, s.isFragment = false := filled_iff hbody
  refine ⟨by rw [writeAll_eq_laid 0 steps hp], sourceLines_textOf hp (by rw [hlaid]; simp), pre, _,
    post, hlaid, fun p hmem => ?_, hpost, exists_not_blank _ _, hfilled, ?_⟩
  · rcases mem_closeLaid hmem with hmem | rfl
    · exact le_of_mem_laidAll (k + 1) body p hmem
    · exact Nat.lt_succ_self k
  · exact fun code label s ss hmem hread => hfilled.mpr (.inl ⟨_, hmem, fills_fragment label hread⟩)

end Depths

/-- A class with a blank line, a method that consists of a fragment, and one of a blank line. -/
def nestedProgram : List Step :=
  [.block "class A:" [.line "", .block "def f(self):" [.fragment "\n  # one\n  return 1\n" "One"],
    .block "def g(self):" [.lines ["", ""]]]]

/-- Both methods have a statement. -/
theorem block_filled_iff_nested : allProper nestedProgram = true ∧
    ∀ header ∈ ["def f(self):", "def g(self):"], ∃ body pre inner post,
      Within nestedProgram 1 header body ∧
      laidAll 0 nestedProgram = pre ++ (1, header) :: (inner ++ post) ∧ (∀ p ∈ inner, 1 < p.1) ∧
      ∃ p ∈ inner, p.1 = 2 ∧ isFlushCode p.2 = true := by
  have hp : allProper nestedProgram = true := by decide +kernel
  have hf : Within nestedProgram 1 "def f(self):" [.fragment "\n  # one\n  return 1\n" "One"] :=
    .inside List.mem_cons_self (.here (by simp))
  have hg : Within nestedProgram 1 "def g(self):" [.lines ["", ""]] :=
    .inside List.mem_cons_self (.here (by simp))
  refine ⟨hp, List.forall_mem_cons.mpr ⟨?_, List.forall_mem_singleton.mpr ?_⟩⟩
  · obtain ⟨-, -, pre, inner, post, hlaid, hdeep, -, -, hfilled, -⟩ := block_filled_iff hp hf
    exact ⟨_, pre, inner, post, hf, hlaid, hdeep,
      hfilled.mpr (.inl ⟨_, List.mem_cons_self, by decide +kernel⟩)⟩
  · obtain ⟨-, -, pre, inner, post, hlaid, hdeep, -, -, hfilled, -⟩ := block_filled_iff hp hg
    exact ⟨_, pre, inner, post, hg, hlaid, hdeep, hfilled.mpr (.inr (by simp [Step.isFragment]))⟩

/-- A block around a fragment. -/
def fragmentBlock (code : String) : List Step :=
  [.block "if x:" [.fragment code "One"]]

/-- The text of a block around a fragment has the header, and nothing but idle lines behind it. -/
def LeavesEmpty (code : String) : Prop :=
  (sourceLines (textOf (writeAll 0 (fragmentBlock code)).1).toList).head? = some "if x:".toList ∧
    ∀ l ∈ (sourceLines (textOf (writeAll 0 (fragmentBlock code)).1).toList).tail, isIdle l = true

instance (code : String) : Decidable (LeavesEmpty code) :=
  inferInstanceAs (Decidable (_ ∧ _))

/-- **A block around an empty fragment, or one that is a comment, has no statement:** the comments around
the fragment are taken for content, and nothing is put in. -/
theorem fragment_leaves_block_empty :
    (readModule "" = .ok [] ∧ allProper (fragmentBlock "") = true ∧ LeavesEmpty "") ∧
      readModule "# nothing" = .ok [] ∧ allProper (fragmentBlock "# nothing") = true ∧
        LeavesEmpty "# nothing" :=
  ⟨⟨readModule_idle (by decide +kernel), by decide +kernel, by decide +kernel⟩,
    readModule_idle (by decide +kernel), by decide +kernel, by decide +kernel⟩

end Facade.Source
