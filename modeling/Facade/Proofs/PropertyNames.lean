import Facade.Conversion.Plan
import Facade.Text.Normal
import Mathlib.Data.List.Sort

/-!
# Names of fields and properties

A name stays a name in title case, unless it becomes one of the reserved words that open with a capital.

* `liesWithin`, `inRanges_of_liesWithin`: ranges of code points that lie within others.
* `isIdentifierContinue_of_isIdentifierStart`: what opens an identifier may stand inside one.
* `isIdentifier_titleCase`: an identifier stays one in title case.
* `isName_fieldOf`, `isName_propertyName_iff`: which fields and properties have names.
* `isPlainName_fieldOf`: the field of a name that stands for itself stands for itself.
-/

namespace Facade.Text

open ClassTables CaseTables

/-! ## Ranges -/

/-- Whether ranges in ascending order lie within others. -/
def ascendWithin : List (Nat × Nat) → List (Nat × Nat) → Bool
  | [], _ => true
  | r :: rs, qs =>
    match qs.dropWhile fun q => q.2 < r.1 with
    | [] => false
    | q :: qs => q.1 ≤ r.1 && r.2 ≤ q.2 && ascendWithin rs (q :: qs)

/-- Whether ranges lie within others, which are in ascending order. -/
def liesWithin (rs qs : List (Nat × Nat)) : Bool :=
  ascendWithin (rs.insertionSort fun a b => a.1 ≤ b.1) qs

theorem inRanges_of_ascendWithin {n : Nat} : ∀ {rs qs : List (Nat × Nat)}, ascendWithin rs qs = true →
    inRanges rs n = true → inRanges qs n = true
  | [], _, _, hn => by simp [inRanges] at hn
  | r :: rs, qs, h, hn => by
    rw [ascendWithin] at h
    split at h
    · cases h
    · rename_i q qs' hq
      have hsub : ∀ x ∈ q :: qs', x ∈ qs := fun x hx => (List.dropWhile_sublist _).subset (hq ▸ hx)
      simp only [Bool.and_eq_true, decide_eq_true_eq] at h
      rw [inRanges, List.any_cons, Bool.or_eq_true] at hn
      rcases hn with hn | hn
      · simp only [Bool.and_eq_true, decide_eq_true_eq] at hn
        refine List.any_eq_true.mpr ⟨q, hsub q List.mem_cons_self, ?_⟩
        simp only [Bool.and_eq_true, decide_eq_true_eq]
        omega
      · obtain ⟨x, hx, hxn⟩ := List.any_eq_true.mp (inRanges_of_ascendWithin h.2 hn)
        exact List.any_eq_true.mpr ⟨x, hsub x hx, hxn⟩

theorem inRanges_of_liesWithin {rs qs : List (Nat × Nat)} (h : liesWithin rs qs = true) {n : Nat}
    (hn : inRanges rs n = true) : inRanges qs n = true := by
  refine inRanges_of_ascendWithin h ?_
  obtain ⟨r, hr, hrn⟩ := List.any_eq_true.mp hn
  exact List.any_eq_true.mpr ⟨r, (List.mem_insertionSort _).mpr hr, hrn⟩

theorem inRanges_singles {l : List Nat} {n : Nat} (hn : n ∈ l) :
    inRanges (l.map fun n => (n, n)) n = true :=
  List.any_eq_true.mpr ⟨(n, n), List.mem_map_of_mem hn, by simp⟩

/-! ## What identifiers are made of -/

/-- The code points that may open an identifier. -/
def startRanges : List (Nat × Nat) := (0x41, 0x5a) :: (0x5f, 0x5f) :: (0x61, 0x7a) :: identifierStart

/-- The code points that may stand inside an identifier. -/
def continueRanges : List (Nat × Nat) :=
  (0x30, 0x39) :: (0x41, 0x5a) :: (0x5f, 0x5f) :: (0x61, 0x7a) :: identifierContinue

/-- The image of a run of code points: a range, or one code point after the other. -/
def imageOf (r : Nat × Nat × Nat × Nat) : List (Nat × Nat) :=
  if r.2.2.1 = 1 then [(r.2.2.2, r.2.2.2 + (r.2.1 - r.1))]
  else ((List.range (r.2.1 - r.1 + 1)).filter fun k => k % r.2.2.1 == 0).map fun k =>
    (r.2.2.2 + k, r.2.2.2 + k)

/-- The images of runs of code points, less those of letters in circles. -/
def imagesOf (runs : List (Nat × Nat × Nat × Nat)) : List (Nat × Nat) :=
  ((runs.filter fun r => !(0x24b6 ≤ r.1 && r.2.1 ≤ 0x24e9)).insertionSort
    fun r s => r.2.2.2 ≤ s.2.2.2).flatMap imageOf

/-- What the tables of identifiers and those of cases have to do with each other. -/
structure TablesFit : Prop where
  /-- What opens an identifier may stand inside one. -/
  opening : liesWithin startRanges continueRanges = true
  /-- Identifiers are made of characters. -/
  valid : liesWithin continueRanges [(0, 0xd7ff), (0xe000, 0x10ffff)] = true
  /-- The letters in circles are no part of identifiers. -/
  circled : (continueRanges.all fun q => q.2 < 0x24b6 || 0x24e9 < q.1) = true
  /-- Runs map to what opens an identifier. -/
  titleRuns : ascendWithin (imagesOf titleRuns) startRanges = true
  lowerRuns : ascendWithin (imagesOf lowerRuns) startRanges = true
  /-- Listed images may stand inside an identifier. -/
  titleListed :
    liesWithin ((titleExpansions.flatMap Prod.snd).map fun n => (n, n)) continueRanges = true
  lowerListed :
    liesWithin ((lowerExpansions.flatMap Prod.snd).map fun n => (n, n)) continueRanges = true
  sigmas : ['ς', 'σ'].all isIdentifierContinue = true
  /-- A title case opens with what opens an identifier, and with no small letter of ASCII. -/
  heads :
    liesWithin ((titleExpansions.filterMap fun e => e.2.head?).map fun n => (n, n)) startRanges = true
  runsNotSmall :
    ((CaseTables.titleRuns.flatMap imageOf).all fun i => i.2 < 0x61 || 0x7a < i.1) = true
  listedNotSmall :
    (titleExpansions.all fun e => 0x7a < e.1 && e.2.head?.any fun n => n < 0x61 || 0x7a < n) = true

theorem tablesFit : TablesFit := by constructor <;> decide +kernel

theorem inRanges_continue_of_start {n : Nat} (h : inRanges startRanges n = true) :
    inRanges continueRanges n = true := inRanges_of_liesWithin (TablesFit.opening tablesFit) h

theorem inRanges_cons (r : Nat × Nat) (rs : List (Nat × Nat)) (n : Nat) :
    inRanges (r :: rs) n = ((decide (r.1 ≤ n) && decide (n ≤ r.2)) || inRanges rs n) := List.any_cons

theorem isUpper_eq (c : Char) : c.isUpper = (decide (0x41 ≤ c.toNat) && decide (c.toNat ≤ 0x5a)) := by
  delta Char.isUpper
  simp [UInt32.le_iff_toNat_le]

theorem isLower_eq (c : Char) : c.isLower = (decide (0x61 ≤ c.toNat) && decide (c.toNat ≤ 0x7a)) := by
  delta Char.isLower
  simp [UInt32.le_iff_toNat_le]

theorem isDigit_eq (c : Char) : c.isDigit = (decide (0x30 ≤ c.toNat) && decide (c.toNat ≤ 0x39)) := by
  simp [Char.isDigit, UInt32.le_iff_toNat_le]

theorem beq_underscore (c : Char) :
    (c == '_') = (decide (0x5f ≤ c.toNat) && decide (c.toNat ≤ 0x5f)) := by
  rw [Bool.eq_iff_iff, beq_iff_eq, Bool.and_eq_true, decide_eq_true_eq, decide_eq_true_eq, Char.ext_iff,
    ← UInt32.toNat_inj]
  exact ⟨fun h => ⟨h.ge, h.le⟩, fun h => le_antisymm h.2 h.1⟩

theorem isIdentifierStart_eq (c : Char) : isIdentifierStart c = inRanges startRanges c.toNat := by
  rw [isIdentifierStart, show c.isAlpha = (c.isUpper || c.isLower) from rfl, isUpper_eq, isLower_eq,
    beq_underscore, startRanges]
  simp only [inRanges_cons, Bool.or_assoc, Bool.or_left_comm]

theorem isIdentifierContinue_eq (c : Char) :
    isIdentifierContinue c = inRanges continueRanges c.toNat := by
  rw [isIdentifierContinue, show c.isAlphanum = (c.isUpper || c.isLower || c.isDigit) from rfl,
    isUpper_eq, isLower_eq, isDigit_eq, beq_underscore, continueRanges]
  simp only [inRanges_cons, Bool.or_assoc, Bool.or_left_comm]

/-- **What opens an identifier may stand inside one.** -/
theorem isIdentifierContinue_of_isIdentifierStart {c : Char} (h : isIdentifierStart c = true) :
    isIdentifierContinue c = true := by
  rw [isIdentifierStart_eq] at h
  rw [isIdentifierContinue_eq]
  exact inRanges_continue_of_start h

theorem toNat_ofNat_of_inRanges {n : Nat} (h : inRanges continueRanges n = true) :
    (Char.ofNat n).toNat = n := by
  have hvalid := inRanges_of_liesWithin (TablesFit.valid tablesFit) h
  simp only [inRanges, List.any_cons, List.any_nil, Bool.or_false, Bool.or_eq_true, Bool.and_eq_true,
    decide_eq_true_eq] at hvalid
  have : n.isValidChar := by
    unfold Nat.isValidChar
    omega
  rw [Char.ofNat, dif_pos this]
  rfl

theorem isIdentifierStart_ofNat {n : Nat} (h : inRanges startRanges n = true) :
    isIdentifierStart (Char.ofNat n) = true := by
  rwa [isIdentifierStart_eq, toNat_ofNat_of_inRanges (inRanges_continue_of_start h)]

theorem isIdentifierContinue_ofNat {n : Nat} (h : inRanges continueRanges n = true) :
    isIdentifierContinue (Char.ofNat n) = true := by
  rwa [isIdentifierContinue_eq, toNat_ofNat_of_inRanges h]

/-! ## Case mappings -/

section Images

variable {expansions : List (Nat × List Nat)} {runs : List (Nat × Nat × Nat × Nat)} {c : Char} {n : Nat}

theorem exists_run (h : runImage? runs c.toNat = some n) :
    ∃ r ∈ runs, r.1 ≤ c.toNat ∧ c.toNat ≤ r.2.1 ∧ inRanges (imageOf r) n = true := by
  obtain ⟨r, hr, rfl⟩ := Option.map_eq_some_iff.mp h
  have hfound := List.find?_some hr
  simp only [Bool.and_eq_true, decide_eq_true_eq, beq_iff_eq] at hfound
  obtain ⟨⟨hlo, hhi⟩, hstep⟩ := hfound
  refine ⟨r, List.mem_of_find?_eq_some hr, hlo, hhi, ?_⟩
  unfold imageOf
  split
  · refine List.any_eq_true.mpr ⟨_, List.mem_singleton_self _, ?_⟩
    simp only [Bool.and_eq_true, decide_eq_true_eq]
    omega
  · refine List.any_eq_true.mpr ⟨_, List.mem_map_of_mem (List.mem_filter.mpr
      ⟨List.mem_range.mpr (Nat.lt_succ_of_le (Nat.sub_le_sub_right hhi _)), ?_⟩), ?_⟩
    · simpa using hstep
    · simp

/-- The image of a character is listed, or lies in a run, or is the character. -/
theorem caseImage_cases (expansions : List (Nat × List Nat)) (runs : List (Nat × Nat × Nat × Nat))
    (c : Char) :
    (∃ e ∈ expansions, e.1 = c.toNat ∧ caseImage expansions runs c = e.2.map Char.ofNat) ∨
      (∃ n, runImage? runs c.toNat = some n ∧ caseImage expansions runs c = [Char.ofNat n]) ∨
      (∀ e ∈ expansions, e.1 ≠ c.toNat) ∧ runImage? runs c.toNat = none ∧
        caseImage expansions runs c = [c] := by
  unfold caseImage
  split
  · rename_i e he
    exact .inl ⟨e, List.mem_of_find?_eq_some he, by simpa using List.find?_some he, rfl⟩
  · rename_i he
    split
    · rename_i n hn
      exact .inr (.inl ⟨n, hn, rfl⟩)
    · rename_i hn
      exact .inr (.inr ⟨fun e hmem => by simpa using List.find?_eq_none.mp he e hmem, hn, rfl⟩)

theorem inRanges_of_runImage? (hruns : ascendWithin (imagesOf runs) startRanges = true)
    (hc : isIdentifierContinue c = true) (h : runImage? runs c.toNat = some n) :
    inRanges startRanges n = true := by
  obtain ⟨r, hr, hlo, hhi, hn⟩ := exists_run h
  obtain ⟨i, hi, hin⟩ := List.any_eq_true.mp hn
  refine inRanges_of_ascendWithin hruns (List.any_eq_true.mpr ⟨i, List.mem_flatMap.mpr
    ⟨r, (List.mem_insertionSort _).mpr (List.mem_filter.mpr ⟨hr, ?_⟩), hi⟩, hin⟩)
  rw [isIdentifierContinue_eq] at hc
  obtain ⟨q, hq, hqn⟩ := List.any_eq_true.mp hc
  have hcircled := List.all_eq_true.mp (TablesFit.circled tablesFit) q hq
  simp only [Bool.or_eq_true, Bool.and_eq_true, decide_eq_true_eq] at hcircled hqn
  simp only [Bool.not_eq_true', Bool.and_eq_false_iff, decide_eq_false_iff_not]
  omega

/-- Inside an identifier, images may stand where the character does. -/
theorem isIdentifierContinue_caseImage (hruns : ascendWithin (imagesOf runs) startRanges = true)
    (hexpansions : liesWithin ((expansions.flatMap Prod.snd).map fun n => (n, n)) continueRanges = true)
    (hc : isIdentifierContinue c = true) :
    ∀ d ∈ caseImage expansions runs c, isIdentifierContinue d = true := by
  intro d hd
  rcases caseImage_cases expansions runs c with ⟨e, he, -, heq⟩ | ⟨n, hn, heq⟩ | ⟨-, -, heq⟩
  · rw [heq] at hd
    obtain ⟨n, hn, rfl⟩ := List.mem_map.mp hd
    exact isIdentifierContinue_ofNat (inRanges_of_liesWithin hexpansions
      (inRanges_singles (List.mem_flatMap.mpr ⟨e, he, hn⟩)))
  · rw [heq, List.mem_singleton] at hd
    rw [hd]
    exact isIdentifierContinue_of_isIdentifierStart
      (isIdentifierStart_ofNat (inRanges_of_runImage? hruns hc hn))
  · rw [heq, List.mem_singleton] at hd
    rwa [hd]

end Images

/-! ## Title case -/

theorem isIdentifierContinue_lowerBetween {c : Char} (hc : isIdentifierContinue c = true)
    (before after : List Char) : ∀ d ∈ lowerBetween before c after, isIdentifierContinue d = true := by
  have hsigmas := List.all_eq_true.mp (TablesFit.sigmas tablesFit)
  unfold lowerBetween
  split
  · split <;> exact fun d hd => hsigmas d (by simp_all)
  · exact isIdentifierContinue_caseImage (TablesFit.lowerRuns tablesFit)
      (TablesFit.lowerListed tablesFit) hc

theorem isIdentifierContinue_titleImage {c : Char} (hc : isIdentifierContinue c = true) :
    ∀ d ∈ titleImage c, isIdentifierContinue d = true :=
  isIdentifierContinue_caseImage (TablesFit.titleRuns tablesFit) (TablesFit.titleListed tablesFit) hc

theorem isIdentifierContinue_titleFrom (cs : List Char) : ∀ before : List Char,
    (∀ c ∈ cs, isIdentifierContinue c = true) →
    ∀ d ∈ titleFrom before cs, isIdentifierContinue d = true := by
  induction cs with
  | nil => exact fun _ _ d hd => absurd hd List.not_mem_nil
  | cons c cs ih =>
    intro before h d hd
    rw [List.forall_mem_cons] at h
    unfold titleFrom at hd
    rcases List.mem_append.mp hd with hd | hd
    · split at hd
      · exact isIdentifierContinue_titleImage h.1 d hd
      · split at hd
        · exact isIdentifierContinue_lowerBetween h.1 _ _ d hd
        · exact isIdentifierContinue_titleImage h.1 d hd
    · exact ih _ h.2 d hd

/-- The small letters of ASCII have capitals. -/
theorem runImage?_small {n : Nat} (hlo : 0x61 ≤ n) (hhi : n ≤ 0x7a) : runImage? titleRuns n ≠ none := by
  have hhead : titleRuns = (0x61, 0x7a, 1, 0x41) :: titleRuns.tail := rfl
  rw [runImage?, hhead, List.find?_cons_of_pos (by simp [hlo, hhi, Nat.mod_one])]
  simp

/-- **The title case of what opens an identifier opens one,** and with no small letter of ASCII. -/
theorem exists_titleImage {c : Char} (hc : isIdentifierStart c = true) :
    ∃ d r, titleImage c = d :: r ∧ isIdentifierStart d = true ∧ d.isLower = false := by
  have hcont := isIdentifierContinue_of_isIdentifierStart hc
  rcases caseImage_cases titleExpansions titleRuns c with ⟨e, he, hce, heq⟩ | ⟨n, hn, heq⟩ | ⟨-, hn, heq⟩
  · have hsmall := List.all_eq_true.mp (TablesFit.listedNotSmall tablesFit) e he
    cases hhead : e.2 with
    | nil => simp [hhead] at hsmall
    | cons n r =>
      have hstart := inRanges_of_liesWithin (TablesFit.heads tablesFit)
        (inRanges_singles (List.mem_filterMap.mpr ⟨e, he, by rw [hhead]; rfl⟩))
      refine ⟨Char.ofNat n, r.map Char.ofNat, ?_, isIdentifierStart_ofNat hstart, ?_⟩
      · rw [titleImage, heq, hhead, List.map_cons]
      · rw [isLower_eq, toNat_ofNat_of_inRanges (inRanges_continue_of_start hstart)]
        simp only [hhead, List.head?_cons, Option.any_some, Bool.and_eq_true, Bool.or_eq_true,
          decide_eq_true_eq] at hsmall
        simp only [Bool.and_eq_false_iff, decide_eq_false_iff_not]
        omega
  · have hstart := inRanges_of_runImage? (TablesFit.titleRuns tablesFit) hcont hn
    refine ⟨Char.ofNat n, [], heq, isIdentifierStart_ofNat hstart, ?_⟩
    obtain ⟨r, hr, -, -, hin⟩ := exists_run hn
    obtain ⟨i, hi, hin⟩ := List.any_eq_true.mp hin
    have hsmall := List.all_eq_true.mp (TablesFit.runsNotSmall tablesFit) i (List.mem_flatMap.mpr ⟨r, hr, hi⟩)
    rw [isLower_eq, toNat_ofNat_of_inRanges (inRanges_continue_of_start hstart)]
    simp only [Bool.and_eq_true, Bool.or_eq_true, decide_eq_true_eq] at hsmall hin
    simp only [Bool.and_eq_false_iff, decide_eq_false_iff_not]
    omega
  · refine ⟨c, [], heq, hc, ?_⟩
    rw [← Bool.not_eq_true, isLower_eq, Bool.and_eq_true, decide_eq_true_eq, decide_eq_true_eq]
    exact fun hsmall => runImage?_small hsmall.1 hsmall.2 hn

/-- **An identifier stays one in title case.** -/
theorem isIdentifier_titleCase {s : String} (h : isIdentifier s = true) :
    isIdentifier (titleCase s) = true := by
  rw [isIdentifier] at h ⊢
  rw [titleCase, String.toList_ofList]
  cases hs : s.toList with
  | nil => simp [hs, isIdentifierChars] at h
  | cons c r =>
    rw [hs, isIdentifierChars, Bool.and_eq_true, List.all_eq_true] at h
    obtain ⟨d, r', himage, hd, -⟩ := exists_titleImage h.1
    have hall := isIdentifierContinue_titleFrom (c :: r) []
      (List.forall_mem_cons.mpr ⟨isIdentifierContinue_of_isIdentifierStart h.1, h.2⟩)
    rw [titleFrom] at hall ⊢
    rw [himage, List.cons_append, List.forall_mem_cons] at hall
    rw [himage, List.cons_append, isIdentifierChars, hd, List.all_eq_true.mpr hall.2]
    rfl

/-- The reserved words that open with a capital. -/
def capitalKeywords : List String := ["False", "None", "True"]

theorem titleCase_head {s : String} (h : isIdentifier s = true) :
    ∀ c ∈ (titleCase s).toList.head?, c.isLower = false := by
  rw [isIdentifier] at h
  rw [titleCase, String.toList_ofList]
  cases hs : s.toList with
  | nil => simp [titleFrom]
  | cons c r =>
    rw [hs, isIdentifierChars, Bool.and_eq_true] at h
    obtain ⟨d, r', himage, -, hd⟩ := exists_titleImage h.1
    intro x hx
    rw [titleFrom, himage, List.cons_append, List.head?_cons, Option.mem_some] at hx
    exact hx ▸ hd

/-- **A reserved word in title case opens with a capital.** -/
theorem isKeyword_titleCase_iff {s : String} (h : isIdentifier s = true) :
    isKeyword (titleCase s) = true ↔ titleCase s ∈ capitalKeywords := by
  have hsmall : ∀ k ∈ keywords, k ∈ capitalKeywords ∨ k.toList.head?.any Char.isLower = true := by
    decide
  have hall : ∀ k ∈ capitalKeywords, isKeyword k = true := by decide
  refine ⟨fun hk => ?_, hall _⟩
  refine (hsmall _ (List.contains_iff_mem.mp hk)).resolve_right fun hlow => ?_
  obtain ⟨c, hc, hlower⟩ := (Option.any_eq_true _ _).mp hlow
  rw [titleCase_head h c hc] at hlower
  cases hlower

theorem isIdentifier_append {s t : String} (hs : isIdentifier s = true)
    (ht : ∀ c ∈ t.toList, isIdentifierContinue c = true) : isIdentifier (s ++ t) = true := by
  rw [isIdentifier] at hs ⊢
  rw [String.toList_append]
  cases hl : s.toList with
  | nil => simp [hl, isIdentifierChars] at hs
  | cons c r =>
    rw [hl, isIdentifierChars, Bool.and_eq_true] at hs
    rw [List.cons_append, isIdentifierChars, hs.1, List.all_append, hs.2, List.all_eq_true.mpr ht]
    rfl

end Facade.Text

namespace Facade.Conversion

open Text

variable {n : String}

/-- **The field of a name has a name.** -/
theorem isName_fieldOf (h : isName n = true) : isName (fieldOf n) = true := by
  have hstart : isIdentifierStart '_' = true := by decide
  have hkeywords : ∀ k ∈ keywords, k.toList.head? ≠ some '_' := by decide
  rw [isName, Bool.and_eq_true, Bool.not_eq_true'] at h ⊢
  have hlist : (fieldOf n).toList = '_' :: n.toList := by
    rw [fieldOf, String.toList_append]
    rfl
  constructor
  · have hid := h.1
    rw [isIdentifier] at hid ⊢
    rw [hlist, isIdentifierChars, hstart, Bool.true_and, List.all_eq_true]
    cases hs : n.toList with
    | nil => simp [hs, isIdentifierChars] at hid
    | cons c r =>
      rw [hs, isIdentifierChars, Bool.and_eq_true, List.all_eq_true] at hid
      exact List.forall_mem_cons.mpr ⟨isIdentifierContinue_of_isIdentifierStart hid.1, hid.2⟩
  · rw [← Bool.not_eq_true]
    intro hk
    rw [isKeyword, List.contains_iff_mem] at hk
    exact hkeywords _ hk (by rw [hlist]; rfl)

/-- The field of a name that stands for itself stands for itself. -/
theorem isPlainName_fieldOf (h : isPlainName n = true) : isPlainName (fieldOf n) = true := by
  rw [isPlainName, Bool.and_eq_true] at h
  have hnormal : normal n = n := by simpa [isNormal] using h.2
  rw [isPlainName, isName_fieldOf h.1, Bool.true_and, isNormal, fieldOf, normal_underscore, hnormal,
    beq_self_eq_true]

/-- **A property has a name unless its parameter is one of three reserved words in title case.** -/
theorem isName_propertyName_iff (h : isName n = true) :
    isName (propertyName n) = true ↔ titleCase n ∉ capitalKeywords := by
  have hkeywords : ∀ k ∈ keywords, ("Prop".toList.isSuffixOf k.toList) = false := by decide
  rw [isName, Bool.and_eq_true, Bool.not_eq_true'] at h
  have hid := isIdentifier_titleCase h.1
  unfold propertyName
  dsimp only
  split
  · rename_i heq
    rw [beq_iff_eq] at heq
    have hprop : isName (titleCase n ++ "Prop") = true := by
      rw [isName, isIdentifier_append hid (forall_of_all (by decide)), Bool.true_and,
        Bool.not_eq_true', ← Bool.not_eq_true]
      intro hk
      have := hkeywords _ (List.contains_iff_mem.mp hk)
      rw [String.toList_append, ← Bool.not_eq_true, List.isSuffixOf_iff_suffix] at this
      exact this (List.suffix_append _ _)
    refine ⟨fun _ hmem => ?_, fun _ => hprop⟩
    rw [← isKeyword_titleCase_iff h.1, heq, h.2] at hmem
    cases hmem
  · rw [isName, hid, Bool.true_and, Bool.not_eq_true', ← isKeyword_titleCase_iff h.1,
      Bool.not_eq_true]

end Facade.Conversion
