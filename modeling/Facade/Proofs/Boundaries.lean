import Facade.Proofs.Tokens

/-!
# Where a token ends

A reader of one token looks at the text up to its first blank and no further, save for a text
literal, which it reads up to its closing quotes. So the token stays the same when blanks or whole
lines are put behind the text that it stands in.

* `Ends`: what follows opens with a blank, if there is anything.
* `readDigits_ends`, `readBase_ends`, `readNumber?_ends`, `readSign?_ends`: the readers of numbers
  and signs.
* `readText_local`, `readLiteral?_local`: a text literal depends on nothing behind its quotes.
-/

namespace Facade

open Text

namespace Text

/-- The code points of ranges. -/
def codesOf (ranges : List (Nat × Nat)) : List Nat :=
  ranges.flatMap fun r => List.range' r.1 (r.2 + 1 - r.1)

theorem mem_codesOf {ranges : List (Nat × Nat)} {n : Nat} (h : inRanges ranges n = true) :
    n ∈ codesOf ranges := by
  simp only [inRanges, List.any_eq_true, Bool.and_eq_true, decide_eq_true_eq] at h
  obtain ⟨r, hr, hle⟩ := h
  exact List.mem_flatMap.mpr ⟨r, hr, List.mem_range'_1.mpr (by omega)⟩

/-- Whether no range of one list meets a range of another. -/
def areApart (rs bs : List (Nat × Nat)) : Bool :=
  rs.all fun r => bs.all fun b => Nat.blt r.2 b.1 || Nat.blt b.2 r.1

theorem inRanges_of_areApart {rs bs : List (Nat × Nat)} {n : Nat} (h : areApart rs bs = true)
    (hn : inRanges bs n = true) : inRanges rs n = false := by
  simp only [areApart, List.all_eq_true, Bool.or_eq_true, Nat.blt_eq] at h
  simp only [inRanges, List.any_eq_true, Bool.and_eq_true, decide_eq_true_eq] at hn
  simp only [inRanges, List.any_eq_false, Bool.and_eq_true, decide_eq_true_eq, not_and]
  obtain ⟨b, hb, hle⟩ := hn
  intro r hr hlow
  rcases h r hr b hb with h | h <;> omega

/-- The ranges of blanks. -/
def blankRanges : List (Nat × Nat) :=
  [(0x9, 0xd), (0x1c, 0x20), (0x85, 0x85), (0xa0, 0xa0), (0x1680, 0x1680), (0x2000, 0x200a),
    (0x2028, 0x2029), (0x202f, 0x202f), (0x205f, 0x205f), (0x3000, 0x3000)]

/-- What is decided for each blank holds of all. -/
theorem forall_isBlank {P : Char → Prop} (h : ∀ n ∈ codesOf blankRanges, P (Char.ofNat n)) {c : Char}
    (hc : isBlank c = true) : P c := by
  have := h _ (mem_codesOf hc)
  rwa [Char.ofNat_toNat] at this

/-- No blank stands in an identifier. -/
theorem identifier_of_isBlank {c : Char} (h : isBlank c = true) :
    isIdentifierStart c = false ∧ isIdentifierContinue c = false := by
  have hapart : (areApart ClassTables.identifierStart blankRanges &&
      areApart ClassTables.identifierContinue blankRanges) = true := by decide +kernel
  obtain ⟨hstart, hcontinue⟩ := Bool.and_eq_true_iff.mp hapart
  have hascii : (c.isAlpha || c == '_') = false ∧ (c.isAlphanum || c == '_') = false :=
    forall_isBlank (P := fun c => (c.isAlpha || c == '_') = false ∧
      (c.isAlphanum || c == '_') = false) (by decide) h
  rw [isIdentifierStart, isIdentifierContinue, hascii.1, hascii.2, Bool.false_or, Bool.false_or]
  exact ⟨inRanges_of_areApart hstart h, inRanges_of_areApart hcontinue h⟩

/-- A text that opens with a blank, if with anything. -/
def Ends (z : List Char) : Prop := ∀ c ∈ z.head?, isBlank c = true

theorem ends_nil : Ends [] := by simp [Ends]

theorem ends_newline (r : List Char) : Ends ('\n' :: r) := by
  rintro c hc
  obtain rfl : '\n' = c := by simpa using hc
  decide

end Text

/-! ## Numbers -/

namespace Number

/-- The fraction at the front of a text, and what follows. -/
def readFraction (r : List Char) : List Char × List Char :=
  match r with
  | '.' :: r' => readDigits r'
  | _ => ([], r)

theorem readDecimal?_eq (cs : List Char) :
    readDecimal? cs = if (readDigits cs).1.isEmpty && (readFraction (readDigits cs).2).1.isEmpty then
        none
      else some ((digitsVal ((readDigits cs).1 ++ (readFraction (readDigits cs).2).1),
        (readExponent (readFraction (readDigits cs).2).2).1 -
          (readFraction (readDigits cs).2).1.length),
        (readExponent (readFraction (readDigits cs).2).2).2) := by
  rfl

/-- The sign of an exponent, and what follows. -/
def readExponentSign (r : List Char) : Bool × List Char :=
  match r with
  | '+' :: r' => (false, r')
  | '-' :: r' => (true, r')
  | _ => (false, r)

theorem readExponent_eq (e : Char) (r : List Char) : readExponent (e :: r) =
    if e == 'e' || e == 'E' then
      match readDigits (readExponentSign r).2 with
      | ([], _) => (0, e :: r)
      | (ds, rest) => (if (readExponentSign r).1 then -(digitsVal ds : Int) else digitsVal ds, rest)
    else (0, e :: r) := rfl

section Ending

variable {z : List Char} (hz : Ends z)
include hz

theorem stopsNumber_of_ends : StopsNumber z := fun c hc =>
  forall_isBlank (P := fun c => c.isDigit = false ∧ c ≠ '_' ∧ c ≠ '.' ∧ c ≠ 'e' ∧ c ≠ 'E')
    (by decide) (hz c hc)

theorem readDigits_ends (m : List Char) :
    readDigits (m ++ z) = ((readDigits m).1, (readDigits m).2 ++ z) := by
  have hstops := (stopsNumber_of_ends hz).stopsDigits
  fun_induction readDigits m with
  | case1 => exact readDigits_append (show IsDigits [] by simp [IsDigits]) hstops
  | case2 c hc => exact readDigits_append (show IsDigits [c] by simpa [IsDigits] using hc) hstops
  | case3 c hc => cases z <;> simp [readDigits, hc]
  | case4 c d hc hd e r he ih =>
    rw [List.cons_append] at ih
    simp [readDigits, hc, hd, he, ih]
  | case5 c d hc hd e r he => simp [readDigits, hc, hd, he]
  | case6 c d hc hd =>
    cases z with
    | nil => simp [readDigits, hc, hd]
    | cons e z => simp [readDigits, hc, hd, (hstops e rfl).1]
  | case7 c d r hc hd p ih =>
    rw [List.cons_append] at ih
    simp [readDigits, hc, hd, ih, p]
  | case8 c d r hc => simp [readDigits, hc]

theorem readExponentSign_ends (m : List Char) :
    readExponentSign (m ++ z) = ((readExponentSign m).1, (readExponentSign m).2 ++ z) := by
  match m with
  | [] =>
    cases z with
    | nil => rfl
    | cons c z =>
      have hc := forall_isBlank (P := fun c => c ≠ '+' ∧ c ≠ '-') (by decide) (hz c rfl)
      simp [readExponentSign, hc]
  | d :: r =>
    by_cases hplus : d = '+'
    · simp [readExponentSign, hplus]
    · by_cases hminus : d = '-'
      · simp [readExponentSign, hminus]
      · simp [readExponentSign, hplus, hminus]

theorem readExponent_ends (m : List Char) :
    readExponent (m ++ z) = ((readExponent m).1, (readExponent m).2 ++ z) := by
  match m with
  | [] =>
    cases z with
    | nil => rfl
    | cons c z => simp [readExponent, stopsNumber_of_ends hz c rfl]
  | e :: r =>
    simp only [List.cons_append, readExponent_eq, readExponentSign_ends hz, readDigits_ends hz]
    by_cases he : (e == 'e' || e == 'E') = true
    · rw [if_pos he, if_pos he]
      rcases readDigits (readExponentSign r).2 with ⟨_ | ⟨a, ds⟩, rest⟩ <;> rfl
    · rw [if_neg he, if_neg he]
      rfl

theorem readFraction_ends (m : List Char) :
    readFraction (m ++ z) = ((readFraction m).1, (readFraction m).2 ++ z) := by
  match m with
  | [] =>
    have hpoint : ∀ r, z ≠ '.' :: r := by
      rintro r rfl
      exact (stopsNumber_of_ends hz '.' rfl).2.2.1 rfl
    simp [readFraction]
  | c :: r =>
    by_cases hc : c = '.'
    · simp [readFraction, hc, readDigits_ends hz]
    · simp [readFraction, hc]

theorem readDecimal?_ends (m : List Char) :
    readDecimal? (m ++ z) = (readDecimal? m).map fun p => (p.1, p.2 ++ z) := by
  simp only [readDecimal?_eq, readDigits_ends hz, readFraction_ends hz, readExponent_ends hz]
  split <;> rfl

end Ending

/-! What a reader leaves is the end of what it was given, and shorter. -/

theorem readDigits_suffix (cs : List Char) : (readDigits cs).2 <:+ cs ∧
    (readDigits cs).1.length + (readDigits cs).2.length ≤ cs.length := by
  fun_induction readDigits cs with
  | case1 => simp
  | case2 => simp
  | case3 => simp
  | case4 c d hc hd e r he ih =>
    exact ⟨ih.1.trans ((List.suffix_cons d _).trans (List.suffix_cons c _)), by
      have := ih.2; simp only [List.length_cons] at this ⊢; omega⟩
  | case5 => simp only [List.suffix_cons, List.length_cons, List.length_nil, true_and]; omega
  | case6 => simp
  | case7 c d r hc hd p ih =>
    exact ⟨ih.1.trans (List.suffix_cons c _), by
      have := ih.2; simp only [List.length_cons, p] at this ⊢; omega⟩
  | case8 => simp

theorem readFraction_suffix (cs : List Char) : (readFraction cs).2 <:+ cs ∧
    (readFraction cs).1.length + (readFraction cs).2.length ≤ cs.length := by
  unfold readFraction
  split
  · rename_i r
    obtain ⟨hsuffix, hlen⟩ := readDigits_suffix r
    exact ⟨hsuffix.trans (List.suffix_cons _ r), by rw [List.length_cons]; omega⟩
  · simp

theorem readExponentSign_suffix (r : List Char) : (readExponentSign r).2 <:+ r := by
  unfold readExponentSign
  split
  · exact List.suffix_cons _ _
  · exact List.suffix_cons _ _
  · exact List.suffix_rfl

theorem readExponent_suffix (cs : List Char) : (readExponent cs).2 <:+ cs := by
  match cs with
  | [] => exact List.suffix_rfl
  | e :: r =>
    rw [readExponent_eq]
    have hdigits := (readDigits_suffix (readExponentSign r).2).1
    by_cases he : (e == 'e' || e == 'E') = true
    · rw [if_pos he]
      split
      · exact List.suffix_rfl
      · rename_i ds rest _ heq
        rw [heq] at hdigits
        exact hdigits.trans ((readExponentSign_suffix r).trans (List.suffix_cons e r))
    · simp only [if_neg he]
      exact List.suffix_rfl

theorem readDecimal?_suffix {cs r : List Char} {x : Nat × Int} (h : readDecimal? cs = some (x, r)) :
    r <:+ cs ∧ r.length < cs.length := by
  rw [readDecimal?_eq] at h
  obtain ⟨hwhole, hwhole'⟩ := readDigits_suffix cs
  obtain ⟨hfrac, hfrac'⟩ := readFraction_suffix (readDigits cs).2
  have hexp := readExponent_suffix (readFraction (readDigits cs).2).2
  split_ifs at h with hempty
  obtain ⟨rfl, rfl⟩ := Prod.mk.inj (Option.some.inj h)
  refine ⟨hexp.trans (hfrac.trans hwhole), ?_⟩
  have hlen := hexp.length_le
  have hsome : 0 < (readDigits cs).1.length + (readFraction (readDigits cs).2).1.length := by
    rw [Nat.pos_iff_ne_zero]
    intro hzero
    simp_all
  omega

end Number

namespace Syntax

open Number

/-- The number that a decimal denotes by what stands behind it. -/
def nameDecimal (whole afterWhole : List Char) (d : Nat) (k : Int) (rest : List Char) :
    Option (Constant × List Char) :=
  match rest with
  | 'j' :: r | 'J' :: r => some (.imaginary (.ofDecimal false d k), r)
  | _ =>
    if rest.length = afterWhole.length then
      if whole.length > 1 && whole.head? == some '0' && d != 0 then none
      else some (.int d, rest)
    else some (.float (.ofDecimal false d k), rest)

/-- The integer at the front of a text in a base. -/
def readBased (base : Nat) (r : List Char) : Option (Constant × List Char) :=
  match readBase base 0 0 r with
  | (_, 0, _) => none
  | (v, _, rest) => some (.int v, rest)

/-- The number at the front of a text, whatever stands behind it. -/
def readNumeral? (cs : List Char) : Option (Constant × List Char) :=
  match cs with
  | '0' :: c :: r =>
    if c == 'x' || c == 'X' then readBased 16 r
    else if c == 'o' || c == 'O' then readBased 8 r
    else if c == 'b' || c == 'B' then readBased 2 r
    else readNumber?.decimal cs
  | _ => readNumber?.decimal cs

theorem readNumber?_eq (cs : List Char) : readNumber? cs = (readNumeral? cs).filter fun p =>
    match p.2 with
    | c :: _ => !Text.isIdentifierContinue c
    | [] => true := rfl

theorem decimal_eq (cs : List Char) : readNumber?.decimal cs = (readDecimal? cs).bind fun p =>
    nameDecimal (readDigits cs).1 (readDigits cs).2 p.1.1 p.1.2 p.2 := rfl

section Ending

variable {z : List Char} (hz : Ends z)
include hz

theorem readBase_ends (base acc count : Nat) (m : List Char) :
    readBase base acc count (m ++ z) =
      ((readBase base acc count m).1, (readBase base acc count m).2.1,
        (readBase base acc count m).2.2 ++ z) := by
  have hstop : ∀ c ∈ z.head?, baseDigit? base c = none ∧ c ≠ '_' := fun c hc => by
    have hblank := forall_isBlank (P := fun c => c.isDigit = false ∧ ¬ ('a' ≤ c ∧ c ≤ 'f') ∧
      ¬ ('A' ≤ c ∧ c ≤ 'F') ∧ c ≠ '_') (by decide) (hz c hc)
    exact ⟨by simp [baseDigit?, hblank.1, hblank.2.1, hblank.2.2.1], hblank.2.2.2⟩
  have hnil (acc count : Nat) : readBase base acc count z = (acc, count, z) := by
    match z, hstop with
    | [], _ => rfl
    | [c], h => simp [readBase, (h c rfl).1]
    | c :: d :: r, h => simp [readBase, h c rfl]
  fun_induction readBase base acc count m with
  | case1 => exact hnil _ _
  | case2 acc count c v hv =>
    cases z with
    | nil => simp [readBase, hv]
    | cons d z => simp [readBase, hv, hnil]
  | case3 acc count c hv =>
    cases z with
    | nil => simp [readBase, hv]
    | cons d z => simp [readBase, hv, (hstop d rfl).1]
  | case4 acc count c d r v hv ih => 
    rw [List.cons_append] at ih
    simp [readBase, hv, ih]
  | case5 acc count c d r hv hc v hd ih => simp [readBase, hv, hc, hd, ih]
  | case6 acc count c d r hv hc hd => simp [readBase, hv, hc, hd]
  | case7 acc count c d r hv hc => simp [readBase, hv, hc]

theorem nameDecimal_ends (whole after : List Char) (d : Nat) (k : Int) (rest : List Char) :
    nameDecimal whole (after ++ z) d k (rest ++ z) =
      (nameDecimal whole after d k rest).map fun p => (p.1, p.2 ++ z) := by
  have hj : ∀ c ∈ z.head?, c ≠ 'j' ∧ c ≠ 'J' := fun c hc =>
    forall_isBlank (P := fun c => c ≠ 'j' ∧ c ≠ 'J') (by decide) (hz c hc)
  have hlen : (rest ++ z).length = (after ++ z).length ↔ rest.length = after.length := by simp
  have hnone {r : List Char} (h : ∀ c ∈ r.head?, c ≠ 'j' ∧ c ≠ 'J') (whole' : List Char) :
      nameDecimal whole whole' d k r = if r.length = whole'.length then
        if whole.length > 1 && whole.head? == some '0' && d != 0 then none else some (.int d, r)
      else some (.float (.ofDecimal false d k), r) := by
    cases r with
    | nil => rfl
    | cons c r => simp [nameDecimal, h c rfl]
  match rest with
  | [] =>
    rw [hnone (r := [] ++ z) hj, hnone (by simp)]
    simp only [hlen]
    split_ifs <;> rfl
  | c :: r =>
    by_cases hc : c ≠ 'j' ∧ c ≠ 'J'
    · rw [hnone (by simpa using hc), hnone (by simpa using hc)]
      simp only [hlen]
      split_ifs <;> rfl
    · rw [not_and_or, not_not, not_not] at hc
      rcases hc with rfl | rfl <;> rfl

theorem decimal_ends (m : List Char) : readNumber?.decimal (m ++ z) =
    (readNumber?.decimal m).map fun p => (p.1, p.2 ++ z) := by
  simp only [decimal_eq, readDigits_ends hz, readDecimal?_ends hz]
  cases readDecimal? m with
  | none => rfl
  | some p => exact nameDecimal_ends hz _ _ _ _ _

theorem readBased_ends (base : Nat) (m : List Char) :
    readBased base (m ++ z) = (readBased base m).map fun p => (p.1, p.2 ++ z) := by
  rw [readBased, readBased, readBase_ends hz]
  rcases readBase base 0 0 m with ⟨v, _ | n, rest⟩ <;> rfl

theorem readNumeral?_ends (m : List Char) :
    readNumeral? (m ++ z) = (readNumeral? m).map fun p => (p.1, p.2 ++ z) := by
  have hdecimal := decimal_ends hz m
  have hskip {cs : List Char} (h : ∀ c r, cs = '0' :: c :: r → marksBase c = false) :
      readNumeral? cs = readNumber?.decimal cs := by
    unfold readNumeral?
    split
    · rename_i c r
      have hc := h c r rfl
      simp only [marksBase, List.contains_eq_mem, List.mem_cons, List.not_mem_nil, or_false,
        decide_eq_false_iff_not, not_or] at hc
      simp [hc]
    · rfl
  have hmark : ∀ c ∈ z.head?, marksBase c = false ∧ c ≠ '0' := fun c hc =>
    forall_isBlank (P := fun c => marksBase c = false ∧ c ≠ '0') (by decide) (hz c hc)
  by_cases hbase : ∃ c r, m = '0' :: c :: r
  · obtain ⟨c, r, rfl⟩ := hbase
    simp only [List.cons_append] at hdecimal ⊢
    simp only [readNumeral?, hdecimal, readBased_ends hz]
    split_ifs <;> rfl
  · rw [hskip, hskip, hdecimal]
    · exact fun c r h => absurd ⟨c, r, h⟩ hbase
    · rintro c r h
      rcases m with _ | ⟨e, _ | ⟨d, r'⟩⟩
      · exact absurd rfl (hmark '0' (by rw [show z = _ from h]; rfl)).2
      · obtain ⟨-, hr⟩ := List.cons.inj h
        exact (hmark c (by rw [show z = _ from hr]; rfl)).1
      · obtain ⟨rfl, -⟩ := List.cons.inj h
        exact absurd ⟨d, r', rfl⟩ hbase

theorem readNumber?_ends (m : List Char) :
    readNumber? (m ++ z) = (readNumber? m).map fun p => (p.1, p.2 ++ z) := by
  have hstop : ∀ c ∈ z.head?, isIdentifierContinue c = false := fun c hc =>
    (identifier_of_isBlank (hz c hc)).2
  rw [readNumber?_eq, readNumber?_eq, readNumeral?_ends hz]
  match readNumeral? m with
  | none => rfl
  | some (n, []) =>
    cases z with
    | nil => rfl
    | cons c z => simp [Option.filter, hstop c rfl]
  | some (n, c :: r) => cases hc : isIdentifierContinue c <;> simp [Option.filter, hc]

/-- Signs of one length hold no blank, so none reaches into what follows. -/
theorem contains_take_ends {n : Nat} {l : List String}
    (hl : ∀ s ∈ l, s.toList.length = n ∧ s.toList.all (fun c => !isBlank c) = true) (m : List Char) :
    l.contains (String.ofList ((m ++ z).take n)) = l.contains (String.ofList (m.take n)) ∧
      (l.contains (String.ofList (m.take n)) = true → n ≤ m.length) := by
  have hlong (cs : List Char) (h : l.contains (String.ofList (cs.take n)) = true) :
      n ≤ cs.length ∧ ∀ c ∈ cs.take n, isBlank c = false := by
    obtain ⟨hlen, hblank⟩ := hl _ (by simpa using h)
    rw [String.toList_ofList] at hlen hblank
    rw [List.length_take] at hlen
    exact ⟨by omega, fun c hc => by simpa using List.all_eq_true.mp hblank c hc⟩
  refine ⟨?_, fun h => (hlong m h).1⟩
  by_cases hn : n ≤ m.length
  · rw [List.take_append_of_le_length hn]
  · have hshort : l.contains (String.ofList (m.take n)) = false := by
      rw [← Bool.not_eq_true]
      exact fun h => hn (hlong m h).1
    cases z with
    | nil => rw [List.append_nil]
    | cons c z =>
      rw [hshort, ← Bool.not_eq_true]
      intro h
      have hmem : c ∈ (m ++ c :: z).take n := by
        rw [List.take_append, List.mem_append]
        obtain ⟨k, hk⟩ : ∃ k, n - m.length = k + 1 := ⟨n - m.length - 1, by omega⟩
        exact .inr (by simp [hk])
      have hblank := hz c rfl
      rw [(hlong _ h).2 c hmem] at hblank
      cases hblank

theorem readSign?_ends (m : List Char) :
    readSign? (m ++ z) = (readSign? m).map fun p => (p.1, p.2 ++ z) := by
  obtain ⟨hthree, hthree'⟩ := contains_take_ends hz (n := 3) (l := signs3) (by decide) m
  obtain ⟨htwo, htwo'⟩ := contains_take_ends hz (n := 2) (l := signs2) (by decide) m
  simp only [readSign?, hthree, htwo]
  split_ifs with h3 h2
  · simp [List.take_append_of_le_length (hthree' h3), List.drop_append_of_le_length (hthree' h3)]
  · simp [List.take_append_of_le_length (htwo' h2), List.drop_append_of_le_length (htwo' h2)]
  · cases m with
    | nil =>
      cases z with
      | nil => rfl
      | cons c z =>
        have hc : c ∉ signs1 := forall_isBlank (P := fun c => c ∉ signs1) (by decide) (hz c rfl)
        simp [hc]
    | cons c r => by_cases hc : c ∈ signs1 <;> simp [hc]

end Ending

theorem readBase_suffix (base acc count : Nat) (cs : List Char) :
    (readBase base acc count cs).2.2 <:+ cs ∧
      (readBase base acc count cs).2.1 + (readBase base acc count cs).2.2.length ≤
        count + cs.length := by
  fun_induction readBase base acc count cs with
  | case1 => simp
  | case2 => simp
  | case3 => simp
  | case4 acc count c d r v hv ih =>
    exact ⟨ih.1.trans (List.suffix_cons c _), by
      have := ih.2; simp only [List.length_cons] at this ⊢; omega⟩
  | case5 acc count c d r hv hc v hd ih =>
    exact ⟨ih.1.trans ((List.suffix_cons d _).trans (List.suffix_cons c _)), by
      have := ih.2; simp only [List.length_cons] at this ⊢; omega⟩
  | case6 => simp
  | case7 => simp

theorem nameDecimal_suffix {whole after rest r : List Char} {d : Nat} {k : Int} {n : Constant}
    (h : nameDecimal whole after d k rest = some (n, r)) : r <:+ rest := by
  unfold nameDecimal at h
  split at h
  · obtain ⟨rfl, rfl⟩ := Prod.mk.inj (Option.some.inj h)
    exact List.suffix_cons _ _
  · obtain ⟨rfl, rfl⟩ := Prod.mk.inj (Option.some.inj h)
    exact List.suffix_cons _ _
  · split_ifs at h <;> obtain ⟨rfl, rfl⟩ := Prod.mk.inj (Option.some.inj h) <;>
      exact List.suffix_rfl

theorem readNumber?_suffix {cs r : List Char} {n : Constant} (h : readNumber? cs = some (n, r)) :
    r <:+ cs ∧ r.length < cs.length := by
  rw [readNumber?_eq, Option.filter_eq_some_iff] at h
  have hdecimal {n : Constant} {r : List Char} (h : readNumber?.decimal cs = some (n, r)) :
      r <:+ cs ∧ r.length < cs.length := by
    rw [decimal_eq] at h
    obtain ⟨⟨x, rest⟩, hread, hname⟩ := Option.bind_eq_some_iff.mp h
    obtain ⟨hsuffix, hlen⟩ := readDecimal?_suffix hread
    have hname := nameDecimal_suffix hname
    exact ⟨hname.trans hsuffix, Nat.lt_of_le_of_lt hname.length_le hlen⟩
  have hbased {base : Nat} {c : Char} {t : List Char} (hcs : cs = '0' :: c :: t)
      (h : readBased base t = some (n, r)) : r <:+ cs ∧ r.length < cs.length := by
    have hbase := readBase_suffix base 0 0 t
    unfold readBased at h
    split at h
    · cases h
    · rename_i v k rest _ heq
      obtain ⟨rfl, rfl⟩ := Prod.mk.inj (Option.some.inj h)
      rw [heq] at hbase
      have hlen := hbase.1.length_le
      subst hcs
      exact ⟨hbase.1.trans ((List.suffix_cons c t).trans (List.suffix_cons _ _)), by
        simp only [List.length_cons] at hlen ⊢; omega⟩
  unfold readNumeral? at h
  split at h
  · split_ifs at h with hx ho hb
    · exact hbased rfl h.1
    · exact hbased rfl h.1
    · exact hbased rfl h.1
    · exact hdecimal h.1
  · exact hdecimal h.1

theorem readSign?_suffix {cs r : List Char} {s : String} (h : readSign? cs = some (s, r)) :
    r <:+ cs ∧ r.length < cs.length := by
  cases cs with
  | nil => simp [readSign?, signs3, signs2] at h
  | cons c t =>
    have hdrop (n : Nat) : (c :: t).drop (n + 1) <:+ c :: t ∧
        ((c :: t).drop (n + 1)).length < (c :: t).length :=
      ⟨List.drop_suffix _ _, by simp only [List.length_drop, List.length_cons]; omega⟩
    simp only [readSign?] at h
    split_ifs at h
    · obtain ⟨rfl, rfl⟩ := Prod.mk.inj (Option.some.inj h)
      exact hdrop 2
    · obtain ⟨rfl, rfl⟩ := Prod.mk.inj (Option.some.inj h)
      exact hdrop 1
    · obtain ⟨rfl, rfl⟩ := Prod.mk.inj (Option.some.inj h)
      exact hdrop 0

/-! ## Text literals -/

/-- An escape of digits depends on nothing behind them. -/
theorem hexEscape?_local {n : Nat} {cs r : List Char} {c : Char} (h : hexEscape? n cs = some (c, r)) :
    ∃ v, cs = v ++ r ∧ ∀ y, hexEscape? n (v ++ y) = some (c, y) := by
  have hlen : n ≤ cs.length := by
    have hcount := (readBase_suffix 16 0 0 ((cs.take n).filter (· != '_'))).2
    have hfilter := List.length_filter_le (· != '_') (cs.take n)
    rw [List.length_take] at hfilter
    unfold hexEscape? at h
    split at h
    · rename_i v count hread
      rw [hread] at hcount
      split_ifs at h with hn
      simp only at hcount
      omega
    · cases h
  have hfront : (cs.take n).length = n := by simpa using hlen
  have htake (y : List Char) : (cs.take n ++ y).take n = cs.take n := List.take_left' hfront
  have hdrop (y : List Char) : (cs.take n ++ y).drop n = y := List.drop_left' hfront
  unfold hexEscape? at h
  split at h
  · rename_i v count hread
    split_ifs at h with hn
    obtain ⟨rfl, rfl⟩ := Prod.mk.inj (Option.some.inj h)
    exact ⟨cs.take n, (List.take_append_drop n cs).symm, fun y => by
      simp [hexEscape?, htake, hdrop, hread, hn]⟩
  · cases h

/-- The first characters of a class, at most `n` of them, depend on nothing behind the next one. -/
theorem takeWhile_take_local (p : Char → Bool) (n : Nat) (cs : List Char) :
    ∃ d r, (cs.take n).takeWhile p = d ∧ cs = d ++ r ∧
      ∀ y, y.head? = r.head? → ((d ++ y).take n).takeWhile p = d := by
  induction n generalizing cs with
  | zero => exact ⟨[], cs, by simp, rfl, by simp⟩
  | succ n ih =>
    cases cs with
    | nil => exact ⟨[], [], by simp, rfl, fun y hy => by simp_all⟩
    | cons c t =>
      by_cases hc : p c = true
      · obtain ⟨d, r, hd, rfl, hlocal⟩ := ih t
        exact ⟨c :: d, r, by simp [hc, hd], rfl, fun y hy => by simp [hc, hlocal y hy]⟩
      · refine ⟨[], c :: t, by simp [hc], rfl, fun y hy => ?_⟩
        cases y with
        | nil => simp
        | cons d y =>
          obtain rfl : d = c := by simpa using hy
          simp [hc]

/-- The quotes that close a literal. -/
def closing (triple : Bool) (q : Char) : List Char := if triple then [q, q, q] else [q]

/-- What a backslash and the character behind it stand for, and what follows. -/
def escape? (raw isBytes : Bool) (acc : TextRead) (e : Char) (r : List Char) :
    Option (TextRead × List Char) :=
  if raw then
    some ({ (acc.put '\\').put e with feeds := acc.feeds + if e == '\n' then 1 else 0 }, r)
  else if e == '\n' then some ({ acc with feeds := acc.feeds + 1 }, r)
  else match letterEscape? e with
    | some c => some (acc.put c, r)
    | none =>
      if e == 'x' then (hexEscape? 2 r).map fun p => (acc.put p.1, p.2)
      else if (e == 'u' || e == 'U') && !isBytes then
        (hexEscape? (if e == 'u' then 4 else 8) r).map fun p => (acc.put p.1, p.2)
      else if '0' ≤ e ∧ e ≤ '7' then
        let digits := ((e :: r).take 3).takeWhile fun c => '0' ≤ c && c ≤ '7'
        let v := digits.foldl (fun n c => 8 * n + (c.toNat - '0'.toNat)) 0
        some (acc.put (Char.ofNat (if isBytes then v % 256 else v)), (e :: r).drop digits.length)
      else if e == 'N' && !isBytes then
        some ({ (acc.put '\\').put e with names := acc.reversed.length :: acc.names }, r)
      else some ({ (acc.put '\\').put e with odd := acc.odd <|> some e }, r)

section Literals

variable {raw isBytes triple : Bool} {q : Char} (fuel : Nat) (acc : TextRead)

theorem readText_escape (e : Char) (r : List Char) :
    readText raw isBytes triple q (fuel + 1) acc ('\\' :: e :: r) =
      (escape? raw isBytes acc e r).bind fun p => readText raw isBytes triple q fuel p.1 p.2 := by
  rw [readText, escape?]
  by_cases hraw : raw = true
  · rw [if_pos hraw, if_pos hraw]
    rfl
  rw [if_neg hraw, if_neg hraw]
  by_cases hfeed : (e == '\n') = true
  · rw [if_pos hfeed, if_pos hfeed]
    rfl
  rw [if_neg hfeed, if_neg hfeed]
  cases letterEscape? e with
  | some c => rfl
  | none =>
    dsimp only
    by_cases hx : (e == 'x') = true
    · rw [if_pos hx, if_pos hx]
      cases hexEscape? 2 r <;> rfl
    rw [if_neg hx, if_neg hx]
    by_cases hu : ((e == 'u' || e == 'U') && !isBytes) = true
    · rw [if_pos hu, if_pos hu]
      generalize (if (e == 'u') = true then 4 else 8) = width
      cases hexEscape? width r <;> rfl
    rw [if_neg hu, if_neg hu]
    by_cases hoctal : '0' ≤ e ∧ e ≤ '7'
    · rw [if_pos hoctal, if_pos hoctal]
      rfl
    rw [if_neg hoctal, if_neg hoctal]
    split_ifs <;> rfl

theorem readText_plain {c : Char} (hc : c ≠ '\\') (r : List Char) :
    readText raw isBytes triple q (fuel + 1) acc (c :: r) =
      if c == q && !triple then some (acc, r)
      else if c == q && r.take 2 == [q, q] then some (acc, r.drop 2)
      else if c == '\n' then
        if triple then readText raw isBytes triple q fuel { acc.put c with feeds := acc.feeds + 1 } r
        else none
      else if isBytes && 128 ≤ c.toNat then none
      else readText raw isBytes triple q fuel (acc.put c) r := by
  simp [readText, TextRead.put]

/-- What an escape stands for depends on nothing behind the character that follows it. -/
theorem escape?_local {acc acc' : TextRead} {e : Char} {cs r : List Char}
    (h : escape? raw isBytes acc e cs = some (acc', r)) :
    ∃ v, cs = v ++ r ∧ ∀ y, y.head? = r.head? → escape? raw isBytes acc e (v ++ y) = some (acc', y) := by
  have hplain {a : TextRead} (ha : ∀ y, escape? raw isBytes acc e y = some (a, y)) :
      ∃ v, cs = v ++ r ∧ ∀ y, y.head? = r.head? →
        escape? raw isBytes acc e (v ++ y) = some (acc', y) := by
    rw [ha] at h
    obtain ⟨rfl, rfl⟩ := Prod.mk.inj (Option.some.inj h)
    exact ⟨[], rfl, fun y _ => ha y⟩
  have hdigits {n : Nat} (ha : ∀ y, escape? raw isBytes acc e y =
      (hexEscape? n y).map fun p => (acc.put p.1, p.2)) :
      ∃ v, cs = v ++ r ∧ ∀ y, y.head? = r.head? →
        escape? raw isBytes acc e (v ++ y) = some (acc', y) := by
    rw [ha] at h
    obtain ⟨⟨c, r'⟩, hc, hr⟩ := Option.map_eq_some_iff.mp h
    obtain ⟨rfl, rfl⟩ := Prod.mk.inj hr
    obtain ⟨v, rfl, hv⟩ := hexEscape?_local hc
    exact ⟨v, rfl, fun y _ => by rw [ha, hv]; rfl⟩
  by_cases hraw : raw = true
  · exact hplain fun y => if_pos hraw
  by_cases hfeed : (e == '\n') = true
  · exact hplain fun y => by rw [escape?, if_neg hraw, if_pos hfeed]
  cases hletter : letterEscape? e with
  | some c => exact hplain fun y => by rw [escape?, if_neg hraw, if_neg hfeed, hletter]
  | none =>
    by_cases hx : (e == 'x') = true
    · exact hdigits fun y => by simp only [escape?, hraw, hfeed, hletter, hx]; rfl
    by_cases hu : ((e == 'u' || e == 'U') && !isBytes) = true
    · exact hdigits fun y => by simp only [escape?, hraw, hfeed, hletter, hx, hu]; rfl
    by_cases hoctal : '0' ≤ e ∧ e ≤ '7'
    · have hfirst : (decide ('0' ≤ e) && decide (e ≤ '7')) = true := by simpa using hoctal
      obtain ⟨f, hf⟩ : ∃ f : List Char → Char, ∀ y, escape? raw isBytes acc e y =
          some (acc.put (f ((y.take 2).takeWhile fun c => '0' ≤ c && c ≤ '7')),
            y.drop ((y.take 2).takeWhile fun c => '0' ≤ c && c ≤ '7').length) :=
        ⟨fun ds => Char.ofNat (if isBytes then
            (e :: ds).foldl (fun n c => 8 * n + (c.toNat - '0'.toNat)) 0 % 256
          else (e :: ds).foldl (fun n c => 8 * n + (c.toNat - '0'.toNat)) 0), fun y => by
          simp only [escape?, hraw, hfeed, hletter, hx, hu, hoctal, List.take_succ_cons,
            List.takeWhile_cons_of_pos (p := fun c => '0' ≤ c && c ≤ '7') hfirst]
          rfl⟩
      obtain ⟨d, r', hd, rfl, hlocal⟩ :=
        takeWhile_take_local (fun c => '0' ≤ c && c ≤ '7') 2 cs
      rw [hf, hd, List.drop_left] at h
      obtain ⟨rfl, rfl⟩ := Prod.mk.inj (Option.some.inj h)
      exact ⟨d, rfl, fun y hy => by rw [hf, hlocal y hy, List.drop_left]⟩
    by_cases hname : (e == 'N' && !isBytes) = true
    · exact hplain fun y => by simp only [escape?, hraw, hfeed, hletter, hx, hu, hoctal, hname]; rfl
    · exact hplain fun y => by simp only [escape?, hraw, hfeed, hletter, hx, hu, hoctal, hname]; rfl

theorem closing_eq_cons (triple : Bool) (q : Char) : ∃ r, closing triple q = q :: r := by
  cases triple <;> exact ⟨_, rfl⟩

/-- A character that does not close a literal does not close it with something else behind the
quotes either. -/
theorem not_closes {c : Char} {u r y : List Char} (hsingle : ¬ (c == q && !triple) = true)
    (htriple : ¬ (c == q && (u ++ (closing triple q ++ r)).take 2 == [q, q]) = true) :
    ¬ (c == q && (u ++ (closing triple q ++ y)).take 2 == [q, q]) = true := by
  cases triple with
  | false => simp_all
  | true =>
    have htake (y : List Char) : (u ++ (closing true q ++ y)).take 2 = (u ++ [q, q]).take 2 := by
      have hsplit : u ++ (closing true q ++ y) = (u ++ [q, q]) ++ q :: y := by simp [closing]
      rw [hsplit, List.take_append_of_le_length (by simp)]
    rwa [htake, ← htake r]

/-- **The body of a literal depends on nothing behind its closing quotes.** -/
theorem readText_local {fuel : Nat} {acc acc' : TextRead} {cs r : List Char}
    (h : readText raw isBytes triple q fuel acc cs = some (acc', r)) :
    ∃ u, cs = u ++ (closing triple q ++ r) ∧ ∀ fuel' y, u.length < fuel' →
      readText raw isBytes triple q fuel' acc (u ++ (closing triple q ++ y)) = some (acc', y) := by
  induction fuel generalizing acc cs with
  | zero => simp [readText] at h
  | succ fuel ih =>
    obtain _ | ⟨c, r'⟩ := cs
    · simp [readText] at h
    by_cases hslash : c = '\\'
    · subst hslash
      obtain _ | ⟨e, r'⟩ := r'
      · simp [readText] at h
      rw [readText_escape] at h
      obtain ⟨⟨acc₁, r₁⟩, hescape, hread⟩ := Option.bind_eq_some_iff.mp h
      obtain ⟨v, rfl, hv⟩ := escape?_local hescape
      obtain ⟨u, rfl, hu⟩ := ih hread
      refine ⟨'\\' :: e :: (v ++ u), by simp, fun fuel' y hfuel => ?_⟩
      obtain ⟨k, rfl⟩ := Nat.exists_eq_succ_of_ne_zero (Nat.ne_of_gt (Nat.zero_lt_of_lt hfuel))
      have hhead : (u ++ (closing triple q ++ y)).head? = (u ++ (closing triple q ++ r)).head? := by
        obtain ⟨t, ht⟩ := closing_eq_cons triple q
        cases u <;> simp [ht]
      rw [List.cons_append, List.cons_append, readText_escape, List.append_assoc, hv _ hhead]
      exact hu k y (by simp at hfuel; omega)
    · rw [readText_plain _ _ hslash] at h
      split_ifs at h with hsingle htriple hfeed hlong hbyte
      · obtain ⟨rfl, rfl⟩ := Prod.mk.inj (Option.some.inj h)
        simp only [Bool.and_eq_true, beq_iff_eq, Bool.not_eq_true'] at hsingle
        obtain ⟨rfl, rfl⟩ := hsingle
        refine ⟨[], rfl, fun fuel' y hfuel => ?_⟩
        obtain ⟨k, rfl⟩ := Nat.exists_eq_succ_of_ne_zero (Nat.ne_of_gt (Nat.zero_lt_of_lt hfuel))
        rw [List.nil_append, closing, if_neg Bool.false_ne_true, List.singleton_append,
          readText_plain _ _ hslash, if_pos (by simp)]
      · obtain ⟨rfl, rfl⟩ := Prod.mk.inj (Option.some.inj h)
        simp only [Bool.and_eq_true, beq_iff_eq, Bool.not_eq_true', not_and,
          Bool.not_eq_false] at hsingle htriple
        obtain ⟨rfl, htake⟩ := htriple
        have hlong := hsingle rfl
        subst hlong
        refine ⟨[], ?_, fun fuel' y hfuel => ?_⟩
        · conv_lhs => rw [← List.take_append_drop 2 r', htake]
          rfl
        · obtain ⟨k, rfl⟩ := Nat.exists_eq_succ_of_ne_zero (Nat.ne_of_gt (Nat.zero_lt_of_lt hfuel))
          rw [List.nil_append, closing, if_pos rfl, List.cons_append, readText_plain _ _ hslash]
          simp
      all_goals
        obtain ⟨u, rfl, hu⟩ := ih h
        refine ⟨c :: u, rfl, fun fuel' y hfuel => ?_⟩
        obtain ⟨k, rfl⟩ := Nat.exists_eq_succ_of_ne_zero (Nat.ne_of_gt (Nat.zero_lt_of_lt hfuel))
        have := hu k y (by simpa using hfuel)
        rw [List.cons_append, readText_plain _ _ hslash, if_neg hsingle,
          if_neg (not_closes hsingle htriple)]
        simp_all

/-- A literal up to quotes of one kind: three of them if it opens with three. -/
def readQuoted (marks : List Char) (triple : Bool) (q : Char) (body : List Char) :
    Option (Token × TextRead × List Char) :=
  (readText (keepsEscapes marks) (marks.contains 'b') triple q (body.length + 1) {} body).map
    fun p => (literalToken marks p.1, p.1, p.2)

theorem readLiteral?_eq {marks : List Char} (h : literalMarks.contains marks = true)
    (s : List Char) :
    readLiteral? marks (q :: s) =
      if s.take 2 == [q, q] then readQuoted marks true q (s.drop 2) else readQuoted marks false q s := by
  rw [readLiteral?, h]
  by_cases hlong : (s.take 2 == [q, q]) = true <;>
    simp only [hlong, Bool.not_true, Bool.false_eq_true, if_true, if_false] <;> rfl

theorem readQuoted_local {marks body r : List Char} {t : Token} {read : TextRead}
    (h : readQuoted marks triple q body = some (t, read, r)) :
    ∃ u, body = u ++ (closing triple q ++ r) ∧
      ∀ y, readQuoted marks triple q (u ++ (closing triple q ++ y)) = some (t, read, y) := by
  obtain ⟨⟨read', r'⟩, hread, hrest⟩ := Option.map_eq_some_iff.mp h
  simp only [Prod.mk.injEq] at hrest
  obtain ⟨rfl, rfl, rfl⟩ := hrest
  obtain ⟨u, hu, hlocal⟩ := readText_local hread
  refine ⟨u, hu, fun y => ?_⟩
  rw [readQuoted, hlocal _ y (by rw [List.length_append]; omega)]
  rfl

/-- **A literal depends on nothing behind its closing quotes,** as long as no quote stands
there that did not before. -/
theorem readLiteral?_local {marks s r : List Char} {t : Token} {read : TextRead}
    (h : readLiteral? marks (q :: s) = some (t, read, r)) :
    ∃ u, s = u ++ q :: r ∧ ∀ y, (y.head? = some q → r.head? = some q) →
      readLiteral? marks (q :: (u ++ q :: y)) = some (t, read, y) := by
  by_cases hmarks : literalMarks.contains marks = true
  · rw [readLiteral?_eq hmarks] at h
    split_ifs at h with hlong
    · obtain ⟨u, hu, hlocal⟩ := readQuoted_local h
      have hs : s = q :: q :: (u ++ q :: q :: q :: r) := by
        conv_lhs => rw [← List.take_append_drop 2 s, eq_of_beq hlong, hu]
        simp [closing]
      refine ⟨q :: q :: (u ++ [q, q]), by simp [hs], fun y _ => ?_⟩
      rw [readLiteral?_eq hmarks, if_pos (by simp)]
      simpa [closing] using hlocal y
    · obtain ⟨u, rfl, hlocal⟩ := readQuoted_local h
      refine ⟨u, by simp [closing], fun y hy => ?_⟩
      have htake : ¬ ((u ++ q :: y).take 2 == [q, q]) = true := by
        match u, hlong with
        | [], hlong =>
          have hnext {y : List Char} : (q :: y).take 2 = [q, q] ↔ y.head? = some q := by
            cases y <;> simp
          simp only [closing, Bool.false_eq_true, if_false, List.nil_append, List.singleton_append,
            beq_iff_eq, hnext] at hlong ⊢
          exact fun h => hlong (hy h)
        | [a], hlong => simpa [closing] using hlong
        | a :: b :: u, hlong => simpa using hlong
      rw [readLiteral?_eq hmarks, if_neg htake]
      simpa [closing] using hlocal y
  · rw [readLiteral?, Bool.not_eq_true _ |>.mp hmarks] at h
    cases h

end Literals

end Syntax

end Facade
