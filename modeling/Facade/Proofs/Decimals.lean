import Facade.Number.Decimal
import Facade.Number.Shortest
import Facade.Proofs.Rounding
import Mathlib.Tactic.Ring

/-!
# Decimals read back

A number is written with the fewest digits that read back as it, and laid out as an integer, with a
point or with an exponent. Every layout is read as the same rational number.

* `Numeral`: a decimal by its parts; `Numeral.readDecimal?_chars`: it is read as its value.
* `FloatStyle.exists_numeral`: what `FloatStyle.layDigits` lays out is such a decimal.
* `Binary64.ofDecimal_shortestDecimal`: the shortest decimal of a number is nearest to the number.
* `FloatStyle.exists_numeral_of_parts`: the text of a number reads back as it.
-/

namespace Facade

namespace Number

/-! ## Digits -/

/-- Digits of ASCII. -/
def IsDigits (ds : List Char) : Prop := ∀ c ∈ ds, c.isDigit = true

/-- No further digit follows. -/
def StopsDigits (rest : List Char) : Prop := ∀ c ∈ rest.head?, c.isDigit = false ∧ c ≠ '_'

theorem isDigits_toDigits (n : Nat) : IsDigits (Nat.toDigits 10 n) := fun _ hc =>
  Nat.isDigit_of_mem_toDigits (by decide) (by decide) hc

theorem isDigits_replicate (n : Nat) : IsDigits (List.replicate n '0') := by
  intro c hc
  rw [List.eq_of_mem_replicate hc]
  rfl

theorem IsDigits.append {a b : List Char} (ha : IsDigits a) (hb : IsDigits b) : IsDigits (a ++ b) :=
  fun c hc => (List.mem_append.mp hc).elim (ha c) (hb c)

theorem digitsVal_toDigits (n : Nat) : digitsVal (Nat.toDigits 10 n) = n :=
  Nat.ofDigitChars_ten_toDigits

theorem digitsVal_append (a b : List Char) :
    digitsVal (a ++ b) = 10 ^ b.length * digitsVal a + digitsVal b := by
  rw [digitsVal, List.foldl_append]
  exact Nat.ofDigitChars_eq_ofDigitChars_zero

theorem digitsVal_replicate (n : Nat) : digitsVal (List.replicate n '0') = 0 :=
  Nat.ofDigitChars_replicate_zero.trans (Nat.mul_zero _)

theorem isDigit_ne_underscore {c : Char} (h : c.isDigit = true) : (c == '_') = false := by
  rw [beq_eq_false_iff_ne]
  rintro rfl
  cases h

/-- Digits are read up to the first character that is none. -/
theorem readDigits_append {ds rest : List Char} (hds : IsDigits ds) (hrest : StopsDigits rest) :
    readDigits (ds ++ rest) = (ds, rest) := by
  induction ds with
  | nil =>
    match rest, hrest with
    | [], _ => rfl
    | [c], h => simp [readDigits, (h c rfl).1]
    | c :: _ :: _, h => simp [readDigits, (h c rfl).1]
  | cons c ds ih =>
    have hc := hds c List.mem_cons_self
    have ih := ih fun d hd => hds d (List.mem_cons_of_mem _ hd)
    match hnext : ds ++ rest, ih with
    | [], ih =>
      rw [List.append_eq_nil_iff] at hnext
      simp [hnext, readDigits, hc]
    | d :: r, ih =>
      have hd : (d == '_') = false := by
        cases ds with
        | nil => exact beq_eq_false_iff_ne.mpr (hrest d (by rw [show rest = d :: r from hnext]; rfl)).2
        | cons e es =>
          obtain ⟨rfl, -⟩ := List.cons.inj hnext
          exact isDigit_ne_underscore (hds _ (by simp))
      rw [List.cons_append, hnext]
      unfold readDigits
      simp [hc, hd, ih]

/-! ## Numerals -/

/-- A decimal: the digits before the point, those after it, and the exponent with its sign. -/
structure Numeral where
  /-- The digits before the point. -/
  whole : List Char
  /-- The digits after the point, if there is one. -/
  frac : Option (List Char)
  /-- Whether the exponent is negative, and its digits, if there is one. -/
  exponent : Option (Bool × List Char)
  whole_ne_nil : whole ≠ []
  whole_isDigits : IsDigits whole
  frac_isDigits : ∀ f ∈ frac, IsDigits f
  exponent_ne_nil : ∀ e ∈ exponent, e.2 ≠ []
  exponent_isDigits : ∀ e ∈ exponent, IsDigits e.2

namespace Numeral

variable (n : Numeral)

/-- The text of the exponent. -/
def exponentChars : List Char :=
  match n.exponent with
  | none => []
  | some (negative, es) => 'e' :: (if negative then '-' else '+') :: es

/-- The text after the whole part. -/
def tail : List Char :=
  match n.frac with
  | none => n.exponentChars
  | some f => '.' :: (f ++ n.exponentChars)

/-- The text. -/
def chars : List Char := n.whole ++ n.tail

/-- All digits of the number as an integer. -/
def digits : Nat := digitsVal (n.whole ++ n.frac.getD [])

/-- The number that the exponent stands for. -/
def exponentVal : Int :=
  match n.exponent with
  | none => 0
  | some (negative, es) => if negative then -(digitsVal es : Int) else digitsVal es

/-- The power of ten that the last digit stands for. -/
def power : Int := n.exponentVal - (n.frac.getD []).length

/-- The value. -/
def value : ℚ := n.digits * 10 ^ n.power

/-- Whether there is neither a point nor an exponent. -/
def isWhole : Bool := n.frac.isNone && n.exponent.isNone

end Numeral

/-- What may follow a number: nothing that would continue it. -/
def StopsNumber (rest : List Char) : Prop :=
  ∀ c ∈ rest.head?, c.isDigit = false ∧ c ≠ '_' ∧ c ≠ '.' ∧ c ≠ 'e' ∧ c ≠ 'E'

theorem StopsNumber.stopsDigits {rest : List Char} (h : StopsNumber rest) : StopsDigits rest :=
  fun c hc => ⟨(h c hc).1, (h c hc).2.1⟩

namespace Numeral

variable (n : Numeral) {rest : List Char}

theorem readExponent_chars (hrest : StopsNumber rest) :
    readExponent (n.exponentChars ++ rest) = (n.exponentVal, rest) := by
  unfold exponentChars exponentVal
  match he : n.exponent with
  | none =>
    match rest, hrest with
    | [], _ => rfl
    | c :: r, h =>
      obtain ⟨-, -, -, hlower, hupper⟩ := h c rfl
      simp [readExponent, hlower, hupper]
  | some (negative, es) =>
    have hread := readDigits_append (n.exponent_isDigits _ he) hrest.stopsDigits
    obtain ⟨d, ds, rfl⟩ := List.exists_cons_of_ne_nil (n.exponent_ne_nil _ he)
    rw [List.cons_append] at hread
    cases negative <;> simp [readExponent, hread]

theorem stopsDigits_exponentChars (hrest : StopsNumber rest) :
    StopsDigits (n.exponentChars ++ rest) := by
  unfold exponentChars
  split
  · exact hrest.stopsDigits
  · rintro c hc
    obtain rfl : 'e' = c := by simpa using hc
    decide

theorem stopsDigits_tail (hrest : StopsNumber rest) : StopsDigits (n.tail ++ rest) := by
  unfold tail
  split
  · exact n.stopsDigits_exponentChars hrest
  · rintro c hc
    obtain rfl : '.' = c := by simpa using hc
    decide

theorem readDigits_chars (hrest : StopsNumber rest) :
    readDigits (n.chars ++ rest) = (n.whole, n.tail ++ rest) := by
  rw [chars, List.append_assoc]
  exact readDigits_append n.whole_isDigits (n.stopsDigits_tail hrest)

/-- **A decimal is read as its value,** whatever stands behind it. -/
theorem readDecimal?_chars (hrest : StopsNumber rest) :
    readDecimal? (n.chars ++ rest) = some ((n.digits, n.power), rest) := by
  have hwhole : n.whole.isEmpty = false := by simpa using n.whole_ne_nil
  have hexp := n.readExponent_chars hrest
  rw [readDecimal?, n.readDigits_chars hrest]
  unfold tail digits power
  match hf : n.frac with
  | none =>
    have hpoint : ∀ r, n.exponentChars ++ rest ≠ '.' :: r := by
      unfold exponentChars
      split
      · rintro r rfl
        exact (hrest '.' rfl).2.2.1 rfl
      · simp
    simp [hwhole, hexp]
  | some f =>
    have hread := readDigits_append (n.frac_isDigits f hf) (n.stopsDigits_exponentChars hrest)
    simp [hread, hwhole, hexp]

end Numeral

end Number

/-! ## Layouts -/

namespace Number.Numeral

variable {ds : List Char} (hds : IsDigits ds) (hne : ds ≠ [])
include hds hne

omit hne in
/-- Digits behind a point and further zeros. -/
theorem exists_small (z : Nat) : ∃ n : Numeral, n.chars = '0' :: '.' :: (List.replicate z '0' ++ ds) ∧
    n.value = digitsVal ds * 10 ^ (-(z + ds.length : Nat) : Int) ∧ n.isWhole = false := by
  refine ⟨⟨['0'], some (List.replicate z '0' ++ ds), none, by simp, isDigits_replicate 1, ?_,
    by simp, by simp⟩, ?_, ?_, rfl⟩
  · rintro f ⟨⟩
    exact (isDigits_replicate z).append hds
  · simp [chars, tail, exponentChars]
  · have hdigits : digitsVal (['0'] ++ (List.replicate z '0' ++ ds)) = digitsVal ds := by
      rw [← List.append_assoc, digitsVal_append, digitsVal_append, digitsVal_replicate]
      simp [digitsVal, digitVal]
    rw [value, digits, Option.getD_some, hdigits]
    simp [power, exponentVal]

/-- Digits and further zeros, as an integer or before a point. -/
theorem exists_large (z : Nat) (f : Option (List Char)) (hf : f = none ∨ f = some ['0']) :
    ∃ n : Numeral, n.chars = ds ++ List.replicate z '0' ++ (f.elim [] ('.' :: ·)) ∧
      n.value = digitsVal ds * 10 ^ (z : Int) ∧ n.isWhole = f.isNone ∧
      n.whole.head? = ds.head? := by
  refine ⟨⟨ds ++ List.replicate z '0', f, none, by simp [hne], hds.append (isDigits_replicate z), ?_,
    by simp, by simp⟩, ?_, ?_, ?_, ?_⟩
  · rintro g rfl
    obtain rfl : g = ['0'] := by simpa using hf
    exact isDigits_replicate 1
  · rcases hf with rfl | rfl <;> simp [chars, tail, exponentChars]
  · rcases hf with rfl | rfl
    · simp [value, digits, power, exponentVal, digitsVal_append, digitsVal_replicate, mul_comm]
    · have hzero : digitsVal ['0'] = 0 := rfl
      simp [value, digits, power, exponentVal, digitsVal_append, digitsVal_replicate, hzero]
      ring
  · simp [isWhole]
  · obtain ⟨c, r, rfl⟩ := List.exists_cons_of_ne_nil hne
    rfl

/-- Digits with a point between them. -/
theorem exists_split {p : Nat} (hp : 0 < p) (hlt : p < ds.length) :
    ∃ n : Numeral, n.chars = ds.take p ++ '.' :: ds.drop p ∧
      n.value = digitsVal ds * 10 ^ ((p : Int) - ds.length) ∧ n.isWhole = false := by
  refine ⟨⟨ds.take p, some (ds.drop p), none, ?_, fun c hc => hds c (List.mem_of_mem_take hc), ?_,
    by simp, by simp⟩, ?_, ?_, rfl⟩
  · simp [hne, hp.ne']
  · rintro f ⟨⟩
    exact fun c hc => hds c (List.mem_of_mem_drop hc)
  · simp [chars, tail, exponentChars]
  · have hpower : (-((ds.length - p : Nat) : Int)) = p - ds.length := by omega
    simp [value, digits, power, exponentVal, hpower]

omit hds hne in
/-- A digit, the others behind a point, and an exponent. -/
theorem exists_scientific (ds : List Char) (e : Int) : IsDigits ds → ds ≠ [] →
    ∃ n : Numeral, n.chars = (match ds with
        | [] => []
        | [c] => [c]
        | c :: r => c :: '.' :: r) ++ 'e' :: (if e < 0 then '-' else '+') ::
          (List.replicate (2 - (Nat.toDigits 10 e.natAbs).length) '0' ++ Nat.toDigits 10 e.natAbs) ∧
      n.value = digitsVal ds * 10 ^ (e - (ds.length - 1 : Nat)) ∧ n.isWhole = false := by
  intro hds hne
  have hpad : digitsVal (List.replicate (2 - (Nat.toDigits 10 e.natAbs).length) '0' ++
      Nat.toDigits 10 e.natAbs) = e.natAbs := by
    rw [digitsVal_append, digitsVal_replicate, digitsVal_toDigits, Nat.mul_zero, Nat.zero_add]
  have hdigits := (isDigits_replicate (2 - (Nat.toDigits 10 e.natAbs).length)).append
    (isDigits_toDigits e.natAbs)
  have hnil : List.replicate (2 - (Nat.toDigits 10 e.natAbs).length) '0' ++
      Nat.toDigits 10 e.natAbs ≠ [] := by simp
  generalize List.replicate (2 - (Nat.toDigits 10 e.natAbs).length) '0' ++
      Nat.toDigits 10 e.natAbs = es at hpad hdigits hnil
  have hexp : (if decide (e < 0) = true then -(digitsVal es : Int) else digitsVal es) = e := by
    simp only [hpad, decide_eq_true_eq]
    split_ifs <;> omega
  match ds, hds, hne with
  | [c], hds, _ =>
    refine ⟨⟨[c], none, some (decide (e < 0), es), by simp, hds, by simp, ?_, ?_⟩, ?_, ?_, rfl⟩
    · rintro x ⟨⟩; exact hnil
    · rintro x ⟨⟩; exact hdigits
    · simp [chars, tail, exponentChars]
    · simp only [value, digits, power, exponentVal, hexp]
      simp
  | c :: d :: r, hds, _ =>
    refine ⟨⟨[c], some (d :: r), some (decide (e < 0), es), by simp, ?_, ?_, ?_, ?_⟩, ?_, ?_, rfl⟩
    · exact fun x hx => hds x (List.mem_of_mem_head? (by simpa [eq_comm] using hx))
    · rintro f ⟨⟩; exact fun x hx => hds x (List.mem_cons_of_mem _ hx)
    · rintro x ⟨⟩; exact hnil
    · rintro x ⟨⟩; exact hdigits
    · simp [chars, tail, exponentChars]
    · simp only [value, digits, power, exponentVal, hexp]
      simp

end Number.Numeral

namespace FloatStyle

open Number

/-- Whether digits are laid out as an integer. -/
def LaysWhole (style : FloatStyle) (d : Nat) (k : Int) : Prop :=
  style.pointZero = false ∧ 0 ≤ k ∧ Binary64.digitCount d + k ≤ 16

theorem head?_toDigits {d : Nat} (hd : d ≠ 0) : (Nat.toDigits 10 d).head? ≠ some '0' := by
  induction d using Nat.strong_induction_on with
  | _ d ih =>
    rw [Nat.toDigits_eq_if (by decide)]
    split_ifs with hlt
    · rw [List.head?_cons, ne_eq, Option.some.injEq]
      have hdigit : ∀ n < 10, n ≠ 0 → Nat.digitChar n ≠ '0' := by decide
      exact hdigit d hlt hd
    · obtain ⟨c, r, hcr⟩ := List.exists_cons_of_ne_nil (Nat.toDigits_ne_nil (n := d / 10) (b := 10))
      have ih := ih (d / 10) (by omega) (by omega)
      rw [hcr] at ih ⊢
      exact ih

/-- **What is laid out is a decimal with the value of its digits,** and an integer where it is laid
out as one. -/
theorem exists_numeral (style : FloatStyle) {d : Nat} (hd : d ≠ 0) (k : Int) :
    ∃ n : Numeral, n.chars = style.layDigits d k ∧ n.value = d * 10 ^ k ∧
      (n.isWhole = true ↔ style.LaysWhole d k) ∧
      (n.isWhole = true → n.whole.head? ≠ some '0') := by
  have hds := isDigits_toDigits d
  have hhead := head?_toDigits hd
  have hval := digitsVal_toDigits d
  have hlen : 0 < (Nat.toDigits 10 d).length := Nat.length_toDigits_pos
  simp only [layDigits, LaysWhole, Binary64.digitCount]
  generalize Nat.toDigits 10 d = ds at hds hval hlen hhead
  have hne : ds ≠ [] := List.ne_nil_of_length_pos hlen
  subst hval
  by_cases hrange : -4 < (ds.length : Int) + k ∧ (ds.length : Int) + k ≤ 16
  · rw [if_pos hrange]
    by_cases hsmall : (ds.length : Int) + k ≤ 0
    · obtain ⟨n, hchars, hvalue, hwhole⟩ :=
        Numeral.exists_small hds (-((ds.length : Int) + k)).toNat
      have hpower : (-((-((ds.length : Int) + k)).toNat + ds.length : Nat) : Int) = k := by omega
      rw [hpower] at hvalue
      rw [if_pos hsmall]
      exact ⟨n, hchars, hvalue, by simp [hwhole]; omega, by simp [hwhole]⟩
    rw [if_neg hsmall]
    by_cases hlarge : (ds.length : Int) ≤ ds.length + k
    · obtain ⟨n, hchars, hvalue, hwhole, hfirst⟩ :=
        Numeral.exists_large hds hne ((ds.length : Int) + k - ds.length).toNat
          (if style.pointZero then some ['0'] else none) (by split_ifs <;> simp)
      have hpower : (((ds.length : Int) + k - ds.length).toNat : Int) = k := by omega
      rw [hpower] at hvalue
      rw [if_pos hlarge]
      refine ⟨n, ?_, hvalue, ?_, fun _ => hfirst ▸ hhead⟩
      · rw [hchars]
        split_ifs <;> rfl
      · rw [hwhole]
        cases hz : style.pointZero <;> simp
        omega
    · obtain ⟨n, hchars, hvalue, hwhole⟩ :=
        Numeral.exists_split hds hne (p := ((ds.length : Int) + k).toNat) (by omega) (by omega)
      have hpower : (((ds.length : Int) + k).toNat : Int) - ds.length = k := by omega
      rw [hpower] at hvalue
      rw [if_neg hlarge]
      exact ⟨n, hchars, hvalue, by simp only [hwhole]; simp; omega, by simp [hwhole]⟩
  · obtain ⟨n, hchars, hvalue, hwhole⟩ :=
      Numeral.exists_scientific ds ((ds.length : Int) + k - 1) hds hne
    have hpower : (ds.length : Int) + k - 1 - (ds.length - 1 : Nat) = k := by omega
    rw [hpower] at hvalue
    rw [if_neg hrange]
    exact ⟨n, hchars, hvalue, by simp only [hwhole]; simp; omega, by simp [hwhole]⟩

end FloatStyle

/-! ## The shortest decimal -/

namespace Binary64

theorem ofDecimal_congr (s : Bool) {d d' : Nat} {k k' : Int}
    (h : (d : ℚ) * 10 ^ k = d' * 10 ^ k') : ofDecimal s d k = ofDecimal s d' k' := by
  rw [ofDecimal_eq_ofRat, ofDecimal_eq_ofRat, h]

/-- A decimal that is nearest to a number, and is not zero. -/
def Reads (x : Binary64) (p : Nat × Int) : Prop := p.1 ≠ 0 ∧ ofDecimal false p.1 p.2 = x

theorem reads_exactDecimal {x : Binary64} {m : Nat} {q : Int} (h : x.parts = .finite false m q)
    (hm : m ≠ 0) : Reads x (exactDecimal m q) := by
  unfold Reads exactDecimal
  rw [ofDecimal_eq_ofRat, ← ofRat_of_parts h]
  split_ifs with hq
  · obtain ⟨n, rfl⟩ := Int.eq_ofNat_of_zero_le hq
    refine ⟨Nat.mul_ne_zero hm (by positivity), ?_⟩
    rw [Int.toNat_natCast, zpow_natCast]
    push_cast
    rw [mul_one]
  · obtain ⟨n, hn⟩ := Int.eq_ofNat_of_zero_le (a := -q) (by omega)
    obtain rfl : q = -(n : Int) := by omega
    refine ⟨Nat.mul_ne_zero hm (by positivity), ?_⟩
    have hten : (10 : ℚ) ^ n = 2 ^ n * 5 ^ n := by rw [← mul_pow]; norm_num
    rw [neg_neg, Int.toNat_natCast, zpow_neg, zpow_neg, zpow_natCast, zpow_natCast, hten]
    push_cast
    congr 1
    field_simp

section Shortest

variable {x : Binary64} {d : Nat} {t : Int} (hx : ofDecimal false 0 0 ≠ x) (h : Reads x (d, t))
include h

theorem reads_trimZeros (fuel : Nat) : Reads x (trimZeros fuel (d, t)) := by
  induction fuel generalizing d t with
  | zero => exact h
  | succ fuel ih =>
    rw [trimZeros]
    split_ifs with hd
    · have hdiv : d = d / 10 * 10 := by omega
      refine ih ⟨by dsimp only; omega, ?_⟩
      rw [← h.2]
      refine ofDecimal_congr false ?_
      rw [zpow_add_one₀ (by norm_num), hdiv]
      push_cast
      simp
      ring
    · exact h

include hx

theorem reads_neighbour? {n : Nat} {p : Nat × Int} (hp : neighbour? x d t n = some p) :
    Reads x p := by
  have hit {c : Nat} {k : Int} (hc : (ofDecimal false c k == x) = true) : Reads x (c, k) := by
    have hc := beq_iff_eq.mp hc
    refine ⟨?_, hc⟩
    rintro rfl
    exact hx (by rw [← hc]; simp [ofDecimal])
  simp only [neighbour?] at hp
  split_ifs at hp with hlen hlow ha hb ha hb
  all_goals obtain rfl := Option.some.inj hp
  · exact h
  all_goals exact hit ‹_›

theorem reads_fewestFrom (fuel n : Nat) : Reads x (fewestFrom x d t fuel n) := by
  induction fuel generalizing n with
  | zero => exact h
  | succ fuel ih =>
    rw [fewestFrom]
    cases hp : neighbour? x d t n with
    | none => exact ih (n + 1)
    | some p => exact reads_neighbour? hx h hp

end Shortest

/-- **The shortest decimal of a number is nearest to the number.** -/
theorem reads_shortestDecimal {x : Binary64} {m : Nat} {q : Int} (h : x.parts = .finite false m q)
    (hm : m ≠ 0) : Reads x (shortestDecimal m q) := by
  have hx : ofDecimal false 0 0 ≠ x := by
    rintro rfl
    obtain ⟨p, hz, -⟩ := parts_zero false
    rw [show ofDecimal false 0 0 = ofFields false 0 0 from rfl, hz] at h
    exact hm (Parts.finite.inj h).2.1.symm
  have hexact := reads_exactDecimal h hm
  rw [shortestDecimal, ofScaled_of_parts h]
  exact reads_trimZeros (reads_fewestFrom hx hexact 17 1) _

end Binary64

/-! ## The text of a number -/

namespace FloatStyle

open Number Binary64

/-- The style writes the number as this decimal, behind its sign. -/
structure Writes (style : FloatStyle) (x : Binary64) (n : Numeral) : Prop where
  render : style.render x = String.ofList (if x.isNegative then '-' :: n.chars else n.chars)
  value : ofDecimal false n.digits n.power = x.abs
  isWhole : n.isWhole = (!style.pointZero && x.wholeDecimal?.isSome)
  whole : n.isWhole = true → x.wholeDecimal? = some n.digits
  head : n.isWhole = true → n.whole = ['0'] ∨ n.whole.head? ≠ some '0'

theorem digits_of_isWhole {n : Numeral} (h : n.isWhole = true) : n.value = n.digits := by
  simp only [Numeral.isWhole, Bool.and_eq_true, Option.isNone_iff_eq_none] at h
  simp [Numeral.value, Numeral.power, Numeral.exponentVal, h.1, h.2]

theorem exists_writes_zero (style : FloatStyle) {x : Binary64} {s : Bool} {q : Int}
    (h : x.parts = .finite s 0 q) (hs : x.isNegative = s) : ∃ n, style.Writes x n := by
  have hzero : ofDecimal false 0 0 = x.abs := by
    rw [← ofRat_of_parts (parts_abs h)]
    simp [ofDecimal, ofRat]
  have hwhole : x.wholeDecimal? = some 0 := by simp only [wholeDecimal?, h]
  obtain ⟨_ | _⟩ := style
  · refine ⟨⟨['0'], none, none, by simp, isDigits_replicate 1, by simp, by simp, by simp⟩, ?_, hzero,
      by simp [Numeral.isWhole, hwhole], fun _ => hwhole, fun _ => .inl rfl⟩
    simp [render, h, ← hs, Numeral.chars, Numeral.tail, Numeral.exponentChars]
  · refine ⟨⟨['0'], some ['0'], none, by simp, isDigits_replicate 1, ?_, by simp, by simp⟩, ?_, hzero,
      rfl, fun _ => hwhole, fun _ => .inl rfl⟩
    · rintro f ⟨⟩
      exact isDigits_replicate 1
    · simp [render, h, ← hs, Numeral.chars, Numeral.tail, Numeral.exponentChars]

/-- **The text of a finite number reads back as the number.** -/
theorem exists_writes (style : FloatStyle) {x : Binary64} (h : x.isFinite = true) :
    ∃ n, style.Writes x n := by
  obtain ⟨m, q, hparts⟩ := exists_parts h
  obtain rfl | hm := Nat.eq_zero_or_pos m
  · exact exists_writes_zero style hparts rfl
  have hreads := reads_shortestDecimal (parts_abs hparts) hm.ne'
  obtain ⟨k, rfl⟩ : ∃ k, m = k + 1 := ⟨m - 1, by omega⟩
  have hrender : style.render x = String.ofList (if x.isNegative then
      '-' :: style.layDigits (shortestDecimal (k + 1) q).1 (shortestDecimal (k + 1) q).2
      else style.layDigits (shortestDecimal (k + 1) q).1 (shortestDecimal (k + 1) q).2) := by
    simp only [render, hparts]
  have hwhole : x.wholeDecimal? = if 0 ≤ (shortestDecimal (k + 1) q).2 ∧
      digitCount (shortestDecimal (k + 1) q).1 + (shortestDecimal (k + 1) q).2 ≤ 16 then
      some ((shortestDecimal (k + 1) q).1 * 10 ^ (shortestDecimal (k + 1) q).2.toNat) else none := by
    simp only [wholeDecimal?, hparts]
  generalize shortestDecimal (k + 1) q = p at hreads hrender hwhole
  obtain ⟨d, t⟩ := p
  obtain ⟨n, hchars, hvalue, hlays, hhead⟩ := style.exists_numeral hreads.1 t
  refine ⟨n, ?_, ?_, ?_, ?_, fun hw => .inr (hhead hw)⟩
  · rw [hrender, hchars]
  · rw [← hreads.2]
    exact ofDecimal_congr false hvalue
  · rw [Bool.eq_iff_iff, hlays, hwhole, LaysWhole]
    split_ifs with hc <;> simp [hc]
  · intro hw
    have hlay := hlays.mp hw
    rw [digits_of_isWhole hw] at hvalue
    obtain ⟨j, rfl⟩ := Int.eq_ofNat_of_zero_le hlay.2.1
    rw [hwhole, if_pos hlay.2]
    rw [zpow_natCast] at hvalue
    exact congrArg some (by exact_mod_cast hvalue.symm)

end FloatStyle

end Facade
