import Facade.Number.Binary64
import Mathlib.Algebra.Order.Field.Power
import Mathlib.Algebra.Order.Floor.Semifield
import Mathlib.Data.Int.Log
import Mathlib.Data.Nat.Bitwise
import Mathlib.Data.Rat.Floor
import Mathlib.Tactic.Linarith

/-!
# Rounding to the nearest number

Quotients and decimals are rounded in integers. What that amounts to is said over the rational
numbers.

* `Binary64.ofFields`, `Binary64.finite_cases`: the fields of a number and what they mean.
* `Binary64.nearest`, `Binary64.lastPlace`, `Binary64.ofRat`: the number nearest to a rational one.
* `Binary64.ofRatio_eq_ofRat`, `Binary64.ofDecimal_eq_ofRat`: quotients and decimals are rounded so.
* `Binary64.ofRat_of_parts`: a number is nearest to its own value.
* `Binary64.add_zero`, `Binary64.zero_add`: zero adds nothing.
-/

namespace Facade.Binary64

/-! ## The fields of a number -/

section Fields

variable {s : Bool} {e f : Nat}

theorem toNat_ofFields (he : e < 2 ^ 11) (hf : f < 2 ^ 52) :
    (ofFields s e f).bits.toNat = (if s then 2 ^ 63 else 0) + e * 2 ^ 52 + f := by
  have hlt : (if s then 2 ^ 63 else 0) + e * 2 ^ 52 + f < 2 ^ 64 := by split_ifs <;> omega
  rw [ofFields, UInt64.toNat_ofNat', Nat.mod_eq_of_lt hlt]

theorem isNegative_ofFields (he : e < 2 ^ 11) (hf : f < 2 ^ 52) :
    (ofFields s e f).isNegative = s := by
  rw [isNegative, toNat_ofFields he hf]
  cases s <;> simp <;> omega

/-- A number is made up of its fields. -/
theorem ofFields_eq_self (x : Binary64) :
    ofFields x.isNegative (x.bits.toNat / 2 ^ 52 % 2 ^ 11) (x.bits.toNat % 2 ^ 52) = x := by
  obtain ⟨b⟩ := x
  have hb := b.toNat_lt
  rw [ofFields, mk.injEq]
  refine UInt64.toNat_inj.mp ?_
  simp only [isNegative, decide_eq_true_eq, UInt64.toNat_ofNat']
  split_ifs <;> omega

theorem parts_ofFields_zero (hf : f < 2 ^ 52) : (ofFields s 0 f).parts = .finite s f (-1074) := by
  have hn := toNat_ofFields (s := s) (e := 0) (by decide) hf
  have he : (ofFields s 0 f).bits.toNat / 2 ^ 52 % 2 ^ 11 = 0 := by rw [hn]; split_ifs <;> omega
  have hm : (ofFields s 0 f).bits.toNat % 2 ^ 52 = f := by rw [hn]; split_ifs <;> omega
  have hs := isNegative_ofFields (s := s) (e := 0) (by decide) hf
  rw [isNegative] at hs
  simp [parts, he, hm, hs]

end Fields

/-- The fields of a finite number: those of a small one, whose integer is the fraction itself, or of
one whose integer has a leading bit. -/
theorem finite_cases {x : Binary64} {s : Bool} {m : Nat} {q : Int} (h : x.parts = .finite s m q) :
    (m < 2 ^ 52 ∧ q = -1074 ∧ x = ofFields s 0 m) ∨
      (2 ^ 52 ≤ m ∧ m < 2 ^ 53 ∧ -1074 ≤ q ∧ q < 972 ∧
        x = ofFields s (q + 1075).toNat (m - 2 ^ 52)) := by
  have hx := ofFields_eq_self x
  have hs : decide (2 ^ 63 ≤ x.bits.toNat) = x.isNegative := rfl
  have hf : x.bits.toNat % 2 ^ 52 < 2 ^ 52 := Nat.mod_lt _ (by decide)
  have he : x.bits.toNat / 2 ^ 52 % 2 ^ 11 < 2 ^ 11 := Nat.mod_lt _ (by decide)
  simp only [parts, hs] at h
  generalize x.bits.toNat % 2 ^ 52 = f at h hx hf
  generalize x.bits.toNat / 2 ^ 52 % 2 ^ 11 = e at h hx he
  split_ifs at h with hlast _ hzero
  · obtain ⟨rfl, rfl, rfl⟩ := Parts.finite.inj h
    rw [hzero] at hx
    exact .inl ⟨hf, rfl, hx.symm⟩
  · obtain ⟨rfl, rfl, rfl⟩ := Parts.finite.inj h
    refine .inr ⟨by omega, by omega, by omega, by omega, ?_⟩
    have hexp : ((e : Int) - 1075 + 1075).toNat = e := by omega
    rw [hexp, Nat.add_sub_cancel, hx]

/-- A finite number is put together again from its integer and its power of two. -/
theorem ofScaled_of_parts {x : Binary64} {s : Bool} {m : Nat} {q : Int}
    (h : x.parts = .finite s m q) : ofScaled s m q = x := by
  rcases finite_cases h with ⟨hm, rfl, rfl⟩ | ⟨hlo, hhi, hq, hq', rfl⟩
  · have hne : m ≠ 2 ^ 53 := by omega
    simp [ofScaled, hne, hm]
  · have hne : m ≠ 2 ^ 53 := by omega
    have hnlt : ¬ m < 2 ^ 52 := by omega
    have hle : ¬ 2047 ≤ q + 1075 := by omega
    simp [ofScaled, hne, hnlt, hle]

theorem toNat_abs (x : Binary64) : x.abs.bits.toNat = x.bits.toNat % 2 ^ 63 := by
  have hmask : (0x7FFFFFFFFFFFFFFF : UInt64).toNat = 2 ^ 63 - 1 := by decide
  rw [abs, UInt64.toNat_and, hmask, Nat.and_two_pow_sub_one_eq_mod]

theorem isNegative_abs (x : Binary64) : x.abs.isNegative = false := by
  have hlt := Nat.mod_lt x.bits.toNat (Nat.two_pow_pos 63)
  rw [isNegative, toNat_abs]
  simpa using hlt

theorem parts_abs {x : Binary64} {s : Bool} {m : Nat} {q : Int} (h : x.parts = .finite s m q) :
    x.abs.parts = .finite false m q := by
  have hlt : ¬ 2 ^ 63 ≤ x.bits.toNat % 2 ^ 63 := not_le.mpr (Nat.mod_lt _ (Nat.two_pow_pos 63))
  have he : x.bits.toNat % 2 ^ 63 / 2 ^ 52 % 2 ^ 11 = x.bits.toNat / 2 ^ 52 % 2 ^ 11 := by omega
  have hf : x.bits.toNat % 2 ^ 63 % 2 ^ 52 = x.bits.toNat % 2 ^ 52 := by omega
  simp only [parts, toNat_abs, he, hf, hlt, decide_false] at h ⊢
  split_ifs at h ⊢ <;> simp_all

theorem exists_parts {x : Binary64} (h : x.isFinite = true) :
    ∃ m q, x.parts = .finite x.isNegative m q := by
  have he : x.bits.toNat / 2 ^ 52 % 2 ^ 11 ≠ 2047 := by simpa [isFinite] using h
  simp only [parts, he, if_false, isNegative]
  split_ifs
  · exact ⟨_, _, rfl⟩
  · exact ⟨_, _, rfl⟩

theorem toNat_neg (x : Binary64) : x.neg.bits.toNat = (x.bits.toNat + 2 ^ 63) % 2 ^ 64 := by
  have hb := x.bits.toNat_lt
  have hmask : (0x8000000000000000 : UInt64).toNat = 2 ^ 63 := by decide
  rw [neg, UInt64.toNat_xor, hmask]
  have hmod : (x.bits.toNat ^^^ 2 ^ 63) % 2 ^ 63 = x.bits.toNat % 2 ^ 63 := by
    rw [Nat.xor_mod_two_pow, Nat.mod_self, Nat.xor_zero]
  have hdiv : (x.bits.toNat ^^^ 2 ^ 63) / 2 ^ 63 = x.bits.toNat / 2 ^ 63 ^^^ 1 := by
    rw [Nat.xor_div_two_pow, Nat.div_self (Nat.two_pow_pos 63)]
  obtain h | h : x.bits.toNat / 2 ^ 63 = 0 ∨ x.bits.toNat / 2 ^ 63 = 1 := by omega
  · rw [h, Nat.zero_xor] at hdiv
    omega
  · rw [h, Nat.xor_self] at hdiv
    omega

theorem eq_of_toNat {x y : Binary64} (h : x.bits.toNat = y.bits.toNat) : x = y :=
  congrArg Binary64.mk (UInt64.toNat_inj.mp h)

theorem abs_of_nonneg {x : Binary64} (h : x.isNegative = false) : x.abs = x := by
  have hlt : x.bits.toNat < 2 ^ 63 := by simpa [isNegative] using h
  exact eq_of_toNat (by rw [toNat_abs, Nat.mod_eq_of_lt hlt])

theorem neg_abs {x : Binary64} (h : x.isNegative = true) : x.abs.neg = x := by
  have hle : 2 ^ 63 ≤ x.bits.toNat := by simpa [isNegative] using h
  have hb := x.bits.toNat_lt
  refine eq_of_toNat ?_
  rw [toNat_neg, toNat_abs]
  omega

theorem ofFields_true (e f : Nat) : ofFields true e f = (ofFields false e f).neg := by
  refine eq_of_toNat ?_
  simp only [toNat_neg, ofFields, UInt64.toNat_ofNat', if_true, Bool.false_eq_true, if_false]
  omega

theorem ofScaled_true (m : Nat) (q : Int) : ofScaled true m q = (ofScaled false m q).neg := by
  simp only [ofScaled, infinity, ofFields_true]
  split_ifs <;> rfl

/-! ## Rounding a rational number -/

/-- The natural number nearest to a rational one; a half goes to the even neighbour. -/
def nearest (r : ℚ) : Nat :=
  if 2 * Int.fract r < 1 then ⌊r⌋₊
  else if 1 < 2 * Int.fract r then ⌊r⌋₊ + 1
  else if ⌊r⌋₊ % 2 = 0 then ⌊r⌋₊ else ⌊r⌋₊ + 1

theorem roundQuotient_eq_nearest (num : Nat) {den : Nat} (h : 0 < den) :
    roundQuotient num den = nearest (num / den) := by
  have hden : (0 : ℚ) < den := by exact_mod_cast h
  have hlow : 2 * ((num % den : Nat) / den : ℚ) < 1 ↔ 2 * (num % den) < den := by
    rw [← mul_div_assoc, div_lt_one hden]
    exact_mod_cast Iff.rfl
  have hhigh : 1 < 2 * ((num % den : Nat) / den : ℚ) ↔ den < 2 * (num % den) := by
    rw [← mul_div_assoc, one_lt_div hden]
    exact_mod_cast Iff.rfl
  simp only [nearest, roundQuotient, Int.fract_div_natCast_eq_div_natCast_mod,
    Nat.floor_div_eq_div, hlow, hhigh]

theorem nearest_natCast (m : Nat) : nearest m = m := by
  simp [nearest]

theorem le_nearest {r : ℚ} {m : Nat} (h : (m : ℚ) ≤ r) : m ≤ nearest r := by
  have hfloor : m ≤ ⌊r⌋₊ := Nat.le_floor h
  unfold nearest
  split_ifs <;> omega

theorem nearest_eq_zero {r : ℚ} (h₀ : 0 ≤ r) (h : 2 * r ≤ 1) : nearest r = 0 := by
  have hfract : Int.fract r = r := Int.fract_eq_self.mpr ⟨h₀, by linarith⟩
  have hfloor : ⌊r⌋₊ = 0 := Nat.floor_eq_zero.mpr (by linarith)
  have hhigh : ¬ 1 < 2 * r := by linarith
  simp [nearest, hfract, hfloor, hhigh]

/-- The power of two that the last place of the numbers around `r` stands for. -/
def lastPlace (r : ℚ) : Int := max (Int.log 2 r - 52) (-1074)

/-- The number nearest to a rational one. -/
def ofRat (negative : Bool) (r : ℚ) : Binary64 :=
  if r = 0 then ofFields negative 0 0
  else ofScaled negative (nearest (r / 2 ^ lastPlace r)) (lastPlace r)

theorem ofRat_true (r : ℚ) : ofRat true r = (ofRat false r).neg := by
  simp only [ofRat, ofFields_true, ofScaled_true]
  split_ifs <;> rfl

/-! ## Quotients -/

section Ratio

variable {num den : Nat}

/-- A quotient in units of a power of two, as integers are divided. -/
theorem scaled_quotient {α : Type} (num : Nat) (g : Nat → Nat → α) (φ : ℚ → α)
    (hg : ∀ n d, 0 < d → g n d = φ (n / d)) (hden : 0 < den) (q : Int) :
    (if 0 ≤ q then g num (den * 2 ^ q.toNat) else g (num * 2 ^ (-q).toNat) den) =
      φ (num / den / 2 ^ q) := by
  split_ifs with hq
  · obtain ⟨n, rfl⟩ := Int.eq_ofNat_of_zero_le hq
    rw [Int.toNat_natCast, hg _ _ (by positivity)]
    push_cast
    rw [zpow_natCast, div_div]
  · obtain ⟨n, hn⟩ := Int.eq_ofNat_of_zero_le (a := -q) (by omega)
    obtain rfl : q = -(n : Int) := by omega
    rw [neg_neg, Int.toNat_natCast, hg _ _ hden]
    push_cast
    rw [zpow_neg, zpow_natCast, div_inv_eq_mul, mul_div_right_comm]

theorem floor_lt_two_pow {r : ℚ} (hr : 0 < r) (q : Int) :
    ⌊r / 2 ^ q⌋₊ < 2 ^ 53 ↔ Int.log 2 r < 53 + q := by
  have hlog := Int.lt_zpow_iff_log_lt (R := ℚ) (b := 2) (by decide) (x := 53 + q) hr
  have hpow : ((2 : ℕ) : ℚ) ^ (53 + q) = 2 ^ 53 * 2 ^ q := by
    rw [Nat.cast_ofNat, zpow_add₀ two_ne_zero]
    norm_num
  rw [← hlog, hpow, ← div_lt_iff₀ (by positivity), Nat.floor_lt' (by decide)]
  norm_num

theorem log_quotient (hnum : num ≠ 0) (hden : 0 < den) :
    Int.log 2 (num / den : ℚ) = num.log2 - den.log2 - 1 ∨
      Int.log 2 (num / den : ℚ) = num.log2 - den.log2 := by
  have hn : (0 : ℚ) < num := by exact_mod_cast Nat.pos_of_ne_zero hnum
  have hd : (0 : ℚ) < den := by exact_mod_cast hden
  have hnlo : (2 : ℚ) ^ num.log2 ≤ num := by exact_mod_cast Nat.log2_self_le hnum
  have hnhi : (num : ℚ) < 2 ^ (num.log2 + 1) := by exact_mod_cast Nat.lt_log2_self
  have hdlo : (2 : ℚ) ^ den.log2 ≤ den := by exact_mod_cast Nat.log2_self_le hden.ne'
  have hdhi : (den : ℚ) < 2 ^ (den.log2 + 1) := by exact_mod_cast Nat.lt_log2_self
  have hlow : ((2 : ℕ) : ℚ) ^ ((num.log2 : Int) - den.log2 - 1) ≤ num / den := by
    rw [le_div_iff₀ hd, Nat.cast_ofNat]
    calc (2 : ℚ) ^ ((num.log2 : Int) - den.log2 - 1) * den
        ≤ 2 ^ ((num.log2 : Int) - den.log2 - 1) * 2 ^ (den.log2 + 1) := by gcongr
      _ = 2 ^ num.log2 := by
          rw [← zpow_natCast, ← zpow_natCast, ← zpow_add₀ two_ne_zero]
          congr 1
          push_cast
          ring
      _ ≤ num := hnlo
  have hhigh : (num / den : ℚ) < ((2 : ℕ) : ℚ) ^ ((num.log2 : Int) - den.log2 + 1) := by
    rw [div_lt_iff₀ hd, Nat.cast_ofNat]
    calc (num : ℚ) < 2 ^ (num.log2 + 1) := hnhi
      _ = 2 ^ ((num.log2 : Int) - den.log2 + 1) * 2 ^ den.log2 := by
          rw [← zpow_natCast, ← zpow_natCast, ← zpow_add₀ two_ne_zero]
          congr 1
          push_cast
          ring
      _ ≤ 2 ^ ((num.log2 : Int) - den.log2 + 1) * den := by gcongr
  have hpos : (0 : ℚ) < num / den := by positivity
  have hle := (Int.zpow_le_iff_le_log (by decide) hpos).mp hlow
  have hlt := (Int.lt_zpow_iff_log_lt (by decide) hpos).mp hhigh
  omega

/-- **Quotients are rounded to the nearest number.** -/
theorem ofRatio_eq_ofRat (negative : Bool) (num : Nat) (hden : 0 < den) :
    ofRatio negative num den = ofRat negative (num / den) := by
  obtain rfl | hnum := Nat.eq_zero_or_pos num
  · simp [ofRatio, ofRat]
  have hd : (0 : ℚ) < den := by exact_mod_cast hden
  have hn : (0 : ℚ) < num := by exact_mod_cast hnum
  have hpos : (0 : ℚ) < num / den := by positivity
  have hfits (q : Int) :
      (if 0 ≤ q then decide (num / (den * 2 ^ q.toNat) < 2 ^ 53)
        else decide (num * 2 ^ (-q).toNat / den < 2 ^ 53)) =
      decide (Int.log 2 (num / den : ℚ) < 53 + q) := by
    rw [scaled_quotient num (fun n d => decide (n / d < 2 ^ 53)) (fun r => decide (⌊r⌋₊ < 2 ^ 53))
      (fun n d _ => by rw [Nat.floor_div_eq_div]) hden q, decide_eq_decide]
    exact floor_lt_two_pow hpos q
  have hround := scaled_quotient num roundQuotient nearest
    (fun n d hd => roundQuotient_eq_nearest n hd) hden (lastPlace (num / den))
  have hplace : max (if Int.log 2 (num / den : ℚ) < 53 + ((num.log2 : Int) - den.log2 - 52 - 1)
        then (num.log2 : Int) - den.log2 - 52 - 1
        else if Int.log 2 (num / den : ℚ) < 53 + ((num.log2 : Int) - den.log2 - 52)
          then (num.log2 : Int) - den.log2 - 52 else (num.log2 : Int) - den.log2 - 52 + 1) (-1074) =
      lastPlace (num / den) := by
    rw [lastPlace]
    congr 1
    rcases log_quotient hnum.ne' hden with h | h <;> split_ifs <;> omega
  simp only [ofRatio, ofRat, hfits, decide_eq_true_eq, hplace, hround, hnum.ne', hpos.ne', if_false]

end Ratio

/-! ## The ends of the range -/

/-- A number is the nearest one to its own value. -/
theorem ofRat_of_parts {x : Binary64} {s : Bool} {m : Nat} {q : Int} (h : x.parts = .finite s m q) :
    ofRat s (m * 2 ^ q) = x := by
  obtain rfl | hm := Nat.eq_zero_or_pos m
  · rcases finite_cases h with ⟨-, -, rfl⟩ | ⟨hlo, -⟩
    · simp [ofRat]
    · omega
  have hmpos : (0 : ℚ) < m := by exact_mod_cast hm
  have hpos : (0 : ℚ) < m * 2 ^ q := by positivity
  have hlog (k : Int) : Int.log 2 (m * 2 ^ q : ℚ) < k ↔ (m : ℚ) < 2 ^ (k - q) := by
    rw [← Int.lt_zpow_iff_log_lt (by decide) hpos, zpow_sub₀ two_ne_zero,
      lt_div_iff₀ (by positivity), Nat.cast_ofNat]
  have hplace : lastPlace (m * 2 ^ q) = q := by
    rw [lastPlace]
    rcases finite_cases h with ⟨hm, rfl, -⟩ | ⟨hlo, hhi, hq, -⟩
    · have hlt : (m : ℚ) < 2 ^ ((-1022 : Int) - -1074) := by norm_num; exact_mod_cast hm
      have := (hlog _).mpr hlt
      omega
    · have hlt : (m : ℚ) < 2 ^ ((q + 53) - q) := by
        rw [add_sub_cancel_left]; norm_num; exact_mod_cast hhi
      have hnlt : ¬ (m : ℚ) < 2 ^ ((q + 52) - q) := by
        rw [add_sub_cancel_left, not_lt]; norm_num; exact_mod_cast hlo
      have h₁ := (hlog _).mpr hlt
      have h₂ := mt (hlog _).mp hnlt
      omega
  rw [ofRat, if_neg hpos.ne', hplace, mul_div_cancel_right₀ _ (by positivity), nearest_natCast,
    ofScaled_of_parts h]

theorem ofScaled_overflow (negative : Bool) {m : Nat} {q : Int} (hm : 2 ^ 52 ≤ m) (hq : 972 ≤ q) :
    ofScaled negative m q = infinity negative := by
  have hlt : ¬ m < 2 ^ 52 := by omega
  have hle : 2047 ≤ q + 1075 := by omega
  have hle' : 2047 ≤ q + 1 + 1075 := by omega
  rw [ofScaled]
  split_ifs with h
  · simp [hle']
  · simp [hlt, hle]

theorem ofRat_overflow (negative : Bool) {r : ℚ} (h : 2 ^ 1024 ≤ r) :
    ofRat negative r = infinity negative := by
  have hpos : 0 < r := lt_of_lt_of_le (by positivity) h
  have hlog : 1024 ≤ Int.log 2 r := by
    rw [← Int.zpow_le_iff_le_log (by decide) hpos]
    exact_mod_cast h
  have hplace : lastPlace r = Int.log 2 r - 52 := by rw [lastPlace]; omega
  have hle : ((2 ^ 52 : Nat) : ℚ) ≤ r / 2 ^ lastPlace r := by
    have hself := Int.zpow_log_le_self (b := 2) (by decide) hpos
    rw [hplace, le_div_iff₀ (by positivity)]
    calc ((2 ^ 52 : Nat) : ℚ) * 2 ^ (Int.log 2 r - 52) = 2 ^ Int.log 2 r := by
          rw [Nat.cast_pow, Nat.cast_ofNat, ← zpow_natCast, ← zpow_add₀ two_ne_zero]
          congr 1
          push_cast
          ring
      _ ≤ r := by exact_mod_cast hself
  rw [ofRat, if_neg hpos.ne', ofScaled_overflow _ (le_nearest hle) (by omega)]

theorem ofRat_underflow (negative : Bool) {r : ℚ} (h₀ : 0 < r) (h : r ≤ 2 ^ (-1075 : Int)) :
    ofRat negative r = ofFields negative 0 0 := by
  have hlog : Int.log 2 r < -1022 := by
    rw [← Int.lt_zpow_iff_log_lt (by decide) h₀, Nat.cast_ofNat]
    exact lt_of_le_of_lt h (zpow_lt_zpow_right₀ one_lt_two (by decide))
  have hplace : lastPlace r = -1074 := by rw [lastPlace]; omega
  have hhalf : 2 * (r / 2 ^ (-1074 : Int)) ≤ 1 := by
    rw [← mul_div_assoc, div_le_one (by positivity)]
    calc 2 * r ≤ 2 * 2 ^ (-1075 : Int) := by gcongr
      _ = 2 ^ (-1074 : Int) := by
          rw [← zpow_one_add₀ two_ne_zero]
          rfl
  rw [ofRat, if_neg h₀.ne', hplace, nearest_eq_zero (by positivity) hhalf]
  simp [ofScaled]

/-! ## Decimals -/

theorem ten_zpow_le {d : Nat} (hd : d ≠ 0) : (10 : ℚ) ^ ((digitCount d : Int) - 1) ≤ d := by
  obtain hlen | hlen := Nat.eq_or_lt_of_le (Nat.length_toDigits_pos (b := 10) (n := d))
  · have hone : (1 : ℚ) ≤ d := by exact_mod_cast Nat.pos_of_ne_zero hd
    rw [digitCount, ← hlen]
    simpa using hone
  · obtain ⟨k, hk⟩ : ∃ k, (Nat.toDigits 10 d).length = k + 2 := ⟨_, (Nat.sub_add_cancel hlen).symm⟩
    have hle : ¬ (Nat.toDigits 10 d).length ≤ k + 1 := by omega
    rw [Nat.length_toDigits_le_iff (by decide) (by omega)] at hle
    have hexp : ((digitCount d : Int) - 1) = (k + 1 : Nat) := by rw [digitCount, hk]; omega
    rw [hexp, zpow_natCast]
    exact_mod_cast not_lt.mp hle

theorem lt_ten_zpow (d : Nat) : (d : ℚ) < 10 ^ (digitCount d : Int) := by
  have := (Nat.length_toDigits_le_iff (n := d) (b := 10) (by decide)
    Nat.length_toDigits_pos).mp le_rfl
  rw [zpow_natCast]
  exact_mod_cast this

theorem two_pow_le_ten_pow {a b : Nat} (h : a ≤ 3 * b) : (2 : ℚ) ^ a ≤ 10 ^ b :=
  calc (2 : ℚ) ^ a ≤ 2 ^ (3 * b) := pow_le_pow_right₀ (by norm_num) h
    _ = (2 ^ 3) ^ b := pow_mul 2 3 b
    _ ≤ 10 ^ b := by gcongr; norm_num

/-- **Decimals are rounded to the nearest number.** -/
theorem ofDecimal_eq_ofRat (negative : Bool) (d : Nat) (k : Int) :
    ofDecimal negative d k = ofRat negative (d * 10 ^ k) := by
  obtain rfl | hd := Nat.eq_zero_or_pos d
  · simp [ofDecimal, ofRat]
  have hdpos : (0 : ℚ) < d := by exact_mod_cast hd
  have hpos : (0 : ℚ) < d * 10 ^ k := by positivity
  unfold ofDecimal
  rw [if_neg hd.ne']
  split_ifs with hbig hsmall hk
  · refine (ofRat_overflow _ ?_).symm
    calc (2 : ℚ) ^ 1024 ≤ 10 ^ 400 := two_pow_le_ten_pow (by decide)
      _ = 10 ^ ((400 : Nat) : Int) := (zpow_natCast _ _).symm
      _ ≤ 10 ^ ((digitCount d : Int) - 1 + k) := zpow_le_zpow_right₀ (by norm_num) (by omega)
      _ = 10 ^ ((digitCount d : Int) - 1) * 10 ^ k := zpow_add₀ (by norm_num) _ _
      _ ≤ d * 10 ^ k := by gcongr; exact ten_zpow_le hd.ne'
  · refine (ofRat_underflow _ hpos ?_).symm
    calc (d : ℚ) * 10 ^ k ≤ 10 ^ (digitCount d : Int) * 10 ^ k := by gcongr; exact (lt_ten_zpow d).le
      _ = 10 ^ ((digitCount d : Int) + k) := (zpow_add₀ (by norm_num) _ _).symm
      _ ≤ 10 ^ (-401 : Int) := zpow_le_zpow_right₀ (by norm_num) (by omega)
      _ ≤ 2 ^ (-1075 : Int) :=
          inv_anti₀ (by positivity) (two_pow_le_ten_pow (a := 1075) (b := 401) (by decide))
  · obtain ⟨n, rfl⟩ := Int.eq_ofNat_of_zero_le hk
    rw [ofRatio_eq_ofRat _ _ one_pos, Int.toNat_natCast]
    push_cast
    rw [zpow_natCast, div_one]
  · obtain ⟨n, hn⟩ := Int.eq_ofNat_of_zero_le (a := -k) (by omega)
    obtain rfl : k = -(n : Int) := by omega
    rw [neg_neg, Int.toNat_natCast, ofRatio_eq_ofRat _ _ (by positivity)]
    push_cast
    rw [zpow_neg, zpow_natCast, div_eq_mul_inv]

/-! ## Zero as a summand -/

section Zero

variable {x : Binary64} {s : Bool} {m : Nat} {q : Int}

theorem signedInt_zero (negative : Bool) : signedInt negative 0 = 0 := by cases negative <;> rfl

theorem natAbs_signedInt (negative : Bool) (n : Nat) : (signedInt negative n).natAbs = n := by
  cases negative <;> simp [signedInt]

theorem signedInt_neg_iff {n : Nat} (hn : n ≠ 0) : (decide (signedInt s n < 0)) = s := by
  cases s
  · simp [signedInt]
  · have : 0 < n := Nat.pos_of_ne_zero hn
    simpa [signedInt] using this

/-- The power of two of a zero, which is the least one. -/
theorem parts_zero (t : Bool) : ∃ p : Int, (ofFields t 0 0).parts = .finite t 0 p ∧ p < 0 ∧
    ∀ {x : Binary64} {s : Bool} {m : Nat} {q : Int}, x.parts = .finite s m q → p ≤ q := by
  refine ⟨-1074, parts_ofFields_zero (Nat.two_pow_pos 52), by decide, fun h => ?_⟩
  rcases finite_cases h with ⟨-, rfl, -⟩ | ⟨-, -, hq, -⟩
  · exact le_rfl
  · exact hq

/-- A finite number in units of a smaller power of two. -/
theorem ofRatio_units (h : x.parts = .finite s m q) (hm : m ≠ 0) {p : Int} (hp : p ≤ q)
    (h₀ : p < 0) :
    ofRatio (signedInt s (m * 2 ^ (q - p).toNat) < 0)
      (signedInt s (m * 2 ^ (q - p).toNat)).natAbs (2 ^ (-p).toNat) = x := by
  obtain ⟨k, hk⟩ := Int.eq_ofNat_of_zero_le (a := q - p) (by omega)
  obtain ⟨j, hj⟩ := Int.eq_ofNat_of_zero_le (a := -p) (by omega)
  obtain rfl : q = (k : Int) - j := by omega
  have hne : m * 2 ^ k ≠ 0 := Nat.mul_ne_zero hm (by positivity)
  rw [hk, hj, Int.toNat_natCast, Int.toNat_natCast, natAbs_signedInt, signedInt_neg_iff hne,
    ofRatio_eq_ofRat _ _ (by positivity), ← ofRat_of_parts h, zpow_sub₀ two_ne_zero, zpow_natCast,
    zpow_natCast]
  congr 1
  push_cast
  rw [mul_div_assoc]

theorem signedInt_ne_zero (hm : m ≠ 0) (k : Nat) : signedInt s (m * 2 ^ k) ≠ 0 := by
  rw [← Int.natAbs_ne_zero, natAbs_signedInt]
  exact Nat.mul_ne_zero hm (by positivity)

theorem add_zero (h : x.parts = .finite s m q) (hm : m ≠ 0) (t : Bool) :
    x.add (ofFields t 0 0) = x := by
  obtain ⟨p, hz, h₀, hle⟩ := parts_zero t
  have hp := hle h
  have hne := signedInt_ne_zero (s := s) hm (q - p).toNat
  simp only [add, h, hz, min_eq_right hp, Nat.zero_mul, signedInt_zero, Int.add_zero, if_neg hne,
    if_neg (not_le.mpr h₀)]
  exact ofRatio_units h hm hp h₀

theorem zero_add (h : x.parts = .finite s m q) (hm : m ≠ 0) (t : Bool) :
    (ofFields t 0 0).add x = x := by
  obtain ⟨p, hz, h₀, hle⟩ := parts_zero t
  have hp := hle h
  have hne := signedInt_ne_zero (s := s) hm (q - p).toNat
  simp only [add, h, hz, min_eq_left hp, Nat.zero_mul, signedInt_zero, Int.zero_add, if_neg hne,
    if_neg (not_le.mpr h₀)]
  exact ofRatio_units h hm hp h₀

theorem zero_add_zero (s t : Bool) :
    (ofFields s 0 0).add (ofFields t 0 0) = ofFields (s && t) 0 0 := by
  obtain ⟨p, hs, -⟩ := parts_zero s
  obtain ⟨r, ht, -⟩ := parts_zero t
  simp only [add, hs, ht, Nat.zero_mul, signedInt_zero, Int.add_zero, if_true]

end Zero

end Facade.Binary64
