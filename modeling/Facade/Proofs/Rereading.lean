import Facade.Proofs.Defaults
import Facade.Proofs.Literals

/-!
# Defaults read back

The text of a default is read as an expression that gives the default again, unless it is a complex
number whose zeros have signs: its text is a sum or a negation, in which those get lost.

* `Value.reread`: what the text of a value gives; `Value.reread_eq_self_iff`: when that is the value;
  `Value.same_reread`: it equals the value in any case.
* `Execution.literalValue_reread`: what a literal gives; `Execution.eval_of_literalValue`: it gives it
  everywhere.
* `Execution.operandReads_cachedValue`: the text that fetches a value from the cache.
* `Execution.defaultExpr_rereads`: every default has a text, which gives what the default is read back
  as.
-/

namespace Facade

/-! ## Zeros -/

namespace Binary64

/-- The number, without its sign if it is a zero. -/
def unsignedZero (x : Binary64) : Binary64 := if x.isZero then ofInt 0 else x

section Zero

variable {x : Binary64}

theorem eq_of_isZero (h : x.isZero = true) : x = ofFields x.isNegative 0 0 := by
  have hx : x.bits.toNat % 2 ^ 63 = 0 := by simpa [isZero] using h
  have hb := x.bits.toNat_lt
  refine eq_of_toNat ?_
  rw [toNat_ofFields (by decide) (by decide), isNegative]
  simp only [decide_eq_true_eq]
  split_ifs <;> omega

theorem isZero_abs (x : Binary64) : x.abs.isZero = x.isZero := by
  rw [isZero, isZero, toNat_abs, Nat.mod_mod]

theorem parts_of_not_isZero (hx : x.isFinite = true) (h : x.isZero = false) :
    ∃ m q, m ≠ 0 ∧ x.parts = .finite x.isNegative m q := by
  obtain ⟨m, q, hparts⟩ := exists_parts hx
  refine ⟨m, q, ?_, hparts⟩
  rintro rfl
  obtain ⟨-, -, heq⟩ | ⟨hle, -⟩ := finite_cases hparts
  · rw [heq, isZero, toNat_ofFields (by decide) (by decide)] at h
    cases hs : x.isNegative <;> simp [hs] at h
  · simp at hle

theorem neg_ne_self (x : Binary64) : x.neg ≠ x := by
  intro h
  have hb := x.bits.toNat_lt
  have hx := toNat_neg x
  rw [h] at hx
  omega

theorem unsignedZero_eq_self_iff : x.unsignedZero = x ↔ (x.isZero && x.isNegative) = false := by
  unfold unsignedZero
  cases h : x.isZero with
  | false => simp
  | true =>
    rw [if_pos rfl, Bool.true_and]
    cases hs : x.isNegative with
    | false =>
      have hx := eq_of_isZero h
      rw [hs] at hx
      exact ⟨fun _ => rfl, fun _ => hx.symm⟩
    | true =>
      have hne : ofInt 0 ≠ x := by
        rintro rfl
        cases hs
      simpa using hne

theorem unsignedZero_add_zero (hx : x.isFinite = true) (t : Bool) :
    x.unsignedZero.add (ofFields t 0 0) = x.unsignedZero := by
  unfold unsignedZero
  cases h : x.isZero with
  | true => exact zero_add_zero false t
  | false =>
    obtain ⟨m, q, hm, hparts⟩ := parts_of_not_isZero hx h
    exact add_zero hparts hm t

theorem zero_add_eq_unsignedZero (hx : x.isFinite = true) : (ofInt 0).add x = x.unsignedZero := by
  unfold unsignedZero
  cases h : x.isZero with
  | true =>
    rw [eq_of_isZero h]
    exact zero_add_zero false _
  | false =>
    obtain ⟨m, q, hm, hparts⟩ := parts_of_not_isZero hx h
    exact zero_add hparts hm false

theorem wholeDecimal?_of_isZero (h : x.isZero = true) : x.wholeDecimal? = some 0 := by
  obtain ⟨p, hparts, -⟩ := parts_zero x.isNegative
  rw [← eq_of_isZero h] at hparts
  simp only [wholeDecimal?, hparts]

theorem ofInt_eq_ofRat (i : Int) : ofInt i = ofRat (decide (i < 0)) i.natAbs := by
  rw [ofInt, ofRatio_eq_ofRat _ _ Nat.one_pos, Nat.cast_one, div_one]

/-- A number that is laid out as an integer is nearest to it. -/
theorem ofInt_of_wholeDecimal? (hx : x.isFinite = true) {n : Nat} (h : x.wholeDecimal? = some n) :
    ofInt n = x.abs := by
  obtain ⟨d, hd⟩ := FloatStyle.part.exists_writes hx
  have hwhole : d.isWhole = true := by
    rw [hd.isWhole, h]
    rfl
  have hn : n = d.digits := by
    rw [hd.whole hwhole] at h
    exact (Option.some.inj h).symm
  have hpower : d.power = 0 := by
    simp only [Number.Numeral.isWhole, Bool.and_eq_true, Option.isNone_iff_eq_none] at hwhole
    simp [Number.Numeral.power, Number.Numeral.exponentVal, hwhole.1, hwhole.2]
  have hpos : decide ((d.digits : Int) < 0) = false := by simp
  rw [← hd.value, ofDecimal_eq_ofRat, hpower, ofInt_eq_ofRat, hn, hpos]
  simp

theorem ofInt_neg_of_wholeDecimal? (hx : x.isFinite = true) {n : Nat} (hn : n ≠ 0)
    (h : x.wholeDecimal? = some n) : ofInt (-n) = x.abs.neg := by
  have hneg : decide (-(n : Int) < 0) = true := by simpa using Nat.pos_of_ne_zero hn
  have hpos : decide ((n : Int) < 0) = false := by simp
  rw [← ofInt_of_wholeDecimal? hx h, ofInt_eq_ofRat, ofInt_eq_ofRat, hneg, hpos, ofRat_true,
    Int.natAbs_neg]

end Zero

section Equality

variable {x y : Binary64}

theorem isFinite_of_isZero (h : x.isZero = true) : x.isFinite = true := by
  have hx : x.bits.toNat % 2 ^ 63 = 0 := by simpa [isZero] using h
  rw [isFinite, bne_iff_ne]
  omega

/-- Finite numbers are equal if they are the same or both are zeros. -/
theorem numEq_of_isFinite (hx : x.isFinite = true) (hy : y.isFinite = true) :
    x.numEq y = (x == y || (x.isZero && y.isZero)) := by
  obtain ⟨m, q, hm⟩ := exists_parts hx
  obtain ⟨n, r, hn⟩ := exists_parts hy
  rw [numEq, hm, hn]

theorem numEq_self (hx : x.isFinite = true) : x.numEq x = true := by
  rw [numEq_of_isFinite hx hx, beq_self_eq_true, Bool.true_or]

theorem numEq_of_isZero (hx : x.isZero = true) (hy : y.isZero = true) : x.numEq y = true := by
  rw [numEq_of_isFinite (isFinite_of_isZero hx) (isFinite_of_isZero hy), hx, hy, Bool.and_true,
    Bool.or_true]

theorem numEq_unsignedZero (hx : x.isFinite = true) : x.numEq x.unsignedZero = true := by
  unfold unsignedZero
  cases hz : x.isZero with
  | false => exact numEq_self hx
  | true => exact numEq_of_isZero hz rfl

theorem isFinite_unsignedZero (hx : x.isFinite = true) : x.unsignedZero.isFinite = true := by
  unfold unsignedZero
  cases x.isZero with
  | false => exact hx
  | true => exact isFinite_of_isZero (x := ofInt 0) rfl

theorem isZero_neg (x : Binary64) : x.neg.isZero = x.isZero := by
  have hx := toNat_neg x
  have hb := x.bits.toNat_lt
  have hmod : (x.bits.toNat + 2 ^ 63) % 2 ^ 64 % 2 ^ 63 = x.bits.toNat % 2 ^ 63 := by omega
  rw [isZero, isZero, hx, hmod]

theorem toInt?_zero (h : x.isZero = true) : x.toInt? = some 0 := by
  rw [eq_of_isZero h]
  cases x.isNegative <;> decide +kernel

theorem toInt?_of_numEq (hx : x.isFinite = true) (hy : y.isFinite = true) (h : x.numEq y = true) :
    x.toInt? = y.toInt? := by
  rw [numEq_of_isFinite hx hy, Bool.or_eq_true, beq_iff_eq, Bool.and_eq_true] at h
  rcases h with rfl | ⟨hx, hy⟩
  · rfl
  · rw [toInt?_zero hx, toInt?_zero hy]

end Equality

end Binary64

/-! ## Values that are read back -/

namespace Value

/-- What the text of a value gives: the value, or what the parts of a finite complex number add up
to. -/
def reread : Value → Value
  | .complex re im =>
    if re.isFinite && im.isFinite then
      if re.isZero && !re.isNegative then .complex (if im.isNegative then re.neg else re) im
      else .complex re.unsignedZero im.unsignedZero
    else .complex re im
  | v => v

/-- Whether a text keeps the signs of a value: it has no real part that is a negative zero, none that
is a zero beside a negative imaginary part, and no imaginary part that is a negative zero. -/
def keepsSigns : Value → Bool
  | .complex re im =>
    !(re.isFinite && im.isFinite) ||
      if re.isZero then !re.isNegative && !im.isNegative else !(im.isZero && im.isNegative)
  | _ => true

/-- **A value is read back as itself exactly if its text keeps its signs.** -/
theorem reread_eq_self_iff (v : Value) : v.reread = v ↔ v.keepsSigns = true := by
  cases v with
  | complex re im =>
    rw [reread, keepsSigns]
    cases hfinite : re.isFinite && im.isFinite with
    | false => simp
    | true =>
      rw [if_pos rfl]
      cases hre : re.isZero with
      | false => cases him : im.isZero <;> simp [Binary64.unsignedZero_eq_self_iff, hre, him]
      | true =>
        cases hs : re.isNegative with
        | false => cases im.isNegative <;> simp [Binary64.neg_ne_self]
        | true => simp [Binary64.unsignedZero_eq_self_iff, hre, hs]
  | _ => exact ⟨fun _ => rfl, fun _ => rfl⟩

/-- **What a value is read back as equals it.** -/
theorem same_reread (v : Value) : v.reread = v ∨ v.same v.reread = true := by
  cases v with
  | complex re im =>
    by_cases hfinite : (re.isFinite && im.isFinite) = true
    · obtain ⟨hre, him⟩ := Bool.and_eq_true_iff.mp hfinite
      have both {x y : Binary64} (hfx : x.isFinite = true) (hx : re.numEq x = true)
          (hy : im.numEq y = true) : (Value.complex re im).same (.complex x y) = true := by
        have hi := Binary64.toInt?_of_numEq hre hfx hx
        unfold same
        simp only [toStr?, sameNumber, toInt?, hx, hy, hi, Bool.and_self]
        cases im.isZero <;> cases y.isZero <;> cases x.toInt? <;> simp
      refine .inr ?_
      rw [reread, if_pos hfinite]
      by_cases hzero : (re.isZero && !re.isNegative) = true
      · have hz := (Bool.and_eq_true_iff.mp hzero).1
        rw [if_pos hzero]
        cases im.isNegative with
        | false => exact both hre (Binary64.numEq_self hre) (Binary64.numEq_self him)
        | true =>
          have hneg : re.neg.isZero = true := by rw [Binary64.isZero_neg, hz]
          exact both (Binary64.isFinite_of_isZero hneg) (Binary64.numEq_of_isZero hz hneg)
            (Binary64.numEq_self him)
      · rw [if_neg hzero]
        exact both (Binary64.isFinite_unsignedZero hre) (Binary64.numEq_unsignedZero hre)
          (Binary64.numEq_unsignedZero him)
    · exact .inl (by rw [reread, if_neg hfinite])
  | _ => exact .inl rfl

end Value

namespace Execution

open Run Conversion
open Syntax (Expr mangle realPartExpr complexExpr)

/-! ## Literals -/

/-- A value is a real number of this size. -/
inductive IsReal : Value → Binary64 → Prop
  | int (i : Int) : IsReal (.int i) (.ofInt i)
  | float (x : Binary64) : IsReal (.float x) x

section Complex

variable {re im : Binary64}

theorem IsReal.sum {a : Value} {x : Binary64} (h : IsReal a x) (y z : Binary64) :
    a.binary? .add (.complex y z) = .ok (.complex (x.add y) ((Binary64.ofInt 0).add z)) := by
  cases h <;> rfl

theorem IsReal.difference {a : Value} {x : Binary64} (h : IsReal a x) (y z : Binary64) :
    a.binary? .sub (.complex y z) = .ok (.complex (x.add y.neg) ((Binary64.ofInt 0).add z.neg)) := by
  cases h <;> rfl

/-- The real part of a sum amounts to itself, less the sign of a zero. -/
theorem literalValue_realPartExpr (h : re.isFinite = true) :
    ∃ a, literalValue (realPartExpr re) = .ok a ∧ IsReal a re.unsignedZero := by
  cases hzero : re.isZero with
  | true =>
    have hwhole := Binary64.wholeDecimal?_of_isZero hzero
    refine ⟨.int 0, ?_, ?_⟩
    · rw [realPartExpr, hwhole]
      cases re.isNegative <;> rfl
    · rw [Binary64.unsignedZero, hzero]
      exact .int 0
  | false =>
    have hre : re.unsignedZero = re := by rw [Binary64.unsignedZero, hzero]; rfl
    rw [hre, realPartExpr]
    cases hwhole : re.wholeDecimal? with
    | none =>
      refine ⟨.float re, ?_, .float re⟩
      cases hs : re.isNegative with
      | false => exact congrArg (Except.ok ∘ Value.float) (Binary64.abs_of_nonneg hs)
      | true => exact congrArg (Except.ok ∘ Value.float) (Binary64.neg_abs hs)
    | some n =>
      cases hs : re.isNegative with
      | false =>
        have hn := Binary64.ofInt_of_wholeDecimal? h hwhole
        rw [Binary64.abs_of_nonneg hs] at hn
        exact ⟨.int n, rfl, hn ▸ .int n⟩
      | true =>
        have hn : n ≠ 0 := by
          rintro rfl
          have hzero' : re.isZero = true := by
            rw [← Binary64.isZero_abs, ← Binary64.ofInt_of_wholeDecimal? h hwhole]
            rfl
          rw [hzero] at hzero'
          cases hzero'
        have hneg := Binary64.ofInt_neg_of_wholeDecimal? h hn hwhole
        rw [Binary64.neg_abs hs] at hneg
        exact ⟨.int (-n), rfl, hneg ▸ .int (-n)⟩

/-- **A complex literal gives what the number is read back as.** -/
theorem literalValue_complexExpr (hre : re.isFinite = true) (him : im.isFinite = true) :
    literalValue (complexExpr re im) = .ok (Value.complex re im).reread := by
  have hfinite : (re.isFinite && im.isFinite) = true := by rw [hre, him]; rfl
  rw [Value.reread, if_pos hfinite, complexExpr]
  cases hpure : re.isZero && !re.isNegative with
  | true =>
    obtain ⟨hzero, hsign⟩ : re.isZero = true ∧ re.isNegative = false := by simpa using hpure
    have hre : re = .ofInt 0 := by
      rw [Binary64.eq_of_isZero hzero, hsign]
      rfl
    rw [if_pos rfl, if_pos rfl, hre]
    cases hs : im.isNegative with
    | false =>
      exact congrArg (fun x => Except.ok (Value.complex (.ofInt 0) x)) (Binary64.abs_of_nonneg hs)
    | true =>
      exact congrArg (fun x => Except.ok (Value.complex (Binary64.ofInt 0).neg x))
        (Binary64.neg_abs hs)
  | false =>
    obtain ⟨a, ha, hreal⟩ := literalValue_realPartExpr hre
    rw [if_neg Bool.false_ne_true, if_neg Bool.false_ne_true, literalValue, literalValue, ha]
    have hre' (t : Bool) := Binary64.unsignedZero_add_zero hre t
    have him' := Binary64.zero_add_eq_unsignedZero him
    cases hs : im.isNegative with
    | false =>
      have hsum := hreal.sum (.ofInt 0) im
      rw [show Binary64.ofInt 0 = .ofFields false 0 0 from rfl, hre'] at hsum
      rw [Binary64.abs_of_nonneg hs, ← him']
      exact hsum
    | true =>
      have hdifference := hreal.difference (.ofInt 0) im.abs
      rw [show (Binary64.ofInt 0).neg = .ofFields true 0 0 from (Binary64.ofFields_true 0 0).symm,
        hre', Binary64.neg_abs hs, him'] at hdifference
      exact hdifference

end Complex

/-- **A literal gives what its value is read back as.** -/
theorem literalValue_reread {v : Value} {e : Expr} (h : v.literal? = some e) :
    literalValue e = .ok v.reread := by
  by_cases hv : ∃ re im, v = .complex re im
  · obtain ⟨re, im, rfl⟩ := hv
    rw [Value.literal?] at h
    split at h
    · rename_i hx
      rw [Bool.and_eq_true] at hx
      obtain rfl := Option.some.inj h
      exact literalValue_complexExpr hx.1 hx.2
    · cases h
  · have hreread : v.reread = v := by
      unfold Value.reread
      split
      · exact absurd ⟨_, _, rfl⟩ hv
      · rfl
    rw [hreread]
    exact literalValue_literal? h fun re im heq => hv ⟨re, im, heq⟩

/-- What is no literal is read back as itself. -/
theorem Reread.eq_or_same {v x : Value} (h : Reread v x) : x = v ∨ v.same x = true := by
  rcases h with rfl | ⟨e, he, hx⟩
  · exact .inl rfl
  · rw [literalValue_reread he] at hx
    exact Except.ok.inj hx ▸ v.same_reread

theorem reread_of_literal?_none {v : Value} (h : v.literal? = none) : v.reread = v := by
  unfold Value.reread
  split
  · rename_i re im
    rw [Value.literal?] at h
    split at h
    · cases h
    · rename_i hx
      rw [if_neg hx]
  · rfl

theorem literalValue_unspelled (e : Expr) : literalValue e.unspelled = literalValue e := by
  induction e using literalValue.induct with
  | case4 t e ih => exact ih
  | case5 e _ _ _ h =>
    cases e with
    | spelled t e => exact absurd rfl (h t e)
    | _ => rfl
  | _ => rfl

/-- Constants and operators between them give their value in all frames and worlds. -/
theorem eval_of_literalValue (e : Expr) : ∀ {x : Value}, literalValue e = .ok x →
    ∃ k, ∀ n fr w, (eval (n + k) fr e).outcome w = (.ok x, w) := by
  induction e using literalValue.induct with
  | case1 c =>
    intro x h
    obtain rfl := Except.ok.inj h
    exact ⟨1, fun n fr w => eval_const c⟩
  | case2 op e ih =>
    intro x h
    cases hv : literalValue e with
    | error f => rw [literalValue, hv] at h; cases h
    | ok v =>
      have hx : Value.unary? op v = .ok x := by rwa [literalValue, hv] at h
      obtain ⟨k, hk⟩ := ih hv
      refine ⟨k + 1, fun n fr w => ?_⟩
      rw [← Nat.add_assoc, eval, Run.outcome_bind_of_ok (hk n fr w), hx]
      rfl
  | case3 op l r ihl ihr =>
    intro x h
    cases hl : literalValue l with
    | error f => rw [literalValue, hl] at h; cases h
    | ok a =>
      cases hr : literalValue r with
      | error f => rw [literalValue, hl, hr] at h; cases h
      | ok b =>
        have hx : Value.binary? op a b = .ok x := by rwa [literalValue, hl, hr] at h
        obtain ⟨j, hj⟩ := ihl hl
        obtain ⟨k, hk⟩ := ihr hr
        refine ⟨j + k + 1, fun n fr w => ?_⟩
        have hj' := hj (n + k) fr w
        have hk' := hk (n + j) fr w
        rw [show n + k + j = n + (j + k) by omega] at hj'
        rw [show n + j + k = n + (j + k) by omega] at hk'
        rw [← Nat.add_assoc, eval, Run.outcome_bind_of_ok hj', Run.outcome_bind_of_ok hk', hx]
        rfl
  | case4 t e ih =>
    intro x h
    obtain ⟨k, hk⟩ := ih h
    exact ⟨k + 1, fun n fr w => (eval_spelled t e).trans (hk n fr w)⟩
  | case5 e h₁ h₂ h₃ h₄ =>
    intro x h
    unfold literalValue at h
    split at h
    · exact absurd rfl (h₁ _)
    · exact absurd rfl (h₂ _ _)
    · exact absurd rfl (h₃ _ _ _)
    · exact absurd rfl (h₄ _ _)
    · cases h

/-! ## Fetched values -/

/-- **The text that fetches a value from the cache.** -/
theorem operandReads_cachedValue (u : Uuid) :
    Syntax.OperandReads ((cachedValue u).text .draft) (cachedValue u) := by
  have hget := (Syntax.operandReads_name (s := cacheGlobal) (by decide)).attribute (n := "get")
    (by decide)
  have harg : Syntax.ArgText ((Expr.const (.str u.render)).text .draft) {} { args := [.str u.render] } :=
    (Syntax.textReads_const rfl).argText rfl
  have htext : (cachedValue u).text .draft = cacheGlobal ++ "." ++ "get" ++ "(" ++
      ", ".intercalate [(Expr.const (.str u.render)).text .draft] ++ ")" := rfl
  rw [htext]
  exact hget.call (.cons harg (.nil _))

/-! ## Defaults -/

/-- The text of an expression is read as one that gives a value wherever the cache is at hand. -/
def TextGives (c : Nat) (w : World) (e : Expr) (x : Value) : Prop :=
  ∃ e', Syntax.readExpr (e.text .draft) = .ok e' ∧
    ∀ w' fr, w.Grows w' → fr.find w' cacheGlobal = .ok (.cache c) →
      ∃ k w'', ∀ n, (eval (n + k) fr e').outcome w' = (.ok x, w'')

theorem textGives_literal? {v : Value} {e : Expr} (h : v.literal? = some e) (c : Nat) (w : World) :
    TextGives c w e v.reread := by
  have hvalue := literalValue_reread h
  rw [← literalValue_unspelled] at hvalue
  obtain ⟨k, hk⟩ := eval_of_literalValue _ hvalue
  exact ⟨_, (Syntax.textReads_literal? h).readExpr, fun w' fr _ _ => ⟨k, w', fun n => hk n fr w'⟩⟩

theorem Fetched.textGives {c : Nat} {w : World} {v : Value} {e : Expr} (h : Fetched c w v e) :
    TextGives c w e v := by
  obtain ⟨u, rfl, hu, hv⟩ := h
  have hget (cls : Option String) : mangle cls "get" = "get" :=
    Syntax.mangle_of_not_isPrivate cls (by decide)
  exact ⟨_, (operandReads_cachedValue u).textReads.readExpr, fun w' fr hw hfind =>
    ⟨3, w'.looked c, eval_cachedValue hfind (hget _) hu (hw.entries c u v hv)⟩⟩

/-- **Every default has a text, and wherever the cache is at hand the text gives what the default is
read back as:** the default itself, unless it is a complex number whose text loses a sign. -/
theorem defaultExpr_rereads {p : Plan} {c : Nat} {w : World} (hp : p.cache = some c)
    (hc : c < w.caches.size) (hroom : (w.cache c).entries.size < 2 ^ 122) (v : Value) :
    (∃ e w', (p.defaultExpr v).outcome w = (.ok e, w') ∧ TextGives c w' e v.reread) ∧
      (v.reread = v ↔ v.keepsSigns = true) := by
  refine ⟨?_, v.reread_eq_self_iff⟩
  cases hlit : v.literal? with
  | some e =>
    refine ⟨e, w, ?_, textGives_literal? hlit c w⟩
    rw [Plan.defaultExpr, hlit]
    rfl
  | none =>
    obtain ⟨u, w', hadd, hadded⟩ := addValue_spec hc hroom v
    have hgives := hadded.fetched.textGives
    rw [← reread_of_literal?_none hlit] at hgives
    refine ⟨cachedValue u, w', ?_, hgives⟩
    rw [Plan.defaultExpr, hlit, hp]
    simp only [outcome_bind_of_ok hadd]
    rfl

theorem defaultExpr_rereads_unit : let w : World := { caches := #[{}] }
    (∃ e w', (Plan.defaultExpr { cache := some 0 } (.complex (.ofInt 1) (.ofInt 2))).outcome w =
        (.ok e, w') ∧ TextGives 0 w' e (Value.complex (.ofInt 1) (.ofInt 2)).reread) ∧
      ((Value.complex (.ofInt 1) (.ofInt 2)).reread = .complex (.ofInt 1) (.ofInt 2) ↔
        (Value.complex (.ofInt 1) (.ofInt 2)).keepsSigns = true) :=
  defaultExpr_rereads rfl (by decide) (by decide) _

/-- The default `-0 + 1j` is written `(-0+1j)`, which gives `0 + 1j`. -/
theorem negative_zero_lost : ∃ e w', (Plan.defaultExpr { cache := some 0 }
      (.complex (.ofFields true 0 0) (.ofInt 1))).outcome { caches := #[{}] } = (.ok e, w') ∧
    e.text .draft = "(-0+1j)" ∧ TextGives 0 w' e (.complex (.ofInt 0) (.ofInt 1)) ∧
    Value.complex (.ofInt 0) (.ofInt 1) ≠ .complex (.ofFields true 0 0) (.ofInt 1) := by
  refine ⟨complexExpr (.ofFields true 0 0) (.ofInt 1), _, rfl, ?_, ?_, ?_⟩
  · decide +kernel
  · exact textGives_literal? (v := .complex (.ofFields true 0 0) (.ofInt 1)) rfl 0 _
  · intro h
    cases (Value.complex.inj h).1

end Execution

end Facade
