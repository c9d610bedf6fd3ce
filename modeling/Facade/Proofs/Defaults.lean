import Facade.Proofs.Definitions
import Facade.Proofs.Growing
import Facade.Proofs.Identifiers
import Facade.Proofs.Names
import Facade.Proofs.Rounding
import Facade.Conversion.Plan

/-!
# Defaults in generated code

A default is written as a literal if it is one, and is fetched from the value cache otherwise.

* `literalValue`: what a literal reads as; `literalValue_literal?`: itself, unless it is a complex
  number, whose text is a sum.
* `Reread`: a value, and what stands for it when it is read again.
* `Fetched`, `Stored`: the expression of a cached value, of a default; `defaultExpr_spec`: each default
  gets one.
* `Enriched`, `Filled`: what writing expressions leaves behind.
* `eval_stored`: where the cache is at hand, the expression gives the default again.
-/

namespace Facade

/-- The world after a look-up in a cache that found its value. -/
def World.looked (w : World) (c : Nat) : World :=
  w.setCache c (Execution.countLookup (w.cache c) true)

namespace Execution

open Run Conversion
open Syntax (Expr mangle)

/-! ## Literals -/

/-- The value of an expression that consists of constants and operators. -/
def literalValue : Expr → Except Fault Value
  | .const c => .ok (constantValue c)
  | .unary op e => literalValue e >>= Value.unary? op
  | .binary op l r => do Value.binary? op (← literalValue l) (← literalValue r)
  | .spelled _ e => literalValue e
  | _ => .error .malformed

/-- Whether an expression consists of constants and operators. -/
def isConstant : Expr → Bool
  | .const _ => true
  | .unary _ e => isConstant e
  | .binary _ l r => isConstant l && isConstant r
  | .spelled _ e => isConstant e
  | _ => false

/-- Constants and operators have their value everywhere. -/
theorem eval_isConstant (e : Expr) : ∀ {n : Nat} {fr : Frame} {w w' : World} {x : Value},
    isConstant e = true → (eval n fr e).outcome w = (.ok x, w') →
      literalValue e = .ok x ∧ w' = w := by
  induction e using literalValue.induct with
  | case1 c =>
    intro n fr w w' x _ h
    obtain _ | n := n
    · simp [eval] at h
    rw [eval_const, Prod.mk.injEq, Except.ok.injEq] at h
    obtain ⟨rfl, rfl⟩ := h
    exact ⟨rfl, rfl⟩
  | case2 op e ih =>
    intro n fr w w' x hc h
    obtain _ | n := n
    · simp [eval] at h
    rw [eval] at h
    obtain ⟨v, w₁, hv, hx⟩ := bind_eq_ok h
    obtain ⟨hv, hw⟩ := ih hc hv
    obtain ⟨hx, hw'⟩ := lift_eq_ok hx
    exact ⟨by rw [literalValue, hv]; exact hx, hw'.trans hw⟩
  | case3 op l r ihl ihr =>
    intro n fr w w' x hc h
    rw [isConstant, Bool.and_eq_true] at hc
    obtain _ | n := n
    · simp [eval] at h
    rw [eval] at h
    obtain ⟨a, w₁, ha, h⟩ := bind_eq_ok h
    obtain ⟨b, w₂, hb, hx⟩ := bind_eq_ok h
    obtain ⟨ha, hw₁⟩ := ihl hc.1 ha
    obtain ⟨hb, hw₂⟩ := ihr hc.2 hb
    obtain ⟨hx, hw'⟩ := lift_eq_ok hx
    exact ⟨by rw [literalValue, ha, hb]; exact hx, (hw'.trans hw₂).trans hw₁⟩
  | case4 t e ih =>
    intro n fr w w' x hc h
    obtain _ | n := n
    · simp [eval] at h
    rw [eval_spelled] at h
    exact ih hc h
  | case5 e h₁ h₂ h₃ h₄ =>
    intro n fr w w' x hc h
    unfold isConstant at hc
    split at hc
    · exact absurd rfl (h₁ _)
    · exact absurd rfl (h₂ _ _)
    · exact absurd rfl (h₃ _ _ _)
    · exact absurd rfl (h₄ _ _)
    · cases hc

theorem isConstant_signed (b : Bool) (e : Expr) : isConstant (Syntax.signed b e) = isConstant e := by
  cases b <;> rfl

theorem isConstant_literal? {v : Value} {e : Expr} (h : v.literal? = some e) :
    isConstant e = true := by
  have real (x : Binary64) : isConstant (Syntax.realPartExpr x) = true := by
    rw [Syntax.realPartExpr, isConstant_signed]
    rfl
  unfold Value.literal? at h
  split at h
  · obtain rfl := Option.some.inj h; rfl
  · obtain rfl := Option.some.inj h; rfl
  · obtain rfl := Option.some.inj h; exact isConstant_signed _ _
  · split at h
    · obtain rfl := Option.some.inj h; exact isConstant_signed _ _
    · cases h
  · split at h
    · obtain rfl := Option.some.inj h
      unfold Syntax.complexExpr
      split
      · exact isConstant_signed _ _
      · rw [isConstant, isConstant, real]; rfl
    · cases h
  · obtain rfl := Option.some.inj h; rfl
  · obtain rfl := Option.some.inj h; rfl
  · cases h

/-- **A literal reads as the value it was written for,** unless that is a complex number. -/
theorem literalValue_literal? {v : Value} {e : Expr} (h : v.literal? = some e)
    (hv : ∀ re im, v ≠ .complex re im) : literalValue e = .ok v := by
  unfold Value.literal? at h
  split at h
  · obtain rfl := Option.some.inj h; rfl
  · rename_i b
    obtain rfl := Option.some.inj h; cases b <;> rfl
  · rename_i i
    obtain rfl := Option.some.inj h
    unfold Syntax.intExpr Syntax.signed
    split
    · rename_i hi
      have hi : i < 0 := by simpa using hi
      show Value.unary? .minus (.int i.natAbs) = .ok (.int i)
      simp only [Value.unary?, Value.minus?, Value.asInt?, Option.map_some, Option.elim_some]
      congr 2
      omega
    · rename_i hi
      have hi : 0 ≤ i := by simpa using hi
      show Except.ok (Value.int i.natAbs) = .ok (.int i)
      congr 2
      omega
  · rename_i x
    split at h
    · obtain rfl := Option.some.inj h
      unfold Syntax.realExpr Syntax.signed
      split
      · rename_i hx
        show Except.ok (Value.float x.abs.neg) = .ok (.float x)
        rw [Binary64.neg_abs hx]
      · rename_i hx
        show Except.ok (Value.float x.abs) = .ok (.float x)
        rw [Binary64.abs_of_nonneg (by simpa using hx)]
    · cases h
  · exact absurd rfl (hv _ _)
  · obtain rfl := Option.some.inj h; rfl
  · obtain rfl := Option.some.inj h; rfl
  · cases h

/-! ## Values that are read again -/

/-- A value, and what stands for it when it is read again: the same, or what its literal reads as. -/
def Reread (v x : Value) : Prop :=
  x = v ∨ ∃ e, v.literal? = some e ∧ literalValue e = .ok x

theorem Reread.refl (v : Value) : Reread v v := .inl rfl

/-- Only complex numbers can change when they are read again. -/
theorem Reread.eq {v x : Value} (h : Reread v x) (hv : ∀ re im, v ≠ .complex re im) : x = v := by
  rcases h with h | ⟨e, he, hx⟩
  · exact h
  · rw [literalValue_literal? he hv] at hx
    exact (Except.ok.inj hx).symm

/-! ## Defaults -/

/-- The expression that fetches a value from a cache. -/
def Fetched (c : Nat) (w : World) (v : Value) (e : Expr) : Prop :=
  ∃ u, e = cachedValue u ∧ Uuid.parse? u.render = some u ∧ (w.cache c).entries.get? u = some v

theorem Fetched.mono {c : Nat} {w w' : World} {v : Value} {e : Expr} (h : Fetched c w v e)
    (hw : w.Grows w') : Fetched c w' v e := by
  obtain ⟨u, he, hu, hv⟩ := h
  exact ⟨u, he, hu, hw.entries c u v hv⟩

/-- The expression of a default: a literal, or the identifier of a value in a cache. -/
def Stored (c : Nat) (w : World) (v : Value) (e : Expr) : Prop :=
  v.literal? = some e ∨ Fetched c w v e

theorem Stored.mono {c : Nat} {w w' : World} {v : Value} {e : Expr} (h : Stored c w v e)
    (hw : w.Grows w') : Stored c w' v e := h.imp_right fun h => h.mono hw

/-- Objects and cached values have been added; compilers are as they were. -/
structure Enriched (w w' : World) : Prop where
  extends_ : w.Extends w'
  compilers : w'.compilers = w.compilers
  size : w'.caches.size = w.caches.size

theorem Enriched.refl (w : World) : Enriched w w := ⟨.refl w, rfl, rfl⟩

theorem Enriched.trans {w w' w'' : World} (h : Enriched w w') (h' : Enriched w' w'') :
    Enriched w w'' :=
  ⟨h.extends_.trans h'.extends_, h'.compilers.trans h.compilers, h'.size.trans h.size⟩

theorem Enriched.grows {w w' : World} (h : Enriched w w') : w.Grows w' := h.extends_.grows

/-- Values have been put into caches. -/
structure Filled (w w' : World) : Prop extends Enriched w w' where
  objects : w'.objects = w.objects

theorem Filled.refl (w : World) : Filled w w := ⟨.refl w, rfl⟩

theorem Filled.trans {w w' w'' : World} (h : Filled w w') (h' : Filled w' w'') : Filled w w'' :=
  ⟨h.toEnriched.trans h'.toEnriched, h'.objects.trans h.objects⟩

theorem Added.filled {c : Nat} {w w' : World} {v : Value} {u : Uuid} (h : Added c v u w w') :
    Filled w w' where
  extends_ := ⟨fun i o ho => by rw [h.rest]; exact ho, by rw [h.rest], h.grows.entries,
    h.grows.caches⟩
  objects := by rw [h.rest]
  compilers := by rw [h.rest]
  size := h.size

theorem Added.fetched {c : Nat} {w w' : World} {v : Value} {u : Uuid} (h : Added c v u w w') :
    Fetched c w' v (cachedValue u) := ⟨u, rfl, h.readable, h.get?⟩

theorem defaultExpr_spec {p : Plan} {c : Nat} {w w' : World} {v : Value} {e : Expr}
    (hp : p.cache = some c) (hc : c < w.caches.size)
    (h : (p.defaultExpr v).outcome w = (.ok e, w')) :
    Stored c w' v e ∧ Filled w w' := by
  unfold Plan.defaultExpr at h
  cases hl : v.literal? with
  | some e' =>
    rw [hl] at h
    obtain ⟨rfl, rfl⟩ : e' = e ∧ w = w' := by simpa using h
    exact ⟨.inl hl, .refl w⟩
  | none =>
    rw [hl, hp] at h
    obtain ⟨u, w₁, hu, h⟩ := bind_eq_ok h
    obtain ⟨rfl, rfl⟩ : cachedValue u = e ∧ w₁ = w' := by simpa using h
    have hadded := addValue_eq_ok hc hu
    exact ⟨.inr hadded.fetched, hadded.filled⟩

/-! ## Fetching from the cache -/

theorem extends_looked (w : World) (c : Nat) : w.Extends (w.looked c) where
  objects _ _ h := h
  importable := rfl
  entries := (grows_countLookup (w := w) c true).entries
  caches := (grows_countLookup (w := w) c true).caches

theorem findValue_of_get? {c : Nat} {w : World} {u : Uuid} {v : Value}
    (hu : Uuid.parse? u.render = some u) (hv : (w.cache c).entries.get? u = some v) :
    (findValue c (.str u.render)).outcome w = (.ok v, w.looked c) := by
  unfold findValue
  simp only [identifierOf?, hu, outcome_get_bind, Option.bind_some, hv, Option.isSome_some]
  rfl

theorem evalItems_singleton (n : Nat) (fr : Frame) (w : World) (s : String) :
    (evalItems (n + 2) fr [Expr.str s]).outcome w = (.ok [.str s], w) := by
  rw [evalItems, List.mapM_cons, List.mapM_nil]
  simp only [outcome_bind, Expr.str, eval_const, after_ok, outcome_pure]
  rfl

theorem evalKeywords_nil (n : Nat) (fr : Frame) (w : World) :
    (evalKeywords (n + 1) fr []).outcome w = (.ok [], w) := by
  rw [evalKeywords]
  rfl

/-- **A cached value is fetched by the expression of its identifier.** -/
theorem eval_cachedValue {fr : Frame} {w : World} {c : Nat} {u : Uuid} {v : Value}
    (hfind : fr.find w cacheGlobal = .ok (.cache c)) (hget : mangle fr.privateTo "get" = "get")
    (hu : Uuid.parse? u.render = some u) (hv : (w.cache c).entries.get? u = some v) (n : Nat) :
    (eval (n + 3) fr (cachedValue u)).outcome w = (.ok v, w.looked c) := by
  have hf : (eval (n + 2) fr (.attribute (.name cacheGlobal) "get")).outcome w =
      (.ok (.native (.cacheGet c)), w) := by
    have hm : mangle fr.privateTo cacheGlobal = cacheGlobal := mangle_reservedName _ (by decide)
    rw [eval_attribute, outcome_bind, eval_name, hm, hfind, outcome_lift_ok, after_ok, hget,
      getAttr_cacheGet]
  rw [cachedValue, eval_call hf (by simp), outcome_bind, evalItems_singleton, after_ok, outcome_bind,
    evalKeywords_nil, after_ok, call_native]
  have hn : (callNative (n + 1) (.cacheGet c) [.str u.render] []).outcome w =
      (findValue c (.str u.render)).outcome w := by
    conv_lhs => unfold callNative
    rfl
  rw [hn, findValue_of_get? hu hv]

theorem eval_cachedValue_eq_ok {fr : Frame} {w w' : World} {c : Nat} {u : Uuid} {v x : Value}
    (hfind : fr.find w cacheGlobal = .ok (.cache c)) (hget : mangle fr.privateTo "get" = "get")
    (hu : Uuid.parse? u.render = some u) (hv : (w.cache c).entries.get? u = some v) {n : Nat}
    (h : (eval n fr (cachedValue u)).outcome w = (.ok x, w')) : x = v ∧ w' = w.looked c := by
  have hn : 3 ≤ n := by
    by_contra hlt
    obtain rfl | rfl | rfl : n = 0 ∨ n = 1 ∨ n = 2 := by omega
    · simp [eval] at h
    · simp [eval, cachedValue, outcome_bind] at h
    · simp [eval, cachedValue, outcome_bind] at h
  obtain ⟨k, rfl⟩ : ∃ k, n = k + 3 := ⟨n - 3, by omega⟩
  rw [eval_cachedValue hfind hget hu hv, Prod.mk.injEq, Except.ok.injEq] at h
  exact ⟨h.1.symm, h.2.symm⟩

/-- **Where the cache is at hand, the expression of a default gives it again.** -/
theorem eval_stored {fr : Frame} {w w' : World} {c : Nat} {v x : Value} {e : Expr}
    (hs : Stored c w v e) (hfind : ∀ u, e = cachedValue u → fr.find w cacheGlobal = .ok (.cache c))
    (hget : mangle fr.privateTo "get" = "get") {n : Nat}
    (h : (eval n fr e).outcome w = (.ok x, w')) : Reread v x ∧ w.Extends w' := by
  rcases hs with he | ⟨u, rfl, hu, hv⟩
  · obtain ⟨hx, rfl⟩ := eval_isConstant e (isConstant_literal? he) h
    exact ⟨.inr ⟨e, he, hx⟩, .refl w'⟩
  · obtain ⟨rfl, rfl⟩ := eval_cachedValue_eq_ok (hfind u rfl) hget hu hv h
    exact ⟨.refl _, extends_looked w c⟩

end Execution

end Facade
