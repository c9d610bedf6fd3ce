import Facade.Proofs.Outcome

/-!
# Steps of the interpreter

What a call, an access or an expression does first, by the value or the expression that it is about.

* `call_function`, `call_method`, `call_partialCall`, `call_object`: calls of values.
* `getAttr_instance`, `setAttr_instance`: attributes of instances.
* `eval_name`, `eval_attribute`, `eval_call`: expressions.
-/

namespace Facade.Execution

open Run
open Syntax (Expr mangle)

variable {w : World} {n id : Nat} {args : List Value} {kw : Keywords} {fr : Frame}

attribute [local simp] call getAttr setAttr eval

/-! ## Calls -/

theorem call_function {info : Function} (hi : w.function? id = some info) :
    (call (n + 1) (.function id) args kw).outcome w =
      (lift (bindArguments info.params args kw) >>= fun bound =>
        if info.isAsync then pure (.coroutine id bound) else runFunction n info bound).outcome w := by
  simp [outcome_get_bind, hi]

theorem call_method (self : Value) :
    (call (n + 1) (.bound self (.function id)) args kw).outcome w =
      (call n (.function id) (self :: args) kw).outcome w := by
  simp [outcome_get_bind]

theorem call_partialCall (f : Value) (as : List Value) (ks : Keywords) :
    (call (n + 1) (.partialCall f as ks) args kw).outcome w =
      (call n f (as ++ args) (overrideKeywords ks kw)).outcome w := by
  simp [outcome_get_bind]

theorem call_class (c : Named) :
    (call (n + 1) (.cls c) args kw).outcome w = (construct n c args kw).outcome w := by
  simp [outcome_get_bind]

theorem call_native (m : Native) :
    (call (n + 1) (.native m) args kw).outcome w = (callNative n m args kw).outcome w := by
  simp [outcome_get_bind]

theorem call_object {info : InstanceInfo} {m : Value} (hi : w.instance? id = some info)
    (hm : w.findMember? (w.linearisation info.cls.id) "__call__" = some m) :
    (call (n + 1) (.instance id) args kw).outcome w =
      (call n (bindMember (.instance id) info.cls m) args kw).outcome w := by
  simp [outcome_get_bind, hi, hm]

theorem call_propertySetter (getter setter : Option Value) (f : Value) :
    (call (n + 1) (.bound (.property getter setter) (.native .propertySetter)) [f] kw).outcome w =
      (.ok (.property getter (some f)), w) := by
  conv_lhs => unfold call
  rfl

/-! ## Attributes -/

theorem getAttr_instance {info : InstanceInfo} (name : String) (hi : w.instance? id = some info)
    (hm : ∀ g s, w.findMember? (w.linearisation info.cls.id) name ≠ some (.property g s)) {v : Value}
    (hv : info.attrs.get? name = some v) :
    (getAttr (n + 1) (.instance id) name).outcome w = (.ok v, w) := by
  simp [outcome_get_bind, hi, hv, outcome_pure]

theorem getAttr_member {info : InstanceInfo} (name : String) (hi : w.instance? id = some info)
    (hv : info.attrs.get? name = none) {m : Value}
    (hm : w.findMember? (w.linearisation info.cls.id) name = some m)
    (hp : ∀ g s, m ≠ .property g s) :
    (getAttr (n + 1) (.instance id) name).outcome w =
      (.ok (bindMember (.instance id) info.cls m), w) := by
  simp [outcome_get_bind, hi, hv, hm]
  cases m <;> first | rfl | exact absurd rfl (hp _ _)

theorem getAttr_property {info : InstanceInfo} (name : String) (hi : w.instance? id = some info)
    {getter : Value} {setter : Option Value}
    (hm : w.findMember? (w.linearisation info.cls.id) name = some (.property (some getter) setter)) :
    (getAttr (n + 1) (.instance id) name).outcome w =
      (call n getter [.instance id] []).outcome w := by
  simp [outcome_get_bind, hi, hm]

theorem setAttr_property {info : InstanceInfo} (name : String) (x : Value)
    (hi : w.instance? id = some info) {getter : Option Value} {setter : Value}
    (hm : w.findMember? (w.linearisation info.cls.id) name = some (.property getter (some setter))) :
    (setAttr (n + 1) (.instance id) name x).outcome w =
      (discard (call n setter [.instance id, x] [])).outcome w := by
  simp [outcome_get_bind, hi, hm]

theorem setAttr_field {info : InstanceInfo} (name : String) (x : Value)
    (hi : w.instance? id = some info)
    (hm : ∀ g s, w.findMember? (w.linearisation info.cls.id) name ≠ some (.property g s)) :
    (setAttr (n + 1) (.instance id) name x).outcome w = (writeField w id info name x).outcome w := by
  simp [outcome_get_bind, hi]

theorem getAttr_cacheGet (c : Nat) :
    (getAttr (n + 1) (.cache c) "get").outcome w = (.ok (.native (.cacheGet c)), w) := by
  conv_lhs => unfold getAttr
  rfl

theorem getAttr_module {info : ModuleInfo} (name : String) (hi : w.module? id = some info) {v : Value}
    (hv : info.globals.get? name = some v) :
    (getAttr (n + 1) (.module id) name).outcome w = (.ok v, w) := by
  simp [outcome_get_bind, hi, hv, outcome_pure]

theorem getAttr_setter (getter setter : Option Value) :
    (getAttr (n + 1) (.property getter setter) "setter").outcome w =
      (.ok (.bound (.property getter setter) (.native .propertySetter)), w) := by
  conv_lhs => unfold getAttr
  rfl

/-! ## Expressions -/

theorem eval_name (x : String) :
    (eval (n + 1) fr (.name x)).outcome w = (lift (fr.find w (mangle fr.privateTo x))).outcome w := by
  conv_lhs => unfold eval
  rfl

theorem eval_const (c : Syntax.Constant) :
    (eval (n + 1) fr (.const c)).outcome w = (.ok (constantValue c), w) := by
  conv_lhs => unfold eval
  rfl

theorem eval_attribute (e : Expr) (x : String) :
    (eval (n + 1) fr (.attribute e x)).outcome w =
      (eval n fr e >>= fun v => getAttr n v (mangle fr.privateTo x)).outcome w := by
  conv_lhs => unfold eval

theorem eval_await (e : Expr) :
    (eval (n + 1) fr (.await e)).outcome w = (eval n fr e >>= awaited n).outcome w := by
  conv_lhs => unfold eval

theorem eval_spelled (t : String) (e : Expr) :
    (eval (n + 1) fr (.spelled t e)).outcome w = (eval n fr e).outcome w := by
  conv_lhs => unfold eval

/-- The arguments of a call are evaluated before it is made. -/
theorem eval_call {f : Expr} {args : List Expr} {kws : List (Option String × Expr)} {g : Value}
    {w₁ : World} (hf : (eval n fr f).outcome w = (.ok g, w₁)) (hg : ∀ c, g ≠ .cls c) :
    (eval (n + 1) fr (.call f args kws)).outcome w =
      (evalItems n fr args >>= fun vs => evalKeywords n fr kws >>= fun ks =>
        call n g vs ks).outcome w₁ := by
  conv_lhs => unfold eval
  rw [outcome_bind_of_ok hf]
  cases g <;> first | rfl | exact absurd rfl (hg _)

end Facade.Execution
