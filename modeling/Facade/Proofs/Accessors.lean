import Facade.Proofs.Fields

/-!
# Accessors

A property of a generated class reads and writes a field of its object.

* `fieldIn`: the field in which an object of a class keeps something.
* `call_getter_eq`, `call_setter_eq_ok`: calls of the accessors of a property.
* `HasProperty`: reading the property reads the field, and assigning it writes the field.
-/

namespace Facade.Wrapper

open Run Execution Conversion Binding
open Syntax (Expr Stmt Param mangle)

variable {w w' b : World} {c m n x id : Nat} {cls s name : String} {fn : Function} {a r : Value}
  {es : List (String × Value)} {place : Expr}

/-! ## Accessors -/

/-- The field in which an object of a class keeps something of a name. -/
def fieldIn (cls name : String) : String := mangle (some cls) (fieldOf name)

theorem knows_ofCall (fn : Function) (body : List Stmt) (cls : String) (x : Nat)
    (tail : List (String × Value)) :
    Knows cls x (Frame.ofCall fn body (some cls) {} (("self", .instance x) :: tail)) :=
  ⟨rfl, rfl, fun _ => find_bound (mangle_self _) (by rw [Describe.given_cons, if_pos rfl])⟩

/-- The receiver of an accessor, as it is written. -/
abbrev accessorSelf : Param := Plan.receiver .positionalOrKeyword

/-- A call of a getter evaluates what it is about. -/
theorem call_getter_eq (hfn : w.function? id = some fn)
    (hf : MadeFunction c b m cls false [accessorSelf] [.returns (some place)] fn) :
    ∃ fr, Knows cls x fr ∧ ∀ n, (call (n + 3) (.function id) [.instance x] []).outcome w =
      (eval n fr place).outcome w := by
  have hparams := hf.params
  have hbound : bindArguments fn.params [.instance x] [] = .ok [("self", .instance x)] := by
    generalize fn.params = ps at hparams
    cases hparams with
    | @cons _ p _ _ hp hps =>
      cases hps
      have hname : p.name = "self" := hp.name.trans (mangle_self _)
      have hkind : p.kind = .positionalOrKeyword := hp.kind
      simp [bindArguments, bindFrom, hasKind, isPositional, surplus, isGivenByName, Except.map, hname,
        hkind]
  refine ⟨_, knows_ofCall fn [.returns (some place)] cls x [], fun n => ?_⟩
  rw [call_function hfn, hbound, outcome_bind, outcome_lift_ok, after_ok, if_neg (by rw [hf.isAsync]; simp),
    runFunction_returns hf.body]

/-- A getter reads what it is about. -/
theorem call_getter (hfn : w.function? id = some fn)
    (hf : MadeFunction c b m cls false [accessorSelf] [.returns (some place)] fn)
    (hread : ∀ fr, Knows cls x fr → ∀ n, (eval (n + 2) fr place).outcome w = (.ok a, w)) (n : Nat) :
    (call (n + 5) (.function id) [.instance x] []).outcome w = (.ok a, w) := by
  obtain ⟨fr, hfr, hcall⟩ := call_getter_eq (x := x) hfn hf
  rw [hcall (n + 2)]
  exact hread fr hfr n

/-- A call of a function that succeeds has run its body. -/
theorem call_code_eq_ok {body : List Stmt} {args : List Value} {kw : Keywords}
    (hfn : w.function? id = some fn) (hasync : fn.isAsync = false)
    (hbody : fn.body = .code body (some cls) {})
    (h : (call n (.function id) args kw).outcome w = (.ok r, w')) :
    ∃ bound j fr flow, bindArguments fn.params args kw = .ok bound ∧
      (runBlock (exec j) (Frame.ofCall fn body (some cls) {} bound) body).outcome w =
        (.ok (fr, flow), w') := by
  obtain _ | n := n
  · simp [call] at h
  rw [call_function hfn] at h
  obtain ⟨bound, w₁, hbound, hrun⟩ := bind_eq_ok h
  obtain ⟨hbinds, rfl⟩ := lift_eq_ok hbound
  rw [if_neg (by rw [hasync]; simp)] at hrun
  obtain _ | n := n
  · simp [runFunction] at hrun
  conv at hrun => lhs; unfold runFunction
  rw [hbody] at hrun
  dsimp only at hrun
  obtain ⟨⟨fr, flow⟩, w₂, hblock, hdone⟩ := bind_eq_ok hrun
  have hw : w₂ = w' := by cases flow <;> simpa using (Prod.mk.inj hdone).2
  exact ⟨bound, n, fr, flow, hbinds, hw ▸ hblock⟩

/-- The value that a setter is given, as it is written. -/
abbrev accessorValue (hint : Expr) : Param :=
  { kind := .positionalOrKeyword, name := "value", hint := some hint }

theorem mangle_value (cls : Option String) : mangle cls "value" = "value" :=
  Syntax.mangle_of_not_isPrivate cls (by decide)

/-- A setter knows its object and the value that it is given. -/
theorem bound_setter {hint : Expr} {body : List Stmt}
    (hf : MadeFunction c b m cls false [accessorSelf, accessorValue hint] body fn) :
    bindArguments fn.params [.instance x, a] [] = .ok [("self", .instance x), ("value", a)] := by
  have hparams := hf.params
  generalize fn.params = ps at hparams
  cases hparams with
  | @cons _ p _ _ hp hps =>
    cases hps with
    | @cons _ q _ _ hq hqs =>
      cases hqs
      have hname : p.name = "self" := hp.name.trans (mangle_self _)
      have hkind : p.kind = .positionalOrKeyword := hp.kind
      have hname' : q.name = "value" := hq.name.trans (mangle_value _)
      have hkind' : q.kind = .positionalOrKeyword := hq.kind
      simp [bindArguments, bindFrom, hasKind, isPositional, surplus, isGivenByName, Except.map,
        hname, hkind, hname', hkind']

/-- In a setter, the value is what it has been given. -/
theorem eval_value (body : List Stmt) (n : Nat) :
    (eval (n + 1) (Frame.ofCall fn body (some cls) {} [("self", .instance x), ("value", a)])
      (.name "value")).outcome w = (.ok a, w) := by
  rw [eval_name, (knows_ofCall fn body cls x [("value", a)]).privateTo, mangle_value,
    find_bound (mangle_value _) (v := a) (by simp [Describe.given]), outcome_lift_ok]

/-- A setter that succeeds has assigned what it is about. -/
theorem call_setter_eq_ok {hint : Expr} (hfn : w.function? id = some fn)
    (hf : MadeFunction c b m cls false [accessorSelf, accessorValue hint]
      [.assign [Plan.selfField name] (.name "value")] fn)
    (h : (call n (.function id) [.instance x, a] []).outcome w = (.ok r, w')) :
    ∃ j, (setAttr j (.instance x) (mangle (some cls) (fieldOf name)) a).outcome w = (.ok ⟨⟩, w') := by
  obtain ⟨bound, j, fr, flow, hbound, hblock⟩ := call_code_eq_ok hfn hf.isAsync hf.body h
  obtain rfl := Except.ok.inj ((bound_setter hf).symm.trans hbound)
  have hknows := knows_ofCall fn [.assign [Plan.selfField name] (.name "value")] cls x [("value", a)]
  obtain ⟨-, -, k, y, w₂, hy, hset⟩ := hknows.exec_assign_eq_ok (runBlock_singleton_eq_ok hblock)
  obtain _ | k := k
  · simp [eval] at hy
  rw [eval_value, Prod.mk.injEq, Except.ok.injEq] at hy
  obtain ⟨rfl, rfl⟩ := hy
  exact hset

/-! ## Properties -/

/-- A name can be the one of a field of an object. -/
structure Free (w : World) (x : Nat) (s : String) : Prop where
  isField : IsField w x s
  special : s ∉ specialFields

theorem Free.alters (h : Free w x s) (hw : Alters x es w w') : Free w' x s :=
  ⟨hw.isField h.isField, h.special⟩

/-- An object has a property that reads and writes a field. -/
structure HasProperty (cls : String) (x : Nat) (name : String) (w : World) : Prop where
  accessors : ∃ g s hint c b m fg fs,
    w.member? x (mangle (some cls) name) = some (.property (some (.function g)) (some (.function s))) ∧
    w.function? g = some fg ∧ w.function? s = some fs ∧
    MadeFunction c b m cls false [accessorSelf] [.returns (some (Plan.selfField name))] fg ∧
    MadeFunction c b m cls false
      [accessorSelf, accessorValue hint]
      [.assign [Plan.selfField name] (.name "value")] fs

namespace HasProperty

theorem alters (h : HasProperty cls x name w) (hw : Alters x es w w') :
    HasProperty cls x name w' := by
  obtain ⟨g, s, hint, c, b, m, fg, fs, hmember, hg, hs, hfg, hfs⟩ := h.accessors
  obtain ⟨home, hg'⟩ := hw.grows.function? hg
  obtain ⟨home', hs'⟩ := hw.grows.function? hs
  exact ⟨g, s, hint, c, b, m, _, _, (hw.members _).trans hmember, hg', hs',
    ⟨hfg.params, hfg.isAsync, hfg.globals, hfg.body⟩, ⟨hfs.params, hfs.isAsync, hfs.globals, hfs.body⟩⟩

/-- Reading the property reads the field. -/
theorem getAttr (h : HasProperty cls x name w) (hs : IsField w x (fieldIn cls name))
    (hv : w.field? x (fieldIn cls name) = some a) (n : Nat) :
    (getAttr (n + 6) (.instance x) (mangle (some cls) name)).outcome w = (.ok a, w) := by
  obtain ⟨g, s, hint, c, b, m, fg, fs, hmember, hg, -, hfg, -⟩ := h.accessors
  obtain ⟨i, hi, hfind⟩ := Option.bind_eq_some_iff.mp hmember
  rw [getAttr_property _ hi hfind]
  exact call_getter hg hfg (fun fr hfr n => hfr.eval_field hs hv n) n

/-- Assigning the property writes the field. -/
theorem alters_of_setAttr (h : HasProperty cls x name w)
    (hs : IsField w x (fieldIn cls name))
    (hspecial : fieldIn cls name ∉ specialFields)
    (hset : (setAttr n (.instance x) (mangle (some cls) name) a).outcome w = (.ok ⟨⟩, w')) :
    Alters x [(fieldIn cls name, a)] w w' := by
  obtain ⟨g, s, hint, c, b, m, fg, fs, hmember, -, hs', -, hfs⟩ := h.accessors
  obtain ⟨i, hi, hfind⟩ := Option.bind_eq_some_iff.mp hmember
  obtain _ | n := n
  · simp [setAttr] at hset
  rw [setAttr_property _ _ hi hfind] at hset
  obtain ⟨r, hcall⟩ := discard_eq_ok hset
  obtain ⟨j, hj⟩ := call_setter_eq_ok hs' hfs hcall
  exact (sets_of_setAttr hi hs hspecial hj).toAlters

end HasProperty

end Facade.Wrapper
