import Facade.Proofs.Forwarding
import Facade.Proofs.Sharing
import Facade.Proofs.WrappedClass

/-!
# Hooks around calls

A method that passes its call on tells one hook before the call and another one after it. Both are told
about the instance that the call is made on, and about the method that it calls there.

* `notify`, `passedOn`, `hookedCall`: what a call of such a method does.
* `Wraps`: a wrapper holds an instance, and the cache is at hand for its methods.
* `Undisturbed`: the wrapper still holds its instance wherever the method looks for it.
* `runFunction_hooked`: running the body of such a method is a hooked call.
* `methodFrame_ofCall`, `callToEnd_eq`: a call of the method runs its body.
-/

namespace Facade.Wrapper

open Run Execution Conversion
open Syntax (Expr Stmt Param mangle)

/-! ## Hooked calls -/

/-- Tells a hook, if there is one, about a call. The hook and what it is told are looked up in a
cache. -/
def notify (n c : Nat) (hook : Option Value) (i told : Value) : Run Unit :=
  match hook with
  | none => pure ()
  | some h => do
    modify fun w => (w.looked c).looked c
    let _ ← call n h [i, told] []
    return ()

/-- Calls what an instance has under the name of a method, with the arguments that a frame gives. -/
def original (n : Nat) (fr : Frame) (m : ConvertedMethod) (i : Value) : Run Value := do
  let g ← getAttr (n + 2) i m.method.name
  let vs ← evalItems (n + 3) fr m.positionalArguments
  let ks ← evalKeywords (n + 3) fr m.namedArguments
  call (n + 3) g vs ks

/-- The call that a method passes on. -/
def passedOn (n : Nat) (fr : Frame) (m : ConvertedMethod) (i : Value) : Run Value :=
  if m.method.isAsync then original n fr m i >>= awaited (n + 4) else original (n + 1) fr m i

/-- A call between two hooks: **the first hook, the call, the second hook,** and each only if what comes
before it succeeds. -/
def hookedCall (n c : Nat) (hooks : Hooks) (fr : Frame) (m : ConvertedMethod) (i told : Value) :
    Run Value := do
  notify (n + 4) c hooks.before i told
  let r ← passedOn n fr m i
  notify (n + 4) c hooks.after i told
  return if m.method.returnsValue then r else .none

/-! ## Where methods run -/

/-- A frame that the body of a method runs in. -/
structure MethodFrame (m : Nat) (cls : String) (r : Value) (fr : Frame) : Prop where
  scope : fr.scope = .function
  globals : fr.globals = some m
  captured : fr.captured = {}
  privateTo : fr.privateTo = some cls
  receiver : "self" ∈ fr.ownNames ∧ fr.vars.get? "self" = some r
  cache : cacheGlobal ∉ fr.ownNames
  result : resultName ∈ fr.ownNames

/-- A frame after the outcome of a call has been kept. -/
def keepResult (fr : Frame) (r : Value) : Frame := { fr with vars := fr.vars.set resultName r }

/-- A wrapper holds an instance, and the cache is at hand in the module of its class. -/
structure Wraps (w : World) (c m x : Nat) (i : Value) : Prop where
  cache : ∃ info, w.module? m = some info ∧ info.globals.get? cacheGlobal = some (.cache c)
  holds : ∃ info, w.instance? x = some info ∧ info.attrs.get? instanceName = some i ∧
    ∀ g s, w.findMember? (w.linearisation info.cls.id) instanceName ≠ some (.property g s)

variable {w w₁ v : World} {c m n x : Nat} {cls : String} {fr : Frame} {i told self : Value}

theorem mangle_instanceName (cls : Option String) : mangle cls instanceName = instanceName :=
  Syntax.mangle_of_not_isPrivate cls (by decide)

theorem mangle_resultName (cls : Option String) : mangle cls resultName = resultName :=
  Syntax.mangle_of_not_isPrivate cls (by decide)

theorem Wraps.looked (h : Wraps w c m x i) (d : Nat) : Wraps (w.looked d) c m x i := ⟨h.cache, h.holds⟩

namespace MethodFrame

theorem find_self (h : MethodFrame m cls self fr) (w : World) :
    fr.find w (mangle fr.privateTo "self") = .ok self := by
  rw [mangle_reservedName _ (by decide), Frame.find, h.scope]
  simp [h.receiver.1, h.receiver.2]

theorem find_cache (h : MethodFrame m cls self fr) (hw : Wraps w c m x i) :
    fr.find w cacheGlobal = .ok (.cache c) := by
  obtain ⟨info, hm, hg⟩ := hw.cache
  rw [Frame.find, h.scope]
  simp [h.cache, h.captured, Frame.findGlobal, h.globals, hm, globalOf, hg]

theorem set_result (h : MethodFrame m cls self fr) (r : Value) :
    MethodFrame m cls self (keepResult fr r) :=
  ⟨h.scope, h.globals, h.captured, h.privateTo,
    ⟨h.receiver.1, by rw [keepResult, Table.get?_set_of_ne _ _ (by decide), h.receiver.2]⟩, h.cache,
    h.result⟩

theorem put_result (h : MethodFrame m cls self fr) (r : Value) :
    (fr.put (mangle fr.privateTo resultName) r).outcome w =
      (.ok (keepResult fr r), w) := by
  rw [mangle_resultName, Frame.put, keepResult]
  simp [h.scope, h.result]

theorem find_result (h : MethodFrame m cls self fr) (r : Value) (w : World) :
    (keepResult fr r).find w (mangle (keepResult fr r).privateTo resultName) =
      .ok r := by
  rw [mangle_resultName, keepResult, Frame.find, h.scope]
  simp [h.result]

/-- Inside a method, the instance is what the wrapper holds. -/
theorem eval_wrapped (h : MethodFrame m cls (.instance x) fr) (hw : Wraps w c m x i) (n : Nat) :
    (eval (n + 2) fr wrapped).outcome w = (.ok i, w) := by
  obtain ⟨info, hx, hi, hp⟩ := hw.holds
  rw [wrapped, eval_attribute, outcome_bind, eval_name, h.find_self, outcome_lift_ok, after_ok,
    mangle_instanceName, getAttr_instance instanceName hx hp hi]

end MethodFrame

/-! ## Statements of methods -/

/-- The arguments of a call are evaluated before it is made, unless it asks for what comes before a
class. -/
theorem eval_call_ne_super {f : Expr} {args : List Expr} {kws : List (Option String × Expr)}
    {g : Value} (hf : (eval n fr f).outcome w = (.ok g, w₁))
    (hg : ∀ k, g = .cls k → args ≠ [] ∨ k.id ≠ (Standard.named "super").id) :
    (eval (n + 1) fr (.call f args kws)).outcome w =
      (evalItems n fr args >>= fun vs => evalKeywords n fr kws >>= fun ks =>
        call n g vs ks).outcome w₁ := by
  by_cases hc : ∃ k, g = .cls k
  · obtain ⟨k, rfl⟩ := hc
    conv_lhs => unfold eval
    rw [outcome_bind_of_ok hf]
    cases args with
    | cons a as => rfl
    | nil =>
      cases kws with
      | cons b bs => rfl
      | nil =>
        obtain _ | n := n
        · simp [eval] at hf
        dsimp only
        rw [if_neg ((hg k rfl).resolve_left (by simp)), evalItems, List.mapM_nil, outcome_bind,
          outcome_pure_bind, outcome_pure, after_ok, outcome_bind, evalKeywords_nil, after_ok]
        rfl
  · exact eval_call hf fun k hk => hc ⟨k, hk⟩

/-- **A statement that calls a hook tells it about the instance and the method.** -/
theorem exec_effect (hfr : MethodFrame m cls (.instance x) fr) (hw : Wraps w c m x i) {h : Value}
    {he ie : Expr} (hh : Fetched c w h he) (hi : Fetched c w told ie) (n : Nat) :
    (exec (n + 6) fr (effect he [wrapped, ie])).outcome w =
      (notify (n + 4) c (some h) i told >>= fun _ => pure (fr, Flow.next)).outcome w := by
  have hhook : (eval (n + 4) fr he).outcome w = (.ok h, w.looked c) :=
    eval_fetched hh (hfr.find_cache hw) (n + 1)
  have hself : (eval (n + 3) fr (.attribute (.name "self") instanceName)).outcome (w.looked c) =
      (.ok i, w.looked c) := hfr.eval_wrapped (hw.looked c) (n + 1)
  have hinfo : (eval (n + 3) fr ie).outcome (w.looked c) = (.ok told, (w.looked c).looked c) :=
    eval_fetched (hi.mono (extends_looked w c).grows) (hfr.find_cache (hw.looked c)) n
  obtain ⟨f, as, ks, rfl⟩ : ∃ f as ks, ie = .call f as ks := by
    obtain ⟨u, rfl, -, -⟩ := hi
    exact ⟨_, _, _, rfl⟩
  have hargs : (evalItems (n + 4) fr [wrapped, .call f as ks]).outcome (w.looked c) =
      (.ok [i, told], (w.looked c).looked c) := by
    rw [evalItems, List.mapM_cons, List.mapM_cons, List.mapM_nil]
    simp only [wrapped, bind_assoc, pure_bind]
    rw [outcome_bind_of_ok hself, outcome_bind_of_ok hinfo]
    rfl
  have hcall : (eval (n + 5) fr (.call he [wrapped, .call f as ks] [])).outcome w =
      (call (n + 4) h [i, told] []).outcome ((w.looked c).looked c) := by
    rw [eval_call_ne_super hhook (fun _ _ => .inl (by simp)), outcome_bind_of_ok hargs,
      outcome_bind_of_ok (evalKeywords_nil _ _ _)]
  rw [effect, notify, bind_assoc, outcome_bind (modify _), outcome_modify, after_ok, bind_assoc]
  conv_lhs => unfold exec
  dsimp only
  rw [outcome_bind, hcall, outcome_bind]
  rfl

variable {l : MethodLayout} {hook : Option Value} {he : Option Expr} {rest : List Stmt}

/-- A hook is told before the statements that come after it. -/
theorem runBlock_hookCall (hfr : MethodFrame m cls (.instance x) fr) (hw : Wraps w c m x i)
    (hh : Option.Rel (Fetched c w) hook he)
    (hi : he.isSome = true → ∃ ie, l.info = some ie ∧ Fetched c w told ie) (n : Nat) :
    (runBlock (exec (n + 6)) fr (l.hookCall he ++ rest)).outcome w =
      (notify (n + 4) c hook i told >>= fun _ => runBlock (exec (n + 6)) fr rest).outcome w := by
  cases hh with
  | none => rfl
  | some hh =>
    obtain ⟨ie, hl, hie⟩ := hi rfl
    rw [MethodLayout.hookCall, hl]
    show (exec (n + 6) fr (effect _ [wrapped, ie]) >>= fun r => _).outcome w = _
    rw [outcome_bind, exec_effect hfr hw hh hie, outcome_bind, outcome_bind]
    cases (notify (n + 4) c (some _) i told).outcome w with
    | mk r w' => cases r <;> rfl

/-- A call whose function has no value has none either. -/
theorem eval_call_error {f : Expr} {args : List Expr} {kws : List (Option String × Expr)} {e : Failure}
    (hf : (eval n fr f).outcome w = (.error e, w₁)) :
    (eval (n + 1) fr (.call f args kws)).outcome w = (.error e, w₁) := by
  conv_lhs => unfold eval
  exact outcome_bind_of_error hf

/-- **The call that is passed on is made on the instance.** -/
theorem eval_forwarded (hfr : MethodFrame m cls (.instance x) fr) (hw : Wraps w c m x i)
    (hname : Syntax.isPrivate l.method.method.name.toList = false)
    (hg : ∀ j g w', (getAttr j i l.method.method.name).outcome w = (.ok g, w') →
      ∀ k, g = .cls k → k.id ≠ (Standard.named "super").id) (n : Nat) :
    (eval (n + 5) fr l.forwarded).outcome w = (passedOn n fr l.method i).outcome w := by
  have hcall (n : Nat) :
      (eval (n + 4) fr (l.method.callOf (.attribute wrapped l.method.method.name))).outcome w =
        (original n fr l.method i).outcome w := by
    have hcallee : (eval (n + 3) fr (.attribute wrapped l.method.method.name)).outcome w =
        (getAttr (n + 2) i l.method.method.name).outcome w := by
      rw [eval_attribute, outcome_bind_of_ok (hfr.eval_wrapped hw n),
        Syntax.mangle_of_not_isPrivate _ hname]
    rw [ConvertedMethod.callOf, original]
    cases hget : (getAttr (n + 2) i l.method.method.name).outcome w with
    | mk r w' =>
      cases r with
      | error e => rw [outcome_bind_of_error hget, eval_call_error (hcallee.trans hget)]
      | ok g =>
        rw [outcome_bind_of_ok hget,
          eval_call_ne_super (hcallee.trans hget) fun k hk => .inr (hg _ _ _ hget k hk)]
  rw [passedOn, MethodLayout.forwarded]
  split
  · rw [eval_await, outcome_bind, outcome_bind, hcall n]
  · exact hcall (n + 1)

/-- The outcome of the call is kept for the statements that come after it. -/
theorem runBlock_assign_result (hfr : MethodFrame m cls (.instance x) fr) {e : Expr} (n : Nat) :
    (runBlock (exec (n + 2)) fr (.assign [.name resultName] e :: rest)).outcome w =
      (eval (n + 1) fr e >>= fun r =>
        runBlock (exec (n + 2)) (keepResult fr r) rest).outcome w := by
  have hassign (r : Value) (w : World) : (assign (n + 1) fr (.name resultName) r).outcome w =
      (.ok (keepResult fr r), w) := by
    rw [assign, hfr.put_result]
  have hexec : (exec (n + 2) fr (.assign [.name resultName] e)).outcome w =
      (eval (n + 1) fr e >>= fun r =>
        pure ((keepResult fr r), Flow.next)).outcome w := by
    conv_lhs => unfold exec
    dsimp only
    rw [outcome_bind, outcome_bind]
    cases (eval (n + 1) fr e).outcome w with
    | mk v w' =>
      cases v with
      | error e => rfl
      | ok r =>
        rw [after_ok, after_ok, List.foldlM_cons, bind_assoc, outcome_bind_of_ok (hassign r w')]
        rfl
  show (exec (n + 2) fr (.assign [.name resultName] e) >>= fun r => _).outcome w = _
  rw [outcome_bind, hexec, outcome_bind, outcome_bind]
  cases (eval (n + 1) fr e).outcome w with
  | mk v w' => cases v <;> rfl

/-- What a method returns is the outcome of the call that it passed on, if it returns a value. -/
theorem runBlock_return (hfr : MethodFrame m cls (.instance x) fr) (r : Value) (returnsValue : Bool)
    (n : Nat) :
    (runBlock (exec (n + 2)) (keepResult fr r)
        (if returnsValue then [.returns (some (.name resultName))] else []) >>= fun out =>
      match out with
      | (_, .returned v) => pure v
      | _ => pure Value.none).outcome w = (.ok (if returnsValue then r else .none), w) := by
  cases returnsValue with
  | false => rfl
  | true =>
    have heval : (eval (n + 1) (keepResult fr r) (.name resultName)).outcome w =
        (.ok r, w) := by
      rw [eval_name, hfr.find_result, outcome_lift_ok]
    have hexec : (exec (n + 2) (keepResult fr r)
        (.returns (some (.name resultName)))).outcome w =
          (.ok ((keepResult fr r), Flow.returned r), w) := by
      conv_lhs => unfold exec
      dsimp only
      rw [outcome_bind_of_ok heval, outcome_pure]
    have hblock : (runBlock (exec (n + 2)) (keepResult fr r)
        [.returns (some (.name resultName))]).outcome w =
          (.ok ((keepResult fr r), Flow.returned r), w) :=
      outcome_bind_of_ok hexec
    rw [if_pos rfl, if_pos rfl, outcome_bind_of_ok hblock, outcome_pure]

/-! ## Running a method -/

/-- A wrapper is not disturbed by a call: it holds its instance when the call is passed on and when the
call has returned, and what is called is not the class that stands for the bases. -/
structure Undisturbed (n c m x : Nat) (hooks : Hooks) (fr : Frame) (q : ConvertedMethod)
    (i told : Value) (w : World) : Prop where
  first : Wraps w c m x i
  called : ∀ w₁, (notify (n + 4) c hooks.before i told).outcome w = (.ok ⟨⟩, w₁) → Wraps w₁ c m x i
  returned : ∀ w₁ r w₂, (notify (n + 4) c hooks.before i told).outcome w = (.ok ⟨⟩, w₁) →
    (passedOn n fr q i).outcome w₁ = (.ok r, w₂) → Wraps w₂ c m x i
  bound : ∀ w₁, (notify (n + 4) c hooks.before i told).outcome w = (.ok ⟨⟩, w₁) →
    ∀ j g w₂, (getAttr j i q.method.name).outcome w₁ = (.ok g, w₂) →
      ∀ k, g = .cls k → k.id ≠ (Standard.named "super").id

theorem grows_notify (h : (notify n c hook i told).outcome w = (.ok ⟨⟩, w₁)) : w.Grows w₁ := by
  have hlooked : w.Grows ((w.looked c).looked c) :=
    ((extends_looked w c).trans (extends_looked _ c)).grows
  cases hook with
  | none => exact (growsAt_pure (⟨⟩ : Unit) : (pure ⟨⟩ : Run Unit).GrowsAt w).of_ok h
  | some f =>
    rw [notify, outcome_bind, outcome_modify, after_ok] at h
    exact hlooked.trans ((((growing n).call f _ _ _).bind fun _ _ => growsAt_pure _).of_ok h)

theorem grows_passedOn {q : ConvertedMethod} {r : Value}
    (h : (passedOn n fr q i).outcome w = (.ok r, w₁)) : w.Grows w₁ := by
  have horiginal (n : Nat) (w : World) : (original n fr q i).GrowsAt w :=
    ((growing _).getAttr _ _ _).bind fun _ _ => ((growing _).evalItems _ _ _).bind fun _ _ =>
      ((growing _).evalKeywords _ _ _).bind fun _ _ => (growing _).call _ _ _ _
  refine GrowsAt.of_ok ?_ h
  unfold passedOn
  exact growsAt_ite (fun _ => (horiginal n w).bind fun _ _ => (growing _).awaited _ _)
    fun _ => horiginal (n + 1) w

/-- **Running the body of a method is a hooked call.** -/
theorem runFunction_hooked {f : Function} {cls' : Option String} {bound : List (String × Value)}
    {hooks : Hooks} {es : HookExprs} {p : Plan} {q : ConvertedMethod}
    (hf : f.body = .code (l.body es) cls' {})
    (hfr : MethodFrame m cls (.instance x) (Frame.ofCall f (l.body es) cls' {} bound))
    (hes : WritesHooks c w hooks es) (hl : WritesMethod c p es w q l)
    (hi : ∀ ie ∈ l.info, Fetched c w told ie)
    (hname : Syntax.isPrivate q.method.name.toList = false)
    (hw : Undisturbed n c m x hooks (Frame.ofCall f (l.body es) cls' {} bound) q i told w) :
    (runFunction (n + 7) f bound).outcome w =
      (hookedCall n c hooks (Frame.ofCall f (l.body es) cls' {} bound) q i told).outcome w := by
  obtain rfl := hl.method
  generalize hframe : Frame.ofCall f (l.body es) cls' {} bound = fr at hfr hw ⊢
  have hbody : l.body es = l.hookCall es.before ++ .assign [.name resultName] l.forwarded ::
      (l.hookCall es.after ++
        if l.method.method.returnsValue then [.returns (some (.name resultName))] else []) := by
    simp [MethodLayout.body]
  have htold (hany : (es.before.isSome || es.after.isSome) = true) {w' : World} (hw' : w.Grows w') :
      ∃ ie, l.info = some ie ∧ Fetched c w' told ie := by
    obtain ⟨v, hv, -, hrel⟩ := hl.info
    rw [hany] at hv
    cases hinfo : l.info with
    | none =>
      rw [hinfo] at hrel
      cases hrel
      cases hv
    | some ie => exact ⟨ie, rfl, (hi ie hinfo).mono hw'⟩
  conv_lhs => unfold runFunction
  rw [hf]
  dsimp only
  -- Each part of the body is one step of the hooked call, in the world that the part before it leaves.
  rw [hframe, hbody, outcome_bind, runBlock_hookCall hfr hw.first hes.before
    (fun h => htold (by rw [h]; rfl) (.refl w)), ← outcome_bind, bind_assoc, hookedCall, outcome_bind,
    outcome_bind]
  cases hnotify : (notify (n + 4) c hooks.before i told).outcome w with
  | mk r w₁ =>
    cases r with
    | error e => rfl
    | ok u =>
      have hw₁ := grows_notify hnotify
      rw [after_ok, after_ok, outcome_bind, runBlock_assign_result hfr, ← outcome_bind, bind_assoc,
        outcome_bind, eval_forwarded hfr (hw.called w₁ hnotify) hname (hw.bound w₁ hnotify),
        outcome_bind]
      cases hcall : (passedOn n fr l.method i).outcome w₁ with
      | mk r w₂ =>
        cases r with
        | error e => rfl
        | ok r =>
          have hw₂ := hw₁.trans (grows_passedOn hcall)
          rw [after_ok, after_ok, outcome_bind, runBlock_hookCall (hfr.set_result r)
            (hw.returned w₁ r w₂ hnotify hcall) (rel_imp (fun _ _ h => h.mono hw₂) hes.after)
            (fun h => htold (by rw [h, Bool.or_true]) hw₂), ← outcome_bind, bind_assoc, outcome_bind,
            outcome_bind]
          cases (notify (n + 4) c hooks.after i told).outcome w₂ with
          | mk a w₃ =>
            cases a with
            | error e => rfl
            | ok a => exact runBlock_return hfr r _ (n + 4)

/-! ## Calling a method -/

theorem boundNamesOf_append (as bs : List Stmt) :
    boundNamesOf (as ++ bs) = boundNamesOf as ++ boundNamesOf bs := by
  induction as with
  | nil => rfl
  | cons a as ih => rw [List.cons_append, boundNamesOf, boundNamesOf, ih, List.append_assoc]

theorem globalNamesOf_append (as bs : List Stmt) :
    globalNamesOf (as ++ bs) = globalNamesOf as ++ globalNamesOf bs := by
  induction as with
  | nil => rfl
  | cons a as ih => rw [List.cons_append, globalNamesOf, globalNamesOf, ih, List.append_assoc]

/-- The body of a method gives a value to nothing but the outcome of its call. -/
theorem names_body (l : MethodLayout) (es : HookExprs) :
    boundNamesOf (l.body es) = [resultName] ∧ globalNamesOf (l.body es) = [] := by
  have hhook (h : Option Expr) :
      boundNamesOf (l.hookCall h) = [] ∧ globalNamesOf (l.hookCall h) = [] := by
    cases h <;> exact ⟨rfl, rfl⟩
  have hreturn (b : Bool) :
      boundNamesOf (if b then [.returns (some (.name resultName))] else []) = [] ∧
        globalNamesOf (if b then [.returns (some (.name resultName))] else []) = [] := by
    cases b <;> exact ⟨rfl, rfl⟩
  rw [MethodLayout.body]
  simp only [boundNamesOf_append, globalNamesOf_append, hhook, hreturn, List.append_nil,
    List.nil_append]
  exact ⟨rfl, rfl⟩

/-- **A call of a method runs its body with the receiver in front.** -/
theorem methodFrame_ofCall {f : Function} {es : HookExprs} {kind : Syntax.ParamKind}
    {ps : List Param} {isAsync : Bool} {b : World} {args : List Value} {kw : Keywords}
    {bound : List (String × Value)}
    (hf : MadeFunction c b m cls isAsync (Plan.receiver kind :: ps) (l.body es) f)
    (hkind : kind = .positionalOnly ∨ kind = .positionalOrKeyword)
    (hps : ∀ r ∈ ps, r.name ∉ reservedNames)
    (hbound : bindArguments f.params (self :: args) kw = .ok bound) :
    MethodFrame m cls self (Frame.ofCall f (l.body es) (some cls) {} bound) := by
  have hmade := hf.params
  generalize hparams : f.params = params at hmade hbound
  cases hmade with
  | @cons _ p _ rest hp hrest =>
    have hself : p.name = "self" :=
      hp.name.trans (mangle_reservedName (some cls) (s := "self") (by decide))
    have hpositional : Binding.isPositional p = true := by
      rw [Binding.isPositional, hp.kind]
      rcases hkind with rfl | rfl <;> rfl
    have hnames := map_fst_bindArguments hbound
    obtain ⟨hfrom, -⟩ := Binding.bindArguments_eq_ok hbound
    rw [Binding.bindFrom_position hpositional] at hfrom
    split at hfrom
    · cases hfrom
    obtain ⟨tail, -, rfl⟩ := Binding.map_eq_ok hfrom
    have hown : ownNamesOf (((p.name, self) :: tail).map Prod.fst) (l.body es) =
        p.name :: rest.map Parameter.name ++ [resultName] := by
      rw [ownNamesOf, (names_body l es).1, (names_body l es).2, hnames]
      rfl
    have hmangled : mangle (some cls) "self" = "self" := mangle_reservedName _ (by decide)
    refine ⟨rfl, hf.globals, rfl, rfl, ⟨?_, ?_⟩, ?_, ?_⟩
    · rw [Frame.ofCall, hown, hself]
      exact List.mem_map.mpr ⟨"self", by simp, hmangled⟩
    · simp [Frame.ofCall, Table.get?, hself]
    · rw [Frame.ofCall, hown]
      intro hmem
      obtain ⟨y, hy, he⟩ := List.mem_map.mp hmem
      rw [List.cons_append, List.mem_cons, List.mem_append, List.mem_singleton] at hy
      rcases hy with rfl | hy | rfl
      · rw [hself, hmangled] at he
        exact absurd he (by decide)
      · obtain ⟨u, hu, rfl⟩ := List.mem_map.mp hy
        obtain ⟨r, hr, hru⟩ := exists_of_forall₂_right hrest hu
        rw [hru.name, Syntax.mangle_mangle] at he
        have hnot : mangle (some cls) r.name ∉ reservedNames := mangle_not_mem_reservedNames (hps r hr)
        rw [he] at hnot
        exact hnot (by decide)
      · rw [mangle_resultName] at he
        exact absurd he (by decide)
    · rw [Frame.ofCall, hown]
      exact List.mem_map.mpr ⟨resultName, by simp, mangle_resultName _⟩

/-- A call of a method to its end: a coroutine is awaited at once. -/
def callToEnd (n : Nat) (isAsync : Bool) (f : Value) (args : List Value) (kw : Keywords) :
    Run Value := do
  let r ← call (n + 2) f args kw
  if isAsync then awaited (n + 1) r else return r

theorem callToEnd_eq {f : Nat} {info : Function} (hf : w.function? f = some info) {args : List Value}
    {kw : Keywords} {bound : List (String × Value)}
    (hbound : bindArguments info.params (self :: args) kw = .ok bound) (n : Nat) :
    (callToEnd n info.isAsync (.bound self (.function f)) args kw).outcome w =
      (runFunction n info bound).outcome w := by
  rw [callToEnd, outcome_bind, call_method, call_function hf, outcome_bind, hbound, outcome_lift_ok,
    after_ok]
  cases info.isAsync with
  | false =>
    simp only [Bool.false_eq_true, if_false]
    cases (runFunction n info bound).outcome w with
    | mk r w' => cases r <;> rfl
  | true =>
    simp only [if_true, outcome_pure, after_ok]
    conv_lhs => unfold awaited
    dsimp only
    rw [outcome_get_bind, hf]

end Facade.Wrapper
