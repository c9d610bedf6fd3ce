import Facade.Proofs.Callables
import Facade.Proofs.Hooks
import Facade.Proofs.MethodTexts

/-!
# Forwarded calls

The method of a class around a callable consists of one statement: it fetches the callable from the cache
and calls it with what its parameters, or the fields of its object, hold.

* `Supplied`: what is passed on for a parameter is at hand in a frame.
* `evalItems_passed`, `evalKeywords_passed`: the arguments of a forwarded call.
* `eval_callOf`: the forwarded call is a call of what is cached.
* `runFunction_forwards`: running the body makes that call, to its end, and hands back what comes out.
* `find_bound`, `find_global`: what the body sees.
-/

namespace Facade.Wrapper

open Run Execution Conversion Binding
open Facade.Describe (MethodInfo)
open Syntax (Expr Stmt Param ParamKind mangle)

/-! ## The arguments of a forwarded call -/

/-- From some depth on, an expression has a value and leaves the world as it is. -/
def Supplies (d : Nat) (fr : Frame) (w : World) (e : Expr) (x : Value) : Prop :=
  ∀ n, d ≤ n → (eval n fr e).outcome w = (.ok x, w)

/-- What is passed on for a parameter is at hand. -/
structure Supplied (d : Nat) (fr : Frame) (w : World) (val : Parameter → Value) (p : Parameter)
    (q : ConvertedParameter) : Prop where
  name : q.parameter.name = p.name
  kind : q.parameter.kind = p.kind
  route : p.kind.isVariadic = true → q.route = .method
  value : Supplies d fr w q.expression (val p)

variable {d n : Nat} {fr : Frame} {w w₁ w' : World} {val : Parameter → Value} {p : Parameter}
  {ps : List Parameter} {q : ConvertedParameter} {qs : List ConvertedParameter} {left : Keywords}
  (i : MethodInfo)

/-- The values of one member of a list. -/
def evalItem (n : Nat) (fr : Frame) : Expr → Run (List Value)
  | .starred e => do lift (← eval n fr e).elements?
  | e => do return [← eval n fr e]

theorem evalItems_eq (n : Nat) (fr : Frame) (es : List Expr) :
    evalItems (n + 1) fr es = es.mapM (evalItem n fr) >>= fun parts => pure parts.flatten := by
  rw [evalItems]
  rfl

theorem evalItem_plain {e : Expr} (he : ∀ x, e ≠ .starred x) (n : Nat) (fr : Frame) :
    evalItem n fr e = do return [← eval n fr e] := by
  unfold evalItem
  split
  · exact absurd rfl (he _)
  · rfl

theorem Supplied.expression (h : Supplied d fr w val p q) (hv : p.kind.isVariadic = true) :
    q.expression = .name q.name := by
  rw [ConvertedParameter.expression, h.route hv]

/-- One parameter passes on by position what belongs to it. -/
theorem evalItem_passed (h : Supplied d fr w val p q)
    (hs : p.kind = .varPositional → ∃ vs, val p = .tuple vs) (hn : d ≤ n) :
    ∃ parts, ((ConvertedMethod.positionalArguments ⟨i, [q]⟩).mapM (evalItem n fr)).outcome w =
      (.ok parts, w) ∧ parts.flatten = passedPosition val p := by
  have hvalue := h.value n hn
  have hplain : (evalItem n fr q.expression).outcome w = (.ok [val p], w) := by
    have hne : ∀ x, q.expression ≠ .starred x := by
      unfold ConvertedParameter.expression
      cases q.route <;> simp
    rw [evalItem_plain hne, outcome_bind_of_ok hvalue]
    rfl
  have one {e : Expr} {vs : List Value} (he : (evalItem n fr e).outcome w = (.ok vs, w)) :
      ([e].mapM (evalItem n fr)).outcome w = (.ok [vs], w) := by
    rw [List.mapM_cons, outcome_bind_of_ok he]
    rfl
  unfold ConvertedMethod.positionalArguments passedPosition
  rw [List.filterMap_cons, List.filterMap_nil, h.kind]
  cases hk : p.kind with
  | positionalOnly | positionalOrKeyword => exact ⟨[[val p]], one hplain, rfl⟩
  | varPositional =>
    obtain ⟨vs, hvs⟩ := hs hk
    rw [h.expression (by rw [hk]; rfl), hvs] at hvalue
    have hstar : (evalItem n fr (.starred (.name q.name))).outcome w = (.ok vs, w) := by
      rw [evalItem, outcome_bind_of_ok hvalue]
      rfl
    exact ⟨[vs], one hstar, by rw [hvs, membersOf, List.flatten_singleton]⟩
  | keywordOnly | varKeyword => exact ⟨[], rfl, rfl⟩

/-- **The arguments by position** are those that the parameters pass on. -/
theorem evalItems_passed (h : List.Forall₂ (Supplied d fr w val) ps qs)
    (hs : ∀ p ∈ ps, p.kind = .varPositional → ∃ vs, val p = .tuple vs) (hn : d ≤ n) :
    (evalItems (n + 1) fr (ConvertedMethod.positionalArguments ⟨i, qs⟩)).outcome w =
      (.ok (passedPositions val ps), w) := by
  suffices hparts : ∃ parts, ((ConvertedMethod.positionalArguments ⟨i, qs⟩).mapM
      (evalItem n fr)).outcome w = (.ok parts, w) ∧ parts.flatten = passedPositions val ps by
    obtain ⟨parts, hparts, hflat⟩ := hparts
    rw [evalItems_eq, outcome_bind_of_ok hparts, hflat]
    rfl
  induction h with
  | nil => exact ⟨[], rfl, rfl⟩
  | @cons p q ps qs hq _ ih =>
    obtain ⟨parts, hparts, hflat⟩ := ih fun r hr => hs r (List.mem_cons_of_mem p hr)
    obtain ⟨first, hfirst, hflat'⟩ := evalItem_passed i hq (hs p List.mem_cons_self) hn
    refine ⟨first ++ parts, ?_, by
      rw [List.flatten_append, hflat, hflat', passedPositions, passedPositions, List.flatMap_cons]⟩
    rw [positionalArguments_cons, List.mapM_append, outcome_bind_of_ok hfirst,
      outcome_bind_of_ok hparts]
    rfl

/-! ### By name -/

/-- Adds what one argument by name stands for. -/
def addArgument (n : Nat) (fr : Frame) (acc : Keywords) (k : Option String × Expr) :
    Run Keywords := do
  let v ← eval n fr k.2
  match k.1 with
  | some name => lift (addKeywords acc [(name, v)])
  | none => lift (keywordsOf v >>= addKeywords acc)

theorem evalKeywords_eq (n : Nat) (fr : Frame) (ks : List (Option String × Expr)) :
    evalKeywords (n + 1) fr ks = ks.foldlM (addArgument n fr) [] := by
  rw [evalKeywords]
  rfl

theorem keywordsOf_dictOfNames (ks : Keywords) : keywordsOf (Value.dictOfNames ks) = .ok ks := by
  rw [Value.dictOfNames, keywordsOf]
  induction ks with
  | nil => rfl
  | cons k ks ih =>
    rw [List.map_cons, List.mapM_cons, ih]
    rfl

theorem addKeywords_append (ks js js' : Keywords) :
    addKeywords ks (js ++ js') = addKeywords ks js >>= fun acc => addKeywords acc js' := by
  rw [addKeywords, List.foldlM_append]
  rfl

/-- What a parameter passes on by name. -/
def passedName (val : Parameter → Value) (left : Keywords) (p : Parameter) : Keywords :=
  match p.kind with
  | .keywordOnly => [(p.name, val p)]
  | .varKeyword => left
  | _ => []

/-- One parameter passes on by name what belongs to it. -/
theorem addArgument_passed (h : Supplied d fr w val p q)
    (hl : p.kind = .varKeyword → val p = Value.dictOfNames left) (hn : d ≤ n) (acc : Keywords) :
    ((ConvertedMethod.namedArguments ⟨i, [q]⟩).foldlM (addArgument n fr) acc).outcome w =
      (lift (addKeywords acc (passedName val left p))).outcome w := by
  have hvalue := h.value n hn
  unfold ConvertedMethod.namedArguments passedName
  rw [List.filterMap_cons, List.filterMap_nil, h.kind, h.name]
  have one {k : Option String × Expr} {r : Except Fault Keywords}
      (hk : (addArgument n fr acc k).outcome w = (lift r).outcome w) :
      ([k].foldlM (addArgument n fr) acc).outcome w = (lift r).outcome w := by
    rw [List.foldlM_cons, outcome_bind, hk]
    cases r <;> rfl
  cases hk : p.kind with
  | positionalOnly | positionalOrKeyword | varPositional => rfl
  | keywordOnly => exact one (by rw [addArgument, outcome_bind_of_ok hvalue])
  | varKeyword =>
    rw [h.expression (by rw [hk]; rfl), hl hk] at hvalue
    refine one ?_
    rw [addArgument, outcome_bind_of_ok hvalue, keywordsOf_dictOfNames]
    rfl

theorem flatMap_passedName (hl : ps.Pairwise Precedes)
    (hleft : hasKind .varKeyword ps = false → left = []) :
    ps.flatMap (passedName val left) = passedNames val ps ++ left := by
  induction ps with
  | nil => exact (hleft rfl).symm
  | cons p ps ih =>
    obtain ⟨hp, htail⟩ := List.pairwise_cons.mp hl
    rw [List.flatMap_cons, passedNames_cons]
    by_cases hk : p.kind = .varKeyword
    · -- Nothing comes after the parameter that takes the surplus of names.
      obtain rfl : ps = [] := List.eq_nil_iff_forall_not_mem.mpr fun r hr => by
        have hlt := (hp r hr).2 (by rw [hk]; rfl)
        rw [hk] at hlt
        cases hr : r.kind <;> simp [hr, rank] at hlt
      simp [passedName, hk, passedNames]
    · have hrest := ih htail fun h => hleft (by
        rw [hasKind, List.any_cons, ← hasKind, h, Bool.or_false]
        exact decide_eq_false hk)
      rw [hrest, ← List.append_assoc]
      congr 1
      unfold passedName
      cases hk' : p.kind with
      | varKeyword => exact absurd hk' hk
      | positionalOnly | positionalOrKeyword | varPositional | keywordOnly => rfl

/-- **The arguments by name** are those that the parameters pass on, and the surplus. -/
theorem evalKeywords_passed (hps : ps.Pairwise Precedes) (h : List.Forall₂ (Supplied d fr w val) ps qs)
    (hl : ∀ p ∈ ps, p.kind = .varKeyword → val p = Value.dictOfNames left)
    (hleft : hasKind .varKeyword ps = false → left = []) (hn : d ≤ n) :
    (evalKeywords (n + 1) fr (ConvertedMethod.namedArguments ⟨i, qs⟩)).outcome w =
      (lift (addKeywords [] (passedNames val ps ++ left))).outcome w := by
  rw [evalKeywords_eq, ← flatMap_passedName hps hleft]
  clear hleft hps
  generalize ([] : Keywords) = acc
  induction h generalizing acc with
  | nil => rfl
  | @cons p q ps qs hq _ ih =>
    rw [namedArguments_cons, List.foldlM_append, outcome_bind,
      addArgument_passed i hq (hl p List.mem_cons_self) hn, List.flatMap_cons, addKeywords_append]
    cases addKeywords acc (passedName val left p) with
    | error e => rfl
    | ok acc' => exact ih (fun r hr => hl r (List.mem_cons_of_mem p hr)) acc'

/-! ## The call -/

variable {c : Nat} {u : Uuid} {f : Value}

/-- **A forwarded call** is a call of what is cached, with what the parameters pass on. -/
theorem eval_callOf (hcache : fr.find w cacheGlobal = .ok (.cache c))
    (hu : Uuid.parse? u.render = some u) (hf : (w.cache c).entries.get? u = some f)
    (hne : ∀ k, f = .cls k → k.id ≠ (Standard.named "super").id) (hps : ps.Pairwise Precedes)
    (h : List.Forall₂ (Supplied d fr (w.looked c) val) ps qs)
    (hs : ∀ p ∈ ps, p.kind = .varPositional → ∃ vs, val p = .tuple vs)
    (hl : ∀ p ∈ ps, p.kind = .varKeyword → val p = Value.dictOfNames left)
    (hleft : hasKind .varKeyword ps = false → left = []) (hd : d ≤ n) (hn : 2 ≤ n) :
    (eval (n + 2) fr (ConvertedMethod.callOf ⟨i, qs⟩ (cachedValue u))).outcome w =
      (lift (addKeywords [] (passedNames val ps ++ left)) >>= fun ks =>
        call (n + 1) f (passedPositions val ps) ks).outcome (w.looked c) := by
  obtain ⟨k, rfl⟩ := Nat.exists_eq_add_of_le' hn
  have hcallee : (eval (k + 3) fr (cachedValue u)).outcome w = (.ok f, w.looked c) :=
    eval_cachedValue hcache (mangle_get _) hu hf k
  rw [ConvertedMethod.callOf, eval_call_ne_super hcallee fun k hk => .inr (hne k hk),
    outcome_bind_of_ok (evalItems_passed i h hs hd), outcome_bind,
    evalKeywords_passed i hps h hl hleft hd, ← outcome_bind]

/-- Marking a value as one of a type leaves it as it is. -/
theorem eval_cast {t : Nat} {info : ModuleInfo} (hfind : fr.find w typingAlias = .ok (.module t))
    (ht : w.module? t = some info) (hcast : info.globals.get? "cast" = some (.native .cast))
    (text : String) {e : Expr} (he : ∀ x, e ≠ .starred x) (n : Nat) :
    (eval (n + 3) fr (.call (.attribute (.name typingAlias) "cast") [Expr.str text, e] [])).outcome w =
      (eval (n + 1) fr e).outcome w := by
  have hcallee : (eval (n + 2) fr (.attribute (.name typingAlias) "cast")).outcome w =
      (.ok (.native .cast), w) := by
    have hcast' : mangle fr.privateTo "cast" = "cast" := Syntax.mangle_of_not_isPrivate _ (by decide)
    have htyping : mangle fr.privateTo typingAlias = typingAlias := mangle_reservedName _ (by decide)
    rw [eval_attribute, outcome_bind, eval_name, htyping, hfind, outcome_lift_ok, after_ok, hcast',
      getAttr_module _ ht hcast]
  have htext : (evalItem (n + 1) fr (Expr.str text)).outcome w = (.ok [.str text], w) := by
    rw [evalItem_plain (by simp [Expr.str]), Expr.str, outcome_bind, eval_const]
    rfl
  have hcall (r : Value) (w : World) :
      (call (n + 2) (.native .cast) [.str text, r] []).outcome w = (.ok r, w) := by
    rw [call_native]
    conv_lhs => unfold callNative
    rfl
  rw [eval_call hcallee (by simp), evalItems_eq, List.mapM_cons, List.mapM_cons, List.mapM_nil,
    evalItem_plain he]
  simp only [bind_assoc, pure_bind]
  rw [outcome_bind_of_ok htext, outcome_bind]
  cases (eval (n + 1) fr e).outcome w with
  | mk r w' =>
    cases r with
    | error e => rfl
    | ok r => exact (outcome_bind_of_ok (evalKeywords_nil _ _ _)).trans (hcall r w')

/-! ## The body of the method -/

/-- A call to its end: what a coroutine has left is run at once. -/
def callOut (n : Nat) (isAsync : Bool) (f : Value) (args : List Value) (kw : Keywords) : Run Value :=
  call n f args kw >>= fun r => if isAsync then awaited (n + 1) r else pure r

/-- What a method gives back of what it has called: nothing if it is to have no result. -/
def handBack (i : MethodInfo) (r : Value) : Value := if i.returnsValue then r else .none

/-- How much deeper than the call the body of its method lies. -/
def bodyDepth (i : MethodInfo) : Nat :=
  (if i.isAsync then 2 else 1) + if i.returns.isSome && i.returnsValue then 4 else 2

/-- A body of one statement that returns a value. -/
theorem runFunction_returns {fn : Function} {e : Expr} {cls : Option String}
    {captured : Table String Value} {bound : List (String × Value)}
    (hf : fn.body = .code [.returns (some e)] cls captured) (n : Nat) :
    (runFunction (n + 2) fn bound).outcome w =
      (eval n (Frame.ofCall fn [.returns (some e)] cls captured bound) e).outcome w := by
  conv_lhs => unfold runFunction
  rw [hf]
  dsimp only
  rw [runBlock]
  conv_lhs => unfold exec
  simp only [bind_assoc, pure_bind]
  rw [outcome_bind]
  cases (eval n (Frame.ofCall fn [.returns (some e)] cls captured bound) e).outcome w with
  | mk r w' => cases r <;> rfl

/-- A body of one statement that drops a value. -/
theorem runFunction_drops {fn : Function} {e : Expr} {cls : Option String}
    {captured : Table String Value} {bound : List (String × Value)}
    (hf : fn.body = .code [.expr e] cls captured) (n : Nat) :
    (runFunction (n + 2) fn bound).outcome w =
      (eval n (Frame.ofCall fn [.expr e] cls captured bound) e >>= fun _ =>
        pure Value.none).outcome w := by
  conv_lhs => unfold runFunction
  rw [hf]
  dsimp only
  rw [runBlock]
  conv_lhs => unfold exec
  simp only [bind_assoc, pure_bind]
  rw [outcome_bind, outcome_bind]
  cases (eval n (Frame.ofCall fn [.expr e] cls captured bound) e).outcome w with
  | mk r w' => cases r <;> rfl

/-- The module of special forms is at hand, and marks values. -/
def Casts (fr : Frame) (w : World) : Prop :=
  ∃ t info, fr.find w typingAlias = .ok (.module t) ∧ w.module? t = some info ∧
    info.globals.get? "cast" = some (.native .cast)

/-- A call is awaited where the body can wait. -/
theorem eval_awaited {e : Expr} {args : List Value} {kw : Except Fault Keywords}
    (he : (eval (n + 2) fr e).outcome w =
      (lift kw >>= fun ks => call (n + 1) f args ks).outcome w₁) (wait : Bool) :
    (eval (n + 1 + if wait then 2 else 1) fr (if wait then .await e else e)).outcome w =
      (lift kw >>= callOut (n + 1) wait f args).outcome w₁ := by
  cases wait with
  | true =>
    simp only [if_true]
    rw [eval_await, outcome_bind, he, ← outcome_bind, bind_assoc]
    rfl
  | false =>
    simp only [Bool.false_eq_true, if_false]
    rw [he]
    unfold callOut
    simp only [Bool.false_eq_true, if_false, bind_pure]

/-- **The body of the method** runs the call that it forwards to its end. -/
theorem runFunction_forwards {fn : Function} {e : Expr} {cls : Option String} {text : String}
    {captured : Table String Value} {bound : List (String × Value)} {args : List Value}
    {kw : Except Fault Keywords} {body : List Stmt}
    (hbody : body = [forwardStatement i text (if i.isAsync then .await e else e)])
    (hf : fn.body = .code body cls captured) (hfr : Frame.ofCall fn body cls captured bound = fr)
    (hcasts : Casts fr w) (hne : ∀ x, e ≠ .starred x)
    (he : (eval (n + 2) fr e).outcome w =
      (lift kw >>= fun ks => call (n + 1) f args ks).outcome w₁) :
    (runFunction (n + 1 + bodyDepth i) fn bound).outcome w =
      (lift kw >>= callOut (n + 1) i.isAsync f args >>= fun r => pure (handBack i r)).outcome w₁ := by
  obtain ⟨t, info, hfind, ht, hcast⟩ := hcasts
  subst hbody
  have hcall := eval_awaited he i.isAsync
  have hne' : ∀ x, (if i.isAsync then .await e else e) ≠ Expr.starred x := by
    cases i.isAsync with
    | true => simp
    | false => simpa using hne
  unfold forwardStatement at hf hfr
  unfold bodyDepth
  rw [← Nat.add_assoc]
  generalize hdepth : n + 1 + (if i.isAsync then 2 else 1) = k at *
  cases hreturns : i.returns with
  | none =>
    have hback : ∀ r, handBack i r = r := by
      intro r
      rw [handBack, MethodInfo.returnsValue, hreturns]
      rfl
    rw [hreturns] at hf hfr
    simp only [hback, bind_pure]
    rw [← hcall]
    exact (runFunction_returns hf _).trans (by rw [hfr])
  | some a =>
    rw [hreturns] at hf hfr
    cases hvalue : i.returnsValue with
    | true =>
      have hback : ∀ r, handBack i r = r := by
        intro r
        rw [handBack, hvalue]
        rfl
      simp only [hvalue, if_true] at hf hfr
      simp only [hback, bind_pure, Option.isSome_some, Bool.true_and, if_true]
      obtain ⟨k, rfl⟩ : ∃ j, k = j + 1 := ⟨k - 1, by split at hdepth <;> omega⟩
      rw [runFunction_returns hf, hfr, eval_cast hfind ht hcast text hne', hcall]
    | false =>
      have hback : ∀ r, handBack i r = Value.none := by
        intro r
        rw [handBack, hvalue]
        rfl
      simp only [hvalue, Bool.false_eq_true, if_false] at hf hfr
      simp only [hback, Option.isSome_some, Bool.and_false, Bool.false_eq_true, if_false]
      rw [runFunction_drops hf, hfr, outcome_bind, hcall, ← outcome_bind]

/-! ## Where the body runs -/

/-- The module of a class has the cache and the module of special forms at hand. -/
def Serves (c m : Nat) (w : World) : Prop :=
  ∃ info t types, w.module? m = some info ∧ info.globals.get? cacheGlobal = some (.cache c) ∧
    info.globals.get? typingAlias = some (.module t) ∧ w.module? t = some types ∧
    types.globals.get? "cast" = some (.native .cast)

theorem Serves.looked {m : Nat} (h : Serves c m w) (d : Nat) : Serves c m (w.looked d) := h

section Frames

variable {fn : Function} {body : List Stmt} {cls : Option String} {captured : Table String Value}
  {bound : List (String × Value)} {x : String} {v : Value}

theorem find_bound (hm : mangle cls x = x) (hv : Describe.given bound x = some v) :
    (Frame.ofCall fn body cls captured bound).find w x = .ok v := by
  have hx : x ∈ bound.map Prod.fst := by
    by_contra h
    rw [Describe.given_eq_none_iff.mpr h] at hv
    cases hv
  have hown : x ∈ (Frame.ofCall fn body cls captured bound).ownNames :=
    List.mem_map.mpr ⟨x, List.mem_append_left _ hx, hm⟩
  have hget : (Frame.ofCall fn body cls captured bound).vars.get? x = some v := hv
  rw [Frame.find, Frame.ofCall] at *
  simp only [List.contains_eq_mem, hown, hget]
  rfl

theorem find_global {m : Nat} {info : ModuleInfo} (hx : ∀ y ∈ bound.map Prod.fst, mangle cls y ≠ x)
    (hb : boundNamesOf body = []) (hg : fn.globals = some m) (hm : w.module? m = some info)
    (hv : info.globals.get? x = some v) :
    (Frame.ofCall fn body cls {} bound).find w x = .ok v := by
  have hown : x ∉ (Frame.ofCall fn body cls {} bound).ownNames := by
    intro h
    obtain ⟨y, hy, he⟩ := List.mem_map.mp h
    rw [ownNamesOf, hb, List.filter_nil, List.append_nil] at hy
    exact hx y hy he
  have hscope : (Frame.ofCall fn body cls {} bound).scope = .function := rfl
  have hcaptured : (Frame.ofCall fn body cls {} bound).captured = {} := rfl
  have hglobals : (Frame.ofCall fn body cls {} bound).globals = fn.globals := rfl
  rw [Frame.find, hscope]
  simp [hown, hcaptured, Frame.findGlobal, hglobals, hg, hm, globalOf, hv]

theorem boundNames_forwardStatement (i : MethodInfo) (text : String) (e : Expr) :
    boundNamesOf [forwardStatement i text e] = [] := by
  unfold forwardStatement
  split
  · rfl
  · split <;> rfl

end Frames

end Facade.Wrapper
