import Facade.Proofs.CallableCalls
import Facade.Proofs.Importing
import Facade.Proofs.Rereading

/-!
# Calls that are alike

Without rules, the class around a callable takes what the callable takes. The callable may be a function, a
method, an object that is called, or a partial call around any of these.

* `prepare_eq_ok`: what is wrapped is described by its signature.
* `callOut_unwraps`: a call of a callable to its end runs its function.
* `Alike`, `parameterBy_made`: the method has the parameters of the callable, with defaults that are alike.
* `bindArguments_again`: what has been bound is passed on and bound again.
* `CallsAlike`: both calls are refused, or each runs the function once.
* `createType_served`: what the class relies on is there when it has been created.
* `run_alike`: the calls of the class are like those of the callable.
* `Forwards.callToEnd_function`: a call of the method is one call of the function.
-/

namespace Facade.Wrapper

open Run Execution Conversion Binding Describe
open Facade.Describe.MethodInfo (isPublicName)
open Syntax (Expr Stmt Param ParamKind mangle)

variable {cw : CallableWrapper} {f self : Value} {o : CallableOptions} {method : MethodInfo}
  {compiler : String} {w w₁ w' b v : World} {l : CallableLayout} {g : GeneratedModule} {k : Named}
  {c m n id j : Nat} {cls : String} {fn : Function} {ps : List Parameter} {ls : List Layer}
  {info : Function} {args : List Value} {kw : Keywords}

/-! ## Descriptions -/

theorem describeCallable_eq_ok (h : (describeCallable f).outcome w = (.ok method, w')) :
    ∃ s hints, signature? w Execution.depth f = some s ∧
      method.params = describeParams hints s.params ∧ method.isAsync = isAsync w f := by
  unfold describeCallable at h
  rw [outcome_get_bind] at h
  dsimp only at h
  split at h
  · cases h
  · cases hs : signature? w Execution.depth f with
    | none => rw [hs] at h; cases h
    | some s =>
      rw [hs] at h
      obtain ⟨hints, w₂, -, h⟩ := bind_eq_ok h
      rw [outcome_pure, Prod.mk.injEq, Except.ok.injEq] at h
      obtain ⟨rfl, -⟩ := h
      exact ⟨s, hints, rfl, rfl, rfl⟩

/-- What is wrapped is what has been described. -/
theorem prepare_eq_ok (h : (cw.prepare f o).outcome w = (.ok (method, compiler), w')) :
    ∃ s hints, signature? w Execution.depth f = some s ∧
      method.params = describeParams hints s.params ∧ method.isAsync = isAsync w f := by
  unfold CallableWrapper.prepare at h
  obtain ⟨i, w₁, hi, h⟩ := bind_eq_ok h
  obtain ⟨x, w₂, -, h⟩ := bind_eq_ok h
  obtain ⟨⟨⟩, w₃, -, h⟩ := bind_eq_ok h
  obtain ⟨⟨⟩, w₄, -, h⟩ := bind_eq_ok h
  rw [outcome_pure, Prod.mk.injEq, Except.ok.injEq, Prod.mk.injEq] at h
  obtain ⟨⟨rfl, -⟩, -⟩ := h
  exact describeCallable_eq_ok hi

/-- A parameter, as it is described. -/
structure DescribedAs (p : Parameter) (i : ParameterInfo) : Prop where
  name : i.name = p.name
  kind : i.kind = p.kind
  default : i.default = present p.default

theorem describeParams_spec (hints : Table String Value) (ps : List Parameter) :
    List.Forall₂ DescribedAs ps (describeParams hints ps) := by
  refine List.forall₂_iff_get.mpr ⟨by simp [describeParams], fun i h₁ h₂ => ?_⟩
  simp only [List.get_eq_getElem, describeParams, List.getElem_mapIdx]
  exact ⟨rfl, rfl, rfl⟩

theorem isAsync_unwraps (h : Unwraps w f id ls j) (hi : w.function? id = some info) :
    isAsync w f = info.isAsync := by
  have htarget : annotatedTarget w f = .function id := by
    induction h with
    | function => rfl
    | method => rfl
    | object i hinst hm =>
      rw [annotatedTarget, callMember?, classOf, hinst]
      exact congrArg (Option.getD · Value.none) hm
    | partialCall args hn h ih => exact ih hi
  rw [isAsync, htarget]
  dsimp only
  rw [hi]
  rfl

/-! ## Calls of the function behind a callable -/

/-- A call of a function that its parameters refuse is a fault. -/
theorem call_function_error {fault : Fault} (hi : w.function? id = some info)
    (h : bindArguments info.params args kw = .error fault) :
    (call (n + 1) (.function id) args kw).outcome w = (.error (.fault fault), w) := by
  rw [call_function hi, outcome_bind, h]
  rfl

/-- A call of a function to its end binds its parameters and runs it. -/
theorem callOut_function (hi : w.function? id = some info) (n j : Nat) (args : List Value)
    (kw : Keywords) :
    (call (n + 1) (.function id) args kw >>= fun r =>
      if info.isAsync then awaited (n + j + 2) r else pure r).outcome w =
      (lift (bindArguments info.params args kw) >>=
        runFunction (if info.isAsync then n + j + 1 else n) info).outcome w := by
  rw [outcome_bind, call_function hi, outcome_bind, outcome_bind]
  cases bindArguments info.params args kw with
  | error e => rfl
  | ok bound =>
    simp only [outcome_lift_ok, after_ok]
    cases info.isAsync with
    | false =>
      simp only [Bool.false_eq_true, if_false]
      cases (runFunction n info bound).outcome w with
      | mk r w' => cases r <;> rfl
    | true =>
      simp only [if_true, outcome_pure, after_ok]
      conv_lhs => unfold awaited
      dsimp only
      rw [outcome_get_bind, hi]

/-- How deeply a function runs when a callable around it is called. -/
def runDepth (n j : Nat) (info : Function) : Nat := if info.isAsync then n + j + 1 else n

/-- **A call of a callable to its end** runs its function with what its layers deliver. -/
theorem callOut_unwraps (h : Unwraps w f id ls j) (hi : w.function? id = some info)
    (args : List Value) (hn : (kw.map Prod.fst).Nodup) (n : Nat) :
    (callOut (n + 1 + j) info.isAsync f args kw).outcome w =
      (lift (bindArguments info.params (deliver ls args kw).1 (deliver ls args kw).2) >>=
        runFunction (runDepth n j info) info).outcome w := by
  rw [callOut, outcome_bind, call_unwraps h (n + 1) hn, ← outcome_bind, runDepth,
    ← callOut_function hi n j, Nat.add_right_comm n 1 j]

/-- A call of a method is refused if its parameters refuse the arguments. -/
theorem callToEnd_error {id : Nat} {fault : Fault} (hi : w.function? id = some fn)
    (h : bindArguments fn.params (self :: args) kw = .error fault) (n : Nat) (isAsync : Bool) :
    (callToEnd n isAsync (.bound self (.function id)) args kw).outcome w =
      (.error (.fault fault), w) := by
  rw [callToEnd, outcome_bind, call_method, call_function_error hi h]
  rfl

/-! ## Values that are alike -/

/-- A value that is another one, or is equal to it. -/
def Alike (x y : Value) : Prop := y = x ∨ x.same y = true

theorem alike_of_reread {x y : Value} (h : Reread x y) : Alike x y := h.eq_or_same

/-- A default that is described is there, unless it stands for none. -/
theorem present_eq {d : Option Value} (h : ∀ x ∈ d, x.same Standard.empty = false) : present d = d := by
  cases d with
  | none => rfl
  | some x => rw [present, Option.filter_some, h x rfl]; rfl

/-- A parameter that nothing routes or renames. -/
theorem convertedOf_nil (i : ParameterInfo) : convertedOf [] i = ⟨i, .method, i.name⟩ := by
  unfold convertedOf
  split <;> rfl

/-- The parameters of the method are those of the callable, with defaults that are alike. -/
theorem parameterBy_made {is : List ParameterInfo} {all : List Parameter}
    (hdescribed : List.Forall₂ DescribedAs ps is)
    (hmade : List.Forall₂ (MadeFor (some cls)) (is.map (convertedOf [])) all)
    (hplain : ∀ p ∈ ps, Syntax.isPrivate p.name.toList = false)
    (hdefaults : ∀ p ∈ ps, ∀ x ∈ p.default, x.same Standard.empty = false) :
    List.Forall₂ (ParameterBy Alike) ps all := by
  induction hdescribed generalizing all with
  | nil => cases hmade; exact .nil
  | @cons p i ps is hi _ ih =>
    rw [List.map_cons, convertedOf_nil] at hmade
    cases hmade with
    | @cons _ q _ all hq hmade =>
      refine .cons ⟨?_, ?_, fun hv => ?_⟩ (ih hmade (fun r hr => hplain r (List.mem_cons_of_mem p hr))
        fun r hr => hdefaults r (List.mem_cons_of_mem p hr))
      · rw [hq.name, hi.name, Syntax.mangle_of_not_isPrivate _ (hplain p List.mem_cons_self)]
      · rw [hq.kind, hi.kind]
      · have hdefault := hq.default
        dsimp only at hdefault
        rw [hi.kind, hv, if_neg (by simp), hi.default,
          present_eq (hdefaults p List.mem_cons_self)] at hdefault
        exact rel_imp (fun _ _ h => alike_of_reread h) hdefault

/-! ## Binding once more -/

theorem addKeywords_of_nodup (ks : Keywords) {js : Keywords} (h : ((ks ++ js).map Prod.fst).Nodup) :
    addKeywords ks js = .ok (ks ++ js) := by
  induction js generalizing ks with
  | nil => rw [List.append_nil]; rfl
  | cons j js ih =>
    have hfree : ¬ (ks.any fun k => k.1 == j.1) = true := by
      intro hany
      obtain ⟨k, hk, he⟩ := List.any_eq_true.mp hany
      rw [List.map_append, List.map_cons] at h
      exact List.disjoint_of_nodup_append h (List.mem_map_of_mem hk)
        (by rw [beq_iff_eq.mp he]; exact List.mem_cons_self)
    rw [addKeywords, List.foldlM_cons, if_neg hfree]
    have := ih (ks ++ [j]) (by simpa using h)
    rwa [List.append_assoc] at this

theorem addKeywords_nil {js : Keywords} (h : (js.map Prod.fst).Nodup) : addKeywords [] js = .ok js :=
  addKeywords_of_nodup [] h

/-- No parameter takes a name of the surplus. -/
theorem ne_of_mem_surplus {e : String × Value} (he : e ∈ surplus ps kw) {p : Parameter} (hp : p ∈ ps)
    (hk : isNamed p = true) : p.name ≠ e.1 := by
  intro hn
  have hfree := (List.mem_filter.mp he).2
  rw [Bool.not_eq_true', List.any_eq_false] at hfree
  exact hfree p hp (by simpa [hk] using hn)

/-- The names that are passed on differ. -/
theorem nodup_passed {pass : Parameter → Value} {left : Keywords} (hl : IsLegal ps)
    (hn : (left.map Prod.fst).Nodup)
    (hleft : ∀ e ∈ left, ∀ p ∈ ps, isNamed p = true → p.name ≠ e.1) :
    ((passedNames pass ps ++ left).map Prod.fst).Nodup := by
  rw [List.map_append, List.nodup_append']
  refine ⟨nodup_passedNames hl.nodup, hn, fun x hx hs => ?_⟩
  obtain ⟨e, he, rfl⟩ := List.mem_map.mp hx
  obtain ⟨p, hp, hk, rfl⟩ := mem_passedNames.mp he
  obtain ⟨s, hs, hname⟩ := List.mem_map.mp hs
  exact hleft s hs p hp (by rw [isNamed, hk]) hname.symm

/-- **What has been bound is passed on and bound again.** -/
theorem bindArguments_again {all : List Parameter} {cs : List (String × Value)}
    {pass : Parameter → Value} (hl : IsLegal ps) (hall : List.Forall₂ (ParameterBy Alike) ps all)
    (hbound : bindArguments all args kw = .ok cs)
    (hpass : ∀ p ∈ ps, given cs p.name = some (pass p)) :
    bindArguments ps (passedPositions pass ps) (passedNames pass ps ++ surplus ps kw) = .ok cs := by
  obtain ⟨hfrom, hleft⟩ := bindArguments_eq_ok hbound
  have hbounds := bindFrom_boundTo _ hfrom
  have hnames : cs.map Prod.fst = ps.map Parameter.name := by
    rw [map_fst_bindArguments hbound]
    clear hbound hfrom hbounds hleft hpass hl
    induction hall with
    | nil => rfl
    | cons h _ ih => rw [List.map_cons, List.map_cons, ih, h.name]
  have hnodup : (cs.map Prod.fst).Nodup := hnames ▸ hl.nodup
  rw [← surplus_eq hall] at hleft
  -- Every parameter is bound to what is passed on for it.
  have hcs : cs = ps.map fun p => (p.name, pass p) := by
    refine List.ext_getElem (by simpa using congrArg List.length hnames) fun i h₁ h₂ => ?_
    have hi : i < ps.length := by simpa using h₂
    have hname : cs[i].1 = ps[i].name := by
      have := List.getElem_of_eq hnames (i := i) (by simpa using h₁)
      simpa using this
    have hgiven := given_of_mem hnodup (List.getElem_mem h₁)
    rw [hname, hpass _ (List.getElem_mem hi)] at hgiven
    rw [List.getElem_map]
    exact Prod.ext hname (Option.some.inj hgiven).symm
  have hvalue {p : Parameter} (hp : p ∈ ps) :
      ∃ x b, BoundTo all kw x b ∧ x.kind = p.kind ∧ pass p = b.2 := by
    obtain ⟨x, hx, hpx⟩ := exists_of_forall₂ hall hp
    obtain ⟨b, hb, hbx⟩ := exists_of_forall₂ hbounds hx
    have hgiven := given_of_mem hnodup hb
    rw [hbx.name, ← hpx.name, hpass p hp] at hgiven
    exact ⟨x, b, hbx, hpx.kind.symm, Option.some.inj hgiven⟩
  have hapart : ∀ e ∈ surplus ps kw, ∀ p ∈ ps, isNamed p = true → p.name ≠ e.1 :=
    fun e he p hp hk => ne_of_mem_surplus he hp hk
  rw [hcs]
  refine bindArguments_passed hl ⟨fun p hp hk => ?_, fun p hp hk => ?_, fun hk => hleft ?_,
    fun e he p hp hk => hapart e he p hp (by rw [isNamed, hk])⟩
    fun e he p hp hk => hapart e he p hp (by rw [isNamed, hk])
  · obtain ⟨x, b, hb, hx, he⟩ := hvalue hp
    obtain ⟨vs, hvs⟩ := hb.positions (hx.trans hk)
    exact ⟨vs, he.trans hvs⟩
  · obtain ⟨x, b, hb, hx, he⟩ := hvalue hp
    rw [he, hb.names (hx.trans hk), surplus_eq hall]
  · rw [← hasKind_eq hall, hk]

/-! ## Calls that are alike -/

/-- A call of a callable and a call of the method that a class has for it. **Either both refuse the
arguments, or each runs the function once,** the method with arguments that are alike, and it hands back
what the function gives. -/
inductive CallsAlike (c n : Nat) (method : MethodInfo) (info : Function) (v : World)
    (bound : Except Fault (List (String × Value))) (direct run : Except Failure Value × World) : Prop
  | refused (hb : bound = .error .type) (hd : direct = (.error (.fault .type), v))
    (hr : run.1 = .error (.fault .type)) (hw : run.2 = v ∨ run.2 = v.looked c)
  | ran {bs cs : List (String × Value)} (hb : bound = .ok bs) (h : Similar Alike info.params bs cs)
    (hd : direct = (runFunction n info bs).outcome v)
    (hr : run = (runFunction n info cs >>= fun r => pure (handBack method r)).outcome (v.looked c))

theorem unwraps_looked (h : Unwraps v f id ls j) (c : Nat) : Unwraps (v.looked c) f id ls j := by
  induction h with
  | function id => exact .function id
  | method self id => exact .method self id
  | object i hi hm => exact .object i hi hm
  | partialCall args hn _ ih => exact .partialCall args hn ih

section Made

variable {r : Parameter} {all : List Parameter} {is : List ParameterInfo}
  {cs : List (String × Value)}

/-- Without rules, all parameters are the method's own. -/
theorem methodParameters_nil (hrules : o.rules = []) :
    (convertedMethod method o).methodParameters = method.params.map (convertedOf []) := by
  unfold convertedMethod ConvertedMethod.methodParameters
  rw [hrules, List.filter_eq_self]
  intro q hq
  obtain ⟨i, -, rfl⟩ := List.mem_map.mp hq
  rw [convertedOf_nil]
  rfl

/-- Without rules, what is passed on for a parameter is what the parameter of the method is bound to. -/
theorem given_of_passedTo (cls : String) (self : Value) (held : ConvertedParameter → Value)
    (hdescribes : List.Forall₂ Describes ps (is.map (convertedOf [])))
    (hall : List.Forall₂ (ParameterBy Alike) ps all) (hnodup : ((r :: all).map Parameter.name).Nodup)
    (hn : (ps.map Parameter.name).Nodup)
    (hplain : ∀ p ∈ ps, Syntax.isPrivate p.name.toList = false)
    (hnames : cs.map Prod.fst = all.map Parameter.name) {p : Parameter} (hp : p ∈ ps) :
    given cs p.name = some (passedTo (passedFor cls ((r.name, self) :: cs) held)
      (is.map (convertedOf [])) p) := by
  obtain ⟨q, hq, hd⟩ := exists_of_forall₂ hdescribes hp
  obtain ⟨x, hx, hpx⟩ := exists_of_forall₂ hall hp
  have hname : q.name = p.name := by
    obtain ⟨i, -, rfl⟩ := List.mem_map.mp hq
    have hi := hd.name
    rw [convertedOf_nil] at hi ⊢
    exact hi
  have hroute : q.route = .method := by
    obtain ⟨i, -, rfl⟩ := List.mem_map.mp hq
    rw [convertedOf_nil]
  have hne : r.name ≠ p.name := fun he =>
    (List.nodup_cons.mp hnodup).1 (by rw [he, hpx.name]; exact List.mem_map_of_mem hx)
  have hmem : p.name ∈ cs.map Prod.fst := by
    rw [hnames, hpx.name]
    exact List.mem_map_of_mem hx
  obtain ⟨y, hy⟩ := Option.ne_none_iff_exists'.mp fun h => given_eq_none_iff.mp h hmem
  rw [passedTo_eq hdescribes hn hq hd.name, passedFor, if_pos hroute, hname,
    Syntax.mangle_of_not_isPrivate _ (hplain p hp), given_cons, if_neg hne, hy]
  rfl

end Made

/-- **Arguments that the method takes are passed on** to the callable, whose parameters take them again. -/
theorem Forwards.passes {args : List Value} {all : List Parameter} {r : Parameter}
    {cs : List (String × Value)} (h : Forwards cw f method o m v fn)
    (hne : ∀ k, f = .cls k → k.id ≠ (Standard.named "super").id) (hrules : o.rules = [])
    (hserves : Serves cw.cache m v) (hlegal : IsLegal ps)
    (hdescribed : List.Forall₂ DescribedAs ps method.params) (hparams : fn.params = r :: all)
    (halike : List.Forall₂ (ParameterBy Alike) ps all)
    (hplain : ∀ p ∈ ps, Syntax.isPrivate p.name.toList = false)
    (hr : ∀ e ∈ kw, e.1 ≠ r.name) (hn : (kw.map Prod.fst).Nodup)
    (hall : bindArguments all args kw = .ok cs)
    (hbound : bindArguments fn.params (self :: args) kw = .ok ((r.name, self) :: cs)) (n : Nat) :
    ∃ vs ks, bindArguments ps vs ks = .ok cs ∧ (ks.map Prod.fst).Nodup ∧
      (Execution.runFunction (n + 3 + bodyDepth method) fn ((r.name, self) :: cs)).outcome v =
        (callOut (n + 3) method.isAsync f vs ks >>= fun x =>
          pure (handBack method x)).outcome (v.looked cw.cache) := by
  have hsig : IsDescribedBy ps method := hdescribed.imp fun _ _ h => ⟨h.name, h.kind⟩
  have hequipped : Equipped 0 o.typeName self (fun _ => Value.none)
      (convertedMethod method o).parameters (v.looked cw.cache) := by
    intro q hq hroute
    obtain ⟨i, -, rfl⟩ := List.mem_map.mp hq
    rw [hrules, convertedOf_nil] at hroute
    exact absurd rfl hroute
  have hpass {p : Parameter} (hp : p ∈ ps) :=
    given_of_passedTo o.typeName self (fun _ => Value.none)
      (by have := describes_converted hsig o; rwa [convertedMethod, hrules] at this) halike
      (by rw [← hparams]; exact h.nodup) hlegal.nodup hplain (map_fst_bindArguments hall) hp
  have hsurplus : surplus fn.params kw = surplus ps kw := by
    rw [hparams, surplus_eq halike]
    refine List.filter_congr fun e he => ?_
    rw [List.any_cons, beq_eq_false_iff_ne.mpr (Ne.symm (hr e he)), Bool.and_false, Bool.false_or]
  have hrun := h.runFunction (n := n) hne hsig hlegal hserves hequipped hbound (Nat.zero_le _)
  have hnodup {pass : Parameter → Value} :
      ((passedNames pass ps ++ surplus ps kw).map Prod.fst).Nodup :=
    nodup_passed hlegal ((List.filter_sublist.map _).nodup hn) fun e he p hp hk => ne_of_mem_surplus he hp hk
  dsimp only at hrun
  rw [hsurplus, addKeywords_nil hnodup, convertedMethod, hrules] at hrun
  refine ⟨_, _, bindArguments_again hlegal halike hall fun p hp => hpass hp, hnodup, ?_⟩
  rw [hrun, outcome_bind, outcome_bind, outcome_lift_ok, after_ok, ← outcome_bind]

/-- **Calls of the method of a class are like those of its callable.** -/
theorem Forwards.callsAlike {id' : Nat} (h : Forwards cw f method o m v fn)
    (hfn : v.function? id' = some fn) (hserves : Serves cw.cache m v) (hrules : o.rules = [])
    (hf : Unwraps v f id ls j) (hi : v.function? id = some info) (hlegal : IsLegal info.params)
    (haccepts : AcceptsAll ls info.params) (hasync : method.isAsync = info.isAsync)
    (hdescribed : List.Forall₂ DescribedAs (leaveAll ls info.params) method.params)
    (hplain : ∀ p ∈ leaveAll ls info.params, Syntax.isPrivate p.name.toList = false)
    (hdefaults : ∀ p ∈ leaveAll ls info.params, ∀ x ∈ p.default, x.same Standard.empty = false)
    (hn : (kw.map Prod.fst).Nodup) (hself : ∀ e ∈ kw, e.1 ≠ "self") (n : Nat) (self : Value)
    (args : List Value) :
    CallsAlike cw.cache (runDepth (n + 2) j info) method info v
      (bindArguments info.params (deliver ls args kw).1 (deliver ls args kw).2)
      ((callOut (n + 3 + j) info.isAsync f args kw).outcome v)
      ((callToEnd (n + j + 3 + bodyDepth method) info.isAsync (.bound self (.function id')) args
        kw).outcome v) := by
  obtain ⟨r, all, hparams, hr, hpos, hall⟩ := h.params
  rw [methodParameters_nil hrules] at hall
  have hleft := isLegal_leaveAll hlegal ls
  have halike := parameterBy_made hdescribed hall hplain hdefaults
  have hsimilar := bindArguments_similar (R := Alike) (fun _ => .inl rfl) halike args kw
  have hfull : bindArguments (r :: all) (self :: args) kw =
      (bindArguments all args kw).map ((r.name, self) :: ·) :=
    bindArguments_receiver hpos self args (by rwa [hr])
  have hdirect := callOut_unwraps hf hi args hn (n + 2)
  rw [← hparams] at hfull
  cases hbound : bindArguments all args kw with
  | error e =>
    obtain rfl := bindArguments_error hbound
    rw [hbound] at hsimilar hfull
    have hrefused : bindArguments (leaveAll ls info.params) args kw = .error .type := by
      generalize bindArguments (leaveAll ls info.params) args kw = x at hsimilar
      cases hsimilar
      rfl
    have hdelivered := delivered_error hlegal haccepts hf.nodup hn hrefused
    have hrun := callToEnd_error hfn hfull (n + j + 3 + bodyDepth method) info.isAsync
    rw [hdelivered] at hdirect ⊢
    exact .refused rfl hdirect (by rw [hrun]) (.inl (by rw [hrun]))
  | ok cs =>
    rw [hbound] at hsimilar hfull
    have hne : ∀ k, f = .cls k → k.id ≠ (Standard.named "super").id := by
      rintro k rfl
      cases hf
    obtain ⟨vs, ks, hagain, hnodup, hrun⟩ := h.passes hne hrules hserves hleft hdescribed hparams halike
      hplain (by rwa [hr]) hn hbound hfull (n + j)
    rw [← callToEnd_eq hfn hfull, h.isAsync, hasync, outcome_bind, Nat.add_right_comm n j 3,
      callOut_unwraps (unwraps_looked hf cw.cache) hi vs hnodup (n + 2), ← outcome_bind] at hrun
    have hdelivered := delivered_similar (R := Alike) (fun _ => .inl rfl) hlegal haccepts hf.nodup hn
      hnodup (by rw [hagain]; exact hsimilar)
    generalize bindArguments info.params (deliver ls vs ks).1 (deliver ls vs ks).2 = y at hdelivered hrun
    rw [Nat.add_right_comm n j 3]
    cases hx : bindArguments info.params (deliver ls args kw).1 (deliver ls args kw).2 with
    | error e =>
      rw [hx] at hdelivered hdirect
      cases hdelivered
      obtain rfl := bindArguments_error hx
      exact .refused rfl hdirect (by rw [hrun]; rfl) (.inr (by rw [hrun]; rfl))
    | ok bs =>
      rw [hx] at hdelivered hdirect
      cases hdelivered with
      | ok hbs => exact .ran rfl hbs hdirect hrun

/-- The module of a function has what its body relies on. -/
def Served (c id : Nat) (w : World) : Prop :=
  ∃ fn m, w.function? id = some fn ∧ fn.globals = some m ∧ Serves c m w

theorem Served.serves {c id : Nat} (h : Served c id w) (hfn : w.function? id = some fn)
    (hm : fn.globals = some m) : Serves c m w := by
  obtain ⟨fn', m', hfn', hm', hserves⟩ := h
  obtain rfl := Option.some.inj (hfn.symm.trans hfn')
  obtain rfl := Option.some.inj (hm.symm.trans hm')
  exact hserves

/-- The module of special forms that the module of a function has at hand offers the cast. -/
def OffersCast (id : Nat) (w : World) : Prop :=
  ∀ fn m info t, w.function? id = some fn → fn.globals = some m → w.module? m = some info →
    info.globals.get? typingAlias = some (.module t) →
    ∃ types, w.module? t = some types ∧ types.globals.get? "cast" = some (.native .cast)

/-- **A class that has been created for a callable is served:** its module holds the cache, and a module of
special forms. -/
theorem createType_served (hw : Wrappable cw f o method compiler w₁)
    (hprepare : (cw.prepare f o).outcome w = (.ok (method, compiler), w₁))
    (h : (cw.createType f o).outcome w = (.ok k, w')) (hname : isPublicName o.methodName = true)
    (hcls : o.typeName ∉ [cacheGlobal, typingAlias]) {i : ClassInfo} {run : Nat}
    (hi : w'.class? k.id = some i) (hrun : i.members.get? o.methodName = some (.function run))
    (hcast : OffersCast run w') : Served cw.cache run w' := by
  obtain ⟨l, g, b, -, -, hl, hsound, hg⟩ := createType_generated hw hprepare h
  obtain ⟨run', i', hi', hrun', hnew⟩ := run_made hg hname
  obtain rfl := Option.some.inj (hi.symm.trans hi')
  obtain rfl := Value.function.inj (Option.some.inj (hrun.symm.trans hrun'))
  obtain ⟨fn, hfn, hmade⟩ := hnew.made
  obtain ⟨info, t, hm, hglobals, hheader⟩ := hg.module
  rw [List.mem_pair, not_or] at hcls
  have hcache : info.globals.get? cacheGlobal = some (.cache cw.cache) := by
    rw [hglobals, Table.get?_set_of_ne _ _ hcls.1, hheader.cache]
  obtain ⟨types, htypes⟩ := hheader.imports typingAlias
    (List.mem_map.mpr ⟨_, List.mem_append_right _ (List.mem_singleton_self _), rfl⟩) (by decide)
  have htyping : info.globals.get? typingAlias = some (.module types) := by
    rw [hglobals, Table.get?_set_of_ne _ _ hcls.2, htypes]
  obtain ⟨ti, hti, hoffers⟩ := hcast fn g.module info types hfn hmade.globals hm htyping
  exact ⟨fn, g.module, hfn, hmade.globals, info, types, ti, hm, hcache, htyping, hti, hoffers⟩

/-- **A call of the method of a class is like a call of the callable,** whatever layers there are around its
function, now and later, as long as the class is served, which it is at first. -/
theorem run_alike (hw : Wrappable cw f o method compiler w₁)
    (hprepare : (cw.prepare f o).outcome w = (.ok (method, compiler), w₁))
    (h : (cw.createType f o).outcome w = (.ok k, w')) (hname : isPublicName o.methodName = true)
    (hrules : o.rules = []) (hf : Unwraps w f id ls j) (hi : w.function? id = some info)
    (hlegal : IsLegal info.params)
    (hplain : ∀ p ∈ leaveAll ls info.params, Syntax.isPrivate p.name.toList = false)
    (hdefaults : ∀ p ∈ leaveAll ls info.params, ∀ x ∈ p.default, x.same Standard.empty = false) :
    ∃ i run, w'.class? k.id = some i ∧ i.members.get? o.methodName = some (.function run) ∧
      (o.typeName ∉ [cacheGlobal, typingAlias] → OffersCast run w' → Served cw.cache run w') ∧
      ∀ v, w'.Grows v → Served cw.cache run v → Unwraps v f id ls j → v.function? id = some info →
        ∀ (n : Nat) (self : Value) (args : List Value) (kw : Keywords), (kw.map Prod.fst).Nodup →
          (∀ e ∈ kw, e.1 ≠ "self") → CallsAlike cw.cache (runDepth (n + 2) j info) method info v
            (bindArguments info.params (deliver ls args kw).1 (deliver ls args kw).2)
            ((callOut (n + 3 + j) info.isAsync f args kw).outcome v)
            ((callToEnd (n + j + 3 + bodyDepth method) info.isAsync (.bound self (.function run)) args
              kw).outcome v) := by
  obtain ⟨m, i, run, fn, hclass, hget, hfn, hforwards⟩ := createType_forwards hw hprepare h hname
  obtain ⟨s, hints, hs, hparams, hasync⟩ := prepare_eq_ok hprepare
  obtain ⟨hleft, -, haccepts⟩ := signature?_unwraps hf hi hlegal hs
  refine ⟨i, run, hclass, hget, fun hcls => createType_served hw hprepare h hname hcls hclass hget,
    fun v hv hserved hfv hiv n self args kw hn hself => ?_⟩
  obtain ⟨fn', hfn', hforwards'⟩ := hforwards.mono hfn hv
  refine hforwards'.callsAlike hfn' (hserved.serves hfn' hforwards'.globals) hrules hfv hiv hlegal
    haccepts ?_ ?_ hplain hdefaults hn hself
    n self args
  · rw [hasync, isAsync_unwraps hf hi]
  · rw [hparams, ← hleft]
    exact describeParams_spec hints s.params

/-! ## Calls of a function -/

/-- **A call of the method is one call of the function,** with what the method and its object have for its
parameters, as long as none of the surplus goes by the name of one of them. -/
theorem Forwards.callToEnd_function {id' : Nat} {held : ConvertedParameter → Value}
    {bound : List (String × Value)} (h : Forwards cw (.function id) method o m v fn)
    (hfn : v.function? id' = some fn) (hserves : Serves cw.cache m v)
    (hi : v.function? id = some info) (hasync : method.isAsync = info.isAsync)
    (hlegal : IsLegal info.params) (hsig : IsDescribedBy info.params method)
    (hequipped : Equipped d o.typeName self held (convertedMethod method o).parameters
      (v.looked cw.cache))
    (hbound : bindArguments fn.params (self :: args) kw = .ok bound)
    (hn : ((surplus fn.params kw).map Prod.fst).Nodup)
    (hleft : ∀ e ∈ surplus fn.params kw, ∀ p ∈ info.params, isNamed p = true → p.name ≠ e.1) :
    let pass := passedTo (passedFor o.typeName bound held) (convertedMethod method o).parameters
    (∀ p ∈ info.params, p.kind = .varKeyword → pass p = Value.dictOfNames (surplus fn.params kw)) ∧
      ∀ n, d ≤ n →
        (callToEnd (n + 3 + bodyDepth method) info.isAsync (.bound self (.function id')) args kw).outcome
            v =
          (Execution.runFunction (runDepth (n + 2) 0 info) info
            (info.params.map fun p => (p.name, pass p)) >>= fun x =>
              pure (handBack method x)).outcome (v.looked cw.cache) := by
  intro pass
  obtain ⟨r, all, hparams, hr, hpos, hall⟩ := h.params
  have hdescribes := describes_converted hsig o
  have hne : ∀ k, Value.function id = .cls k → k.id ≠ (Standard.named "super").id := by
    rintro k hk
    cases hk
  obtain ⟨hpositions, hkeywords, habsent⟩ := surpluses_passed held hpos hall
    (hparams ▸ h.nodup) (hparams ▸ hbound) hdescribes hlegal.nodup
  rw [← hparams] at hkeywords habsent
  refine ⟨hkeywords, fun n hd => ?_⟩
  have hnodup : ((passedNames pass info.params ++ surplus fn.params kw).map Prod.fst).Nodup :=
    nodup_passed hlegal hn hleft
  -- What is passed on is bound to the parameters that it is passed on for.
  have hagain : bindArguments info.params (passedPositions pass info.params)
      (passedNames pass info.params ++ surplus fn.params kw) =
        .ok (info.params.map fun p => (p.name, pass p)) :=
    bindArguments_passed hlegal ⟨hpositions, hkeywords, habsent,
      fun e he p hp hk => hleft e he p hp (by rw [isNamed, hk])⟩
      fun e he p hp hk => hleft e he p hp (by rw [isNamed, hk])
  have hlooked : (v.looked cw.cache).function? id = some info := hi
  have hcall : (callOut (n + 3) info.isAsync (.function id) (passedPositions pass info.params)
      (passedNames pass info.params ++ surplus fn.params kw)).outcome (v.looked cw.cache) =
        (lift (bindArguments info.params (passedPositions pass info.params)
          (passedNames pass info.params ++ surplus fn.params kw)) >>=
            Execution.runFunction (runDepth (n + 2) 0 info) info).outcome (v.looked cw.cache) :=
    callOut_unwraps (.function id) hlooked _ hnodup (n + 2)
  rw [hagain, outcome_bind, outcome_lift_ok, after_ok] at hcall
  rw [← hasync, ← h.isAsync, callToEnd_eq hfn hbound,
    h.runFunction hne hsig hlegal hserves hequipped hbound hd, addKeywords_nil hnodup]
  rw [outcome_bind, outcome_bind, outcome_lift_ok, after_ok, hasync, hcall, ← outcome_bind]

/-- A function is described by its parameters. -/
theorem prepare_function (hprepare : (cw.prepare (.function id) o).outcome w = (.ok (method, compiler), w₁))
    (hi : w.function? id = some info) : IsDescribedBy info.params method ∧ method.isAsync = info.isAsync := by
  obtain ⟨s, hints, hs, hparams, hasync⟩ := prepare_eq_ok hprepare
  obtain rfl := signature?_function hi hs
  refine ⟨?_, hasync.trans (isAsync_unwraps (.function id) hi)⟩
  rw [IsDescribedBy, hparams]
  exact (describeParams_spec hints info.params).imp fun _ _ h => ⟨h.name, h.kind⟩

/-! ## A function in a small world -/

/-- Without annotations, a callable can be wrapped if its program is legible. -/
theorem wrappable_of_unannotated (hcache : cw.cache < w.caches.size)
    (hmodules : ∀ n ∈ (w.compiler compiler).moduleNames, Imports.topPart n ≠ cacheGlobal)
    (hhints : ∀ p ∈ method.params, p.hint = none) (hreturns : method.returns = none)
    (htyping : (builtinsOf w).get? "typing" = none)
    (hbuiltins : ((w.importable.get? "builtins").bind w.module?).isSome = true)
    (hlegible : ((cw.program f method o compiler).outcome w).1.toOption.all
      (fun p => p.known.isSome) = true)
    (hproperties : (planOf cw method o).properties.values = [] ∨ HasProperties w) :
    Wrappable cw f o method compiler w := by
  refine ⟨hcache, hmodules, fun p hp => ?_, fun a ha => ?_, fun p w h => ?_, hproperties.resolve_left⟩
  · intro v _
    rw [hhints p hp]
    exact calm_member (by decide) htyping (Option.ne_none_iff_isSome.mpr hbuiltins) "Any"
  · rw [hreturns] at ha
    cases ha
  · rw [h] at hlegible
    exact Option.ne_none_iff_isSome.mpr hlegible

/-- A function of two parameters and a surplus of names. -/
def tally : Function :=
  { name := "tally", qualname := "tally"
    params := [{ name := "a" }, { name := "b", default := some (.int 2) },
      { name := "options", kind := .varKeyword }]
    body := .script "tally" true (.value (.int 7)) }

/-- The class of properties. -/
def propertyClass : Named := ⟨5, "builtins", "property"⟩

/-- A world with that function and a compiler, which may reference a module that is called like the
cache. -/
def tallyWorld (shadowed : Bool) : World :=
  runAll (if shadowed then [.add "main" (.module 4)] else [])
    { objects := #[
        .cls { named := Standard.object, name := "object", linearisation := [Standard.object],
               builtin := true },
        .function tally,
        .module { name := "builtins", globals := ⟨[("property", .cls propertyClass)]⟩,
                  origin := some "built-in" },
        .module { name := "typing",
                  globals := ⟨[("__name__", .str "typing"), ("__file__", .str "/typing.py"),
                    ("Any", Standard.any), ("cast", .native .cast)]⟩ },
        .module { name := cacheGlobal,
                  globals := ⟨[("__name__", .str cacheGlobal), ("__file__", .str "/cache.py")]⟩ },
        .cls { named := propertyClass, name := "property", bases := [Standard.object],
               linearisation := [propertyClass, Standard.object], builtin := true }]
      importable := ⟨[("builtins", 2), ("typing", 3), (cacheGlobal, 4)]⟩
      caches := #[{}]
      contexts := #[{ name := none }]
      compilers := ⟨[("main", { persist := false, workingDir := ".", version := "1", context := 0,
                                name := some "unit" })]⟩ }

/-- The generator of that world. -/
def tallyWrapper : CallableWrapper := { cache := 0, compilerOf := pure "main" }

section Tally

variable (f o)

/-- What comes of describing a callable of that world. -/
def tallyPrepared : Except Failure (MethodInfo × String) × World :=
  (tallyWrapper.prepare f o).outcome (tallyWorld false)

/-- What comes of making a class there. -/
def tallyMade : Except Failure Named × World := (tallyWrapper.createType f o).outcome (tallyWorld false)

/-- A callable of that world, as it is described. -/
def tallyMethod : MethodInfo := ((tallyPrepared f o).1.toOption.map Prod.fst).getD default

/-- Whether a world has the class of properties of that world. -/
def hasPropertyClass (w : World) : Bool :=
  match (builtinsOf w).get? "property" with
  | some (.cls k) => decide (k = propertyClass) && (w.class? k.id).isSome
  | _ => false

/-- A class can be made there: nothing is annotated, no name stands in the way of the cache, and the program is
legible. -/
def TallyReady : Prop :=
  (tallyPrepared f o).1.toOption.map Prod.snd = some "main" ∧ (tallyMade f o).1.isOk = true ∧
    (tallyMethod f o).params.all (fun p => p.hint.isNone) = true ∧
    (tallyMethod f o).returns.isNone = true ∧
    tallyWrapper.cache < (tallyPrepared f o).2.caches.size ∧
    (∀ n ∈ ((tallyPrepared f o).2.compiler "main").moduleNames, Imports.topPart n ≠ cacheGlobal) ∧
    (builtinsOf (tallyPrepared f o).2).get? "typing" = none ∧
    (((tallyPrepared f o).2.importable.get? "builtins").bind (tallyPrepared f o).2.module?).isSome = true ∧
    ((tallyWrapper.program f (tallyMethod f o) o "main").outcome
      (tallyPrepared f o).2).1.toOption.all (fun p => p.known.isSome) = true ∧
    hasPropertyClass (tallyPrepared f o).2 = true

instance : Decidable (TallyReady f o) := by unfold TallyReady; infer_instance

variable {f o}

theorem hasProperties_of_hasPropertyClass (h : hasPropertyClass w = true) : HasProperties w := by
  unfold hasPropertyClass at h
  split at h
  · rename_i k hk
    obtain ⟨hk', hi⟩ := Bool.and_eq_true_iff.mp h
    obtain rfl := of_decide_eq_true hk'
    obtain ⟨i, hi⟩ := Option.isSome_iff_exists.mp hi
    exact ⟨propertyClass, i, hk, hi, rfl, rfl⟩
  · cases h

namespace TallyReady

theorem prepared (h : TallyReady f o) : (tallyWrapper.prepare f o).outcome (tallyWorld false) =
    (.ok (tallyMethod f o, "main"), (tallyPrepared f o).2) := by
  have hmain := h.1
  have heq : (tallyWrapper.prepare f o).outcome (tallyWorld false) = tallyPrepared f o := rfl
  rw [heq]
  unfold tallyMethod
  cases hs : tallyPrepared f o with
  | mk r w =>
    rw [hs] at hmain
    cases r with
    | error e => cases hmain
    | ok r =>
      obtain ⟨m, c⟩ := r
      obtain rfl : c = "main" := Option.some.inj hmain
      rfl

theorem wrappable (h : TallyReady f o) :
    Wrappable tallyWrapper f o (tallyMethod f o) "main" (tallyPrepared f o).2 := by
  obtain ⟨-, -, hhints, hreturns, hcache, hmodules, htyping, hbuiltins, hlegible, hproperties⟩ := h
  exact wrappable_of_unannotated hcache hmodules
    (fun p hp => Option.isNone_iff_eq_none.mp (List.all_eq_true.mp hhints p hp))
    (Option.isNone_iff_eq_none.mp hreturns) htyping hbuiltins hlegible
    (.inr (hasProperties_of_hasPropertyClass hproperties))

theorem made (h : TallyReady f o) :
    ∃ k w', (tallyWrapper.createType f o).outcome (tallyWorld false) = (.ok k, w') :=
  eq_ok_of_isOk h.2.1

/-- The function of that world is still there when a class has been made. -/
theorem function (h : TallyReady f o) (hf : (tallyPrepared f o).2.function? 1 = some tally)
    (hmade : (tallyWrapper.createType f o).outcome (tallyWorld false) = (.ok k, w')) :
    w'.function? 1 = some tally := by
  obtain ⟨l, g, b, hb, -, -, -, hg⟩ := createType_generated h.wrappable h.prepared hmade
  exact hg.since.function? (hb.function? hf)

end TallyReady

/-- Whether a method has what its body relies on. -/
def isServedBy (w : World) (run : Nat) : Bool :=
  match ((w.function? run).bind Function.globals).bind w.module? with
  | some info =>
    match info.globals.get? cacheGlobal, info.globals.get? typingAlias with
    | some (.cache 0), some (.module t) =>
      match (w.module? t).bind fun types => types.globals.get? "cast" with
      | some (.native .cast) => true
      | _ => false
    | _, _ => false
  | none => false

/-- Whether the method of a class has what its body relies on. -/
def isServed (w : World) (k : Named) : Bool :=
  match (w.class? k.id).bind fun i => i.members.get? defaultMethodName with
  | some (.function run) => isServedBy w run
  | _ => false

theorem served_of_isServedBy {run : Nat} (h : isServedBy w run = true) : Served 0 run w := by
  unfold isServedBy at h
  split at h
  · rename_i info hinfo
    obtain ⟨m, hm, hinfo⟩ := Option.bind_eq_some_iff.mp hinfo
    obtain ⟨fn, hfn, hglobals⟩ := Option.bind_eq_some_iff.mp hm
    split at h
    · rename_i t hcache htyping
      split at h
      · rename_i hcast
        obtain ⟨types, ht, hcast⟩ := Option.bind_eq_some_iff.mp hcast
        exact ⟨fn, m, hfn, hglobals, info, t, types, hinfo, hcache, htyping, ht, hcast⟩
      · cases h
    · cases h
  · cases h

theorem served_of_isServed {i : ClassInfo} {run : Nat} (h : isServed w k = true)
    (hi : w.class? k.id = some i) (hrun : i.members.get? defaultMethodName = some (.function run)) :
    Served 0 run w := by
  unfold isServed at h
  rw [hi, Option.bind_some, hrun] at h
  exact served_of_isServedBy h

theorem served_tally (h : (tallyMade f o).1.toOption.all (isServed (tallyMade f o).2) = true)
    (hmade : (tallyWrapper.createType f o).outcome (tallyWorld false) = (.ok k, w')) :
    isServed w' k = true := by
  rw [tallyMade, hmade] at h
  exact h

theorem function_tally : (tallyWorld false).function? 1 = some tally := by with_unfolding_all rfl

theorem isPublicName_defaultMethodName : isPublicName defaultMethodName = true := by
  with_unfolding_all rfl

end Tally

/-! ## A partial call -/

/-- A partial call of the function. -/
def tallyFive : Value := .partialCall (.function 1) [] [("b", .int 5)]

theorem facts_tallyFive : TallyReady tallyFive {} ∧
    (tallyMade tallyFive {}).1.toOption.all (isServed (tallyMade tallyFive {}).2) = true ∧
    ∀ p ∈ leaveAll [⟨[], [("b", .int 5)]⟩] tally.params, ∀ x ∈ p.default,
      x.same Standard.empty = false := by
  decide +kernel

/-- The method of the class around a partial call of a function with a default and a surplus of names is
called like the partial call. -/
theorem run_alike_tally : ∃ k w' i run,
    (tallyWrapper.createType tallyFive {}).outcome (tallyWorld false) = (.ok k, w') ∧
    w'.class? k.id = some i ∧ i.members.get? defaultMethodName = some (.function run) ∧
    ∀ (n : Nat) (self : Value) (args : List Value) (kw : Keywords), (kw.map Prod.fst).Nodup →
      (∀ e ∈ kw, e.1 ≠ "self") → CallsAlike 0 (n + 2) (tallyMethod tallyFive {}) tally w'
        (bindArguments tally.params (deliver [⟨[], [("b", .int 5)]⟩] args kw).1
          (deliver [⟨[], [("b", .int 5)]⟩] args kw).2)
        ((callOut (n + 4) false tallyFive args kw).outcome w')
        ((callToEnd (n + 4 + bodyDepth (tallyMethod tallyFive {})) false (.bound self (.function run)) args
          kw).outcome w') := by
  obtain ⟨hready, hservedAll, hdefaults⟩ := facts_tallyFive
  obtain ⟨k, w', h⟩ := hready.made
  have hserved := served_tally hservedAll h
  have hfunction := hready.function (by with_unfolding_all rfl) h
  have hunwraps (w : World) : Unwraps w tallyFive 1 [⟨[], [("b", .int 5)]⟩] 1 :=
    .partialCall [] (by decide) (.function 1)
  obtain ⟨i, run, hi, hrun, -, hall⟩ := run_alike hready.wrappable hready.prepared h
    isPublicName_defaultMethodName rfl (hunwraps _) function_tally (by constructor <;> decide)
    (by decide) hdefaults
  exact ⟨k, w', i, run, h, hi, hrun, fun n self args kw hn hself =>
    hall w' (.refl w') (served_of_isServed hserved hi hrun) (hunwraps w') hfunction n self args kw hn hself⟩

/-- The method of a new object of a class, called with arguments. -/
def runOnNew (k : Named) (args : List Value) (kw : Keywords) : Run Value := do
  let self ← construct depth k [] []
  call depth (← getAttr depth self defaultMethodName) args kw

/-- Whether a class has been made whose method fails where its callable succeeds. -/
def failsAlone (x : Except Failure Named × World) (f : Value) (args : List Value) (kw : Keywords)
    (fault : Fault) : Bool :=
  match x.1 with
  | .ok k =>
    match ((runOnNew k args kw).outcome x.2).1, ((call depth f args kw).outcome x.2).1 with
    | .error (.fault e), .ok (.int 7) => decide (e = fault)
    | _, _ => false
  | .error _ => false

theorem exists_of_failsAlone {x : Except Failure Named × World} {fault : Fault}
    (h : failsAlone x f args kw fault = true) : ∃ k w w₁ w₂, x = (.ok k, w) ∧
      (runOnNew k args kw).outcome w = (.error (.fault fault), w₁) ∧
      (call depth f args kw).outcome w = (.ok (.int 7), w₂) := by
  unfold failsAlone at h
  split at h
  · rename_i k hk
    split at h
    · rename_i hrun hcall
      obtain rfl := of_decide_eq_true h
      exact ⟨k, _, _, _, Prod.ext hk rfl, Prod.ext hrun rfl, Prod.ext hcall rfl⟩
    · cases h
  · cases h

/-- **A module that is called like the cache takes its place.** The class is made and constructed, and the
partial call can be called with a number; but the method of the class cannot. -/
theorem shadowed_run_fails : ∃ k w w₁ w₂,
    (tallyWrapper.createType tallyFive {}).outcome (tallyWorld true) = (.ok k, w) ∧
    (runOnNew k [.int 1] []).outcome w = (.error (.fault .attribute), w₁) ∧
    (call depth tallyFive [.int 1] []).outcome w = (.ok (.int 7), w₂) :=
  exists_of_failsAlone (by decide +kernel)

end Facade.Wrapper
