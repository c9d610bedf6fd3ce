import Facade.Proofs.Writing
import Facade.Wrapper.Type

/-!
# Classes around classes, as they are written

Everything that is not text goes into the value cache while a class is laid out: decorators, hooks, the
factory, what hooks are told about methods, and defaults.

* `planAround`, `planAll_gives`: the plan for a class, and that planning makes it.
* `WritesMethod`, `WrittenAround`: what a layout has to do with the class it is for.
* `typeLayout_eq_ok`: a layout fetches whatever has been put into the cache for it.
* `typeProgram_eq_ok`: a program that is written has a layout.
-/

namespace Facade

open Facade.Describe (MethodInfo PropertyInfo)
open Syntax (Expr Stmt)

/-! ## Planning -/

namespace Wrapper

open Run Logged Execution Conversion

variable {tw : TypeWrapper} {o : TypeOptions} {k : Named} {p : Plan} {c : Nat} {w w' : World}
  {methods : List MethodInfo} {ms : List ConvertedMethod} {properties : List PropertyInfo}

/-- Methods after conversion. -/
def convertedMethods (rules : List Rule) (methods : List MethodInfo) : List ConvertedMethod :=
  methods.map fun m => ⟨m, m.params.map (convertedOf rules)⟩

/-- The plan after it has taken in the parameters of a method. -/
def adoptMethod (p : Plan) (m : ConvertedMethod) : Plan := m.parameters.foldl Plan.adopt p

/-- The plan after its constructor has got a further parameter. -/
def adoptParameter (p : Plan) (q : String × Value) : Plan :=
  { p with constructor := p.constructor.setDefault q.1 ⟨q.1, some q.2⟩ }

/-- The plan for a class. -/
def planAround (tw : TypeWrapper) (o : TypeOptions) (k : Named) (methods : List MethodInfo) : Plan :=
  o.constructorParameters.foldl adoptParameter <|
    (convertedMethods o.rules methods).foldl adoptMethod
      { rules := o.rules, cache := some tw.cache, selfTypeName := some (o.nameFor k) }

theorem cache_planAround (tw : TypeWrapper) (o : TypeOptions) (k : Named)
    (methods : List MethodInfo) : (planAround tw o k methods).cache = some tw.cache := by
  have parameters (qs : List (String × Value)) : ∀ p : Plan,
      (qs.foldl adoptParameter p).cache = p.cache := by
    induction qs with
    | nil => exact fun p => rfl
    | cons q qs ih => exact fun p => ih _
  have all (ms : List ConvertedMethod) : ∀ p : Plan, (ms.foldl adoptMethod p).cache = p.cache := by
    induction ms with
    | nil => exact fun p => rfl
    | cons m ms ih => exact fun p => (ih _).trans (rules_foldl_adopt _ p).2.1
  rw [planAround, parameters, all]

/-- **Planning a class** takes in the parameters of its methods, which it checks, then further ones. -/
theorem planAll_gives {plan plan' : Plan} (h : (TypeWrapper.planAll o methods).Gives plan ms plan') :
    ms = convertedMethods plan.rules methods ∧
      plan' = o.constructorParameters.foldl adoptParameter (ms.foldl adoptMethod plan) ∧
      ∀ m ∈ ms, ∀ q ∈ m.parameters, q.Checked := by
  unfold TypeWrapper.planAll at h
  obtain ⟨ms', p₁, hms, h₁⟩ := gives_bind h
  obtain ⟨⟨⟩, p₂, hparams, h₂⟩ := gives_bind h₁
  obtain ⟨rfl, rfl⟩ := gives_pure h₂
  obtain ⟨hmap, hp₁, hchecked⟩ := gives_mapM (I := fun p => p.rules = plan.rules)
    (g := fun m => ⟨m, m.params.map (convertedOf plan.rules)⟩) (t := adoptMethod)
    (Q := fun m => ∀ q ∈ m.parameters, q.Checked) methods (fun m p c p' hp hc => by
      obtain ⟨hc, hp', hchecked⟩ := convertMethod_gives hc
      rw [hp] at hc
      exact ⟨hc, hp', hchecked, by rw [hp']; exact (rules_foldl_adopt _ p).1.trans hp⟩) rfl hms
  refine ⟨hmap, ?_, hchecked⟩
  rw [← hp₁]
  exact gives_forM (t := adoptParameter) _
    (fun q p u p' hq => (gives_addConstructorParameter hq).2.2) hparams

/-! ## Layouts -/

/-- A decorator as it is written; absence is written out. -/
def WritesDecorator (c : Nat) (w : World) (v : Value) (e : Expr) : Prop :=
  (v.isNone = true ∧ e = .const .none) ∨ Fetched c w v e

/-- Hooks as they are written. -/
structure WritesHooks (c : Nat) (w : World) (h : Hooks) (es : HookExprs) : Prop where
  construct : Option.Rel (Fetched c w) h.construct es.construct
  before : Option.Rel (Fetched c w) h.before es.before
  after : Option.Rel (Fetched c w) h.after es.after

/-- A method as it is laid out. Its annotations have been spelled in a world `b`. -/
structure WritesMethod (c : Nat) (p : Plan) (es : HookExprs) (w : World) (m : ConvertedMethod)
    (l : MethodLayout) : Prop where
  method : l.method = m
  params : ∃ b ps, l.params = Plan.receiver (receiverKind ps) :: ps ∧
    List.Forall₂ (Writes c b w p.selfTypeName) m.methodParameters ps
  info : ∃ v : Option Value, v.isSome = (es.before.isSome || es.after.isSome) ∧
    (∀ x ∈ v, ∃ id, x = .methodInfo id m.method.name) ∧ Option.Rel (Fetched c w) v l.info
  result : ∃ v, l.result = resultOf p v m.method.returns

/-- A class as it is laid out. -/
structure WrittenAround (c : Nat) (o : TypeOptions) (k : Named) (p : Plan)
    (ms : List ConvertedMethod) (properties : List PropertyInfo) (w : World) (l : TypeLayout) :
    Prop where
  decorators : List.Forall₂ (WritesDecorator c w) o.decorators l.decorators
  hooks : WritesHooks c w o.hooks l.hooks
  provider : Fetched c w (.partialCall o.factory [o.factorySetup, .cls k] []) l.provider
  constructorParams : ∃ v, l.constructorParams = p.constructorParams v
  fields : ∃ firsts, l.fields = (p.constructor.values.map fun q => keepArgument q.name) ++ firsts ∧
    List.Forall₂ (GivesFirst c w) p.properties.values firsts
  properties : ∃ v, l.properties =
    p.propertyDefinitions v ++ properties.flatMap (typeProperty p v)
  methods : List.Forall₂ (WritesMethod c p l.hooks w) ms l.methods

theorem WritesDecorator.mono {v : Value} {e : Expr} (h : WritesDecorator c w v e)
    (hw : w.Grows w') : WritesDecorator c w' v e := h.imp_right fun h => h.mono hw

theorem WritesHooks.mono {h : Hooks} {es : HookExprs} (hs : WritesHooks c w h es)
    (hw : w.Grows w') : WritesHooks c w' h es where
  construct := rel_imp (fun _ _ h => h.mono hw) hs.construct
  before := rel_imp (fun _ _ h => h.mono hw) hs.before
  after := rel_imp (fun _ _ h => h.mono hw) hs.after

theorem WritesMethod.mono {es : HookExprs} {m : ConvertedMethod} {l : MethodLayout}
    (h : WritesMethod c p es w m l) (hw : w.Grows w') : WritesMethod c p es w' m l where
  method := h.method
  params := by
    obtain ⟨b, ps, hl, hps⟩ := h.params
    exact ⟨b, ps, hl, hps.imp fun _ _ hq => hq.mono hw⟩
  info := by
    obtain ⟨v, hv, hid, hl⟩ := h.info
    exact ⟨v, hv, hid, rel_imp (fun _ _ h => h.mono hw) hl⟩
  result := h.result

theorem WrittenAround.mono {l : TypeLayout} (h : WrittenAround c o k p ms properties w l)
    (hw : w.Grows w') : WrittenAround c o k p ms properties w' l where
  decorators := h.decorators.imp fun _ _ hd => hd.mono hw
  hooks := h.hooks.mono hw
  provider := h.provider.mono hw
  constructorParams := h.constructorParams
  fields := by
    obtain ⟨firsts, hl, hfirsts⟩ := h.fields
    exact ⟨firsts, hl, hfirsts.imp fun _ _ hq => hq.mono hw⟩
  properties := h.properties
  methods := h.methods.imp fun _ _ hm => hm.mono hw

/-! ## Laying out -/

/-- A value that is put into the cache for a class is fetched by what is written for it. -/
theorem cached_eq_ok {v : Value} {e : Expr} (hc : c < w.caches.size)
    (h : (cached c v).outcome w = (.ok e, w')) : Fetched c w' v e ∧ Filled w w' := by
  unfold cached at h
  obtain ⟨u, w₁, hu, h⟩ := bind_eq_ok h
  obtain ⟨rfl, rfl⟩ : cachedValue u = e ∧ w₁ = w' := by simpa using h
  have hadded := addValue_eq_ok hc hu
  exact ⟨hadded.fetched, hadded.filled⟩

theorem decorators_eq_ok {es : List Expr} (ds : List Value) (hc : c < w.caches.size)
    (h : (ds.mapM (decoratorExpr c)).outcome w = (.ok es, w')) :
    List.Forall₂ (WritesDecorator c w') ds es ∧ Filled w w' := by
  refine mapM_gives (R := fun w => WritesDecorator c w) Filled.refl Filled.trans
    (fun hw hd => hd.mono hw.grows) ds (fun v _ v₁ e v₂ hv he => ?_) h
  unfold decoratorExpr at he
  split at he
  · rename_i hnone
    obtain ⟨rfl, rfl⟩ : Expr.const .none = e ∧ v₁ = v₂ := by simpa using he
    exact ⟨.inl ⟨hnone, rfl⟩, .refl v₁⟩
  · exact (cached_eq_ok (hv.size.symm ▸ hc) he).imp_left .inr

theorem cacheHooks_eq_ok {hooks : Hooks} {es : HookExprs} (hc : c < w.caches.size)
    (h : (cacheHooks c hooks).outcome w = (.ok es, w')) : WritesHooks c w' hooks es ∧ Filled w w' := by
  have hook {w w' : World} (v : Option Value) {e : Option Expr} (hc : c < w.caches.size)
      (h : (v.mapM (cached c)).outcome w = (.ok e, w')) :
      Option.Rel (Fetched c w') v e ∧ Filled w w' :=
    optionMapM_gives (R := fun w => Fetched c w) Filled.refl v (fun _ _ _ _ he => cached_eq_ok hc he) h
  unfold cacheHooks at h
  obtain ⟨e₁, w₁, h₁, h⟩ := bind_eq_ok h
  obtain ⟨e₂, w₂, h₂, h⟩ := bind_eq_ok h
  obtain ⟨e₃, w₃, h₃, h⟩ := bind_eq_ok h
  obtain ⟨rfl, rfl⟩ : HookExprs.mk e₁ e₂ e₃ = es ∧ w₃ = w' := by simpa using h
  obtain ⟨hconstruct, hw₁⟩ := hook _ hc h₁
  obtain ⟨hbefore, hw₂⟩ := hook _ (hw₁.size.symm ▸ hc) h₂
  obtain ⟨hafter, hw₃⟩ := hook _ ((hw₁.trans hw₂).size.symm ▸ hc) h₃
  have hfetched {w w' : World} (hw : Filled w w') {v : Option Value} {e : Option Expr}
      (h : Option.Rel (Fetched c w) v e) : Option.Rel (Fetched c w') v e :=
    rel_imp (fun _ _ h => h.mono hw.grows) h
  exact ⟨⟨hfetched (hw₂.trans hw₃) hconstruct, hfetched hw₃ hbefore, hafter⟩,
    (hw₁.trans hw₂).trans hw₃⟩

theorem outcome_freshId (w : World) : freshId.outcome w =
    (.ok w.objects.size, { w with objects := w.objects.push .token }) := rfl

theorem enriched_push (w : World) (x : Object) :
    Enriched w { w with objects := w.objects.push x } := ⟨.push w x, rfl, rfl⟩

theorem methodLayout_eq_ok {es : HookExprs} {m : ConvertedMethod} {l : MethodLayout}
    (hp : p.cache = some c) (hc : c < w.caches.size)
    (h : (methodLayout p c es m).outcome w = (.ok l, w')) :
    WritesMethod c p es w' m l ∧ Enriched w w' := by
  unfold methodLayout at h
  obtain ⟨rs, w₁, hparams, h⟩ := bind_eq_ok h
  obtain ⟨ps, rfl, hps, hw₁⟩ := methodParams_eq_ok hp (b := w) rfl hc hparams
  have hc₁ : c < w₁.caches.size := hw₁.size.symm ▸ hc
  split at h
  · rename_i hh
    rw [outcome_bind, outcome_freshId, after_ok] at h
    obtain ⟨info, w₂, hinfo, h⟩ := bind_eq_ok h
    rw [map_eq_pure_bind] at hinfo
    obtain ⟨e, w₃, he, hdone⟩ := bind_eq_ok hinfo
    obtain ⟨rfl, rfl⟩ : some e = info ∧ w₃ = w₂ := by simpa using hdone
    have hv := enriched_push w₁ .token
    obtain ⟨hfetched, hw₃⟩ := cached_eq_ok (hv.size.symm ▸ hc₁) he
    rw [outcome_get_bind, outcome_pure, Prod.mk.injEq, Except.ok.injEq] at h
    obtain ⟨rfl, rfl⟩ := h
    have hext := hv.trans hw₃.toEnriched
    exact ⟨⟨rfl, ⟨w, ps, rfl, hps.imp fun _ _ hq => hq.mono hext.grows⟩,
      ⟨some _, hh.symm, by simp, .some hfetched⟩, ⟨w₃, rfl⟩⟩, hw₁.toEnriched.trans hext⟩
  · rename_i hh
    rw [outcome_pure_bind, outcome_get_bind, outcome_pure, Prod.mk.injEq, Except.ok.injEq] at h
    obtain ⟨rfl, rfl⟩ := h
    exact ⟨⟨rfl, ⟨w, ps, rfl, hps⟩, ⟨none, by simpa using hh, by simp, .none⟩, ⟨w₁, rfl⟩⟩,
      hw₁.toEnriched⟩

/-- **A layout fetches everything that has been put into the cache for it.** -/
theorem typeLayout_eq_ok {l : TypeLayout} (hp : p.cache = some c) (hc : c < w.caches.size)
    (h : (typeLayout o k c p ms properties).outcome w = (.ok l, w')) :
    WrittenAround c o k p ms properties w' l ∧ Enriched w w' := by
  unfold typeLayout at h
  obtain ⟨decorators, w₁, hdecorators, h⟩ := bind_eq_ok h
  obtain ⟨hooks, w₂, hhooks, h⟩ := bind_eq_ok h
  obtain ⟨provider, w₃, hprovider, h⟩ := bind_eq_ok h
  rw [outcome_get_bind] at h
  obtain ⟨fields, w₄, hfields, h⟩ := bind_eq_ok h
  rw [outcome_get_bind] at h
  obtain ⟨methods, w₅, hmethods, h⟩ := bind_eq_ok h
  rw [outcome_pure, Prod.mk.injEq, Except.ok.injEq] at h
  obtain ⟨rfl, rfl⟩ := h
  obtain ⟨hdecorators, hw₁⟩ := decorators_eq_ok _ hc hdecorators
  obtain ⟨hhooks, hw₂⟩ := cacheHooks_eq_ok (hw₁.size.symm ▸ hc) hhooks
  obtain ⟨hprovider, hw₃⟩ := cached_eq_ok ((hw₁.trans hw₂).size.symm ▸ hc) hprovider
  obtain ⟨firsts, rfl, hfirsts, hw₄⟩ :=
    constructorBody_eq_ok hp (((hw₁.trans hw₂).trans hw₃).size.symm ▸ hc) hfields
  have hw := ((hw₁.trans hw₂).trans hw₃).trans hw₄
  obtain ⟨hmethods, hw₅⟩ := mapM_gives (R := fun w => WritesMethod c p hooks w) Enriched.refl
    Enriched.trans (fun hw hm => hm.mono hw.grows) ms
    (fun m _ v l v' hv hl => methodLayout_eq_ok hp ((hw.toEnriched.trans hv).size.symm ▸ hc) hl)
    hmethods
  have h₄ := hw₄.grows.trans hw₅.grows
  have h₃ := hw₃.grows.trans h₄
  exact ⟨⟨hdecorators.imp fun _ _ hd => hd.mono (hw₂.grows.trans h₃), hhooks.mono h₃,
    hprovider.mono h₄, ⟨w₃, rfl⟩, ⟨firsts, rfl, hfirsts.imp fun _ _ hq => hq.mono hw₅.grows⟩,
    ⟨w₄, rfl⟩, hmethods⟩, hw.toEnriched.trans hw₅⟩

/-- **A program that is written for a class has a layout,** and its parameters have been checked. -/
theorem typeProgram_eq_ok {compiler : String} {q : Program} (hc : tw.cache < w.caches.size)
    (h : (tw.program k o compiler methods properties).outcome w = (.ok q, w')) :
    ∃ l : TypeLayout,
      TypeWrapper.settle o (.ofTree .draft (l.tree o k (w.compiler compiler).moduleNames)) = .ok q ∧
      WrittenAround tw.cache o k (planAround tw o k methods) (convertedMethods o.rules methods)
        properties w' l ∧ Enriched w w' ∧
      ∀ m ∈ convertedMethods o.rules methods, ∀ q ∈ m.parameters, q.Checked := by
  unfold TypeWrapper.program at h
  dsimp only at h
  obtain ⟨⟨ms, plan⟩, w₁, hplan, h₁⟩ := bind_eq_ok h
  obtain ⟨hgives, records, rfl⟩ := planning_eq_ok hplan
  obtain ⟨hms, hp, hchecked⟩ := planAll_gives hgives
  obtain rfl : ms = convertedMethods o.rules methods := hms
  obtain rfl : plan = planAround tw o k methods := hp
  rw [outcome_get_bind] at h₁
  dsimp only at h₁
  obtain ⟨l, w₂, hl, h₂⟩ := bind_eq_ok h₁
  obtain ⟨hsettled, rfl⟩ := lift_eq_ok h₂
  obtain ⟨hwritten, hw⟩ := typeLayout_eq_ok (w := { w with records := records })
    (cache_planAround tw o k methods) hc hl
  have hrecords : Enriched w { w with records := records } := ⟨.of_objects_eq rfl rfl rfl, rfl, rfl⟩
  exact ⟨l, hsettled, hwritten, hrecords.trans hw, hchecked⟩

end Wrapper

end Facade
