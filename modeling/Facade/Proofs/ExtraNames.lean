import Facade.Proofs.RoutedCalls

/-!
# Extra names

What a callable takes by names beyond its parameters can be passed through the class around it.

* `bindArguments_extra`: names that no parameter takes are the surplus.
* `Extra`: names that neither the method nor the callable takes for a parameter.
* `TakesExtra`: what it is for the method of an object to take them.
* `surplus_arrives`: the function takes extra names as its surplus.
* `run_on_self_fails`: the name of the receiver is none of them.
-/

namespace Facade.Binding

/-! ## Names that nothing takes -/

variable {ps all als : List Parameter} {kw jw own extra : Keywords} {args : List Value} {p : Parameter}

/-- Two tables of names give a parameter the same. -/
def SameFor (kw jw : Keywords) (p : Parameter) : Prop :=
  isNamed p = true → (jw.find? fun e => e.1 == p.name) = kw.find? fun e => e.1 == p.name

theorem SameFor.namedOrDefault (h : SameFor kw jw p) :
    namedOrDefault jw p = namedOrDefault kw p := by
  unfold Binding.namedOrDefault
  by_cases hp : isNamed p = true
  · rw [if_pos hp, if_pos hp, h hp]
  · rw [if_neg hp, if_neg hp]

theorem SameFor.isGivenByName (h : SameFor kw jw p) : isGivenByName jw p = isGivenByName kw p := by
  unfold Binding.isGivenByName
  by_cases hp : isNamed p = true
  · rw [← List.isSome_find?, ← List.isSome_find?, h hp]
  · rw [Bool.not_eq_true] at hp
    rw [hp, Bool.false_and, Bool.false_and]

/-- What binds with one table of names binds with another that gives the parameters the same. -/
theorem bindFrom_of_sameFor (ps : List Parameter) (h : ∀ p ∈ ps, SameFor kw jw p) :
    ∀ {args : List Value} {bs : List (String × Value)}, bindFrom all kw ps args = .ok bs →
      ∃ cs, bindFrom als jw ps args = .ok cs := by
  induction ps with
  | nil => exact fun _ => ⟨[], rfl⟩
  | cons p ps ih =>
    intro args bs hbs
    have hp := h p List.mem_cons_self
    have later {v u : Value} {args : List Value}
        (hbs : (bindFrom all kw ps args).map ((p.name, v) :: ·) = .ok bs) :
        ∃ cs, (bindFrom als jw ps args).map ((p.name, u) :: ·) = .ok cs := by
      obtain ⟨bs', hbs', -⟩ := map_eq_ok hbs
      obtain ⟨cs, hcs⟩ := ih (fun q hq => h q (List.mem_cons_of_mem p hq)) hbs'
      exact ⟨_, by rw [hcs]; rfl⟩
    have named {args : List Value} (hbs : (namedOrDefault kw p).elim (.error .type)
        (fun v => (bindFrom all kw ps args).map ((p.name, v) :: ·)) = .ok bs) :
        ∃ cs, (namedOrDefault jw p).elim (.error .type)
          (fun v => (bindFrom als jw ps args).map ((p.name, v) :: ·)) = .ok cs := by
      rw [hp.namedOrDefault]
      cases hv : namedOrDefault kw p with
      | none => rw [hv] at hbs; cases hbs
      | some v => rw [hv] at hbs; exact later hbs
    by_cases hpos : isPositional p = true
    · cases args with
      | nil =>
        rw [bindFrom_position_nil hpos] at hbs ⊢
        exact named hbs
      | cons v args =>
        rw [bindFrom_position hpos] at hbs ⊢
        rw [hp.isGivenByName]
        split at hbs
        · cases hbs
        · rename_i hg
          rw [if_neg hg]
          exact later hbs
    · cases hk : p.kind with
      | positionalOnly | positionalOrKeyword => simp [isPositional, hk] at hpos
      | varPositional =>
        rw [bindFrom_varPositional hk] at hbs ⊢
        exact later hbs
      | keywordOnly =>
        rw [bindFrom_keywordOnly hk] at hbs ⊢
        exact named hbs
      | varKeyword =>
        rw [bindFrom_varKeyword hk] at hbs ⊢
        exact later hbs

/-- **Names that no parameter takes are accepted** where there is a parameter for the surplus of names, and
they are the surplus. -/
theorem bindArguments_extra {bs : List (String × Value)} (hk : hasKind .varKeyword ps = true)
    (hbound : bindArguments ps args own = .ok bs)
    (hextra : ∀ e ∈ extra, ∀ p ∈ ps, isNamed p = true → p.name ≠ e.1)
    (hown : ∀ e ∈ own, ∃ p ∈ ps, isNamed p = true ∧ p.name = e.1) :
    (∃ cs, bindArguments ps args (own ++ extra) = .ok cs) ∧ surplus ps (own ++ extra) = extra := by
  constructor
  · obtain ⟨hfrom, -⟩ := bindArguments_eq_ok hbound
    have hsame : ∀ p ∈ ps, SameFor own (own ++ extra) p := by
      intro p hp hn
      have hnone : (extra.find? fun e => e.1 == p.name) = none :=
        List.find?_eq_none.mpr fun e he h => hextra e he p hp hn (beq_iff_eq.mp h).symm
      rw [List.find?_append, hnone, Option.or_none]
    obtain ⟨cs, hcs⟩ : ∃ cs, bindFrom ps (own ++ extra) ps args = .ok cs :=
      bindFrom_of_sameFor ps hsame hfrom
    refine ⟨cs, ?_⟩
    unfold bindArguments at hbound ⊢
    rw [hk] at hbound ⊢
    split at hbound
    · cases hbound
    · rename_i hlen
      rw [if_neg hlen]
      simpa using hcs
  · have hnone : surplus ps own = [] := by
      refine List.filter_eq_nil_iff.mpr fun e he => ?_
      obtain ⟨p, hp, hn, he⟩ := hown e he
      have : (ps.any fun p => isNamed p && p.name == e.1) = true :=
        List.any_eq_true.mpr ⟨p, hp, by simp [hn, he]⟩
      simp [this]
    have hall : surplus ps extra = extra := by
      refine List.filter_eq_self.mpr fun e he => ?_
      rw [Bool.not_eq_true', List.any_eq_false]
      intro p hp
      have := hextra e he p hp
      simp only [Bool.and_eq_true, beq_iff_eq, not_and]
      exact this
    unfold surplus at hnone hall ⊢
    rw [List.filter_append, hnone, hall, List.nil_append]

end Facade.Binding

namespace Facade.Wrapper

open Run Execution Conversion Binding Describe
open Facade.Describe.MethodInfo (isPublicName)
open Syntax (mangle)

variable {cw : CallableWrapper} {f self : Value} {o : CallableOptions} {method : MethodInfo}
  {compiler : String} {w w₁ w' v : World} {k : Named} {m n d id : Nat} {fn info : Function}
  {ps : List Parameter} {args : List Value} {own extra kw : Keywords}

/-- Names that are extra: neither the receiver's nor those of the parameters that the method has, nor those by
which the callable takes arguments. Where a parameter is given by position only, the receiver is as well, and
its name is free. -/
structure Extra (cls : String) (q : ConvertedMethod) (ps : List Parameter) (extra : Keywords) : Prop where
  receiver : (∀ p ∈ q.methodParameters, p.parameter.kind ≠ .positionalOnly) → ∀ e ∈ extra, e.1 ≠ "self"
  method : ∀ e ∈ extra, ∀ p ∈ q.methodParameters, mangle (some cls) p.name ≠ e.1
  callable : ∀ e ∈ extra, ∀ p ∈ ps, isNamed p = true → p.name ≠ e.1

/-- The method `run` of an object takes extra names besides arguments for its parameters: the call is accepted,
and the function takes them, and nothing else, as its surplus. -/
def TakesExtra (cw : CallableWrapper) (method : MethodInfo) (o : CallableOptions) (info fn : Function)
    (run d : Nat) (self : Value) (v : World) : Prop :=
  ∀ (args : List Value) (own extra : Keywords) (bound : List (String × Value)),
    bindArguments fn.params (self :: args) own = .ok bound →
    (∀ e ∈ own, ∃ p ∈ fn.params, isNamed p = true ∧ p.name = e.1) →
    (extra.map Prod.fst).Nodup → Extra o.typeName (convertedMethod method o) info.params extra →
    ∃ val : Parameter → Value,
      (∀ p ∈ info.params, p.kind = .varKeyword → val p = Value.dictOfNames extra) ∧
      ∀ n, d ≤ n →
        (callToEnd (n + 3 + bodyDepth method) info.isAsync (.bound self (.function run)) args
            (own ++ extra)).outcome v =
          (Execution.runFunction (runDepth (n + 2) 0 info) info
            (info.params.map fun p => (p.name, val p)) >>= fun x =>
              pure (handBack method x)).outcome (v.looked cw.cache)

theorem hasKind_varKeyword_made {r : Parameter} {qs : List ConvertedParameter} {cls : String}
    {all : List Parameter} (hall : List.Forall₂ (MadeFor (some cls)) (qs.filter fun q => q.route = .method) all)
    (h : List.Forall₂ Describes ps qs) (hk : hasKind .varKeyword ps = true) :
    hasKind .varKeyword (r :: all) = true := by
  obtain ⟨p, hp, hkind⟩ := List.any_eq_true.mp hk
  rw [decide_eq_true_eq] at hkind
  obtain ⟨q, hq, hd⟩ := exists_of_forall₂ h hp
  have hroute := hd.route (by rw [hkind]; rfl)
  obtain ⟨x, hx, hmade⟩ := exists_of_forall₂ hall (List.mem_filter.mpr ⟨hq, by simpa using hroute⟩)
  refine List.any_eq_true.mpr ⟨x, List.mem_cons_of_mem r hx, ?_⟩
  rw [decide_eq_true_eq, hmade.kind, hd.kind, hkind]

/-- **Extra names arrive** at the function that a method forwards to, whatever object it is called on, if there
is a value for each parameter that is not the method's. -/
theorem Forwards.takesExtra {run : Nat} {held : ConvertedParameter → Value}
    (h : Forwards cw (.function id) method o m v fn)
    (hfn : v.function? run = some fn) (hserves : Serves cw.cache m v)
    (hi : v.function? id = some info) (hasync : method.isAsync = info.isAsync)
    (hlegal : IsLegal info.params) (hsig : IsDescribedBy info.params method)
    (hequipped : Equipped d o.typeName self held (convertedMethod method o).parameters
      (v.looked cw.cache))
    (hk : hasKind .varKeyword info.params = true) : TakesExtra cw method o info fn run d self v := by
  intro args own extra bound hbound hown hn hextra
  obtain ⟨r, all, hparams, hr, hpos, hall⟩ := h.params
  have hkinds : hasKind .varKeyword fn.params = true := by
    rw [hparams]
    exact hasKind_varKeyword_made hall (describes_converted hsig o) hk
  have hfree : ∀ e ∈ extra, ∀ p ∈ fn.params, isNamed p = true → p.name ≠ e.1 := by
    rw [hparams]
    intro e he p hp hnamed
    rcases List.mem_cons.mp hp with rfl | hp
    · rw [hr]
      exact Ne.symm (hextra.receiver (h.receiver_named hparams hnamed) e he)
    · obtain ⟨q, hq, hmade⟩ := exists_of_forall₂_right hall hp
      rw [hmade.name]
      exact hextra.method e he q hq
  obtain ⟨⟨bound', hbound'⟩, hsurplus⟩ := bindArguments_extra hkinds hbound hfree hown
  have hcall := h.callToEnd_function hfn hserves hi hasync hlegal hsig hequipped hbound'
    (by rwa [hsurplus]) (by rw [hsurplus]; exact hextra.callable)
  rw [hsurplus] at hcall
  exact ⟨_, hcall⟩

/-- **Extra names arrive:** whatever the rules, calls of the class around a function that takes a surplus of
names may pass any that are extra, and the function takes them as they are. It is so for every object from
which the method has a value for each parameter that is not its own, and the objects that have been made of the
class are such, whatever has happened to them, if what they hold is kept apart. -/
theorem surplus_arrives (hw : Wrappable cw (.function id) o method compiler w₁)
    (hprepare : (cw.prepare (.function id) o).outcome w = (.ok (method, compiler), w₁))
    (h : (cw.createType (.function id) o).outcome w = (.ok k, w'))
    (hname : isPublicName o.methodName = true) (hi : w.function? id = some info)
    (hlegal : IsLegal info.params) (hk : hasKind .varKeyword info.params = true) :
    ∃ i run fn, w'.class? k.id = some i ∧ i.members.get? o.methodName = some (.function run) ∧
      w'.function? run = some fn ∧
      (o.typeName ∉ [cacheGlobal, typingAlias] → OffersCast run w' → Served cw.cache run w') ∧
      (∀ v, w'.Grows v → Served cw.cache run v → v.function? id = some info →
        ∀ (d : Nat) (self : Value) (held : ConvertedParameter → Value),
          Equipped d o.typeName self held (convertedMethod method o).parameters (v.looked cw.cache) →
          TakesExtra cw method o info fn run d self v) ∧
      (o.typeName ∉ plainNames → isException w' k = false → PlainRoot w₁ →
        Apart (planOf cw method o) o.typeName o.methodName →
        ∀ v, w'.Grows v → v.class? k.id = some i → Served cw.cache run v →
          ∀ n ctorArgs ctorKw self u, (construct n k ctorArgs ctorKw).outcome v = (.ok self, u) →
            ∃ x, self = .instance x ∧
              ∀ es u', History o.typeName (planOf cw method o) x u es u' → Served cw.cache run u' →
                u'.function? id = some info → TakesExtra cw method o info fn run 6 self u') := by
  obtain ⟨m, i, run, fn, hclass, hget, hfn, hforwards⟩ := createType_forwards hw hprepare h hname
  obtain ⟨hsig, hasync⟩ := prepare_function hprepare hi
  have hequipped : ∀ v, w'.Grows v → Served cw.cache run v → v.function? id = some info →
      ∀ (d : Nat) (self : Value) (held : ConvertedParameter → Value),
        Equipped d o.typeName self held (convertedMethod method o).parameters (v.looked cw.cache) →
        TakesExtra cw method o info fn run d self v := by
    intro v hv hserved hiv d self held hequipped
    obtain ⟨home, hfn'⟩ := hv.function? hfn
    obtain ⟨fn', hfn'', hforwards'⟩ := hforwards.mono hfn hv
    obtain rfl := Option.some.inj (hfn'.symm.trans hfn'')
    exact hforwards'.takesExtra hfn' (hserved.serves hfn' hforwards'.globals) hiv hasync hlegal hsig
      hequipped hk
  refine ⟨i, run, fn, hclass, hget, hfn, fun hcls => createType_served hw hprepare h hname hcls hclass hget,
    hequipped, ?_⟩
  intro hplain hexception hroot hapart v hv hvi hserved n ctorArgs ctorKw self u hc
  obtain ⟨m', i', init, run', ctor, fn', hi', -, -, -, hrun', -, -, hobjects⟩ :=
    createType_objects hw hprepare h hname hplain hexception hroot hapart
  obtain rfl := Option.some.inj (hclass.symm.trans hi')
  obtain rfl := Value.function.inj (Option.some.inj (hget.symm.trans hrun'))
  obtain ⟨x, own, first, hself, -, -, hhistories⟩ := hobjects v hv hvi hserved n ctorArgs ctorKw self u hc
  refine ⟨x, hself, fun es u' hhistory hserved' hi' => ?_⟩
  obtain ⟨hu', hheld⟩ := hhistories es u' hhistory
  exact hequipped u' hu' hserved' hi' 6 self _ hheld

/-- The function takes two names that its class does not know. -/
theorem surplus_arrives_tally : ∃ k w' x u u' run,
    (tallyWrapper.createType (.function 1) keptOptions).outcome (tallyWorld false) = (.ok k, w') ∧
    (construct depth k [.int 5] []).outcome w' = (.ok (.instance x), u) ∧
    (setAttr depth (.instance x) "A" (.int 1)).outcome u = (.ok ⟨⟩, u') ∧
    ∃ val : Parameter → Value,
      (∀ p ∈ tally.params, p.kind = .varKeyword →
        val p = Value.dictOfNames [("x", .int 3), ("y z", .int 4)]) ∧
      ∀ n, 6 ≤ n →
        (callToEnd (n + 3 + bodyDepth (tallyMethod (.function 1) keptOptions)) false
            (.bound (.instance x) (.function run)) [] ([] ++ [("x", .int 3), ("y z", .int 4)])).outcome u' =
          (runFunction (runDepth (n + 2) 0 tally) tally (tally.params.map fun p => (p.name, val p)) >>=
            fun r => pure (handBack (tallyMethod (.function 1) keptOptions) r)).outcome (u'.looked 0) := by
  obtain ⟨-, hapart, -, -, hplain, hroot, -⟩ := facts_kept
  obtain ⟨k, w', i, run, fn, x, u, u', bound, -, -, h, hi, hrun, hfn, hserved, hconstruct, hset, hhistory, -,
    hserved', hfunction, hbound, -⟩ := object_kept
  obtain ⟨i', run', fn', hi', hrun', hfn', -, -, hall⟩ := surplus_arrives ready_kept.wrappable
    ready_kept.prepared h isPublicName_defaultMethodName function_tally (by constructor <;> decide) (by decide)
  obtain rfl := Option.some.inj (hi.symm.trans hi')
  obtain rfl := Value.function.inj (Option.some.inj (hrun.symm.trans hrun'))
  obtain rfl := Option.some.inj (hfn.symm.trans hfn')
  have hextra : Extra keptOptions.typeName (convertedMethod (tallyMethod (.function 1) keptOptions) keptOptions)
      tally.params [("x", .int 3), ("y z", .int 4)] := by
    refine ⟨fun _ => by decide, fun e he p hp hpe => ?_, by decide⟩
    have hmem : mangle (some keptOptions.typeName) p.name ∈ ["options"] := by
      rw [← facts_kept.2.2.2.1]
      exact List.mem_map_of_mem hp
    have hfree : ∀ e ∈ [("x", Value.int 3), ("y z", Value.int 4)], e.1 ∉ ["options"] := by decide
    exact hfree e he (hpe ▸ hmem)
  obtain ⟨y, hy, hcalls⟩ := hall hplain (isKept_made h).1 (plainRoot_of_hasPlainRoot hroot) hapart w' (.refl w')
    hi hserved depth [.int 5] [] _ u hconstruct
  obtain rfl := Value.instance.inj hy
  exact ⟨k, w', x, u, u', run, h, hconstruct, hset, hcalls _ u' hhistory hserved' hfunction [] []
    [("x", .int 3), ("y z", .int 4)] bound hbound nofun (by decide) hextra⟩

/-- **The name of the receiver is not among them.** The function takes it as a part of its surplus; the method
of the class takes itself for it. -/
theorem run_on_self_fails : ∃ k w w₁ w₂,
    (tallyWrapper.createType (.function 1) {}).outcome (tallyWorld false) = (.ok k, w) ∧
    (runOnNew k [.int 1] [("self", .int 2)]).outcome w = (.error (.fault .type), w₁) ∧
    (call depth (.function 1) [.int 1] [("self", .int 2)]).outcome w = (.ok (.int 7), w₂) :=
  exists_of_failsAlone (by decide +kernel)

end Facade.Wrapper
