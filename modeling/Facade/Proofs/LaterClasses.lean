import Facade.Proofs.RoutedCalls

/-!
# Classes that are created later

Where annotations are calm, a class that is created is put beside what is there. A class that was created
before is left as it is, and so are its objects: they are made, keep what they are given and pass on their calls
as they would have done before.

* `Later`: more classes have been created, and other things have been added.
* `Later.extends_`: nothing that was there has changed.
* `objects_stay`: the objects of a class around a function, after other classes have been created.
-/

namespace Facade.Wrapper

open Run Execution Conversion Binding
open Facade.Describe.MethodInfo (isPublicName)

variable {cw : CallableWrapper} {o : CallableOptions} {method : Describe.MethodInfo} {compiler : String}
  {u v w w₁ w' : World} {k : Named} {c id : Nat}

/-- What follows on a world: classes around callables and around classes are created, where describing what they
wrap changes nothing that is there, and other objects and cached values are added. -/
inductive Later : World → World → Prop
  | start (w : World) : Later w w
  | added {w u v : World} (before : Later w u) (added : u.Extends v) : Later w v
  | callable {w u u₁ v : World} {cw : CallableWrapper} {f : Value} {o : CallableOptions}
      {method : Describe.MethodInfo} {compiler : String} {k : Named} (before : Later w u)
      (prepared : (cw.prepare f o).outcome u = (.ok (method, compiler), u₁)) (described : u.Extends u₁)
      (wrappable : Wrappable cw f o method compiler u₁)
      (created : (cw.createType f o).outcome u = (.ok k, v)) : Later w v
  | type {w u u₁ v : World} {tw : TypeWrapper} {x : Value} {o : TypeOptions} {s : Selection} {k : Named}
      (before : Later w u) (prepared : (tw.prepare x o).outcome u = (.ok s, u₁)) (described : u.Extends u₁)
      (wrappable : WrappableClass tw o s u₁) (created : (tw.createType x o).outcome u = (.ok k, v)) :
      Later w v

/-- **What was there before other classes were created is as it was.** -/
theorem Later.extends_ (h : Later w v) : w.Extends v := by
  induction h with
  | start => exact .refl _
  | added _ hv ih => exact ih.trans hv
  | callable _ hprepare hu hw hc ih =>
    obtain ⟨l, g, b, hb, -, -, -, hg⟩ := createType_generated hw hprepare hc
    exact ((ih.trans hu).trans hb).trans hg.since
  | type _ hprepare hu hs hc ih =>
    obtain ⟨l, ps, text, b, g, w₂, -, hb, hg⟩ := typeClass_generated hs hprepare hc
    exact ((ih.trans hu).trans hb).trans hg.generated.since

/-- What the body of a method relies on is not taken away. -/
theorem Served.extend (h : Served c id w) (hw : w.Extends v) : Served c id v := by
  obtain ⟨fn, m, hfn, hm, info, t, types, hinfo, hcache, htyping, htypes, hcast⟩ := h
  exact ⟨fn, m, hw.function? hfn, hm, info, t, types, hw.module? hinfo, hcache, htyping, hw.module? htypes,
    hcast⟩

/-- **The objects of a class stay what they are when other classes are created.** After that, too, an object of
the class around a function is made from the arguments of the constructor, gives what it has been made from and
the latest values of its properties, and passes on the calls of its method with them. -/
theorem objects_stay (hw : Wrappable cw (.function id) o method compiler w₁)
    (hprepare : (cw.prepare (.function id) o).outcome w = (.ok (method, compiler), w₁))
    (h : (cw.createType (.function id) o).outcome w = (.ok k, w'))
    (hname : isPublicName o.methodName = true) (hplain : o.typeName ∉ plainNames)
    (hglobal : o.typeName ∉ [cacheGlobal, typingAlias]) (hexception : isException w' k = false)
    (hroot : PlainRoot w₁) (hapart : Apart (planOf cw method o) o.typeName o.methodName) {info : Function}
    (hi : w.function? id = some info) (hlegal : IsLegal info.params) :
    ∃ i init run ctor fn, w'.class? k.id = some i ∧
      i.members.get? "__init__" = some (.function init) ∧ w'.function? init = some ctor ∧
      i.members.get? o.methodName = some (.function run) ∧ w'.function? run = some fn ∧
      (OffersCast run w' → ∀ v, Later w' v → v.class? k.id = some i ∧
        v.function? init = some ctor ∧ v.function? run = some fn ∧
        ∀ n ctorArgs ctorKw self u, (construct n k ctorArgs ctorKw).outcome v = (.ok self, u) →
          ∃ x own first, self = .instance x ∧
            bindArguments ctor.params (self :: ctorArgs) ctorKw = .ok own ∧
            (∀ q ∈ (planOf cw method o).properties.values, Begins q (first q.name)) ∧
            ∀ es u', History o.typeName (planOf cw method o) x u es u' →
              let held := heldFor o.typeName own first es
              Equipped 6 o.typeName self held (convertedMethod method o).parameters
                (u'.looked cw.cache) ∧
              (Served cw.cache run u' → u'.function? id = some info →
                PassesOn cw method o info run fn self held u')) := by
  obtain ⟨m, i, init, run, ctor, fn, hclass, hinit, hctor, -, hget, hfn, hforwards, hobjects⟩ :=
    createType_objects hw hprepare h hname hplain hexception hroot hapart
  refine ⟨i, init, run, ctor, fn, hclass, hinit, hctor, hget, hfn, fun hcast v hlater => ?_⟩
  have hv := hlater.extends_
  have hserved := (createType_served hw hprepare h hname hglobal hclass hget hcast).extend hv
  refine ⟨hv.class? hclass, hv.function? hctor, hv.function? hfn, fun n ctorArgs ctorKw self u hc => ?_⟩
  obtain ⟨x, own, first, hself, hown, hbegins, hhistories⟩ :=
    hobjects v hv.grows (hv.class? hclass) hserved n ctorArgs ctorKw self u hc
  refine ⟨x, own, first, hself, hown, hbegins, ?_⟩
  intro es u' hhistory held
  obtain ⟨hu', hequipped⟩ := hhistories es u' hhistory
  exact ⟨hequipped, fun hserved' hi' =>
    hforwards.passesOn hprepare hi hlegal hfn hu' hserved' hi' hequipped⟩

end Facade.Wrapper
