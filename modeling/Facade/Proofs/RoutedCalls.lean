import Facade.Proofs.Construction
import Facade.Proofs.AlikeCalls

/-!
# Routed calls

An object of the class around a function passes on what has been routed to it.

* `Holds`: what an object has been given: arguments of its constructor, and values of its properties.
* `KeepsFor.construct_eq_ok`, `Holds.assigned`: what construction and an assignment leave behind.
* `History`, `History.holds`: what an object holds after whatever has happened to it.
* `PassesOn`, `Forwards.passesOn`: calls of the method are calls of the function.
* `routed_call`: a call of the method is one call of the function, with what has been routed.
* `shared_field_fails`: two parameters that share a field.
-/

namespace Facade.Wrapper

open Run Execution Conversion Binding
open Facade.Describe (MethodInfo given)
open Facade.Describe.MethodInfo (isPublicName)
open Syntax (Expr Stmt Param mangle)

variable {cw : CallableWrapper} {f : Value} {o : CallableOptions} {method : MethodInfo} {compiler : String}
  {w w₁ w' b u v : World} {k : Named} {c m n x id : Nat} {cls name : String} {fn : Function} {a r : Value}
  {es : List (String × Value)} {p : Plan}

/-! ## Objects -/

/-- An object holds the arguments of its constructor, and for each property the latest value that has been
assigned to it, or else its first one. -/
structure Holds (cls : String) (p : Plan) (x : Nat) (own : List (String × Value)) (first : String → Value)
    (es : List (String × Value)) (w : World) : Prop where
  standing : Standing w x
  free : ∀ n ∈ keptNames p, Free w x (fieldIn cls n)
  properties : ∀ q ∈ p.properties.values, HasProperty cls x q.name w
  arguments : ∀ q ∈ p.constructor.values,
    w.field? x (fieldIn cls q.name) = some ((given own (mangle (some cls) q.name)).getD .none)
  values : ∀ q ∈ p.properties.values,
    w.field? x (fieldIn cls q.name) = some ((lastValue es q.name).getD (first q.name))

/-- What the class of an object that has just been allocated has for it. -/
theorem KeepsFor.allocated {i : ClassInfo} (h : KeepsFor c cls p m v k i) (hroot : PlainRoot v) :
    let w : World := { v with objects := v.objects.push (.instance ⟨k, {}⟩) }
    let x := v.objects.size
    Standing w x ∧ (∀ s, w.field? x s = none) ∧
      (∀ s a, i.members.get? s = some a → w.member? x s = some a) ∧
      ∀ s, i.members.get? s = none → IsField w x s := by
  intro w x
  have hext : v.Extends w := .push v _
  have hinstance : w.instance? x = some ⟨k, {}⟩ := by
    simp [World.instance?, w, x]
  have hclass := hext.class? h.class_
  obtain ⟨r, hr, hrlin, -, hmembers⟩ := hroot.root
  have hroot' := hext.class? hr
  have hlin : w.linearisation k.id = [k, Standard.object] := by
    rw [World.linearisation, hclass, Option.map_some, Option.getD_some, h.linearisation]
  have hmember (s : String) : w.member? x s = (i.members.get? s <|> r.members.get? s) := by
    rw [World.member?, hinstance, Option.bind_some, hlin, World.findMember?, List.findSome?_cons,
      List.findSome?_cons, hclass, hroot', Option.bind_some, Option.bind_some]
    cases i.members.get? s <;> cases r.members.get? s <;> rfl
  refine ⟨⟨_, i, hinstance, hclass, ?_⟩, fun s => ?_, fun s a ha => ?_, fun s hs g t => ?_⟩
  · rw [h.linearisation]
    simp only [List.mem_cons, List.not_mem_nil, or_false, forall_eq_or_imp, forall_eq]
    exact ⟨⟨i, hclass⟩, r, hroot'⟩
  · rw [World.field?, hinstance]
    rfl
  · rw [hmember, ha]
    rfl
  · rw [hmember, hs]
    exact hmembers s g t

/-- An object to which the constructor has written holds what has been written. -/
theorem KeepsFor.holds {i : ClassInfo} {own : List (String × Value)} (h : KeepsFor c cls p m v k i)
    (hv : v.Grows w) (hapart : Apart p cls name) (hstanding : Standing w x)
    (hfree : ∀ n ∈ keptNames p, Free w x (fieldIn cls n))
    (hmember : ∀ s a, i.members.get? s = some a → w.member? x s = some a)
    (hes : List.Forall₂ (fun q e => e.1 = fieldIn cls q.name ∧ Begins q e.2) p.properties.values es)
    (hsets : Sets x ((p.constructor.values.map ConstructorParameter.name).map
      (fun n => (fieldIn cls n, (given own (mangle (some cls) n)).getD .none)) ++ es) w w') :
    ∃ first, (∀ q ∈ p.properties.values, Begins q (first q.name)) ∧ Holds cls p x own first [] w' := by
  have hkeys : (((p.constructor.values.map ConstructorParameter.name).map
      (fun n => (fieldIn cls n, (given own (mangle (some cls) n)).getD .none)) ++ es).map Prod.fst) =
        (keptNames p).map (fieldIn cls) := by
    have hes' : es.map Prod.fst = (p.properties.values.map RoutedProperty.name).map (fieldIn cls) := by
      rw [List.map_map, ← List.forall₂_eq_eq_eq, List.forall₂_map_left_iff, List.forall₂_map_right_iff]
      exact hes.flip.imp fun _ _ h => h.1
    rw [List.map_append, hes', keptNames, List.map_append, List.map_map]
    rfl
  have hnodup := hkeys ▸ hapart.parts.1
  have hfield {e : String × Value} (he : e ∈ (p.constructor.values.map ConstructorParameter.name).map
      (fun n => (fieldIn cls n, (given own (mangle (some cls) n)).getD .none)) ++ es) :
      w'.field? x e.1 = some e.2 := by
    rw [hsets.fields, lastValue_of_mem hnodup he]
    rfl
  have hfirst {q : RoutedProperty} (hq : q ∈ p.properties.values) :
      ∃ a, w'.field? x (fieldIn cls q.name) = some a ∧ Begins q a := by
    obtain ⟨e, he, hname, hbegins⟩ := exists_of_forall₂ hes hq
    exact ⟨e.2, hname ▸ hfield (List.mem_append_right _ he), hbegins⟩
  refine ⟨fun n => (w'.field? x (fieldIn cls n)).getD .none, fun q hq => ?_,
    hsets.standing hstanding, fun n hn => (hfree n hn).alters hsets.toAlters, fun q hq => ?_, fun q hq => ?_,
    fun q hq => ?_⟩
  · obtain ⟨a, ha, hbegins⟩ := hfirst hq
    dsimp only
    rwa [ha]
  · obtain ⟨g, s, hint, b, hget, ⟨-, fg, hfg, hg⟩, -, fs, hfs, hs⟩ := h.properties q hq
    obtain ⟨home, hfg'⟩ := hv.function? hfg
    obtain ⟨home', hfs'⟩ := hv.function? hfs
    have : HasProperty cls x q.name w := ⟨g, s, hint, c, b, m, _, _, hmember _ _ hget, hfg', hfs',
      ⟨hg.params, hg.isAsync, hg.globals, hg.body⟩, ⟨hs.params, hs.isAsync, hs.globals, hs.body⟩⟩
    exact this.alters hsets.toAlters
  · refine hfield (e := (fieldIn cls q.name, (given own (mangle (some cls) q.name)).getD .none))
      (List.mem_append_left _ ?_)
    exact List.mem_map.mpr ⟨q.name, List.mem_map_of_mem hq, rfl⟩
  · obtain ⟨a, ha, -⟩ := hfirst hq
    rw [ha]
    rfl

/-- **A constructed object holds the arguments of its constructor** and the first values of its properties. -/
theorem KeepsFor.construct_eq_ok {i : ClassInfo} {args : List Value} {kw : Keywords}
    (h : KeepsFor c cls p m v k i) (hroot : PlainRoot v) (hserves : Serves c m v)
    (hexception : isException v k = false) (hplain : cls ∉ plainNames) (hapart : Apart p cls name)
    (hc : (construct n k args kw).outcome v = (.ok r, u)) :
    ∃ init fn x own first, r = .instance x ∧ i.members.get? "__init__" = some (.function init) ∧
      v.function? init = some fn ∧ bindArguments fn.params (.instance x :: args) kw = .ok own ∧
      (∀ q ∈ p.properties.values, Begins q (first q.name)) ∧ Holds cls p x own first [] u := by
  obtain ⟨init, fn, rs, firsts, b, hinit, hfn, hb, hf, hrs, hfirsts⟩ := h.init
  obtain ⟨rfl, j, y, hcall⟩ := Wrapper.construct_eq_ok h.class_ (h.qualname ▸ hplain) hexception h.builtin
    (by rw [h.linearisation, World.findMember?, List.findSome?_cons, h.class_, Option.bind_some, hinit]) hc
  obtain ⟨hstanding, hfresh, hmember, hisField⟩ := h.allocated hroot
  have hext : v.Extends { v with objects := v.objects.push (.instance ⟨k, {}⟩) } := .push v _
  generalize ({ v with objects := v.objects.push (.instance ⟨k, {}⟩) } : World) = v₀ at *
  generalize v.objects.size = x at *
  obtain ⟨own, j', fr', flow, hbound, hblock⟩ := call_code_eq_ok (hext.function? hfn) hf.isAsync hf.body hcall
  have hkeeps : (rs.map fun r => keepArgument r.name) = (rs.map Param.name).map keepArgument := by
    rw [List.map_map]
    rfl
  have hfree : ∀ n ∈ keptNames p, Free v₀ x (fieldIn cls n) := fun n hn =>
    ⟨hisField _ (h.others n hn), fun hm => hapart.field_not_mem hn (List.mem_append_right _ hm)⟩
  have hnames : ∀ r ∈ rs, r.name ∉ reservedNames := by
    intro r hr
    have hr := List.mem_map_of_mem (f := Param.name) hr
    rw [hrs] at hr
    obtain ⟨q, hq, he⟩ := List.mem_map.mp hr
    exact he ▸ h.notReserved q hq
  rw [hkeeps] at hblock hf
  have hserves₀ : Serves c m v₀ := by
    obtain ⟨info, t, types, hm, hcache, htyping, ht, hcast⟩ := hserves
    exact ⟨info, t, types, hext.module? hm, hcache, htyping, hext.module? ht, hcast⟩
  have hnothing : boundNamesOf (orPass ((rs.map Param.name).map keepArgument ++ firsts)) = [] :=
    boundNames_constructor hfirsts
  have hsees := seesArguments_ofCall hf hnames hnothing hbound
  rw [hrs] at hblock hsees
  obtain ⟨es, hes, hsets⟩ := constructor_sets hfirsts (hb.trans hext.grows) hserves₀ hsees hstanding hfree
    hblock
  obtain ⟨first, hbegins, hholds⟩ := h.holds hext.grows hapart hstanding hfree hmember hes hsets
  exact ⟨init, fn, x, own, first, rfl, hinit, hfn, hbound, hbegins, hholds⟩

/-! ## Histories -/

/-- What happens to an object: properties are assigned, and whatever else happens leaves its fields and what
its class has for it as they are. -/
inductive History (cls : String) (p : Plan) (x : Nat) (u : World) : List (String × Value) → World → Prop
  | start : History cls p x u [] u
  | assigned {es : List (String × Value)} {w w' : World} {n : Nat} {q : RoutedProperty} {a : Value}
      (before : History cls p x u es w) (known : q ∈ p.properties.values)
      (set : (setAttr n (.instance x) (mangle (some cls) q.name) a).outcome w = (.ok ⟨⟩, w')) :
      History cls p x u (es ++ [(q.name, a)]) w'
  | other {es : List (String × Value)} {w w' : World} (before : History cls p x u es w)
      (alone : Alters x [] w w') : History cls p x u es w'

namespace Holds

variable {own : List (String × Value)} {first : String → Value}

theorem alters (h : Holds cls p x own first es w) (hw : Alters x [] w w') :
    Holds cls p x own first es w' where
  standing := hw.standing h.standing
  free n hn := (h.free n hn).alters hw
  properties q hq := (h.properties q hq).alters hw
  arguments q hq := (hw.fields _).trans (h.arguments q hq)
  values q hq := (hw.fields _).trans (h.values q hq)

theorem mem_keptNames {q : RoutedProperty} (hq : q ∈ p.properties.values) : q.name ∈ keptNames p :=
  List.mem_append_right _ (List.mem_map_of_mem hq)

/-- **Assigning a property** makes the value its latest one, and leaves the other ones. -/
theorem assigned (h : Holds cls p x own first es w) (hapart : Apart p cls name) {q : RoutedProperty}
    (hq : q ∈ p.properties.values)
    (hset : (setAttr n (.instance x) (mangle (some cls) q.name) a).outcome w = (.ok ⟨⟩, w')) :
    Holds cls p x own first (es ++ [(q.name, a)]) w' := by
  have hname := h.free q.name (mem_keptNames hq)
  have hw := (h.properties q hq).alters_of_setAttr hname.isField hname.special hset
  have hne {n : String} (hn : n ∈ keptNames p) (hne : n ≠ q.name) : fieldIn cls q.name ≠ fieldIn cls n :=
    fun he => hne (List.inj_on_of_nodup_map hapart.parts.1 hn (mem_keptNames hq) he.symm)
  refine ⟨hw.standing h.standing, fun n hn => (h.free n hn).alters hw,
    fun r hr => (h.properties r hr).alters hw, fun r hr => ?_, fun r hr => ?_⟩
  · have hr' : r.name ∈ keptNames p := List.mem_append_left _ (List.mem_map_of_mem hr)
    have hfields := hapart.parts.1
    rw [keptNames, List.map_append, List.nodup_append] at hfields
    have : fieldIn cls q.name ≠ fieldIn cls r.name := fun he =>
      hfields.2.2 _ (List.mem_map_of_mem (List.mem_map_of_mem hr)) _
        (List.mem_map_of_mem (List.mem_map_of_mem hq)) he.symm
    rw [hw.fields, ← h.arguments r hr, lastValue_singleton, if_neg this]
    rfl
  · rw [hw.fields, lastValue_append, lastValue_singleton, lastValue_singleton]
    by_cases he : q.name = r.name
    · rw [he, if_pos rfl, if_pos rfl]
      rfl
    · rw [if_neg he, if_neg (hne (mem_keptNames hr) (Ne.symm he)), h.values r hr]
      rfl

end Holds

theorem History.grows (h : History cls p x u es w) : u.Grows w := by
  induction h with
  | start => exact .refl u
  | assigned _ _ hset ih =>
    exact ih.trans (GrowsAt.of_ok ((growing _).setAttr _ _ _ _) hset)
  | other _ hw ih => exact ih.trans hw.grows

/-- **Whatever happens to it, an object holds what it has been given.** -/
theorem History.holds {own : List (String × Value)} {first : String → Value} (h : History cls p x u es w)
    (hapart : Apart p cls name) (hu : Holds cls p x own first [] u) : Holds cls p x own first es w := by
  induction h with
  | start => exact hu
  | assigned _ hq hset ih => exact ih.assigned hapart hq hset
  | other _ hw ih => exact ih.alters hw

/-! ## Calls -/

/-- What an object passes on for a parameter that it keeps. -/
def heldFor (cls : String) (own : List (String × Value)) (first : String → Value)
    (es : List (String × Value)) (q : ConvertedParameter) : Value :=
  if q.route = .constructor then (given own (mangle (some cls) q.name)).getD .none
  else (lastValue es q.name).getD (first q.name)

/-- A plan has a parameter of the constructor or a property for everything that is not routed to the method. -/
def Provides (p : Plan) (qs : List ConvertedParameter) : Prop :=
  ∀ q ∈ qs, (q.route = .constructor → ∃ r ∈ p.constructor.values, r.name = q.name) ∧
    (q.route = .property → ∃ r ∈ p.properties.values, r.name = q.name)

theorem provides_planOf (cw : CallableWrapper) (method : MethodInfo) (o : CallableOptions) :
    Provides (planOf cw method o) (convertedMethod method o).parameters := by
  intro q hq
  have hkeyed := keyed_planOf cw method o
  refine ⟨fun hr => ?_, fun hr => ?_⟩
  · have hmem : q.name ∈ (planOf cw method o).constructor.keys :=
      (mem_constructor_foldl _).mpr (.inr ⟨q, hq, hr, rfl⟩)
    rw [← hkeyed.constructor.map_values] at hmem
    exact List.mem_map.mp hmem
  · have hmem : q.name ∈ (planOf cw method o).properties.keys := by
      by_contra hn
      have hget := (Table.get?_eq_none_iff _ _).mpr hn
      rw [planOf, get?_properties_foldl] at hget
      have hfind := List.find?_eq_none.mp (Option.map_eq_none_iff.mp
        ((Option.orElse_eq_none _ _).mp hget).2) q hq
      simp [hr] at hfind
    rw [← hkeyed.properties.map_values] at hmem
    exact List.mem_map.mp hmem

theorem Holds.equipped {own : List (String × Value)} {first : String → Value} {qs : List ConvertedParameter}
    (h : Holds cls p x own first es w) (hqs : Provides p qs) :
    Equipped 6 cls (.instance x) (heldFor cls own first es) qs w := by
  intro q hq hne n hn
  obtain ⟨j, rfl⟩ := Nat.exists_eq_add_of_le' hn
  rw [heldFor, placeOf]
  cases hr : q.route with
  | method => exact absurd hr hne
  | constructor =>
    obtain ⟨r, hr', hname⟩ := (hqs q hq).1 hr
    rw [if_pos rfl, if_pos rfl, ← hname]
    exact getAttr_field (h.free r.name (List.mem_append_left _ (List.mem_map_of_mem hr'))).isField
      (h.arguments r hr') (j + 5)
  | property =>
    obtain ⟨r, hr', hname⟩ := (hqs q hq).2 hr
    rw [if_neg (by simp), if_neg (by simp), ← hname]
    exact (h.properties r hr').getAttr (h.free r.name (mem_keptNames hr')).isField (h.values r hr') j

/-- **The objects of the class that is created for a callable** have been made from arguments, and pass on what
they hold, whatever has happened to them. -/
theorem createType_objects (hw : Wrappable cw f o method compiler w₁)
    (hprepare : (cw.prepare f o).outcome w = (.ok (method, compiler), w₁))
    (h : (cw.createType f o).outcome w = (.ok k, w'))
    (hname : isPublicName o.methodName = true) (hplain : o.typeName ∉ plainNames)
    (hexception : isException w' k = false) (hroot : PlainRoot w₁)
    (hapart : Apart (planOf cw method o) o.typeName o.methodName) :
    ∃ m i init run ctor fn, w'.class? k.id = some i ∧
      i.members.get? "__init__" = some (.function init) ∧ w'.function? init = some ctor ∧
      ctor.params.map Parameter.name = "self" :: ((planOf cw method o).constructor.values.map fun q =>
        mangle (some o.typeName) q.name) ∧
      i.members.get? o.methodName = some (.function run) ∧ w'.function? run = some fn ∧
      Forwards cw f method o m w' fn ∧
      ∀ v, w'.Grows v → v.class? k.id = some i → Served cw.cache run v →
        ∀ n args kw self u, (construct n k args kw).outcome v = (.ok self, u) →
          ∃ x own first, self = .instance x ∧ bindArguments ctor.params (self :: args) kw = .ok own ∧
            (∀ q ∈ (planOf cw method o).properties.values, Begins q (first q.name)) ∧
            ∀ es u', History o.typeName (planOf cw method o) x u es u' → w'.Grows u' ∧
              Equipped 6 o.typeName self (heldFor o.typeName own first es)
                (convertedMethod method o).parameters (u'.looked cw.cache) := by
  obtain ⟨m, i, run, fn, hkeeps, hget, hfn, hforwards, hgrows⟩ :=
    createType_keepsFor hw hprepare h hname hroot hapart
  obtain ⟨init, ctor, rs, firsts, b, hinit, hctor, -, hmade, hrs, -⟩ := hkeeps.init
  have hctorParams : ctor.params.map Parameter.name =
      "self" :: ((planOf cw method o).constructor.values.map fun q => mangle (some o.typeName) q.name) := by
    have hnames := congrArg (List.map (mangle (some o.typeName))) hrs
    rw [List.map_map, List.map_map] at hnames
    rw [names_made hmade, List.map_cons]
    exact congrArg₂ List.cons (mangle_self _) hnames
  refine ⟨m, i, init, run, ctor, fn, hkeeps.class_, hinit, hctor, hctorParams, hget, hfn, hforwards, ?_⟩
  intro v hv hvi hserved n args kw self u hc
  obtain ⟨fn₁, hfn₁, hforwards₁⟩ := hforwards.mono hfn hv
  have hexception' : isException v k = false := by
    rw [isException, derivesFrom, hv.linearisation hkeeps.class_]
    exact hexception
  obtain ⟨init', ctor', x, own, first, rfl, hinit', hctor', hown, hbegins, hholds⟩ :=
    (hkeeps.mono hv hvi).construct_eq_ok (hroot.mono (hgrows.trans hv))
      (hserved.serves hfn₁ hforwards₁.globals) hexception' hplain hapart hc
  obtain rfl : init = init' := Value.function.inj (Option.some.inj (hinit.symm.trans hinit'))
  obtain ⟨home, hctor₁⟩ := hv.function? hctor
  obtain rfl := Option.some.inj (hctor₁.symm.trans hctor')
  refine ⟨x, own, first, rfl, hown, hbegins, fun es u' hhistory => ⟨?_, ?_⟩⟩
  · exact (hv.trans (GrowsAt.of_ok ((growing _).construct _ _ _ _) hc)).trans hhistory.grows
  · have hholds' := hhistory.holds hapart hholds
    exact (hholds'.alters (sets_of_extends hholds'.standing
      (extends_looked u' cw.cache)).toAlters).equipped (provides_planOf cw method o)

/-- In a world, an object passes on the calls of a method that are accepted: each is one call of the function,
with what the method has been given and what the object holds. -/
def PassesOn (cw : CallableWrapper) (method : MethodInfo) (o : CallableOptions) (info : Function) (run : Nat)
    (fn : Function) (self : Value) (held : ConvertedParameter → Value) (w : World) : Prop :=
  ∀ args kw bound, bindArguments fn.params (self :: args) kw = .ok bound →
    ((surplus fn.params kw).map Prod.fst).Nodup →
    (∀ e ∈ surplus fn.params kw, ∀ p ∈ info.params, isNamed p = true → p.name ≠ e.1) →
    let pass := passedTo (passedFor o.typeName bound held) (convertedMethod method o).parameters
    ∀ n, (callToEnd (n + 9 + bodyDepth method) info.isAsync (.bound self (.function run)) args kw).outcome w =
      (runFunction (runDepth (n + 8) 0 info) info (info.params.map fun p => (p.name, pass p)) >>=
        fun r => pure (handBack method r)).outcome (w.looked cw.cache)

/-- **The method of the class around a function passes its calls on,** wherever its module has what its body
relies on. -/
theorem Forwards.passesOn {info : Function} {run : Nat} {self : Value} {held : ConvertedParameter → Value}
    (h : Forwards cw (.function id) method o m w' fn)
    (hprepare : (cw.prepare (.function id) o).outcome w = (.ok (method, compiler), w₁))
    (hi : w.function? id = some info) (hlegal : IsLegal info.params) (hfn : w'.function? run = some fn)
    (hv : w'.Grows v) (hserved : Served cw.cache run v) (hi' : v.function? id = some info)
    (hequipped : Equipped 6 o.typeName self held (convertedMethod method o).parameters
      (v.looked cw.cache)) : PassesOn cw method o info run fn self held v := by
  intro args kw bound hbound hn hleft pass n
  obtain ⟨home, hfn'⟩ := hv.function? hfn
  obtain ⟨fn', hfn'', h'⟩ := h.mono hfn hv
  obtain rfl := Option.some.inj (hfn'.symm.trans hfn'')
  obtain ⟨hsig, hasync⟩ := prepare_function hprepare hi
  exact (h'.callToEnd_function hfn' (hserved.serves hfn' h'.globals) hi' hasync hlegal hsig hequipped hbound hn
    hleft).2 (n + 6) (by omega)

/-- **What is routed arrives.** An object of the class around a function has been made from arguments; since
then properties have been assigned. A call of its method that is accepted is one call of the function, with the
argument of the call for a parameter that is left to the method, the argument of the constructor for one that
is routed there, and the latest or else the first value of its property for one that has become a property. -/
theorem routed_call (hw : Wrappable cw (.function id) o method compiler w₁)
    (hprepare : (cw.prepare (.function id) o).outcome w = (.ok (method, compiler), w₁))
    (h : (cw.createType (.function id) o).outcome w = (.ok k, w'))
    (hname : isPublicName o.methodName = true) (hplain : o.typeName ∉ plainNames)
    (hexception : isException w' k = false) (hroot : PlainRoot w₁)
    (hapart : Apart (planOf cw method o) o.typeName o.methodName) {info : Function}
    (hi : w.function? id = some info) (hlegal : IsLegal info.params) :
    ∃ i init run ctor fn, w'.class? k.id = some i ∧
      i.members.get? "__init__" = some (.function init) ∧ w'.function? init = some ctor ∧
      ctor.params.map Parameter.name = "self" :: ((planOf cw method o).constructor.values.map fun q =>
        mangle (some o.typeName) q.name) ∧
      i.members.get? o.methodName = some (.function run) ∧ w'.function? run = some fn ∧
      (∃ r all, fn.params = r :: all ∧
        List.Forall₂ (MadeFor (some o.typeName)) (convertedMethod method o).methodParameters all) ∧
      (o.typeName ∉ [cacheGlobal, typingAlias] → OffersCast run w' → Served cw.cache run w') ∧
      ∀ v, w'.Grows v → v.class? k.id = some i → Served cw.cache run v →
        ∀ n ctorArgs ctorKw self u, (construct n k ctorArgs ctorKw).outcome v = (.ok self, u) →
          ∃ x own first, self = .instance x ∧
            bindArguments ctor.params (self :: ctorArgs) ctorKw = .ok own ∧
            (∀ q ∈ (planOf cw method o).properties.values, Begins q (first q.name)) ∧
            ∀ es u', History o.typeName (planOf cw method o) x u es u' →
              Served cw.cache run u' → u'.function? id = some info →
              ∀ args kw bound, bindArguments fn.params (self :: args) kw = .ok bound →
                ((surplus fn.params kw).map Prod.fst).Nodup →
                (∀ e ∈ surplus fn.params kw, ∀ p ∈ info.params, isNamed p = true → p.name ≠ e.1) →
                let pass := passedTo (passedFor o.typeName bound (heldFor o.typeName own first es))
                  (convertedMethod method o).parameters
                ∀ n, (callToEnd (n + 9 + bodyDepth method) info.isAsync (.bound self (.function run)) args
                    kw).outcome u' =
                  (runFunction (runDepth (n + 8) 0 info) info (info.params.map fun p => (p.name, pass p)) >>=
                    fun r => pure (handBack method r)).outcome (u'.looked cw.cache) := by
  obtain ⟨m, i, init, run, ctor, fn, hclass, hinit, hctor, hctorParams, hget, hfn, hforwards, hobjects⟩ :=
    createType_objects hw hprepare h hname hplain hexception hroot hapart
  obtain ⟨r, all, hfnParams, -, -, hall⟩ := hforwards.params
  refine ⟨i, init, run, ctor, fn, hclass, hinit, hctor, hctorParams, hget, hfn, ⟨r, all, hfnParams, hall⟩,
    fun hcls => createType_served hw hprepare h hname hcls hclass hget, ?_⟩
  intro v hv hvi hserved n ctorArgs ctorKw self u hc
  obtain ⟨x, own, first, hself, hown, hbegins, hhistories⟩ :=
    hobjects v hv hvi hserved n ctorArgs ctorKw self u hc
  refine ⟨x, own, first, hself, hown, hbegins, ?_⟩
  intro es u' hhistory hserved' hi'
  obtain ⟨hu', hequipped⟩ := hhistories es u' hhistory
  exact hforwards.passesOn hprepare hi hlegal hfn hu' hserved' hi' hequipped

/-! ## An object in the small world -/

/-- One parameter becomes a property, and another one goes to the constructor. -/
def keptOptions : CallableOptions :=
  { rules := [.forNames ["a"] { route := .property }, .forNames ["b"] { route := .constructor }] }

/-- The property and the parameter of the constructor are both kept as the same. -/
def clashingOptions : CallableOptions :=
  { rules := [.forNames ["a"] { route := .property, renamedTo := some "b" },
      .forNames ["b"] { route := .constructor, renamedTo := some "B" }] }

/-- Whether a world has a root of classes without members. -/
def hasPlainRoot (w : World) : Bool :=
  match w.class? Standard.object.id with
  | some r => decide (r.linearisation = [Standard.object]) && r.builtin && r.members.entries.isEmpty
  | none => false

theorem plainRoot_of_hasPlainRoot (h : hasPlainRoot w = true) : PlainRoot w := by
  unfold hasPlainRoot at h
  split at h
  · rename_i r hr
    simp only [Bool.and_eq_true, decide_eq_true_eq, List.isEmpty_iff] at h
    obtain ⟨⟨hlin, hbuiltin⟩, hmembers⟩ := h
    refine ⟨r, hr, hlin, hbuiltin, fun s g t => ?_⟩
    rw [Table.get?, hmembers]
    simp
  · cases h

/-- Whether an object can be made of a class with a number, a property of it be assigned, and its method be
called then. -/
def isKept (w : World) (k : Named) : Bool :=
  match (construct depth k [.int 5] []).outcome w with
  | (.ok (.instance x), u) =>
    match (setAttr depth (.instance x) "A" (.int 1)).outcome u with
    | (.ok ⟨⟩, u') =>
      match (w.class? k.id).bind fun i => i.members.get? defaultMethodName with
      | some (.function run) =>
        isServedBy w run && isServedBy u' run &&
          decide ((u'.function? 1).map Function.home = some none) &&
          (w.function? run).all fun fn => (bindArguments fn.params [.instance x] []).isOk
      | _ => false
    | _ => false
  | _ => false

theorem exists_of_isKept {i : ClassInfo} {run : Nat} (h : isKept w k = true) (hi : w.class? k.id = some i)
    (hrun : i.members.get? defaultMethodName = some (.function run)) (hfn : w.function? run = some fn) :
    ∃ x u u' bound, (construct depth k [.int 5] []).outcome w = (.ok (.instance x), u) ∧
      (setAttr depth (.instance x) "A" (.int 1)).outcome u = (.ok ⟨⟩, u') ∧
      Served 0 run w ∧ Served 0 run u' ∧
      (u'.function? 1).map Function.home = some none ∧
      bindArguments fn.params [.instance x] [] = .ok bound := by
  unfold isKept at h
  split at h
  · rename_i x u hconstruct
    split at h
    · rename_i u' hset
      rw [hi, Option.bind_some, hrun] at h
      simp only [hfn, Option.all_some, Bool.and_eq_true, decide_eq_true_eq] at h
      obtain ⟨⟨⟨hserved, hserved'⟩, hhome⟩, hbinds⟩ := h
      cases hbound : bindArguments fn.params [.instance x] [] with
      | error e => rw [hbound] at hbinds; cases hbinds
      | ok bound =>
        exact ⟨x, u, u', bound, hconstruct, hset, served_of_isServedBy hserved,
          served_of_isServedBy hserved', hhome, hbound⟩
    · cases h
  · cases h

/-- A function that has the home that it had is the same function. -/
theorem function?_of_home {f : Function} (hw : w.Grows w') (hf : w.function? id = some f)
    (h : (w'.function? id).map Function.home = some f.home) : w'.function? id = some f := by
  obtain ⟨home, hf'⟩ := hw.function? hf
  rw [hf', Option.map_some] at h
  obtain rfl : home = f.home := Option.some.inj h
  exact hf'

/-- What can be worked out there: a class can be made, its names are apart, and its objects can be given what
they are to hold. -/
theorem facts_kept : TallyReady (.function 1) keptOptions ∧
    Apart (planOf tallyWrapper (tallyMethod (.function 1) keptOptions) keptOptions)
      keptOptions.typeName keptOptions.methodName ∧
    (planOf tallyWrapper (tallyMethod (.function 1) keptOptions)
      keptOptions).properties.values.map RoutedProperty.name = ["A"] ∧
    ((convertedMethod (tallyMethod (.function 1) keptOptions)
      keptOptions).methodParameters.map fun q => mangle (some keptOptions.typeName) q.name) = ["options"] ∧
    keptOptions.typeName ∉ plainNames ∧ hasPlainRoot (tallyPrepared (.function 1) keptOptions).2 = true ∧
    (tallyMade (.function 1) keptOptions).1.toOption.all (fun k =>
      !isException (tallyMade (.function 1) keptOptions).2 k &&
        isKept (tallyMade (.function 1) keptOptions).2 k) = true := by
  decide +kernel

theorem ready_kept : TallyReady (.function 1) keptOptions := facts_kept.1

theorem isKept_made (h : (tallyWrapper.createType (.function 1) keptOptions).outcome (tallyWorld false) =
    (.ok k, w')) : isException w' k = false ∧ isKept w' k = true := by
  obtain ⟨-, -, -, -, -, -, hall⟩ := facts_kept
  rw [tallyMade, h] at hall
  have hboth : (!isException w' k && isKept w' k) = true := hall
  simpa using hboth

/-- An object has been made of the class with a number, and a property of it has been assigned. -/
theorem object_kept : ∃ k w' i run fn x u u' bound own first,
    (tallyWrapper.createType (.function 1) keptOptions).outcome (tallyWorld false) = (.ok k, w') ∧
    w'.class? k.id = some i ∧ i.members.get? defaultMethodName = some (.function run) ∧
    w'.function? run = some fn ∧ Served 0 run w' ∧
    (construct depth k [.int 5] []).outcome w' = (.ok (.instance x), u) ∧
    (setAttr depth (.instance x) "A" (.int 1)).outcome u = (.ok ⟨⟩, u') ∧
    History keptOptions.typeName (planOf tallyWrapper (tallyMethod (.function 1) keptOptions) keptOptions) x u
      [("A", .int 1)] u' ∧
    w'.Grows u' ∧ Served 0 run u' ∧ u'.function? 1 = some tally ∧
    bindArguments fn.params [.instance x] [] = .ok bound ∧
    Equipped 6 keptOptions.typeName (.instance x) (heldFor keptOptions.typeName own first [("A", .int 1)])
      (convertedMethod (tallyMethod (.function 1) keptOptions) keptOptions).parameters (u'.looked 0) := by
  obtain ⟨-, hapart, hnames, -, hplain, hroot, -⟩ := facts_kept
  obtain ⟨k, w', h⟩ := ready_kept.made
  obtain ⟨hexception, hkept⟩ := isKept_made h
  have hfunction := ready_kept.function (by with_unfolding_all rfl) h
  obtain ⟨m, i, init, run, ctor, fn, hi, -, -, -, hrun, hfn, -, hall⟩ := createType_objects ready_kept.wrappable
    ready_kept.prepared h isPublicName_defaultMethodName hplain hexception (plainRoot_of_hasPlainRoot hroot)
    hapart
  obtain ⟨x, u, u', bound, hconstruct, hset, hserved, hserved', hhome, hbound⟩ :=
    exists_of_isKept hkept hi hrun hfn
  obtain ⟨y, own, first, hy, -, -, hhistories⟩ := hall w' (.refl w') hi hserved depth [.int 5] [] _ u hconstruct
  obtain rfl := Value.instance.inj hy
  have hhistory : History keptOptions.typeName
      (planOf tallyWrapper (tallyMethod (.function 1) keptOptions) keptOptions) x u [("A", .int 1)] u' := by
    obtain ⟨q, hq, hname⟩ : ∃ q ∈ (planOf tallyWrapper (tallyMethod (.function 1) keptOptions)
        keptOptions).properties.values, q.name = "A" :=
      List.mem_map.mp (hnames ▸ List.mem_singleton_self "A")
    have hset' : (setAttr depth (.instance x) (mangle (some keptOptions.typeName) q.name) (.int 1)).outcome u =
        (.ok ⟨⟩, u') := by
      rw [hname, Syntax.mangle_of_not_isPrivate _ (by decide)]
      exact hset
    rw [← hname]
    exact .assigned .start hq hset'
  obtain ⟨hu', hequipped⟩ := hhistories _ u' hhistory
  exact ⟨k, w', i, run, fn, x, u, u', bound, own, first, h, hi, hrun, hfn, hserved, hconstruct, hset, hhistory,
    hu', hserved', function?_of_home hu' hfunction hhome, hbound, hequipped⟩

/-- The function takes what has been assigned, and what the object has been made from. -/
theorem routed_call_tally : ∃ k w' x u u' run bound own first,
    (tallyWrapper.createType (.function 1) keptOptions).outcome (tallyWorld false) = (.ok k, w') ∧
    (construct depth k [.int 5] []).outcome w' = (.ok (.instance x), u) ∧
    (setAttr depth (.instance x) "A" (.int 1)).outcome u = (.ok ⟨⟩, u') ∧
    let pass := passedTo (passedFor keptOptions.typeName bound
        (heldFor keptOptions.typeName own first [("A", .int 1)]))
      (convertedMethod (tallyMethod (.function 1) keptOptions) keptOptions).parameters
    ∀ n, (callToEnd (n + 9 + bodyDepth (tallyMethod (.function 1) keptOptions)) false
        (.bound (.instance x) (.function run)) [] []).outcome u' =
      (runFunction (runDepth (n + 8) 0 tally) tally (tally.params.map fun p => (p.name, pass p)) >>= fun r =>
        pure (handBack (tallyMethod (.function 1) keptOptions) r)).outcome (u'.looked 0) := by
  obtain ⟨k, w', i, run, fn, x, u, u', bound, -, -, h, hi, hrun, hfn, hserved, hconstruct, hset, hhistory, -,
    hserved', hfunction, hbound, -⟩ := object_kept
  obtain ⟨-, hapart, -, -, hplain, hroot, -⟩ := facts_kept
  obtain ⟨i', init, run', ctor, fn', hi', -, -, -, hrun', hfn', -, -, hall⟩ := routed_call ready_kept.wrappable
    ready_kept.prepared h isPublicName_defaultMethodName hplain (isKept_made h).1
    (plainRoot_of_hasPlainRoot hroot) hapart function_tally (by constructor <;> decide)
  obtain rfl := Option.some.inj (hi.symm.trans hi')
  obtain rfl := Value.function.inj (Option.some.inj (hrun.symm.trans hrun'))
  obtain rfl := Option.some.inj (hfn.symm.trans hfn')
  obtain ⟨y, own, first, hy, -, -, hcalls⟩ := hall w' (.refl w') hi hserved depth [.int 5] [] _ u hconstruct
  obtain rfl := Value.instance.inj hy
  exact ⟨k, w', x, u, u', run, bound, own, first, h, hconstruct, hset, fun n =>
    hcalls _ u' hhistory hserved' hfunction [] [] bound hbound List.nodup_nil (fun e he => by cases he) n⟩

/-- Calls the method of an object without arguments. -/
def callMethod (self : Value) : Run Value := do
  call depth (← getAttr depth self defaultMethodName) [] []

/-- Whether the function is not given what an object has been made from. -/
def forgets (x : Except Failure Named × World) : Bool :=
  match x.1 with
  | .ok k =>
    match (construct depth k [.int 5] []).outcome x.2 with
    | (.ok self, u) =>
      match (callMethod self).outcome u with
      | (.ok (.int 7), v) =>
        match v.events.getLast? with
        | some (.call "tally" (("b", .none) :: _)) => true
        | _ => false
      | _ => false
    | _ => false
  | .error _ => false

theorem exists_of_forgets {x : Except Failure Named × World} (h : forgets x = true) :
    ∃ k w self u v rest, x = (.ok k, w) ∧ (construct depth k [.int 5] []).outcome w = (.ok self, u) ∧
      (callMethod self).outcome u = (.ok (.int 7), v) ∧
      v.events.getLast? = some (.call "tally" (("b", .none) :: rest)) := by
  unfold forgets at h
  split at h
  · rename_i k hk
    split at h
    · rename_i self u hconstruct
      split at h
      · rename_i v hcall
        split at h
        · rename_i rest hlast
          exact ⟨k, x.2, self, u, v, rest, Prod.ext hk rfl, hconstruct, hcall, hlast⟩
        · cases h
      · cases h
    · cases h
  · cases h

/-- **A property and a parameter of the constructor that are kept in one field.** An object has been made from
a number, which goes to the constructor for the second parameter; the function is not given the number, since
the property that the first parameter has become has no value yet. -/
theorem shared_field_fails : ∃ k w self u v rest,
    (tallyWrapper.createType (.function 1) clashingOptions).outcome (tallyWorld false) = (.ok k, w) ∧
    (construct depth k [.int 5] []).outcome w = (.ok self, u) ∧
    (callMethod self).outcome u = (.ok (.int 7), v) ∧
    v.events.getLast? = some (.call "tally" (("b", .none) :: rest)) :=
  exists_of_forgets (by decide +kernel)

end Facade.Wrapper
