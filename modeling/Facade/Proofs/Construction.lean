import Facade.Proofs.Accessors

/-!
# Construction

The constructor of a class around a callable keeps its arguments in fields, and gives the properties their
first values.

* `construct_eq_ok`: an object that is made has been through its constructor.
* `constructor_sets`: the body of a constructor writes the fields.
* `Apart`: the names that an object and its class have.
* `KeepsFor`, `createType_keepsFor`: the class that is created for a callable.
-/

namespace Facade.Wrapper

open Run Execution Conversion Binding
open Facade.Describe (MethodInfo given)
open Facade.Describe.MethodInfo (isPublicName)
open Syntax (Expr Stmt Param mangle)

variable {cw : CallableWrapper} {f : Value} {o : CallableOptions} {method : MethodInfo}
  {compiler : String} {w w₁ w' b : World} {l : CallableLayout} {k : Named} {c m n x id : Nat}
  {cls name : String} {fn : Function} {r : Value} {es : List (String × Value)} {fr fr' : Frame}
  {flow : Flow}

/-! ## Construction -/

/-- The names of the classes of the language whose objects are made without a constructor. -/
def plainNames : List String :=
  ["type", "property", "staticmethod", "classmethod", "super", "ForwardRef", "str", "int", "float", "bool",
    "list", "tuple", "dict"]

theorem makePlain?_eq_none (h : k.qualname ∉ plainNames) (w : World) (args : List Value) :
    makePlain? w k args = none := by
  unfold makePlain?
  split
  · rfl
  · simp only [plainNames, List.mem_cons, List.not_mem_nil, or_false, not_or] at h
    split <;> first | rfl | simp_all

/-- An object that is made has been through its constructor. -/
theorem construct_eq_ok {info : ClassInfo} {init : Nat} {args : List Value} {kw : Keywords}
    (hc : w.class? k.id = some info) (hplain : k.qualname ∉ plainNames)
    (hexception : isException w k = false) (hbuiltin : info.builtin = false)
    (hinit : w.findMember? info.linearisation "__init__" = some (.function init))
    (h : (construct n k args kw).outcome w = (.ok r, w')) :
    r = .instance w.objects.size ∧ ∃ j q,
      (call j (.function init) (.instance w.objects.size :: args) kw).outcome
        { w with objects := w.objects.push (.instance ⟨k, {}⟩) } = (.ok q, w') := by
  obtain _ | n := n
  · simp [construct] at h
  unfold construct at h
  rw [outcome_get_bind] at h
  simp only [hc, makePlain?_eq_none hplain, ite_self, hexception, hbuiltin, hinit, bindMember] at h
  split at h
  · cases h
  rw [if_neg (by simp), if_neg (by simp)] at h
  obtain ⟨x, w₁, halloc, hrest⟩ := bind_eq_ok h
  obtain ⟨q, w₂, hcall, hdone⟩ := bind_eq_ok hrest
  rw [outcome_allocate, Prod.mk.injEq, Except.ok.injEq] at halloc
  obtain ⟨rfl, rfl⟩ := halloc
  obtain _ | n := n
  · simp [call] at hcall
  rw [call_method] at hcall
  split at hdone
  · rw [outcome_pure, Prod.mk.injEq, Except.ok.injEq] at hdone
    obtain ⟨rfl, rfl⟩ := hdone
    exact ⟨rfl, n, _, hcall⟩
  · cases hdone

/-- The arguments of the constructor are kept in their fields. -/
theorem keeps_sets {own : List (String × Value)} {j : Nat} (names : List String) :
    ∀ {w : World}, Knows cls x fr → Standing w x → (∀ n ∈ names, Free w x (fieldIn cls n)) →
      (∀ n ∈ names, ∃ a, given own (mangle (some cls) n) = some a ∧
        ∀ w, fr.find w (mangle (some cls) n) = .ok a) →
      (runBlock (exec j) fr (names.map keepArgument)).outcome w = (.ok (fr', flow), w') →
      fr' = fr ∧ flow = .next ∧
        Sets x (names.map fun n => (fieldIn cls n, (given own (mangle (some cls) n)).getD .none)) w w' := by
  induction names with
  | nil =>
    intro w _ _ _ _ h
    obtain ⟨rfl, rfl, rfl⟩ := runBlock_nil_eq_ok h
    exact ⟨rfl, rfl, .refl x _⟩
  | cons name names ih =>
    intro w hknows hs hfree hown h
    obtain ⟨fr₁, f₁, w₁, hkeep, hrest⟩ := runBlock_cons_eq_ok h
    obtain ⟨rfl, rfl, k, a, w₂, ha, j', hset⟩ := hknows.exec_assign_eq_ok hkeep
    obtain ⟨a', hgiven, hfind⟩ := hown name List.mem_cons_self
    obtain ⟨rfl, rfl⟩ : a' = a ∧ w = w₂ := by
      obtain _ | k := k
      · simp [eval] at ha
      · rw [eval_name, hknows.privateTo, hfind, outcome_lift_ok, Prod.mk.injEq, Except.ok.injEq] at ha
        exact ha
    obtain ⟨i, hi⟩ := hs.instance
    have hname := hfree name List.mem_cons_self
    have hsets := sets_of_setAttr hi hname.isField hname.special hset
    obtain ⟨rfl, rfl, hall⟩ := ih hknows (hsets.standing hs)
      (fun n hn => (hfree n (List.mem_cons_of_mem _ hn)).alters hsets.toAlters)
      (fun n hn => hown n (List.mem_cons_of_mem _ hn)) (hrest rfl)
    refine ⟨rfl, rfl, ?_⟩
    rw [List.map_cons, hgiven, Option.getD_some]
    exact hsets.trans hall

/-- What a property starts with. -/
def Begins (q : RoutedProperty) (a : Value) : Prop :=
  match q.default with
  | some d => Reread d a
  | none => a = .none

/-- The properties are given their first values. -/
theorem firsts_sets {j : Nat} {qs : List RoutedProperty} {stmts : List Stmt}
    (h : List.Forall₂ (GivesFirst c b) qs stmts) :
    ∀ {w : World}, Knows cls x fr → Standing w x → b.Grows w → Serves c m w →
      (∀ w, Serves c m w → fr.find w cacheGlobal = .ok (.cache c)) →
      (∀ q ∈ qs, Free w x (fieldIn cls q.name)) →
      (runBlock (exec j) fr stmts).outcome w = (.ok (fr', flow), w') →
      ∃ es, List.Forall₂ (fun q e => e.1 = fieldIn cls q.name ∧ Begins q e.2) qs es ∧ Sets x es w w' := by
  induction h with
  | nil =>
    intro w _ _ _ _ _ _ h
    obtain ⟨-, -, rfl⟩ := runBlock_nil_eq_ok h
    exact ⟨[], .nil, .refl x _⟩
  | @cons q stmt qs stmts hq _ ih =>
    intro w hknows hs hb hserves hcache hfree h
    obtain ⟨fr₁, f₁, w₁, hfirst, hrest⟩ := runBlock_cons_eq_ok h
    obtain ⟨hint, e, rfl, he, -⟩ := hq
    obtain ⟨rfl, rfl, k, a, w₂, ha, j', hset⟩ := hknows.exec_annAssign_eq_ok hfirst
    -- Reading the first value looks into the cache at most.
    obtain ⟨hbegins, hext⟩ : Begins q a ∧ w.Extends w₂ := by
      unfold Starts at he
      unfold Begins
      cases hd : q.default with
      | none =>
        rw [hd] at he
        subst he
        obtain _ | k := k
        · simp [eval] at ha
        · rw [eval_const, Prod.mk.injEq, Except.ok.injEq] at ha
          exact ⟨ha.1.symm, ha.2 ▸ .refl w⟩
      | some d =>
        rw [hd] at he
        exact eval_stored (he.mono hb) (fun _ _ => hcache w hserves) (hknows.privateTo ▸ mangle_get _) ha
    have hlooked := sets_of_extends hs hext
    obtain ⟨i, hi⟩ := (hlooked.standing hs).instance
    have hname := (hfree q List.mem_cons_self).alters hlooked.toAlters
    have hsets := hlooked.trans (sets_of_setAttr hi hname.isField hname.special hset)
    obtain ⟨info, t, types, hm, hcache', htyping, ht, hcast⟩ := hserves
    obtain ⟨es, hes, hall⟩ := ih hknows (hsets.standing hs) (hb.trans hsets.grows)
      ⟨info, t, types, hsets.modules _ _ hm, hcache', htyping, hsets.modules _ _ ht, hcast⟩ hcache
      (fun q hq => (hfree q (List.mem_cons_of_mem _ hq)).alters hsets.toAlters) (hrest rfl)
    exact ⟨_, .cons ⟨rfl, hbegins⟩ hes, hsets.trans hall⟩

/-- A block of statements that bind no names. -/
theorem boundNamesOf_eq_nil {stmts : List Stmt} (h : ∀ s ∈ stmts, boundNames s = []) :
    boundNamesOf stmts = [] := by
  induction stmts with
  | nil => rfl
  | cons s stmts ih =>
    rw [boundNamesOf, h s List.mem_cons_self, ih fun t ht => h t (List.mem_cons_of_mem s ht)]
    rfl

/-- The constructor binds nothing but its parameters. -/
theorem boundNames_constructor {names : List String} {qs : List RoutedProperty} {firsts : List Stmt}
    (h : List.Forall₂ (GivesFirst c b) qs firsts) :
    boundNamesOf (orPass (names.map keepArgument ++ firsts)) = [] := by
  refine boundNamesOf_eq_nil fun s hs => ?_
  unfold orPass at hs
  split at hs
  · rw [List.mem_singleton.mp hs]
    rfl
  · rcases List.mem_append.mp hs with hs | hs
    · obtain ⟨n, -, rfl⟩ := List.mem_map.mp hs
      rfl
    · obtain ⟨q, -, hint, e, rfl, -⟩ := exists_of_forall₂_right h hs
      rfl

/-- A block that is not empty stands for itself. -/
theorem runBlock_orPass_eq_ok {stmts : List Stmt}
    (h : (runBlock (exec n) fr (orPass stmts)).outcome w = (.ok (fr', flow), w')) :
    ∃ flow', (runBlock (exec n) fr stmts).outcome w = (.ok (fr', flow'), w') := by
  cases stmts with
  | cons s stmts => exact ⟨flow, h⟩
  | nil =>
    have hpass := runBlock_singleton_eq_ok (s := .pass) h
    obtain _ | n := n
    · simp [exec] at hpass
    rw [exec, outcome_pure, Prod.mk.injEq, Except.ok.injEq, Prod.mk.injEq] at hpass
    obtain ⟨⟨rfl, -⟩, rfl⟩ := hpass
    exact ⟨.next, rfl⟩

/-- What the body of a constructor sees: its object, the arguments, and the cache. -/
structure SeesArguments (c m : Nat) (cls : String) (x : Nat) (names : List String)
    (own : List (String × Value)) (fr : Frame) : Prop extends Knows cls x fr where
  own : ∀ n ∈ names, ∃ a, given own (mangle (some cls) n) = some a ∧
    ∀ w, fr.find w (mangle (some cls) n) = .ok a
  cache : ∀ w, Serves c m w → fr.find w cacheGlobal = .ok (.cache c)

theorem seesArguments_ofCall {rs : List Param} {body stmts : List Stmt} {args : List Value} {kw : Keywords}
    {own : List (String × Value)} (hf : MadeFunction c b m cls false (accessorSelf :: rs) body fn)
    (hfree : ∀ r ∈ rs, r.name ∉ reservedNames) (hstmts : boundNamesOf stmts = [])
    (hbound : bindArguments fn.params (.instance x :: args) kw = .ok own) :
    SeesArguments c m cls x (rs.map Param.name) own (Frame.ofCall fn stmts (some cls) {} own) := by
  have hnames := names_made hf
  have hparams := hf.params
  generalize hall : fn.params = all at hparams
  cases hparams with
  | @cons _ q _ ps hq hps =>
    rw [hall, List.map_cons, List.map_cons] at hnames
    have hself : q.name = "self" := hq.name.trans (mangle_self _)
    have hkind : q.kind = .positionalOrKeyword := hq.kind
    obtain ⟨tail, rfl, htail⟩ := bound_receiver hall hself (by rw [isPositional, hkind]) hbound
    rw [(List.cons.inj hnames).2] at htail
    refine ⟨knows_ofCall _ _ _ _ _, fun n hn => ?_, fun w hw => ?_⟩
    · obtain ⟨r, hr, rfl⟩ := List.mem_map.mp hn
      have hmem : mangle (some cls) r.name ∈ (("self", Value.instance x) :: tail).map Prod.fst := by
        rw [List.map_cons, htail]
        exact List.mem_cons_of_mem _ (List.mem_map.mpr ⟨r, hr, rfl⟩)
      obtain ⟨a, ha⟩ := Option.ne_none_iff_exists'.mp fun h => Describe.given_eq_none_iff.mp h hmem
      exact ⟨a, ha, fun w => find_bound (Syntax.mangle_mangle _ _) ha⟩
    · obtain ⟨info, t, types, hm, hcache, -⟩ := hw
      have hout : ∀ y ∈ "self" :: (rs.map Param.name).map (mangle (some cls)),
          mangle (some cls) y ≠ cacheGlobal :=
        ne_of_reserved (List.forall_mem_map.mpr hfree) (by decide) (by decide)
      rw [List.map_map] at hout
      refine find_global ?_ hstmts hf.globals hm hcache
      rw [List.map_cons, htail]
      exact hout

/-- **The body of a constructor** keeps the arguments and gives the properties their first values. -/
theorem constructor_sets {names : List String} {qs : List RoutedProperty} {firsts : List Stmt}
    {own : List (String × Value)} (hfirsts : List.Forall₂ (GivesFirst c b) qs firsts) (hb : b.Grows w)
    (hserves : Serves c m w) (hsees : SeesArguments c m cls x names own fr) (hs : Standing w x)
    (hfree : ∀ n ∈ names ++ qs.map RoutedProperty.name, Free w x (fieldIn cls n))
    (h : (runBlock (exec n) fr (orPass (names.map keepArgument ++ firsts))).outcome w =
      (.ok (fr', flow), w')) :
    ∃ es, List.Forall₂ (fun q e => e.1 = fieldIn cls q.name ∧ Begins q e.2) qs es ∧
      Sets x (names.map (fun n => (fieldIn cls n, (given own (mangle (some cls) n)).getD .none)) ++ es)
        w w' := by
  obtain ⟨flow', hblock⟩ := runBlock_orPass_eq_ok h
  obtain ⟨fr₁, f₁, w₁, hkeeps, hrest⟩ := runBlock_append_eq_ok _ hblock
  obtain ⟨rfl, rfl, hkept⟩ := keeps_sets names hsees.toKnows hs
    (fun n hn => hfree n (List.mem_append_left _ hn)) hsees.own hkeeps
  obtain ⟨info, t, types, hm, hcache, htyping, ht, hcast⟩ := hserves
  obtain ⟨es, hes, hset⟩ := firsts_sets hfirsts hsees.toKnows (hkept.standing hs) (hb.trans hkept.grows)
    ⟨info, t, types, hkept.modules _ _ hm, hcache, htyping, hkept.modules _ _ ht, hcast⟩ hsees.cache
    (fun q hq => (hfree q.name (List.mem_append_right _ (List.mem_map_of_mem hq))).alters hkept.toAlters)
    (hrest rfl)
  exact ⟨es, hes, hkept.trans hset⟩

/-! ## The class -/

/-- The root of classes, of which nothing is a property. -/
structure PlainRoot (w : World) : Prop where
  root : ∃ r, w.class? Standard.object.id = some r ∧ r.linearisation = [Standard.object] ∧
    r.builtin = true ∧ ∀ s g t, r.members.get? s ≠ some (.property g t)

theorem PlainRoot.mono (h : PlainRoot w) (hw : w.Grows w') : PlainRoot w' := by
  obtain ⟨r, hr, hlin, hbuiltin, hmembers⟩ := h.root
  obtain ⟨ms, hms, hsame⟩ := hw.class? hr
  exact ⟨_, hms, hlin, hbuiltin, by rw [hsame hbuiltin]; exact hmembers⟩

/-- A class without bases derives from the root alone. -/
theorem linearisation_of_derives {i : ClassInfo} (h : Derives b m [] k i) (hroot : PlainRoot b) :
    i.linearisation = [k, Standard.object] := by
  obtain ⟨j, w₁, bs, w₂, found, ancestors, w₃, -, hw₃, hbs, hfound, hancestors, hlin, -⟩ := h.ancestors
  obtain ⟨r, hr, hrlin, -⟩ := hroot.root
  obtain rfl : bs = [] := by
    obtain _ | j := j
    · simp [evalItems] at hbs
    · rw [evalItems] at hbs
      exact (Except.ok.inj (Prod.mk.inj hbs).1).symm
  obtain rfl : [Standard.object] = found := Option.some.inj hfound
  have hobject : w₃.linearisation Standard.object.id = [Standard.object] := by
    rw [World.linearisation, hw₃.class? hr, Option.map_some, Option.getD_some, hrlin]
  rw [ancestors?, List.map_singleton, hobject] at hancestors
  rw [hlin]
  obtain rfl := Option.some.inj hancestors
  rfl

variable {p : Plan}

/-- The names of the parameters that an object keeps, those of its constructor first. -/
def keptNames (p : Plan) : List String :=
  p.constructor.values.map ConstructorParameter.name ++ p.properties.values.map RoutedProperty.name

/-- The other names of an object and of its class. -/
def otherNames (method : String) : List String :=
  ["__init__", "__qualname__", namespaceName, Resolver.generatedModuleAttribute, method] ++ specialFields

/-- **The names of an object are apart:** its fields, its properties and whatever else it has. -/
def Apart (p : Plan) (cls method : String) : Prop :=
  ((keptNames p).map (fieldIn cls) ++ p.properties.values.map (fun q => mangle (some cls) q.name) ++
    otherNames method).Nodup

instance (p : Plan) (cls method : String) : Decidable (Apart p cls method) := by
  unfold Apart
  infer_instance

namespace Apart

theorem parts (h : Apart p cls name) : ((keptNames p).map (fieldIn cls)).Nodup ∧
    (p.properties.values.map fun q => mangle (some cls) q.name).Nodup ∧
    (∀ s ∈ (keptNames p).map (fieldIn cls), ∀ t ∈ p.properties.values.map (fun q => mangle (some cls) q.name),
      s ≠ t) ∧
    ∀ s ∈ (keptNames p).map (fieldIn cls) ++ p.properties.values.map (fun q => mangle (some cls) q.name),
      s ∉ otherNames name := by
  unfold Apart at h
  obtain ⟨hkept, -, hothers⟩ := List.nodup_append.mp h
  obtain ⟨hfields, hproperties, hapart⟩ := List.nodup_append.mp hkept
  exact ⟨hfields, hproperties, hapart, fun s hs ht => hothers s hs s ht rfl⟩

theorem field_ne_property (h : Apart p cls name) {n : String} (hn : n ∈ keptNames p) {q : RoutedProperty}
    (hq : q ∈ p.properties.values) : fieldIn cls n ≠ mangle (some cls) q.name :=
  h.parts.2.2.1 _ (List.mem_map_of_mem hn) _ (List.mem_map_of_mem hq)

theorem field_not_mem (h : Apart p cls name) {n : String} (hn : n ∈ keptNames p) :
    fieldIn cls n ∉ otherNames name :=
  h.parts.2.2.2 _ (List.mem_append_left _ (List.mem_map_of_mem hn))

theorem property_not_mem (h : Apart p cls name) {q : RoutedProperty} (hq : q ∈ p.properties.values) :
    mangle (some cls) q.name ∉ otherNames name :=
  h.parts.2.2.2 _ (List.mem_append_right _ (List.mem_map_of_mem hq))

end Apart

/-- A class that has a constructor and properties for a plan. -/
structure KeepsFor (c : Nat) (cls : String) (p : Plan) (m : Nat) (w : World) (k : Named) (i : ClassInfo) :
    Prop where
  class_ : w.class? k.id = some i
  builtin : i.builtin = false
  linearisation : i.linearisation = [k, Standard.object]
  qualname : k.qualname = cls
  init : ∃ init fn rs firsts b, i.members.get? "__init__" = some (.function init) ∧
    w.function? init = some fn ∧ b.Grows w ∧
    MadeFunction c b m cls false (accessorSelf :: rs)
      (orPass ((rs.map fun r => keepArgument r.name) ++ firsts)) fn ∧
    rs.map Param.name = p.constructor.values.map ConstructorParameter.name ∧
    List.Forall₂ (GivesFirst c b) p.properties.values firsts
  properties : ∀ q ∈ p.properties.values, ∃ g s hint b, i.members.get? (mangle (some cls) q.name) =
      some (.property (some (.function g)) (some (.function s))) ∧
    NewFunction c b m cls false [accessorSelf] [.returns (some (Plan.selfField q.name))] w g ∧
    NewFunction c b m cls false
      [accessorSelf, { kind := .positionalOrKeyword, name := "value", hint := some hint }]
      [.assign [Plan.selfField q.name] (.name "value")] w s
  others : ∀ n ∈ keptNames p, i.members.get? (fieldIn cls n) = none
  notReserved : ∀ q ∈ p.constructor.values, q.name ∉ reservedNames

theorem KeepsFor.mono {i : ClassInfo} (h : KeepsFor c cls p m w k i) (hw : w.Grows w')
    (hi : w'.class? k.id = some i) : KeepsFor c cls p m w' k i where
  class_ := hi
  builtin := h.builtin
  linearisation := h.linearisation
  qualname := h.qualname
  init := by
    obtain ⟨init, fn, rs, firsts, b, hget, hfn, hb, hf, hrs, hfirsts⟩ := h.init
    obtain ⟨home, hfn'⟩ := hw.function? hfn
    exact ⟨init, _, rs, firsts, b, hget, hfn', hb.trans hw, ⟨hf.params, hf.isAsync, hf.globals, hf.body⟩,
      hrs, hfirsts⟩
  properties q hq := by
    obtain ⟨g, s, hint, b, hget, hg, hs⟩ := h.properties q hq
    exact ⟨g, s, hint, b, hget, hg.mono hw, hs.mono hw⟩
  others := h.others
  notReserved := h.notReserved

/-- The names that the class around a callable binds. -/
theorem bound_properties {qs : List RoutedProperty} {ps : List Piece}
    (h : List.Forall₂ (WritesProperty b (some cls)) qs ps) :
    ps.filterMap (Piece.bound? cls) = qs.map fun q => mangle (some cls) q.name := by
  induction h with
  | nil => rfl
  | cons h _ ih =>
    obtain ⟨hint, rfl, -⟩ := h
    rw [List.map_cons, ← ih]
    rfl

theorem mangle_init (cls : Option String) : mangle cls "__init__" = "__init__" :=
  Syntax.mangle_of_not_isPrivate cls (by decide)

/-- The names that the class around a callable binds. -/
theorem bound_pieces (hl : WrittenFor cw f method o b w l) (hname : isPublicName o.methodName = true) :
    (l.pieces method o).filterMap (Piece.bound? o.typeName) = [namespaceName, "__init__"] ++
      (planOf cw method o).properties.values.map (fun q => mangle (some o.typeName) q.name) ++
      [o.methodName] := by
  rw [CallableLayout.pieces, List.filterMap_append, List.filterMap_append, bound_properties hl.properties]
  simp only [List.filterMap_cons, List.filterMap_nil, Piece.bound?, mangle_init, mangle_namespaceName,
    mangle_of_isPublicName hname]

section Made

variable {i : ClassInfo}
  (hi : ClassMade cw.cache b m o.typeName [] (l.pieces method o) w' k i)
  (hl : WrittenFor cw f method o w₁ b l) (hname : isPublicName o.methodName = true)
  (hapart : Apart (planOf cw method o) o.typeName o.methodName)
include hi hl hname hapart

/-- No piece gives the class another name. -/
theorem qualname_made : k.qualname = o.typeName := by
  refine hi.qualname ?_
  rw [bound_pieces hl hname, List.append_assoc, List.mem_append, List.mem_append, List.mem_singleton]
  rintro (hm | hm | hm)
  · exact absurd hm (by decide)
  · obtain ⟨q, hq, he⟩ := List.mem_map.mp hm
    exact hapart.property_not_mem hq (by rw [he]; simp [otherNames])
  · exact ne_of_isPublicName hname (by decide) hm

/-- Nothing that comes after the constructor has its name. -/
theorem init_made : ∃ init, i.members.get? "__init__" = some (.function init) ∧
    NewFunction cw.cache b m o.typeName false (accessorSelf :: l.constructorParams)
      l.constructorBody w' init := by
  obtain ⟨init, hinit, hnew⟩ := hi.members.leaves
    [.assign namespaceName (.name namespaceName), .blank ""] _
    (.blank "" :: (l.properties ++ [.method method.isAsync o.methodName
      (Plan.receiver (receiverKind l.params) :: l.params) l.result (l.body method o)])) rfl (by
      rintro x hx
      obtain rfl := Option.some.inj hx
      rw [mangle_init]
      refine ⟨fun hm => ?_, by decide⟩
      rw [List.filterMap_cons_none rfl, List.filterMap_append, bound_properties hl.properties,
        List.mem_append] at hm
      rcases hm with hm | hm
      · obtain ⟨q, hq, he⟩ := List.mem_map.mp hm
        exact hapart.property_not_mem hq (by rw [he]; simp [otherNames])
      · refine ne_of_isPublicName hname (s := "__init__") (by decide) ?_
        simpa [Piece.bound?, mangle_of_isPublicName hname] using hm)
  rw [mangle_init] at hinit
  exact ⟨init, hinit, hnew⟩

/-- Nothing that comes after a property has its name. -/
theorem property_made {q : RoutedProperty} (hq : q ∈ (planOf cw method o).properties.values) :
    ∃ g s hint, i.members.get? (mangle (some o.typeName) q.name) =
        some (.property (some (.function g)) (some (.function s))) ∧
      NewFunction cw.cache b m o.typeName false [accessorSelf]
        [.returns (some (Plan.selfField q.name))] w' g ∧
      NewFunction cw.cache b m o.typeName false
        [accessorSelf, { kind := .positionalOrKeyword, name := "value", hint := some hint }]
        [.assign [Plan.selfField q.name] (.name "value")] w' s := by
  obtain ⟨piece, hpiece, hint, he, -⟩ := exists_of_forall₂ hl.properties hq
  obtain ⟨ps, qs, hsplit⟩ := List.append_of_mem hpiece
  have hbound : piece.bound? o.typeName = some (mangle (some o.typeName) q.name) := by rw [he]; rfl
  have hnodup := hapart.parts.2.1
  rw [← bound_properties hl.properties, hsplit, List.filterMap_append, List.filterMap_cons_some hbound,
    List.nodup_append, List.nodup_cons] at hnodup
  have hlater : mangle (some o.typeName) q.name ∉ (qs ++ [Piece.method method.isAsync o.methodName
      (Plan.receiver (receiverKind l.params) :: l.params) l.result (l.body method o)]).filterMap
        (Piece.bound? o.typeName) := by
    rw [List.filterMap_append, List.mem_append, not_or]
    refine ⟨hnodup.2.1.1, fun hm => hapart.property_not_mem hq ?_⟩
    have hm : mangle (some o.typeName) q.name = o.methodName := by
      simpa [Piece.bound?, mangle_of_isPublicName hname] using hm
    rw [hm]
    simp [otherNames]
  have hleaves := hi.members.leaves
    ([.assign namespaceName (.name namespaceName), .blank "",
      .method false "__init__" (accessorSelf :: l.constructorParams) none l.constructorBody,
      .blank ""] ++ ps) piece (qs ++ [.method method.isAsync o.methodName
        (Plan.receiver (receiverKind l.params) :: l.params) l.result (l.body method o)])
    (by rw [CallableLayout.pieces, hsplit]; simp) (by
      rintro x hx
      obtain rfl := Option.some.inj (hbound.symm.trans hx)
      exact ⟨hlater, fun he => hapart.property_not_mem hq (by rw [he]; simp [otherNames])⟩)
  rw [he] at hleaves
  obtain ⟨g, s, hget, hg, hs⟩ := hleaves
  exact ⟨g, s, hint, hget, hg, hs rfl⟩

/-- The class has nothing under the name of a field. -/
theorem field_made {n : String} (hn : n ∈ keptNames (planOf cw method o)) :
    i.members.get? (fieldIn o.typeName n) = none := by
  have hne := hapart.field_not_mem hn
  refine hi.members.others _ (fun hm => ?_) fun he => hne (by rw [he]; simp [otherNames])
  rw [bound_pieces hl hname, List.append_assoc, List.mem_append, List.mem_append, List.mem_singleton] at hm
  rcases hm with hm | hm | hm
  · refine hne ?_
    rcases List.mem_pair.mp hm with he | he <;> rw [he] <;> simp [otherNames]
  · obtain ⟨q, hq, he⟩ := List.mem_map.mp hm
    exact hapart.field_ne_property hn hq he.symm
  · exact hne (by rw [hm]; simp [otherNames])

end Made

theorem keyed_planOf (cw : CallableWrapper) (method : MethodInfo) (o : CallableOptions) :
    (planOf cw method o).Keyed :=
  Plan.Keyed.foldl ⟨keyed_empty _, keyed_empty _⟩

/-- What a constructor takes has passed the checks on its name. -/
theorem constructor_notReserved (h : WrittenFor cw f method o b w l) :
    ∀ q ∈ (planOf cw method o).constructor.values, q.name ∉ reservedNames := by
  intro q hq
  have hmem : q.name ∈ (planOf cw method o).constructor.keys := by
    rw [← (keyed_planOf cw method o).constructor.map_values]
    exact List.mem_map_of_mem hq
  rcases (mem_constructor_foldl _).mp hmem with hn | ⟨c, hc, hroute, hname⟩
  · cases hn
  · exact hname ▸ (h.checked c hc).notReserved (by rw [hroute]; simp)

/-- **The class that is created for a callable** keeps what is routed to its objects. -/
theorem createType_keepsFor (hw : Wrappable cw f o method compiler w₁)
    (hprepare : (cw.prepare f o).outcome w = (.ok (method, compiler), w₁))
    (h : (cw.createType f o).outcome w = (.ok k, w')) (hname : isPublicName o.methodName = true)
    (hroot : PlainRoot w₁) (hapart : Apart (planOf cw method o) o.typeName o.methodName) :
    ∃ m i run fn, KeepsFor cw.cache o.typeName (planOf cw method o) m w' k i ∧
      i.members.get? o.methodName = some (.function run) ∧ w'.function? run = some fn ∧
      Forwards cw f method o m w' fn ∧ w₁.Grows w' := by
  obtain ⟨l, g, b, hb, -, hl, hsound, hg⟩ := createType_generated hw hprepare h
  obtain ⟨run, i, hi, hget, hnew⟩ := run_made hg hname
  obtain ⟨fn, hfn, hmade⟩ := hnew.made
  obtain ⟨i', hi'⟩ := hg.class_
  obtain rfl := Option.some.inj (hi.symm.trans hi'.class_)
  obtain ⟨init, hinit, -, ctor, hctor, hctorMade⟩ := init_made hi' hl hname hapart
  have hnames : l.constructorParams.map Param.name =
      (planOf cw method o).constructor.values.map ConstructorParameter.name := by
    rw [← List.forall₂_eq_eq_eq, List.forall₂_map_left_iff, List.forall₂_map_right_iff]
    exact (List.Forall₂.flip hl.constructorParams).imp fun _ _ h => h.name
  refine ⟨g.module, i, run, fn, ?_, hget, hfn,
    ⟨l, w₁, b, hg.since.grows, hl, hmade, nodup_params hsound⟩, (hb.trans hg.since).grows⟩
  exact
    { class_ := hi
      builtin := hi'.builtin
      linearisation := linearisation_of_derives hi'.derives (hroot.mono hb.grows)
      qualname := qualname_made hi' hl hname hapart
      init := ⟨init, ctor, _, _, b, hinit, hctor, hg.since.grows, hctorMade, hnames, hl.firsts⟩
      properties := fun q hq => by
        obtain ⟨g, s, hint, hget, hg, hs⟩ := property_made hi' hl hname hapart hq
        exact ⟨g, s, hint, b, hget, hg, hs⟩
      others := fun n hn => field_made hi' hl hname hapart hn
      notReserved := constructor_notReserved hl }

end Facade.Wrapper
