import Facade.Proofs.ForwardedCalls

/-!
# Calls of classes around callables

The method of a class around a callable takes what is left of the parameters, and passes on to the callable
what its parameters are bound to and what its object keeps.

* `run_made`, `params_made`: the method and its parameters, as they have been made.
* `Sees`: what the body of the method sees.
* `Equipped`: what an object keeps for the parameters that are routed to it.
* `passedTo`: what is passed on for a parameter of the callable.
* `Forwards`, `createType_forwards`: the method of a class that has been created.
* `Forwards.runFunction`: running it is one call of the callable.
-/

namespace Facade.Wrapper

open Run Execution Conversion Binding
open Facade.Describe (MethodInfo ParameterInfo given)
open Facade.Describe.MethodInfo (isPublicName)
open Syntax (Expr Stmt Param ParamKind mangle)

variable {cw : CallableWrapper} {f self : Value} {o : CallableOptions} {method : MethodInfo}
  {compiler : String} {w w₁ w' b v : World} {l : CallableLayout} {g : GeneratedModule} {k : Named}
  {c m : Nat} {cls : String} {fn : Function} {ps : List Parameter}

/-! ## The method of a class -/

/-- The parameters of a method differ where they are named. -/
theorem nodup_params {modules : List String}
    (h : Stmt.areSound {} (l.tree method o modules) = true) :
    ((Plan.receiver (receiverKind l.params) :: l.params).map fun r =>
      mangle (some o.typeName) r.name).Nodup := by
  rw [CallableLayout.tree, Stmt.areSound_append, Bool.and_eq_true] at h
  have hclass := h.2
  simp only [Stmt.areSound, Stmt.isSound, Bool.and_eq_true] at hclass
  have hbody := hclass.1.2
  rw [CallableLayout.pieces, List.flatMap_append, Stmt.areSound_append, Bool.and_eq_true] at hbody
  have hmethod := hbody.2
  simp only [List.flatMap_cons, List.flatMap_nil, List.append_nil, Piece.statements, Stmt.areSound,
    Stmt.isSound, Syntax.areSoundParams, Bool.and_eq_true] at hmethod
  exact (Syntax.areDistinct_iff _).mp hmethod.1.1.1.1.1.2.1

/-- **The method of the class** is made from its layout. -/
theorem run_made {imported : List String} {ns : String}
    (hg : Generated c b o.typeName ns imported [] (l.pieces method o) g k w')
    (hname : isPublicName o.methodName = true) :
    ∃ fn i, w'.class? k.id = some i ∧ i.members.get? o.methodName = some (.function fn) ∧
      NewFunction c b g.module o.typeName method.isAsync
        (Plan.receiver (receiverKind l.params) :: l.params) (l.body method o) w' fn := by
  obtain ⟨i, hi⟩ := hg.class_
  have hmangle : mangle (some o.typeName) o.methodName = o.methodName :=
    mangle_of_isPublicName hname _
  obtain ⟨fn, hget, hnew⟩ := hi.members.leaves _ _ [] (by rw [CallableLayout.pieces]) (by
    rintro x hx
    obtain rfl := Option.some.inj hx
    refine ⟨List.not_mem_nil, ?_⟩
    rw [hmangle]
    exact (ne_of_isPublicName hname (by decide)).symm)
  rw [hmangle] at hget
  exact ⟨fn, i, hi.class_, hget, hnew⟩

/-! ## Its parameters -/

/-- A parameter that has been made for a converted one: it goes by the name that the class gives it, and
its default has been read again. -/
structure MadeFor (cls : Option String) (q : ConvertedParameter) (p : Parameter) : Prop where
  name : p.name = mangle cls q.name
  kind : p.kind = q.parameter.kind
  default : Option.Rel Reread
    (if q.parameter.kind.isVariadic then none else q.parameter.default) p.default

theorem madeFor_of_writes {cls : Option String} {q : ConvertedParameter} {r : Param} {p : Parameter}
    (hw : Writes c b w cls q r) (hm : MakesParam (Again c w) cls r p) : MadeFor cls q p := by
  refine ⟨by rw [hm.name, hw.name], hm.kind.trans hw.kind, ?_⟩
  have hwritten := hw.default
  have hmade := hm.default
  generalize (if q.parameter.kind.isVariadic then none else q.parameter.default) = d at hwritten ⊢
  generalize r.default = e at hwritten hmade
  generalize p.default = x at hmade ⊢
  cases hwritten with
  | none => cases hmade; exact .none
  | some hstored =>
    cases hmade with
    | some hagain => exact .some (hagain _ hstored)

/-- The receiver comes first, and the others have been made for the parameters that are left. -/
theorem params_made {isAsync : Bool} {kind : ParamKind} {qs : List ConvertedParameter}
    {rs : List Param} {body : List Stmt}
    (hf : MadeFunction c b m cls isAsync (Plan.receiver kind :: rs) body fn)
    (hkind : kind = .positionalOnly ∨ kind = .positionalOrKeyword)
    (hrs : List.Forall₂ (Writes c w₁ b (some cls)) qs rs) :
    ∃ r ps, fn.params = r :: ps ∧ r.name = "self" ∧ r.kind = kind ∧ isPositional r = true ∧
      List.Forall₂ (MadeFor (some cls)) qs ps := by
  have hparams := hf.params
  generalize fn.params = all at hparams ⊢
  cases hparams with
  | @cons _ r _ ps hr hps =>
    have hself : r.name = "self" := hr.name.trans (mangle_reservedName (some cls) (s := "self")
      (by decide))
    have hrkind : r.kind = kind := hr.kind
    refine ⟨r, ps, rfl, hself, hrkind, ?_, ?_⟩
    · rw [isPositional, hrkind]
      rcases hkind with rfl | rfl <;> rfl
    · clear hf
      induction hrs generalizing ps with
      | nil => cases hps; exact .nil
      | cons hw _ ih =>
        cases hps with
        | cons hm hps => exact .cons (madeFor_of_writes hw hm) (ih hps)

theorem receiverKind_cases (rs : List Param) :
    receiverKind rs = .positionalOnly ∨ receiverKind rs = .positionalOrKeyword := by
  rw [receiverKind]
  split <;> simp

/-! ## What its body sees -/

/-- What the body of the method sees: its object, what its parameters are bound to, and the module
around the class. -/
structure Sees (c m : Nat) (cls : String) (s : Value) (qs : List ConvertedParameter)
    (bound : List (String × Value)) (fr : Frame) : Prop where
  privateTo : fr.privateTo = some cls
  receiver : ∀ w, fr.find w "self" = .ok s
  own : ∀ q ∈ qs, ∃ x, given bound (mangle (some cls) q.name) = some x ∧
    ∀ w, fr.find w (mangle (some cls) q.name) = .ok x
  cache : ∀ w, Serves c m w → fr.find w cacheGlobal = .ok (.cache c)
  casts : ∀ w, Serves c m w → Casts fr w

/-- The receiver is bound first, and the names of the other parameters come after it. -/
theorem bound_receiver {r : Parameter} {args : List Value} {kw : Keywords} {bound : List (String × Value)}
    (hparams : fn.params = r :: ps) (hr : r.name = "self") (hpos : isPositional r = true)
    (hbound : bindArguments fn.params (self :: args) kw = .ok bound) :
    ∃ tail, bound = ("self", self) :: tail ∧ tail.map Prod.fst = ps.map Parameter.name := by
  have hnames := map_fst_bindArguments hbound
  obtain ⟨hfrom, -⟩ := bindArguments_eq_ok hbound
  rw [hparams, bindFrom_position hpos] at hfrom
  rw [hparams] at hnames
  split at hfrom
  · cases hfrom
  obtain ⟨tail, -, rfl⟩ := map_eq_ok hfrom
  exact ⟨tail, by rw [hr], (List.cons.inj hnames).2⟩

/-- Names that are bound in the class are not spelled like the other names that its bodies rely on. -/
theorem ne_of_reserved {names : List String} (hfree : ∀ n ∈ names, n ∉ reservedNames) {x : String}
    (hx : x ∈ reservedNames) (hne : x ≠ "self") :
    ∀ y ∈ "self" :: names.map (mangle (some cls)), mangle (some cls) y ≠ x := by
  intro y hy he
  rcases List.mem_cons.mp hy with rfl | hy
  · rw [mangle_reservedName _ (by decide)] at he
    exact hne he.symm
  · obtain ⟨n, hn, rfl⟩ := List.mem_map.mp hy
    rw [Syntax.mangle_mangle] at he
    exact mangle_not_mem_reservedNames (hfree n hn) (he ▸ hx)

/-- The parameters of a method go by the names that the class gives them. -/
theorem names_madeFor {qs : List ConvertedParameter} (h : List.Forall₂ (MadeFor (some cls)) qs ps) :
    ps.map Parameter.name = (qs.map ConvertedParameter.name).map (mangle (some cls)) := by
  induction h with
  | nil => rfl
  | cons h _ ih => rw [List.map_cons, List.map_cons, List.map_cons, ih, h.name]

theorem sees_ofCall {r : Parameter} {qs : List ConvertedParameter} {args : List Value} {kw : Keywords}
    {bound : List (String × Value)} {body : List Stmt} (hparams : fn.params = r :: ps)
    (hr : r.name = "self") (hpos : isPositional r = true)
    (hps : List.Forall₂ (MadeFor (some cls)) qs ps) (hfree : ∀ q ∈ qs, q.name ∉ reservedNames)
    (hglobals : fn.globals = some m) (hbody : boundNamesOf body = [])
    (hbound : bindArguments fn.params (self :: args) kw = .ok bound) :
    Sees c m cls self qs bound (Frame.ofCall fn body (some cls) {} bound) := by
  obtain ⟨tail, rfl, htail⟩ := bound_receiver hparams hr hpos hbound
  rw [names_madeFor hps] at htail
  have outside {x : String} (hx : x ∈ reservedNames) (hne : x ≠ "self") :
      ∀ y ∈ (("self", self) :: tail).map Prod.fst, mangle (some cls) y ≠ x := by
    rw [List.map_cons, htail]
    exact ne_of_reserved (List.forall_mem_map.mpr hfree) hx hne
  refine ⟨rfl, fun w => ?_, fun q hq => ?_, fun w hw => ?_, fun w hw => ?_⟩
  · exact find_bound (mangle_reservedName _ (by decide)) (by rw [Describe.given_cons, if_pos rfl])
  · have hmem : mangle (some cls) q.name ∈ (("self", self) :: tail).map Prod.fst := by
      rw [List.map_cons, htail, List.map_map]
      exact List.mem_cons_of_mem _ (List.mem_map_of_mem hq)
    obtain ⟨x, hx⟩ := Option.ne_none_iff_exists'.mp fun h =>
      Describe.given_eq_none_iff.mp h hmem
    exact ⟨x, hx, fun w => find_bound (Syntax.mangle_mangle _ _) hx⟩
  · obtain ⟨info, t, types, hm, hcache, -⟩ := hw
    exact find_global (outside (by decide) (by decide)) hbody hglobals hm hcache
  · obtain ⟨info, t, types, hm, -, htyping, ht, hcast⟩ := hw
    exact ⟨t, types, find_global (outside (by decide) (by decide)) hbody hglobals hm htyping, ht, hcast⟩

/-! ## What is passed on -/

/-- A parameter of a callable, and what it has been converted to. -/
structure Describes (p : Parameter) (q : ConvertedParameter) : Prop where
  name : q.parameter.name = p.name
  kind : q.parameter.kind = p.kind
  route : p.kind.isVariadic = true → q.route = .method

theorem describes_convertedOf (rules : List Rule) {p : Parameter} {i : ParameterInfo}
    (hn : i.name = p.name) (hk : i.kind = p.kind) : Describes p (convertedOf rules i) := by
  refine ⟨by rw [parameter_convertedOf, hn], by rw [parameter_convertedOf, hk], fun hv => ?_⟩
  rw [convertedOf, if_pos (by rw [hk]; exact hv)]

/-- Where an object keeps what it passes on for a parameter. -/
def placeOf (q : ConvertedParameter) : String :=
  if q.route = .constructor then fieldOf q.name else q.name

/-- From some depth on, an object gives something for every parameter that it keeps itself. -/
def Equipped (d : Nat) (cls : String) (self : Value) (held : ConvertedParameter → Value)
    (qs : List ConvertedParameter) (w : World) : Prop :=
  ∀ q ∈ qs, q.route ≠ .method → ∀ n, d ≤ n →
    (getAttr n self (mangle (some cls) (placeOf q))).outcome w = (.ok (held q), w)

/-- What is passed on for a converted parameter: what the parameter of the method is bound to, or what the
object keeps. -/
def passedFor (cls : String) (bound : List (String × Value)) (held : ConvertedParameter → Value)
    (q : ConvertedParameter) : Value :=
  if q.route = .method then (given bound (mangle (some cls) q.name)).getD .none else held q

/-- What is passed on for a parameter of the callable. -/
def passedTo (pass : ConvertedParameter → Value) (qs : List ConvertedParameter) (p : Parameter) :
    Value :=
  ((qs.find? fun q => q.parameter.name == p.name).map pass).getD .none

theorem forall₂_mem {α β : Type} {R : α → β → Prop} {as : List α} {bs : List β}
    (h : List.Forall₂ R as bs) : List.Forall₂ (fun a b => R a b ∧ a ∈ as ∧ b ∈ bs) as bs := by
  induction h with
  | nil => exact .nil
  | cons hR _ ih =>
    exact .cons ⟨hR, List.mem_cons_self, List.mem_cons_self⟩
      (ih.imp fun _ _ h => ⟨h.1, List.mem_cons_of_mem _ h.2.1, List.mem_cons_of_mem _ h.2.2⟩)

theorem passedTo_eq {pass : ConvertedParameter → Value} {qs : List ConvertedParameter}
    (h : List.Forall₂ Describes ps qs) (hn : (ps.map Parameter.name).Nodup) {p : Parameter}
    {q : ConvertedParameter} (hq : q ∈ qs) (hname : q.parameter.name = p.name) :
    passedTo pass qs p = pass q := by
  have hfind : (qs.find? fun q => q.parameter.name == p.name) = some q := by
    induction h with
    | nil => cases hq
    | @cons a x ps qs hax _ ih =>
      rw [List.map_cons, List.nodup_cons] at hn
      rcases List.mem_cons.mp hq with rfl | hq
      · rw [List.find?_cons_of_pos (by simpa using hname)]
      · have hne : x.parameter.name ≠ p.name := by
          rename_i hall _
          obtain ⟨y, hy, hyq⟩ := exists_of_forall₂_right hall hq
          rw [hax.name, ← hname, hyq.name]
          exact fun he => hn.1 (he ▸ List.mem_map_of_mem hy)
        rw [List.find?_cons_of_neg (by simpa using hne)]
        exact ih hn.2 hq
  rw [passedTo, hfind]
  rfl

/-- **What is passed on is at hand** where the body of the method runs. -/
theorem supplied_of_sees {d : Nat} {qs : List ConvertedParameter} {bound : List (String × Value)}
    {fr : Frame} {held : ConvertedParameter → Value}
    (hsees : Sees c m cls self (qs.filter fun q => q.route = .method) bound fr)
    (hequipped : Equipped d cls self held qs w) (h : List.Forall₂ Describes ps qs)
    (hn : (ps.map Parameter.name).Nodup) :
    List.Forall₂ (Supplied (d + 2) fr w (passedTo (passedFor cls bound held) qs)) ps qs := by
  refine (forall₂_mem h).imp fun p q hpq => ?_
  obtain ⟨hd, -, hq⟩ := hpq
  refine ⟨hd.name, hd.kind, hd.route, fun n hn' => ?_⟩
  obtain ⟨k, rfl⟩ := Nat.exists_eq_add_of_le' (Nat.le_of_add_left_le hn')
  have hdk : d ≤ k + 1 := by omega
  rw [passedTo_eq h hn hq hd.name, passedFor, ConvertedParameter.expression]
  have hself : (eval (k + 1) fr (.name "self")).outcome w = (.ok self, w) := by
    rw [eval_name, mangle_reservedName _ (by decide), hsees.receiver, outcome_lift_ok]
  cases hr : q.route with
  | method =>
    obtain ⟨x, hx, hfind⟩ := hsees.own q (List.mem_filter.mpr ⟨hq, by simpa using hr⟩)
    rw [if_pos rfl, hx]
    dsimp only
    rw [eval_name, hsees.privateTo, hfind, outcome_lift_ok]
    rfl
  | constructor =>
    have hheld := hequipped q hq (by rw [hr]; simp) (k + 1) hdk
    rw [placeOf, if_pos hr] at hheld
    rw [if_neg (by simp)]
    dsimp only
    rw [eval_attribute, outcome_bind_of_ok hself, hsees.privateTo, hheld]
  | property =>
    have hheld := hequipped q hq (by rw [hr]; simp) (k + 1) hdk
    rw [placeOf, if_neg (by rw [hr]; simp)] at hheld
    rw [if_neg (by simp)]
    dsimp only
    rw [eval_attribute, outcome_bind_of_ok hself, hsees.privateTo, hheld]

/-! ## Running the method -/

/-- The names of the parameters of a method are those that the class gives them. -/
theorem names_made {isAsync : Bool} {rs : List Param} {body : List Stmt}
    (hf : MadeFunction c b m cls isAsync rs body fn) :
    fn.params.map Parameter.name = rs.map fun r => mangle (some cls) r.name := by
  have hparams := hf.params
  clear hf
  generalize fn.params = all at hparams ⊢
  induction hparams with
  | nil => rfl
  | cons h _ ih => rw [List.map_cons, List.map_cons, ih, h.name]

/-- What the surpluses of a call are passed on as. -/
theorem surpluses_passed {r : Parameter} {all : List Parameter} {qs : List ConvertedParameter}
    {args : List Value} {kw : Keywords} {bound : List (String × Value)}
    (held : ConvertedParameter → Value) (hpos : isPositional r = true)
    (hall : List.Forall₂ (MadeFor (some cls)) (qs.filter fun q => q.route = .method) all)
    (hnodup : ((r :: all).map Parameter.name).Nodup)
    (hbound : bindArguments (r :: all) args kw = .ok bound) (h : List.Forall₂ Describes ps qs)
    (hn : (ps.map Parameter.name).Nodup) :
    let pass := passedTo (passedFor cls bound held) qs
    (∀ p ∈ ps, p.kind = .varPositional → ∃ vs, pass p = .tuple vs) ∧
      (∀ p ∈ ps, p.kind = .varKeyword → pass p = Value.dictOfNames (surplus (r :: all) kw)) ∧
      (hasKind .varKeyword ps = false → surplus (r :: all) kw = []) := by
  intro pass
  obtain ⟨hfrom, hleft⟩ := bindArguments_eq_ok hbound
  have hbounds := bindFrom_boundTo _ hfrom
  have hnames : (bound.map Prod.fst).Nodup := by
    rw [map_fst_bindArguments hbound]
    exact hnodup
  -- A parameter that takes a surplus has one of the method for it, which is bound to the surplus.
  have hpass {p : Parameter} (hp : p ∈ ps) (hk : p.kind.isVariadic = true) :
      ∃ x b, BoundTo (r :: all) kw x b ∧ x.kind = p.kind ∧ pass p = b.2 := by
    obtain ⟨q, hq, hd⟩ := exists_of_forall₂ h hp
    have hroute := hd.route hk
    obtain ⟨x, hx, hmade⟩ := exists_of_forall₂ hall (List.mem_filter.mpr ⟨hq, by simpa using hroute⟩)
    obtain ⟨b, hb, hbx⟩ := exists_of_forall₂ hbounds (List.mem_cons_of_mem r hx)
    refine ⟨x, b, hbx, hmade.kind.trans hd.kind, ?_⟩
    have hgiven := Describe.given_of_mem hnames hb
    rw [hbx.name, hmade.name] at hgiven
    show passedTo (passedFor cls bound held) qs p = b.2
    rw [passedTo_eq h hn hq hd.name, passedFor, if_pos hroute, hgiven]
    rfl
  refine ⟨fun p hp hk => ?_, fun p hp hk => ?_, fun hk => hleft ?_⟩
  · obtain ⟨x, b, hb, hx, he⟩ := hpass hp (by rw [hk]; rfl)
    obtain ⟨vs, hvs⟩ := hb.positions (hx.trans hk)
    exact ⟨vs, he.trans hvs⟩
  · obtain ⟨x, b, hb, hx, he⟩ := hpass hp (by rw [hk]; rfl)
    exact he.trans (hb.names (hx.trans hk))
  · rw [hasKind, List.any_eq_false] at hk ⊢
    intro x hx
    rw [decide_eq_true_eq]
    intro hxk
    rcases List.mem_cons.mp hx with rfl | hx
    · simp [isPositional, hxk] at hpos
    · obtain ⟨q, hq, hmade⟩ := exists_of_forall₂_right hall hx
      obtain ⟨p, hp, hd⟩ := exists_of_forall₂_right h (List.mem_of_mem_filter hq)
      refine hk p hp ?_
      rw [decide_eq_true_eq, ← hd.kind, ← hmade.kind, hxk]

/-- The signature of a callable, as it has been described. -/
def IsDescribedBy (ps : List Parameter) (method : MethodInfo) : Prop :=
  List.Forall₂ (fun (p : Parameter) (i : ParameterInfo) => i.name = p.name ∧ i.kind = p.kind) ps
    method.params

theorem describes_converted (h : IsDescribedBy ps method) (o : CallableOptions) :
    List.Forall₂ Describes ps (convertedMethod method o).parameters := by
  refine List.forall₂_map_right_iff.mpr (h.imp fun p i hi => ?_)
  exact describes_convertedOf o.rules hi.1 hi.2

/-- A function is the method of a class around a callable: it has been made from a layout that fetches the
callable, and its parameters differ. -/
structure Forwards (cw : CallableWrapper) (f : Value) (method : MethodInfo) (o : CallableOptions)
    (m : Nat) (w : World) (fn : Function) : Prop where
  layout : ∃ (l : CallableLayout) (w₁ b : World), b.Grows w ∧ WrittenFor cw f method o w₁ b l ∧
    MadeFunction cw.cache b m o.typeName method.isAsync
      (Plan.receiver (receiverKind l.params) :: l.params) (l.body method o) fn ∧
    ((Plan.receiver (receiverKind l.params) :: l.params).map fun r =>
      mangle (some o.typeName) r.name).Nodup

namespace Forwards

/-- The method is there whatever has happened since. -/
theorem mono {id : Nat} (h : Forwards cw f method o m w fn) (hfn : w.function? id = some fn)
    (hw : w.Grows v) : ∃ fn', v.function? id = some fn' ∧ Forwards cw f method o m v fn' := by
  obtain ⟨home, hhome⟩ := hw.function? hfn
  obtain ⟨l, w₁, b, hb, hl, hf, hn⟩ := h.layout
  exact ⟨_, hhome, l, w₁, b, hb.trans hw, hl, ⟨hf.params, hf.isAsync, hf.globals, hf.body⟩, hn⟩

theorem isAsync (h : Forwards cw f method o m w fn) : fn.isAsync = method.isAsync := by
  obtain ⟨l, w₁, b, -, -, hf, -⟩ := h.layout
  exact hf.isAsync

theorem globals (h : Forwards cw f method o m w fn) : fn.globals = some m := by
  obtain ⟨l, w₁, b, -, -, hf, -⟩ := h.layout
  exact hf.globals

theorem nodup (h : Forwards cw f method o m w fn) : (fn.params.map Parameter.name).Nodup := by
  obtain ⟨l, w₁, b, -, -, hf, hn⟩ := h.layout
  rwa [names_made hf]

/-- **The parameters of the method** are its receiver and those that have been made for the parameters of the
callable that are routed to it. -/
theorem params (h : Forwards cw f method o m w fn) :
    ∃ r all, fn.params = r :: all ∧ r.name = "self" ∧ isPositional r = true ∧
      List.Forall₂ (MadeFor (some o.typeName)) (convertedMethod method o).methodParameters all := by
  obtain ⟨l, w₁, b, -, hl, hf, -⟩ := h.layout
  obtain ⟨r, all, hparams, hr, -, hpos, hall⟩ := params_made hf (receiverKind_cases _) hl.params
  exact ⟨r, all, hparams, hr, hpos, hall⟩

/-- The receiver can be given by its name only where no parameter is given by position only. -/
theorem receiver_named {r : Parameter} {all : List Parameter} (h : Forwards cw f method o m w fn)
    (hparams : fn.params = r :: all) (hr : isNamed r = true) :
    ∀ q ∈ (convertedMethod method o).methodParameters, q.parameter.kind ≠ .positionalOnly := by
  obtain ⟨l, w₁, b, -, hl, hf, -⟩ := h.layout
  obtain ⟨r', all', hparams', -, hkind, -, -⟩ := params_made hf (receiverKind_cases _) hl.params
  obtain ⟨rfl, -⟩ := List.cons.inj (hparams.symm.trans hparams')
  intro q hq hpos
  obtain ⟨s, hs, hwrites⟩ := exists_of_forall₂ hl.params hq
  have hany : (l.params.any fun s => s.kind = .positionalOnly) = true :=
    List.any_eq_true.mpr ⟨s, hs, by simp [hwrites.kind, hpos]⟩
  rw [isNamed, hkind, receiverKind, if_pos hany] at hr
  cases hr

/-- **Running the method** is one call of the callable, with what the method and its object have for the
parameters of the callable, and with the surpluses of the call. -/
theorem runFunction {d n : Nat} {args : List Value} {kw : Keywords} {bound : List (String × Value)}
    {held : ConvertedParameter → Value} (h : Forwards cw f method o m v fn)
    (hne : ∀ k, f = .cls k → k.id ≠ (Standard.named "super").id)
    (hsig : IsDescribedBy ps method) (hlegal : IsLegal ps) (hserves : Serves cw.cache m v)
    (hequipped : Equipped d o.typeName self held (convertedMethod method o).parameters
      (v.looked cw.cache))
    (hbound : bindArguments fn.params (self :: args) kw = .ok bound) (hn : d ≤ n) :
    let pass := passedTo (passedFor o.typeName bound held) (convertedMethod method o).parameters
    (runFunction (n + 3 + bodyDepth method) fn bound).outcome v =
      (lift (addKeywords [] (passedNames pass ps ++ surplus fn.params kw)) >>=
        callOut (n + 3) method.isAsync f (passedPositions pass ps) >>= fun r =>
          pure (handBack method r)).outcome (v.looked cw.cache) := by
  intro pass
  obtain ⟨r, all, hparams, hr, hpos, hall⟩ := h.params
  obtain ⟨l, w₁, b, hb, hl, hf, hnodup⟩ := h.layout
  have hdescribes := describes_converted hsig o
  have hfree : ∀ q ∈ (convertedMethod method o).methodParameters, q.name ∉ reservedNames := by
    intro q hq
    obtain ⟨hq, hroute⟩ := List.mem_filter.mp hq
    refine (hl.checked q hq).notReserved fun h => ?_
    rw [h] at hroute
    exact absurd hroute (by decide)
  have hbody : boundNamesOf (l.body method o) = [] := boundNames_forwardStatement _ _ _
  have hsees : Sees cw.cache m o.typeName self (convertedMethod method o).methodParameters bound
      (Frame.ofCall fn (l.body method o) (some o.typeName) {} bound) :=
    sees_ofCall hparams hr hpos hall hfree hf.globals hbody hbound
  obtain ⟨hpositions, hkeywords, habsent⟩ := surpluses_passed held hpos hall
    (hparams ▸ h.nodup) (hparams ▸ hbound) hdescribes hlegal.nodup
  have hsupplied := supplied_of_sees hsees hequipped hdescribes hlegal.nodup
  rw [hparams]
  refine runFunction_forwards method rfl hf.body rfl (hsees.casts v hserves)
    (by simp [ConvertedMethod.callOf])
    (eval_callOf (n := n + 2) method (hsees.cache v hserves) hl.readable (hb.entries _ _ _ hl.cached)
      hne hlegal.ordered hsupplied hpositions hkeywords habsent (by omega) (by omega))

end Forwards

/-- **The method of a class that is created for a callable** forwards to the callable. -/
theorem createType_forwards {k : Named} (hw : Wrappable cw f o method compiler w₁)
    (hprepare : (cw.prepare f o).outcome w = (.ok (method, compiler), w₁))
    (h : (cw.createType f o).outcome w = (.ok k, w')) (hname : isPublicName o.methodName = true) :
    ∃ m i id fn, w'.class? k.id = some i ∧ i.members.get? o.methodName = some (.function id) ∧
      w'.function? id = some fn ∧ Forwards cw f method o m w' fn := by
  obtain ⟨l, g, b, -, -, hl, hsound, hg⟩ := createType_generated hw hprepare h
  obtain ⟨id, i, hi, hget, hnew⟩ := run_made hg hname
  obtain ⟨fn, hfn, hmade⟩ := hnew.made
  exact ⟨g.module, i, id, fn, hi, hget, hfn, l, w₁, b, hg.since.grows, hl, hmade, nodup_params hsound⟩

end Facade.Wrapper
