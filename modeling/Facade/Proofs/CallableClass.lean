import Facade.Proofs.Writing
import Facade.Wrapper.Callable

/-!
# Classes around callables, as they are generated

* `CallableWrapper.prepare`: everything that happens before the program is written.
* `CallableLayout`, `WrittenFor`: what is written for a callable.
* `program_eq_ok`: a program that is written has a layout.
* `createType_generated`: a class that is created has been generated from a layout.
-/

namespace Facade.Wrapper

open Run Execution Conversion
open Facade.Describe (MethodInfo)
open Syntax (Expr Stmt Param ParamKind)

variable {cw : CallableWrapper} {f : Value} {o : CallableOptions} {method : MethodInfo}
  {compiler : String} {w w₁ w' b v : World} {c : Nat}

/-! ## What happens first -/

/-- Describes a callable, chooses a compiler and references what the annotations need. -/
def CallableWrapper.prepare (cw : CallableWrapper) (f : Value) (o : CallableOptions) :
    Run (MethodInfo × String) := do
  let method ← Describe.describeCallable f
  let compiler ← compilerFor o.compiler cw.compilerOf
  addTypingReference compiler
  Compiler.addReferences compiler method.annotations
  return (method, compiler)

/-- What happens after that. -/
def CallableWrapper.finish (cw : CallableWrapper) (f : Value) (o : CallableOptions)
    (method : MethodInfo) (compiler : String) : Run GeneratedModule := do
  let program ← cw.program f method o compiler
  Run.log
    { component := "callable_wrapper"
      operation := "generate"
      level := "DEBUG"
      message := "rendered wrapper"
      extra := [("type_name", o.typeName), ("callable", method.name),
        ("lines", toString (countLines program.text))] }
  Compiler.compile compiler program (seeds cw.cache)

theorem createType_eq_ok {k : Named}
    (hprepare : (cw.prepare f o).outcome w = (.ok (method, compiler), w₁))
    (h : (cw.createType f o).outcome w = (.ok k, w')) :
    ∃ g w₂, (cw.finish f o method compiler).outcome w₁ = (.ok g, w₂) ∧
      g.singleType.outcome w₂ = (.ok k, w') := by
  unfold CallableWrapper.createType at h
  obtain ⟨g, w₂, hg, hs⟩ := bind_eq_ok h
  have hsplit : cw.generate f o = cw.prepare f o >>= fun x => cw.finish f o x.1 x.2 := by
    unfold CallableWrapper.generate CallableWrapper.prepare CallableWrapper.finish
    simp only [bind_assoc, pure_bind]
  rw [hsplit, outcome_bind_of_ok hprepare] at hg
  exact ⟨g, w₂, hg, hs⟩

/-! ## Layouts -/

/-- The plan for a callable. -/
def planOf (cw : CallableWrapper) (method : MethodInfo) (o : CallableOptions) : Plan :=
  (method.params.map (convertedOf o.rules)).foldl Plan.adopt
    { rules := o.rules, cache := some cw.cache, selfTypeName := some o.typeName }

/-- The method of a callable after conversion. -/
def convertedMethod (method : MethodInfo) (o : CallableOptions) : ConvertedMethod :=
  ⟨method, method.params.map (convertedOf o.rules)⟩

/-- What is chosen while a class around a callable is written. -/
structure CallableLayout where
  /-- The identifier of the callable. -/
  identifier : Uuid
  /-- The parameters of the constructor, the receiver left out. -/
  constructorParams : List Param
  /-- The statements that give the properties their first values. -/
  firsts : List Stmt
  /-- The properties. -/
  properties : List Piece
  /-- The parameters of the method, the receiver left out. -/
  params : List Param
  /-- The annotation of the result. -/
  result : Option Expr
  /-- The text of that annotation. -/
  resultText : String

/-- The statement of a method that forwards its call. -/
def forwardStatement (method : MethodInfo) (text : String) (call : Expr) : Stmt :=
  match method.returns with
  | none => .returns (some call)
  | some _ =>
    if method.returnsValue then
      .returns (some (.call (.attribute (.name typingAlias) "cast") [Expr.str text, call] []))
    else .expr call

/-- The forwarded call of a callable. -/
def forwarded (method : MethodInfo) (o : CallableOptions) (u : Uuid) : Expr :=
  let call := (convertedMethod method o).callOf (cachedValue u)
  if method.isAsync then .await call else call

namespace CallableLayout

/-- The body of the constructor. -/
def constructorBody (l : CallableLayout) : List Stmt :=
  orPass ((l.constructorParams.map fun r => keepArgument r.name) ++ l.firsts)

/-- The body of the method. -/
def body (l : CallableLayout) (method : MethodInfo) (o : CallableOptions) : List Stmt :=
  [forwardStatement method l.resultText (forwarded method o l.identifier)]

/-- What the class consists of. -/
def pieces (l : CallableLayout) (method : MethodInfo) (o : CallableOptions) : List Piece :=
  [.assign namespaceName (.name namespaceName), .blank "",
    .method false "__init__" (Plan.receiver .positionalOrKeyword :: l.constructorParams) none
      l.constructorBody,
    .blank ""] ++ l.properties ++
  [.method method.isAsync o.methodName (Plan.receiver (receiverKind l.params) :: l.params) l.result
    (l.body method o)]

end CallableLayout

/-- A parameter of the constructor as it is written. -/
structure WritesConstructor (b : World) (cls : Option String) (q : ConstructorParameter) (r : Param) :
    Prop where
  name : r.name = q.name
  kind : r.kind = .positionalOrKeyword
  hint : ∀ e ∈ r.hint, SpelledIn b cls q.hint e
  default : r.default = none

/-- A property as it is written. -/
def WritesProperty (b : World) (cls : Option String) (q : RoutedProperty) (p : Piece) : Prop :=
  ∃ hint, p = .property q.name hint (Plan.selfField q.name) true ∧ SpelledIn b cls q.hint hint

/-- What is written for a callable. -/
structure WrittenFor (cw : CallableWrapper) (f : Value) (method : MethodInfo) (o : CallableOptions)
    (b w : World) (l : CallableLayout) : Prop where
  readable : Uuid.parse? l.identifier.render = some l.identifier
  cached : (w.cache cw.cache).entries.get? l.identifier = some f
  constructorParams : List.Forall₂ (WritesConstructor b (some o.typeName))
    (planOf cw method o).constructor.values l.constructorParams
  firsts : List.Forall₂ (GivesFirst cw.cache w) (planOf cw method o).properties.values l.firsts
  properties : List.Forall₂ (WritesProperty b (some o.typeName))
    (planOf cw method o).properties.values l.properties
  params : List.Forall₂ (Writes cw.cache b w (some o.typeName))
    (convertedMethod method o).methodParameters l.params
  result : ∀ e ∈ l.result, ∃ a ∈ method.returns, SpelledIn b (some o.typeName) (some a) e
  checked : ∀ q ∈ (convertedMethod method o).parameters, q.Checked

theorem WrittenFor.mono {l : CallableLayout} (h : WrittenFor cw f method o b w l)
    (hw : w.Grows w') : WrittenFor cw f method o b w' l :=
  ⟨h.readable, hw.entries _ _ _ h.cached, h.constructorParams,
    h.firsts.imp fun _ _ hq => hq.mono hw, h.properties, h.params.imp fun _ _ hq => hq.mono hw,
    h.result, h.checked⟩

/-- The imports of a class around a callable. -/
def importsOf (modules : List String) : List Syntax.ImportName :=
  modules.map (fun m => ⟨m, none⟩) ++ [⟨"typing", some typingAlias⟩]

/-- The module of a class around a callable. -/
def CallableLayout.tree (l : CallableLayout) (method : MethodInfo) (o : CallableOptions)
    (modules : List String) : List Stmt :=
  header ((importsOf modules).map fun i => .imports [i]) o.namespaceName ++
    [.class o.typeName [] [] [] ((l.pieces method o).flatMap Piece.statements)]

theorem CallableLayout.tree_eq (l : CallableLayout) (method : MethodInfo) (o : CallableOptions)
    (modules : List String) : l.tree method o modules =
      header (modules.map importOf ++ [importTyping]) o.namespaceName ++
        [.class o.typeName [] [] [] ([namespaceLine, .layout ""] ++
          constructorOf (Plan.receiver .positionalOrKeyword :: l.constructorParams)
            ((l.constructorParams.map fun r => keepArgument r.name) ++ l.firsts) ++
          l.properties.flatMap Piece.statements ++
          [.define method.isAsync o.methodName (Plan.receiver (receiverKind l.params) :: l.params)
            l.result [] (l.body method o)])] := by
  have himports : modules.map importOf ++ [importTyping] =
      (importsOf modules).map fun i => .imports [i] := by
    simp [importsOf, importOf, importTyping]
  rw [himports, CallableLayout.tree, CallableLayout.pieces, List.flatMap_append, List.flatMap_append]
  rfl

/-! ## Writing -/

theorem planOf_eq (cw : CallableWrapper) (method : MethodInfo) (o : CallableOptions) :
    (planOf cw method o).cache = some cw.cache ∧
      (planOf cw method o).selfTypeName = some o.typeName := (rules_foldl_adopt _ _).2

theorem constructorParams_eq {p : Plan} (hw : w.objects = b.objects) :
    ∃ rs, p.constructorParams w = Plan.receiver .positionalOrKeyword :: rs ∧
      List.Forall₂ (WritesConstructor b p.selfTypeName) p.constructor.values rs := by
  refine ⟨_, rfl, ?_⟩
  induction p.constructor.values with
  | nil => exact .nil
  | cons q qs ih =>
    exact .cons ⟨rfl, rfl, fun e he => ⟨w, hw, (Option.some.inj he).symm⟩, rfl⟩ ih

theorem map_keepArgument {cls : Option String} {qs : List ConstructorParameter} {rs : List Param}
    (h : List.Forall₂ (WritesConstructor b cls) qs rs) :
    (qs.map fun q => keepArgument q.name) = rs.map fun r => keepArgument r.name := by
  induction h with
  | nil => rfl
  | cons hq _ ih => rw [List.map_cons, List.map_cons, ih, hq.name]

theorem propertyDefinitions_eq {p : Plan} (hw : w.objects = b.objects) :
    ∃ ps, p.propertyDefinitions w = ps.flatMap Piece.statements ∧
      List.Forall₂ (WritesProperty b p.selfTypeName) p.properties.values ps := by
  unfold Plan.propertyDefinitions
  induction p.properties.values with
  | nil => exact ⟨[], rfl, .nil⟩
  | cons q qs ih =>
    obtain ⟨ps, hps, hall⟩ := ih
    refine ⟨.property q.name (p.spell w q.hint) (Plan.selfField q.name) true :: ps, ?_,
      .cons ⟨_, rfl, w, hw, rfl⟩ hall⟩
    rw [List.flatMap_cons, List.flatMap_cons, hps]
    rfl

theorem forwardCall_eq (p : Plan) (w : World) (m : ConvertedMethod) (call : Expr) :
    ∃ text, forwardCall p w m call =
      forwardStatement m.method text (if m.method.isAsync then .await call else call) := by
  unfold forwardCall forwardStatement
  cases m.method.returns with
  | none => exact ⟨"", rfl⟩
  | some a => exact ⟨(p.spell w (some a)).text .draft, rfl⟩

/-- **A program that is written has a layout.** -/
theorem program_eq_ok {p : Program} (hc : cw.cache < w.caches.size)
    (h : (cw.program f method o compiler).outcome w = (.ok p, w')) :
    ∃ l : CallableLayout, p = .ofTree .draft (l.tree method o (w.compiler compiler).moduleNames) ∧
      WrittenFor cw f method o w w' l ∧ w.Extends w' ∧ w'.objects = w.objects := by
  unfold CallableWrapper.program at h
  dsimp only at h
  obtain ⟨⟨converted, plan⟩, w₁, hplan, h₁⟩ := bind_eq_ok h
  obtain ⟨hgives, records, rfl⟩ := planning_eq_ok hplan
  obtain ⟨hconverted, hadopt, hchecked⟩ := convertMethod_gives hgives
  have hm : converted = convertedMethod method o := hconverted
  subst hm
  have hp : plan = planOf cw method o := hadopt
  subst hp
  obtain ⟨hcache, hself⟩ := planOf_eq cw method o
  -- The callable goes into the cache first.
  obtain ⟨u, w₂, hu, h₂⟩ := bind_eq_ok h₁
  have hadded := addValue_eq_ok (w := { w with records := records }) hc hu
  have hfilled := hadded.filled
  rw [outcome_get_bind] at h₂
  dsimp only at h₂
  obtain ⟨tree, w₃, htree, h₃⟩ := bind_eq_ok h₂
  rw [outcome_pure, Prod.mk.injEq, Except.ok.injEq] at h₃
  obtain ⟨rfl, rfl⟩ := h₃
  have hmodules : w₂.compiler compiler = w.compiler compiler := by
    unfold World.compiler
    rw [hfilled.compilers]
  rw [hmodules] at htree
  have hobjects : w₂.objects = w.objects := hfilled.objects
  -- Then the defaults of the properties and of the parameters do.
  unfold callableTree at htree
  rw [outcome_get_bind] at htree
  obtain ⟨body, w₄, hbody, h₄⟩ := bind_eq_ok htree
  obtain ⟨firsts, hbodyEq, hfirsts, hfilled₄⟩ := constructorBody_eq_ok hcache
    (hfilled.size.symm ▸ hc) hbody
  rw [outcome_get_bind] at h₄
  obtain ⟨params, w₅, hparams, h₅⟩ := bind_eq_ok h₄
  have hobjects₄ : w₄.objects = w.objects := hfilled₄.objects.trans hobjects
  obtain ⟨ps, hparamsEq, hps, hfilled₅⟩ := methodParams_eq_ok hcache hobjects₄
    ((hfilled₄.size.trans hfilled.size).symm ▸ hc) hparams
  rw [outcome_pure, Prod.mk.injEq, Except.ok.injEq] at h₅
  obtain ⟨rfl, rfl⟩ := h₅
  obtain ⟨rs, hrs, hctor⟩ := constructorParams_eq (p := planOf cw method o) hobjects
  obtain ⟨props, hpropsEq, hprops⟩ := propertyDefinitions_eq (p := planOf cw method o) hobjects₄
  obtain ⟨text, htext⟩ := forwardCall_eq (planOf cw method o) w₄ (convertedMethod method o)
    ((convertedMethod method o).callOf (cachedValue u))
  rw [hself] at hctor hprops hps
  have hext : w.Extends w₅ := by
    have h₀ : w.Extends { w with records := records } := .of_objects_eq rfl rfl rfl
    exact ((h₀.trans hfilled.extends_).trans hfilled₄.extends_).trans hfilled₅.extends_
  refine ⟨⟨u, rs, firsts, props, ps, resultOf (planOf cw method o) w₄ method.returns, text⟩, ?_,
    ⟨hadded.readable, hfilled₅.extends_.entries _ _ _ (hfilled₄.extends_.entries _ _ _ hadded.get?),
      hctor, hfirsts.imp fun _ _ hq => hq.mono hfilled₅.grows, hprops, hps, ?_, hchecked⟩,
    hext, hfilled₅.objects.trans hobjects₄⟩
  · rw [CallableLayout.tree_eq, htext, hpropsEq, hrs, hbodyEq, map_keepArgument hctor, hparamsEq]
    rfl
  · intro e he
    obtain ⟨a, ha, rfl⟩ := Option.map_eq_some_iff.mp he
    exact ⟨a, ha, w₄, hobjects₄, by rw [← hself]; rfl⟩

/-! ## Generating -/

/-- The class of properties is at hand. -/
def HasProperties (w : World) : Prop :=
  ∃ property i, (builtinsOf w).get? "property" = some (.cls property) ∧
    w.class? property.id = some i ∧ property.module = "builtins" ∧ property.qualname = "property"

/-- A callable that can be wrapped as it has been described: there is the cache, no module
takes the place of the cache, the annotations are calm, and all names in the program are names. -/
structure Wrappable (cw : CallableWrapper) (f : Value) (o : CallableOptions) (method : MethodInfo)
    (compiler : String) (w : World) : Prop where
  there : cw.cache < w.caches.size
  modules : ∀ n ∈ (w.compiler compiler).moduleNames, Imports.topPart n ≠ cacheGlobal
  hints : ∀ p ∈ method.params, CalmHint w (some o.typeName) p.hint
  result : ∀ a ∈ method.returns, CalmHint w (some o.typeName) (some a)
  legible : ∀ p w', (cw.program f method o compiler).outcome w = (.ok p, w') → p.known ≠ none
  properties : (planOf cw method o).properties.values ≠ [] → HasProperties w

theorem importsOf_undotted (modules : List String) : ∀ i ∈ importsOf modules,
    i.boundAs = none ∨ Syntax.dottedParts i.name = [i.name] := by
  intro i hi
  rcases List.mem_append.mp hi with hi | hi
  · obtain ⟨m, -, rfl⟩ := List.mem_map.mp hi
    exact .inl rfl
  · rw [List.mem_singleton.mp hi]
    exact .inr (by decide)

theorem cacheGlobal_not_imported {modules : List String}
    (h : ∀ n ∈ modules, Imports.topPart n ≠ cacheGlobal) :
    cacheGlobal ∉ (importsOf modules).map importedName := by
  intro hm
  obtain ⟨i, hi, he⟩ := List.mem_map.mp hm
  rcases List.mem_append.mp hi with hi | hi
  · obtain ⟨m, hm, rfl⟩ := List.mem_map.mp hi
    exact h m hm he
  · rw [List.mem_singleton.mp hi] at he
    exact absurd he (by decide)

theorem mangle_namespaceName (cls : Option String) : Syntax.mangle cls namespaceName = namespaceName :=
  Syntax.mangle_of_not_isPrivate cls (by decide)

theorem builtinsOf_eq (ho : w'.objects = w.objects) (hi : w'.importable = w.importable) :
    builtinsOf w' = builtinsOf w := by
  unfold builtinsOf World.module?
  rw [ho, hi]

theorem paramInOrder_receiver (c : Nat) (b : World) (m : Nat) (cls : String) (kind : ParamKind) :
    ParamInOrder c b m cls (Plan.receiver kind) := ⟨by simp [Plan.receiver], by simp [Plan.receiver]⟩

/-- **What is written for a callable is in order.** -/
theorem pieces_inOrder {l : CallableLayout} {m : Nat} {info : ModuleInfo} {imported : List String}
    {ns : String} (hw : Wrappable cw f o method compiler w) (hl : WrittenFor cw f method o w b l)
    (hb : w.Extends b) (hp : Prepared cw.cache ns imported b m v info) :
    ∀ p ∈ l.pieces method o, p.InOrder cw.cache v m o.typeName info := by
  have calm {a : Option Value} (ha : CalmHint w (some o.typeName) a) {e : Expr}
      (he : SpelledIn w (some o.typeName) a e) : CalmInBody v m o.typeName e := by
    obtain ⟨u, hu, rfl⟩ := he
    exact ha u hu _ _ _ _ _ _ _ _ hb hp
  have hint {q : ConvertedParameter} (hq : q ∈ method.params.map (convertedOf o.rules)) :
      CalmHint w (some o.typeName) q.parameter.hint := by
    obtain ⟨p, hp, rfl⟩ := List.mem_map.mp hq
    rw [parameter_convertedOf]
    exact hw.hints p hp
  intro p hpmem
  simp only [CallableLayout.pieces, List.cons_append, List.nil_append, List.mem_cons, List.mem_append,
    List.not_mem_nil, or_false] at hpmem
  rcases hpmem with rfl | rfl | rfl | rfl | hprop | rfl
  · exact .inr ⟨namespaceName, ns, rfl, by rw [mangle_namespaceName]; exact hp.header.namespace_⟩
  · trivial
  · refine ⟨List.forall_mem_cons.mpr ⟨paramInOrder_receiver _ _ _ _ _, fun r hr => ?_⟩, by simp⟩
    obtain ⟨q, hq, hwrites⟩ := exists_of_forall₂_right hl.constructorParams hr
    rcases mem_constructor_values _ hq with hq | ⟨d, hd, rfl⟩
    · simp [Table.values] at hq
    · exact ⟨fun e he => calm (hint hd) (hwrites.hint e he), by simp [hwrites.default]⟩
  · trivial
  · obtain ⟨q, hq, spelled, rfl, hspelled⟩ := exists_of_forall₂_right hl.properties hprop
    rcases mem_properties_values _ hq with hq | ⟨d, hd, -, rfl⟩
    · simp [Table.values] at hq
    · exact calm (hint hd) hspelled
  · refine ⟨List.forall_mem_cons.mpr ⟨paramInOrder_receiver _ _ _ _ _, fun r hr => ?_⟩, fun e he => ?_⟩
    · obtain ⟨q, hq, hwrites⟩ := exists_of_forall₂_right hl.params hr
      refine ⟨fun e he => calm (hint (List.mem_of_mem_filter hq)) (hwrites.hint e he), fun e he => ?_⟩
      have hdefault := hwrites.default
      rw [Option.mem_def.mp he] at hdefault
      generalize (if q.parameter.kind.isVariadic then none else q.parameter.default) = d at hdefault
      cases hdefault with
      | some hstored => exact ⟨_, hstored.mono hp.extends_.grows⟩
    · obtain ⟨a, ha, hspelled⟩ := hl.result e he
      exact calm (hw.result a ha) hspelled

theorem bound?_properties {cls : String} {ps : List Piece}
    (h : List.Forall₂ (WritesProperty b (some cls)) (planOf cw method o).properties.values ps) :
    ∀ p ∈ ps, p.isProperty = true := by
  intro p hp
  obtain ⟨q, -, hint, rfl, -⟩ := exists_of_forall₂_right h hp
  rfl

/-- The properties of a class around a callable can be decorated. -/
theorem pieces_decorates {l : CallableLayout} {m : Nat} {info : ModuleInfo}
    (hw : Wrappable cw f o method compiler w) (hl : WrittenFor cw f method o w b l)
    (hb : w.Extends b) (ho : b.objects = w.objects) (hinfo : info.builtins = some (builtinsOf b)) :
    Decorates b o.typeName info (classFrame m o.typeName) (l.pieces method o) := by
  have hproperty := bound?_properties hl.properties
  refine ⟨fun ⟨p, hp, hprop⟩ => ?_, fun _ f hf => by simp [classFrame] at hf, ?_⟩
  · have hne : (planOf cw method o).properties.values ≠ [] := by
      intro hnil
      have : l.properties = [] := List.forall₂_nil_left_iff.mp (hnil ▸ hl.properties)
      simp only [CallableLayout.pieces, this, List.cons_append, List.nil_append, List.mem_cons,
        List.not_mem_nil, or_false] at hp
      rcases hp with rfl | rfl | rfl | rfl | rfl <;> cases hprop
    obtain ⟨property, i, hget, hi, hmodule, hqualname⟩ := hw.properties hne
    exact ⟨property, ⟨_, hinfo, by rw [builtinsOf_eq ho hb.importable]; exact hget⟩,
      ⟨i, hb.class? hi⟩, hmodule, hqualname⟩
  · have hinit : Syntax.mangle (some o.typeName) "__init__" = "__init__" :=
      Syntax.mangle_of_not_isPrivate _ (by decide)
    rw [CallableLayout.pieces]
    refine not_hidden_of_parts (fun p hp => ?_) hproperty fun p hp => ?_
    · simp only [List.mem_cons, List.not_mem_nil, or_false] at hp
      rcases hp with rfl | rfl | rfl | rfl <;>
        simp only [Piece.bound?, hinit, mangle_namespaceName] <;> decide
    · rw [List.mem_singleton.mp hp]
      rfl

/-- **A class that is created for a callable has been generated** from a layout, which is sound. -/
theorem createType_generated {k : Named} (hw : Wrappable cw f o method compiler w₁)
    (hprepare : (cw.prepare f o).outcome w = (.ok (method, compiler), w₁))
    (h : (cw.createType f o).outcome w = (.ok k, w')) :
    ∃ (l : CallableLayout) (g : GeneratedModule) (b : World), w₁.Extends b ∧
      b.objects = w₁.objects ∧ WrittenFor cw f method o w₁ b l ∧
      Stmt.areSound {} (l.tree method o (w₁.compiler compiler).moduleNames) = true ∧
      Generated cw.cache b o.typeName o.namespaceName
        ((importsOf (w₁.compiler compiler).moduleNames).map importedName) [] (l.pieces method o)
        g k w' := by
  obtain ⟨g, w₂, hfinish, hsingle⟩ := createType_eq_ok hprepare h
  unfold CallableWrapper.finish at hfinish
  obtain ⟨p, w₃, hprogram, hrest⟩ := bind_eq_ok hfinish
  obtain ⟨l, hp, hl, hext, ho⟩ := program_eq_ok hw.there hprogram
  obtain ⟨⟨⟩, b, hlog, hcompile⟩ := bind_eq_ok hrest
  rw [outcome_log, Prod.mk.injEq] at hlog
  have hb : w₃.SameStore b := by rw [← hlog.2]; exact ⟨rfl, rfl, rfl⟩
  have hext' := hext.trans hb.extends_
  have ho' := hb.objects.trans ho
  have hl' := hl.mono hb.extends_.grows
  have hknown : p.known = some (l.tree method o (w₁.compiler compiler).moduleNames) := by
    have hne := hw.legible p w₃ hprogram
    rw [hp, Program.ofTree] at hne ⊢
    dsimp only at hne ⊢
    split
    · rfl
    · rename_i hc
      rw [if_neg hc] at hne
      exact absurd rfl hne
  obtain ⟨hsound, k', hgenerated⟩ := compile_generated hknown (importsOf_undotted _)
    (cacheGlobal_not_imported hw.modules) (fun m v _ _ => headInOrder_nil m v)
    (fun m v info hp => pieces_inOrder hw hl' hext' hp)
    (fun m info hinfo => pieces_decorates hw hl' hext' ho' hinfo) hcompile
  obtain ⟨rfl, rfl⟩ := hgenerated.singleType_eq_ok hsingle
  exact ⟨l, g, b, hext', ho', hl', hsound, hgenerated⟩

end Facade.Wrapper
