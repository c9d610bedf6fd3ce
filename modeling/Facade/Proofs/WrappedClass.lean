import Facade.Proofs.CallableClass
import Facade.Proofs.SourceTexts
import Facade.Proofs.TypeClass

/-!
# Classes around classes, as they are generated

* `Selection`, `TypeWrapper.prepare`: what is decided before the program is written.
* `TypeLayout.pieces`: what the class consists of.
* `settle_eq_ok`: the text of a program changes what it says only where it is put itself.
* `WrappableClass`: a class that can be wrapped as it has been described.
* `typeClass_generated`: a class that is created around it has been generated from a layout.
-/

namespace Facade

open Syntax (Expr Stmt Param Layout)

namespace Wrapper

open Run Execution Conversion
open Facade.Describe (MethodInfo PropertyInfo)

/-! ## What happens first -/

/-- What is decided before the program of a class around a class is written. -/
structure Selection where
  /-- The class that is wrapped. -/
  cls : Named
  /-- The methods that are passed on. -/
  methods : List MethodInfo
  /-- The properties that are passed on. -/
  properties : List PropertyInfo
  /-- The compiler. -/
  compiler : String

/-- Selects members, chooses a compiler and references what the annotations need. -/
def TypeWrapper.prepare (tw : TypeWrapper) (v : Value) (o : TypeOptions) : Run Selection := do
  let c ← classToWrap v
  let methods ← selectMethods c o
  let properties ← selectProperties c o
  record "DEBUG" "selected members" c o
    [("methods", toString methods.length), ("properties", toString properties.length)]
  let compiler ← compilerFor o.compiler tw.compilerOf
  addReferences compiler c o methods properties
  return ⟨c, methods, properties, compiler⟩

/-- What happens after that. -/
def TypeWrapper.finish (tw : TypeWrapper) (o : TypeOptions) (s : Selection) : Run GeneratedModule := do
  let program ← tw.program s.cls o s.compiler s.methods s.properties
  let g ← Compiler.compile s.compiler program (seeds tw.cache)
  record "INFO" "generated wrapper" s.cls o
    [("module", g.name), ("methods", toString s.methods.length)]
  return g

variable {tw : TypeWrapper} {o : TypeOptions} {s : Selection} {k : Named} {w w₁ w' b v : World}
  {c : Nat} {x : Value}

theorem typeWrapper_generate_eq (tw : TypeWrapper) (x : Value) (o : TypeOptions) :
    tw.generate x o = tw.prepare x o >>= tw.finish o := by
  unfold TypeWrapper.generate TypeWrapper.prepare TypeWrapper.finish
  simp only [bind_assoc, pure_bind]

theorem typeWrapper_createType_eq (tw : TypeWrapper) (x : Value) (o : TypeOptions) :
    tw.createType x o = tw.prepare x o >>= fun s => tw.finish o s >>= GeneratedModule.singleType := by
  unfold TypeWrapper.createType
  rw [typeWrapper_generate_eq, bind_assoc]

theorem typeWrapper_createType_eq_ok (hprepare : (tw.prepare x o).outcome w = (.ok s, w₁))
    (h : (tw.createType x o).outcome w = (.ok k, w')) :
    ∃ g w₂, (tw.finish o s).outcome w₁ = (.ok g, w₂) ∧ g.singleType.outcome w₂ = (.ok k, w') := by
  rw [typeWrapper_createType_eq, outcome_bind_of_ok hprepare] at h
  exact bind_eq_ok h

/-! ## What the class consists of -/

namespace MethodLayout

/-- The call of a hook inside a method. -/
def hookCall (l : MethodLayout) (h : Option Expr) : List Stmt :=
  (h.map fun e => effect e (wrapped :: l.info.toList)).toList

/-- The call that is passed on. -/
def forwarded (l : MethodLayout) : Expr :=
  let call := l.method.callOf (.attribute wrapped l.method.method.name)
  if l.method.method.isAsync then .await call else call

/-- The body of a method. -/
def body (l : MethodLayout) (hooks : HookExprs) : List Stmt :=
  l.hookCall hooks.before ++ [.assign [.name resultName] l.forwarded] ++ l.hookCall hooks.after ++
    if l.method.method.returnsValue then [.returns (some (.name resultName))] else []

/-- The method. -/
def piece (l : MethodLayout) (o : TypeOptions) (hooks : HookExprs) : Piece :=
  .method l.method.method.isAsync (o.methodNameOf l.method.method) l.params l.result (l.body hooks)

end MethodLayout

/-- The properties of a class around a class. -/
def propertyPieces (p : Plan) (w : World) (properties : List PropertyInfo) : List Piece :=
  (p.properties.values.map fun q =>
      .property q.name (p.spell w q.hint) (Plan.selfField q.name) true) ++
    properties.map fun q =>
      .property q.name (p.spell w q.hint) (.attribute wrapped q.name) q.writable

theorem statements_propertyPieces (p : Plan) (w : World) (properties : List PropertyInfo) :
    (propertyPieces p w properties).flatMap Piece.statements =
      p.propertyDefinitions w ++ properties.flatMap (typeProperty p w) := by
  rw [propertyPieces, List.flatMap_append, List.flatMap_map, List.flatMap_map]
  rfl

theorem isProperty_propertyPieces {p : Plan} {properties : List PropertyInfo} :
    ∀ q ∈ propertyPieces p w properties, q.isProperty = true := by
  intro q hq
  rcases List.mem_append.mp hq with hq | hq <;> obtain ⟨_, -, rfl⟩ := List.mem_map.mp hq <;> rfl

namespace TypeLayout

/-- The body of the constructor. -/
def constructorBody (l : TypeLayout) : List Stmt :=
  .assign [wrapped] (.call l.provider [] []) :: l.fields ++
    (l.hooks.construct.map fun h => effect h [wrapped]).toList

/-- What the class consists of: its properties, and the text that it holds, are given. -/
def pieces (l : TypeLayout) (o : TypeOptions) (k : Named) (properties : List Piece)
    (text : Option String) : List Piece :=
  [.assign namespaceName (.name namespaceName), .declare instanceName (pathExpr (.cls k)), .blank "",
    .method false "__init__" l.constructorParams none l.constructorBody, .blank ""] ++ properties ++
  l.methods.flatMap (fun m => [m.piece o l.hooks, .blank ""]) ++
  (text.map fun t => .assign Source.sourceAttribute (Expr.str t)).toList

end TypeLayout

/-- A class with nothing foreign in it: no fragments, no bases, no decorators. -/
structure TypeOptions.IsPlain (o : TypeOptions) : Prop where
  fragments : o.fragments = {}
  bases : o.bases = []
  decorators : o.decorators = []

/-- The imports of a class around a class. -/
def TypeOptions.imports (o : TypeOptions) (modules : List String) : List Syntax.ImportName :=
  (modules ++ o.namespaces).eraseDups.map fun m => ⟨m, none⟩

/-- The module of a class. -/
def moduleOf (o : TypeOptions) (k : Named) (modules : List String) (body : List Stmt) : List Stmt :=
  header ((o.imports modules).map fun i => .imports [i]) (o.namespaceFor k) ++
    [.class (o.nameFor k) [] [] [] body]

theorem tree_eq (ho : o.IsPlain) {l : TypeLayout} (hl : l.decorators = []) {ps : List Piece}
    (hps : l.properties = ps.flatMap Piece.statements) (k : Named) (modules : List String) :
    l.tree o k modules = moduleOf o k modules ((l.pieces o k ps none).flatMap Piece.statements ++
      if o.includeSource then [placeholderStmt] else []) := by
  have himports : (modules ++ o.namespaces).eraseDups.map importOf =
      (o.imports modules).map fun i => .imports [i] := by
    rw [TypeOptions.imports, List.map_map]
    rfl
  have hmethod (m : MethodLayout) :
      m.statements o l.hooks = [m.piece o l.hooks, .blank ""].flatMap Piece.statements := by
    simp only [MethodLayout.statements, ho.fragments, Option.map_none, Option.toList_none,
      List.append_nil]
    rfl
  have hmethods : l.methods.flatMap (fun m => m.statements o l.hooks) =
      (l.methods.flatMap fun m => [m.piece o l.hooks, .blank ""]).flatMap Piece.statements := by
    rw [List.flatMap_assoc]
    exact congrArg l.methods.flatMap (funext hmethod)
  have hconstructor : l.constructor o k =
      [.define false "__init__" l.constructorParams none [] l.constructorBody, .layout ""] := by
    simp only [TypeLayout.constructor, ho.bases, ho.fragments, List.isEmpty_nil, if_true,
      Option.map_none, Option.toList_none, List.append_nil, List.nil_append]
    rfl
  rw [TypeLayout.tree, moduleOf, himports, hmethods, hconstructor, hps, hl, ho.bases, ho.fragments,
    TypeLayout.pieces]
  simp only [List.flatMap_append, List.append_assoc, Option.map_none, Option.toList_none,
    List.flatMap_nil, List.nil_append, List.map_nil]
  rfl

/-! ## The text that a class holds -/

theorem known_prettify {p q : Program} (h : p.prettify = .ok q) : q.known = p.known := by
  unfold Program.prettify at h
  split at h
  · rw [← Except.ok.inj h]
  · cases hsource : Source.prettify p.text with
    | error e => rw [hsource] at h; cases h
    | ok text =>
      rw [hsource] at h
      rw [← Except.ok.inj h]

theorem settle_eq (o : TypeOptions) (p : Program) : TypeWrapper.settle o p =
    (if o.prettifySource then p.prettify else .ok p).map fun r =>
      if o.includeSource then r.embed else r := by
  unfold TypeWrapper.settle
  cases o.includeSource <;> cases o.prettifySource <;> cases p.prettify <;> rfl

/-- A canonical program is the text of a tree: that of the draft, if this can be run. -/
theorem text_prettify {p q : Program} {body : List Stmt} (h : p.prettify = .ok q)
    (hp : p.known = some body) (hsound : Stmt.areSound {} body = true) :
    q.text = Syntax.render .canonical body := by
  have hfilter : p.known.filter (Stmt.areSound {}) = some body := by
    rw [hp, Option.filter_some, if_pos hsound]
  unfold Program.prettify at h
  rw [hfilter] at h
  rw [← Except.ok.inj h]

/-- A program that is settled says what its draft says, but for the text that is put into it. -/
theorem known_settle {p q : Program} {layout : Layout} {tree : List Stmt}
    (h : TypeWrapper.settle o p = .ok q) (hp : p = .ofTree layout tree) (hq : q.known ≠ none) :
    ∃ r : Program, r.known = some tree ∧
      (Stmt.areSound {} tree = true → ∃ layout, r.text = Syntax.render layout tree) ∧
      q = if o.includeSource then r.embed else r := by
  have hdraft : ∃ r : Program, r.known = p.known ∧ (r = p ∨ p.prettify = .ok r) ∧
      (if o.includeSource then r.embed else r) = q := by
    rw [settle_eq] at h
    cases hpretty : o.prettifySource with
    | false => rw [hpretty] at h; exact ⟨p, rfl, .inl rfl, Except.ok.inj h⟩
    | true =>
      rw [hpretty, if_pos rfl] at h
      cases hr : p.prettify with
      | error e => rw [hr] at h; cases h
      | ok r => rw [hr] at h; exact ⟨r, known_prettify hr, .inr rfl, Except.ok.inj h⟩
  obtain ⟨r, hr, hfrom, rfl⟩ := hdraft
  have hne : r.known ≠ none := by
    intro hnone
    cases hi : o.includeSource with
    | false => rw [hi] at hq; exact hq hnone
    | true =>
      rw [hi, if_pos rfl, Program.embed, hnone] at hq
      simp at hq
  have htree : p.known = some tree := by
    rw [hr, hp, Program.ofTree] at hne
    rw [hp, Program.ofTree]
    dsimp only at hne ⊢
    split
    · rfl
    · rename_i hlegible
      exact absurd (if_neg hlegible) hne
  refine ⟨r, hr.trans htree, fun hsound => ?_, rfl⟩
  rcases hfrom with rfl | hpretty
  · exact ⟨layout, by rw [hp]; rfl⟩
  · exact ⟨.canonical, text_prettify hpretty htree hsound⟩

theorem fill_moduleOf (text : String) (o : TypeOptions) (k : Named) (modules : List String)
    (body : List Stmt) : Program.fill text (moduleOf o k modules body) =
      moduleOf o k modules (body.map (Program.fillLine text)) := by
  rw [Program.fill, moduleOf, header, List.map_append, List.map_append, List.map_map]
  rfl

/-- A text is put into a piece only if the piece is a text itself. -/
theorem map_fillLine_statements (text : String) {p : Piece}
    (hp : ∀ n s, p ≠ .assign n (Expr.str s)) :
    p.statements.map (Program.fillLine text) = p.statements := by
  cases p with
  | assign name value =>
    show [Program.fillLine text (.assign [.name name] value)] = [.assign [.name name] value]
    unfold Program.fillLine
    split
    · rename_i n m heq
      injection heq with _ hvalue
      exact absurd (congrArg (Piece.assign name) hvalue) (hp name m)
    · rfl
  | property name hint place writable => cases writable <;> rfl
  | _ => rfl

theorem pieces_some (l : TypeLayout) (o : TypeOptions) (k : Named) (ps : List Piece) (t : String) :
    (l.pieces o k ps (some t)).flatMap Piece.statements =
      (l.pieces o k ps none).flatMap Piece.statements ++
        [.assign [.name Source.sourceAttribute] (Expr.str t)] := by
  simp [TypeLayout.pieces, List.flatMap_append, Piece.statements]

theorem areSound_map {p : Syntax.Place} {f : Stmt → Stmt} (h : ∀ s, (f s).isSound p = s.isSound p)
    (ss : List Stmt) : Stmt.areSound p (ss.map f) = Stmt.areSound p ss := by
  induction ss with
  | nil => rfl
  | cons s ss ih => rw [List.map_cons, Stmt.areSound, Stmt.areSound, h, ih]

/-- Whether a module can be run does not depend on the text that it holds. -/
theorem areSound_fill (text : String) (body : List Stmt) :
    Stmt.areSound {} (Program.fill text body) = Stmt.areSound {} body := by
  have hline (p : Syntax.Place) (s : Stmt) : (Program.fillLine text s).isSound p = s.isSound p := by
    unfold Program.fillLine
    split <;> rfl
  refine areSound_map (fun s => ?_) body
  split
  · simp only [Stmt.isSound, areSound_map (hline _)]
  · rfl

/-- **The text of a class is put into the class alone,** where it is to hold it. The last line of the
module assigns it, and it is all the text above that line. -/
theorem settle_eq_ok (ho : o.IsPlain) {l : TypeLayout} (hl : l.decorators = []) {ps : List Piece}
    (hps : l.properties = ps.flatMap Piece.statements) (hprop : ∀ p ∈ ps, p.isProperty = true)
    {modules : List String} {q : Program}
    (h : TypeWrapper.settle o (.ofTree .draft (l.tree o k modules)) = .ok q) (hq : q.known ≠ none) :
    ∃ text : Option String, text.isSome = o.includeSource ∧ q.known =
        some (moduleOf o k modules ((l.pieces o k ps text).flatMap Piece.statements)) ∧
      (Stmt.areSound {} (moduleOf o k modules ((l.pieces o k ps text).flatMap Piece.statements)) =
        true → ∀ t ∈ text, Source.HoldsItself q.text t) := by
  obtain ⟨r, hknown, htext, rfl⟩ := known_settle h rfl hq
  rw [tree_eq ho hl hps] at hknown htext
  cases hi : o.includeSource with
  | false =>
    rw [hi] at hknown
    exact ⟨none, rfl, by simpa using hknown, nofun⟩
  | true =>
    rw [hi, if_pos rfl] at hknown htext hq
    rw [if_pos rfl]
    -- The placeholder occurs once, and the text goes there.
    have hone : Source.occurrences (Source.placeholder Source.sourceAttribute).toList
        r.text.toList ≤ 1 := by
      by_contra hmany
      exact hq (if_neg hmany)
    have hembed : r.embed.known = some (Program.fill
        (Source.withoutPlaceholder r.text Source.sourceAttribute) (moduleOf o k modules
          ((l.pieces o k ps none).flatMap Piece.statements ++ [placeholderStmt]))) := by
      rw [Program.embed, hknown]
      exact if_pos hone
    generalize htaken : Source.withoutPlaceholder r.text Source.sourceAttribute = text at hembed
    have hkept : ((l.pieces o k ps none).flatMap Piece.statements).map (Program.fillLine text) =
        (l.pieces o k ps none).flatMap Piece.statements := by
      rw [List.map_flatMap]
      refine List.flatMap_congr fun p hp => map_fillLine_statements text fun n s => ?_
      simp only [TypeLayout.pieces, Option.map_none, Option.toList_none, List.append_nil,
        List.cons_append, List.nil_append, List.mem_cons, List.mem_append, List.mem_flatMap,
        List.not_mem_nil, or_false] at hp
      rcases hp with rfl | rfl | rfl | rfl | rfl | hp | ⟨m, -, rfl | rfl⟩
      · simp [Expr.str]
      · simp
      · simp
      · simp
      · simp
      · rintro rfl
        cases hprop _ hp
      · simp [MethodLayout.piece]
      · simp
    have hfill : Program.fill text (moduleOf o k modules
        ((l.pieces o k ps none).flatMap Piece.statements ++ [placeholderStmt])) =
        moduleOf o k modules ((l.pieces o k ps (some text)).flatMap Piece.statements) := by
      rw [fill_moduleOf, List.map_append, hkept, pieces_some]
      simp [placeholderStmt, Program.fillLine, Expr.str]
    refine ⟨some text, rfl, hembed.trans (by rw [hfill]), fun hsound t ht => ?_⟩
    obtain rfl := Option.some.inj ht
    rw [← hfill, areSound_fill] at hsound
    obtain ⟨layout, hrender⟩ := htext hsound
    obtain ⟨above, habove⟩ := exists_render layout (header ((o.imports modules).map fun i =>
      .imports [i]) (o.namespaceFor k)) ((l.pieces o k ps none).flatMap Piece.statements) (o.nameFor k) [] [] []
    have hlines : r.text = Source.linesText (above ++ [Source.placeLine]) := hrender.trans habove
    rw [hlines] at hone htaken
    obtain ⟨hwithout, hholds⟩ := Source.holdsItself_embed hone
    rw [Program.embed, hlines, ← htaken, hwithout]
    exact hholds

/-! ## Annotations -/

/-- The annotations that a class around a class repeats. One that is missing is spelled, too. -/
def repeatedHints (o : TypeOptions) (s : Selection) : List (Option Value) :=
  s.methods.flatMap (fun m =>
      m.params.map Describe.ParameterInfo.hint ++ (m.returns.map some).toList) ++
    s.properties.map PropertyInfo.hint ++ o.constructorParameters.map fun q => some q.2

theorem hint_of_mem_parameters {m : ConvertedMethod} (hm : m ∈ convertedMethods o.rules s.methods)
    {q : ConvertedParameter} (hq : q ∈ m.parameters) : q.parameter.hint ∈ repeatedHints o s := by
  obtain ⟨i, hi, rfl⟩ := List.mem_map.mp hm
  obtain ⟨r, hr, rfl⟩ := List.mem_map.mp hq
  rw [parameter_convertedOf]
  refine List.mem_append_left _ (List.mem_append_left _ (List.mem_flatMap.mpr ⟨i, hi, ?_⟩))
  exact List.mem_append_left _ (List.mem_map_of_mem hr)

theorem hint_of_mem_returns {m : ConvertedMethod} (hm : m ∈ convertedMethods o.rules s.methods)
    {a : Value} (ha : a ∈ m.method.returns) : some a ∈ repeatedHints o s := by
  obtain ⟨i, hi, rfl⟩ := List.mem_map.mp hm
  refine List.mem_append_left _ (List.mem_append_left _ (List.mem_flatMap.mpr ⟨i, hi, ?_⟩))
  exact List.mem_append_right _ (by rw [Option.mem_def.mp ha]; simp)

theorem foldl_adoptMethod (ms : List ConvertedMethod) (p : Plan) :
    ms.foldl adoptMethod p = (ms.flatMap ConvertedMethod.parameters).foldl Plan.adopt p :=
  List.foldl_flatMap.symm

/-- Further parameters change nothing but the constructor, which gets no others. -/
theorem foldl_adoptParameter (qs : List (String × Value)) : ∀ p : Plan,
    ∃ t, qs.foldl adoptParameter p = { p with constructor := t } ∧
      ∀ q ∈ t.values, q ∈ p.constructor.values ∨ ∃ r ∈ qs, q.hint = some r.2 := by
  induction qs with
  | nil => exact fun p => ⟨_, rfl, fun q hq => .inl hq⟩
  | cons r qs ih =>
    intro p
    obtain ⟨t, ht, hall⟩ := ih (adoptParameter p r)
    refine ⟨t, ht, fun q hq => ?_⟩
    rcases hall q hq with hq | ⟨x, hx, he⟩
    · rcases mem_values_setDefault hq with hq | rfl
      · exact .inl hq
      · exact .inr ⟨r, List.mem_cons_self, rfl⟩
    · exact .inr ⟨x, List.mem_cons_of_mem r hx, he⟩

/-- The annotations in the tables of the plan for a class are among those that it repeats. -/
theorem planAround_spec (tw : TypeWrapper) (o : TypeOptions) (s : Selection) :
    (planAround tw o s.cls s.methods).selfTypeName = some (o.nameFor s.cls) ∧
      (∀ q ∈ (planAround tw o s.cls s.methods).constructor.values, q.hint ∈ repeatedHints o s) ∧
      ∀ q ∈ (planAround tw o s.cls s.methods).properties.values, q.hint ∈ repeatedHints o s := by
  have hconverted {q : ConvertedParameter}
      (hq : q ∈ (convertedMethods o.rules s.methods).flatMap ConvertedMethod.parameters) :
      q.parameter.hint ∈ repeatedHints o s := by
    obtain ⟨m, hm, hq⟩ := List.mem_flatMap.mp hq
    exact hint_of_mem_parameters hm hq
  rw [planAround, foldl_adoptMethod]
  obtain ⟨t, ht, hall⟩ := foldl_adoptParameter o.constructorParameters
    (((convertedMethods o.rules s.methods).flatMap ConvertedMethod.parameters).foldl Plan.adopt
      { rules := o.rules, cache := some tw.cache, selfTypeName := some (o.nameFor s.cls) })
  rw [ht]
  refine ⟨(rules_foldl_adopt _ _).2.2, fun q hq => ?_, fun q hq => ?_⟩
  · rcases hall q hq with hq | ⟨r, hr, he⟩
    · rcases mem_constructor_values _ hq with hq | ⟨c, hc, rfl⟩
      · simp [Table.values] at hq
      · exact hconverted hc
    · exact he ▸ List.mem_append_right _ (List.mem_map_of_mem hr)
  · rcases mem_properties_values _ hq with hq | ⟨c, hc, -, rfl⟩
    · simp [Table.values] at hq
    · exact hconverted hc

/-! ## Generating -/

/-- A class that can be wrapped as it has been described: there is the cache, no module takes the place
of the cache, the annotations are calm, and all names in the program are names. -/
structure WrappableClass (tw : TypeWrapper) (o : TypeOptions) (s : Selection) (w : World) : Prop where
  plain : o.IsPlain
  there : tw.cache < w.caches.size
  modules : ∀ n ∈ (w.compiler s.compiler).moduleNames ++ o.namespaces, Imports.topPart n ≠ cacheGlobal
  path : Calm w (pathExpr (.cls s.cls))
  hints : ∀ a ∈ repeatedHints o s, ∀ v : World,
    Calm w (Hint.spell v (some (o.nameFor s.cls)) (a.getD Standard.empty))
  legible : ∀ q w', (tw.program s.cls o s.compiler s.methods s.properties).outcome w = (.ok q, w') →
    q.known ≠ none
  properties : HasProperties w ∨
    (planAround tw o s.cls s.methods).properties.values = [] ∧ s.properties = []

theorem HasProperties.mono (h : HasProperties w) (hw : w.Extends w') : HasProperties w' := by
  obtain ⟨property, i, hget, hi, hmodule, hqualname⟩ := h
  refine ⟨property, i, ?_, hw.class? hi, hmodule, hqualname⟩
  unfold builtinsOf at hget ⊢
  rw [hw.importable]
  cases hj : w.importable.get? "builtins" with
  | none => rw [hj] at hget; simp at hget
  | some j =>
    rw [hj] at hget
    cases hm : w.module? j with
    | none => simp [hm] at hget
    | some info => simpa [hm, hw.module? hm] using hget

theorem paramInOrder_of_writes {cls : String} {q : ConvertedParameter} {r : Param} {m : Nat}
    (h : Writes c b w (some cls) q r) (hw : w.Grows v)
    (hhint : ∀ u : World,
      CalmInBody v m cls (Hint.spell u (some cls) (q.parameter.hint.getD Standard.empty))) :
    ParamInOrder c v m cls r := by
  refine ⟨fun e he => ?_, fun e he => ?_⟩
  · obtain ⟨u, -, rfl⟩ := h.hint e he
    exact hhint u
  · have hdefault := h.default
    rw [Option.mem_def.mp he] at hdefault
    generalize (if q.parameter.kind.isVariadic then none else q.parameter.default) = d at hdefault
    cases hdefault with
    | some hstored => exact ⟨_, hstored.mono hw⟩

variable {l : TypeLayout} {ps : List Piece} {text : Option String} {m : Nat} {info : ModuleInfo}

/-- **What is written for a class is in order.** -/
theorem typePieces_inOrder {imported : List String} {ns : String} (hs : WrappableClass tw o s w)
    (hl : WrittenAround tw.cache o s.cls (planAround tw o s.cls s.methods)
      (convertedMethods o.rules s.methods) s.properties b l)
    (hps : ∃ u, ps = propertyPieces (planAround tw o s.cls s.methods) u s.properties)
    (hb : w.Extends b) (hp : Prepared tw.cache ns imported b m v info) :
    ∀ p ∈ l.pieces o s.cls ps text, p.InOrder tw.cache v m (o.nameFor s.cls) info := by
  obtain ⟨hself, hconstructor, hproperties⟩ := planAround_spec tw o s
  have calm {a : Option Value} (ha : a ∈ repeatedHints o s) (u : World) :
      CalmInBody v m (o.nameFor s.cls)
        (Hint.spell u (some (o.nameFor s.cls)) (a.getD Standard.empty)) :=
    hs.hints a ha u _ _ _ _ _ _ _ _ hb hp
  have hplan {a : Option Value} (ha : a ∈ repeatedHints o s) (u : World) :
      CalmInBody v m (o.nameFor s.cls) ((planAround tw o s.cls s.methods).spell u a) := by
    rw [Plan.spell, hself]
    exact calm ha u
  intro p hpmem
  simp only [TypeLayout.pieces, List.cons_append, List.nil_append, List.mem_cons, List.mem_append,
    List.mem_flatMap, List.not_mem_nil, or_false, Option.mem_toList, Option.map_eq_some_iff] at hpmem
  rcases hpmem with rfl | rfl | rfl | rfl | rfl | (hprop | ⟨y, hy, rfl | rfl⟩) | ⟨t, -, rfl⟩
  · exact .inr ⟨namespaceName, ns, rfl, by rw [mangle_namespaceName]; exact hp.header.namespace_⟩
  · exact hs.path _ _ _ _ _ _ _ _ hb hp
  · trivial
  · obtain ⟨u, hu⟩ := hl.constructorParams
    refine ⟨fun r hr => ?_, by simp⟩
    rw [hu, Plan.constructorParams, List.mem_cons, List.mem_map] at hr
    rcases hr with rfl | ⟨q, hq, rfl⟩
    · exact paramInOrder_receiver _ _ _ _ _
    · refine ⟨fun e he => ?_, by simp⟩
      obtain rfl := Option.some.inj he
      exact hplan (hconstructor q hq) u
  · trivial
  · obtain ⟨u, rfl⟩ := hps
    rcases List.mem_append.mp hprop with hprop | hprop <;> obtain ⟨q, hq, rfl⟩ := List.mem_map.mp hprop
    · exact hplan (hproperties q hq) u
    · exact hplan (List.mem_append_left _ (List.mem_append_right _ (List.mem_map_of_mem hq))) u
  · obtain ⟨q, hq, hwrites⟩ := exists_of_forall₂_right hl.methods hy
    obtain ⟨u, rs, hrs, hall⟩ := hwrites.params
    refine ⟨fun r hr => ?_, fun e he => ?_⟩
    · rw [hrs, List.mem_cons] at hr
      rcases hr with rfl | hr
      · exact paramInOrder_receiver _ _ _ _ _
      · obtain ⟨x, hx, hwr⟩ := exists_of_forall₂_right hall hr
        rw [hself] at hwr
        exact paramInOrder_of_writes hwr hp.extends_.grows
          (calm (hint_of_mem_parameters hq (List.mem_of_mem_filter hx)))
    · obtain ⟨u, hresult⟩ := hwrites.result
      rw [hresult] at he
      obtain ⟨a, ha, rfl⟩ := Option.map_eq_some_iff.mp he
      exact hplan (hint_of_mem_returns hq ha) u
  · trivial
  · exact .inl ⟨t, rfl⟩

/-- The properties of a class around a class can be decorated. -/
theorem typePieces_decorates (hs : WrappableClass tw o s w) (hb : w.Extends b)
    (hps : ∃ u, ps = propertyPieces (planAround tw o s.cls s.methods) u s.properties)
    (hinfo : info.builtins = some (builtinsOf b)) :
    Decorates b (o.nameFor s.cls) info (classFrame m (o.nameFor s.cls)) (l.pieces o s.cls ps text) := by
  obtain ⟨u, rfl⟩ := hps
  -- Only the properties themselves stand before a property, the namespace and the constructor apart.
  have hfirst : ∀ p ∈ [Piece.assign namespaceName (.name namespaceName),
      .declare instanceName (pathExpr (.cls s.cls)), .blank "",
      .method false "__init__" l.constructorParams none l.constructorBody, .blank ""],
      p.bound? (o.nameFor s.cls) ≠ some "property" := by
    have hinit : Syntax.mangle (some (o.nameFor s.cls)) "__init__" = "__init__" :=
      Syntax.mangle_of_not_isPrivate _ (by decide)
    simp only [List.mem_cons, List.not_mem_nil, or_false, forall_eq_or_imp, forall_eq, Piece.bound?,
      hinit, mangle_namespaceName]
    decide
  have hlast : ∀ p ∈ l.methods.flatMap (fun m => [m.piece o l.hooks, .blank ""]) ++
      (text.map fun t => Piece.assign Source.sourceAttribute (Expr.str t)).toList,
      p.isProperty = false := by
    intro p hp
    simp only [List.mem_append, List.mem_flatMap, List.mem_cons, List.not_mem_nil, or_false,
      Option.mem_toList, Option.map_eq_some_iff] at hp
    rcases hp with ⟨y, -, rfl | rfl⟩ | ⟨t, -, rfl⟩ <;> rfl
  refine ⟨fun hany => ?_, fun _ f hf => by simp [classFrame] at hf, ?_⟩
  · obtain ⟨p, hp, hprop⟩ := hany
    obtain ⟨property, i, hget, hi, hmodule, hqualname⟩ := (hs.properties.resolve_right fun hnone => by
      rw [TypeLayout.pieces, propertyPieces, hnone.1, hnone.2, List.map_nil, List.map_nil,
        List.append_nil, List.append_nil, List.append_assoc] at hp
      rcases List.mem_append.mp hp with hp | hp
      · simp only [List.mem_cons, List.not_mem_nil, or_false] at hp
        rcases hp with rfl | rfl | rfl | rfl | rfl <;> cases hprop
      · rw [hlast p hp] at hprop
        cases hprop).mono hb
    exact ⟨property, ⟨_, hinfo, hget⟩, ⟨i, hi⟩, hmodule, hqualname⟩
  · rw [TypeLayout.pieces, List.append_assoc]
    exact not_hidden_of_parts hfirst isProperty_propertyPieces hlast

/-- A class around a class, as it has been generated. -/
structure GeneratedAround (tw : TypeWrapper) (o : TypeOptions) (s : Selection) (l : TypeLayout)
    (ps : List Piece) (text : Option String) (modules : List String) (b : World) (g : GeneratedModule)
    (k : Named) (w : World) : Prop where
  written : WrittenAround tw.cache o s.cls (planAround tw o s.cls s.methods)
    (convertedMethods o.rules s.methods) s.properties b l
  properties : ∃ u, ps = propertyPieces (planAround tw o s.cls s.methods) u s.properties
  checked : ∀ m ∈ convertedMethods o.rules s.methods, ∀ q ∈ m.parameters, q.Checked
  holds : text.isSome = o.includeSource
  source : ∀ t ∈ text, Source.HoldsItself g.text t
  generated : Generated tw.cache b (o.nameFor s.cls) (o.namespaceFor s.cls)
    ((o.imports modules).map importedName) [] (l.pieces o s.cls ps text) g k w

/-- **A class that is created around a class has been generated** from a layout. -/
theorem typeClass_generated (hs : WrappableClass tw o s w₁)
    (hprepare : (tw.prepare x o).outcome w = (.ok s, w₁))
    (h : (tw.createType x o).outcome w = (.ok k, w')) :
    ∃ l ps text b g w₂, (tw.generate x o).outcome w = (.ok g, w₂) ∧ w₁.Extends b ∧
      GeneratedAround tw o s l ps text (w₁.compiler s.compiler).moduleNames b g k w' := by
  obtain ⟨g, w₂, hfinish, hsingle⟩ := typeWrapper_createType_eq_ok hprepare h
  have hgenerate : (tw.generate x o).outcome w = (.ok g, w₂) := by
    rw [typeWrapper_generate_eq, outcome_bind_of_ok hprepare, hfinish]
  unfold TypeWrapper.finish at hfinish
  obtain ⟨p, b, hprogram, hrest⟩ := bind_eq_ok hfinish
  obtain ⟨l, hsettled, hl, hb, hchecked⟩ := typeProgram_eq_ok hs.there hprogram
  obtain ⟨g', w₃, hcompile, hlast⟩ := bind_eq_ok hrest
  obtain ⟨⟨⟩, w₄, hlog, hdone⟩ := bind_eq_ok hlast
  rw [outcome_pure, Prod.mk.injEq, Except.ok.injEq] at hdone
  obtain ⟨rfl, rfl⟩ := hdone
  unfold TypeWrapper.record at hlog
  rw [outcome_log, Prod.mk.injEq] at hlog
  have hw₄ : w₃.SameStore w₄ := by rw [← hlog.2]; exact ⟨rfl, rfl, rfl⟩
  have hdecorators : l.decorators = [] := by
    have hd := hl.decorators
    rw [hs.plain.decorators] at hd
    exact List.forall₂_nil_left_iff.mp hd
  obtain ⟨u, hu⟩ := hl.properties
  rw [← statements_propertyPieces] at hu
  obtain ⟨text, htext, hknown, hsource⟩ := settle_eq_ok hs.plain hdecorators hu isProperty_propertyPieces
    hsettled (hs.legible p b hprogram)
  have hcache : cacheGlobal ∉ (o.imports (w₁.compiler s.compiler).moduleNames).map importedName := by
    intro hm
    rw [TypeOptions.imports, List.map_map, List.mem_map] at hm
    obtain ⟨n, hn, he⟩ := hm
    exact hs.modules n (List.mem_eraseDups.mp hn) he
  have hundotted : ∀ i ∈ o.imports (w₁.compiler s.compiler).moduleNames,
      i.boundAs = none ∨ Syntax.dottedParts i.name = [i.name] := by
    intro i hi
    obtain ⟨n, -, rfl⟩ := List.mem_map.mp hi
    exact .inl rfl
  obtain ⟨hsound, k', hgenerated⟩ := compile_generated hknown hundotted hcache
    (fun m v _ _ => headInOrder_nil m v)
    (fun m v info hp => typePieces_inOrder hs hl ⟨u, rfl⟩ hb.extends_ hp)
    (fun m info hinfo => typePieces_decorates hs hb.extends_ ⟨u, rfl⟩ hinfo) hcompile
  obtain ⟨rfl, rfl⟩ := (hgenerated.sameStore hw₄).singleType_eq_ok hsingle
  exact ⟨l, _, text, b, g', _, hgenerate, hb.extends_, hl, ⟨u, rfl⟩, hchecked, htext,
    by rw [Compiler.compile_text hcompile]; exact hsource hsound, hgenerated.sameStore hw₄⟩

end Wrapper

end Facade
