import Facade.Proofs.Hooks
import Facade.Proofs.Importing

/-!
# Classes with hooks

The methods of a class around a class, as the class has been generated. Whatever has happened since,
calling one of them tells the hooks what they are to be told, once each and in order.

* `method_made`: each method of the class is made from its layout.
* `HooksCalls`: a function whose calls are hooked.
* `hooked_call`: all methods of a class around a class are such functions.
-/

namespace Facade.Wrapper

open Run Execution Conversion
open Facade.Describe (MethodInfo PropertyInfo)
open Facade.Describe.MethodInfo (isPublicName)
open Syntax (Expr mangle)

variable {tw : TypeWrapper} {o : TypeOptions} {s : Selection} {k : Named} {ps : List Piece}
  {text : Option String} {modules : List String} {b w w₁ w' : World} {g : GeneratedModule}
  {q : MethodInfo} {tl : TypeLayout} {l : MethodLayout} {c m : Nat} {cls : String} {t told : Value}

/-! ## Methods of a class -/

/-- A method after conversion. -/
def convertedFor (o : TypeOptions) (q : MethodInfo) : ConvertedMethod :=
  ⟨q, q.params.map (convertedOf o.rules)⟩

theorem method_of_forall₂ {p : Plan} {es : HookExprs} {ms : List ConvertedMethod}
    {ls : List MethodLayout} (h : List.Forall₂ (WritesMethod c p es w) ms ls) :
    ls.map MethodLayout.method = ms := by
  induction h with
  | nil => rfl
  | cons h _ ih => rw [List.map_cons, h.method, ih]

/-- The methods that are written are the ones that have been selected. -/
theorem WrittenAround.methods_eq {p : Plan} {methods : List MethodInfo} {properties : List PropertyInfo}
    (h : WrittenAround c o k p (convertedMethods o.rules methods) properties b tl) :
    tl.methods.map (fun l => l.method.method) = methods := by
  show tl.methods.map (ConvertedMethod.method ∘ MethodLayout.method) = methods
  rw [← List.map_map, method_of_forall₂ h.methods, convertedMethods, List.map_map]
  exact List.map_id _

/-- The pieces that come after a method are the methods after it, and the text. -/
theorem pieces_of_methods {before later : List MethodLayout} (h : tl.methods = before ++ l :: later) :
    tl.pieces o k ps text = { tl with methods := before }.pieces o k ps none ++ l.piece o tl.hooks ::
      .blank "" :: (later.flatMap (fun m => [m.piece o tl.hooks, .blank ""]) ++
        (text.map fun t => .assign Source.sourceAttribute (Expr.str t)).toList) := by
  simp only [TypeLayout.pieces, TypeLayout.constructorBody, h, List.flatMap_append, List.flatMap_cons,
    Option.map_none, Option.toList_none, List.append_nil, List.append_assoc, List.cons_append,
    List.nil_append]

/-- What comes after a method binds the names of the methods after it, and one that is not public. -/
theorem not_mem_later {later : List MethodLayout} {n : String} (hn : isPublicName n = true)
    (hpublic : ∀ y ∈ later, isPublicName (o.methodNameOf y.method.method) = true)
    (hne : ∀ y ∈ later, o.methodNameOf y.method.method ≠ n) :
    n ∉ (Piece.blank "" :: (later.flatMap (fun m => [m.piece o tl.hooks, .blank ""]) ++
      (text.map fun t => .assign Source.sourceAttribute (Expr.str t)).toList)).filterMap
        (Piece.bound? cls) := by
  intro hmem
  obtain ⟨p, hp, hbound⟩ := List.mem_filterMap.mp hmem
  simp only [List.mem_cons, List.mem_append, List.mem_flatMap, List.not_mem_nil, or_false,
    Option.mem_toList, Option.map_eq_some_iff] at hp
  rcases hp with rfl | ⟨y, hy, rfl | rfl⟩ | ⟨t, -, rfl⟩
  · cases hbound
  · refine hne y hy ?_
    rw [← mangle_of_isPublicName (hpublic y hy) (some cls)]
    exact Option.some.inj hbound
  · cases hbound
  · have hsource : mangle (some cls) Source.sourceAttribute = Source.sourceAttribute :=
      Syntax.mangle_of_not_isPrivate _ (by decide)
    exact ne_of_isPublicName hn (by decide) (hsource.symm.trans (Option.some.inj hbound))

/-- **Each method of the class is made from its layout.** -/
theorem method_made (hg : GeneratedAround tw o s tl ps text modules b g k w')
    (hnames : (s.methods.map o.methodNameOf).Nodup)
    (hpublic : ∀ q ∈ s.methods, isPublicName (o.methodNameOf q) = true) (hq : q ∈ s.methods) :
    ∃ l f i, WritesMethod tw.cache (planAround tw o s.cls s.methods) tl.hooks b (convertedFor o q) l ∧
      w'.class? k.id = some i ∧ i.members.get? (o.methodNameOf q) = some (.function f) ∧
      NewFunction tw.cache b g.module (o.nameFor s.cls) q.isAsync l.params (l.body tl.hooks) w' f := by
  obtain ⟨i, hi⟩ := hg.generated.class_
  obtain ⟨l, hl, hwrites⟩ := exists_of_forall₂ hg.written.methods
    (List.mem_map_of_mem (f := fun m => convertedFor o m) hq)
  have hmethod : l.method.method = q := by rw [hwrites.method]; rfl
  obtain ⟨before, later, hsplit⟩ := List.mem_iff_append.mp hl
  have hmethods := hg.written.methods_eq
  have hmangle := mangle_of_isPublicName (hpublic q hq) (some (o.nameFor s.cls))
  have hlater : ∀ y ∈ later, y.method.method ∈ s.methods := by
    intro y hy
    rw [← hmethods, hsplit]
    exact List.mem_map_of_mem (f := fun m : MethodLayout => m.method.method) (by simp [hy])
  rw [← hmethods, hsplit, List.map_append, List.map_cons, List.map_append, List.map_cons, hmethod,
    List.nodup_append, List.nodup_cons] at hnames
  obtain ⟨f, hget, hnew⟩ := hi.members.leaves _ _ _ (pieces_of_methods hsplit) (by
    rintro x hx
    obtain rfl := Option.some.inj hx
    rw [hmethod, hmangle]
    -- No other method has the name, and what comes after the methods does not have a public one.
    refine ⟨not_mem_later (hpublic q hq) (fun y hy => hpublic _ (hlater y hy)) fun y hy he => ?_,
      (ne_of_isPublicName (hpublic q hq) (by decide)).symm⟩
    exact hnames.2.1.1 (he ▸ List.mem_map_of_mem (List.mem_map_of_mem hy)))
  rw [hmethod, hmangle] at hget
  rw [hmethod] at hnew
  exact ⟨l, f, i, hwrites, hi.class_, hget, hnew⟩

/-! ## Calls of a class -/

/-- A function whose calls are hooked: in a world, **every call on an instance, with arguments that fit,
is a hooked call,** as long as the wrapper is not disturbed. -/
def HooksCalls (c m : Nat) (cls : String) (hooks : Hooks) (q : ConvertedMethod) (told : Value) (f : Nat)
    (w : World) : Prop :=
  ∃ info, w.function? f = some info ∧ ∀ n x args kw bound,
    bindArguments info.params (.instance x :: args) kw = .ok bound →
      ∃ fr : Frame, MethodFrame m cls (.instance x) fr ∧ fr.vars = ⟨bound⟩ ∧
        ∀ i, Undisturbed n c m x hooks fr q i told w →
          (callToEnd (n + 7) q.method.isAsync (.bound (.instance x) (.function f)) args kw).outcome w =
            (hookedCall n c hooks fr q i told).outcome w

theorem hooksCalls_of_new {f : Nat} {hooks : Hooks} {es : HookExprs} {p : Plan} {q : ConvertedMethod}
    (hf : NewFunction c b m cls q.method.isAsync l.params (l.body es) w f)
    (hes : WritesHooks c w hooks es) (hl : WritesMethod c p es w q l)
    (hi : ∀ ie ∈ l.info, Fetched c w told ie) (hq : ∀ r ∈ q.parameters, r.Checked)
    (hname : Syntax.isPrivate q.method.name.toList = false) :
    HooksCalls c m cls hooks q told f w := by
  obtain ⟨info, hinfo, hmade⟩ := hf.made
  refine ⟨info, hinfo, fun n x args kw bound hbound => ?_⟩
  obtain ⟨u, ps, hparams, hps⟩ := hl.params
  rw [hparams] at hmade
  have hkind : receiverKind ps = .positionalOnly ∨ receiverKind ps = .positionalOrKeyword := by
    rw [receiverKind]
    split <;> simp
  have hreserved : ∀ r ∈ ps, r.name ∉ reservedNames := by
    intro r hr
    obtain ⟨y, hy, hwrites⟩ := exists_of_forall₂_right hps hr
    obtain ⟨hy, hroute⟩ := List.mem_filter.mp hy
    rw [hwrites.name]
    refine (hq y hy).notReserved fun h => ?_
    rw [h] at hroute
    exact absurd hroute (by decide)
  have hfr := methodFrame_ofCall hmade hkind hreserved hbound
  refine ⟨_, hfr, rfl, fun i hw => ?_⟩
  rw [← hmade.isAsync, callToEnd_eq hinfo hbound, runFunction_hooked hmade.body hfr hes hl hi hname hw]

/-- A method that is made from its layout is hooked, now and later. -/
theorem GeneratedAround.hooksCalls {f : Nat} (hg : GeneratedAround tw o s tl ps text modules b g k w')
    (hq : q ∈ s.methods) (hname : Syntax.isPrivate q.name.toList = false)
    (hl : WritesMethod tw.cache (planAround tw o s.cls s.methods) tl.hooks b (convertedFor o q) l)
    (hnew : NewFunction tw.cache b g.module (o.nameFor s.cls) q.isAsync l.params (l.body tl.hooks) w' f) :
    ∃ id, ∀ v, w'.Grows v → HooksCalls tw.cache g.module (o.nameFor s.cls) o.hooks (convertedFor o q)
      (.methodInfo id q.name) f v := by
  have hchecked : ∀ r ∈ (convertedFor o q).parameters, r.Checked :=
    hg.checked _ (List.mem_map_of_mem (f := fun m => convertedFor o m) hq)
  obtain ⟨u, -, hid, hu⟩ := hl.info
  -- Without hooks there is nothing that they are told, and any identifier will do.
  obtain ⟨id, htold⟩ : ∃ id, ∀ ie ∈ l.info, Fetched tw.cache b (.methodInfo id q.name) ie := by
    generalize l.info = info at hu
    cases hu with
    | none => exact ⟨0, fun ie hie => by cases hie⟩
    | @some y ie hie =>
      obtain ⟨id, rfl⟩ := hid y rfl
      exact ⟨id, fun _ he => Option.some.inj he ▸ hie⟩
  refine ⟨id, fun v hv => ?_⟩
  have hbv : b.Grows v := hg.generated.since.grows.trans hv
  exact hooksCalls_of_new (hnew.mono hv) (hg.written.hooks.mono hbv) (hl.mono hbv)
    (fun ie hie => (htold ie hie).mono hbv) hchecked hname

/-- **Every call of a method of a generated class is a hooked call,** now and later: the hooks are told
about the instance that the wrapper holds, and about the method by the name that it has there. -/
theorem hooked_call (hs : WrappableClass tw o s w₁)
    (hprepare : (tw.prepare t o).outcome w = (.ok s, w₁))
    (h : (tw.createType t o).outcome w = (.ok k, w'))
    (hnames : (s.methods.map o.methodNameOf).Nodup)
    (hpublic : ∀ q ∈ s.methods, isPublicName (o.methodNameOf q) = true) (hq : q ∈ s.methods)
    (hname : Syntax.isPrivate q.name.toList = false) :
    ∃ m f i id, w'.class? k.id = some i ∧ i.members.get? (o.methodNameOf q) = some (.function f) ∧
      ∀ v, w'.Grows v → HooksCalls tw.cache m (o.nameFor s.cls) o.hooks (convertedFor o q)
        (.methodInfo id q.name) f v := by
  obtain ⟨tl, ps, text, b, g, -, -, -, hg⟩ := typeClass_generated hs hprepare h
  obtain ⟨l, f, i, hl, hi, hget, hnew⟩ := method_made hg hnames hpublic hq
  obtain ⟨id, hhooks⟩ := hg.hooksCalls hq hname hl hnew
  exact ⟨g.module, f, i, id, hi, hget, hhooks⟩

/-- Where nothing is annotated, the class is all that is referenced. -/
theorem addReferences_plain {compiler : String} {r : Compiler} {methods : List MethodInfo}
    {properties : List PropertyInfo} {w₂ : World}
    (htyping : (addTypingReference compiler).outcome w = (.ok ⟨⟩, w₁))
    (hclass : (Compiler.addReference compiler (.cls k)).outcome w₁ = (.ok ⟨⟩, w₂))
    (hcompiler : w₂.compilers.get? compiler = some r) (hmethods : ∀ q ∈ methods, q.annotations = [])
    (hproperties : properties.filterMap PropertyInfo.hint = [])
    (hconstructor : o.constructorParameters = []) (hbases : o.bases = []) (hreferences : o.references = []) :
    (TypeWrapper.addReferences compiler k o methods properties).outcome w = (.ok ⟨⟩, w₂) := by
  have hnothing : (Compiler.addReferences compiler []).outcome w₂ = (.ok ⟨⟩, w₂) :=
    addReferences_nil hcompiler
  have hall : (methods.forM fun m => Compiler.addReferences compiler m.annotations).outcome w₂ =
      (.ok ⟨⟩, w₂) := by
    clear hclass htyping
    induction methods with
    | nil => rfl
    | cons q qs ih =>
      change (Compiler.addReferences compiler q.annotations >>= fun _ =>
        qs.forM fun m => Compiler.addReferences compiler m.annotations).outcome w₂ = _
      rw [hmethods q List.mem_cons_self, outcome_bind_of_ok hnothing]
      exact ih fun r hr => hmethods r (List.mem_cons_of_mem q hr)
  unfold TypeWrapper.addReferences
  rw [outcome_bind_of_ok htyping, outcome_bind_of_ok hclass, outcome_bind_of_ok hall, hproperties,
    outcome_bind_of_ok hnothing, hconstructor, List.map_nil, outcome_bind_of_ok hnothing, hbases,
    outcome_bind_of_ok hnothing, hreferences]
  rfl

/-! ## A class with one method -/

/-- A class. -/
def bell : Named := ⟨5, "tools", "Bell"⟩

/-- A world with the class, which has one method, with or without a parameter, and a compiler that
references its module. -/
def bellWorld (routed : Bool) : World :=
  runAll [.add "main" (.module 4)]
    { objects := #[
        .cls { named := Standard.object, name := "object", linearisation := [Standard.object],
               builtin := true },
        .function { name := "ring", qualname := "Bell.ring",
                    params := { name := "self" } :: if routed then [{ name := "instance" }] else [],
                    home := some 5, body := .script "ring" true (.value (.int 7)) },
        .module { name := "builtins", globals := {}, origin := some "built-in" },
        .module { name := "typing",
                  globals := ⟨[("__name__", .str "typing"), ("__file__", .str "/typing.py"),
                    ("Any", Standard.any)]⟩ },
        .module { name := "tools",
                  globals := ⟨[("__name__", .str "tools"), ("__file__", .str "/tools.py"),
                    ("Bell", .cls bell)]⟩ },
        .cls { named := bell, name := "Bell", bases := [Standard.object],
               linearisation := [bell, Standard.object],
               members := ⟨[("__module__", .str "tools"), ("ring", .function 1)]⟩ }]
      importable := ⟨[("builtins", 2), ("typing", 3), ("tools", 4)]⟩
      caches := #[{}]
      contexts := #[{ name := none }]
      compilers := ⟨[("main", { persist := false, workingDir := ".", version := "1", context := 0,
                                name := some "unit" })]⟩ }

/-- The generator of that world. -/
def bellWrapper : TypeWrapper := { cache := 0, compilerOf := pure "main" }

/-- Hooks that record themselves. -/
def bellHooks : Hooks :=
  { before := some (.native (.hook "before" none)), after := some (.native (.hook "after" none)) }

/-- Hooks around a method that has another name. Its parameter, if there is one, is one of the
constructor. -/
def bellOptions (routed : Bool) : TypeOptions :=
  { rules := if routed then [Rule.forNames ["instance"] { route := .constructor }] else []
    methodNameOf := fun m => "do_" ++ m.name
    includeSource := false
    hooks := bellHooks }

/-- The method. -/
def ring (routed : Bool) : MethodInfo :=
  { name := "ring", params := if routed then [{ name := "instance" }] else [], declaring := some bell }

/-- The method without a parameter, after conversion. -/
def bareRing : ConvertedMethod := convertedFor (bellOptions false) (ring false)

/-- What is selected of the class. -/
def bellSelection (routed : Bool) : Selection := ⟨bell, [ring routed], [], "main"⟩

/-- The record of the selection. -/
def recordBell (routed : Bool) : Run Unit :=
  TypeWrapper.record "DEBUG" "selected members" bell (bellOptions routed)
    [("methods", toString (bellSelection routed).methods.length),
      ("properties", toString (bellSelection routed).properties.length)]

/-- The world before the class is referenced. -/
def bellSelected (routed : Bool) : World :=
  ((addTypingReference "main").outcome ((recordBell routed).outcome (bellWorld routed)).2).2

/-- The world in which the class has been referenced. -/
def bellReferenced (routed : Bool) : World :=
  ((Compiler.addReference "main" (.module 4)).outcome (bellSelected routed)).2

theorem references_bell : ∀ routed,
    ((addTypingReference "main").outcome
        ((recordBell routed).outcome (bellWorld routed)).2).1.isOk = true ∧
      ((Compiler.addReference "main" (.module 4)).outcome (bellSelected routed)).1.isOk = true ∧
      Resolver.moduleOf? (bellSelected routed) ((bellSelected routed).compiler "main").resolver
        (.cls bell) = .ok 4 ∧
      ((bellReferenced routed).compilers.get? "main").isSome = true := by
  decide +kernel

/-- The class is referenced, and nothing else is. -/
theorem addReferences_bell (routed : Bool) :
    (TypeWrapper.addReferences "main" bell (bellOptions routed) [ring routed] []).outcome
      ((recordBell routed).outcome (bellWorld routed)).2 = (.ok ⟨⟩, bellReferenced routed) := by
  obtain ⟨htypes, hadds, hmodule, hmain⟩ := references_bell routed
  have htyping : (addTypingReference "main").outcome
      ((recordBell routed).outcome (bellWorld routed)).2 = (.ok ⟨⟩, bellSelected routed) := by
    obtain ⟨⟨⟩, w, h⟩ := eq_ok_of_isOk htypes
    rw [bellSelected, h]
  have hqualname : bell.qualname.contains "<locals>" = false := by
    simp only [bell, String.contains_string_eq_false_iff]
    decide
  have hclass : (Compiler.addReference "main" (.cls bell)).outcome (bellSelected routed) =
      (.ok ⟨⟩, bellReferenced routed) := by
    obtain ⟨⟨⟩, w, h⟩ := eq_ok_of_isOk hadds
    exact addReference_cls hmodule hqualname (by rw [bellReferenced, h])
  obtain ⟨c, hc⟩ := Option.isSome_iff_exists.mp hmain
  refine addReferences_plain htyping hclass hc (fun q hq => ?_) rfl rfl rfl rfl
  obtain rfl := List.mem_singleton.mp hq
  cases routed <;> rfl

theorem prepare_bell (routed : Bool) :
    (bellWrapper.prepare (.cls bell) (bellOptions routed)).outcome (bellWorld routed) =
      (.ok (bellSelection routed), bellReferenced routed) := by
  have hclass : (TypeWrapper.classToWrap (.cls bell)).outcome (bellWorld routed) =
      (.ok bell, bellWorld routed) := rfl
  -- Whether a name is public is decided by a search that has to be unfolded.
  have hmethods : (selectMethods bell (bellOptions routed)).outcome (bellWorld routed) =
      (.ok [ring routed], bellWorld routed) := by
    cases routed <;> with_unfolding_all rfl
  have hproperties : (selectProperties bell (bellOptions routed)).outcome (bellWorld routed) =
      (.ok [], bellWorld routed) := by
    cases routed <;> rfl
  have hcompiler (w : World) :
      (compilerFor (bellOptions routed).compiler bellWrapper.compilerOf).outcome w = (.ok "main", w) :=
    rfl
  have hrecord : (recordBell routed).outcome (bellWorld routed) =
      (.ok ⟨⟩, ((recordBell routed).outcome (bellWorld routed)).2) := rfl
  unfold TypeWrapper.prepare
  rw [outcome_bind_of_ok hclass, outcome_bind_of_ok hmethods, outcome_bind_of_ok hproperties]
  change (recordBell routed >>= _).outcome (bellWorld routed) = _
  rw [outcome_bind_of_ok hrecord, outcome_bind_of_ok (hcompiler _),
    outcome_bind_of_ok (addReferences_bell routed)]
  rfl

/-- What happens after the class has been referenced. -/
def makeBell (routed : Bool) : Run Named :=
  bellWrapper.finish (bellOptions routed) (bellSelection routed) >>= GeneratedModule.singleType

theorem createType_bell (routed : Bool) :
    (bellWrapper.createType (.cls bell) (bellOptions routed)).outcome (bellWorld routed) =
      (makeBell routed).outcome (bellReferenced routed) := by
  rw [typeWrapper_createType_eq, outcome_bind_of_ok (prepare_bell routed), makeBell]

/-- The world with a wrapper. -/
def bellMade : World :=
  ((makeBell false >>= fun k => construct depth k [] []).outcome (bellReferenced false)).2

/-- That world after the first hook. -/
def bellNoted : World :=
  ((notify 24 0 bellHooks.before (.instance 12) (.methodInfo 0 "ring")).outcome bellMade).2

/-- That world after the call. -/
def bellRung : World :=
  ((passedOn 20 (moduleFrame 7) bareRing (.instance 12)).outcome bellNoted).2

/-- Whether the wrapper holds the instance. -/
def holdsBell (w : World) : Bool :=
  match (w.module? 7).bind fun i => i.globals.get? cacheGlobal, w.instance? 11 with
  | some (.cache 0), some j =>
    match j.attrs.get? instanceName, w.findMember? (w.linearisation j.cls.id) instanceName with
    | some (.instance 12), none => true
    | _, _ => false
  | _, _ => false

/-- Whether the instance has its method from its class. -/
def hasRing (w : World) : Bool :=
  match w.instance? 12 with
  | some j =>
    match j.attrs.get? "ring", w.findMember? (w.linearisation j.cls.id) "ring" with
    | none, some (.function 1) => true
    | _, _ => false
  | none => false

/-- The class can be made, no name stands in the way of the cache or of the path of the class, the program is
legible, and a call leaves the wrapper as it is. -/
theorem makes_bell : bellWrapper.cache < (bellReferenced false).caches.size ∧
    (∀ n ∈ ((bellReferenced false).compiler "main").moduleNames ++ (bellOptions false).namespaces,
      Imports.topPart n ≠ cacheGlobal) ∧
    (builtinsOf (bellReferenced false)).get? "tools" = none ∧
    (((bellReferenced false).importable.get? "builtins").bind
      (bellReferenced false).module?).isSome = true ∧
    ((bellWrapper.program bell (bellOptions false) "main" [ring false] []).outcome
      (bellReferenced false)).1.toOption.all (fun p => p.known.isSome) = true ∧
    (∀ q ∈ (bellSelection false).methods, isPublicName ((bellOptions false).methodNameOf q) = true) ∧
    (holdsBell bellMade = true ∧ holdsBell bellNoted = true ∧ holdsBell bellRung = true ∧
      hasRing bellNoted = true) ∧
    ((makeBell false).outcome (bellReferenced false)).1.isOk = true := by
  decide +kernel

theorem wrappableClass_bell :
    WrappableClass bellWrapper (bellOptions false) (bellSelection false) (bellReferenced false) := by
  obtain ⟨hcache, hmodules, htools, hbuiltins, hlegible, -, -, -⟩ := makes_bell
  refine ⟨⟨rfl, rfl, rfl⟩, hcache, hmodules, ?_, fun a ha => absurd ha List.not_mem_nil,
    fun q w' h => ?_, .inr ⟨rfl, rfl⟩⟩
  · exact calm_member (by decide) htools (Option.ne_none_iff_isSome.mpr hbuiltins) "Bell"
  · have h : (bellWrapper.program bell (bellOptions false) "main" [ring false] []).outcome
        (bellReferenced false) = (.ok q, w') := h
    rw [h] at hlegible
    exact Option.ne_none_iff_isSome.mpr hlegible

/-! ## Calls of that method -/

theorem wraps_of_holdsBell (h : holdsBell w = true) : Wraps w 0 7 11 (.instance 12) := by
  unfold holdsBell at h
  split at h
  · rename_i j hcache hj
    obtain ⟨info, hm, hg⟩ := Option.bind_eq_some_iff.mp hcache
    split at h
    · rename_i hi hfound
      exact ⟨⟨info, hm, hg⟩, j, hj, hi, fun g s => by rw [hfound]; simp⟩
    · cases h
  · cases h

theorem getAttr_of_hasRing {j : Nat} {x : Value} (h : hasRing w = true)
    (hx : (getAttr j (.instance 12) "ring").outcome w = (.ok x, w')) : ∀ k, x ≠ .cls k := by
  unfold hasRing at h
  split at h
  · rename_i i hi
    split at h
    · rename_i hattr hfound
      obtain _ | j := j
      · cases hx
      · rw [getAttr_member "ring" hi hattr hfound (by simp), Prod.mk.injEq, Except.ok.injEq] at hx
        rintro k rfl
        cases hx.1
    · cases h
  · cases h

/-- A call of the method does not disturb the wrapper. -/
theorem undisturbed_bell (fr : Frame) (id : Nat) : Undisturbed 20 0 7 11 bellHooks fr
    bareRing (.instance 12) (.methodInfo id "ring") bellMade := by
  obtain ⟨-, -, -, -, -, -, ⟨hmade, hnoted, hrung, hring⟩, -⟩ := makes_bell
  have hnotify : notify 24 0 bellHooks.before (.instance 12) (.methodInfo id "ring") =
      notify 24 0 bellHooks.before (.instance 12) (.methodInfo 0 "ring") := rfl
  have hpassed : passedOn 20 fr bareRing (.instance 12) =
      passedOn 20 (moduleFrame 7) bareRing (.instance 12) := rfl
  have hfirst {w : World} (h : (notify 24 0 bellHooks.before (.instance 12)
      (.methodInfo id "ring")).outcome bellMade = (.ok ⟨⟩, w)) : w = bellNoted := by
    rw [bellNoted, ← hnotify, h]
  refine ⟨wraps_of_holdsBell hmade, fun w h => ?_, fun w r w' h hc => ?_, fun w h j x w' hx k hk => ?_⟩
  · exact hfirst h ▸ wraps_of_holdsBell hnoted
  · rw [hfirst h, hpassed] at hc
    have hw : w' = bellRung := by rw [bellRung, hc]
    exact hw ▸ wraps_of_holdsBell hrung
  · rw [hfirst h] at hx
    exact absurd hk (getAttr_of_hasRing hring hx k)

/-- The hooks of a method that has been renamed are told about it by its own name, and there are calls
that do not disturb its wrapper. -/
theorem hooked_call_bell : ∃ k w',
    (bellWrapper.createType (.cls bell) (bellOptions false)).outcome (bellWorld false) = (.ok k, w') ∧
    (∃ m f i id, w'.class? k.id = some i ∧ i.members.get? "do_ring" = some (.function f) ∧
      ∀ v, w'.Grows v → HooksCalls 0 m defaultTypeName bellHooks
        bareRing (.methodInfo id "ring") f v) ∧
    ∀ fr id, Undisturbed 20 0 7 11 bellHooks fr
      bareRing (.instance 12) (.methodInfo id "ring") bellMade := by
  obtain ⟨-, -, -, -, -, hpublic, -, hmade⟩ := makes_bell
  obtain ⟨k, w', h⟩ := eq_ok_of_isOk hmade
  rw [← createType_bell] at h
  exact ⟨k, w', h, hooked_call wrappableClass_bell (prepare_bell false) h (by decide) hpublic
    List.mem_cons_self (by decide), undisturbed_bell⟩

/-- The method of a new wrapper, whose constructor takes what the method does not. -/
def routedMethod (k : Named) : Run Value := do
  let self ← construct depth k [.int 5] []
  getAttr depth self "do_ring"

/-- Whether a method is there that tells the first hook about a number, and then raises for want of an
attribute. -/
def tellsNumber (x : Except Failure Value × World) : Bool :=
  match x.1 with
  | .ok f =>
    match (call depth f [] []).outcome x.2 with
    | (.error (.fault .attribute), w) =>
      match w.events with
      | [.hook "before" "int" (some "ring")] => true
      | _ => false
    | _ => false
  | _ => false

/-- **A parameter under the name of the instance takes its place.** The class is made and constructed
with a number; but the first hook is told about the number, the method is looked for in the number, and
the second hook is never told. -/
theorem routed_instance_fails : ∃ k w f w₁ w₂,
    (bellWrapper.createType (.cls bell) (bellOptions true)).outcome (bellWorld true) = (.ok k, w) ∧
    (routedMethod k).outcome w = (.ok f, w₁) ∧
    (call depth f [] []).outcome w₁ = (.error (.fault .attribute), w₂) ∧
    w₂.events = [.hook "before" "int" (some "ring")] := by
  have h : tellsNumber ((makeBell true >>= routedMethod).outcome (bellReferenced true)) = true := by
    decide +kernel
  rw [outcome_bind, ← createType_bell] at h
  rcases hk : (bellWrapper.createType (.cls bell) (bellOptions true)).outcome (bellWorld true) with
    ⟨_ | k, w⟩
  · rw [hk] at h
    cases h
  rw [hk, after_ok] at h
  rcases hf : (routedMethod k).outcome w with ⟨_ | f, w₁⟩
  · rw [hf] at h
    cases h
  rw [hf] at h
  unfold tellsNumber at h
  dsimp only at h
  split at h
  · rename_i w₂ hcall
    split at h
    · rename_i hevents
      exact ⟨k, w, f, w₁, w₂, rfl, hf, hcall, hevents⟩
    · cases h
  · cases h

end Facade.Wrapper
