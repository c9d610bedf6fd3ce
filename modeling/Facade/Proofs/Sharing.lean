import Facade.Proofs.CallableClass
import Facade.Proofs.Describing
import Facade.Proofs.Histories
import Facade.Proofs.TypeClass

/-!
# Generators that share a world

Classes are generated one after the other, with the same cache, compilers and contexts. Whatever else
is generated, compiled or run later, and whether that succeeds or fails, what is embedded in the source
of a class is still fetched from the cache.

* `Run.LetsGrow`: an operation that lets a world grow; `letsGrow_generate`: generating a class does.
* `Request`, `Happening`, `World.through`: classes that are asked for, and what can happen in turn.
* `Embeds`: what the source of a class has to do with what was asked for.
* `grows_through`: every history lets a world grow; `embedded_stays`: what is embedded stays so.
-/

namespace Facade

open Describe Conversion Execution Wrapper Run
open Syntax (Expr Stmt)

variable {w w' : World} {c : Nat}

/-! ## Writing lets a world grow -/

namespace Execution

theorem DrawnFrom.evolves (h : DrawnFrom w w') : w.Evolves w' := by
  obtain ⟨queued, drawn, rfl⟩ := h
  exact .of_objects_eq rfl rfl rfl rfl rfl

/-- Putting a value into a cache lets a world grow, whether it succeeds or fails. -/
theorem growsAt_addValue (c : Nat) (v : Value) : (addValue c v).GrowsAt w := by
  unfold addValue
  refine growsAt_get_bind ?_
  dsimp only
  unfold GrowsAt
  rw [outcome_bind]
  rcases hd : (drawFresh (w.cache c).entries
    (w.queuedUuids.length + (w.cache c).entries.size + 1)).outcome w with ⟨r, w₁⟩
  obtain ⟨hfrom, hfresh⟩ := drawFresh_cases _ w hd
  cases r with
  | error e => exact hfrom.evolves
  | ok u =>
    have hnew : (w₁.cache c).entries.get? u = none := by
      have hnone : (w.cache c).entries.get? u = none := by
        simpa [Table.contains] using (hfresh u rfl).1
      obtain ⟨queued, drawn, rfl⟩ := hfrom
      exact hnone
    -- Nothing is stored under the identifier that is drawn.
    have hstored : w₁.Evolves (w₁.setCache c
        { w₁.cache c with entries := (w₁.cache c).entries.set u v }) :=
      (grows_setCache fun x y hxy => by
        rw [Table.get?_set_of_ne, hxy]
        rintro rfl
        rw [hnew] at hxy
        cases hxy).evolves rfl rfl
    refine hfrom.evolves.trans (GrowsAt.bind (x := modify _) hstored fun _ w₂ => ?_)
    exact growsAt_get_bind ((growsAt_log _).bind fun _ _ => growsAt_pure _)

end Execution

namespace Wrapper

open Facade.Describe (MethodInfo PropertyInfo)

variable {p : Plan}

theorem growsAt_cached (c : Nat) (v : Value) : (cached c v).GrowsAt w :=
  (growsAt_addValue c v).bind fun _ _ => growsAt_pure _

theorem growsAt_planning {α : Type} (p : Plan) (x : Planning α) : (planning p x).GrowsAt w := by
  unfold planning
  refine GrowsAt.bind ?_ fun _ _ => (growsAt_orRefuse _).bind fun _ _ => growsAt_pure _
  unfold GrowsAt
  rw [outcome_within]
  exact .of_objects_eq rfl rfl rfl rfl rfl

theorem growsAt_defaultExpr (p : Plan) (v : Value) : (p.defaultExpr v).GrowsAt w := by
  unfold Plan.defaultExpr
  split
  · exact growsAt_pure _
  · split
    · exact growsAt_cached _ _
    · exact growsAt_get_bind (growsAt_refuse _)

theorem growsAt_methodParams (p : Plan) (m : ConvertedMethod) : (p.methodParams m).GrowsAt w := by
  unfold Plan.methodParams
  refine (growsAt_mapM _ (fun q w => ?_) w).bind fun _ _ => growsAt_pure _
  unfold Plan.methodParam
  refine growsAt_get_bind ?_
  dsimp only
  split
  · exact growsAt_pure _
  · exact (growsAt_optionMapM _ (fun v _ => growsAt_defaultExpr p v)).bind fun _ _ => growsAt_pure _

theorem growsAt_constructorBody (p : Plan) : p.constructorBody.GrowsAt w := by
  unfold Plan.constructorBody
  refine (growsAt_mapM _ (fun q w => ?_) w).bind fun _ _ => growsAt_pure _
  split
  · exact (growsAt_defaultExpr p _).bind fun _ _ => growsAt_get_bind (growsAt_pure _)
  · exact growsAt_get_bind (growsAt_pure _)

/-- **Writing a program for a callable lets a world grow.** -/
theorem growsAt_callableProgram (cw : CallableWrapper) (f : Value) (method : MethodInfo)
    (o : CallableOptions) (compiler : String) : (cw.program f method o compiler).GrowsAt w := by
  unfold CallableWrapper.program callableTree
  dsimp only
  refine (growsAt_planning _ _).bind fun _ w₁ => (growsAt_addValue _ _).bind fun _ w₂ => ?_
  refine growsAt_get_bind (GrowsAt.bind (growsAt_get_bind ?_) fun _ _ => growsAt_pure _)
  refine (growsAt_constructorBody _).bind fun _ w₃ => growsAt_get_bind ?_
  exact (growsAt_methodParams _ _).bind fun _ _ => growsAt_pure _

theorem growsAt_cacheHooks (c : Nat) (h : Hooks) : (cacheHooks c h).GrowsAt w := by
  have hook {w : World} (v : Option Value) : (v.mapM (cached c)).GrowsAt w :=
    growsAt_optionMapM v fun v _ => growsAt_cached c v
  exact (hook _).bind fun _ _ => (hook _).bind fun _ _ => (hook _).bind fun _ _ => growsAt_pure _

theorem growsAt_methodLayout (p : Plan) (c : Nat) (es : HookExprs) (m : ConvertedMethod) :
    (methodLayout p c es m).GrowsAt w := by
  unfold methodLayout
  refine (growsAt_methodParams p m).bind fun _ w₁ => ?_
  dsimp only
  split
  · refine (growsAt_allocate _).bind fun _ w₂ => ?_
    exact (growsAt_map some (growsAt_cached c _)).bind fun _ _ => growsAt_get_bind (growsAt_pure _)
  · exact growsAt_get_bind (growsAt_pure _)

theorem growsAt_typeLayout (o : TypeOptions) (k : Named) (c : Nat) (p : Plan)
    (ms : List ConvertedMethod) (properties : List PropertyInfo) :
    (typeLayout o k c p ms properties).GrowsAt w := by
  unfold typeLayout
  refine (growsAt_mapM _ (fun v w => ?_) w).bind fun _ w₁ => ?_
  · exact growsAt_ite (fun _ => growsAt_pure _) fun _ => growsAt_cached c v
  refine (growsAt_cacheHooks c _).bind fun es w₂ => (growsAt_cached c _).bind fun _ w₃ => ?_
  refine growsAt_get_bind ((growsAt_constructorBody p).bind fun _ w₄ => growsAt_get_bind ?_)
  exact (growsAt_mapM _ (fun m _ => growsAt_methodLayout p c es m) w₄).bind fun _ _ => growsAt_pure _

/-- **Writing a program for a class lets a world grow.** -/
theorem growsAt_typeProgram (tw : TypeWrapper) (k : Named) (o : TypeOptions) (compiler : String)
    (methods : List MethodInfo) (properties : List PropertyInfo) :
    (tw.program k o compiler methods properties).GrowsAt w := by
  unfold TypeWrapper.program
  dsimp only
  refine (growsAt_planning _ _).bind fun _ w₁ => growsAt_get_bind ?_
  exact (growsAt_typeLayout _ _ _ _ _ _).bind fun _ _ => growsAt_lift _

end Wrapper

/-! ## Generating lets a world grow -/

namespace Run

variable {α β : Type}

/-- An operation lets a world grow, whatever becomes of contexts and compilers. -/
def LetsGrow (x : Run α) (w : World) : Prop := w.Grows (x.outcome w).2

theorem KeepsAt.letsGrow {x : Run α} (h : x.KeepsAt w) : x.LetsGrow w := World.Keeps.toGrows h

theorem GrowsAt.letsGrow {x : Run α} (h : x.GrowsAt w) : x.LetsGrow w := World.Evolves.toGrows h

theorem letsGrow_pure (a : α) : (pure a : Run α).LetsGrow w := .refl w

theorem LetsGrow.bind {x : Run α} {f : α → Run β} (h : x.LetsGrow w)
    (hf : ∀ a w', (f a).LetsGrow w') : (x >>= f).LetsGrow w := by
  unfold LetsGrow at h ⊢
  rw [outcome_bind]
  rcases hx : x.outcome w with ⟨r, w₁⟩
  rw [hx] at h
  cases r with
  | error e => exact h
  | ok a => exact h.trans (hf a w₁)

theorem LetsGrow.of_ok {x : Run α} {r : Except Failure α} (h : x.LetsGrow w)
    (hx : x.outcome w = (r, w')) : w.Grows w' := by
  unfold LetsGrow at h
  rwa [hx] at h

end Run

/-- A class that is asked for. -/
inductive Request where
  /-- A class around a callable. -/
  | callable (cw : CallableWrapper) (f : Value) (o : CallableOptions)
  /-- A class around a class. -/
  | type (tw : TypeWrapper) (v : Value) (o : TypeOptions)

namespace Request

/-- The cache that everything goes into that is no text. -/
def cache : Request → Nat
  | .callable cw _ _ => cw.cache
  | .type tw _ _ => tw.cache

/-- Gives a compiler if none is set. -/
def compilerOf : Request → Run String
  | .callable cw _ _ => cw.compilerOf
  | .type tw _ _ => tw.compilerOf

/-- Generates, compiles and loads the module of the class. -/
def generate : Request → Run GeneratedModule
  | .callable cw f o => cw.generate f o
  | .type tw v o => tw.generate v o

/-- Compilers come from where a world only grows. -/
def Sound (r : Request) : Prop := ∀ w, r.compilerOf.LetsGrow w

end Request

namespace Wrapper

open Facade.Describe (MethodInfo PropertyInfo)

theorem keepsAt_addTypingReference (compiler : String) :
    (addTypingReference compiler).KeepsAt w := by
  unfold addTypingReference
  refine keepsAt_get_bind ?_
  split
  · exact Compiler.keepsAt_addReference _ _
  · exact keepsAt_pure _

theorem keepsAt_addReferences (compiler : String) (k : Named) (o : TypeOptions)
    (methods : List MethodInfo) (properties : List PropertyInfo) :
    (TypeWrapper.addReferences compiler k o methods properties).KeepsAt w := by
  have all {w : World} (as : List Value) : (Compiler.addReferences compiler as).KeepsAt w :=
    Compiler.keepsAt_addReferences _ _
  unfold TypeWrapper.addReferences
  refine (keepsAt_addTypingReference _).bind fun _ w₁ => ?_
  refine (Compiler.keepsAt_addReference _ _).bind fun _ w₂ => ?_
  refine (keepsAt_forM _ (fun m w => all _) w₂).bind fun _ w₃ => ?_
  refine (all _).bind fun _ w₄ => (all _).bind fun _ w₅ => (all _).bind fun _ w₆ => ?_
  exact keepsAt_forM _ (fun v w => Compiler.keepsAt_addReference _ _) w₆

theorem growsAt_classToWrap (v : Value) : (TypeWrapper.classToWrap v).GrowsAt w := by
  unfold TypeWrapper.classToWrap
  split
  · exact growsAt_refuse _
  · exact growsAt_pure _
  · exact growsAt_get_bind (growsAt_refuse _)

theorem classToWrap_eq_ok {v : Value} {k : Named}
    (h : (TypeWrapper.classToWrap v).outcome w = (.ok k, w')) : v = .cls k := by
  unfold TypeWrapper.classToWrap at h
  split at h
  · simp at h
  · simp only [outcome_pure, Prod.mk.injEq, Except.ok.injEq] at h
    rw [h.1]
  · simp [outcome_bind] at h

theorem growsAt_selectMethods (k : Named) (o : TypeOptions) : (selectMethods k o).GrowsAt w :=
  (growsAt_methodsOf k).bind fun _ _ => growsAt_pure _

theorem growsAt_selectProperties (k : Named) (o : TypeOptions) :
    (selectProperties k o).GrowsAt w :=
  (growsAt_propertiesOf k).bind fun _ _ => growsAt_pure _

theorem letsGrow_compilerFor {x : Run String} (h : ∀ w, x.LetsGrow w) (compiler : Option String) :
    (compilerFor compiler x).LetsGrow w := by
  cases compiler with
  | some id => exact letsGrow_pure id
  | none => exact h w

end Wrapper

namespace Request

/-- **Generating a class lets a world grow,** whether it succeeds or fails. -/
theorem letsGrow_generate {r : Request} (hr : r.Sound) (w : World) : r.generate.LetsGrow w := by
  cases r with
  | callable cw f o =>
    show (cw.generate f o).LetsGrow w
    unfold CallableWrapper.generate
    refine (growsAt_describeCallable f).letsGrow.bind fun method w₁ => ?_
    refine (letsGrow_compilerFor hr o.compiler).bind fun compiler w₂ => ?_
    refine (keepsAt_addTypingReference _).letsGrow.bind fun _ w₃ => ?_
    refine (Compiler.keepsAt_addReferences _ _).letsGrow.bind fun _ w₄ => ?_
    refine (growsAt_callableProgram cw f method o compiler).letsGrow.bind fun program w₅ => ?_
    refine (growsAt_log _).letsGrow.bind fun _ w₆ => ?_
    exact (Compiler.keepsAt_compile _ _ _).letsGrow
  | type tw v o =>
    show (tw.generate v o).LetsGrow w
    unfold TypeWrapper.generate TypeWrapper.record
    refine (growsAt_classToWrap v).letsGrow.bind fun k w₁ => ?_
    refine (growsAt_selectMethods k o).letsGrow.bind fun methods w₂ => ?_
    refine (growsAt_selectProperties k o).letsGrow.bind fun properties w₃ => ?_
    refine (growsAt_log _).letsGrow.bind fun _ w₄ => ?_
    refine (letsGrow_compilerFor hr o.compiler).bind fun compiler w₅ => ?_
    refine (keepsAt_addReferences _ _ _ _ _).letsGrow.bind fun _ w₆ => ?_
    refine (growsAt_typeProgram tw k o compiler methods properties).letsGrow.bind fun program w₇ => ?_
    refine (Compiler.keepsAt_compile _ _ _).letsGrow.bind fun g w₈ => ?_
    exact ((growsAt_log _).bind fun _ _ => growsAt_pure _).letsGrow

end Request

/-! ## What is embedded -/

/-- The source of a class embeds what it should: each place where something is fetched fetches, in a
world, what was meant for it. -/
inductive Embeds (w : World) : Request → String → Prop
  | callable {cw : CallableWrapper} {f : Value} {o : CallableOptions} {method : MethodInfo} {b : World}
    (modules : List String) (l : CallableLayout) (h : WrittenFor cw f method o b w l) :
    Embeds w (.callable cw f o) (Program.ofTree .draft (l.tree method o modules)).text
  | type {tw : TypeWrapper} {k : Named} {o : TypeOptions} {methods : List MethodInfo}
    {properties : List PropertyInfo} {q : Program} (modules : List String) (l : TypeLayout)
    (hq : TypeWrapper.settle o (.ofTree .draft (l.tree o k modules)) = .ok q)
    (h : WrittenAround tw.cache o k (planAround tw o k methods) (convertedMethods o.rules methods)
      properties w l) : Embeds w (.type tw (.cls k) o) q.text

/-- What is embedded stays so while a world grows. -/
theorem Embeds.mono {r : Request} {text : String} (h : Embeds w r text) (hw : w.Grows w') :
    Embeds w' r text := by
  cases h with
  | callable modules l h => exact .callable modules l (h.mono hw)
  | type modules l hq h => exact .type modules l hq (h.mono hw)

/-- **The source of a class that is generated embeds what it should.** -/
theorem embeds_generate {r : Request} {g : GeneratedModule} (hr : r.Sound)
    (hc : r.cache < w.caches.size) (h : r.generate.outcome w = (.ok g, w')) :
    Embeds w' r g.text := by
  cases r with
  | callable cw f o =>
    replace h : (cw.generate f o).outcome w = (.ok g, w') := h
    unfold CallableWrapper.generate at h
    obtain ⟨method, w₁, h₁, h⟩ := bind_eq_ok h
    obtain ⟨compiler, w₂, h₂, h⟩ := bind_eq_ok h
    obtain ⟨⟨⟩, w₃, h₃, h⟩ := bind_eq_ok h
    obtain ⟨⟨⟩, w₄, h₄, h⟩ := bind_eq_ok h
    obtain ⟨program, w₅, hprogram, h⟩ := bind_eq_ok h
    obtain ⟨⟨⟩, w₆, hlog, hcompile⟩ := bind_eq_ok h
    have hw : w.Grows w₄ :=
      (((growsAt_describeCallable f).of_ok h₁).trans
        ((letsGrow_compilerFor hr o.compiler).of_ok h₂)).trans
      (((keepsAt_addTypingReference compiler).letsGrow.of_ok h₃).trans
        ((Compiler.keepsAt_addReferences _ _).letsGrow.of_ok h₄))
    obtain ⟨l, rfl, hl, -, -⟩ := program_eq_ok (Nat.lt_of_lt_of_le hc hw.caches) hprogram
    rw [Compiler.compile_text hcompile]
    exact .callable _ l (hl.mono (((growsAt_log _).of_ok hlog).trans
      ((Compiler.keepsAt_compile _ _ _).letsGrow.of_ok hcompile)))
  | type tw v o =>
    replace h : (tw.generate v o).outcome w = (.ok g, w') := h
    unfold TypeWrapper.generate at h
    obtain ⟨k, w₁, h₁, h⟩ := bind_eq_ok h
    obtain ⟨methods, w₂, h₂, h⟩ := bind_eq_ok h
    obtain ⟨properties, w₃, h₃, h⟩ := bind_eq_ok h
    obtain ⟨⟨⟩, w₄, h₄, h⟩ := bind_eq_ok h
    obtain ⟨compiler, w₅, h₅, h⟩ := bind_eq_ok h
    obtain ⟨⟨⟩, w₆, h₆, h⟩ := bind_eq_ok h
    obtain ⟨q, w₇, hprogram, h⟩ := bind_eq_ok h
    obtain ⟨g', w₈, hcompile, h⟩ := bind_eq_ok h
    obtain ⟨⟨⟩, w₉, hrecord, h⟩ := bind_eq_ok h
    obtain ⟨rfl, rfl⟩ : g' = g ∧ w₉ = w' := by simpa using h
    obtain rfl := classToWrap_eq_ok h₁
    have hw : w.Grows w₆ :=
      ((((growsAt_classToWrap _).of_ok h₁).trans ((growsAt_selectMethods k o).of_ok h₂)).trans
        (((growsAt_selectProperties k o).of_ok h₃).trans ((growsAt_log _).of_ok h₄))).trans
      (((letsGrow_compilerFor hr o.compiler).of_ok h₅).trans
        ((keepsAt_addReferences _ _ _ _ _).letsGrow.of_ok h₆))
    obtain ⟨l, hq, hl, -⟩ := typeProgram_eq_ok (Nat.lt_of_lt_of_le hc hw.caches) hprogram
    rw [Compiler.compile_text hcompile]
    exact .type _ l hq (hl.mono (((Compiler.keepsAt_compile _ _ _).letsGrow.of_ok hcompile).trans
      ((growsAt_log _).of_ok hrecord)))

/-! ## Histories -/

/-- What can happen while classes are generated. -/
inductive Happening where
  /-- Something that does not concern a generator. -/
  | operation (o : Operation)
  /-- A class is generated. -/
  | generation (r : Request)

namespace Happening

/-- Does what a happening says. -/
def run : Happening → Run Unit
  | .operation o => o.run
  | .generation r => discard r.generate

/-- Compilers come from where a world only grows. -/
def Sound : Happening → Prop
  | .operation _ => True
  | .generation r => r.Sound

/-- One happening lets a world grow. -/
theorem letsGrow_run {h : Happening} (hh : h.Sound) (w : World) : h.run.LetsGrow w := by
  cases h with
  | operation o => exact (keepsAt_run o w).letsGrow
  | generation r =>
    show (Functor.map _ r.generate).LetsGrow w
    rw [map_eq_pure_bind]
    exact (Request.letsGrow_generate hh w).bind fun _ _ => letsGrow_pure _

end Happening

/-- The world after a history. What fails leaves the changes that it made. -/
def World.through (w : World) (hs : List Happening) : World :=
  hs.foldl (fun w h => (h.run.outcome w).2) w

/-- **Every history lets a world grow.** -/
theorem grows_through (hs : List Happening) :
    ∀ w : World, (∀ h ∈ hs, h.Sound) → w.Grows (w.through hs) := by
  induction hs with
  | nil => exact fun w _ => .refl w
  | cons h hs ih =>
    intro w hh
    exact World.Grows.trans (Happening.letsGrow_run (hh h List.mem_cons_self) w)
      (ih _ fun x hx => hh x (List.mem_cons_of_mem h hx))

/-- **Where the cache is at hand, what fetches a value gives it.** -/
theorem eval_fetched {v : Value} {e : Expr} (h : Fetched c w v e) {fr : Frame}
    (hf : fr.find w cacheGlobal = .ok (.cache c)) (n : Nat) :
    (eval (n + 3) fr e).outcome w = (.ok v, w.looked c) := by
  obtain ⟨u, rfl, hu, hv⟩ := h
  exact eval_cachedValue hf (mangle_get _) hu hv n

/-- **What is embedded in a class stays embedded,** whatever is generated, compiled or run later, and
whether that succeeds or fails: its source still embeds what it should, and whatever fetched an object
when the class had been generated still fetches it wherever the cache is at hand. -/
theorem embedded_stays {r : Request} {g : GeneratedModule} (hr : r.Sound)
    (hc : r.cache < w.caches.size) (h : r.generate.outcome w = (.ok g, w')) (hs : List Happening)
    (hh : ∀ x ∈ hs, x.Sound) :
    w'.Grows (w'.through hs) ∧ Embeds (w'.through hs) r g.text ∧
      ∀ v e, Fetched r.cache w' v e → ∀ (fr : Frame) (n : Nat),
        fr.find (w'.through hs) cacheGlobal = .ok (.cache r.cache) →
          (eval (n + 3) fr e).outcome (w'.through hs) = (.ok v, (w'.through hs).looked r.cache) := by
  have hw := grows_through hs w' hh
  exact ⟨hw, (embeds_generate hr hc h).mono hw, fun v e he fr n hf => eval_fetched (he.mono hw) hf n⟩

/-! ## A module under the name of the cache -/

/-- A world with a function and a compiler that references a module of a name. -/
def toolWorld (module : String) : World :=
  runAll [.add "main" (.module 4)]
    { objects := #[
        .cls { named := Standard.object, name := "object", linearisation := [Standard.object],
               builtin := true },
        .function { name := "use", qualname := "use", params := [{ name := "tool" }],
                    body := .script "use" false (.arg "tool") },
        .module { name := "builtins", globals := {}, origin := some "built-in" },
        .module { name := "typing",
                  globals := ⟨[("__name__", .str "typing"), ("__file__", .str "/typing.py"),
                    ("Any", Standard.any)]⟩ },
        .module { name := module,
                  globals := ⟨[("__name__", .str module), ("__file__", .str "/tools.py")]⟩ }]
      importable := ⟨[("builtins", 2), ("typing", 3), (module, 4)]⟩
      caches := #[{}]
      contexts := #[{ name := none }]
      compilers := ⟨[("main", { persist := false, workingDir := ".", version := "1", context := 0,
                                name := some "unit" })]⟩ }

/-- The generator of that world. -/
def toolWrapper : CallableWrapper := { cache := 0, compilerOf := pure "main" }

/-- The class around the function. -/
def toolRequest : Request := .callable toolWrapper (.function 1) {}

theorem sound_toolRequest : toolRequest.Sound := fun _ => letsGrow_pure _

/-- The class is generated again, and then something that cannot be called is to be wrapped. -/
def toolHistory : List Happening :=
  [.generation toolRequest, .generation (.callable toolWrapper (.int 1) {})]

theorem sound_toolHistory : ∀ h ∈ toolHistory, h.Sound := by
  intro h hh
  rcases List.mem_cons.mp hh with rfl | hh
  · exact sound_toolRequest
  · obtain rfl := List.mem_singleton.mp hh
    exact fun _ => letsGrow_pure _

theorem generate_toolRequest : toolRequest.cache < (toolWorld "tools").caches.size ∧
    (toolRequest.generate.outcome (toolWorld "tools")).1.isOk = true := by
  decide +kernel

/-- The function is still fetched after another class has been generated and a third one could
not. -/
theorem embedded_stays_tool : ∃ g w', toolRequest.generate.outcome (toolWorld "tools") = (.ok g, w') ∧
    w'.Grows (w'.through toolHistory) ∧ Embeds (w'.through toolHistory) toolRequest g.text ∧
      ∀ v e, Fetched toolRequest.cache w' v e → ∀ (fr : Frame) (n : Nat),
        fr.find (w'.through toolHistory) cacheGlobal = .ok (.cache toolRequest.cache) →
          (eval (n + 3) fr e).outcome (w'.through toolHistory) =
            (.ok v, (w'.through toolHistory).looked toolRequest.cache) := by
  obtain ⟨g, w', h⟩ := eq_ok_of_isOk generate_toolRequest.2
  exact ⟨g, w', h, embedded_stays sound_toolRequest generate_toolRequest.1 h toolHistory
    sound_toolHistory⟩

/-- The generated method of a new instance of the class around the function. -/
def toolMethod : Run Value := do
  let k ← toolWrapper.createType (.function 1) {}
  let self ← construct depth k [] []
  getAttr depth self "run"

/-- Whether a method is there whose function is in the cache, while a call with a number raises for
want of an attribute. -/
def lacksCache (x : Except Failure Value × World) : Bool :=
  match x.1, (x.2.cache 0).entries.get? (.ofBits 1) with
  | .ok f, some (.function 1) =>
    match ((call depth f [.int 7] []).outcome x.2).1 with
    | .error (.fault .attribute) => true
    | _ => false
  | _, _ => false

/-- **A module under the name of the cache takes its place.** A class around a function is generated
and constructed, and its function is in the cache; but its method finds the module where the cache
should be. -/
theorem shadowed_cache_fails : ∃ f u w w', toolMethod.outcome (toolWorld cacheGlobal) = (.ok f, w) ∧
    (w.cache 0).entries.get? u = some (.function 1) ∧
      (call depth f [.int 7] []).outcome w = (.error (.fault .attribute), w') := by
  have h : lacksCache (toolMethod.outcome (toolWorld cacheGlobal)) = true := by decide +kernel
  rcases hm : toolMethod.outcome (toolWorld cacheGlobal) with ⟨r, w⟩
  rw [hm] at h
  unfold lacksCache at h
  split at h
  · rename_i f hr hf
    split at h
    · rename_i hcall
      exact ⟨f, _, w, _, Prod.ext hr rfl, hf, Prod.ext hcall rfl⟩
    · cases h
  · cases h

end Facade
