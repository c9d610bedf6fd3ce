import Facade.Proofs.Loading

/-!
# Compilations that succeed

* `World.SameStore`: worlds with the same objects, importable modules and caches.
* `Starts`: where the body of a module starts to run.
* `compile_eq_ok`: a compilation that succeeds has run what the program says.
* `singleType_eq_ok`: the class that a module gives out is one of its globals.
-/

namespace Facade

/-- Worlds with the same objects, importable modules and caches. -/
structure World.SameStore (w w' : World) : Prop where
  objects : w'.objects = w.objects
  importable : w'.importable = w.importable
  caches : w'.caches = w.caches

namespace World.SameStore

variable {w w' w'' : World}

protected theorem refl (w : World) : w.SameStore w := ⟨rfl, rfl, rfl⟩

protected theorem trans (h : w.SameStore w') (h' : w'.SameStore w'') : w.SameStore w'' :=
  ⟨h'.objects.trans h.objects, h'.importable.trans h.importable, h'.caches.trans h.caches⟩

theorem extends_ (h : w.SameStore w') : w.Extends w' :=
  .of_objects_eq h.objects h.importable h.caches

end World.SameStore

namespace Run

variable {α : Type} {w w' : World}

/-- An operation that is watched for failures that it then lets through. -/
theorem tryCatch_eq_ok {x : Run α} {f : Failure → Run α} {a : α}
    (hf : ∀ e w, ∃ e' w', (f e).outcome w = (.error e', w'))
    (h : (tryCatch x f).outcome w = (.ok a, w')) : x.outcome w = (.ok a, w') := by
  rw [outcome_tryCatch] at h
  rcases hx : x.outcome w with ⟨r, w₁⟩
  rw [hx] at h
  cases r with
  | ok b => exact h
  | error e =>
    obtain ⟨e', w₂, he⟩ := hf e w₁
    simp only [he, Prod.mk.injEq, reduceCtorEq, false_and] at h

end Run

namespace Compiler

open Run Execution
open Syntax (Stmt)

variable {w w' : World} {p : Program} {body : List Stmt}

theorem diagnose_of_known (asErrors : Bool) (hk : p.known = some body) :
    (Stmt.areSound {} body = true ∧ p.diagnose asErrors = ([], some body)) ∨
      ∃ d, p.diagnose asErrors = ([d], none) ∧ d.isError = true := by
  unfold Program.diagnose
  split
  · exact .inr ⟨_, rfl, rfl⟩
  · rw [hk]
    cases hs : Stmt.areSound {} body with
    | true => exact .inl ⟨rfl, by simp [Option.filter, hs]⟩
    | false =>
      right
      simp only [Option.filter, hs, Bool.false_eq_true, if_false, Option.isSome_some, if_true]
      split
      · exact ⟨_, rfl, rfl⟩
      · exact ⟨_, rfl, rfl⟩

/-- **What is accepted is sound,** and is what the program is known to say. -/
theorem accept_eq_ok {c : Compiler} {name : String} (hk : p.known = some body)
    {r : List Diagnostic × List Stmt} (h : (accept c name p).outcome w = (.ok r, w')) :
    Stmt.areSound {} body = true ∧ r = ([], body) ∧ w' = w := by
  unfold accept at h
  rcases diagnose_of_known c.warningsAsErrors hk with ⟨hs, hd⟩ | ⟨d, hd, he⟩
  · rw [hd] at h
    obtain ⟨rfl, rfl⟩ : ([], body) = r ∧ w = w' := by simpa using h
    exact ⟨hs, rfl, rfl⟩
  · rw [hd] at h
    simp [he, outcome_bind, record] at h

theorem nextName_eq_ok {c : Compiler} {name : String}
    (h : (nextName c).outcome w = (.ok name, w')) : w.SameStore w' ∧ w'.contexts = w.contexts := by
  unfold nextName at h
  split at h
  · obtain ⟨rfl, rfl⟩ : _ = name ∧ w = w' := by simpa using h
    exact ⟨.refl w, rfl⟩
  · unfold drawName at h
    rw [outcome_get_bind] at h
    obtain ⟨⟨⟩, w₁, hset, h⟩ := bind_eq_ok h
    simp only [outcome_set, outcome_pure, Prod.mk.injEq, Except.ok.injEq, true_and] at hset h
    obtain ⟨-, rfl⟩ := h
    rw [← hset]
    exact ⟨⟨rfl, rfl, rfl⟩, rfl⟩

theorem writeFile_eq_ok {c : Compiler} {path text : String}
    (h : (writeFile c path text).outcome w = (.ok ⟨⟩, w')) :
    w.SameStore w' ∧ w'.contexts = w.contexts := by
  unfold writeFile at h
  obtain ⟨⟨⟩, w₁, hdir, h⟩ := bind_eq_ok h
  have hw : w₁ = w := by
    unfold makeDirectory at hdir
    rw [outcome_get_bind] at hdir
    dsimp only at hdir
    split at hdir
    · simp [outcome_bind] at hdir
    · split at hdir
      · simp at hdir
      · simpa using hdir.symm
  rw [outcome_modify, Prod.mk.injEq] at h
  obtain ⟨-, rfl⟩ := h
  rw [hw]
  exact ⟨⟨rfl, rfl, rfl⟩, rfl⟩

/-- The context of a compiler with what the compiler references. -/
def referring (c : Compiler) (w : World) : Context :=
  (w.context c.context).addReferences
    (c.resolver.modules.values.map fun m => (w.moduleName m, m))

/-- Where the body of a module starts to run: the module has been made on top of a world that is as it
was, and the context has been given what the compiler references. -/
structure Starts (c : Compiler) (seeds : List (String × Value)) (g : GeneratedModule) (w v : World)
    (info : ModuleInfo) : Prop where
  module : g.module = w.objects.size
  globals : info.globals = initialGlobals c g.name g.path seeds
  builtins : info.builtins = some (builtinsOf w)
  context : info.context = some c.context
  held : Held w v g.module info
  contexts : ∃ u, w.Extends u ∧ u.contexts = w.contexts ∧
    v.contexts = (u.setContext c.context (referring c u)).contexts

/-- What a compilation did that succeeded: it ran the body, and stamped the classes that the module
gives out. -/
structure Compiled (c : Compiler) (seeds : List (String × Value)) (body : List Stmt)
    (g : GeneratedModule) (w w' : World) : Prop where
  sound : Stmt.areSound {} body = true
  ran : ∃ info v w₂ w₃ w₄, Starts c seeds g w v info ∧
    (runModule g.module body).outcome v = (.ok ⟨⟩, w₂) ∧ w₂.SameStore w₃ ∧
    (stamp g).outcome w₃ = (.ok ⟨⟩, w₄) ∧ w₄.SameStore w'

theorem builtinsOf_of_sameStore (h : w.SameStore w') : builtinsOf w' = builtinsOf w := by
  unfold builtinsOf
  rw [h.importable]
  have : w'.module? = w.module? := by
    funext i
    simp only [World.module?, h.objects]
  rw [this]

theorem load_eq_ok {c : Compiler} {m : Nat} {text : String}
    (h : (load c m text body).outcome w = (.ok ⟨⟩, w')) :
    ∃ w₁, (runModule m body).outcome (w.setContext c.context (referring c w)) = (.ok ⟨⟩, w₁) ∧
      w₁.SameStore w' := by
  unfold load at h
  obtain ⟨⟨⟩, v, hset, h₁⟩ := bind_eq_ok h
  rw [setReferences, outcome_modify, Prod.mk.injEq] at hset
  obtain ⟨-, rfl⟩ := hset
  obtain ⟨⟨⟩, w₁, hrun, h₂⟩ := bind_eq_ok h₁
  refine ⟨w₁, tryCatch_eq_ok (fun e w => ?_) hrun, ?_⟩
  · split
    · exact ⟨_, _, rfl⟩
    · exact ⟨_, _, rfl⟩
  · rw [registerModule, outcome_get_bind] at h₂
    obtain ⟨⟨⟩, w₂, hset, h₃⟩ := bind_eq_ok h₂
    simp only [outcome_set, outcome_log, Prod.mk.injEq, true_and] at hset h₃
    rw [← h₃, ← hset]
    exact ⟨rfl, rfl, rfl⟩

theorem starts_push {c : Compiler} {seeds : List (String × Value)} {g : GeneratedModule}
    {w₁ : World} {info : ModuleInfo} (hw : w.SameStore w₁) (hc : w₁.contexts = w.contexts)
    (hm : g.module = w₁.objects.size) (hglobals : info.globals = initialGlobals c g.name g.path seeds)
    (hbuiltins : info.builtins = some (builtinsOf w₁)) (hcontext : info.context = some c.context) :
    Starts c seeds g w
      (({ w₁ with objects := w₁.objects.push (.module info) } : World).setContext c.context
        (referring c { w₁ with objects := w₁.objects.push (.module info) })) info where
  module := by rw [hm, hw.objects]
  globals := hglobals
  builtins := by rw [hbuiltins, builtinsOf_of_sameStore hw]
  context := hcontext
  held := by
    refine ⟨(hw.extends_.trans (.push w₁ _)).trans (.of_objects_eq rfl rfl rfl), ?_, ?_⟩
    · rw [hm, hw.objects]
    · simp [World.module?, World.setContext, hm]
  contexts := ⟨_, hw.extends_.trans (.push w₁ _), hc, rfl⟩

theorem build_eq_ok {c : Compiler} {name : String} {path : Option String}
    {seeds : List (String × Value)} {g : GeneratedModule} (hk : p.known = some body)
    (h : (build c name path p seeds).outcome w = (.ok g, w')) :
    Stmt.areSound {} body = true ∧ ∃ info v w₂, Starts c seeds g w v info ∧
      (runModule g.module body).outcome v = (.ok ⟨⟩, w₂) ∧ w₂.SameStore w' := by
  unfold build at h
  obtain ⟨⟨diagnostics, body'⟩, w₀, haccept, h⟩ := bind_eq_ok h
  obtain ⟨hs, hr, rfl⟩ := accept_eq_ok hk haccept
  obtain ⟨rfl, rfl⟩ := Prod.mk.inj hr
  dsimp only at h
  have main {w₁ : World} (hw : w₀.SameStore w₁) (hcontexts : w₁.contexts = w₀.contexts)
      {x : Run GeneratedModule}
      (hx : x = do
        let module ← Run.allocate (.module
          { name := name
            globals := initialGlobals c name path seeds
            origin := some (path.getD ("<typeforge:" ++ name ++ ">"))
            context := some c.context
            builtins := some (builtinsOf (← get)) })
        load c module p.text body'
        return { name := name, module := module, text := p.text, context := c.context, path := path,
                 diagnostics := [] })
      (h : x.outcome w₁ = (.ok g, w')) :
      ∃ info v w₂, Starts c seeds g w₀ v info ∧
        (runModule g.module body').outcome v = (.ok ⟨⟩, w₂) ∧ w₂.SameStore w' := by
    subst hx
    rw [outcome_get_bind, outcome_bind, outcome_allocate, after_ok] at h
    obtain ⟨⟨⟩, w₂, hload, h⟩ := bind_eq_ok h
    obtain ⟨v', hrun, hv'⟩ := load_eq_ok hload
    rw [outcome_pure, Prod.mk.injEq, Except.ok.injEq] at h
    obtain ⟨rfl, rfl⟩ := h
    exact ⟨_, _, v', starts_push hw hcontexts rfl rfl rfl rfl, hrun, hv'⟩
  refine ⟨hs, ?_⟩
  cases path with
  | none => exact main (.refl w₀) rfl rfl h
  | some f =>
    obtain ⟨⟨⟩, w₁, hwrite, h⟩ := bind_eq_ok h
    exact main (writeFile_eq_ok hwrite).1 (writeFile_eq_ok hwrite).2 rfl h

/-- A body that starts to run when only names were drawn before. -/
theorem Starts.of_sameStore {c : Compiler} {seeds : List (String × Value)} {g : GeneratedModule}
    {w₁ v : World} {info : ModuleInfo} (h : Starts c seeds g w₁ v info) (hw : w.SameStore w₁)
    (hc : w₁.contexts = w.contexts) : Starts c seeds g w v info where
  module := by rw [h.module, hw.objects]
  globals := h.globals
  builtins := by rw [h.builtins, builtinsOf_of_sameStore hw]
  context := h.context
  held := ⟨hw.extends_.trans h.held.extends_, by rw [← hw.objects]; exact h.held.new, h.held.module⟩
  contexts := by
    obtain ⟨u, hu, huc, hv⟩ := h.contexts
    exact ⟨u, hw.extends_.trans hu, huc.trans hc, hv⟩

/-- **A compilation that succeeds has run what the program says.** -/
theorem compile_eq_ok {id : String} {seeds : List (String × Value)} {g : GeneratedModule}
    (hk : p.known = some body) (h : (compile id p seeds).outcome w = (.ok g, w')) :
    Compiled (w.compiler id) seeds body g w w' := by
  unfold compile at h
  rw [outcome_get_bind] at h
  dsimp only at h
  obtain ⟨name, w₁, hname, h₁⟩ := bind_eq_ok h
  obtain ⟨⟨⟩, w₂, hcheck, h₂⟩ := bind_eq_ok h₁
  obtain ⟨-, hw₂⟩ := orRefuse_eq_ok hcheck
  obtain ⟨g', w₃, hbuild, h₃⟩ := bind_eq_ok h₂
  replace hbuild := tryCatch_eq_ok (fun e w => ⟨_, _, rfl⟩) hbuild
  obtain ⟨⟨⟩, w₄, hfinished, h₄⟩ := bind_eq_ok h₃
  obtain ⟨⟨⟩, w₅, hstamp, h₅⟩ := bind_eq_ok h₄
  rw [outcome_get_bind] at h₅
  obtain ⟨⟨⟩, w₆, hloaded, h₆⟩ := bind_eq_ok h₅
  obtain ⟨hg, hw'⟩ : g' = g ∧ w₆ = w' := by simpa using h₆
  subst hg hw' hw₂
  obtain ⟨sound, info, v, v', hstarts, hrun, hdone⟩ := build_eq_ok hk hbuild
  obtain ⟨hw₁, hc₁⟩ := nextName_eq_ok hname
  have hlog {w w' : World} {level message unit : String} {extra : List (String × String)}
      (h : (record level message unit extra).outcome w = (.ok ⟨⟩, w')) : w.SameStore w' := by
    rw [record, outcome_log, Prod.mk.injEq] at h
    rw [← h.2]
    exact ⟨rfl, rfl, rfl⟩
  exact ⟨sound, info, v, v', w₄, w₅, hstarts.of_sameStore hw₁ hc₁, hrun,
    hdone.trans (hlog hfinished), hstamp, hlog hloaded⟩

/-! ## Texts -/

theorem build_text {c : Compiler} {name : String} {path : Option String} {p : Program}
    {seeds : List (String × Value)} {g : GeneratedModule}
    (h : (build c name path p seeds).outcome w = (.ok g, w')) : g.text = p.text := by
  unfold build at h
  obtain ⟨⟨diagnostics, body⟩, w₀, -, h⟩ := bind_eq_ok h
  dsimp only at h
  have main {w₁ : World} {x : Run Nat} {load : Nat → Run Unit} {module : Nat → GeneratedModule}
      (hm : ∀ m, (module m).text = p.text)
      (h : (do
        let m ← x
        load m
        return module m : Run GeneratedModule).outcome w₁ = (.ok g, w')) : g.text = p.text := by
    obtain ⟨m, w₂, -, h⟩ := bind_eq_ok h
    obtain ⟨⟨⟩, w₃, -, h⟩ := bind_eq_ok h
    rw [outcome_pure, Prod.mk.injEq, Except.ok.injEq] at h
    rw [← h.1, hm]
  cases path with
  | none =>
    rw [outcome_get_bind] at h
    exact main (fun _ => rfl) h
  | some f =>
    obtain ⟨⟨⟩, w₁, -, h⟩ := bind_eq_ok h
    rw [outcome_get_bind] at h
    exact main (fun _ => rfl) h

/-- **A module that has been generated has the text of its program.** -/
theorem compile_text {id : String} {p : Program} {seeds : List (String × Value)}
    {g : GeneratedModule} (h : (compile id p seeds).outcome w = (.ok g, w')) : g.text = p.text := by
  unfold compile at h
  rw [outcome_get_bind] at h
  dsimp only at h
  obtain ⟨name, w₁, -, h₁⟩ := bind_eq_ok h
  obtain ⟨⟨⟩, w₂, -, h₂⟩ := bind_eq_ok h₁
  obtain ⟨g', w₃, hbuild, h₃⟩ := bind_eq_ok h₂
  replace hbuild := tryCatch_eq_ok (fun e w => ⟨_, _, rfl⟩) hbuild
  obtain ⟨⟨⟩, w₄, -, h₄⟩ := bind_eq_ok h₃
  obtain ⟨⟨⟩, w₅, -, h₅⟩ := bind_eq_ok h₄
  rw [outcome_get_bind] at h₅
  obtain ⟨⟨⟩, w₆, -, h₆⟩ := bind_eq_ok h₅
  obtain ⟨rfl, -⟩ : g' = g ∧ w₆ = w' := by simpa using h₆
  exact build_text hbuild

end Compiler

end Facade
