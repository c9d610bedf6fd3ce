import Facade.Proofs.Compilation
import Facade.Proofs.Growing
import Facade.Proofs.Resolving

/-!
# Contexts and compilers over time

Whatever happens, the world grows, and what a compiler has resolved and what a context was given as a
reference stays: the first module of a name keeps it. Only the modules that a context calls its own
give way to later ones of their names.

* `World.Keeps`: what stays; `Run.KeepsAt`: an operation that keeps it, and which operations do.
* `Operation`, `Operation.run`, `runAll`: what can happen around contexts and compilers.
* `keepsAt_run`: one operation keeps it; `keeps_runAll`: every history does.
-/

namespace Facade

open Execution Run

/-- A world that has grown out of another one, in which compilers have resolved what they had, and
contexts have been given what they had been given. -/
structure World.Keeps (w w' : World) : Prop extends w.Grows w' where
  resolvers : ∀ id, Resolver.Keeps (w.compiler id).resolver (w'.compiler id).resolver
  contextOf : ∀ id, (w'.compiler id).context = (w.compiler id).context
  references : ∀ c k m, (w.context c).references.get? k = some m →
    (w'.context c).references.get? k = some m
  size : w'.contexts.size = w.contexts.size

namespace World.Keeps

variable {w w' w'' : World}

protected theorem refl (w : World) : w.Keeps w :=
  ⟨.refl w, fun _ => .refl _, fun _ => rfl, fun _ _ _ h => h, rfl⟩

protected theorem trans (h : w.Keeps w') (h' : w'.Keeps w'') : w.Keeps w'' where
  toGrows := h.toGrows.trans h'.toGrows
  resolvers id := .trans _ _ _ (h.resolvers id) (h'.resolvers id)
  contextOf id := (h'.contextOf id).trans (h.contextOf id)
  references c k m hm := h'.references c k m (h.references c k m hm)
  size := h'.size.trans h.size

/-- Contexts and compilers have not changed. -/
theorem of_evolves (h : w.Evolves w') : w.Keeps w' := by
  obtain ⟨hg, hc, hk⟩ := h
  have hcompiler : w'.compiler = w.compiler := by
    funext id
    simp only [World.compiler, hk]
  have hcontext : w'.context = w.context := by
    funext c
    simp only [World.context, hc]
  refine ⟨hg, fun id => ?_, fun id => by rw [hcompiler], fun c k m h => by rwa [hcontext],
    by rw [hc]⟩
  rw [hcompiler]
  exact .refl _

end World.Keeps

theorem World.context_setContext (w : World) (c d : Nat) (x : Context) :
    (w.setContext c x).context d = if c = d ∧ c < w.contexts.size then x else w.context d := by
  unfold World.setContext World.context
  dsimp only
  rw [Array.getElem?_setIfInBounds]
  by_cases hd : c = d
  · subst hd
    by_cases hc : c < w.contexts.size <;> simp [hc]
  · simp [hd]

theorem World.compiler_setCompiler (w : World) (id id' : String) (x : Compiler) :
    (w.setCompiler id x).compiler id' = if id = id' then x else w.compiler id' := by
  unfold World.setCompiler World.compiler
  dsimp only
  rw [Table.get?_set]
  split <;> rfl

/-- The first module of a name stays. -/
theorem get?_foldl_setDefault_of_some {t : Table String Nat} {k : String} {m : Nat}
    (l : List (String × Nat)) (h : t.get? k = some m) :
    (l.foldl (fun t e => t.setDefault e.1 e.2) t).get? k = some m := by
  induction l generalizing t with
  | nil => exact h
  | cons e l ih => exact ih (Resolver.get?_setDefault_of_some h)

/-- A context under a number gives way to one that was given as much. -/
theorem World.Keeps.setContext {w : World} {c : Nat} {x : Context}
    (h : ∀ k m, (w.context c).references.get? k = some m → x.references.get? k = some m) :
    w.Keeps (w.setContext c x) where
  toGrows := .of_objects_eq rfl rfl rfl
  resolvers _ := .refl _
  contextOf _ := rfl
  references d k m hm := by
    rw [World.context_setContext]
    split
    · rename_i hd
      obtain ⟨rfl, -⟩ := hd
      exact h k m hm
    · exact hm
  size := by simp [World.setContext]

/-- A compiler under a name gives way to one that has resolved as much. -/
theorem World.Keeps.setCompiler {w : World} {id : String} {x : Compiler}
    (hr : Resolver.Keeps (w.compiler id).resolver x.resolver)
    (hc : x.context = (w.compiler id).context) : w.Keeps (w.setCompiler id x) where
  toGrows := .of_objects_eq rfl rfl rfl
  resolvers id' := by
    rw [World.compiler_setCompiler]
    split
    · rename_i h
      exact h ▸ hr
    · exact .refl _
  contextOf id' := by
    rw [World.compiler_setCompiler]
    split
    · rename_i h
      exact h ▸ hc
    · rfl
  references _ _ _ h := h
  size := rfl

namespace Run

variable {α β : Type} {w : World}

/-- An operation keeps what has been resolved and referenced. -/
def KeepsAt (x : Run α) (w : World) : Prop := w.Keeps (x.outcome w).2

theorem GrowsAt.keepsAt {x : Run α} (h : x.GrowsAt w) : x.KeepsAt w := .of_evolves h

theorem keepsAt_pure (a : α) : (pure a : Run α).KeepsAt w := .refl w

theorem keepsAt_throw (e : Failure) : (throw e : Run α).KeepsAt w := .refl w

theorem keepsAt_log (r : LogRecord) : (log r).KeepsAt w := (growsAt_log r).keepsAt

theorem keepsAt_orRefuse (x : Except Refusal α) : (orRefuse x).KeepsAt w :=
  (growsAt_orRefuse x).keepsAt

theorem keepsAt_get_bind {f : World → Run β} (h : (f w).KeepsAt w) :
    ((get : Run World) >>= f).KeepsAt w := h

theorem KeepsAt.bind {x : Run α} {f : α → Run β} (h : x.KeepsAt w) (hf : ∀ a w', (f a).KeepsAt w') :
    (x >>= f).KeepsAt w := by
  unfold KeepsAt at h ⊢
  rw [outcome_bind]
  rcases hx : x.outcome w with ⟨r, w₁⟩
  rw [hx] at h
  cases r with
  | error e => exact h
  | ok a => exact h.trans (hf a w₁)

theorem keepsAt_discard {x : Run α} (h : x.KeepsAt w) : (discard x).KeepsAt w := by
  show (Functor.map _ x).KeepsAt w
  rw [map_eq_pure_bind]
  exact h.bind fun _ _ => keepsAt_pure _

theorem keepsAt_tryCatch {x : Run α} {h : Failure → Run α} (hx : x.KeepsAt w)
    (hh : ∀ e w', (h e).KeepsAt w') : (tryCatch x h).KeepsAt w := by
  unfold KeepsAt at hx ⊢
  rw [outcome_tryCatch]
  rcases ho : x.outcome w with ⟨r, w₁⟩
  rw [ho] at hx
  cases r with
  | ok a => exact hx
  | error e => exact hx.trans (hh e w₁)

theorem keepsAt_forM {f : α → Run PUnit} (l : List α) (h : ∀ a w, (f a).KeepsAt w) :
    ∀ w, (l.forM f).KeepsAt w := by
  induction l with
  | nil => exact fun w => keepsAt_pure PUnit.unit
  | cons a l ih => exact fun w => (h a w).bind fun _ w' => ih w'

theorem keepsAt_forIn {f : α → PUnit → Run (ForInStep PUnit)} (l : List α)
    (h : ∀ a b w, (f a b).KeepsAt w) : ∀ b w, (forIn l b f).KeepsAt w := by
  induction l with
  | nil => exact fun b w => keepsAt_pure b
  | cons a l ih =>
    intro b w
    rw [List.forIn_cons]
    refine (h a b w).bind fun s w' => ?_
    split
    · exact keepsAt_pure _
    · exact ih _ w'

end Run

/-! ## What compilers do -/

namespace Compiler

variable {w : World}

theorem keepsAt_resolving (id : String) {x : World → Resolver.Resolving Unit}
    (h : ∀ w r, Logged.KeepsAt Resolver.Keeps (x w) r) : (resolving id x).KeepsAt w := by
  unfold resolving KeepsAt
  rw [outcome_get_bind, outcome_bind, outcome_within, after_ok, outcome_bind, outcome_modify,
    after_ok]
  have hleft {r : Except Refusal Unit} {v : World} : ((orRefuse r).outcome v).2 = v := by
    cases r <;> rfl
  rw [hleft]
  have hlog : w.Keeps { w with records := w.records ++ ((x w).outcome (w.compiler id).resolver).2.2 } :=
    .of_evolves (.of_objects_eq rfl rfl rfl rfl rfl)
  exact hlog.trans (.setCompiler (h w _ []) rfl)

theorem keepsAt_addReference (id : String) (target : Value) : (addReference id target).KeepsAt w := by
  unfold addReference
  split
  · exact keepsAt_resolving id fun _ r => Resolver.keepsAt_addModule _ r
  · exact keepsAt_resolving id fun _ r => Resolver.keepsAt_addType _ r

theorem keepsAt_addReferences (id : String) (as : List Value) : (addReferences id as).KeepsAt w :=
  keepsAt_resolving id fun _ r => Resolver.keepsAt_addTypes as r

theorem keepsAt_rename (id name : String) : (rename id name).KeepsAt w :=
  .setCompiler (.refl _) rfl

theorem keepsAt_registerModule (c m : Nat) : (registerModule c m).KeepsAt w := by
  unfold registerModule
  refine keepsAt_get_bind ?_
  exact KeepsAt.bind (World.Keeps.setContext fun _ _ h => h) fun _ _ => keepsAt_log _

theorem keepsAt_setReferences (c : Nat) (ms : List Nat) : (setReferences c ms).KeepsAt w :=
  .setContext fun _ _ h => get?_foldl_setDefault_of_some _ h

theorem keepsAt_nextName (c : Compiler) : (nextName c).KeepsAt w := by
  unfold nextName
  split
  · exact keepsAt_pure _
  · exact keepsAt_get_bind ((growsAt_modify rfl rfl rfl rfl rfl).keepsAt.bind fun _ _ =>
      keepsAt_pure _)

theorem keepsAt_accept (c : Compiler) (name : String) (p : Program) :
    (accept c name p).KeepsAt w := by
  unfold accept
  split
  refine (keepsAt_forIn _ (fun d b w => ?_) _ _).bind fun _ w' => ?_
  · split
    · exact (keepsAt_log _).bind fun _ _ => keepsAt_pure _
    · exact keepsAt_pure _
  · dsimp only
    split
    · exact keepsAt_pure _
    · exact (keepsAt_log _).bind fun _ _ => keepsAt_throw _

theorem keepsAt_writeFile (c : Compiler) (path text : String) : (writeFile c path text).KeepsAt w := by
  unfold writeFile makeDirectory
  refine KeepsAt.bind (keepsAt_get_bind ?_) fun _ _ =>
    (growsAt_modify rfl rfl rfl rfl rfl).keepsAt
  dsimp only
  refine GrowsAt.keepsAt (growsAt_ite (fun _ => growsAt_fault_bind _ _) fun _ => ?_)
  exact growsAt_ite (fun _ => growsAt_fault _) fun _ => growsAt_pure _

theorem keepsAt_load (c : Compiler) (m : Nat) (text : String) (body : List Syntax.Stmt) :
    (load c m text body).KeepsAt w := by
  unfold load
  refine (keepsAt_setReferences _ _).bind fun _ w₁ => ?_
  refine (keepsAt_tryCatch ?_ fun e w₂ => ?_).bind fun _ w₃ => keepsAt_registerModule _ _
  · exact GrowsAt.keepsAt ((growsAt_runBlock (fun fr s w => (growing depth).exec fr s w) body _ _).bind
      fun _ _ => growsAt_pure _)
  · split
    · exact keepsAt_throw _
    · exact keepsAt_get_bind (keepsAt_throw _)

theorem keepsAt_build (c : Compiler) (name : String) (path : Option String) (p : Program)
    (seeds : List (String × Value)) : (build c name path p seeds).KeepsAt w := by
  unfold build
  refine (keepsAt_accept c name p).bind fun r w₁ => ?_
  have main (w : World) : (do
      let module ← Run.allocate (.module
        { name := name
          globals := initialGlobals c name path seeds
          origin := some (path.getD ("<typeforge:" ++ name ++ ">"))
          context := some c.context
          builtins := some (builtinsOf (← get)) })
      load c module p.text r.2
      return { name := name, module := module, text := p.text, context := c.context, path := path,
               diagnostics := r.1 } : Run GeneratedModule).KeepsAt w :=
    keepsAt_get_bind ((growsAt_allocate _).keepsAt.bind fun _ _ =>
      (keepsAt_load _ _ _ _).bind fun _ _ => keepsAt_pure _)
  dsimp only
  split
  · exact (keepsAt_writeFile _ _ _).bind fun _ w₂ => main w₂
  · exact main w₁

theorem keepsAt_stamp (g : GeneratedModule) : (stamp g).KeepsAt w := by
  unfold stamp
  refine keepsAt_get_bind ((growsAt_lift _).keepsAt.bind fun cs w' => ?_)
  exact KeepsAt.bind (keepsAt_forIn cs (fun c _ w =>
    (growsAt_setMember _ _ _).keepsAt.bind fun _ _ => keepsAt_pure _) _ _) fun _ _ => keepsAt_pure _

/-- Compiling keeps what has been resolved and referenced, whether it succeeds or fails. -/
theorem keepsAt_compile (id : String) (p : Program) (seeds : List (String × Value)) :
    (compile id p seeds).KeepsAt w := by
  unfold compile
  refine keepsAt_get_bind ((keepsAt_nextName _).bind fun name w₁ => ?_)
  refine KeepsAt.bind (keepsAt_orRefuse _) fun _ w₂ => ?_
  dsimp only
  refine KeepsAt.bind (keepsAt_tryCatch (keepsAt_build _ _ _ _ _) fun e w₃ =>
    (keepsAt_log _).bind fun _ _ => keepsAt_throw _) fun g w₄ => ?_
  refine (keepsAt_log _).bind fun _ w₅ => (keepsAt_stamp g).bind fun _ w₆ => ?_
  exact keepsAt_get_bind ((keepsAt_log _).bind fun _ _ => keepsAt_pure _)

end Compiler

/-! ## Histories -/

/-- What can happen around contexts and compilers. -/
inductive Operation where
  /-- A context takes a module in. -/
  | register (context module : Nat)
  /-- A context is given modules as references. -/
  | refer (context : Nat) (modules : List Nat)
  /-- A compiler references a module or a type. -/
  | add (compiler : String) (target : Value)
  /-- A compiler references whatever annotations need. -/
  | addAll (compiler : String) (annotations : List Value)
  /-- The next modules of a compiler get a name. -/
  | rename (compiler name : String)
  /-- A compiler compiles a program. -/
  | compile (compiler : String) (program : Program) (seeds : List (String × Value))
  /-- A program runs. -/
  | call (f : Value) (args : List Value) (keywords : Keywords)

/-- Does what an operation says. -/
def Operation.run : Operation → Run Unit
  | .register c m => registerModule c m
  | .refer c ms => setReferences c ms
  | .add id v => Compiler.addReference id v
  | .addAll id as => Compiler.addReferences id as
  | .rename id n => Compiler.rename id n
  | .compile id p seeds => discard (Compiler.compile id p seeds)
  | .call f args kw => discard (Execution.call depth f args kw)

/-- The world after a history. What fails leaves the changes that it made. -/
def runAll (os : List Operation) (w : World) : World :=
  os.foldl (fun w o => (o.run.outcome w).2) w

/-- One operation keeps what has been resolved and referenced. -/
theorem keepsAt_run (o : Operation) (w : World) : o.run.KeepsAt w := by
  cases o with
  | register c m => exact Compiler.keepsAt_registerModule c m
  | refer c ms => exact Compiler.keepsAt_setReferences c ms
  | add id v => exact Compiler.keepsAt_addReference id v
  | addAll id as => exact Compiler.keepsAt_addReferences id as
  | rename id n => exact Compiler.keepsAt_rename id n
  | compile id p seeds => exact keepsAt_discard (Compiler.keepsAt_compile id p seeds)
  | call f args kw => exact keepsAt_discard ((growing depth).call f args kw w).keepsAt

/-- **What has been resolved and referenced stays so,** whatever happens. -/
theorem keeps_runAll (os : List Operation) (w : World) : w.Keeps (runAll os w) := by
  induction os generalizing w with
  | nil => exact .refl w
  | cons o os ih => exact World.Keeps.trans (keepsAt_run o w) (ih _)

end Facade
