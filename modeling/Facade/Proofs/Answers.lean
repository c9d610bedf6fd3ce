import Facade.Proofs.Registrations
import Facade.Proofs.ResolverHistories

/-!
# What a context answers with

A context answers for a name with the last module of its own that it has taken in under the name, and
without one with the first that it was given as a reference. Which modules these are follows from the
operations of its history.

* `World.RefersTo`: what giving a context references does; `refersTo_compile`: a compilation gives its
  context what the compiler has resolved, however it ends.
* `Operation.Enters`, `Operation.Refers`: an operation takes a module in, or gives it as a reference.
* `modules_of_run`, `references_of_run`: what one operation does to a context.
* `HasName`: a history that leaves a name to one module; `resolve?_runAll`: the context answers with no
  other.
* `resolvesModules_runAll`: what compilers resolve exists.
-/

namespace Facade

open Execution Run

variable {w w' w'' : World} {c m : Nat} {n : String}

/-! ## What compilations refer to -/

/-- A world in which a context may have been given modules as references, under the names that they have
there, or that they come to have. -/
structure World.RefersTo (c : Nat) (ms : List Nat) (w w' : World) : Prop where
  compilers : w'.compilers = w.compilers
  references : ∀ d n j, (w'.context d).references.get? n = some j →
    (w.context d).references.get? n = some j ∨
      (d = c ∧ j ∈ ms ∧ (w.module? j = none ∨ w.moduleName j = n))

/-- Worlds with the same compilers and references. -/
structure World.SameReferences (w w' : World) : Prop where
  compilers : w'.compilers = w.compilers
  references : ∀ d, (w'.context d).references = (w.context d).references

theorem World.SameReferences.of_contexts (hc : w'.contexts = w.contexts)
    (hk : w'.compilers = w.compilers) : w.SameReferences w' :=
  ⟨hk, fun d => by rw [World.context, World.context, hc]⟩

theorem World.SameReferences.trans (h : w.SameReferences w') (h' : w'.SameReferences w'') :
    w.SameReferences w'' :=
  ⟨h'.compilers.trans h.compilers, fun d => (h'.references d).trans (h.references d)⟩

theorem World.SameReferences.refersTo (h : w.SameReferences w') (ms : List Nat) :
    w.RefersTo c ms w' :=
  ⟨h.compilers, fun d _ _ hj => .inl (h.references d ▸ hj)⟩

theorem World.RefersTo.before {ms : List Nat} (h : World.RefersTo c ms w w')
    (h' : w'.SameReferences w'') : World.RefersTo c ms w w'' :=
  ⟨h'.compilers.trans h.compilers, fun d n j hj => h.references d n j (h'.references d ▸ hj)⟩

/-- Modules that are there keep their names while nothing runs. -/
theorem World.RefersTo.after {ms : List Nat} (hs : w.SameReferences w')
    (hm : ∀ j i, w.module? j = some i → w'.module? j = some i) (h : World.RefersTo c ms w' w'') :
    World.RefersTo c ms w w'' := by
  refine ⟨h.compilers.trans hs.compilers, fun d n j hj => ?_⟩
  rw [← hs.references d]
  refine (h.references d n j hj).imp_right fun ⟨hd, hmem, hname⟩ => ⟨hd, hmem, ?_⟩
  cases hi : w.module? j with
  | none => exact .inl rfl
  | some i =>
    have hj := (hm j i hi).trans hi.symm
    exact .inr (moduleName_of_module? hj ▸ hname.resolve_left (by rw [hj, hi]; simp))

namespace Compiler

theorem refersTo_setReferences (c : Nat) (ms : List Nat) :
    (setReferences c ms).Ensures w fun r w' => r = .ok ⟨⟩ ∧ World.RefersTo c ms w w' := by
  refine ⟨rfl, rfl, fun d n j h => ?_⟩
  have hj : ((w.setContext c ((w.context c).addReferences
    (ms.map fun m => (w.moduleName m, m)))).context d).references.get? n = some j := h
  rw [World.context_setContext] at hj
  split at hj
  · rename_i hd
    obtain ⟨rfl, -⟩ := hd
    unfold Context.addReferences at hj
    rw [get?_foldl_setDefault, Option.or_eq_some_iff] at hj
    refine hj.imp_right fun hj => ?_
    obtain ⟨e, he, rfl⟩ := Option.map_eq_some_iff.mp hj.2
    obtain ⟨k, hk, rfl⟩ := List.mem_map.mp (List.mem_of_find?_eq_some he)
    exact ⟨rfl, hk, .inr (by simpa using List.find?_some he)⟩
  · exact .inl hj

theorem refersTo_load (c : Compiler) (text : String) (body : List Syntax.Stmt) :
    (load c m text body).Ensures w fun _ w' =>
      World.RefersTo c.context c.resolver.modules.values w w' := by
  unfold load
  refine (refersTo_setReferences _ _).bind (fun _ w₁ h₁ => ?_) fun _ _ h => h.2
  have hrun : (runModule m body).GrowsAt w₁ :=
    (growsAt_runBlock (fun fr s w => (growing depth).exec fr s w) body _ _).bind
      fun _ _ => growsAt_pure _
  refine Ensures.bind (P := fun _ w' => w₁.SameReferences w')
    (Ensures.tryCatch (P := fun _ w' => w₁.SameReferences w')
      (.of_contexts hrun.contexts hrun.compilers) (fun _ _ h => h) fun e w₂ h₂ => ?_)
    (fun _ w₃ h₃ => ?_) fun _ _ h₃ => h₁.2.before h₃
  · split
    · exact h₂
    · exact h₂
  · refine (h₁.2.before h₃).before ⟨rfl, fun d => ?_⟩
    show ((w₃.setContext c.context _).context d).references = _
    rw [World.context_setContext]
    split
    · rename_i hd
      rw [← hd.1, Context.register]
    · rfl

theorem refersTo_build (c : Compiler) (name : String) (path : Option String) (p : Program)
    (seeds : List (String × Value)) : (build c name path p seeds).Ensures w fun _ w' =>
      World.RefersTo c.context c.resolver.modules.values w w' := by
  have same {w w' : World} (ho : w'.objects = w.objects) :
      ∀ j i, w.module? j = some i → w'.module? j = some i := by
    intro j i hi
    rwa [World.module?, ho]
  unfold build
  refine (ensures_accept c name p).bind (fun r w₁ h₁ => ?_)
    fun e w₁ h₁ => (World.SameReferences.of_contexts h₁.contexts h₁.compilers).refersTo _
  have main (w₂ : World) : (do
      let module ← Run.allocate (.module
        { name := name
          globals := initialGlobals c name path seeds
          origin := some (path.getD ("<typeforge:" ++ name ++ ">"))
          context := some c.context
          builtins := some (builtinsOf (← get)) })
      load c module p.text r.2
      return { name := name, module := module, text := p.text, context := c.context, path := path,
               diagnostics := r.1 } : Run GeneratedModule).Ensures w₂ fun _ w' =>
        World.RefersTo c.context c.resolver.modules.values w₂ w' := by
    refine ensures_get_bind (Ensures.bind (P := fun r w₃ => w₂.Extends w₃ ∧ w₂.SameReferences w₃ ∧
        ∀ e, r ≠ .error e) ⟨.push w₂ _, .of_contexts rfl rfl, by simp⟩ (fun m w₃ h₃ => ?_)
      fun e _ h₃ => absurd rfl (h₃.2.2 e))
    refine (refersTo_load c p.text r.2).bind (fun _ w₄ h₄ => ?_) fun e w₄ h₄ => ?_
    · exact h₄.after h₃.2.1 fun j i => h₃.1.module?
    · exact h₄.after h₃.2.1 fun j i => h₃.1.module?
  have hw₁ : w.SameReferences w₁ := .of_contexts h₁.contexts h₁.compilers
  dsimp only
  cases path with
  | none => exact (main w₁).mono fun _ _ h => h.after hw₁ (same h₁.objects)
  | some f =>
    refine (ensures_writeFile c f p.text).bind (fun _ w₂ h₂ => ?_) fun e w₂ h₂ => ?_
    · exact (main w₂).mono fun _ _ h => h.after
        (hw₁.trans (.of_contexts h₂.1.2.1 h₂.1.2.2)) (same (h₂.1.1.trans h₁.objects))
    · exact (hw₁.trans (.of_contexts h₂.1.2.1 h₂.1.2.2)).refersTo _

/-- **A compilation gives its context what the compiler has resolved,** and nothing else, however it
ends. -/
theorem refersTo_compile (id : String) (p : Program) (seeds : List (String × Value)) :
    (compile id p seeds).Ensures w fun _ w' =>
      World.RefersTo (w.compiler id).context (w.compiler id).resolver.modules.values w w' := by
  unfold compile
  refine ensures_get_bind ((ensures_nextName _).bind (fun name w₁ h₁ => ?_) fun e w₁ h₁ =>
    (World.SameReferences.of_contexts h₁.contexts h₁.compilers).refersTo _)
  have hw₁ : w.SameReferences w₁ := .of_contexts h₁.contexts h₁.compilers
  refine Ensures.bind (P := fun _ w' => w' = w₁) ?_ (fun _ w₂ h₂ => ?_)
    fun e w₂ h₂ => h₂ ▸ hw₁.refersTo _
  · cases checkModuleName name <;> exact rfl
  obtain rfl := h₂
  dsimp only
  have record {w : World} (level message unit : String) (extra : List (String × String)) :
      (record level message unit extra).Ensures w fun _ w' => w.SameReferences w' :=
    .of_contexts rfl rfl
  refine Ensures.bind (P := fun _ w' => World.RefersTo (w.compiler id).context
    (w.compiler id).resolver.modules.values w w')
    (Ensures.tryCatch ((refersTo_build _ name _ p seeds).mono fun _ _ h =>
      h.after hw₁ fun j i hi => by rwa [World.module?, h₁.objects])
        (fun _ _ h => h) fun e w₃ h₃ => ?_) (fun g w₃ h₃ => ?_) fun e w₃ h₃ => h₃
  · exact (record _ _ _ _).bind (fun _ w₄ h₄ => h₃.before h₄) fun e' w₄ h₄ => h₃.before h₄
  refine (record _ _ _ _).bind (fun _ w₄ h₄ => ?_) fun e w₄ h₄ => h₃.before h₄
  refine (ensures_stamp g).bind (fun _ w₅ h₅ => ?_) fun e w₅ h₅ =>
    (h₃.before h₄).before (.of_contexts h₅.1.contexts h₅.1.compilers)
  have hw₅ := (h₃.before h₄).before (.of_contexts h₅.1.contexts h₅.1.compilers)
  exact ensures_get_bind ((record _ _ _ _).bind (fun _ w₆ h₆ => hw₅.before h₆)
    fun e w₆ h₆ => hw₅.before h₆)

end Compiler

/-! ## What operations do to a context -/

/-- An operation takes a module into a context under a name. -/
inductive Operation.Enters (c : Nat) (n : String) (m : Nat) (w : World) : Operation → Prop
  | register (h : w.moduleName m = n) : Enters c n m w (.register c m)
  | compile {id : String} {p : Program} {seeds : List (String × Value)}
    (hc : (w.compiler id).context = c)
    (h : World.Registers c n m w ((Compiler.compile id p seeds).outcome w).2) :
    Enters c n m w (.compile id p seeds)

/-- An operation gives a context a module as a reference under a name. A module that is not there yet may
come to have any name. -/
inductive Operation.Refers (c : Nat) (n : String) (m : Nat) (w : World) : Operation → Prop
  | refer {ms : List Nat} (hm : m ∈ ms) (h : w.module? m = none ∨ w.moduleName m = n) :
    Refers c n m w (.refer c ms)
  | compile {id : String} {p : Program} {seeds : List (String × Value)}
    (hc : (w.compiler id).context = c) (hm : m ∈ (w.compiler id).resolver.modules.values)
    (h : w.module? m = none ∨ w.moduleName m = n) : Refers c n m w (.compile id p seeds)

/-- What an operation loads, it takes in under the name that the module gives itself. -/
theorem Operation.enters_of_loaded? {o : Operation} {e : GeneratedModule × String}
    (h : o.loaded? c w = some e) : o.Enters c e.2 e.1.module w := by
  unfold Operation.loaded? at h
  split at h
  · rename_i id p seeds
    split at h
    · rename_i hc
      split at h
      · rename_i g w' hx
        obtain rfl := Option.some.inj h
        exact .compile hc (by rw [hx, ← hc]; exact (Compiler.ensures_compile id p seeds).of_eq hx)
      · cases h
    · cases h
  · cases h

/-- **What a context has of its own after an operation** it had before, or it has been taken in. -/
theorem modules_of_run (o : Operation) (hc : c < w.contexts.size) (n : String) :
    ((o.run.outcome w).2.context c).modules.get? n = (w.context c).modules.get? n ∨
      ∃ j, o.Enters c n j w ∧ ((o.run.outcome w).2.context c).modules.get? n = some j := by
  have same {w' : World} (hs : w.SameModules w') {P : Prop} :
      (w'.context c).modules.get? n = (w.context c).modules.get? n ∨ P := .inl (by rw [hs.modules c])
  have registered {w' : World} {d i : Nat} {k : String} (hr : World.Registers d k i w w') :
      (w'.context c).modules.get? n = (w.context c).modules.get? n ∨
        (d = c ∧ k = n ∧ (w'.context c).modules.get? n = some i) := by
    rw [hr.modules c hc]
    split
    · rename_i hd
      subst hd
      rw [Table.get?_set]
      split
      · rename_i hk
        exact .inr ⟨rfl, hk, rfl⟩
      · exact .inl rfl
    · exact .inl rfl
  cases o with
  | register d i =>
    have hr : World.Registers d (w.moduleName i) i w ((registerModule d i).outcome w).2 :=
      (registers_register w d i _).before rfl
    refine (registered hr).imp_right ?_
    rintro ⟨rfl, hn, hget⟩
    exact ⟨i, .register hn, hget⟩
  | refer d ms => exact same (Compiler.ensures_setReferences d ms).2
  | add id v =>
    refine same ?_
    show w.SameModules ((Compiler.addReference id v).outcome w).2
    unfold Compiler.addReference
    split <;> exact .of_contexts (contexts_resolving id _ w)
  | addAll id as => exact same (.of_contexts (contexts_resolving id _ w))
  | rename id k => exact same (.of_contexts rfl)
  | call f args kw =>
    show (((discard (Execution.call depth f args kw)).outcome w).2.context c).modules.get? n = _ ∨ _
    rw [outcome_discard]
    exact same (.of_contexts ((growing depth).call f args kw w).contexts)
  | compile id p seeds =>
    have hx : Compiler.Compiles (w.compiler id).context w
      ((Compiler.compile id p seeds).outcome w).1 ((Compiler.compile id p seeds).outcome w).2 :=
      Compiler.ensures_compile id p seeds
    have hrun : ((Operation.compile id p seeds).run.outcome w).2 =
        ((Compiler.compile id p seeds).outcome w).2 := outcome_discard _ w
    obtain hs | ⟨k, i, hr⟩ : w.SameModules ((Compiler.compile id p seeds).outcome w).2 ∨
        ∃ k i, World.Registers (w.compiler id).context k i w
          ((Compiler.compile id p seeds).outcome w).2 := by
      unfold Compiler.Compiles at hx
      split at hx
      · exact .inr ⟨_, _, hx⟩
      · exact hx.2.2
    · rw [hrun]
      exact same hs
    · rw [hrun]
      refine (registered hr).imp_right ?_
      rintro ⟨hd, rfl, hget⟩
      exact ⟨i, .compile hd (hd ▸ hr), hget⟩

/-- What an operation takes in, the context has. -/
theorem modules_of_enters {o : Operation} (hc : c < w.contexts.size) (h : o.Enters c n m w) :
    ((o.run.outcome w).2.context c).modules.get? n = some m := by
  have registered {w' : World} (hr : World.Registers c n m w w') :
      (w'.context c).modules.get? n = some m := by
    rw [hr.modules c hc, if_pos rfl, Table.get?_set_self]
  cases h with
  | register hn =>
    subst hn
    exact registered ((registers_register w c m _).before rfl)
  | compile hd hr =>
    show (((discard (Compiler.compile _ _ _)).outcome w).2.context c).modules.get? n = _
    rw [outcome_discard]
    exact registered hr

/-- **What a context was given as a reference after an operation** it was given before, or then. -/
theorem references_of_run (o : Operation) {j : Nat}
    (h : ((o.run.outcome w).2.context c).references.get? n = some j) :
    (w.context c).references.get? n = some j ∨ o.Refers c n j w := by
  have same {w' : World} (hs : ∀ d, (w'.context d).references = (w.context d).references)
      (h : (w'.context c).references.get? n = some j) {P : Prop} :
      (w.context c).references.get? n = some j ∨ P := .inl (hs c ▸ h)
  have untouched {w' : World} (hs : w'.contexts = w.contexts) (d : Nat) :
      (w'.context d).references = (w.context d).references := by rw [World.context, World.context, hs]
  cases o with
  | register d i =>
    refine same (fun e => ?_) h
    show ((w.setContext d _).context e).references = _
    rw [World.context_setContext]
    split
    · rename_i hd
      rw [← hd.1, Context.register]
    · rfl
  | refer d ms =>
    refine ((Compiler.refersTo_setReferences d ms).2.references c n j h).imp_right ?_
    rintro ⟨rfl, hm, hn⟩
    exact .refer hm hn
  | add id v =>
    refine same (untouched ?_) h
    show ((Compiler.addReference id v).outcome w).2.contexts = _
    unfold Compiler.addReference
    split <;> exact contexts_resolving id _ w
  | addAll id as => exact same (untouched (contexts_resolving id _ w)) h
  | rename id k => exact same (fun _ => rfl) h
  | call f args kw =>
    have h : (((discard (Execution.call depth f args kw)).outcome w).2.context c).references.get? n =
      some j := h
    rw [outcome_discard] at h
    exact same (untouched ((growing depth).call f args kw w).contexts) h
  | compile id p seeds =>
    have h : (((discard (Compiler.compile id p seeds)).outcome w).2.context c).references.get? n =
      some j := h
    rw [outcome_discard] at h
    have hx : World.RefersTo _ _ w ((Compiler.compile id p seeds).outcome w).2 :=
      Compiler.refersTo_compile id p seeds
    refine (hx.references c n j h).imp_right ?_
    rintro ⟨hd, hm, hn⟩
    exact .compile hd.symm hm hn

/-! ## What histories do to a context -/

/-- All modules that a history gives in a certain way are one and the same. -/
def Only (gives : Nat → World → Operation → Prop) (m : Nat) : List Operation → World → Prop
  | [], _ => True
  | o :: os, w => (∀ j, gives j w o → j = m) ∧ Only gives m os (o.run.outcome w).2

/-- **A history leaves a name to one module in a context:** it takes in and refers to no other module
under the name, or the module is the last one that it takes in. -/
def HasName (c : Nat) (n : String) (m : Nat) (os : List Operation) (w : World) : Prop :=
  Only (fun j w o => o.Enters c n j w ∨ o.Refers c n j w) m os w ∨
    ∃ before o after, os = before ++ o :: after ∧ o.Enters c n m (runAll before w) ∧
      Only (fun j w o => o.Enters c n j w) m after (runAll (before ++ [o]) w)

theorem runAll_append (os ps : List Operation) (w : World) :
    runAll (os ++ ps) w = runAll ps (runAll os w) := List.foldl_append ..

theorem size_run (o : Operation) : (o.run.outcome w).2.contexts.size = w.contexts.size :=
  (keepsAt_run o w).size

/-- If nothing else is given, the context has nothing else. -/
theorem resolve?_of_only (os : List Operation) (hc : c < w.contexts.size)
    (hmodules : ∀ j, (w.context c).modules.get? n = some j → j = m)
    (hreferences : ∀ j, (w.context c).references.get? n = some j → j = m)
    (h : Only (fun j w o => o.Enters c n j w ∨ o.Refers c n j w) m os w) {j : Nat}
    (hj : ((runAll os w).context c).resolve? n = some j) : j = m := by
  induction os generalizing w with
  | nil =>
    have hj : ((w.context c).modules.get? n <|> (w.context c).references.get? n) = some j := hj
    cases hi : (w.context c).modules.get? n with
    | some i =>
      rw [hi] at hj
      exact hmodules j (hi.trans hj)
    | none =>
      rw [hi] at hj
      exact hreferences j hj
  | cons o os ih =>
    refine ih ((size_run o).symm ▸ hc) (fun i hi => ?_) (fun i hi => ?_) h.2 hj
    · rcases modules_of_run o hc n with hold | ⟨k, hk, hget⟩
      · exact hmodules i (hold ▸ hi)
      · rw [hget] at hi
        exact Option.some.inj hi ▸ h.1 k (.inl hk)
    · exact (references_of_run o hi).elim (hreferences i) fun hi => h.1 i (.inr hi)

/-- What has been taken in stays if nothing else is taken in. -/
theorem modules_of_only (os : List Operation) (hc : c < w.contexts.size)
    (hw : (w.context c).modules.get? n = some m)
    (h : Only (fun j w o => o.Enters c n j w) m os w) :
    ((runAll os w).context c).modules.get? n = some m := by
  induction os generalizing w with
  | nil => exact hw
  | cons o os ih =>
    refine ih ((size_run o).symm ▸ hc) ?_ h.2
    rcases modules_of_run o hc n with hold | ⟨k, hk, hget⟩
    · exact hold.trans hw
    · rw [hget, h.1 k hk]

/-- **Where a history leaves a name to a module, the context answers with no other one.** -/
theorem resolve?_runAll (os : List Operation) (hc : c < w.contexts.size)
    (hmodules : (w.context c).modules.get? n = none)
    (hreferences : (w.context c).references.get? n = none) (h : HasName c n m os w) {j : Nat}
    (hj : ((runAll os w).context c).resolve? n = some j) : j = m := by
  rcases h with hall | ⟨before, o, after, rfl, henters, hafter⟩
  · exact resolve?_of_only os hc (fun i hi => by rw [hmodules] at hi; cases hi)
      (fun i hi => by rw [hreferences] at hi; cases hi) hall hj
  · have hbefore : c < (runAll before w).contexts.size := (keeps_runAll before w).size.symm ▸ hc
    have hall : ((runAll (before ++ o :: after) w).context c).modules.get? n = some m := by
      rw [List.append_cons, runAll_append]
      refine modules_of_only after ((keeps_runAll _ w).size.symm ▸ hc) ?_ hafter
      rw [runAll_append]
      exact modules_of_enters hbefore henters
    unfold Context.resolve? at hj
    rw [hall] at hj
    exact (Option.some.inj hj).symm

/-! ## What compilers resolve -/

theorem resolvesModules_of_evolves {id : String} (h : ResolvesModules id w) (hg : w.Grows w')
    (hk : w'.compilers = w.compilers) : ResolvesModules id w' := by
  intro j hj
  have hcompiler : w'.compiler id = w.compiler id := by rw [World.compiler, World.compiler, hk]
  obtain ⟨i, hi⟩ := Option.isSome_iff_exists.mp (h j (hcompiler ▸ hj))
  obtain ⟨globals, hi'⟩ := hg.module? hi
  rw [hi']
  rfl

/-- What a resolver enters has a place, and so exists. -/
theorem exists_of_enters {r r' : Resolver} (he : Resolver.Enters w r r')
    (h : ∀ j ∈ r.modules.values, (w.module? j).isSome = true) :
    ∀ j ∈ r'.modules.values, (w.module? j).isSome = true := by
  obtain ⟨os, rfl⟩ := he
  induction os generalizing r with
  | nil => exact h
  | cons i os ih =>
    refine ih fun j hj => ?_
    unfold Resolver.enter at hj
    cases hl : Resolver.moduleLocation? w i with
    | none => rw [hl] at hj; exact h j hj
    | some l =>
      rw [hl] at hj
      obtain ⟨e, he, rfl⟩ := List.mem_map.mp hj
      rcases Table.mem_entries_setDefault he with he | rfl
      · exact h _ (List.mem_map_of_mem he)
      · by_contra hnone
        rw [Option.not_isSome_iff_eq_none] at hnone
        simp [Resolver.moduleLocation?, hnone] at hl

theorem resolvesModules_resolving {id id' : String} {x : World → Resolver.Resolving Unit}
    (hx : ∀ r, Logged.KeepsAt (Resolver.Enters w) (x w) r) (h : ResolvesModules id w) :
    ResolvesModules id ((Compiler.resolving id' x).outcome w).2 := by
  intro j hj
  have hobjects : ((Compiler.resolving id' x).outcome w).2.module? j = w.module? j := by
    rw [outcome_resolving]
    cases ((x w).outcome (w.compiler id').resolver).1 <;> rfl
  have hresolver : ((Compiler.resolving id' x).outcome w).2.compiler id = if id' = id then
      { w.compiler id' with resolver := ((x w).outcome (w.compiler id').resolver).2.1 }
    else w.compiler id := by
    rw [outcome_resolving]
    cases ((x w).outcome (w.compiler id').resolver).1 <;> exact World.compiler_setCompiler _ _ _ _
  rw [hobjects]
  rw [hresolver] at hj
  split at hj
  · rename_i hid
    subst hid
    exact exists_of_enters (hx (w.compiler id').resolver []) h j hj
  · exact h j hj

/-- **What compilers resolve exists,** after every operation. -/
theorem resolvesModules_run {id : String} (o : Operation) (h : ResolvesModules id w) :
    ResolvesModules id (o.run.outcome w).2 := by
  cases o with
  | register d i => exact resolvesModules_of_evolves h (keepsAt_run (.register d i) w).toGrows rfl
  | refer d ms => exact resolvesModules_of_evolves h (keepsAt_run (.refer d ms) w).toGrows rfl
  | add id' v =>
    show ResolvesModules id ((Compiler.addReference id' v).outcome w).2
    unfold Compiler.addReference
    split
    · exact resolvesModules_resolving (fun r => Resolver.enters_addModule _ r) h
    · exact resolvesModules_resolving (fun r => Resolver.enters_addType _ r) h
  | addAll id' as =>
    exact resolvesModules_resolving (fun r => Logged.keepsAt_forM Resolver.Enters.refl
      Resolver.Enters.trans _ (fun hint r => Resolver.enters_addType hint r) r) h
  | rename id' k =>
    intro j hj
    have hcompiler : ((Operation.rename id' k).run.outcome w).2.compiler id =
        if id' = id then { w.compiler id' with name := some k } else w.compiler id :=
      World.compiler_setCompiler w id' id _
    rw [hcompiler] at hj
    refine h j ?_
    split at hj
    · rename_i hid
      exact hid ▸ hj
    · exact hj
  | call f args kw =>
    show ResolvesModules id ((discard (Execution.call depth f args kw)).outcome w).2
    rw [outcome_discard]
    have hg := (growing depth).call f args kw w
    exact resolvesModules_of_evolves h hg.toGrows hg.compilers
  | compile id' p seeds =>
    have hg := (keepsAt_run (.compile id' p seeds) w).toGrows
    have hx : World.RefersTo _ _ w ((Compiler.compile id' p seeds).outcome w).2 :=
      Compiler.refersTo_compile id' p seeds
    refine resolvesModules_of_evolves h hg ?_
    show ((discard (Compiler.compile id' p seeds)).outcome w).2.compilers = _
    rw [outcome_discard]
    exact hx.compilers

theorem resolvesModules_runAll {id : String} (os : List Operation) (h : ResolvesModules id w) :
    ResolvesModules id (runAll os w) := by
  induction os generalizing w with
  | nil => exact h
  | cons o os ih => exact ih (resolvesModules_run o h)

end Facade
