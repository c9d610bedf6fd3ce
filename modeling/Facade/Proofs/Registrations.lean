import Facade.Proofs.Importing
import Mathlib.Data.List.Find

/-!
# What a context calls its own

A compilation passes through the check of a name, the reading of the source, the writing of a file, the
run of the body and the registration of the module. Whichever of them stops it, no module that the
context has is disturbed, and what stops it before the file is written leaves nothing behind at all.

* `Run.Ensures`: what holds of what an operation gives and of the world afterwards.
* `World.Untouched`, `World.SameModules`, `World.Registers`: what a compilation can do to contexts.
* `ensures_compile`: what it does, by how it ends.
* `loadings`, `latest`: the modules that a history loads; the last one under a name.
* `modules_runAll`, `accounted_history`: a context has these modules and no others.
-/

namespace Facade

open Execution Run

/-! ## Postconditions -/

namespace Run

variable {α β : Type} {x : Run α} {w : World} {P Q : Except Failure α → World → Prop}
  {R : Except Failure β → World → Prop}

/-- A postcondition of an operation: it holds of what the operation gives and of the world
afterwards. -/
def Ensures (x : Run α) (w : World) (Q : Except Failure α → World → Prop) : Prop :=
  Q (x.outcome w).1 (x.outcome w).2

theorem Ensures.of_eq {r : Except Failure α} {w' : World} (h : x.Ensures w Q)
    (hx : x.outcome w = (r, w')) : Q r w' := by
  unfold Ensures at h
  rwa [hx] at h

theorem Ensures.mono (h : x.Ensures w P) (hPQ : ∀ r w', P r w' → Q r w') : x.Ensures w Q :=
  hPQ _ _ h

theorem Ensures.bind {f : α → Run β} (h : x.Ensures w P)
    (hok : ∀ a w₁, P (.ok a) w₁ → (f a).Ensures w₁ R)
    (herror : ∀ e w₁, P (.error e) w₁ → R (.error e) w₁) : (x >>= f).Ensures w R := by
  unfold Ensures at h ⊢
  rw [outcome_bind]
  rcases hx : x.outcome w with ⟨r, w₁⟩
  rw [hx] at h
  cases r with
  | error e => exact herror e w₁ h
  | ok a => exact hok a w₁ h

theorem Ensures.tryCatch {f : Failure → Run α} (h : x.Ensures w P)
    (hok : ∀ a w₁, P (.ok a) w₁ → Q (.ok a) w₁)
    (herror : ∀ e w₁, P (.error e) w₁ → (f e).Ensures w₁ Q) : (tryCatch x f).Ensures w Q := by
  unfold Ensures at h ⊢
  rw [outcome_tryCatch]
  rcases hx : x.outcome w with ⟨r, w₁⟩
  rw [hx] at h
  cases r with
  | error e => exact herror e w₁ h
  | ok a => exact hok a w₁ h

theorem ensures_get_bind {f : World → Run β} (h : (f w).Ensures w R) :
    ((get : Run World) >>= f).Ensures w R := h

theorem ensures_allocate (o : Object) : (allocate o).Ensures w fun r w' =>
    w'.contexts = w.contexts ∧ ∀ e, r ≠ .error e := ⟨rfl, fun _ h => by cases h⟩

/-- A loop of operations, each of which leads from a world to a related one and fails in certain ways
only. -/
theorem ensures_forIn {f : α → PUnit → Run (ForInStep PUnit)} {S : World → World → Prop}
    {E : Failure → Prop} (hrefl : ∀ w, S w w) (htrans : ∀ {w w' w''}, S w w' → S w' w'' → S w w'')
    (hf : ∀ a b w, (f a b).Ensures w fun r w' => S w w' ∧ ∀ e, r = .error e → E e) (l : List α) :
    ∀ b w, (forIn l b f).Ensures w fun r w' => S w w' ∧ ∀ e, r = .error e → E e := by
  induction l with
  | nil => exact fun b w => ⟨hrefl w, fun e h => by cases h⟩
  | cons a l ih =>
    intro b w
    rw [List.forIn_cons]
    refine (hf a b w).bind (fun s w₁ h => ?_) fun e _ h => ⟨h.1, fun e' he => h.2 e' (by cases he; rfl)⟩
    split
    · exact ⟨h.1, fun e he => by cases he⟩
    · exact (ih _ w₁).mono fun _ _ h' => ⟨htrans h.1 h'.1, h'.2⟩

end Run

/-! ## What happens to contexts -/

/-- Worlds with the same objects, contexts, compilers, files and importable modules. -/
structure World.Untouched (w w' : World) : Prop where
  objects : w'.objects = w.objects
  contexts : w'.contexts = w.contexts
  compilers : w'.compilers = w.compilers
  files : w'.files = w.files
  importable : w'.importable = w.importable

/-- Worlds whose contexts call the same modules their own. -/
structure World.SameModules (w w' : World) : Prop where
  size : w'.contexts.size = w.contexts.size
  modules : ∀ d, (w'.context d).modules = (w.context d).modules

/-- A world in which a context has taken a module in under a name. -/
structure World.Registers (c : Nat) (n : String) (m : Nat) (w w' : World) : Prop where
  size : w'.contexts.size = w.contexts.size
  modules : ∀ d < w.contexts.size, (w'.context d).modules =
    if d = c then (w.context c).modules.set n m else (w.context d).modules

variable {w w' w'' : World} {c m : Nat} {n id : String}

theorem World.Untouched.refl (w : World) : w.Untouched w := ⟨rfl, rfl, rfl, rfl, rfl⟩

theorem World.Untouched.trans (h : w.Untouched w') (h' : w'.Untouched w'') : w.Untouched w'' :=
  ⟨h'.objects.trans h.objects, h'.contexts.trans h.contexts, h'.compilers.trans h.compilers,
    h'.files.trans h.files, h'.importable.trans h.importable⟩

theorem World.SameModules.of_contexts (h : w'.contexts = w.contexts) : w.SameModules w' :=
  ⟨by rw [h], fun d => by rw [World.context, World.context, h]⟩

theorem World.SameModules.trans (h : w.SameModules w') (h' : w'.SameModules w'') :
    w.SameModules w'' :=
  ⟨h'.size.trans h.size, fun d => (h'.modules d).trans (h.modules d)⟩

theorem World.Registers.after (h : w.SameModules w') (h' : World.Registers c n m w' w'') :
    World.Registers c n m w w'' where
  size := h'.size.trans h.size
  modules d hd := by
    rw [h'.modules d (h.size.symm ▸ hd), h.modules, h.modules]

theorem World.Registers.before (h : World.Registers c n m w w') (h' : w''.contexts = w'.contexts) :
    World.Registers c n m w w'' where
  size := by rw [h', h.size]
  modules d hd := by
    rw [World.context, h']
    exact h.modules d hd

theorem registers_register (w : World) (c m : Nat) (n : String) :
    World.Registers c n m w (w.setContext c ((w.context c).register n m)) where
  size := by simp [World.setContext]
  modules d hd := by
    rw [World.context_setContext]
    by_cases hdc : d = c
    · subst hdc
      rw [if_pos ⟨rfl, hd⟩, if_pos rfl]
      rfl
    · rw [if_neg fun h => hdc h.1.symm, if_neg hdc]

/-- Where contexts and importable modules are the same, every import gives the same. -/
theorem importThrough_untouched (h : w.Untouched w') (context : Option Nat) (name : String)
    (hasMembers : Bool) (level : Int) (package : Option String) :
    importThrough w' context name hasMembers level package =
      importThrough w context name hasMembers level package := by
  have hload : Imports.load? w' = Imports.load? w := by
    funext k
    rw [Imports.load?, Imports.load?, h.importable]
  have hcontext : w'.context = w.context := by
    funext d
    rw [World.context, World.context, h.contexts]
  unfold importThrough Imports.absolute? Imports.relative?
  rw [hload, hcontext]

/-! ## What one compilation does -/

/-- The ways in which a compilation is refused. -/
def Failure.isRefusedCompilation : Failure → Bool
  | .refused (.badModuleName _) | .refused (.compilation _ _) | .refused (.moduleLoad _ _ _ _) => true
  | _ => false

/-- The ways in which it is refused before anything is written. -/
def Failure.isUnread : Failure → Bool
  | .refused (.badModuleName _) | .refused (.compilation _ _) => true
  | _ => false

namespace Compiler

open Syntax (Stmt)

theorem ensures_nextName (c : Compiler) : (nextName c).Ensures w fun _ w' => w.Untouched w' := by
  unfold nextName
  split
  · exact .refl w
  · exact ⟨rfl, rfl, rfl, rfl, rfl⟩

theorem ensures_record (level message unit : String) (extra : List (String × String)) :
    (record level message unit extra).Ensures w fun r w' => r = .ok ⟨⟩ ∧ w.Untouched w' :=
  ⟨rfl, rfl, rfl, rfl, rfl, rfl⟩

/-- Reading a program leaves records only. -/
theorem ensures_accept (c : Compiler) (name : String) (p : Program) :
    (accept c name p).Ensures w fun _ w' => w.Untouched w' := by
  unfold accept
  split
  refine (ensures_forIn (E := fun _ => True) World.Untouched.refl World.Untouched.trans
    (fun d b w => ?_) _ _ w).bind (fun _ w₁ h => ?_) fun _ _ h => h.1
  · refine Ensures.mono (P := fun _ w' => w.Untouched w') ?_ fun _ _ h => ⟨h, fun _ _ => trivial⟩
    split
    · exact (ensures_record _ _ _ _).bind (fun _ _ h => h.2) fun _ _ h => h.2
    · exact .refl w
  · dsimp only
    split
    · exact h.1
    · exact (ensures_record _ _ _ _).bind (fun _ _ h' => h.1.trans h'.2)
        fun _ _ h' => h.1.trans h'.2

theorem ensures_writeFile (c : Compiler) (path text : String) :
    (writeFile c path text).Ensures w fun r w' => (w'.objects = w.objects ∧
      w'.contexts = w.contexts ∧ w'.compilers = w.compilers) ∧
        ∀ e, r = .error e → e.isUnread = false := by
  unfold writeFile makeDirectory
  refine Ensures.bind (P := fun r w' => (w'.objects = w.objects ∧ w'.contexts = w.contexts ∧
    w'.compilers = w.compilers) ∧ ∀ e, r = .error e → e.isUnread = false) ?_
    (fun _ w₁ h => ⟨h.1, by simp⟩) fun _ _ h => ⟨h.1, h.2⟩
  unfold Ensures
  rw [outcome_get_bind]
  dsimp only
  split
  · exact ⟨⟨rfl, rfl, rfl⟩, by rintro e h; cases h; rfl⟩
  · split
    · exact ⟨⟨rfl, rfl, rfl⟩, by rintro e h; cases h; rfl⟩
    · exact ⟨⟨rfl, rfl, rfl⟩, by rintro e h; cases h⟩

/-- What running a module and registering it does: success registers it under the name that it gives
itself, and what fails leaves the modules of all contexts alone. -/
def Loads (c m : Nat) (w : World) (r : Except Failure Unit) (w' : World) : Prop :=
  match r with
  | .ok _ => World.Registers c (w'.moduleName m) m w w'
  | .error e => w.SameModules w' ∧ e.isUnread = false

theorem ensures_setReferences (c : Nat) (ms : List Nat) :
    (setReferences c ms).Ensures w fun r w' => r = .ok ⟨⟩ ∧ w.SameModules w' := by
  refine ⟨rfl, Array.size_setIfInBounds, fun d => ?_⟩
  show ((w.setContext c _).context d).modules = _
  rw [World.context_setContext]
  split
  · rename_i h
    rw [← h.1, Context.modules_addReferences]
  · rfl

theorem ensures_registerModule (c m : Nat) :
    (registerModule c m).Ensures w fun r w' => r = .ok ⟨⟩ ∧
      World.Registers c (w'.moduleName m) m w w' := by
  refine ⟨rfl, ?_⟩
  show World.Registers c (w.moduleName m) m w _
  exact (registers_register w c m _).before rfl

theorem ensures_load (c : Compiler) (text : String) (body : List Stmt) :
    (load c m text body).Ensures w (Loads c.context m w) := by
  unfold load
  refine (ensures_setReferences _ _).bind (fun _ w₁ h₁ => ?_) (fun _ _ h => by cases h.1)
  have hrun : (runModule m body).GrowsAt w₁ :=
    (growsAt_runBlock (fun fr s w => (growing depth).exec fr s w) body _ _).bind
      fun _ _ => growsAt_pure _
  -- Only what the body raised can stop here, and it is passed on or worded anew.
  refine Ensures.bind (P := fun r w' => w₁.SameModules w' ∧ ∀ e, r = .error e → e.isUnread = false)
    (Ensures.tryCatch (P := fun _ w' => w₁.SameModules w') (.of_contexts hrun.contexts)
      (fun _ _ h => ⟨h, by simp⟩) fun e w₂ h₂ => ?_)
    (fun _ w₃ h₃ => ?_) fun e w₃ h₃ => ⟨h₁.2.trans h₃.1, h₃.2 e rfl⟩
  · split
    · rename_i hpass
      refine ⟨h₂, fun e' he => ?_⟩
      obtain rfl : e = e' := Except.error.inj he
      cases e with
      | scripted s => rfl
      | fault f => cases hpass
      | refused r => cases hpass
    · exact ⟨h₂, by rintro e' he; cases he; rfl⟩
  · exact (ensures_registerModule _ _).mono fun r w₄ h₄ => by
      rw [h₄.1]
      exact h₄.2.after (h₁.2.trans h₃.1)

/-- What everything from reading to registration does: success registers the module that came of it,
what fails leaves the modules of all contexts alone, and what cannot be read leaves nothing behind. -/
def Builds (c : Nat) (name : String) (w : World) (r : Except Failure GeneratedModule) (w' : World) :
    Prop :=
  match r with
  | .ok g => g.name = name ∧ World.Registers c (w'.moduleName g.module) g.module w w'
  | .error e => w.SameModules w' ∧ (e.isUnread = true → w.Untouched w')

theorem Builds.after {c : Nat} {name : String} {r : Except Failure GeneratedModule}
    (h : w.Untouched w') (h' : Builds c name w' r w'') : Builds c name w r w'' := by
  cases r with
  | ok g => exact ⟨h'.1, h'.2.after (.of_contexts h.contexts)⟩
  | error e =>
    exact ⟨(World.SameModules.of_contexts h.contexts).trans h'.1, fun he => h.trans (h'.2 he)⟩

theorem ensures_build (c : Compiler) (name : String) (path : Option String) (p : Program)
    (seeds : List (String × Value)) :
    (build c name path p seeds).Ensures w (Builds c.context name w) := by
  unfold build
  refine (ensures_accept c name p).bind (fun r w₁ h₁ => ?_)
    fun e w₁ h₁ => ⟨.of_contexts h₁.contexts, fun _ => h₁⟩
  -- From here on nothing is refused as unreadable any more.
  have main (w₁ : World) {w₂ : World} (h : w₂.contexts = w₁.contexts) : (do
      let module ← Run.allocate (.module
        { name := name
          globals := initialGlobals c name path seeds
          origin := some (path.getD ("<typeforge:" ++ name ++ ">"))
          context := some c.context
          builtins := some (builtinsOf (← get)) })
      load c module p.text r.2
      return { name := name, module := module, text := p.text, context := c.context, path := path,
               diagnostics := r.1 } : Run GeneratedModule).Ensures w₂ (Builds c.context name w₁) := by
    refine ensures_get_bind ((ensures_allocate _).bind (fun m w₃ h₃ => ?_)
      fun e _ h₃ => absurd rfl (h₃.2 e))
    have hw₃ : w₁.SameModules w₃ := .of_contexts (h₃.1.trans h)
    refine (ensures_load c p.text r.2).bind (fun _ w₄ h₄ => ⟨rfl, h₄.after hw₃⟩) fun e w₄ h₄ => ?_
    exact ⟨hw₃.trans h₄.1, fun he => absurd he (by rw [h₄.2]; exact Bool.false_ne_true)⟩
  dsimp only
  cases path with
  | none => exact (main w₁ rfl).mono fun _ _ h => h.after h₁
  | some f =>
    refine (ensures_writeFile c f p.text).bind (fun _ w₂ h₂ => ?_) fun e w₂ h₂ => ?_
    · exact (main w₁ h₂.1.2.1).mono fun _ _ h => h.after h₁
    · exact ⟨.of_contexts (h₂.1.2.1.trans h₁.contexts),
        fun he => absurd he (by rw [h₂.2 e rfl]; exact Bool.false_ne_true)⟩

/-! ### Stamping -/

/-- Worlds with the same contexts, compilers and modules. -/
structure SameModuleInfos (w w' : World) : Prop where
  contexts : w'.contexts = w.contexts
  compilers : w'.compilers = w.compilers
  modules : ∀ m, w'.module? m = w.module? m

theorem SameModuleInfos.refl (w : World) : SameModuleInfos w w := ⟨rfl, rfl, fun _ => rfl⟩

theorem SameModuleInfos.trans (h : SameModuleInfos w w') (h' : SameModuleInfos w' w'') :
    SameModuleInfos w w'' :=
  ⟨h'.contexts.trans h.contexts, h'.compilers.trans h.compilers,
    fun m => (h'.modules m).trans (h.modules m)⟩

theorem SameModuleInfos.of_untouched (h : w.Untouched w') : SameModuleInfos w w' :=
  ⟨h.contexts, h.compilers, fun m => by rw [World.module?, World.module?, h.objects]⟩

theorem ensures_setMember (k : Nat) (name : String) (v : Value) :
    (setMember k name v).Ensures w fun r w' =>
      SameModuleInfos w w' ∧ ∀ e, r = .error e → ∃ f, e = .fault f := by
  unfold setMember
  refine ensures_get_bind ?_
  split
  · rename_i info hinfo
    split
    · exact ⟨.refl w, by rintro e h; cases h; exact ⟨_, rfl⟩⟩
    · refine ⟨⟨rfl, rfl, fun m => ?_⟩, by rintro e h; cases h⟩
      have hk : w.objects[k]? = some (.cls info) := by
        unfold World.class? at hinfo
        split at hinfo
        · rename_i hk
          rw [hk, Option.some.inj hinfo]
        · cases hinfo
      simp only [outcome_replace, World.module?]
      by_cases hm : k = m
      · subst hm
        rw [Array.getElem?_setIfInBounds_self_of_lt (Array.getElem?_eq_some_iff.mp hk).1, hk]
      · rw [Array.getElem?_setIfInBounds_ne hm]
  · exact ⟨.refl w, by rintro e h; cases h; exact ⟨_, rfl⟩⟩

/-- Stamping leaves contexts and modules alone, and is never refused. -/
theorem ensures_stamp (g : GeneratedModule) :
    (stamp g).Ensures w fun r w' =>
      SameModuleInfos w w' ∧ ∀ e, r = .error e → ∃ f, e = .fault f := by
  unfold stamp
  refine ensures_get_bind (Ensures.bind (P := fun r w' => w' = w ∧ ∀ e, r = .error e → ∃ f, e = .fault f)
    ?_ (fun cs w₁ h₁ => ?_) fun e w₁ h₁ => ⟨h₁.1 ▸ .refl w, fun e' he => h₁.2 e' (by cases he; rfl)⟩)
  · cases GeneratedModule.exportedTypes g w with
    | ok cs => exact ⟨rfl, fun e h => by cases h⟩
    | error f => exact ⟨rfl, fun e h => by cases h; exact ⟨f, rfl⟩⟩
  · obtain rfl := h₁.1
    refine (ensures_forIn SameModuleInfos.refl SameModuleInfos.trans (fun c _ w => ?_) cs _ w₁).bind
      (fun _ _ h => ⟨h.1, fun e he => by cases he⟩) fun e _ h => h
    exact (ensures_setMember _ _ _).bind (fun _ _ h => ⟨h.1, fun e he => by cases he⟩)
      fun e _ h => ⟨h.1, fun e' he => h.2 e' (by cases he; rfl)⟩

/-- What a compilation does: success registers the module that came of it, a refusal leaves the modules
of all contexts alone, and a refusal before anything is written leaves nothing behind. Another failure
can come before or after the registration. -/
def Compiles (c : Nat) (w : World) (r : Except Failure GeneratedModule) (w' : World) : Prop :=
  match r with
  | .ok g => World.Registers c (w'.moduleName g.module) g.module w w'
  | .error e => (e.isRefusedCompilation = true → w.SameModules w') ∧
    (e.isUnread = true → w.Untouched w') ∧
    (w.SameModules w' ∨ ∃ n m, World.Registers c n m w w')

theorem ensures_compile (id : String) (p : Program) (seeds : List (String × Value)) :
    (compile id p seeds).Ensures w (Compiles (w.compiler id).context w) := by
  unfold compile
  refine ensures_get_bind ((ensures_nextName _).bind (fun name w₁ h₁ => ?_)
    fun e w₁ h₁ => ⟨fun _ => .of_contexts h₁.contexts, fun _ => h₁, .inl (.of_contexts h₁.contexts)⟩)
  refine Ensures.bind (P := fun _ w' => w' = w₁) ?_ (fun _ w₂ h₂ => ?_)
    fun e w₂ h₂ => ⟨fun _ => .of_contexts (h₂ ▸ h₁.contexts), fun _ => h₂ ▸ h₁,
      .inl (.of_contexts (h₂ ▸ h₁.contexts))⟩
  · cases checkModuleName name <;> exact rfl
  obtain rfl := h₂
  dsimp only
  refine Ensures.bind (P := Builds (w.compiler id).context name w)
    (Ensures.tryCatch ((ensures_build _ name _ p seeds).mono fun _ _ h => h.after h₁)
      (fun _ _ h => h) fun e w₃ h₃ => ?_) (fun g w₃ h₃ => ?_)
    fun e w₃ h₃ => ⟨fun _ => h₃.1, h₃.2, .inl h₃.1⟩
  · refine (ensures_record _ _ _ _).bind (fun _ w₄ h₄ => ?_) fun e' w₄ h₄ => by cases h₄.1
    exact ⟨h₃.1.trans (.of_contexts h₄.2.contexts), fun he => (h₃.2 he).trans h₄.2⟩
  -- Registration is over: what follows leaves contexts and modules alone.
  refine (ensures_record _ _ _ _).bind (fun _ w₄ h₄ => ?_) fun e w₄ h₄ => by cases h₄.1
  refine (ensures_stamp g).bind (fun _ w₅ h₅ => ?_) fun e w₅ h₅ => ?_
  · refine ensures_get_bind ((ensures_record _ _ _ _).bind (fun _ w₆ h₆ => ?_)
      fun e w₆ h₆ => by cases h₆.1)
    have hsame : SameModuleInfos w₃ w₆ :=
      ((SameModuleInfos.of_untouched h₄.2).trans h₅.1).trans (.of_untouched h₆.2)
    show World.Registers _ (w₆.moduleName g.module) g.module w w₆
    rw [moduleName_of_module? (hsame.modules g.module)]
    exact h₃.2.before hsame.contexts
  · obtain ⟨f, rfl⟩ := h₅.2 e rfl
    exact ⟨nofun, nofun, .inr ⟨_, _, h₃.2.before (h₅.1.contexts.trans h₄.2.contexts)⟩⟩

end Compiler

/-! ## Histories -/

/-- The module that an operation loads into a context, with the name that the module gives itself. -/
def Operation.loaded? (c : Nat) (w : World) : Operation → Option (GeneratedModule × String)
  | .compile id p seeds =>
    if (w.compiler id).context = c then
      match (Compiler.compile id p seeds).outcome w with
      | (.ok g, w') => some (g, w'.moduleName g.module)
      | _ => none
    else none
  | _ => none

/-- The modules that a history loads into a context, oldest first. -/
def loadings (c : Nat) : List Operation → World → List (GeneratedModule × String)
  | [], _ => []
  | o :: os, w => (o.loaded? c w).toList ++ loadings c os (o.run.outcome w).2

/-- The last module that goes by a name. -/
def latest (nameOf : GeneratedModule × String → String) (n : String)
    (ls : List (GeneratedModule × String)) : Option Nat :=
  (ls.reverse.find? fun e => nameOf e = n).map fun e => e.1.module

/-- Whether a context takes a module in without a compilation. -/
def Operation.registersIn (c : Nat) : Operation → Bool
  | .register d _ => d = c
  | _ => false

/-- Whether an operation is no compilation, or one that succeeds or is refused. -/
def Operation.isSettled (w : World) : Operation → Bool
  | .compile id p seeds =>
    match ((Compiler.compile id p seeds).outcome w).1 with
    | .ok _ => true
    | .error e => e.isRefusedCompilation
  | _ => true

/-- Whether all compilations of a history succeed or are refused. -/
def allSettled : List Operation → World → Bool
  | [], _ => true
  | o :: os, w => o.isSettled w && allSettled os (o.run.outcome w).2

theorem get?_foldl_set {α : Type} (ls : List α) (key : α → String) (value : α → Nat)
    (t : Table String Nat) (n : String) :
    (ls.foldl (fun t e => t.set (key e) (value e)) t).get? n =
      ((ls.reverse.find? fun e => key e = n).map value).or (t.get? n) := by
  induction ls generalizing t with
  | nil => simp
  | cons e ls ih =>
    rw [List.foldl_cons, ih, Table.get?_set, List.reverse_cons, List.find?_append]
    cases ls.reverse.find? fun e => key e = n with
    | some x => simp
    | none => by_cases hk : key e = n <;> simp [hk]

theorem outcome_discard {α : Type} (x : Run α) (w : World) :
    ((discard x).outcome w).2 = (x.outcome w).2 := by
  show ((Functor.map _ x).outcome w).2 = _
  rw [outcome_map]
  rcases x.outcome w with ⟨r, w'⟩
  cases r <;> rfl

theorem contexts_resolving (id : String) (x : World → Resolver.Resolving Unit) (w : World) :
    ((Compiler.resolving id x).outcome w).2.contexts = w.contexts := by
  rw [outcome_resolving]
  cases ((x w).outcome (w.compiler id).resolver).1 <;> rfl

/-- **What one operation does to the modules of a context:** it takes in the module that the operation
loads into it, if it loads one. -/
theorem modules_run (o : Operation) (hc : c < w.contexts.size) (hr : o.registersIn c = false)
    (hs : o.isSettled w = true) :
    (o.run.outcome w).2.contexts.size = w.contexts.size ∧
    ((o.run.outcome w).2.context c).modules =
      (o.loaded? c w).toList.foldl (fun t e => t.set e.2 e.1.module) (w.context c).modules := by
  have same {w' : World} (h : w'.contexts = w.contexts) : w'.contexts.size = w.contexts.size ∧
      (w'.context c).modules = (w.context c).modules := by
    rw [World.context, h]
    exact ⟨rfl, rfl⟩
  cases o with
  | register d m =>
    have h := (Compiler.ensures_registerModule (w := w) d m).2
    rw [Operation.registersIn, decide_eq_false_iff_not] at hr
    exact ⟨h.size, (h.modules c hc).trans (if_neg (Ne.symm hr))⟩
  | refer d ms =>
    have h := (Compiler.ensures_setReferences (w := w) d ms).2
    exact ⟨h.size, h.modules c⟩
  | add id v =>
    refine same ?_
    show ((Compiler.addReference id v).outcome w).2.contexts = _
    unfold Compiler.addReference
    split <;> exact contexts_resolving id _ w
  | addAll id as => exact same (contexts_resolving id _ w)
  | rename id n => exact same rfl
  | call f args kw =>
    refine same ?_
    show ((discard (Execution.call depth f args kw)).outcome w).2.contexts = _
    rw [outcome_discard]
    exact ((growing depth).call f args kw w).contexts
  | compile id p seeds =>
    have h := Compiler.ensures_compile (w := w) id p seeds
    show ((discard (Compiler.compile id p seeds)).outcome w).2.contexts.size = _ ∧
      (((discard (Compiler.compile id p seeds)).outcome w).2.context c).modules = _
    rw [outcome_discard]
    simp only [Operation.loaded?, Operation.isSettled] at hs ⊢
    rcases hx : (Compiler.compile id p seeds).outcome w with ⟨r, w'⟩
    replace h := h.of_eq hx
    rw [hx] at hs
    cases r with
    | error e =>
      refine ⟨(h.1 hs).size, ((h.1 hs).modules c).trans ?_⟩
      split <;> rfl
    | ok g =>
      refine ⟨h.size, (h.modules c hc).trans ?_⟩
      by_cases hid : (w.compiler id).context = c
      · rw [if_pos hid, if_pos hid.symm, hid]
        rfl
      · rw [if_neg hid, if_neg (Ne.symm hid)]
        rfl

/-- **What a history does to the modules of a context:** it takes in all modules that the history loads
into it, one after the other. -/
theorem modules_runAll (os : List Operation) (hc : c < w.contexts.size)
    (hr : ∀ o ∈ os, o.registersIn c = false) (hs : allSettled os w = true) :
    ((runAll os w).context c).modules =
      (loadings c os w).foldl (fun t e => t.set e.2 e.1.module) (w.context c).modules := by
  induction os generalizing w with
  | nil => rfl
  | cons o os ih =>
    rw [List.forall_mem_cons] at hr
    rw [allSettled, Bool.and_eq_true] at hs
    obtain ⟨hsize, hmodules⟩ := modules_run o hc hr.1 hs.1
    rw [runAll, List.foldl_cons, loadings, List.foldl_append, ← hmodules]
    exact ih (hsize.symm ▸ hc) hr.2 hs.2

/-- What can be relied on in a context after a history. -/
structure Accounted (c : Nat) (os : List Operation) (w : World) : Prop where
  /-- A name leads to the last module that was loaded and calls itself so, and to nothing if there is
  none. -/
  modules : ∀ n, ((runAll os w).context c).modules.get? n = latest Prod.snd n (loadings c os w)
  /-- That is the last module that was compiled under the name, as long as modules call themselves what
  they are compiled as. -/
  compiled : (∀ e ∈ loadings c os w, e.2 = e.1.name) → ∀ n,
    ((runAll os w).context c).modules.get? n = latest (fun e => e.1.name) n (loadings c os w)
  /-- A compilation that is refused next changes no entry. -/
  refused : ∀ id p seeds e w', (Compiler.compile id p seeds).outcome (runAll os w) = (.error e, w') →
    e.isRefusedCompilation = true → (w'.context c).modules = ((runAll os w).context c).modules
  /-- One that is refused for its name or its source writes no file, and every import through the
  context gives what it gave. -/
  unread : ∀ id p seeds e w', (Compiler.compile id p seeds).outcome (runAll os w) = (.error e, w') →
    e.isUnread = true → w'.files = (runAll os w).files ∧
      ∀ name hasMembers level package, importThrough w' (some c) name hasMembers level package =
        importThrough (runAll os w) (some c) name hasMembers level package

/-- **A context accounts for what was compiled into it.** After any history of compilers that share it,
in which each compilation succeeds or is refused, it holds the last module of each name and nothing
else. Refused compilations leave no trace in it. -/
theorem accounted_history (os : List Operation) (hc : c < w.contexts.size)
    (hnew : (w.context c).modules = {}) (hr : ∀ o ∈ os, o.registersIn c = false)
    (hs : allSettled os w = true) : Accounted c os w := by
  have hmodules (n : String) :
      ((runAll os w).context c).modules.get? n = latest Prod.snd n (loadings c os w) := by
    rw [modules_runAll os hc hr hs, hnew,
      get?_foldl_set _ Prod.snd fun e : GeneratedModule × String => e.1.module]
    exact Option.or_none
  refine ⟨hmodules, fun hnames n => ?_, fun id p seeds e w' hx he => ?_, fun id p seeds e w' hx he => ?_⟩
  · rw [hmodules, latest, latest]
    congr 1
    refine List.find?_congr fun e he => ?_
    rw [hnames e (List.mem_reverse.mp he)]
  · exact (((Compiler.ensures_compile id p seeds).of_eq hx).1 he).modules c
  · have h := ((Compiler.ensures_compile id p seeds).of_eq hx).2.1 he
    exact ⟨h.files, importThrough_untouched h (some c)⟩

/-! ## A history, and a module that calls itself otherwise -/

/-- A program that defines a class. -/
def definingProgram (cls : String) : Program := .ofTree .draft [.class cls [] [] [] [.pass]]

/-- Modules of two names, one of them twice, and each way to be refused in between. -/
def mixedHistory : List Operation :=
  [.compile "unit" (definingProgram "A") [],
   .compile "unit" (.ofTree .draft [.returns none]) [],
   .rename "unit" "2nd", .compile "unit" (definingProgram "B") [],
   .rename "unit" "other", .compile "unit" (.ofTree .draft [.assert (.const .false) none]) [],
   .compile "unit" (definingProgram "C") [],
   .rename "unit" "unit", .compile "unit" (definingProgram "D") []]

/-- After such a history the context has the second module of the one name and the only one of the
other. -/
theorem accounted_history_mixed :
    0 < unitWorld.contexts.size ∧ (unitWorld.context 0).modules = {} ∧
      (∀ o ∈ mixedHistory, o.registersIn 0 = false) ∧ allSettled mixedHistory unitWorld = true ∧
      (loadings 0 mixedHistory unitWorld).map (fun e => (e.1.name, e.2, e.1.module)) =
        [("unit", "unit", 1), ("other", "other", 4), ("unit", "unit", 6)] ∧
      Accounted 0 mixedHistory unitWorld := by
  have hr : ∀ o ∈ mixedHistory, o.registersIn 0 = false := by decide
  have hs : allSettled mixedHistory unitWorld = true := by decide +kernel
  exact ⟨by decide, rfl, hr, hs, by decide +kernel,
    accounted_history mixedHistory (by decide) rfl hr hs⟩

/-- **A module whose seeds name it otherwise is kept under the other name,** not under the name that it
was compiled under. -/
theorem seeded_name_misplaces :
    let os := [.compile "unit" (definingProgram "A") [("__name__", .str "other")]]
    allSettled os unitWorld = true ∧
      (loadings 0 os unitWorld).map (fun e => (e.1.name, e.1.module)) = [("unit", 1)] ∧
      ((runAll os unitWorld).context 0).modules.get? "unit" = none ∧
      ((runAll os unitWorld).context 0).modules.get? "other" = some 1 := by
  decide +kernel

end Facade
