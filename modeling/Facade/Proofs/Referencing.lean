import Facade.Proofs.Coverage
import Facade.Proofs.Importing
import Facade.Proofs.Tables
import Facade.Proofs.Walks

/-!
# References of annotations

A compiler can be told to reference a type, or whatever annotations need. For annotations it references
the declared types that they consist of, one after the other, so both ways agree for a type that is
declared. An annotation that is composed of others has no module of its own: referencing it as a type is
refused, and nothing changes.

* `World.beside`, `display_beside`: a world with other compilers and another log shows the same texts.
* `Resolver.addType_beside`: what a type needs does not depend on compilers and the log.
* `Logged.Appends`, `Resolver.appends_addType`: what adding a type leaves in the log does not depend on
  what is there.
* `outcome_forM_addReference`: adding references one by one is one resolving of all.
* `Agree`, `reference_annotation`: when both ways to reference an annotation agree.
* `composed_not_referenced`: an annotation that is needed as a whole, but refused as a type.
-/

namespace Facade

open Run

/-! ## Beside compilers and the log -/

/-- The world with other compilers and another log. -/
def World.beside (w : World) (cs : Table String Compiler) (rs : List LogRecord) : World :=
  { w with compilers := cs, records := rs }

section Beside

variable (w : World) (cs : Table String Compiler) (rs : List LogRecord)

theorem objects_beside : (w.beside cs rs).objects = w.objects := rfl

mutual

theorem display_beside (v : Value) : v.display (w.beside cs rs) = v.display w := by
  cases v with
  | tuple vs =>
    rcases vs with _ | ⟨v, _ | ⟨u, r⟩⟩
    · simp only [Value.display, Value.displayAll]
    · simp only [Value.display, display_beside v]
    · simp only [Value.display, displayAll_beside (v :: u :: r)]
  | list vs => simp only [Value.display, displayAll_beside vs]
  | dict es => simp only [Value.display, displayEntries_beside es]
  | generic f o as =>
    have ho := display_beside o
    unfold Value.display
    rw [displayArgs_beside as]
    dsimp only
    split
    · rfl
    · rfl
    · rfl
    · rfl
    · rw [ho]
  | pipe as => simp only [Value.display, displayArgs_beside as]
  | annotated o ms => simp only [Value.display, displayArg_beside o, displayAll_beside ms]
  | bound s f =>
    unfold Value.display
    rw [display_beside s]
    rfl
  | partialCall f as ks =>
    simp only [Value.display, display_beside f, displayAll_beside as, displayNamed_beside ks]
  | staticMethod f => simp only [Value.display, display_beside f]
  | classMethod f => simp only [Value.display, display_beside f]
  | native n => cases n <;> simp only [Value.display]
  | _ => simp only [Value.display] <;> rfl
termination_by (sizeOf v, 0)

theorem displayAll_beside (vs : List Value) :
    Value.displayAll (w.beside cs rs) vs = Value.displayAll w vs := by
  cases vs with
  | nil => simp only [Value.displayAll]
  | cons v vs => simp only [Value.displayAll, display_beside v, displayAll_beside vs]
termination_by (sizeOf vs, 0)

theorem displayEntries_beside (es : List (Value × Value)) :
    Value.displayEntries (w.beside cs rs) es = Value.displayEntries w es := by
  cases es with
  | nil => simp only [Value.displayEntries]
  | cons e es =>
    obtain ⟨k, v⟩ := e
    simp only [Value.displayEntries, display_beside k, display_beside v, displayEntries_beside es]
termination_by (sizeOf es, 0)

theorem displayNamed_beside (es : List (String × Value)) :
    Value.displayNamed (w.beside cs rs) es = Value.displayNamed w es := by
  cases es with
  | nil => simp only [Value.displayNamed]
  | cons e es =>
    obtain ⟨k, v⟩ := e
    simp only [Value.displayNamed, display_beside v, displayNamed_beside es]
termination_by (sizeOf es, 0)

theorem displayArg_beside (v : Value) :
    Value.displayArg (w.beside cs rs) v = Value.displayArg w v := by
  have h := display_beside v
  cases v <;> simp only [Value.displayArg, h]
termination_by (sizeOf v, 1)

theorem displayArgs_beside (vs : List Value) :
    Value.displayArgs (w.beside cs rs) vs = Value.displayArgs w vs := by
  cases vs with
  | nil => simp only [Value.displayArgs]
  | cons v vs => simp only [Value.displayArgs, displayArg_beside v, displayArgs_beside vs]
termination_by (sizeOf vs, 0)
end

theorem asText_beside (v : Value) : v.asText (w.beside cs rs) = v.asText w := by
  have h := display_beside w cs rs v
  cases v <;> simp only [Value.asText, h]

end Beside

/-! ## Declared types -/

namespace Hint

theorem declared?_cases {a : Value} (h : (declared? a).isSome) :
    ∃ n, a = .cls n ∨ a = .newType n ∨ a = .typeAlias n := by
  cases a <;> simp_all [declared?]

theorem ne_module_of_declared {a : Value} (h : (declared? a).isSome) : ∀ m, a ≠ .module m := by
  rintro m rfl
  cases h

end Hint

/-! ## Resolving -/

/-- What an operation gives, and what it leaves in the log, does not depend on what is there. -/
def Logged.Appends {σ α : Type} (x : Logged σ α) : Prop :=
  ∀ s, ∃ res s' rs, ∀ log, x.run (s, log) = (res, s', log ++ rs)

theorem Logged.Appends.bind {σ α β : Type} {x : Logged σ α} {f : α → Logged σ β} (hx : x.Appends)
    (hf : ∀ a, (f a).Appends) : (x >>= f).Appends := by
  intro s
  obtain ⟨res, s', rs, hx⟩ := hx s
  cases res with
  | error e => exact ⟨.error e, s', rs, fun log => by rw [run_bind, hx]⟩
  | ok a =>
    obtain ⟨res, s'', rs', hf⟩ := hf a s'
    exact ⟨res, s'', rs ++ rs', fun log => by rw [run_bind, hx, ← List.append_assoc]; exact hf _⟩

namespace Resolver

variable {w : World} {r : Resolver} {d : Value} {ds : List Value} (cs : Table String Compiler)
  (rs : List LogRecord)

theorem moduleLocation?_beside (w : World) (m : Nat) :
    moduleLocation? (w.beside cs rs) m = moduleLocation? w m := by
  unfold moduleLocation?
  simp only [asText_beside]
  rfl

theorem addModuleFrom_beside (w : World) (fuel : Nat) :
    addModuleFrom (w.beside cs rs) fuel = addModuleFrom w fuel := by
  induction fuel with
  | zero => rfl
  | succ fuel ih =>
    funext m
    simp only [addModuleFrom, ih, locate, moduleLocation?_beside]
    rfl

theorem moduleOf?_beside (hd : (Hint.declared? d).isSome) (w : World) (r : Resolver) :
    moduleOf? (w.beside cs rs) r d = moduleOf? w r d := by
  obtain ⟨n, rfl | rfl | rfl⟩ := Hint.declared?_cases hd <;> rfl

theorem unresolved_beside (hd : (Hint.declared? d).isSome) (w : World) (reason : String) :
    unresolved (w.beside cs rs) d reason = unresolved w d reason := by
  obtain ⟨n, rfl | rfl | rfl⟩ := Hint.declared?_cases hd <;> rfl

/-- **What a type needs does not depend on compilers and the log.** -/
theorem addType_beside (hd : (Hint.declared? d).isSome) (w : World) :
    addType (w.beside cs rs) d = addType w d := by
  simp only [addType, addModule, addModuleFrom_beside, moduleOf?_beside cs rs hd,
    unresolved_beside cs rs hd, objects_beside]

theorem forM_addType_beside (hds : ∀ d ∈ ds, (Hint.declared? d).isSome) (w : World) :
    ds.forM (addType (w.beside cs rs)) = ds.forM (addType w) := by
  induction ds with
  | nil => simp only [List.forM_eq_forM, List.forM_nil]
  | cons d ds ih =>
    exact congrArg₂ (fun x y : Resolving PUnit => x >>= fun _ => y)
      (addType_beside cs rs (hds d List.mem_cons_self) w)
      (ih fun e he => hds e (List.mem_cons_of_mem d he))

theorem appends_addType (w : World) (d : Value) : (addType w d).Appends := by
  intro r
  rcases addType_run_cases w r d with ⟨-, reason, hrun⟩ | ⟨m, os, o, -, -, -, rs, hrun⟩
  · exact ⟨_, r, [], fun log => by rw [hrun, List.append_nil]⟩
  · exact ⟨_, _, rs, hrun⟩

theorem appends_forM_addType (w : World) (ds : List Value) : (ds.forM (addType w)).Appends := by
  induction ds with
  | nil => exact fun r => ⟨.ok ⟨⟩, r, [], fun log => by rw [List.append_nil]; rfl⟩
  | cons d ds ih => exact (appends_addType w d).bind fun _ => ih

end Resolver

/-! ## One by one -/

section References

open Compiler Table

variable {id : String} {w : World} {c : Compiler} {a : Value} {as ds : List Value}

theorem addReference_eq (ha : ∀ m, a ≠ .module m) :
    addReference id a = resolving id fun w => Resolver.addType w a := by
  unfold addReference
  split
  · exact absurd rfl (ha _)
  · rfl

/-- **Two stretches of resolving are one,** if the second does not depend on compilers and the log. -/
theorem resolving_bind {x y : World → Resolver.Resolving PUnit} (hx : (x w).Appends)
    (hy : (y w).Appends) (hbeside : ∀ cs rs, y (w.beside cs rs) = y w) :
    ((resolving id x) >>= fun _ => resolving id y).outcome w =
      (resolving id fun w => x w >>= fun _ => y w).outcome w := by
  obtain ⟨res, r', rs, hx⟩ := hx (w.compiler id).resolver
  have hfirst : (x w).outcome (w.compiler id).resolver = (res, r', rs) := hx []
  rw [outcome_bind, outcome_resolving, outcome_resolving]
  cases res with
  | error e =>
    have hboth : (x w >>= fun _ => y w).outcome (w.compiler id).resolver = (.error e, r', rs) := by
      rw [Logged.outcome, Logged.run_bind, hx]
      rfl
    rw [hfirst, hboth]
    rfl
  | ok u =>
    obtain ⟨res, r'', rs', hy⟩ := hy r'
    have hboth : (x w >>= fun _ => y w).outcome (w.compiler id).resolver =
        (res, r'', rs ++ rs') := by
      rw [Logged.outcome, Logged.run_bind, hx]
      exact hy rs
    rw [hfirst, hboth]
    -- the world between the two, in which only this compiler and the log are others
    let between : World := ({ w with records := w.records ++ rs } : World).setCompiler id
      { w.compiler id with resolver := r' }
    have hcompiler : between.compiler id = { w.compiler id with resolver := r' } := by
      rw [World.compiler_setCompiler, if_pos rfl]
    have hsecond : (y between).outcome (between.compiler id).resolver = (res, r'', rs') := by
      rw [show y between = y w from hbeside _ _, hcompiler]
      exact hy []
    show (resolving id y).outcome between = _
    rw [outcome_resolving, hsecond, hcompiler]
    simp only [World.setCompiler, between, set_set, List.append_assoc]

theorem get?_resolving {x : World → Resolver.Resolving PUnit} {w' : World}
    (h : (resolving id x).outcome w = (.ok ⟨⟩, w')) : ∃ c, w'.compilers.get? id = some c := by
  rw [outcome_resolving] at h
  obtain ⟨-, rfl⟩ := orRefuse_eq_ok h
  exact ⟨_, get?_set_self _ _ _⟩

/-- **Adding references one by one is one resolving of all.** -/
theorem outcome_forM_addReference (hds : ∀ d ∈ ds, (Hint.declared? d).isSome) :
    w.compilers.get? id = some c → (ds.forM (addReference id)).outcome w =
      (resolving id fun w => ds.forM (Resolver.addType w)).outcome w := by
  induction ds generalizing w c with
  | nil => exact fun h => (addReferences_nil h).symm
  | cons d ds ih =>
    intro h
    have hds' : ∀ e ∈ ds, (Hint.declared? e).isSome := fun e he => hds e (List.mem_cons_of_mem d he)
    have hd : addReference id d = resolving id fun w => Resolver.addType w d :=
      addReference_eq (Hint.ne_module_of_declared (hds d List.mem_cons_self))
    calc ((d :: ds).forM (addReference id)).outcome w
        = (addReference id d >>= fun _ => ds.forM (addReference id)).outcome w := rfl
      _ = (addReference id d >>= fun _ => resolving id fun w =>
            ds.forM (Resolver.addType w)).outcome w := by
          rw [outcome_bind, outcome_bind]
          rcases hfirst : (addReference id d).outcome w with ⟨_ | ⟨⟨⟩⟩, w'⟩
          · rfl
          · obtain ⟨c', hc'⟩ := (get?_resolving (hd ▸ hfirst))
            exact ih hds' hc'
      _ = _ := by
          rw [hd]
          exact resolving_bind (Resolver.appends_addType w d) (Resolver.appends_forM_addType w ds)
            fun cs rs => Resolver.forM_addType_beside cs rs hds' w

/-! ## Annotations -/

/-- What is not declared has no module, and is refused before anything changes. -/
theorem addReference_undeclared (h : w.compilers.get? id = some c) (ha : ∀ m, a ≠ .module m)
    (hnone : Hint.declared? a = none) : (addReference id a).outcome w =
      (.error (.refused (Resolver.unresolved w a "module 'None' is not loaded")), w) := by
  have hc : w.compiler id = c := by rw [World.compiler, h, Option.getD_some]
  have hgenerated : Resolver.generatedModule? w a = none := by
    unfold Resolver.generatedModule?
    split
    · cases hnone
    · rfl
  have hmodule : Resolver.moduleOf? w c.resolver a =
      .error (Resolver.unresolved w a "module 'None' is not loaded") := by
    unfold Resolver.moduleOf?
    rw [hgenerated, Hint.declaringModule?, hnone]
    rfl
  have hrun : (Resolver.addType w a).outcome c.resolver =
      (.error (Resolver.unresolved w a "module 'None' is not loaded"), c.resolver, []) := by
    rw [Logged.outcome, Resolver.addType, Logged.run_bind]
    show ((Resolver.orRefuse (Resolver.moduleOf? w c.resolver a) >>= _).run (c.resolver, [])) = _
    rw [hmodule]
    rfl
  rw [addReference_eq ha, outcome_resolving, hc, hrun, List.append_nil, World.setCompiler,
    set_of_get?_eq_some h]
  rfl

/-- Both ways to reference an annotation are refused, or both succeed and leave the same references
and the same names of modules. -/
def Agree (id : String) (a : Value) (w : World) : Prop :=
  let one := (addReference id a).outcome w
  let all := (addReferences id [a]).outcome w
  (one.1 = .ok ⟨⟩ ↔ all.1 = .ok ⟨⟩) ∧ (one.1 = .ok ⟨⟩ →
    (one.2.compiler id).resolver.references = (all.2.compiler id).resolver.references ∧
      (one.2.compiler id).moduleNames = (all.2.compiler id).moduleNames)

theorem addReference_declared (ha : (Hint.declared? a).isSome) :
    addReference id a = addReferences id [a] := by
  have hone (w : World) : Resolver.addTypes w [a] = Resolver.addType w a := by
    rw [Resolver.addTypes, Hint.requiredTypes_declared ha]
    exact bind_pure_unit
  rw [addReference_eq (Hint.ne_module_of_declared ha), addReferences]
  simp only [hone]

/-- **How an annotation is referenced.** What annotations need is referenced as their declared types are,
one by one. For a declared type that is the type itself; anything else is refused if it is referenced
as a type, and nothing changes, whatever it consists of. So both ways agree for declared types, and for
what is refused as an annotation too. -/
theorem reference_annotation (h : w.compilers.get? id = some c) (ha : ∀ m, a ≠ .module m) :
    (addReferences id [a]).outcome w =
        ((Hint.requiredTypes [a]).forM (addReference id)).outcome w ∧
      ((Hint.declared? a).isSome → addReference id a = addReferences id [a]) ∧
      (Hint.declared? a = none → (addReference id a).outcome w =
        (.error (.refused (Resolver.unresolved w a "module 'None' is not loaded")), w)) ∧
      (Agree id a w ↔
        (Hint.declared? a).isSome ∨ ((addReferences id [a]).outcome w).1 ≠ .ok ⟨⟩) := by
  refine ⟨(outcome_forM_addReference (fun _ => Hint.isSome_declared?) h).symm, addReference_declared,
    addReference_undeclared h ha, ?_⟩
  cases hdeclared : Hint.declared? a with
  | some n =>
    refine iff_of_true ?_ (.inl rfl)
    rw [Agree, addReference_declared (by rw [hdeclared]; rfl)]
    exact ⟨Iff.rfl, fun _ => ⟨rfl, rfl⟩⟩
  | none =>
    rw [Agree, addReference_undeclared h ha hdeclared]
    simp

/-! ## An annotation composed of a class -/

/-- A compiler in the world with a class in a module of its own. -/
def referencingWorld : World :=
  (Hint.loneWorld (some "/m.py")).beside
    ⟨[("main", { workingDir := ".", version := "1", context := 0 })]⟩ []

theorem get?_referencingWorld : referencingWorld.compilers.get? "main" =
    some { workingDir := ".", version := "1", context := 0 } := rfl

/-- What needs the class alone brings in the module of the class. -/
theorem addReferences_lone (ha : Hint.requiredTypes [a] = [.cls Hint.lone]) :
    ((addReferences "main" [a]).outcome referencingWorld).1 = .ok ⟨⟩ ∧
      (((addReferences "main" [a]).outcome referencingWorld).2.compiler "main").moduleNames =
        ["m"] := by
  have hbeside : Resolver.addTypes referencingWorld [a] =
      Resolver.addTypes (Hint.loneWorld (some "/m.py")) [a] := by
    rw [Resolver.addTypes, Resolver.addTypes, ha]
    exact Resolver.forM_addType_beside _ _ (by simp [Hint.declared?]) _
  have hrun := Hint.addTypes_lone ha (some "/m.py") (l := ({}, [])) (by decide) rfl
  have hout : (Resolver.addTypes referencingWorld [a]).outcome {} =
      (.ok ⟨⟩, ((Resolver.addModule (Hint.loneWorld (some "/m.py")) 1).run ({}, [])).2) := by
    rw [hbeside]
    exact hrun
  have hresolver : (referencingWorld.compiler "main").resolver = {} := rfl
  rw [addReferences, outcome_resolving, hresolver, hout]
  exact ⟨rfl, rfl⟩

/-- Both ways agree for the class. -/
theorem reference_annotation_lone :
    referencingWorld.compilers.get? "main" =
        some { workingDir := ".", version := "1", context := 0 } ∧
      (∀ m, Value.cls Hint.lone ≠ .module m) ∧ Agree "main" (.cls Hint.lone) referencingWorld ∧
      ((addReference "main" (.cls Hint.lone)).outcome referencingWorld).1 = .ok ⟨⟩ := by
  obtain ⟨-, hdeclared, -, hagree⟩ :=
    reference_annotation get?_referencingWorld (a := .cls Hint.lone) nofun
  refine ⟨rfl, nofun, hagree.mpr (.inl rfl), ?_⟩
  rw [hdeclared rfl]
  exact (addReferences_lone rfl).1

/-- What needs the class and is not declared itself is referenced as a whole, and refused as a type. -/
theorem not_agree_of_composed (hneeds : Hint.requiredTypes [a] = [.cls Hint.lone])
    (hnone : Hint.declared? a = none) (ha : ∀ m, a ≠ .module m) :
    ¬ Agree "main" a referencingWorld := by
  intro h
  rw [Agree, addReference_undeclared get?_referencingWorld ha hnone] at h
  exact absurd (h.1.mpr (addReferences_lone hneeds).1) nofun

/-- **Both ways disagree for what is composed of the class:** an alias of the class with an argument, and
the class or nothing. -/
theorem composed_not_referenced :
    ¬ Agree "main" (.generic .plain (.cls Hint.lone) [.none]) referencingWorld ∧
      ¬ Agree "main" (.pipe [.cls Hint.lone, .none]) referencingWorld :=
  ⟨not_agree_of_composed rfl rfl nofun, not_agree_of_composed rfl rfl nofun⟩

end References

end Facade
