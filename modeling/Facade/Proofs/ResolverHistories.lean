import Facade.Proofs.Walks

/-!
# Histories of a resolver

Modules and types are added one after the other, and some of it is refused. Whatever has been done, the
two tables of a resolver fit together, and they only grow.

* `Addition`, `resolverAfter`: what can be added to a resolver, and what comes of it in turn.
* `Enters`: whatever is added, a resolver has only entered modules.
* `Coherent`: references and modules that fit together; `coherent_enter`, `coherent_after`: they do
  after every step, and so after every history.
* `again_run`: what has been added can be added again, and changes nothing.
* `coherent_history`: what can be relied on after any history.
* `sharedWorld`: two modules that share a place.
-/

namespace Facade.Resolver

open Logged

variable {w : World} {r r' r₁ r₂ : Resolver} {m : Nat} {hint : Value}

/-! ## Histories -/

/-- What can be added to a resolver. -/
inductive Addition where
  /-- A module. -/
  | module (m : Nat)
  /-- The module of a type. -/
  | type (hint : Value)
  /-- The modules of all types that annotations consist of. -/
  | types (hints : List Value)

/-- Adds it. -/
def Addition.run (w : World) : Addition → Resolving Unit
  | .module m => addModule w m
  | .type hint => addType w hint
  | .types hints => addTypes w hints

/-- A resolver after additions, each of which may have been refused. -/
def resolverAfter (w : World) (r : Resolver) (as : List Addition) : Resolver :=
  as.foldl (fun r a => ((a.run w).outcome r).2.1) r

/-! ## Only modules are entered -/

/-- A resolver that has entered modules since another one. -/
def Enters (w : World) (r r' : Resolver) : Prop := ∃ os : List Nat, r' = os.foldl (enter w) r

theorem Enters.refl (r : Resolver) : Enters w r r := ⟨[], rfl⟩

theorem Enters.trans (r r' r'' : Resolver) (h : Enters w r r') (h' : Enters w r' r'') :
    Enters w r r'' := by
  obtain ⟨os, rfl⟩ := h
  obtain ⟨ps, rfl⟩ := h'
  exact ⟨os ++ ps, (List.foldl_append ..).symm⟩

theorem Enters.extends_ (h : Enters w r r') : Extends r r' := by
  obtain ⟨os, rfl⟩ := h
  exact extends_foldl os r

theorem enters_addModule (m : Nat) (r : Resolver) : KeepsAt (Enters w) (addModule w m) r := by
  intro log
  obtain ⟨os, o, -, records, hrun⟩ := addModule_run w r m
  exact ⟨os, congrArg (·.2.1) (hrun _ (Nat.lt_succ_self _) log)⟩

theorem enters_addType (hint : Value) (r : Resolver) : KeepsAt (Enters w) (addType w hint) r := by
  intro log
  rcases addType_run_cases w r hint with ⟨-, reason, hrun⟩ | ⟨m, os, o, -, -, -, records, hrun⟩
  · exact ⟨[], congrArg (·.2.1) (hrun log)⟩
  · exact ⟨os, congrArg (·.2.1) (hrun log)⟩

/-- **Whatever is added, modules are entered and nothing else happens.** -/
theorem enters_run (a : Addition) (r : Resolver) : Enters w r ((a.run w).outcome r).2.1 := by
  cases a with
  | module m => exact enters_addModule m r []
  | type hint => exact enters_addType hint r []
  | types hints =>
    exact keepsAt_forM Enters.refl Enters.trans _ (fun hint r => enters_addType hint r) r []

theorem enters_after (as : List Addition) : ∀ r, Enters w r (resolverAfter w r as) := by
  induction as with
  | nil => exact Enters.refl
  | cons a as ih => exact fun r => (enters_run a r).trans _ _ _ (ih _)

/-! ## Tables that fit together -/

/-- References and modules that fit together: no place and no name comes twice, references are listed
under their places, what is referenced can be imported, and every module is one that was visited and
has its place referenced. -/
structure Coherent (w : World) (r : Resolver) : Prop where
  keyed : ∀ e ∈ r.references.byLocation.entries, e.2.location = e.1
  places : r.references.locations.Nodup
  names : r.modules.keys.Nodup
  imported : ∀ x ∈ r.references.toList, x.moduleName ∈ r.modules.keys
  placed : ∀ k ∈ r.modules.values, ∃ l ∈ r.references.locations, moduleLocation? w k = some l
  held : ∀ k ∈ r.modules.values, k ∈ r.seen

theorem coherent_new (w : World) (context : Option Nat) : Coherent w { context := context } where
  keyed := nofun
  places := List.nodup_nil
  names := List.nodup_nil
  imported := nofun
  placed := nofun
  held := nofun

/-- The places of references are those that they are listed under. -/
theorem Coherent.locations_eq (h : Coherent w r) :
    r.references.toList.map Reference.location = r.references.locations := by
  unfold ReferenceSet.toList ReferenceSet.locations Table.values Table.keys
  rw [List.map_map]
  exact List.map_congr_left h.keyed

/-- **A module that is entered fits in.** -/
theorem coherent_enter (h : Coherent w r) (m : Nat) : Coherent w (enter w r m) := by
  unfold enter
  cases hl : moduleLocation? w m with
  | none => exact { h with held := fun k hk => List.mem_cons_of_mem m (h.held k hk) }
  | some l =>
    have hreferences := Table.keys_subset_of_prefix
      (Table.prefix_setDefault r.references.byLocation l ⟨w.moduleName m, l⟩)
    have hmodules := Table.keys_subset_of_prefix
      (Table.prefix_setDefault r.modules (w.moduleName m) m)
    refine ⟨fun e he => ?_, Table.nodup_keys_setDefault h.places _ _,
      Table.nodup_keys_setDefault h.names _ _, fun x hx => ?_, fun k hk => ?_, fun k hk => ?_⟩
    · rcases Table.mem_entries_setDefault he with he | rfl
      · exact h.keyed e he
      · rfl
    · obtain ⟨e, he, rfl⟩ := List.mem_map.mp hx
      rcases Table.mem_entries_setDefault he with he | rfl
      · exact hmodules _ (h.imported _ (List.mem_map_of_mem he))
      · exact Table.mem_keys_setDefault_self _ _ _
    · obtain ⟨e, he, rfl⟩ := List.mem_map.mp hk
      rcases Table.mem_entries_setDefault he with he | rfl
      · obtain ⟨l', hl', hplace⟩ := h.placed _ (List.mem_map_of_mem he)
        exact ⟨l', hreferences _ hl', hplace⟩
      · exact ⟨l, Table.mem_keys_setDefault_self _ _ _, hl⟩
    · obtain ⟨e, he, rfl⟩ := List.mem_map.mp hk
      rcases Table.mem_entries_setDefault he with he | rfl
      · exact List.mem_cons_of_mem m (h.held _ (List.mem_map_of_mem he))
      · exact List.mem_cons_self

theorem Coherent.enters (h : Coherent w r) (he : Enters w r r') : Coherent w r' := by
  obtain ⟨os, rfl⟩ := he
  induction os generalizing r with
  | nil => exact h
  | cons m os ih => exact ih (coherent_enter h m)

/-- **The tables fit together after every history.** -/
theorem coherent_after (context : Option Nat) (as : List Addition) :
    Coherent w (resolverAfter w { context := context } as) :=
  (coherent_new w context).enters (enters_after as _)

/-! ## Adding again -/

theorem addModule_run_seen (h : m ∈ r.seen) (log : List LogRecord) :
    (addModule w m).run (r, log) = (.ok ⟨⟩, r, log) := addModuleFrom_run_seen h _ log

/-- The module of a name that has been found is still found, or one that has been visited comes
first. -/
theorem findModule?_again {n : String} (hfind : findModule? w r n = some m) (hm : m ∈ r₂.seen)
    (h : Extends r r₂) (hc : Coherent w r₂) : ∃ k, findModule? w r₂ n = some k ∧ k ∈ r₂.seen := by
  cases hmodules : r₂.modules.get? n with
  | some k =>
    have hk : (n, k) ∈ r₂.modules.entries := (Table.get?_eq_some_iff hc.names).mp hmodules
    exact ⟨k, by rw [findModule?, hmodules]; rfl, hc.held k (List.mem_map_of_mem hk)⟩
  | none =>
    refine ⟨m, ?_, hm⟩
    have hnone : r.modules.get? n = none := by
      cases hr : r.modules.get? n with
      | none => rfl
      | some k => rw [Table.get?_of_prefix h.modules hr] at hmodules; cases hmodules
    rw [← hfind, findModule?, findModule?, hmodules, hnone, h.context]

theorem moduleOf?_again (hmodule : moduleOf? w r hint = .ok m) (hm : m ∈ r₂.seen)
    (h : Extends r r₂) (hc : Coherent w r₂) : ∃ k, moduleOf? w r₂ hint = .ok k ∧ k ∈ r₂.seen := by
  unfold moduleOf? at hmodule ⊢
  split at hmodule
  · exact ⟨m, hmodule, hm⟩
  · dsimp only at hmodule ⊢
    split at hmodule
    · rename_i k hk
      obtain rfl := Except.ok.inj hmodule
      obtain ⟨n, hn, hfind⟩ := Option.bind_eq_some_iff.mp hk
      obtain ⟨j, hj, hseen⟩ := findModule?_again hfind hm h hc
      rw [hn, Option.bind_some, hj]
      exact ⟨j, rfl, hseen⟩
    · cases hmodule

/-- A module that was added has been visited. -/
theorem seen_of_addModule {log log' : List LogRecord}
    (h : (addModule w m).run (r, log) = (.ok ⟨⟩, r₁, log')) : m ∈ r₁.seen := by
  obtain ⟨os, o, hwalk, records, hrun⟩ := addModule_run w r m
  have hended : (ended w o, os.foldl (enter w) r, log ++ records) = (.ok ⟨⟩, r₁, log') :=
    (hrun _ (Nat.lt_succ_self _) log).symm.trans h
  simp only [Prod.mk.injEq] at hended
  obtain ⟨ho, rfl, -⟩ := hended
  cases o with
  | some b => cases ho
  | none => exact hwalk.visits m List.mem_cons_self

theorem addType_again {log log' : List LogRecord}
    (h : (addType w hint).run (r, log) = (.ok ⟨⟩, r₁, log')) (h₂ : Extends r₁ r₂)
    (hc : Coherent w r₂) (log₂ : List LogRecord) :
    (addType w hint).run (r₂, log₂) = (.ok ⟨⟩, r₂, log₂) := by
  rcases addType_run_cases w r hint with ⟨-, reason, hrun⟩ | ⟨m, os, o, hm, hlocal, hwalk, records, hrun⟩
  · cases (Prod.mk.inj ((hrun log).symm.trans h)).1
  · have hended : (endedFor w hint o, os.foldl (enter w) r, log ++ records) = (.ok ⟨⟩, r₁, log') :=
      (hrun log).symm.trans h
    simp only [Prod.mk.injEq] at hended
    obtain ⟨ho, rfl, -⟩ := hended
    cases o with
    | some b => cases ho
    | none =>
      have hseen := h₂.seen (hwalk.visits m List.mem_cons_self)
      obtain ⟨k, hk, hkseen⟩ := moduleOf?_again hm hseen ((extends_foldl os r).trans h₂) hc
      exact addType_run hk hlocal (addModule_run_seen hkseen log₂)

theorem addAll_again (hints : List Value) : ∀ {r : Resolver} {log log' : List LogRecord},
    (hints.forM (addType w)).run (r, log) = (.ok ⟨⟩, r₁, log') → Extends r₁ r₂ → Coherent w r₂ →
      ∀ log₂, (hints.forM (addType w)).run (r₂, log₂) = (.ok ⟨⟩, r₂, log₂) := by
  induction hints with
  | nil => exact fun _ _ _ _ => rfl
  | cons hint hints ih =>
    intro r log log' h h₂ hc log₂
    have h : (addType w hint >>= fun _ => hints.forM (addType w)).run (r, log) = _ := h
    rw [run_bind] at h
    rcases hone : (addType w hint).run (r, log) with ⟨_ | ⟨⟨⟩⟩, r', log''⟩
    · rw [hone] at h
      cases (Prod.mk.inj h).1
    · rw [hone] at h
      have hrest : Extends r' r₁ := by
        have hkeep := keepsAt_forM Enters.refl Enters.trans hints
          (fun hint r => enters_addType (w := w) hint r) r' log''
        rw [show (hints.forM (addType w)).run (r', log'') = _ from h] at hkeep
        exact hkeep.extends_
      show (addType w hint >>= fun _ => hints.forM (addType w)).run (r₂, log₂) = _
      rw [run_bind, addType_again hone (hrest.trans h₂) hc log₂]
      exact ih h h₂ hc log₂

/-- **What has been added can be added again, and changes nothing.** -/
theorem again_run {a : Addition} (h : ((a.run w).outcome r).1 = .ok ⟨⟩)
    (h₂ : Extends ((a.run w).outcome r).2.1 r₂) (hc : Coherent w r₂) :
    (a.run w).outcome r₂ = (.ok ⟨⟩, r₂, []) := by
  have hrun : (a.run w).run (r, []) =
      (.ok ⟨⟩, ((a.run w).outcome r).2.1, ((a.run w).outcome r).2.2) := Prod.ext h rfl
  cases a with
  | module m => exact addModule_run_seen (h₂.seen (seen_of_addModule hrun)) []
  | type hint => exact addType_again hrun h₂ hc []
  | types hints => exact addAll_again _ hrun h₂ hc []

/-! ## What can be relied on -/

/-- **What can be relied on after any history:** no place comes twice among the references and no name
among the modules, what is referenced can be imported, every module has its place referenced, what was
recorded first stays in front whatever is added later, and what was added can be added again at any
time without a change. -/
theorem coherent_history (w : World) (context : Option Nat) (as : List Addition) :
    let r := resolverAfter w { context := context } as
    (r.references.toList.map Reference.location).Nodup ∧ r.modules.keys.Nodup ∧
    (∀ x ∈ r.references.toList, x.moduleName ∈ r.modules.keys) ∧
    (∀ k ∈ r.modules.values,
      ∃ x ∈ r.references.toList, moduleLocation? w k = some x.location) ∧
    (∀ later, r.modules.entries <+: (resolverAfter w r later).modules.entries ∧
      r.references.toList <+: (resolverAfter w r later).references.toList) ∧
    ∀ a later, ((a.run w).outcome r).1 = .ok ⟨⟩ →
      (a.run w).outcome (resolverAfter w r (a :: later)) =
        (.ok ⟨⟩, resolverAfter w r (a :: later), []) := by
  intro r
  have hc : Coherent w r := coherent_after context as
  refine ⟨hc.locations_eq ▸ hc.places, hc.names, hc.imported, fun k hk => ?_, fun later => ?_,
    fun a later ha => ?_⟩
  · obtain ⟨l, hl, hplace⟩ := hc.placed k hk
    rw [← hc.locations_eq] at hl
    obtain ⟨x, hx, rfl⟩ := List.mem_map.mp hl
    exact ⟨x, hx, hplace⟩
  · have hlater : Extends r (resolverAfter w r later) := (enters_after later r).extends_
    exact ⟨hlater.modules, hlater.references.map Prod.snd⟩
  · exact again_run ha (enters_after later _).extends_ (hc.enters (enters_after (a :: later) r))

/-! ## Modules that share a place -/

/-- Two modules in one file, which refer to each other, and one of the first one's name that has no
place. -/
def sharedWorld : World where
  objects := #[
    .module { name := "a", globals := ⟨[("__file__", .str "/a.py"),
      (referencesAttribute, .tuple [.module 1])]⟩ },
    .module { name := "b", globals := ⟨[("__file__", .str "/a.py"),
      (referencesAttribute, .tuple [.module 0])]⟩ },
    .module { name := "a" }]

/-- The place is referenced for the first module, both can be imported, and after a refusal the second
one can be added again without a change. -/
theorem coherent_history_shared :
    let r := resolverAfter sharedWorld {} [.module 0, .module 2]
    r.references.toList = [⟨"a", "/a.py"⟩] ∧ r.modules.keys = ["a", "b"] ∧
      (((Addition.module 1).run sharedWorld).outcome r).1 = .ok ⟨⟩ ∧
      ((Addition.module 1).run sharedWorld).outcome
          (resolverAfter sharedWorld r [.module 1, .module 2]) =
        (.ok ⟨⟩, resolverAfter sharedWorld r [.module 1, .module 2], []) := by
  have hadded : (((Addition.module 1).run sharedWorld).outcome
      (resolverAfter sharedWorld {} [.module 0, .module 2])).1 = .ok ⟨⟩ := rfl
  obtain ⟨-, -, -, -, -, hagain⟩ := coherent_history sharedWorld none [.module 0, .module 2]
  exact ⟨by decide, by decide, hadded, hagain (.module 1) [.module 2] hadded⟩

end Facade.Resolver
