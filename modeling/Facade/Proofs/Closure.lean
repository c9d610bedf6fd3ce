import Facade.Proofs.Walks
import Mathlib.Data.List.Nodup

/-!
# What declared references lead to

Modules that are linked by declared references, in circles or not, are all referenced once one of them
is, each once and in depth-first order.

* `DepthFirst`: the order in which a graph is visited depth-first, each node before what it leads to.
* `DepthFirst.nodup`, `DepthFirst.mem_iff`: it lists what can be reached, once.
* `WellPlaced`: modules whose names and places tell them apart, as far as references lead.
* `walk_depthFirst`: among such modules a walk goes depth-first and is not ended.
* `closed_addModules`: what a resolver holds after modules have been added.
-/

namespace Facade

/-! ## Depth-first order -/

/-- **Depth-first order.** With some nodes visited and others ahead, these nodes are visited in this
order: a node that has not been visited comes first, then what it leads to, then the others. -/
inductive DepthFirst (next : Nat → List Nat) : List Nat → List Nat → List Nat → Prop
  | done (seen : List Nat) : DepthFirst next seen [] []
  | skip {seen ms os : List Nat} {m : Nat} (h : m ∈ seen) (hr : DepthFirst next seen ms os) :
    DepthFirst next seen (m :: ms) os
  | visit {seen ms os : List Nat} {m : Nat} (h : m ∉ seen)
    (hr : DepthFirst next (m :: seen) (next m ++ ms) os) : DepthFirst next seen (m :: ms) (m :: os)

namespace DepthFirst

variable {next : Nat → List Nat} {seen ms os : List Nat}

theorem not_mem_seen (h : DepthFirst next seen ms os) : ∀ m ∈ os, m ∉ seen := by
  induction h with
  | done seen => exact nofun
  | skip _ _ ih => exact ih
  | visit hm _ ih =>
    exact List.forall_mem_cons.mpr ⟨hm, fun k hk hs => ih k hk (List.mem_cons_of_mem _ hs)⟩

/-- No node is visited twice. -/
theorem nodup (h : DepthFirst next seen ms os) : os.Nodup := by
  induction h with
  | done seen => exact List.nodup_nil
  | skip _ _ ih => exact ih
  | visit _ hr ih => exact List.nodup_cons.mpr ⟨fun hm => hr.not_mem_seen _ hm List.mem_cons_self, ih⟩

/-- What is ahead is visited, and so is all that a visited node leads to. -/
theorem covers (h : DepthFirst next seen ms os) :
    (∀ m ∈ ms, m ∈ seen ∨ m ∈ os) ∧ ∀ m ∈ os, ∀ k ∈ next m, k ∈ seen ∨ k ∈ os := by
  induction h with
  | done seen => exact ⟨nofun, nofun⟩
  | skip hm _ ih => exact ⟨List.forall_mem_cons.mpr ⟨.inl hm, ih.1⟩, ih.2⟩
  | @visit seen ms os m hm _ ih =>
    have hmove {k : Nat} (hk : k ∈ m :: seen ∨ k ∈ os) : k ∈ seen ∨ k ∈ m :: os := by
      simp only [List.mem_cons] at hk ⊢
      tauto
    refine ⟨List.forall_mem_cons.mpr ⟨.inr List.mem_cons_self,
      fun k hk => hmove (ih.1 k (List.mem_append_right _ hk))⟩, List.forall_mem_cons.mpr ⟨?_, ?_⟩⟩
    · exact fun k hk => hmove (ih.1 k (List.mem_append_left _ hk))
    · exact fun i hi k hk => hmove (ih.2 i hi k hk)

/-- Only what can be reached is visited. -/
theorem reached (h : DepthFirst next seen ms os) :
    ∀ k ∈ os, ∃ m ∈ ms, Relation.ReflTransGen (fun i j => j ∈ next i) m k := by
  induction h with
  | done seen => exact nofun
  | skip _ _ ih =>
    intro k hk
    obtain ⟨m, hm, hpath⟩ := ih k hk
    exact ⟨m, List.mem_cons_of_mem _ hm, hpath⟩
  | @visit seen ms os m _ _ ih =>
    refine List.forall_mem_cons.mpr ⟨⟨m, List.mem_cons_self, .refl⟩, fun k hk => ?_⟩
    obtain ⟨i, hi, hpath⟩ := ih k hk
    rcases List.mem_append.mp hi with hi | hi
    · exact ⟨m, List.mem_cons_self, .head hi hpath⟩
    · exact ⟨i, List.mem_cons_of_mem m hi, hpath⟩

/-- **Depth-first order lists what can be reached.** -/
theorem mem_iff (h : DepthFirst next [] ms os) (k : Nat) :
    k ∈ os ↔ ∃ m ∈ ms, Relation.ReflTransGen (fun i j => j ∈ next i) m k := by
  refine ⟨h.reached k, ?_⟩
  rintro ⟨m, hm, hpath⟩
  induction hpath with
  | refl => exact (h.covers.1 m hm).resolve_left nofun
  | tail _ hedge ih => exact (h.covers.2 _ ih _ hedge).resolve_left nofun

end DepthFirst

namespace Resolver

open Logged

variable {w : World} {r : Resolver} {ms done os : List Nat} {o : Option Nat}

/-! ## Modules that can be told apart -/

/-- Modules that have places, and whose names and places tell them apart, as far as references lead from
some of them. -/
structure WellPlaced (w : World) (ms : List Nat) : Prop where
  placed : ∀ k, Reaches w ms k → (moduleLocation? w k).isSome
  names : ∀ j k, Reaches w ms j → Reaches w ms k → w.moduleName j = w.moduleName k → j = k
  places : ∀ j k, Reaches w ms j → Reaches w ms k → moduleLocation? w j = moduleLocation? w k → j = k

/-- The place of a module that has one. -/
def placeOf (w : World) (m : Nat) : String := (moduleLocation? w m).getD ""

/-- What a resolver holds after it has entered modules that can be told apart. -/
structure Holds (w : World) (r : Resolver) (os : List Nat) : Prop where
  seen : ∀ m, m ∈ r.seen ↔ m ∈ os
  modules : r.modules.entries = os.map fun m => (w.moduleName m, m)
  references : r.references.byLocation.entries =
    os.map fun m => (placeOf w m, ⟨w.moduleName m, placeOf w m⟩)

theorem Holds.toList (h : Holds w r os) :
    r.references.toList = os.map fun m => ⟨w.moduleName m, placeOf w m⟩ := by
  rw [ReferenceSet.toList, Table.values, h.references, List.map_map]
  rfl

theorem Holds.names (h : Holds w r os) : r.modules.keys = os.map w.moduleName := by
  rw [Table.keys, h.modules, List.map_map]
  rfl

theorem Holds.locations (h : Holds w r os) : r.references.locations = os.map (placeOf w) := by
  rw [ReferenceSet.locations, Table.keys, h.references, List.map_map]
  rfl

section WellPlaced

variable {as : List Nat} (hw : WellPlaced w as)

include hw

theorem WellPlaced.place {m : Nat} (hm : Reaches w as m) :
    moduleLocation? w m = some (placeOf w m) := by
  obtain ⟨l, hl⟩ := Option.isSome_iff_exists.mp (hw.placed m hm)
  rw [placeOf, hl, Option.getD_some]

/-- The place of a module that has not been entered has not been taken. -/
theorem WellPlaced.not_hasLocation {m : Nat} (h : Holds w r done) (hdone : ∀ k ∈ done, Reaches w as k)
    (hm : Reaches w as m) (hnew : m ∉ done) : r.references.hasLocation (placeOf w m) = false := by
  rw [Bool.eq_false_iff, ne_eq, ReferenceSet.hasLocation_iff, h.locations, List.mem_map]
  rintro ⟨k, hk, hplace⟩
  obtain rfl := hw.places k m (hdone k hk) hm (by rw [hw.place (hdone k hk), hw.place hm, hplace])
  exact hnew hk

/-- Entering a module that can be told from those before adds it to both tables. -/
theorem WellPlaced.holds_enter {m : Nat} (h : Holds w r done) (hdone : ∀ k ∈ done, Reaches w as k)
    (hm : Reaches w as m) (hnew : m ∉ done) : Holds w (enter w r m) (done ++ [m]) := by
  have hplace : r.references.byLocation.contains (placeOf w m) = false :=
    hw.not_hasLocation h hdone hm hnew
  have hname : r.modules.contains (w.moduleName m) = false := by
    rw [Bool.eq_false_iff, ne_eq, Table.contains_iff, h.names, List.mem_map]
    rintro ⟨k, hk, hname⟩
    exact hnew (hw.names k m (hdone k hk) hm hname ▸ hk)
  refine ⟨fun k => ?_, ?_, ?_⟩
  · rw [seen_enter, List.mem_cons, h.seen, List.mem_append, List.mem_singleton, or_comm]
  · simp only [enter, hw.place hm, Table.setDefault, hname, Bool.false_eq_true, if_false, h.modules,
      List.map_append, List.map_cons, List.map_nil]
  · simp only [enter, hw.place hm, ReferenceSet.add, Table.setDefault, hplace, Bool.false_eq_true,
      if_false, h.references, List.map_append, List.map_cons, List.map_nil]

/-- **Among modules that can be told apart a walk goes depth-first** and is not ended: each module that
it comes to opens all that it refers to. -/
theorem walk_depthFirst (h : Walk w r ms os o) : ∀ done, Holds w r done → (∀ k ∈ done, Reaches w as k) →
    (∀ k ∈ ms, Reaches w as k) → o = none ∧ DepthFirst (declaredReferences w) r.seen ms os ∧
      Holds w (os.foldl (enter w) r) (done ++ os) := by
  induction h with
  | done r => exact fun done hr _ _ => ⟨rfl, .done _, by simpa using hr⟩
  | seen hm _ ih =>
    intro done hr hdone hms
    obtain ⟨ho, horder, hholds⟩ := ih done hr hdone fun k hk => hms k (List.mem_cons_of_mem _ hk)
    exact ⟨ho, .skip hm horder, hholds⟩
  | @refused r m ms hm hl =>
    intro done hr hdone hms
    have := hw.place (hms m List.mem_cons_self)
    rw [hl] at this
    cases this
  | @entered r m ms os o l hm hl _ ih =>
    intro done hr hdone hms
    obtain ⟨hm', hms⟩ := List.forall_mem_cons.mp hms
    have hnew : m ∉ done := fun hd => hm ((hr.seen m).mpr hd)
    have hopened : opened w r m = declaredReferences w m := by
      simp only [opened, hw.place hm', hw.not_hasLocation hr hdone hm' hnew, Bool.false_eq_true,
        if_false]
    have hnext : ∀ k ∈ declaredReferences w m, Reaches w as k := by
      intro k hk
      obtain ⟨a, ha, hpath⟩ := hm'
      exact ⟨a, ha, hpath.tail hk⟩
    obtain ⟨ho, horder, hholds⟩ := ih (done ++ [m]) (hw.holds_enter hr hdone hm' hnew)
      (by simpa [or_imp, forall_and] using ⟨hdone, hm'⟩)
      (by simpa [hopened, or_imp, forall_and] using ⟨hnext, hms⟩)
    rw [hopened, seen_enter] at horder
    exact ⟨ho, .visit hm horder, by simpa using hholds⟩

end WellPlaced

/-! ## Adding modules -/

/-- **What references lead to is referenced, and nothing else.** From an empty resolver modules are
added one after the other. However they are linked, no addition runs out of depth, and afterwards the
resolver holds what they lead to: the modules by name and their places, each once, in depth-first
order. -/
theorem closed_addModules {ms : List Nat} (context : Option Nat) (hw : WellPlaced w ms) :
    (∀ fuel, w.objects.size < fuel → ∀ m r log,
      (addModuleFrom w fuel m).run (r, log) = (addModule w m).run (r, log)) ∧
    ∃ os r records, (ms.forM (addModule w)).outcome { context := context } = (.ok ⟨⟩, r, records) ∧
      DepthFirst (declaredReferences w) [] ms os ∧ os.Nodup ∧ (∀ k, k ∈ os ↔ Reaches w ms k) ∧
      r.modules.entries = (os.map fun m => (w.moduleName m, m)) ∧ r.modules.keys.Nodup ∧
      r.references.toList = (os.map fun m => ⟨w.moduleName m, placeOf w m⟩) ∧
      r.references.locations.Nodup := by
  constructor
  · intro fuel hfuel m r log
    obtain ⟨os, o, -, records, hrun⟩ := addModule_run w r m
    rw [hrun fuel hfuel, addModule, hrun _ (Nat.lt_succ_self _)]
  obtain ⟨os, o, hwalk, records, hrun⟩ :=
    forM_run (w := w) w.objects.size { context := context } ms (unvisited_le w _)
  obtain ⟨rfl, horder, hholds⟩ := walk_depthFirst hw hwalk [] ⟨by simp, rfl, rfl⟩
    (fun _ hk => absurd hk List.not_mem_nil) fun k hk => reaches_of_mem hk
  have hreached := horder.mem_iff
  have hnodup := horder.nodup
  rw [List.nil_append] at hholds
  refine ⟨os, _, records, hrun _ (Nat.lt_succ_self _) [], horder, hnodup, hreached, hholds.modules, ?_,
    hholds.toList, ?_⟩
  · rw [hholds.names]
    exact hnodup.map_on fun j hj k hk => hw.names j k ((hreached j).mp hj) ((hreached k).mp hk)
  · rw [hholds.locations]
    refine hnodup.map_on fun j hj k hk h => hw.places j k ((hreached j).mp hj) ((hreached k).mp hk) ?_
    rw [hw.place ((hreached j).mp hj), hw.place ((hreached k).mp hk), h]

/-! ## Modules in a circle -/

/-- Two modules that refer to each other and to a third one, which refers to itself. -/
def circleWorld : World where
  objects := #[
    .module { name := "a", globals := ⟨[("__file__", .str "/a.py"),
      (referencesAttribute, .tuple [.module 2, .module 1])]⟩ },
    .module { name := "b", globals := ⟨[("__file__", .str "/b.py"),
      (referencesAttribute, .tuple [.module 0, .module 2])]⟩ },
    .module { name := "c", globals := ⟨[("__file__", .str "/c.py"),
      (referencesAttribute, .tuple [.module 2])]⟩ }]

theorem lt_of_reaches_circle {k : Nat} (h : Reaches circleWorld [1, 0] k) : k < 3 := by
  have hnext : ∀ i < 3, ∀ j ∈ declaredReferences circleWorld i, j < 3 := by decide
  obtain ⟨m, hm, hpath⟩ := h
  have hm : m < 3 := by
    have : ∀ m ∈ [1, 0], m < 3 := by decide
    exact this m hm
  induction hpath with
  | refl => exact hm
  | tail _ hedge ih => exact hnext _ ih _ hedge

theorem wellPlaced_circle : WellPlaced circleWorld [1, 0] where
  placed k hk := by
    have h : ∀ k < 3, (moduleLocation? circleWorld k).isSome := by decide
    exact h k (lt_of_reaches_circle hk)
  names j k hj hk := by
    have h : ∀ j < 3, ∀ k < 3, circleWorld.moduleName j = circleWorld.moduleName k → j = k := by decide
    exact h j (lt_of_reaches_circle hj) k (lt_of_reaches_circle hk)
  places j k hj hk := by
    have h : ∀ j < 3, ∀ k < 3,
        moduleLocation? circleWorld j = moduleLocation? circleWorld k → j = k := by decide
    exact h j (lt_of_reaches_circle hj) k (lt_of_reaches_circle hk)

/-- The modules are visited as `b`, `a`, `c`. -/
theorem closed_addModules_circle : WellPlaced circleWorld [1, 0] ∧
    ∃ os r records, ([1, 0].forM (addModule circleWorld)).outcome {} = (.ok ⟨⟩, r, records) ∧
      DepthFirst (declaredReferences circleWorld) [] [1, 0] os ∧
      (∀ k, k ∈ os ↔ Reaches circleWorld [1, 0] k) ∧ r.modules.keys = ["b", "a", "c"] := by
  obtain ⟨os, r, records, hrun, horder, -, hreached, -⟩ := (closed_addModules none wellPlaced_circle).2
  refine ⟨wellPlaced_circle, os, r, records, hrun, horder, hreached, ?_⟩
  have hr : (([1, 0].forM (addModule circleWorld)).outcome {}).2.1.modules.keys = ["b", "a", "c"] := by
    decide
  rwa [hrun] at hr

end Resolver

end Facade
