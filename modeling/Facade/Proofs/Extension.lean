import Facade.Proofs.Growth

/-!
# Worlds that are only added to

While a module is being loaded, objects and cached values are added and nothing that was there
changes.

* `World.Extends`: a world that has everything another one has, as it is there.
* `World.Extends.grows`: such a world has grown.
* `mapM_eq_ok`, `foldlM_eq_ok`: operations on all members of a list.
-/

namespace Facade

/-- A world that has all objects and cached values of another one, as they are there. -/
structure World.Extends (w w' : World) : Prop where
  objects : ∀ (i : Nat) (o : Object), w.objects[i]? = some o → w'.objects[i]? = some o
  importable : w'.importable = w.importable
  entries : ∀ c u v, (w.cache c).entries.get? u = some v → (w'.cache c).entries.get? u = some v
  caches : w.caches.size ≤ w'.caches.size

namespace World.Extends

variable {w w' w'' : World}

protected theorem refl (w : World) : w.Extends w :=
  ⟨fun _ _ h => h, rfl, fun _ _ _ h => h, Nat.le_refl _⟩

protected theorem trans (h : w.Extends w') (h' : w'.Extends w'') : w.Extends w'' where
  objects i o ho := h'.objects i o (h.objects i o ho)
  importable := h'.importable.trans h.importable
  entries c u v hv := h'.entries c u v (h.entries c u v hv)
  caches := Nat.le_trans h.caches h'.caches

/-- What is only added to has grown. -/
theorem grows (h : w.Extends w') : w.Grows w' where
  objects i o ho := ⟨o, h.objects i o ho, .refl o⟩
  importable := h.importable
  entries := h.entries
  caches := h.caches

theorem size_le (h : w.Extends w') : w.objects.size ≤ w'.objects.size := h.grows.size_le

theorem function? (h : w.Extends w') {i : Nat} {f : Function} (hf : w.function? i = some f) :
    w'.function? i = some f := by
  unfold World.function? at hf ⊢
  split at hf
  · rename_i hg
    rw [h.objects i _ hg, ← hf]
  · cases hf

theorem class? (h : w.Extends w') {i : Nat} {c : ClassInfo} (hc : w.class? i = some c) :
    w'.class? i = some c := by
  unfold World.class? at hc ⊢
  split at hc
  · rename_i hg
    rw [h.objects i _ hg, ← hc]
  · cases hc

theorem module? (h : w.Extends w') {i : Nat} {m : ModuleInfo} (hm : w.module? i = some m) :
    w'.module? i = some m := by
  unfold World.module? at hm ⊢
  split at hm
  · rename_i hg
    rw [h.objects i _ hg, ← hm]
  · cases hm

theorem instance? (h : w.Extends w') {i : Nat} {j : InstanceInfo} (hj : w.instance? i = some j) :
    w'.instance? i = some j := by
  unfold World.instance? at hj ⊢
  split at hj
  · rename_i hg
    rw [h.objects i _ hg, ← hj]
  · cases hj

/-- Only what is not in the store has changed. -/
theorem of_objects_eq (ho : w'.objects = w.objects) (hi : w'.importable = w.importable)
    (hc : w'.caches = w.caches) : w.Extends w' where
  objects i o h := by rw [ho]; exact h
  importable := hi
  entries c u v h := by
    rw [World.cache, hc]
    exact h
  caches := Nat.le_of_eq (congrArg Array.size hc.symm)

theorem push (w : World) (o : Object) : w.Extends { w with objects := w.objects.push o } where
  objects i p h := by
    obtain ⟨hi, hp⟩ := Array.getElem?_eq_some_iff.mp h
    show (w.objects.push o)[i]? = some p
    rw [Array.getElem?_push_lt hi, hp]
  importable := rfl
  entries _ _ _ h := h
  caches := Nat.le_refl _

/-- An object that was not there can be replaced. -/
theorem replace_of_le (h : w.Extends w') {i : Nat} (hi : w.objects.size ≤ i) (o : Object) :
    w.Extends { w' with objects := w'.objects.setIfInBounds i o } where
  objects j p hp := by
    obtain ⟨hj, -⟩ := Array.getElem?_eq_some_iff.mp hp
    show (w'.objects.setIfInBounds i o)[j]? = some p
    rw [Array.getElem?_setIfInBounds, if_neg (by omega)]
    exact h.objects j p hp
  importable := h.importable
  entries := h.entries
  caches := h.caches

end World.Extends

/-! ## Lists of operations -/

namespace Run

variable {α β : Type} {w w' : World}

/-- What operations on all members of a list give, if each only adds to the world. -/
theorem mapM_eq_ok {f : α → Run β} {R : α → β → Prop} (l : List α) {w w' : World} {bs : List β}
    (hf : ∀ a ∈ l, ∀ w₁ b w₂, w.Extends w₁ → (f a).outcome w₁ = (.ok b, w₂) → R a b ∧ w₁.Extends w₂)
    (h : (l.mapM f).outcome w = (.ok bs, w')) : List.Forall₂ R l bs ∧ w.Extends w' :=
  mapM_gives (R := fun _ => R) World.Extends.refl World.Extends.trans (fun _ h => h) l hf h

theorem optionMapM_eq_ok {f : α → Run β} {R : α → β → Prop} (o : Option α) {b : Option β}
    (hf : ∀ a ∈ o, ∀ b w', (f a).outcome w = (.ok b, w') → R a b ∧ w.Extends w')
    (h : (o.mapM f).outcome w = (.ok b, w')) : Option.Rel R o b ∧ w.Extends w' :=
  optionMapM_gives (R := fun _ => R) World.Extends.refl o hf h

end Run

end Facade
