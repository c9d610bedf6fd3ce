import Facade.Proofs.Outcome

/-!
# What no program undoes

Programs put objects into the store and change some of them, but an object keeps its kind and
most of what it was made with: a function its parameters and its body, a class its ancestors, a
class of the language everything. Nothing leaves a value cache, and what can be imported stays so.

* `Object.Becomes`: what can become of an object.
* `World.Grows`: what can become of a world.
* `World.Evolves`: the same where contexts and compilers stay as they are.
* `Run.GrowsAt`: an operation that only lets a world evolve, and which operations do.
-/

namespace Facade

/-- What can become of an object. -/
inductive Object.Becomes : Object → Object → Prop
  | cls (c : ClassInfo) (members : Table String Value) (h : c.builtin = true → members = c.members) :
    Becomes (.cls c) (.cls { c with members := members })
  | instance (i j : InstanceInfo) : Becomes (.instance i) (.instance j)
  | function (f : Function) (home : Option Nat) :
    Becomes (.function f) (.function { f with home := home })
  | module (m : ModuleInfo) (globals : Table String Value) :
    Becomes (.module m) (.module { m with globals := globals })
  | token : Becomes .token .token

namespace Object.Becomes

protected theorem refl (o : Object) : o.Becomes o := by
  cases o with
  | cls c => exact .cls c c.members fun _ => rfl
  | «instance» i => exact .instance i i
  | function f => exact .function f f.home
  | module m => exact .module m m.globals
  | token => exact .token

protected theorem trans {a b c : Object} (h : a.Becomes b) (h' : b.Becomes c) : a.Becomes c := by
  cases h with
  | cls c ms hm =>
    cases h' with
    | cls _ ns hn => exact .cls c ns fun hb => (hn hb).trans (hm hb)
  | «instance» i j => cases h' with | «instance» _ k => exact .instance i k
  | function f h => cases h' with | function _ k => exact .function f k
  | module m g => cases h' with | module _ k => exact .module m k
  | token => exact h'

end Object.Becomes

/-- What can become of a world. -/
structure World.Grows (w w' : World) : Prop where
  /-- Objects stay, as far as objects do. -/
  objects : ∀ (i : Nat) (o : Object), w.objects[i]? = some o →
    ∃ o' : Object, w'.objects[i]? = some o' ∧ o.Becomes o'
  /-- What can be imported stays so. -/
  importable : w'.importable = w.importable
  /-- Nothing leaves a cache. -/
  entries : ∀ c u v, (w.cache c).entries.get? u = some v → (w'.cache c).entries.get? u = some v
  /-- No cache goes away. -/
  caches : w.caches.size ≤ w'.caches.size

namespace World.Grows

variable {w w' w'' : World}

protected theorem refl (w : World) : w.Grows w :=
  ⟨fun _ o h => ⟨o, h, .refl o⟩, rfl, fun _ _ _ h => h, Nat.le_refl _⟩

protected theorem trans (h : w.Grows w') (h' : w'.Grows w'') : w.Grows w'' where
  objects i o ho := by
    obtain ⟨o', ho', hb⟩ := h.objects i o ho
    obtain ⟨o'', ho'', hb'⟩ := h'.objects i o' ho'
    exact ⟨o'', ho'', hb.trans hb'⟩
  importable := h'.importable.trans h.importable
  entries c u v hv := h'.entries c u v (h.entries c u v hv)
  caches := Nat.le_trans h.caches h'.caches

theorem size_le (h : w.Grows w') : w.objects.size ≤ w'.objects.size := by
  by_contra hc
  have hlt : w'.objects.size < w.objects.size := by omega
  obtain ⟨o', ho', -⟩ := h.objects w'.objects.size _ (Array.getElem?_eq_getElem hlt)
  simp at ho'

theorem function? (h : w.Grows w') {i : Nat} {f : Function} (hf : w.function? i = some f) :
    ∃ home, w'.function? i = some { f with home := home } := by
  unfold World.function? at hf
  split at hf
  · rename_i g hg
    obtain ⟨o', ho', hb⟩ := h.objects i _ hg
    cases hb with
    | function _ home =>
      cases hf
      exact ⟨home, by simp [World.function?, ho']⟩
  · simp at hf

theorem class? (h : w.Grows w') {i : Nat} {c : ClassInfo} (hc : w.class? i = some c) :
    ∃ members, w'.class? i = some { c with members := members } ∧
      (c.builtin = true → members = c.members) := by
  unfold World.class? at hc
  split at hc
  · rename_i d hd
    obtain ⟨o', ho', hb⟩ := h.objects i _ hd
    cases hb with
    | cls _ ms hm =>
      cases hc
      exact ⟨ms, by simp [World.class?, ho'], hm⟩
  · simp at hc

theorem linearisation (h : w.Grows w') {i : Nat} {c : ClassInfo} (hc : w.class? i = some c) :
    w'.linearisation i = w.linearisation i := by
  obtain ⟨ms, hms, -⟩ := h.class? hc
  simp [World.linearisation, hc, hms]

theorem module? (h : w.Grows w') {i : Nat} {m : ModuleInfo} (hm : w.module? i = some m) :
    ∃ globals, w'.module? i = some { m with globals := globals } := by
  unfold World.module? at hm
  split at hm
  · rename_i d hd
    obtain ⟨o', ho', hb⟩ := h.objects i _ hd
    cases hb with
    | module _ gs =>
      cases hm
      exact ⟨gs, by simp [World.module?, ho']⟩
  · simp at hm

/-- Only what is not in the store has changed. -/
theorem of_objects_eq (ho : w'.objects = w.objects) (hi : w'.importable = w.importable)
    (hc : w'.caches = w.caches) : w.Grows w' where
  objects i o h := ⟨o, by rw [ho]; exact h, .refl o⟩
  importable := hi
  entries c u v h := by
    rw [World.cache, hc]
    exact h
  caches := Nat.le_of_eq (congrArg Array.size hc.symm)

theorem push (w : World) (o : Object) : w.Grows { w with objects := w.objects.push o } where
  objects i p h := by
    have hi : i < w.objects.size := by
      by_contra hc
      rw [Array.getElem?_eq_none (by omega)] at h
      cases h
    exact ⟨p, by rw [← h]; exact Array.getElem?_push_lt hi |>.trans (Array.getElem?_eq_getElem hi).symm,
      .refl p⟩
  importable := rfl
  entries _ _ _ h := h
  caches := Nat.le_refl _

theorem replace {i : Nat} {o o' : Object} (h : w.objects[i]? = some o) (hb : o.Becomes o') :
    w.Grows { w with objects := w.objects.setIfInBounds i o' } where
  objects j p hp := by
    rw [Array.getElem?_setIfInBounds]
    by_cases hij : i = j
    · subst hij
      rw [h] at hp
      cases hp
      have hi : i < w.objects.size := by
        by_contra hc
        rw [Array.getElem?_eq_none (by omega)] at h
        cases h
      exact ⟨o', by simp [hi], hb⟩
    · exact ⟨p, by simpa [hij] using hp, .refl p⟩
  importable := rfl
  entries _ _ _ h := h
  caches := Nat.le_refl _

theorem replace_function {i : Nat} {f : Function} (h : w.function? i = some f)
    (home : Option Nat) :
    w.Grows { w with objects := w.objects.setIfInBounds i (.function { f with home := home }) } := by
  unfold World.function? at h
  split at h
  · rename_i g hg
    cases h
    exact replace hg (.function _ _)
  · simp at h

theorem replace_module {i : Nat} {m : ModuleInfo} (h : w.module? i = some m)
    (globals : Table String Value) :
    w.Grows
      { w with objects := w.objects.setIfInBounds i (.module { m with globals := globals }) } := by
  unfold World.module? at h
  split at h
  · rename_i g hg
    cases h
    exact replace hg (.module _ _)
  · simp at h

theorem replace_instance {i : Nat} {j : InstanceInfo} (h : w.instance? i = some j)
    (k : InstanceInfo) :
    w.Grows { w with objects := w.objects.setIfInBounds i (.instance k) } := by
  unfold World.instance? at h
  split at h
  · rename_i g hg
    cases h
    exact replace hg (.instance _ _)
  · simp at h

theorem replace_class {i : Nat} {c : ClassInfo} (h : w.class? i = some c)
    (hb : c.builtin = false) (members : Table String Value) :
    w.Grows { w with objects := w.objects.setIfInBounds i (.cls { c with members := members }) } := by
  unfold World.class? at h
  split at h
  · rename_i g hg
    cases h
    exact replace hg (.cls _ _ (by simp [hb]))
  · simp at h

end World.Grows

/-- What a program can make of a world: contexts and compilers stay as they are. -/
structure World.Evolves (w w' : World) : Prop extends w.Grows w' where
  contexts : w'.contexts = w.contexts
  compilers : w'.compilers = w.compilers

namespace World.Evolves

variable {w w' w'' : World}

protected theorem refl (w : World) : w.Evolves w := ⟨.refl w, rfl, rfl⟩

protected theorem trans (h : w.Evolves w') (h' : w'.Evolves w'') : w.Evolves w'' :=
  ⟨h.toGrows.trans h'.toGrows, h'.contexts.trans h.contexts, h'.compilers.trans h.compilers⟩

end World.Evolves

/-- Objects, caches, contexts and compilers are the same. -/
theorem World.Evolves.of_objects_eq {w w' : World} (ho : w'.objects = w.objects)
    (hi : w'.importable = w.importable) (hc : w'.caches = w.caches)
    (hx : w'.contexts = w.contexts) (hk : w'.compilers = w.compilers) : w.Evolves w' :=
  ⟨.of_objects_eq ho hi hc, hx, hk⟩

theorem World.Grows.evolves {w w' : World} (h : w.Grows w') (hc : w'.contexts = w.contexts)
    (hk : w'.compilers = w.compilers) : w.Evolves w' := ⟨h, hc, hk⟩

/-! ## Operations that let a world grow -/

namespace Run

open Facade.Execution

variable {α β γ : Type} {w : World}

/-- An operation lets a world evolve. -/
def GrowsAt (x : Run α) (w : World) : Prop := w.Evolves (x.outcome w).2

theorem GrowsAt.evolves {x : Run α} {w' : World} {r : Except Failure α} (h : x.GrowsAt w)
    (hx : x.outcome w = (r, w')) : w.Evolves w' := by
  unfold GrowsAt at h
  rwa [hx] at h

theorem GrowsAt.of_ok {x : Run α} {w' : World} {r : Except Failure α} (h : x.GrowsAt w)
    (hx : x.outcome w = (r, w')) : w.Grows w' := (h.evolves hx).toGrows

theorem GrowsAt.bind {x : Run α} {f : α → Run β} (h : x.GrowsAt w)
    (hf : ∀ a w', (f a).GrowsAt w') : (x >>= f).GrowsAt w := by
  unfold GrowsAt
  rw [outcome_bind]
  rcases hx : x.outcome w with ⟨r, w₁⟩
  have h₁ : w.Evolves w₁ := h.evolves hx
  cases r with
  | error e => exact h₁
  | ok a => exact h₁.trans (hf a w₁)

theorem growsAt_pure (a : α) : (pure a : Run α).GrowsAt w := World.Evolves.refl w

theorem growsAt_fault (f : Fault) : (fault f : Run α).GrowsAt w := World.Evolves.refl w

theorem growsAt_throw (e : Failure) : (throw e : Run α).GrowsAt w := World.Evolves.refl w

theorem growsAt_refuse (r : Refusal) : (refuse r : Run α).GrowsAt w := World.Evolves.refl w

theorem growsAt_lift (x : Except Fault α) : (lift x).GrowsAt w := by
  cases x <;> exact World.Evolves.refl w

theorem growsAt_modify {f : World → World} (ho : (f w).objects = w.objects)
    (hi : (f w).importable = w.importable) (hc : (f w).caches = w.caches)
    (hx : (f w).contexts = w.contexts) (hk : (f w).compilers = w.compilers) :
    (modify f : Run PUnit).GrowsAt w := World.Evolves.of_objects_eq ho hi hc hx hk

theorem growsAt_record (e : Event) : (record e).GrowsAt w := growsAt_modify rfl rfl rfl rfl rfl

theorem growsAt_log (r : LogRecord) : (log r).GrowsAt w := growsAt_modify rfl rfl rfl rfl rfl

theorem growsAt_orRefuse (x : Except Refusal α) : (orRefuse x).GrowsAt w := by
  cases x <;> exact World.Evolves.refl w

theorem growsAt_allocate (o : Object) : (allocate o).GrowsAt w :=
  World.Grows.evolves (.push w o) rfl rfl

theorem growsAt_get_bind {f : World → Run β} (h : (f w).GrowsAt w) :
    ((get : Run World) >>= f).GrowsAt w := h

theorem growsAt_lift_bind {x : Except Fault α} {f : α → Run β}
    (h : ∀ a, x = .ok a → (f a).GrowsAt w) : (lift x >>= f).GrowsAt w := by
  cases x with
  | error e => exact World.Evolves.refl w
  | ok a => exact h a rfl

theorem growsAt_fault_bind (e : Fault) (f : α → Run β) : (fault e >>= f).GrowsAt w :=
  World.Evolves.refl w

theorem growsAt_refuse_bind (r : Refusal) (f : α → Run β) : (refuse r >>= f).GrowsAt w :=
  World.Evolves.refl w

theorem growsAt_map {x : Run α} (g : α → β) (h : x.GrowsAt w) : (g <$> x).GrowsAt w := by
  rw [map_eq_pure_bind]
  exact h.bind fun a _ => growsAt_pure (g a)

theorem growsAt_discard {x : Run α} (h : x.GrowsAt w) : (discard x).GrowsAt w :=
  growsAt_map _ h

theorem growsAt_ite {c : Prop} [Decidable c] {x y : Run α} (hx : c → x.GrowsAt w)
    (hy : ¬ c → y.GrowsAt w) : (if c then x else y).GrowsAt w := by
  split
  · exact hx ‹_›
  · exact hy ‹_›

theorem growsAt_mapM {f : α → Run β} (l : List α) (h : ∀ a w, (f a).GrowsAt w) :
    ∀ w, (l.mapM f).GrowsAt w := by
  induction l with
  | nil => exact fun w => growsAt_pure []
  | cons a l ih =>
    intro w
    rw [List.mapM_cons]
    exact (h a w).bind fun b w => (ih w).bind fun bs w => growsAt_pure (b :: bs)

theorem growsAt_optionMapM {f : α → Run β} (o : Option α) (h : ∀ a w, (f a).GrowsAt w) :
    (o.mapM f).GrowsAt w := by
  cases o with
  | none => exact growsAt_pure none
  | some a => exact growsAt_map some (h a w)

theorem growsAt_foldlM {f : β → α → Run β} (l : List α) (h : ∀ b a w, (f b a).GrowsAt w) :
    ∀ (b : β) w, (l.foldlM f b).GrowsAt w := by
  induction l with
  | nil => exact fun b w => growsAt_pure b
  | cons a l ih =>
    intro b w
    rw [List.foldlM_cons]
    exact (h b a w).bind fun c w => ih c w

theorem growsAt_foldrM {f : α → β → Run β} (l : List α) (h : ∀ a b w, (f a b).GrowsAt w) :
    ∀ (b : β) w, (l.foldrM f b).GrowsAt w := by
  induction l with
  | nil => exact fun b w => growsAt_pure b
  | cons a l ih =>
    intro b w
    rw [List.foldrM_cons]
    exact (ih b w).bind fun c w => h a c w

theorem growsAt_forM {f : α → Run PUnit} (l : List α) (h : ∀ a w, (f a).GrowsAt w) :
    ∀ w, (l.forM f).GrowsAt w := by
  induction l with
  | nil => exact fun w => growsAt_pure PUnit.unit
  | cons a l ih =>
    intro w
    exact (h a w).bind fun _ w => ih w

theorem growsAt_tryCatch {x : Run α} {h : Failure → Run α} (hx : x.GrowsAt w)
    (hh : ∀ e w', (h e).GrowsAt w') : (tryCatch x h).GrowsAt w := by
  unfold GrowsAt
  rw [outcome_tryCatch]
  rcases ho : x.outcome w with ⟨r, w₁⟩
  have h₁ : w.Evolves w₁ := hx.evolves ho
  cases r with
  | ok a => exact h₁
  | error e => exact h₁.trans (hh e w₁)

end Run

end Facade
