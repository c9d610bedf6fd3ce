import Facade.Proofs.Outcome
import Facade.Reference.Resolver

/-!
# What resolving keeps

The first module that is resolved under a name stays the module of the name.

* `Keeps`: a resolver that has what another one has resolved.
* `keepsAt_addType`, `keepsAt_addModule`, `keepsAt_addTypes`: resolving only adds.
* `addType_run`, `addType_run_refused`: adding a type is adding its module.
-/

namespace Facade.Resolver

open Logged

variable {w : World} {r r' : Resolver}

/-- A resolver that has what another one has resolved. -/
structure Keeps (r r' : Resolver) : Prop where
  context : r'.context = r.context
  modules : ∀ k m, r.modules.get? k = some m → r'.modules.get? k = some m

protected theorem Keeps.refl (r : Resolver) : Keeps r r := ⟨rfl, fun _ _ h => h⟩

protected theorem Keeps.trans (r r' r'' : Resolver) (h : Keeps r r') (h' : Keeps r' r'') :
    Keeps r r'' :=
  ⟨h'.context.trans h.context, fun k m hm => h'.modules k m (h.modules k m hm)⟩

/-- The first module of a name stays. -/
theorem get?_setDefault_of_some {t : Table String Nat} {k x : String} {m j : Nat}
    (h : t.get? k = some m) : (t.setDefault x j).get? k = some m := by
  rw [Table.get?_setDefault, if_neg, h]
  rintro ⟨hc, rfl⟩
  rw [Table.contains, h] at hc
  cases hc

theorem keepsAt_orRefuse {α : Type} (x : Except Refusal α) : KeepsAt Keeps (orRefuse x) r := by
  cases x with
  | ok a => exact keepsAt_pure .refl a
  | error e => exact keepsAt_throw .refl e

theorem keepsAt_addModuleFrom (fuel : Nat) : ∀ m r, KeepsAt Keeps (addModuleFrom w fuel m) r := by
  induction fuel with
  | zero => exact fun _ _ => keepsAt_pure .refl ()
  | succ fuel ih =>
    intro m r
    rw [addModuleFrom]
    refine keepsAt_state_bind ?_
    split
    · exact keepsAt_pure .refl ()
    refine (keepsAt_change ⟨rfl, fun _ _ h => h⟩).bind .trans fun _ r₁ _ => ?_
    refine (keepsAt_orRefuse _).bind .trans fun location r₂ _ => ?_
    dsimp only
    refine (keepsAt_change ⟨rfl, fun _ _ h => get?_setDefault_of_some h⟩).bind .trans
      fun _ r₃ _ => ?_
    split
    · exact (keepsAt_note .refl _).bind .trans fun _ r₄ _ => keepsAt_forM .refl .trans _ ih r₄
    · exact keepsAt_note .refl _

theorem keepsAt_addModule (m : Nat) (r : Resolver) : KeepsAt Keeps (addModule w m) r :=
  keepsAt_addModuleFrom _ m r

theorem keepsAt_addType (hint : Value) (r : Resolver) : KeepsAt Keeps (addType w hint) r := by
  unfold addType
  refine keepsAt_state_bind ?_
  refine (keepsAt_orRefuse _).bind .trans fun m r₁ _ => ?_
  dsimp only
  split
  · exact keepsAt_throw .refl _
  · refine keepsAt_tryCatch .trans (keepsAt_addModule m _) fun e r₂ => ?_
    split <;> exact keepsAt_throw .refl _

/-- **Resolving only adds.** -/
theorem keepsAt_addTypes (annotations : List Value) (r : Resolver) :
    KeepsAt Keeps (addTypes w annotations) r :=
  keepsAt_forM .refl .trans _ (fun hint r => keepsAt_addType hint r) r

/-! ## What has been added -/

theorem gives_orRefuse {α : Type} {x : Except Refusal α} {a : α} (h : (orRefuse x).Gives r a r') :
    x = .ok a ∧ r' = r := by
  cases x with
  | ok b =>
    obtain ⟨rfl, rfl⟩ := gives_pure h
    exact ⟨rfl, rfl⟩
  | error e => exact (gives_throw h).elim

/-- Adding a type that can be imported is adding its module. -/
theorem addType_run {hint : Value} {m : Nat} {l l' : Resolver × List LogRecord}
    (hm : moduleOf? w l.1 hint = .ok m)
    (hq : (((Hint.nameParts? hint).map Prod.snd).getD "").contains "<locals>" = false)
    (h : (addModule w m).run l = (.ok ⟨⟩, l')) : (addType w hint).run l = (.ok ⟨⟩, l') := by
  unfold addType
  rw [run_bind, show state.run l = (.ok l.1, l) from rfl]
  dsimp only
  rw [run_bind, hm, show (orRefuse (Except.ok m)).run l = (.ok m, l) from rfl]
  dsimp only
  rw [if_neg (by simp [hq]), run_tryCatch, h]

/-- A module that is refused is refused for the type. -/
theorem addType_run_refused {hint : Value} {m : Nat} {l l' : Resolver × List LogRecord}
    {target reason : String} (hm : moduleOf? w l.1 hint = .ok m)
    (hq : (((Hint.nameParts? hint).map Prod.snd).getD "").contains "<locals>" = false)
    (h : (addModule w m).run l = (.error (.unresolved target reason), l')) :
    (addType w hint).run l = (.error (unresolved w hint reason), l') := by
  unfold addType
  rw [run_bind, show state.run l = (.ok l.1, l) from rfl]
  dsimp only
  rw [run_bind, hm, show (orRefuse (Except.ok m)).run l = (.ok m, l) from rfl]
  dsimp only
  rw [if_neg (by simp [hq]), run_tryCatch, h]
  rfl

end Facade.Resolver
