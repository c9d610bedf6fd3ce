import Facade.Describe.Members
import Facade.Proofs.Growing

/-!
# Describing lets a world grow

Texts in annotations are evaluated while a callable or a class is described, so that this can run
programs.

* `growsAt_typeHints`: working out the hints of a function or a class.
* `growsAt_describeCallable`, `growsAt_methodsOf`, `growsAt_propertiesOf`: describing.
-/

namespace Facade.Describe

open Execution Run

variable {w : World}

theorem growsAt_refer {inside : List String → Value → Run Value} (h : ∀ seen v w, (inside seen v).GrowsAt w)
    (fr : Frame) (seen : List String) (s : String) (inClass : Bool) :
    (refer inside fr seen s inClass).GrowsAt w := by
  unfold refer
  dsimp only
  split
  · exact growsAt_fault _
  · exact ((growing depth).eval _ _ _).bind fun a w =>
      (growsAt_lift _).bind fun _ _ => h _ _ _

/-- Evaluating the texts inside an annotation lets a world grow. -/
theorem growsAt_resolve (n : Nat) : ∀ fr seen v w, (resolve n fr seen v).GrowsAt w := by
  induction n with
  | zero =>
    intro fr seen v w
    unfold resolve
    exact growsAt_fault _
  | succ n ih =>
    intro fr seen v w
    unfold resolve
    split
    · exact growsAt_ite (fun _ => growsAt_pure _) fun _ => growsAt_refer (ih fr) _ _ _ _
    · extract_lets resolved
      have parts (ps : List Value) (w : World) : (resolved ps).GrowsAt w := by
        refine (growsAt_mapM ps (fun p w => ih fr seen p w) w).bind fun rs w => ?_
        refine growsAt_ite (fun _ => ?_) fun _ => growsAt_lift _
        split <;> exact growsAt_pure _
      split
      · exact (growsAt_lift _).bind parts
      · exact parts _ _

theorem growsAt_resolveHint (fr : Frame) (inClass : Bool) (v : Value) :
    ( resolveAnnotation fr inClass v).GrowsAt w := by
  unfold resolveAnnotation
  extract_lets evaluated
  have source (s : String) : (evaluated s).GrowsAt w :=
    (growsAt_lift _).bind fun a w => by
      split
      · exact growsAt_refer (growsAt_resolve depth fr) _ _ _ _
      · exact growsAt_pure _
  split
  · exact growsAt_pure _
  · exact source _
  · exact source _
  · exact growsAt_resolve _ _ _ _ _

theorem growsAt_resolveAll (fr : Frame) (inClass : Bool) (as : List (String × Value)) :
    (resolveAll fr inClass as).GrowsAt w :=
  growsAt_mapM as (fun _ _ => (growsAt_resolveHint _ _ _).bind fun _ _ => growsAt_pure _) w

theorem growsAt_hintsOrFault (v : Value) : (hintsOrFault v).GrowsAt w := by
  unfold hintsOrFault
  refine growsAt_get_bind ?_
  split
  · split
    · exact growsAt_resolveAll _ _ _
    · exact growsAt_pure _
  · refine (growsAt_mapM _ (fun a w => ?_) _).bind fun _ _ => growsAt_pure _
    split
    · exact growsAt_resolveAll _ _ _
    · exact growsAt_pure _
  · exact growsAt_pure _

/-- **Working out hints lets a world grow.** -/
theorem growsAt_typeHints (v : Value) : (typeHints v).GrowsAt w := by
  unfold typeHints
  refine growsAt_tryCatch ?_ fun e w' => growsAt_ite (fun _ => growsAt_pure _) fun _ => growsAt_throw _
  refine (growsAt_hintsOrFault v).bind fun hints w' => ?_
  refine (growsAt_mapM hints (fun h w => ?_) w').bind fun _ _ => growsAt_pure _
  exact (growsAt_lift _).bind fun _ _ => growsAt_pure _

theorem growsAt_describeCallable (v : Value) : (describeCallable v).GrowsAt w := by
  unfold describeCallable
  refine growsAt_get_bind ?_
  dsimp only
  split
  · exact growsAt_refuse_bind _ _
  · split
    · exact growsAt_refuse _
    · exact (growsAt_typeHints _).bind fun _ _ => growsAt_pure _

theorem growsAt_describeMember (owner : Named) (name : String) (member : Value) :
    (describeMember owner name member).GrowsAt w := by
  unfold describeMember
  refine growsAt_get_bind ?_
  split
  · exact growsAt_pure _
  · split
    · exact growsAt_pure _
    · refine growsAt_ite (fun _ => growsAt_pure _) fun _ => ?_
      exact (growsAt_typeHints _).bind fun _ _ => growsAt_pure _

theorem growsAt_methodsOf (c : Named) : (methodsOf c).GrowsAt w := by
  unfold methodsOf
  refine growsAt_get_bind ((growsAt_mapM _ (fun e w => ?_) w).bind fun _ _ => growsAt_pure _)
  exact growsAt_describeMember _ _ _

theorem growsAt_ownProperties (c : ClassInfo) : (ownProperties c).GrowsAt w := by
  unfold ownProperties
  refine (growsAt_mapM _ (fun e w => ?_) w).bind fun _ _ => growsAt_pure _
  split
  · refine growsAt_ite (fun _ => ?_) fun _ => growsAt_pure _
    dsimp only
    split
    · exact (growsAt_typeHints _).bind fun _ _ => growsAt_pure _
    · exact growsAt_pure _
  · exact growsAt_pure _

theorem growsAt_propertiesOf (c : Named) : (propertiesOf c).GrowsAt w := by
  unfold propertiesOf
  refine growsAt_get_bind ?_
  dsimp only
  refine (growsAt_mapM _ (fun a w => ?_) w).bind fun _ _ => growsAt_pure _
  split
  · refine (growsAt_typeHints _).bind fun hints w => ?_
    exact (growsAt_ownProperties _).bind fun _ _ => growsAt_pure _
  · exact growsAt_pure _

end Facade.Describe
