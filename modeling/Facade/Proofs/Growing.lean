import Facade.Proofs.Growth

/-!
# Programs let a world grow

* `Growing`: calls and statements that may nest to some depth let every world grow.
* `growing`: all do, however deeply they nest.
-/

namespace Facade.Execution

open Syntax (Expr Stmt mangle)
open Run

/-! ## Pieces -/

section Pieces

variable {w : World}

/-- A cache gives way to one that has everything it had. -/
theorem grows_setCache {c : Nat} {x : ValueCache}
    (h : ∀ u v, (w.cache c).entries.get? u = some v → x.entries.get? u = some v) :
    w.Grows (w.setCache c x) where
  objects i o ho := ⟨o, ho, .refl o⟩
  importable := rfl
  entries d u v hv := by
    unfold World.cache World.setCache at *
    simp only [Array.getElem?_setIfInBounds]
    by_cases hd : c = d
    · subst hd
      by_cases hc : c < w.caches.size
      · simpa [hc] using h u v hv
      · simp [hc] at hv
    · simpa [hd] using hv
  caches := by simp [World.setCache]

theorem grows_countLookup (c : Nat) (found : Bool) :
    w.Grows (w.setCache c (countLookup (w.cache c) found)) :=
  grows_setCache fun u v h => by unfold countLookup; split <;> exact h

theorem growsAt_findValue (c : Nat) (identifier : Value) : (findValue c identifier).GrowsAt w := by
  unfold findValue
  split
  · exact growsAt_fault _
  · refine growsAt_get_bind ?_
    refine GrowsAt.bind ?_ ?_
    · exact (grows_countLookup c _).evolves rfl rfl
    · intro _ w'
      split
      · exact growsAt_pure _
      · exact growsAt_get_bind (growsAt_refuse _)

theorem growsAt_put (fr : Frame) (name : String) (v : Value) : (fr.put name v).GrowsAt w := by
  unfold Frame.put
  split
  · split
    · refine growsAt_get_bind ?_
      split
      · rename_i info hm
        exact GrowsAt.bind ((World.Grows.replace_module hm _).evolves rfl rfl) fun _ _ => growsAt_pure fr
      · exact growsAt_pure fr
    · exact growsAt_pure fr
  · exact growsAt_pure _

theorem growsAt_remove (fr : Frame) (name : String) : (fr.remove name).GrowsAt w := by
  unfold Frame.remove
  split
  · split
    · refine growsAt_get_bind ?_
      split
      · rename_i info hm
        split
        · exact GrowsAt.bind ((World.Grows.replace_module hm _).evolves rfl rfl) fun _ _ => growsAt_pure fr
        · exact growsAt_fault _
      · exact growsAt_fault _
    · exact growsAt_fault _
  · split
    · exact growsAt_pure _
    · exact growsAt_fault _

theorem growsAt_writeField (id : Nat) (i : InstanceInfo) (hi : w.instance? id = some i)
    (name : String) (x : Value) : (writeField w id i name x).GrowsAt w := by
  unfold writeField
  split
  · split
    · exact (World.Grows.replace_instance hi _).evolves rfl rfl
    · exact growsAt_fault _
  · exact growsAt_fault _
  · exact growsAt_lift_bind fun attrs _ => (World.Grows.replace_instance hi _).evolves rfl rfl
  · exact growsAt_fault _
  · exact (World.Grows.replace_instance hi _).evolves rfl rfl

theorem growsAt_setMember (cls : Nat) (name : String) (v : Value) :
    (setMember cls name v).GrowsAt w := by
  unfold setMember
  refine growsAt_get_bind ?_
  split
  · rename_i info hc
    split
    · exact growsAt_fault _
    · rename_i hb
      exact (World.Grows.replace_class hc (by simpa using hb) _).evolves rfl rfl
  · exact growsAt_fault _

theorem growsAt_settle (cls : Nat) (functions : List Nat) :
    ∀ w, (settle cls functions).GrowsAt w := by
  refine growsAt_forM functions fun f w => growsAt_get_bind ?_
  split
  · rename_i info hf
    exact (World.Grows.replace_function hf _).evolves rfl rfl
  · exact growsAt_pure _

theorem growsAt_makeClass (d : ClassDraft) : (makeClass d).GrowsAt w := by
  unfold makeClass
  refine growsAt_get_bind ?_
  dsimp only
  split
  · split
    · exact growsAt_fault_bind _ _
    · split
      · exact growsAt_fault_bind _ _
      · split
        · split
          · exact GrowsAt.bind (growsAt_allocate _) fun _ _ => growsAt_pure _
          · exact growsAt_fault _
        · exact growsAt_fault _
  · exact growsAt_fault _

theorem growsAt_runBlock {step : Frame → Stmt → Run (Frame × Flow)}
    (h : ∀ fr s w, (step fr s).GrowsAt w) (l : List Stmt) :
    ∀ fr w, (runBlock step fr l).GrowsAt w := by
  induction l with
  | nil => exact fun fr w => growsAt_pure (fr, Flow.next)
  | cons s l ih =>
    intro fr w
    refine (h fr s w).bind fun r w' => ?_
    split
    · exact ih _ _
    · exact growsAt_pure _

end Pieces

/-! ## The interpreter -/

/-- Calls and statements that nest as deeply as `n` let every world grow. -/
structure Growing (n : Nat) : Prop where
  getAttr : ∀ v name w, (getAttr n v name).GrowsAt w
  setAttr : ∀ v name x w, (setAttr n v name x).GrowsAt w
  call : ∀ f args kw w, (call n f args kw).GrowsAt w
  callNative : ∀ f args kw w, (callNative n f args kw).GrowsAt w
  construct : ∀ c args kw w, (construct n c args kw).GrowsAt w
  runFunction : ∀ f bound w, (runFunction n f bound).GrowsAt w
  awaited : ∀ v w, (awaited n v).GrowsAt w
  eval : ∀ fr e w, (eval n fr e).GrowsAt w
  evalItems : ∀ fr es w, (evalItems n fr es).GrowsAt w
  evalKeywords : ∀ fr ks w, (evalKeywords n fr ks).GrowsAt w
  evalEntries : ∀ fr es w, (evalEntries n fr es).GrowsAt w
  evalBool : ∀ fr op es w, (evalBool n fr op es).GrowsAt w
  evalCompare : ∀ fr a es w, (evalCompare n fr a es).GrowsAt w
  assign : ∀ fr e v w, (assign n fr e v).GrowsAt w
  annotate : ∀ fr e hint w, (annotate n fr e hint).GrowsAt w
  exec : ∀ fr s w, (exec n fr s).GrowsAt w
  loop : ∀ fr test body orElse w, (loop n fr test body orElse).GrowsAt w
  forEach : ∀ fr target vs body orElse w, (forEach n fr target vs body orElse).GrowsAt w
  importName : ∀ fr i w, (importName n fr i).GrowsAt w
  define : ∀ fr isAsync name params result ds body w,
    (define n fr isAsync name params result ds body).GrowsAt w
  defineClass : ∀ fr name bases ks ds body w,
    (defineClass n fr name bases ks ds body).GrowsAt w

theorem growing_zero : Growing 0 := by
  constructor <;> intros <;> exact World.Evolves.refl _

section Step

variable {n : Nat} {w : World}

theorem growsAt_getAttr (h : Growing n) (v : Value) (name : String) :
    (getAttr (n + 1) v name).GrowsAt w := by
  rw [getAttr]
  refine growsAt_get_bind ?_
  split
  · split
    · dsimp only
      split
      · split
        · exact h.call _ _ _ _
        · exact growsAt_fault _
      · split
        · exact growsAt_pure _
        · exact growsAt_pure _
        · split <;> first | exact growsAt_pure _ | exact growsAt_fault _
    · exact growsAt_fault _
  · split
    · exact growsAt_lift _
    · exact growsAt_fault _
  · split
    · split
      · exact growsAt_pure _
      · exact growsAt_ite (fun _ => growsAt_pure _) fun _ => growsAt_fault _
    · exact growsAt_fault _
  · dsimp only
    split
    · exact h.call _ _ _ _
    · exact growsAt_pure _
    · exact growsAt_fault _
  · exact growsAt_lift _

theorem growsAt_setAttr (h : Growing n) (v : Value) (name : String) (x : Value) :
    (setAttr (n + 1) v name x).GrowsAt w := by
  rw [setAttr]
  refine growsAt_get_bind ?_
  split
  · split
    · rename_i i hi
      split
      · split
        · exact growsAt_discard (h.call _ _ _ _)
        · exact growsAt_fault _
      · exact growsAt_writeField _ i hi _ _
    · exact growsAt_fault _
  · exact growsAt_setMember _ _ _
  · split
    · rename_i info hm
      exact (World.Grows.replace_module hm _).evolves rfl rfl
    · exact growsAt_fault _
  · exact growsAt_pure _
  · exact growsAt_fault _

theorem growsAt_call (h : Growing n) (f : Value) (args : List Value) (kw : Keywords) :
    (call (n + 1) f args kw).GrowsAt w := by
  unfold call
  refine growsAt_get_bind ?_
  split
  · split
    · refine growsAt_lift_bind fun bound _ => ?_
      exact growsAt_ite (fun _ => growsAt_pure _) fun _ => h.runFunction _ _ _
    · exact growsAt_fault _
  · split
    · exact growsAt_pure _
    · exact h.call _ _ _ _
  · exact h.call _ _ _ _
  · exact h.construct _ _ _ _
  · exact h.construct _ _ _ _
  · exact h.callNative _ _ _ _
  · split <;> first | exact growsAt_pure _ | exact growsAt_fault _
  · exact h.call _ _ _ _
  · split
    · split
      · exact h.call _ _ _ _
      · exact growsAt_fault _
    · exact growsAt_fault _
  · exact growsAt_fault _

theorem growsAt_callNative (h : Growing n) (f : Native) (args : List Value) (kw : Keywords) :
    (callNative (n + 1) f args kw).GrowsAt w := by
  rw [callNative]
  refine growsAt_get_bind ?_
  split
  · split
    · exact growsAt_pure _
    · exact growsAt_pure _
    · exact growsAt_pure _
    · exact growsAt_pure _
    · exact growsAt_pure _
    · exact growsAt_pure _
    · split
      · split
        · refine (h.call _ _ _ _).bind fun r w' => ?_
          split
          · exact growsAt_ite (fun _ => growsAt_fault _) fun _ => growsAt_pure _
          · exact growsAt_pure _
          · exact growsAt_fault _
        · exact growsAt_fault _
      · exact growsAt_fault _
    · exact growsAt_fault _
  · split
    · exact growsAt_pure _
    · exact growsAt_fault _
  · exact growsAt_pure _
  · exact growsAt_findValue _ _
  · exact growsAt_findValue _ _
  · exact growsAt_pure _
  · exact growsAt_pure _
  · exact h.call _ _ _ _
  · rename_i failure attrs cls
    extract_lets finished
    have made (w' : World) : (finished ⟨⟩).GrowsAt w' := by
      dsimp only [finished]
      split
      · exact growsAt_throw _
      · refine (h.call _ _ _ _).bind fun v w' => ?_
        split
        · exact (growsAt_forM _ (fun e w => h.setAttr _ _ _ _) _).bind fun _ _ => growsAt_pure _
        · exact growsAt_pure _
    split
    · exact (growsAt_record _).bind fun _ w' => made w'
    · exact made _
  · refine (growsAt_record _).bind fun _ w' => ?_
    split
    · exact growsAt_throw _
    · exact growsAt_pure _
  · dsimp only
    split
    · exact (growsAt_record _).bind fun _ _ => growsAt_pure _
    · exact growsAt_pure _
  · exact growsAt_fault _

theorem growsAt_construct (h : Growing n) (c : Named) (args : List Value) (kw : Keywords) :
    (construct (n + 1) c args kw).GrowsAt w := by
  rw [construct]
  refine growsAt_get_bind ?_
  split
  · split
    · exact growsAt_lift _
    · dsimp only
      refine growsAt_ite (fun _ => growsAt_fault_bind _ _) fun _ => ?_
      refine growsAt_ite (fun _ => (growsAt_allocate _).bind fun _ _ => growsAt_pure _) fun _ => ?_
      refine growsAt_ite (fun _ => growsAt_fault_bind _ _) fun _ => ?_
      refine (growsAt_allocate _).bind fun id w' => ?_
      split
      · exact growsAt_ite (fun _ => growsAt_pure _) fun _ => growsAt_fault _
      · refine (h.call _ _ _ _).bind fun r w' => ?_
        split <;> first | exact growsAt_pure _ | exact growsAt_fault _
      · exact growsAt_pure _
  · exact growsAt_fault _

theorem growsAt_runFunction (h : Growing n) (f : Function) (bound : List (String × Value)) :
    (runFunction (n + 1) f bound).GrowsAt w := by
  rw [runFunction]
  split
  · refine (growsAt_record _).bind fun _ w' => ?_
    extract_lets receiver arg
    have self (w : World) : receiver.GrowsAt w := by
      dsimp only [receiver]
      split <;> first | exact growsAt_pure _ | exact growsAt_fault _
    split
    · exact growsAt_pure _
    · exact growsAt_lift _
    · exact (self _).bind fun _ _ => h.getAttr _ _ _
    · refine growsAt_lift_bind fun v _ => ?_
      refine (self _).bind fun s w' => ?_
      exact (h.setAttr _ _ _ _).bind fun _ _ => growsAt_pure _
    · refine (self _).bind fun s w' => ?_
      refine (h.getAttr _ _ _).bind fun old w' => ?_
      refine growsAt_lift_bind fun a _ => growsAt_lift_bind fun v _ => ?_
      exact (h.setAttr _ _ _ _).bind fun _ _ => growsAt_pure _
    · exact growsAt_throw _
  · refine (growsAt_runBlock (fun fr s w => h.exec fr s w) _ _ _).bind fun r w' => ?_
    split <;> exact growsAt_pure _

theorem growsAt_awaited (h : Growing n) (v : Value) : (awaited (n + 1) v).GrowsAt w := by
  unfold awaited
  split
  · refine growsAt_get_bind ?_
    split
    · exact h.runFunction _ _ _
    · exact growsAt_fault _
  · exact growsAt_fault _

theorem growsAt_eval (h : Growing n) (fr : Frame) (e : Expr) : (eval (n + 1) fr e).GrowsAt w := by
  unfold eval
  split
  · exact growsAt_get_bind (growsAt_lift _)
  · exact growsAt_pure _
  · exact (h.eval _ _ _).bind fun _ _ => h.getAttr _ _ _
  · refine (h.eval _ _ _).bind fun g w' => ?_
    split
    · refine growsAt_ite (fun _ => ?_) fun _ => h.call _ _ _ _
      split <;> first | exact growsAt_pure _ | exact growsAt_fault _
    · refine (h.evalItems _ _ _).bind fun vs w' => ?_
      exact (h.evalKeywords _ _ _).bind fun ks w' => h.call _ _ _ _
  · refine (h.eval _ _ _).bind fun v w' => (h.eval _ _ _).bind fun k w' => ?_
    split <;> exact growsAt_lift _
  · exact (h.evalItems _ _ _).bind fun _ _ => growsAt_pure _
  · exact (h.evalItems _ _ _).bind fun _ _ => growsAt_pure _
  · exact (h.evalEntries _ _ _).bind fun _ _ => growsAt_pure _
  · exact (h.eval _ _ _).bind fun _ _ => growsAt_lift _
  · exact (h.eval _ _ _).bind fun _ _ => (h.eval _ _ _).bind fun _ _ => growsAt_lift _
  · exact h.evalBool _ _ _ _
  · exact (h.eval _ _ _).bind fun _ _ => h.evalCompare _ _ _ _
  · refine (h.eval _ _ _).bind fun t w' => ?_
    exact growsAt_ite (fun _ => h.eval _ _ _) fun _ => h.eval _ _ _
  · exact (h.eval _ _ _).bind fun _ _ => h.awaited _ _
  · exact h.eval _ _ _
  all_goals exact growsAt_fault _

theorem growsAt_evalItems (h : Growing n) (fr : Frame) (es : List Expr) :
    (evalItems (n + 1) fr es).GrowsAt w := by
  rw [evalItems]
  refine (growsAt_mapM es (fun e w => ?_) w).bind fun _ _ => growsAt_pure _
  split
  · exact (h.eval _ _ _).bind fun _ _ => growsAt_lift _
  · exact (h.eval _ _ _).bind fun _ _ => growsAt_pure _

theorem growsAt_evalKeywords (h : Growing n) (fr : Frame) (ks : List (Option String × Expr)) :
    (evalKeywords (n + 1) fr ks).GrowsAt w := by
  rw [evalKeywords]
  refine growsAt_foldlM ks (fun acc k w => ?_) [] w
  refine (h.eval _ _ _).bind fun v w' => ?_
  split <;> exact growsAt_lift _

theorem growsAt_evalEntries (h : Growing n) (fr : Frame) (es : List (Option Expr × Expr)) :
    (evalEntries (n + 1) fr es).GrowsAt w := by
  rw [evalEntries]
  refine (growsAt_mapM es (fun e w => ?_) w).bind fun _ _ => growsAt_pure _
  split
  · refine (h.eval _ _ _).bind fun k w' => (h.eval _ _ _).bind fun v w' => ?_
    exact growsAt_ite (fun _ => growsAt_pure _) fun _ => growsAt_fault _
  · refine (h.eval _ _ _).bind fun v w' => ?_
    split <;> first | exact growsAt_pure _ | exact growsAt_fault _

theorem growsAt_evalBool (h : Growing n) (fr : Frame) (op : Syntax.BoolOp) (es : List Expr) :
    (evalBool (n + 1) fr op es).GrowsAt w := by
  unfold evalBool
  split
  · exact growsAt_pure _
  · exact h.eval _ _ _
  · refine (h.eval _ _ _).bind fun v w' => ?_
    exact growsAt_ite (fun _ => growsAt_pure _) fun _ => h.evalBool _ _ _ _

theorem growsAt_evalCompare (h : Growing n) (fr : Frame) (a : Value)
    (es : List (Syntax.CompareOp × Expr)) : (evalCompare (n + 1) fr a es).GrowsAt w := by
  unfold evalCompare
  split
  · exact growsAt_pure _
  · refine (h.eval _ _ _).bind fun b w' => growsAt_lift_bind fun c _ => ?_
    refine growsAt_ite (fun _ => ?_) fun _ => growsAt_pure _
    exact growsAt_ite (fun _ => growsAt_pure _) fun _ => h.evalCompare _ _ _ _

theorem growsAt_assign (h : Growing n) (fr : Frame) (e : Expr) (v : Value) :
    (assign (n + 1) fr e v).GrowsAt w := by
  have each (es : List Expr) (w : World) : (do
      let vs ← lift v.elements?
      if vs.length ≠ es.length then Run.fault .value
      (es.zip vs).foldlM (fun fr p => assign n fr p.1 p.2) fr : Run Frame).GrowsAt w := by
    refine growsAt_lift_bind fun vs _ => ?_
    refine growsAt_ite (fun _ => growsAt_fault_bind _ _) fun _ => ?_
    exact growsAt_foldlM _ (fun fr e w => h.assign _ _ _ _) _ _
  unfold assign
  split
  · exact growsAt_put _ _ _
  · refine (h.eval _ _ _).bind fun o w' => ?_
    exact (h.setAttr _ _ _ _).bind fun _ _ => growsAt_pure _
  · exact each _ w
  · exact each _ w
  · exact growsAt_fault _

theorem growsAt_annotate (h : Growing n) (fr : Frame) (e hint : Expr) :
    (annotate (n + 1) fr e hint).GrowsAt w := by
  rw [annotate]
  dsimp only
  refine growsAt_ite (fun _ => growsAt_pure _) fun _ => (h.eval _ _ _).bind fun a w' => ?_
  split
  · exact growsAt_get_bind (growsAt_put _ _ _)
  · exact growsAt_pure _

theorem growsAt_importName (h : Growing n) (fr : Frame) (i : Syntax.ImportName) :
    (importName (n + 1) fr i).GrowsAt w := by
  rw [importName]
  refine growsAt_get_bind (growsAt_lift_bind fun m _ => ?_)
  split
  · exact growsAt_put _ _ _
  · refine GrowsAt.bind ?_ fun v w' => growsAt_put _ _ _
    exact growsAt_foldlM _ (fun v part w => h.getAttr _ _ _) _ _

theorem growsAt_loop (h : Growing n) (fr : Frame) (test : Expr) (body orElse : List Stmt) :
    (loop (n + 1) fr test body orElse).GrowsAt w := by
  rw [loop]
  refine (h.eval _ _ _).bind fun t w' => growsAt_ite (fun _ => ?_) fun _ => ?_
  · refine (growsAt_runBlock (fun fr s w => h.exec fr s w) _ _ _).bind fun r w' => ?_
    split
    · exact growsAt_pure _
    · exact growsAt_pure _
    · exact h.loop _ _ _ _ _
  · exact growsAt_runBlock (fun fr s w => h.exec fr s w) _ _ _

theorem growsAt_forEach (h : Growing n) (fr : Frame) (target : Expr) (vs : List Value)
    (body orElse : List Stmt) : (forEach (n + 1) fr target vs body orElse).GrowsAt w := by
  unfold forEach
  split
  · exact growsAt_runBlock (fun fr s w => h.exec fr s w) _ _ _
  · refine (h.assign _ _ _ _).bind fun fr w' => ?_
    refine (growsAt_runBlock (fun fr s w => h.exec fr s w) _ _ _).bind fun r w' => ?_
    split
    · exact growsAt_pure _
    · exact growsAt_pure _
    · exact h.forEach _ _ _ _ _ _

theorem growsAt_define (h : Growing n) (fr : Frame) (isAsync : Bool) (name : String)
    (params : List Syntax.Param) (result : Option Expr) (ds : List Expr) (body : List Stmt) :
    (define (n + 1) fr isAsync name params result ds body).GrowsAt w := by
  have evals (o : Option Expr) (w : World) : (o.mapM (eval n fr)).GrowsAt w :=
    growsAt_optionMapM o fun e w => h.eval fr e w
  rw [define]
  refine (growsAt_mapM _ (fun e w => h.eval fr e w) _).bind fun ds w' => ?_
  refine (growsAt_mapM _ (fun p w => evals _ _) _).bind fun defaults w' => ?_
  refine (growsAt_mapM _ (fun p w => (evals _ _).bind fun _ _ => growsAt_pure _) _).bind
    fun evaluated w' => ?_
  refine (evals _ _).bind fun returns w' => ?_
  refine (growsAt_allocate _).bind fun id w' => ?_
  refine (growsAt_foldrM _ (fun d v w => h.call _ _ _ _) _ _).bind fun v w' => ?_
  exact (growsAt_put _ _ _).bind fun _ _ => growsAt_pure _

theorem growsAt_defineClass (h : Growing n) (fr : Frame) (name : String) (bases : List Expr)
    (keywords : List (Option String × Expr)) (ds : List Expr) (body : List Stmt) :
    (defineClass (n + 1) fr name bases keywords ds body).GrowsAt w := by
  rw [defineClass]
  refine (growsAt_mapM _ (fun e w => h.eval fr e w) _).bind fun ds w' => ?_
  refine (h.evalItems _ _ _).bind fun bs w' => (h.evalKeywords _ _ _).bind fun ks w' => ?_
  refine growsAt_ite (fun _ => growsAt_fault_bind _ _) fun _ => ?_
  refine (growsAt_runBlock (fun fr s w => h.exec fr s w) _ _ _).bind fun inner w' => ?_
  refine growsAt_get_bind ((growsAt_makeClass _).bind fun c w' => ?_)
  refine (growsAt_settle _ _ _).bind fun _ w' => ?_
  refine (growsAt_foldrM _ (fun d v w => h.call _ _ _ _) _ _).bind fun v w' => ?_
  exact (growsAt_put _ _ _).bind fun _ _ => growsAt_pure _

theorem growsAt_exec (h : Growing n) (fr : Frame) (s : Stmt) : (exec (n + 1) fr s).GrowsAt w := by
  have block (fr : Frame) (body : List Stmt) (w : World) : (runBlock (exec n) fr body).GrowsAt w :=
    growsAt_runBlock (fun fr s w => h.exec fr s w) body fr w
  unfold exec
  split
  · exact (h.eval _ _ _).bind fun _ _ => growsAt_pure _
  · refine (h.eval _ _ _).bind fun v w' => ?_
    exact (growsAt_foldlM _ (fun fr t w => h.assign _ _ _ _) _ _).bind fun _ _ => growsAt_pure _
  · rename_i target hint value simple
    have finish (fr : Frame) (w : World) : (if simple then do
          return (← annotate n fr target hint, Flow.next)
        else if fr.scope ≠ .function then do
          let _ ← eval n fr hint
          return (fr, Flow.next)
        else return (fr, Flow.next) : Run (Frame × Flow)).GrowsAt w :=
      growsAt_ite (fun _ => (h.annotate _ _ _ _).bind fun _ _ => growsAt_pure _) fun _ =>
        growsAt_ite (fun _ => (h.eval _ _ _).bind fun _ _ => growsAt_pure _) fun _ =>
          growsAt_pure _
    dsimp only
    split
    · exact (h.eval _ _ _).bind fun v w' => (h.assign _ _ _ _).bind fun fr w' => finish fr w'
    · exact finish fr w
  · split
    · refine (h.eval _ _ _).bind fun o w' => (h.getAttr _ _ _).bind fun old w' => ?_
      refine (h.eval _ _ _).bind fun x w' => growsAt_lift_bind fun v _ => ?_
      exact (h.setAttr _ _ _ _).bind fun _ _ => growsAt_pure _
    · refine (h.eval _ _ _).bind fun old w' => (h.eval _ _ _).bind fun x w' => ?_
      exact growsAt_lift_bind fun v _ => (h.assign _ _ _ _).bind fun _ _ => growsAt_pure _
  · split
    · exact (h.eval _ _ _).bind fun _ _ => growsAt_pure _
    · exact growsAt_pure _
  · split
    · refine (h.eval _ _ _).bind fun v w' => growsAt_get_bind ?_
      split
      · exact growsAt_throw _
      · exact growsAt_fault _
    · exact growsAt_fault _
  · refine (h.eval _ _ _).bind fun t w' => ?_
    exact growsAt_ite (fun _ => growsAt_pure _) fun _ => growsAt_fault _
  · refine GrowsAt.bind ?_ fun _ _ => growsAt_pure _
    refine growsAt_foldlM _ (fun fr t w => ?_) _ _
    split
    · exact growsAt_remove _ _
    · exact growsAt_fault _
  · exact growsAt_pure _
  · exact growsAt_pure _
  · exact growsAt_pure _
  · exact growsAt_pure _
  · exact growsAt_pure _
  · exact growsAt_pure _
  · refine GrowsAt.bind ?_ fun _ _ => growsAt_pure _
    exact growsAt_foldlM _ (fun fr i w => h.importName _ _ _) _ _
  · refine growsAt_get_bind (growsAt_get_bind (growsAt_get_bind (growsAt_lift_bind fun m _ => ?_)))
    refine GrowsAt.bind ?_ fun _ _ => growsAt_pure _
    refine growsAt_foldlM _ (fun fr i w => growsAt_get_bind ?_) _ _
    split
    · exact growsAt_put _ _ _
    · exact growsAt_fault _
  · refine (h.eval _ _ _).bind fun t w' => ?_
    exact growsAt_ite (fun _ => block _ _ _) fun _ => block _ _ _
  · exact h.loop _ _ _ _ _
  · refine (h.eval _ _ _).bind fun v w' => growsAt_lift_bind fun vs _ => ?_
    exact h.forEach _ _ _ _ _ _
  · exact h.define _ _ _ _ _ _ _ _
  · exact h.defineClass _ _ _ _ _ _ _
  · exact growsAt_fault _

end Step

theorem growing_succ {n : Nat} (h : Growing n) : Growing (n + 1) where
  getAttr v name _ := growsAt_getAttr h v name
  setAttr v name x _ := growsAt_setAttr h v name x
  call f args kw _ := growsAt_call h f args kw
  callNative f args kw _ := growsAt_callNative h f args kw
  construct c args kw _ := growsAt_construct h c args kw
  runFunction f bound _ := growsAt_runFunction h f bound
  awaited v _ := growsAt_awaited h v
  eval fr e _ := growsAt_eval h fr e
  evalItems fr es _ := growsAt_evalItems h fr es
  evalKeywords fr ks _ := growsAt_evalKeywords h fr ks
  evalEntries fr es _ := growsAt_evalEntries h fr es
  evalBool fr op es _ := growsAt_evalBool h fr op es
  evalCompare fr a es _ := growsAt_evalCompare h fr a es
  assign fr e v _ := growsAt_assign h fr e v
  annotate fr e hint _ := growsAt_annotate h fr e hint
  exec fr s _ := growsAt_exec h fr s
  loop fr test body orElse _ := growsAt_loop h fr test body orElse
  forEach fr target vs body orElse _ := growsAt_forEach h fr target vs body orElse
  importName fr i _ := growsAt_importName h fr i
  define fr isAsync name params result ds body _ :=
    growsAt_define h fr isAsync name params result ds body
  defineClass fr name bases ks ds body _ := growsAt_defineClass h fr name bases ks ds body

/-- **Every program lets a world grow,** whether it succeeds or fails. -/
theorem growing (n : Nat) : Growing n := by
  induction n with
  | zero => exact growing_zero
  | succ n ih => exact growing_succ ih

end Facade.Execution
