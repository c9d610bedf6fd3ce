import Facade.Proofs.Histories
import Facade.Proofs.ModuleBody
import Facade.Proofs.Yielding
import Mathlib.Data.List.TakeWhile

/-!
# What compiled modules import

Where a body starts to run, its context has been given what the compiler references. A name that a single
module claims is what importing it gives.

* `Undisputed`, `AnswersWith`: no other module claims the name, among what the compiler references and in
its context.
* `resolve?_undisputed`, `importThrough_undisputed`: the context answers with the module, and importing
  the name gives it.
* `addReference_cls`: what adding a type comes to.
-/

namespace Facade

open Execution Run
open Syntax (Expr Stmt dottedParts splitDots)

variable {w w' v : World} {c m : Nat} {n id : String} {info : ModuleInfo} {g : GeneratedModule}
  {seeds : List (String × Value)}

/-! ## Dotted names -/

theorem splitDots_append {p : List Char} (q : List Char) (h : '.' ∉ p) :
    splitDots (p ++ '.' :: q) = p :: splitDots q := by
  induction p with
  | nil => simp [splitDots]
  | cons x p ih =>
    rw [List.mem_cons, not_or] at h
    rw [List.cons_append, splitDots, if_neg (Ne.symm h.1), ih h.2]

theorem dottedParts_append {q : String} (h : '.' ∉ n.toList) :
    dottedParts (n ++ "." ++ q) = n :: dottedParts q := by
  have hlist : (n ++ "." ++ q).toList = n.toList ++ '.' :: q.toList := by simp
  rw [dottedParts, hlist, splitDots_append _ h, List.map_cons, String.ofList_toList, dottedParts]

theorem topPart_of_no_dot (h : '.' ∉ n.toList) : Imports.topPart n = n := by
  have hall : n.toList.takeWhile (· != '.') = n.toList := by
    rw [List.takeWhile_eq_self_iff]
    intro x hx
    simp only [bne_iff_ne, ne_eq]
    rintro rfl
    exact h hx
  rw [Imports.topPart, hall, String.ofList_toList]

/-! ## What a context is given -/

theorem get?_foldl_setDefault (l : List (String × Nat)) (t : Table String Nat) (k : String) :
    (l.foldl (fun t e => t.setDefault e.1 e.2) t).get? k =
      (t.get? k).or ((⟨l⟩ : Table String Nat).get? k) := by
  induction l generalizing t with
  | nil => simp [Table.get?]
  | cons e l ih =>
    have hcons : (⟨e :: l⟩ : Table String Nat).get? k =
        if e.1 = k then some e.2 else (⟨l⟩ : Table String Nat).get? k := by
      by_cases he : e.1 = k <;> simp [Table.get?, he]
    rw [List.foldl_cons, ih, Table.get?_setDefault, hcons]
    cases ht : t.get? k with
    | some j =>
      rw [if_neg]
      · rfl
      · rintro ⟨hc, rfl⟩
        simp [Table.contains, ht] at hc
    | none =>
      by_cases he : e.1 = k
      · simp [he, Table.contains, ht]
      · simp [he]

theorem moduleName_of_module? (h : w'.module? m = w.module? m) :
    w'.moduleName m = w.moduleName m := by
  simp only [World.moduleName, h]

theorem get?_of_forall_eq {l : List (String × Nat)} {k : String} (h : (k, m) ∈ l)
    (hall : ∀ e ∈ l, e.1 = k → e.2 = m) : (⟨l⟩ : Table String Nat).get? k = some m := by
  induction l with
  | nil => cases h
  | cons e l ih =>
    by_cases he : e.1 = k
    · simp [Table.get?, he, hall e List.mem_cons_self he]
    · have hmem : (k, m) ∈ l := (List.mem_cons.mp h).resolve_left (by rintro rfl; exact he rfl)
      have := ih hmem fun e he => hall e (List.mem_cons_of_mem _ he)
      simpa [Table.get?, he] using this

/-- What a compiler has resolved exists. -/
def ResolvesModules (id : String) (w : World) : Prop :=
  ∀ j ∈ (w.compiler id).resolver.modules.values, (w.module? j).isSome = true

/-- No module but one that a compiler references claims a name: the module goes by the name, the others by
other names, and no package of the name is imported for the sake of its parts. -/
structure Undisputed (id n : String) (m : Nat) (w : World) : Prop where
  named : w.moduleName m = n
  others : ∀ j ∈ (w.compiler id).resolver.modules.values, w.moduleName j = n → j = m
  packages : ∀ k ∈ (w.compiler id).moduleNames, k ≠ n → Imports.topPart k = n →
    ∀ j, w.importable.get? n = some j → j = m

/-- The context of a compiler, which exists, answers for a name with one module, if with any. -/
structure AnswersWith (id n : String) (m : Nat) (w : World) : Prop where
  exists_ : (w.compiler id).context < w.contexts.size
  resolves : ResolvesModules id w
  answer : ∀ j, (w.context (w.compiler id).context).resolve? n = some j → j = m

/-- Where a body starts to run, its context answers for an undisputed name. -/
theorem resolve?_undisputed (ha : AnswersWith id n m w) (hu : Undisputed id n m w)
    (hm : (w.compiler id).resolver.modules.get? n = some m)
    (hs : Compiler.Starts (w.compiler id) seeds g w v info) :
    (v.context (w.compiler id).context).resolve? n = some m := by
  obtain ⟨u, hwu, huw, hvu⟩ := hs.contexts
  have hcontext : u.context (w.compiler id).context = w.context (w.compiler id).context := by
    rw [World.context, World.context, huw]
  have hv : v.context (w.compiler id).context = Compiler.referring (w.compiler id) u := by
    rw [World.context, hvu]
    exact (World.context_setContext u _ _ _).trans (if_pos ⟨rfl, huw ▸ ha.exists_⟩)
  -- What the compiler references goes by the same names in the extended world.
  have hsame : ∀ j ∈ (w.compiler id).resolver.modules.values, u.moduleName j = w.moduleName j := by
    intro j hj
    obtain ⟨i, hi⟩ := Option.isSome_iff_exists.mp (ha.resolves j hj)
    exact moduleName_of_module? ((hwu.module? hi).trans hi.symm)
  have hmem : m ∈ (w.compiler id).resolver.modules.values := by
    obtain ⟨e, he, rfl⟩ := Option.map_eq_some_iff.mp hm
    exact List.mem_map_of_mem (List.mem_of_find?_eq_some he)
  have hreferred : (⟨(w.compiler id).resolver.modules.values.map fun j => (u.moduleName j, j)⟩ :
      Table String Nat).get? n = some m := by
    refine get?_of_forall_eq (List.mem_map.mpr ⟨m, hmem, by rw [hsame m hmem, hu.named]⟩) ?_
    rintro e he hn
    obtain ⟨j, hj, rfl⟩ := List.mem_map.mp he
    exact hu.others j hj ((hsame j hj).symm.trans hn)
  rw [hv, Compiler.referring, hcontext]
  have hold := ha.answer
  unfold Context.resolve? at hold ⊢
  unfold Context.addReferences
  dsimp only
  rw [get?_foldl_setDefault, hreferred]
  cases hmod : (w.context (w.compiler id).context).modules.get? n with
  | some j => rw [hold j (by simp [hmod])]; rfl
  | none =>
    cases href : (w.context (w.compiler id).context).references.get? n with
    | some j => rw [hold j (by simp [hmod, href])]; rfl
    | none => rfl

/-- **Importing an undisputed name gives its module.** -/
theorem importThrough_undisputed (ha : AnswersWith id n m w) (hu : Undisputed id n m w) (hdot : '.' ∉ n.toList)
    (hm : (w.compiler id).resolver.modules.get? n = some m)
    (hs : Compiler.Starts (w.compiler id) seeds g w v info) {k : String}
    (hk : k ∈ (w.compiler id).moduleNames) (htop : Imports.topPart k = n) {j : Nat}
    (h : importThrough v info.context k false 0 none = .ok j) : j = m := by
  rw [hs.context] at h
  by_cases hkn : k = n
  · subst hkn
    have hm' : importThrough v (some (w.compiler id).context) k false 0 none = .ok m := by
      simp [importThrough, hdot, resolve?_undisputed ha hu hm hs]
    exact Except.ok.inj (h.symm.trans hm')
  · have hdots : '.' ∈ k.toList := by
      by_contra hno
      exact hkn ((topPart_of_no_dot hno).symm.trans htop)
    have htopn : Imports.absolute? v k false = .ok j := by
      simpa [importThrough, hdots] using h
    unfold Imports.absolute? at htopn
    rcases hload : Imports.load? v k with _ | i <;> rw [hload] at htopn
    · cases htopn
    have hload : Imports.load? v n = .ok j := by simpa [hdots, htop, bind, Except.bind] using htopn
    refine hu.packages k hk hkn htop j ?_
    rw [← hs.held.extends_.importable]
    unfold Imports.load? at hload
    split at hload
    · cases hload
    · cases hget : v.importable.get? n with
      | none => rw [hget] at hload; cases hload
      | some i => rw [hget] at hload; exact congrArg some (Except.ok.inj hload)

/-! ## Types -/

/-- What resolving makes of the compiler, and of the log. -/
theorem outcome_resolving (x : World → Resolver.Resolving Unit) :
    (Compiler.resolving id x).outcome w =
      (orRefuse ((x w).outcome (w.compiler id).resolver).1).outcome
        (({ w with records := w.records ++ ((x w).outcome (w.compiler id).resolver).2.2 } :
          World).setCompiler id
            { w.compiler id with resolver := ((x w).outcome (w.compiler id).resolver).2.1 }) := rfl

/-- Adding a type that can be imported is adding its module. -/
theorem addReference_cls {t : Named}
    (hm : Resolver.moduleOf? w (w.compiler id).resolver (.cls t) = .ok m)
    (hq : t.qualname.contains "<locals>" = false)
    (h : (Compiler.addReference id (.module m)).outcome w = (.ok ⟨⟩, w')) :
    (Compiler.addReference id (.cls t)).outcome w = (.ok ⟨⟩, w') := by
  have h := (outcome_resolving fun w => Resolver.addModule w m).symm.trans h
  obtain ⟨l, hrun⟩ : ∃ l, (Resolver.addModule w m).run ((w.compiler id).resolver, []) = (.ok ⟨⟩, l) :=
    ⟨_, Prod.ext (orRefuse_eq_ok h).1 rfl⟩
  have htype := @Resolver.addType_run w (.cls t) m ((w.compiler id).resolver, []) l hm hq hrun
  refine (outcome_resolving fun w => Resolver.addType w (.cls t)).trans ?_
  simp only [Logged.outcome, htype, hrun] at h ⊢
  exact h

/-- Without annotations, nothing has to be added for them. -/
theorem addReferences_nil {c : Compiler} (h : w.compilers.get? id = some c) :
    (Compiler.addReferences id []).outcome w = (.ok ⟨⟩, w) := by
  have hc : w.compiler id = c := by rw [World.compiler, h, Option.getD_some]
  refine (outcome_resolving fun w => Resolver.addTypes w []).trans ?_
  show ((Except.ok ⟨⟩ : Except Failure Unit),
    World.setCompiler { w with records := w.records ++ [] } id (w.compiler id)) = _
  rw [hc, List.append_nil, World.setCompiler, Table.set_of_get?_eq_some h]

/-! ## A small world -/

/-- A world with the root class, one context, and one compiler whose modules are named `unit`. -/
def unitWorld : World where
  objects := #[.cls { named := Standard.object, name := "object",
                      linearisation := [Standard.object], builtin := true }]
  contexts := #[{ name := some "unit" }]
  compilers := ⟨[("unit", { persist := false, workingDir := ".", version := "1", context := 0,
                            name := some "unit", resolver := { context := some 0 } })]⟩

/-- The class that the first module of the compiler defines. -/
def unitType : Named := ⟨2, "unit", "A"⟩

end Facade
