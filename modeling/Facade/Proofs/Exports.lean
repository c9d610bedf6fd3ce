import Facade.Proofs.ModuleBody

/-!
# What a generated module gives out

The class of a generated module is the only one among its globals, so it is the one that the module
gives out, and the only one that is told its module.

* `exportedTypes_eq_ok`: nothing but the class is given out.
* `Stamped`: what telling a class its module changes.
* `singleType_eq_ok`: the one class that the module gives out is the one it has made.
-/

namespace Facade

open Run Execution

variable {g : GeneratedModule} {w w' : World} {k : Named} {cls : String} {t : Table String Value}

theorem elements_sub {vs : List Value} {os : List (Option Value)} {P : Value → Prop}
    {f : Value → Except Fault (Option Value)} (hf : ∀ v o, f v = .ok o → ∀ x ∈ o, P x)
    (h : vs.mapM f = .ok os) : ∀ o ∈ os, ∀ x ∈ o, P x := by
  induction vs generalizing os with
  | nil =>
    rw [List.mapM_nil] at h
    obtain rfl : [] = os := by simpa [pure, Except.pure] using h
    simp
  | cons v vs ih =>
    rw [List.mapM_cons] at h
    cases hv : f v with
    | error e => simp [hv, bind, Except.bind] at h
    | ok o =>
      cases hvs : vs.mapM f with
      | error e => simp [hv, hvs, bind, Except.bind] at h
      | ok os' =>
        obtain rfl : o :: os' = os := by
          simpa [hv, hvs, bind, Except.bind, pure, Except.pure] using h
        exact List.forall_mem_cons.mpr ⟨hf v o hv, ih hvs⟩

/-- What a module gives out is among its globals. -/
theorem exports_eq_ok {vs : List Value} (h : GeneratedModule.exports t = .ok vs) :
    ∀ v ∈ vs, ∃ e ∈ t.entries, e.2 = v := by
  unfold GeneratedModule.exports at h
  split at h
  · rename_i names _
    unfold GeneratedModule.listed at h
    cases hnames : names.elements? with
    | error e => simp [hnames, bind, Except.bind] at h
    | ok ns =>
      rw [hnames] at h
      simp only [bind, Except.bind] at h
      split at h
      · cases h
      · rename_i found hfound
        obtain rfl := Except.ok.inj h
        intro v hv
        obtain ⟨o, ho, hov⟩ := List.mem_filterMap.mp hv
        refine elements_sub (P := fun v => ∃ e ∈ t.entries, e.2 = v) (fun n o hn x hx => ?_)
          hfound o ho v hov
        split at hn
        · obtain rfl := Except.ok.inj hn
          obtain ⟨s, -, hs⟩ := Option.bind_eq_some_iff.mp hx
          exact mem_of_get? hs
        · cases hn
  · obtain rfl := Except.ok.inj h
    intro v hv
    obtain ⟨e, he, rfl⟩ := List.mem_map.mp hv
    exact ⟨e, List.mem_of_mem_filter he, rfl⟩

/-- **A generated module gives out nothing but its class.** -/
theorem exportedTypes_eq_ok {cs : List Named} {info : ModuleInfo}
    (hm : w.module? g.module = some info) (hg : info.globals = t.set cls (.cls k))
    (ht : AllGlobal t) (h : g.exportedTypes w = .ok cs) : ∀ c ∈ cs, c = k := by
  unfold GeneratedModule.exportedTypes GeneratedModule.globals at h
  rw [hm, Option.map_some, Option.getD_some, hg] at h
  cases hx : GeneratedModule.exports (t.set cls (.cls k)) with
  | error e => simp [hx, bind, Except.bind] at h
  | ok vs =>
    rw [hx] at h
    obtain rfl := Except.ok.inj h
    intro c hc
    obtain ⟨v, hv, hvc⟩ := List.mem_filterMap.mp hc
    obtain ⟨e, he, rfl⟩ := exports_eq_ok hx v hv
    rcases mem_setEntries he with he | he
    · rw [he] at hvc
      dsimp only at hvc
      split at hvc
      · exact (Option.some.inj hvc).symm
      · cases hvc
    · have := ht e he
      split at hvc
      · rename_i hcls
        rw [hcls] at this
        cases this
      · cases hvc

/-! ## Stamping -/

/-- What telling a class its module changes: one member of it. -/
structure Stamped (k : Named) (i : ClassInfo) (w w' : World) : Prop where
  class_ : ∃ members, w'.class? k.id = some { i with members := members } ∧
    ∀ x, x ≠ Resolver.generatedModuleAttribute → members.get? x = i.members.get? x
  modules : ∀ m info, w.module? m = some info → w'.module? m = some info
  since : ∀ b : World, b.Extends w → b.objects.size ≤ k.id → b.Extends w'
  grows : w.Grows w'

theorem stamped_refl {i : ClassInfo} (h : w.class? k.id = some i) : Stamped k i w w :=
  ⟨⟨i.members, h, fun _ _ => rfl⟩, fun _ _ h => h, fun _ h _ => h, .refl w⟩

theorem Stamped.trans {i : ClassInfo} {w'' : World} (h : Stamped k i w w')
    (h' : ∀ j, w'.class? k.id = some j → Stamped k j w' w'') : Stamped k i w w'' := by
  obtain ⟨members, hmembers, hothers⟩ := h.class_
  obtain ⟨⟨members', hmembers', hothers'⟩, hmodules, hsince, hgrows⟩ := h' _ hmembers
  exact ⟨⟨members', hmembers', fun x hx => (hothers' x hx).trans (hothers x hx)⟩,
    fun m info hm => hmodules m info (h.modules m info hm),
    fun b hb hk => hsince b (h.since b hb hk) hk, h.grows.trans hgrows⟩

theorem stamped_setMember {i : ClassInfo} (hi : w.class? k.id = some i) (v : Value)
    (h : (setMember k.id Resolver.generatedModuleAttribute v).outcome w = (.ok ⟨⟩, w')) :
    Stamped k i w w' := by
  have hgrows : w.Grows w' := (growsAt_setMember k.id _ v).of_ok h
  unfold setMember at h
  rw [outcome_get_bind, hi] at h
  dsimp only at h
  split at h
  · simp at h
  · rw [outcome_replace, Prod.mk.injEq] at h
    obtain ⟨-, rfl⟩ := h
    have hlt : k.id < w.objects.size := by
      by_contra hc
      rw [World.class?, Array.getElem?_eq_none (by omega)] at hi
      cases hi
    refine ⟨⟨i.members.set Resolver.generatedModuleAttribute v, by simp [World.class?, hlt], fun x hx =>
      Table.get?_set_of_ne _ _ (Ne.symm hx)⟩,
      fun m info hm => ?_, fun b hb hk => hb.replace_of_le hk _, hgrows⟩
    have hne : k.id ≠ m := by
      rintro rfl
      rw [World.module?] at hm
      rw [World.class?] at hi
      split at hi
      · rename_i hc
        rw [hc] at hm
        cases hm
      · cases hi
    rw [← hm]
    simp [World.module?, hne]

theorem stamp_eq_ok {i : ClassInfo} {info : ModuleInfo} (hi : w.class? k.id = some i)
    (hm : w.module? g.module = some info) (hg : info.globals = t.set cls (.cls k))
    (ht : AllGlobal t) (h : (Compiler.stamp g).outcome w = (.ok ⟨⟩, w')) : Stamped k i w w' := by
  unfold Compiler.stamp at h
  rw [outcome_get_bind] at h
  obtain ⟨cs, w₁, hcs, hrest⟩ := bind_eq_ok h
  obtain ⟨hcs, rfl⟩ := lift_eq_ok hcs
  obtain ⟨⟨⟩, w₂, hloop, hdone⟩ := bind_eq_ok hrest
  obtain rfl : w₂ = w' := by simpa using hdone
  have hall := exportedTypes_eq_ok hm hg ht hcs
  clear hcs
  have loop (cs : List Named) : ∀ {w : World} {i : ClassInfo} (_ : w.class? k.id = some i)
      (_ : ∀ c ∈ cs, c = k) (_ : (forIn cs PUnit.unit fun c r => (do
        setMember c.id Resolver.generatedModuleAttribute (.module g.module)
        pure (ForInStep.yield PUnit.unit)) : Run PUnit).outcome w = (.ok ⟨⟩, w₂)),
      Stamped k i w w₂ := by
    induction cs with
    | nil =>
      intro w i hi _ h
      rw [List.forIn_nil, outcome_pure, Prod.mk.injEq] at h
      exact h.2 ▸ stamped_refl hi
    | cons c cs ih =>
      intro w i hi hall h
      obtain ⟨rfl, hall⟩ := List.forall_mem_cons.mp hall
      rw [List.forIn_cons] at h
      obtain ⟨s, w₁, hs, h⟩ := bind_eq_ok h
      obtain ⟨⟨⟩, w₂, hset, hs⟩ := bind_eq_ok hs
      obtain ⟨rfl, rfl⟩ : ForInStep.yield PUnit.unit = s ∧ w₂ = w₁ := by simpa using hs
      exact (stamped_setMember hi _ hset).trans fun j hj => ih hj hall h
  exact loop cs hi hall hloop

theorem singleType_eq_ok {c : Named} {info : ModuleInfo} (hm : w.module? g.module = some info)
    (hg : info.globals = t.set cls (.cls k)) (ht : AllGlobal t)
    (h : g.singleType.outcome w = (.ok c, w')) : c = k ∧ w' = w := by
  unfold GeneratedModule.singleType at h
  rw [outcome_get_bind] at h
  obtain ⟨cs, w₁, hcs, h⟩ := bind_eq_ok h
  obtain ⟨hcs, rfl⟩ := lift_eq_ok hcs
  split at h
  · obtain ⟨rfl, rfl⟩ : _ = c ∧ w₁ = w' := by simpa using h
    exact ⟨exportedTypes_eq_ok hm hg ht hcs _ (by simp), rfl⟩
  · simp at h

end Facade
