import Facade.Execution.Eval
import Mathlib.Data.List.Forall2
import Mathlib.Tactic.Common

/-!
# Outcomes of operations on the world

* `Run.outcome`: what an operation gives, and the world afterwards.
* `outcome_bind`: one operation after the other.
* `bind_eq_ok`: a sequence that succeeds succeeds step by step.
* `Logged.Gives`, `Logged.KeepsAt`: an operation with a log that succeeds; one that leads to related
  states.
-/

namespace Facade.Run

open Facade.Execution

variable {α β : Type}

/-- What an operation gives, and the world afterwards. -/
def outcome (x : Run α) (w : World) : Except Failure α × World := x.run w

/-- What a second operation makes of the outcome of a first. -/
def after (f : α → Run β) : Except Failure α × World → Except Failure β × World
  | (.ok a, w) => (f a).outcome w
  | (.error e, w) => (.error e, w)

@[simp] theorem after_ok (f : α → Run β) (a : α) (w : World) :
    after f (.ok a, w) = (f a).outcome w := rfl

@[simp] theorem after_error (f : α → Run β) (e : Failure) (w : World) :
    after f (.error e, w) = (.error e, w) := rfl

/-! ## The outcome of each operation -/

@[simp] theorem outcome_pure (a : α) (w : World) : (pure a : Run α).outcome w = (.ok a, w) := rfl

/-- **One operation after the other.** -/
theorem outcome_bind (x : Run α) (f : α → Run β) (w : World) :
    (x >>= f).outcome w = after f (x.outcome w) := by
  show (ExceptT.bind x f).run w = _
  unfold outcome
  simp only [ExceptT.bind, ExceptT.mk, ExceptT.run, bind, StateT.bind]
  rcases x w with ⟨r, w'⟩
  cases r <;> rfl

@[simp] theorem outcome_pure_bind (a : α) (f : α → Run β) (w : World) :
    ((pure a : Run α) >>= f).outcome w = (f a).outcome w := rfl

@[simp] theorem outcome_map (g : α → β) (x : Run α) (w : World) :
    (g <$> x).outcome w = after (fun a => pure (g a)) (x.outcome w) := by
  rw [map_eq_pure_bind, outcome_bind]

@[simp] theorem outcome_throw (e : Failure) (w : World) :
    (throw e : Run α).outcome w = (.error e, w) := rfl

@[simp] theorem outcome_fault (f : Fault) (w : World) :
    (fault f : Run α).outcome w = (.error (.fault f), w) := rfl

@[simp] theorem outcome_refuse (r : Refusal) (w : World) :
    (refuse r : Run α).outcome w = (.error (.refused r), w) := rfl

@[simp] theorem outcome_get (w : World) : (get : Run World).outcome w = (.ok w, w) := rfl

@[simp] theorem outcome_get_bind (f : World → Run β) (w : World) :
    ((get : Run World) >>= f).outcome w = (f w).outcome w := rfl

@[simp] theorem outcome_set (v w : World) : (set v : Run PUnit).outcome w = (.ok ⟨⟩, v) := rfl

@[simp] theorem outcome_modify (g : World → World) (w : World) :
    (modify g : Run PUnit).outcome w = (.ok ⟨⟩, g w) := rfl

@[simp] theorem outcome_replace (i : Nat) (o : Object) (w : World) :
    (replace i o).outcome w = (.ok ⟨⟩, { w with objects := w.objects.setIfInBounds i o }) := rfl

@[simp] theorem outcome_allocate (o : Object) (w : World) :
    (allocate o).outcome w = (.ok w.objects.size, { w with objects := w.objects.push o }) := rfl

@[simp] theorem outcome_record (e : Event) (w : World) :
    (record e).outcome w = (.ok ⟨⟩, { w with events := w.events ++ [e] }) := rfl

@[simp] theorem outcome_log (r : LogRecord) (w : World) :
    (log r).outcome w = (.ok ⟨⟩, { w with records := w.records ++ [r] }) := rfl

@[simp] theorem outcome_lift_ok (a : α) (w : World) :
    (lift (.ok a)).outcome w = (.ok a, w) := rfl

@[simp] theorem outcome_lift_error (f : Fault) (w : World) :
    (lift (.error f) : Run α).outcome w = (.error (.fault f), w) := rfl

@[simp] theorem outcome_orRefuse_ok (a : α) (w : World) :
    (orRefuse (.ok a)).outcome w = (.ok a, w) := rfl

@[simp] theorem outcome_orRefuse_error (r : Refusal) (w : World) :
    (orRefuse (.error r) : Run α).outcome w = (.error (.refused r), w) := rfl

theorem outcome_lift (x : Except Fault α) (w : World) :
    (lift x).outcome w = (x.mapError Failure.fault, w) := by
  cases x <;> rfl

theorem outcome_tryCatch (x : Run α) (h : Failure → Run α) (w : World) :
    (tryCatch x h).outcome w =
      match x.outcome w with
      | (.ok a, w') => (.ok a, w')
      | (.error e, w') => (h e).outcome w' := by
  show (ExceptT.tryCatch x h).run w = _
  unfold outcome
  simp only [ExceptT.tryCatch, ExceptT.mk, ExceptT.run, bind, StateT.bind]
  rcases x w with ⟨r, w'⟩
  cases r <;> rfl

theorem outcome_within {σ : Type} (x : Logged σ α) (s : σ) (w : World) :
    (within x s).outcome w =
      (.ok ((x.outcome s).1, (x.outcome s).2.1),
        { w with records := w.records ++ (x.outcome s).2.2 }) := rfl

/-! ## Sequences that succeed -/

/-- **A sequence that succeeds succeeds step by step.** -/
theorem bind_eq_ok {x : Run α} {f : α → Run β} {w w' : World} {b : β}
    (h : (x >>= f).outcome w = (.ok b, w')) :
    ∃ a w₁, x.outcome w = (.ok a, w₁) ∧ (f a).outcome w₁ = (.ok b, w') := by
  rw [outcome_bind] at h
  rcases hx : x.outcome w with ⟨r, w₁⟩
  rw [hx] at h
  cases r with
  | error e => simp at h
  | ok a => exact ⟨a, w₁, rfl, h⟩

theorem outcome_bind_of_ok {x : Run α} {f : α → Run β} {w w₁ : World} {a : α}
    (h : x.outcome w = (.ok a, w₁)) : (x >>= f).outcome w = (f a).outcome w₁ := by
  rw [outcome_bind, h, after_ok]

theorem outcome_bind_of_error {x : Run α} {f : α → Run β} {w w₁ : World} {e : Failure}
    (h : x.outcome w = (.error e, w₁)) : (x >>= f).outcome w = (.error e, w₁) := by
  rw [outcome_bind, h, after_error]

theorem lift_eq_ok {x : Except Fault α} {w w' : World} {a : α}
    (h : (lift x).outcome w = (.ok a, w')) : x = .ok a ∧ w' = w := by
  cases x with
  | error e => simp at h
  | ok b =>
    simp only [outcome_lift_ok, Prod.mk.injEq, Except.ok.injEq] at h
    exact ⟨by rw [h.1], h.2.symm⟩

theorem orRefuse_eq_ok {x : Except Refusal α} {w w' : World} {a : α}
    (h : (orRefuse x).outcome w = (.ok a, w')) : x = .ok a ∧ w' = w := by
  cases x with
  | error e => simp at h
  | ok b =>
    simp only [outcome_orRefuse_ok, Prod.mk.injEq, Except.ok.injEq] at h
    exact ⟨by rw [h.1], h.2.symm⟩

theorem eq_ok_of_isOk {x : Except Failure α × World} (h : x.1.isOk = true) :
    ∃ a w', x = (.ok a, w') := by
  obtain ⟨_ | a, w'⟩ := x
  · cases h
  · exact ⟨a, w', rfl⟩

/-- **What operations on all members of a list give in the end,** if what each of them gives stays. -/
theorem mapM_gives {f : α → Run β} {S : World → World → Prop} {R : World → α → β → Prop}
    (hrefl : ∀ w, S w w) (htrans : ∀ {w w' w''}, S w w' → S w' w'' → S w w'')
    (hmono : ∀ {w w' a b}, S w w' → R w a b → R w' a b) (l : List α) :
    ∀ {w w' : World} {bs : List β},
      (∀ a ∈ l, ∀ w₁ b w₂, S w w₁ → (f a).outcome w₁ = (.ok b, w₂) → R w₂ a b ∧ S w₁ w₂) →
      (l.mapM f).outcome w = (.ok bs, w') → List.Forall₂ (R w') l bs ∧ S w w' := by
  induction l with
  | nil =>
    intro w w' bs _ h
    rw [List.mapM_nil, outcome_pure, Prod.mk.injEq, Except.ok.injEq] at h
    obtain ⟨rfl, rfl⟩ := h
    exact ⟨.nil, hrefl w⟩
  | cons a l ih =>
    intro w w' bs hf h
    rw [List.mapM_cons] at h
    obtain ⟨b, w₁, hb, h⟩ := bind_eq_ok h
    obtain ⟨cs, w₂, hcs, h⟩ := bind_eq_ok h
    obtain ⟨hR, h₁⟩ := hf a List.mem_cons_self w b w₁ (hrefl w) hb
    obtain ⟨hRs, h₂⟩ := ih (fun a' ha' v b' v' hv => hf a' (List.mem_cons_of_mem a ha') v b' v'
      (htrans h₁ hv)) hcs
    rw [outcome_pure, Prod.mk.injEq, Except.ok.injEq] at h
    obtain ⟨rfl, rfl⟩ := h
    exact ⟨.cons (hmono h₂ hR) hRs, htrans h₁ h₂⟩

/-- What an operation on a member that may be missing gives. -/
theorem optionMapM_gives {f : α → Run β} {S : World → World → Prop} {R : World → α → β → Prop}
    (hrefl : ∀ w, S w w) (o : Option α) {w w' : World} {b : Option β}
    (hf : ∀ a ∈ o, ∀ b w', (f a).outcome w = (.ok b, w') → R w' a b ∧ S w w')
    (h : (o.mapM f).outcome w = (.ok b, w')) : Option.Rel (R w') o b ∧ S w w' := by
  cases o with
  | none =>
    rw [Option.mapM_none, outcome_pure, Prod.mk.injEq, Except.ok.injEq] at h
    obtain ⟨rfl, rfl⟩ := h
    exact ⟨.none, hrefl w⟩
  | some a =>
    rw [Option.mapM_some, map_eq_pure_bind] at h
    obtain ⟨c, w₁, hc, h⟩ := bind_eq_ok h
    rw [outcome_pure, Prod.mk.injEq, Except.ok.injEq] at h
    obtain ⟨rfl, rfl⟩ := h
    obtain ⟨hR, hS⟩ := hf a rfl c w₁ hc
    exact ⟨.some hR, hS⟩

/-- Operations on all members of a list that succeed. -/
theorem forall₂_of_mapM {f : α → Run β} {R : α → β → Prop}
    (hf : ∀ a w b w', (f a).outcome w = (.ok b, w') → R a b) (l : List α) {w w' : World}
    {bs : List β} (h : (l.mapM f).outcome w = (.ok bs, w')) : List.Forall₂ R l bs :=
  (mapM_gives (S := fun _ _ => True) (R := fun _ => R) (fun _ => trivial) (fun _ _ => trivial)
    (fun _ h => h) l (fun a _ w b w' _ h => ⟨hf a w b w' h, trivial⟩) h).1

/-- Lists that are related member by member: each member of the first has its counterpart. -/
theorem exists_of_forall₂ {R : α → β → Prop} {as : List α} {bs : List β}
    (h : List.Forall₂ R as bs) {a : α} (ha : a ∈ as) : ∃ b ∈ bs, R a b := by
  induction h with
  | nil => cases ha
  | cons hR _ ih =>
    rcases List.mem_cons.mp ha with rfl | ha
    · exact ⟨_, List.mem_cons_self, hR⟩
    · obtain ⟨b, hb, hab⟩ := ih ha
      exact ⟨b, List.mem_cons_of_mem _ hb, hab⟩

theorem exists_of_forall₂_right {R : α → β → Prop} {as : List α} {bs : List β}
    (h : List.Forall₂ R as bs) {b : β} (hb : b ∈ bs) : ∃ a ∈ as, R a b :=
  exists_of_forall₂ (List.Forall₂.flip (R := flip R) h) hb

/-- Operations on all members of a list succeed one after the other, as long as each leaves a world in
which the next one does. -/
theorem mapM_succeeds {f : α → Run β} {R : Nat → World → Prop} (l : List α)
    (hf : ∀ a ∈ l, ∀ k w, R (k + 1) w → ∃ b w', (f a).outcome w = (.ok b, w') ∧ R k w') :
    ∀ {w : World}, R l.length w → ∃ bs w', (l.mapM f).outcome w = (.ok bs, w') := by
  induction l with
  | nil => exact fun _ => ⟨[], _, rfl⟩
  | cons a l ih =>
    intro w hw
    obtain ⟨b, w₁, hb, h₁⟩ := hf a List.mem_cons_self l.length w hw
    obtain ⟨bs, w₂, hbs⟩ := ih (fun a' ha' => hf a' (List.mem_cons_of_mem a ha')) h₁
    refine ⟨b :: bs, w₂, ?_⟩
    rw [List.mapM_cons, outcome_bind_of_ok hb, outcome_bind_of_ok hbs]
    rfl

end Facade.Run

namespace Facade

/-! ## Operations with a log -/

namespace Logged

variable {σ α β : Type} {s s' : σ}

/-- An operation with a log succeeds, whatever it logs. -/
def Gives (x : Logged σ α) (s : σ) (a : α) (s' : σ) : Prop :=
  ∃ log log', x.run (s, log) = (.ok a, s', log')

theorem gives_pure {a b : α} (h : (pure a : Logged σ α).Gives s b s') : b = a ∧ s' = s := by
  obtain ⟨log, log', h⟩ := h
  obtain ⟨h, hs⟩ := Prod.mk.inj h
  exact ⟨(Except.ok.inj h).symm, (Prod.mk.inj hs).1.symm⟩

theorem gives_throw {e : Refusal} {a : α} (h : (throw e : Logged σ α).Gives s a s') : False := by
  obtain ⟨log, log', h⟩ := h
  cases (Prod.mk.inj h).1

theorem run_bind (x : Logged σ α) (f : α → Logged σ β) (l : σ × List LogRecord) :
    (x >>= f).run l = match x.run l with
      | (.ok a, l') => (f a).run l'
      | (.error e, l') => (.error e, l') := by
  show (ExceptT.bind x f).run l = _
  simp only [ExceptT.bind, ExceptT.mk, ExceptT.run, bind, StateT.bind]
  rcases x l with ⟨r, l'⟩
  cases r <;> rfl

theorem gives_bind {x : Logged σ α} {f : α → Logged σ β} {b : β}
    (h : (x >>= f).Gives s b s') : ∃ a s₁, x.Gives s a s₁ ∧ (f a).Gives s₁ b s' := by
  obtain ⟨log, log', h⟩ := h
  rw [run_bind] at h
  rcases hx : x.run (s, log) with ⟨r, s₁, log₁⟩
  rw [hx] at h
  cases r with
  | error e => cases (Prod.mk.inj h).1
  | ok a => exact ⟨a, s₁, ⟨log, log₁, hx⟩, log₁, log', h⟩

theorem gives_state {a : σ} (h : (state : Logged σ σ).Gives s a s') : a = s ∧ s' = s := by
  obtain ⟨log, log', h⟩ := h
  obtain ⟨h, hs⟩ := Prod.mk.inj h
  exact ⟨(Except.ok.inj h).symm, (Prod.mk.inj hs).1.symm⟩

theorem gives_change {f : σ → σ} {a : PUnit} (h : (change f : Logged σ Unit).Gives s a s') :
    s' = f s := by
  obtain ⟨log, log', h⟩ := h
  exact (Prod.mk.inj (Prod.mk.inj h).2).1.symm

theorem gives_note {r : LogRecord} {a : PUnit} (h : (note r : Logged σ Unit).Gives s a s') :
    s' = s := by
  obtain ⟨log, log', h⟩ := h
  exact (Prod.mk.inj (Prod.mk.inj h).2).1.symm

/-- **Operations on all members of a list,** each of which gives what a function does and leads from a
state where an invariant holds to another one. -/
theorem gives_mapM {f : α → Logged σ β} {I : σ → Prop} {Q : β → Prop} {g : α → β} {t : σ → β → σ}
    (l : List α) (hf : ∀ a s b s', I s → (f a).Gives s b s' → b = g a ∧ s' = t s b ∧ Q b ∧ I s') :
    ∀ {s s' : σ} {bs : List β}, I s → (l.mapM f).Gives s bs s' →
      bs = l.map g ∧ s' = bs.foldl t s ∧ ∀ b ∈ bs, Q b := by
  induction l with
  | nil =>
    intro s s' bs _ h
    rw [List.mapM_nil] at h
    obtain ⟨rfl, rfl⟩ := gives_pure h
    exact ⟨rfl, rfl, by simp⟩
  | cons a l ih =>
    intro s s' bs hs h
    rw [List.mapM_cons] at h
    obtain ⟨b, s₁, hb, h₁⟩ := gives_bind h
    obtain ⟨bs', s₂, hbs, h₂⟩ := gives_bind h₁
    obtain ⟨rfl, rfl⟩ := gives_pure h₂
    obtain ⟨rfl, rfl, hq, hs₁⟩ := hf a s b s₁ hs hb
    obtain ⟨rfl, rfl, hqs⟩ := ih hs₁ hbs
    exact ⟨rfl, rfl, List.forall_mem_cons.mpr ⟨hq, hqs⟩⟩

/-- Operations on all members of a list, each of which leads from a state to another one. -/
theorem gives_forM {f : α → Logged σ PUnit} {t : σ → α → σ} (l : List α)
    (hf : ∀ a s u s', (f a).Gives s u s' → s' = t s a) :
    ∀ {s s' : σ} {u : PUnit}, (l.forM f).Gives s u s' → s' = l.foldl t s := by
  induction l with
  | nil => exact fun h => (gives_pure h).2
  | cons a l ih =>
    intro s s' u h
    obtain ⟨v, s₁, ha, h₁⟩ := gives_bind h
    rw [ih h₁, hf a s v s₁ ha, List.foldl_cons]

theorem run_tryCatch (x : Logged σ α) (h : Refusal → Logged σ α) (l : σ × List LogRecord) :
    (tryCatch x h).run l = match x.run l with
      | (.ok a, l') => (.ok a, l')
      | (.error e, l') => (h e).run l' := by
  show (ExceptT.tryCatch x h).run l = _
  simp only [ExceptT.tryCatch, ExceptT.mk, ExceptT.run, bind, StateT.bind]
  rcases x l with ⟨r, l'⟩
  cases r <;> rfl

/-- An operation whose refusals are only worded anew. -/
theorem gives_tryCatch {x : Logged σ α} {h : Refusal → Logged σ α} {a : α}
    (hh : ∀ e t, ¬ (h e).Gives t a s') (hx : (tryCatch x h).Gives s a s') : x.Gives s a s' := by
  obtain ⟨log, log', hx⟩ := hx
  rw [run_tryCatch] at hx
  rcases ho : x.run (s, log) with ⟨r, s₁, log₁⟩
  rw [ho] at hx
  cases r with
  | ok b => exact ⟨log, log', ho.trans hx⟩
  | error e => exact absurd ⟨log₁, log', hx⟩ (hh e s₁)

/-! ### What is kept -/

/-- An operation with a log leads from a state to related ones, whether it succeeds or is
refused. -/
def KeepsAt (R : σ → σ → Prop) (x : Logged σ α) (s : σ) : Prop := ∀ log, R s (x.run (s, log)).2.1

section Keeps

variable {R : σ → σ → Prop} (hrefl : ∀ s, R s s) (htrans : ∀ s t u, R s t → R t u → R s u)

include hrefl in
theorem keepsAt_pure (a : α) : KeepsAt R (pure a) s := fun _ => hrefl s

include hrefl in
theorem keepsAt_throw (e : Refusal) : KeepsAt R (throw e : Logged σ α) s := fun _ => hrefl s

theorem keepsAt_state_bind {f : σ → Logged σ β} (h : KeepsAt R (f s) s) :
    KeepsAt R (state >>= f) s := h

theorem keepsAt_change {f : σ → σ} (h : R s (f s)) : KeepsAt R (change f) s := fun _ => h

include hrefl in
theorem keepsAt_note (r : LogRecord) : KeepsAt R (note r) s := fun _ => hrefl s

include htrans in
theorem KeepsAt.bind {x : Logged σ α} {f : α → Logged σ β} (h : KeepsAt R x s)
    (hf : ∀ a s', x.Gives s a s' → KeepsAt R (f a) s') : KeepsAt R (x >>= f) s := by
  intro log
  have hx := h log
  rw [run_bind]
  rcases ho : x.run (s, log) with ⟨r, s₁, log₁⟩
  rw [ho] at hx
  cases r with
  | error e => exact hx
  | ok a => exact htrans _ _ _ hx (hf a s₁ ⟨log, log₁, ho⟩ log₁)

include htrans in
theorem keepsAt_tryCatch {x : Logged σ α} {h : Refusal → Logged σ α} (hx : KeepsAt R x s)
    (hh : ∀ e s', KeepsAt R (h e) s') : KeepsAt R (tryCatch x h) s := by
  intro log
  have hx := hx log
  rw [run_tryCatch]
  rcases ho : x.run (s, log) with ⟨r, s₁, log₁⟩
  rw [ho] at hx
  cases r with
  | ok a => exact hx
  | error e => exact htrans _ _ _ hx (hh e s₁ log₁)

include hrefl htrans in
theorem keepsAt_forM {f : α → Logged σ PUnit} (l : List α) (h : ∀ a s, KeepsAt R (f a) s) :
    ∀ s, KeepsAt R (l.forM f) s := by
  induction l with
  | nil => exact fun s => keepsAt_pure hrefl PUnit.unit
  | cons a l ih => exact fun s => (h a s).bind htrans fun _ s' _ => ih s'

end Keeps

end Logged

end Facade
