import Facade.Proofs.Resolving
import Mathlib.Data.Finset.Card
import Mathlib.Logic.Relation

/-!
# Walks along references

Adding a module walks, in depth, along the references that modules declare. A walk enters one module
after the other, and what it leaves behind is told by the modules that it has entered.

* `enter`, `opened`: what entering a module records, and where the walk goes on from there.
* `Walk`: the modules that a walk enters from a state, and the one that ends it, if any.
* `forM_run`: adding modules is a walk, however much depth there is beyond what is needed.
* `addModule_run`, `addType_run_cases`: what adding a module does, and adding a type.
* `Extends`: a resolver that holds all that another one holds, in the same order and in front.
* `Reaches`, `Walk.reaches`: the modules that references lead to; a walk enters no others.
-/

namespace Facade

/-! ## Tables that grow -/

namespace Table

universe u v

variable {κ : Type u} {α : Type v} [DecidableEq κ]

theorem prefix_setDefault (t : Table κ α) (k : κ) (x : α) :
    t.entries <+: (t.setDefault k x).entries := by
  unfold setDefault
  split
  · exact List.prefix_rfl
  · exact List.prefix_append _ _

theorem mem_entries_setDefault {t : Table κ α} {k : κ} {x : α} {e : κ × α}
    (h : e ∈ (t.setDefault k x).entries) : e ∈ t.entries ∨ e = (k, x) := by
  unfold setDefault at h
  split at h
  · exact .inl h
  · simpa using h

theorem mem_keys_setDefault_self (t : Table κ α) (k : κ) (x : α) : k ∈ (t.setDefault k x).keys := by
  rw [keys_setDefault]
  split <;> simp [*]

theorem nodup_keys_setDefault {t : Table κ α} (h : t.keys.Nodup) (k : κ) (x : α) :
    (t.setDefault k x).keys.Nodup := by
  rw [keys_setDefault]
  split
  · exact h
  · exact h.append (by simp) (by simpa using ‹k ∉ t.keys›)

omit [DecidableEq κ] in
theorem keys_subset_of_prefix {s t : Table κ α} (h : s.entries <+: t.entries) :
    ∀ k ∈ s.keys, k ∈ t.keys := fun _ hk => (h.map Prod.fst).subset hk

/-- What is found in a table is found in one that holds more behind. -/
theorem get?_of_prefix {s t : Table κ α} (h : s.entries <+: t.entries) {k : κ} {x : α}
    (hx : s.get? k = some x) : t.get? k = some x := by
  obtain ⟨r, hr⟩ := h
  rw [get?, Option.map_eq_some_iff] at hx
  obtain ⟨e, he, rfl⟩ := hx
  rw [get?, ← hr, List.find?_append, he]
  rfl

end Table

namespace Resolver

open Logged

variable {w : World} {r r' r'' : Resolver} {m b : Nat} {ms xs ys os : List Nat} {o : Option Nat}

/-! ## Walks -/

/-- A resolver after a module has been entered: the module is visited, and recorded if it has a
place. -/
def enter (w : World) (r : Resolver) (m : Nat) : Resolver :=
  match moduleLocation? w m with
  | none => { r with seen := m :: r.seen }
  | some location =>
    { r with
      seen := m :: r.seen
      modules := r.modules.setDefault (w.moduleName m) m
      references := r.references.add ⟨w.moduleName m, location⟩ }

/-- The modules that a walk turns to next in a module: those that it refers to, unless its place was
taken before. -/
def opened (w : World) (r : Resolver) (m : Nat) : List Nat :=
  match moduleLocation? w m with
  | none => []
  | some location => if r.references.hasLocation location then [] else declaredReferences w m

/-- **A walk.** From a resolver and with some modules ahead, it enters modules in this order, and may
be ended by one without a place. -/
inductive Walk (w : World) : Resolver → List Nat → List Nat → Option Nat → Prop
  | done (r : Resolver) : Walk w r [] [] none
  | seen {r : Resolver} {m : Nat} {ms os : List Nat} {o : Option Nat} (h : m ∈ r.seen)
    (hw : Walk w r ms os o) : Walk w r (m :: ms) os o
  | refused {r : Resolver} {m : Nat} {ms : List Nat} (h : m ∉ r.seen)
    (hl : moduleLocation? w m = none) : Walk w r (m :: ms) [m] (some m)
  | entered {r : Resolver} {m : Nat} {ms os : List Nat} {o : Option Nat} {location : String}
    (h : m ∉ r.seen) (hl : moduleLocation? w m = some location)
    (hw : Walk w (enter w r m) (opened w r m ++ ms) os o) : Walk w r (m :: ms) (m :: os) o

/-- One walk after the other. -/
theorem Walk.append (h : Walk w r xs os none) {ps : List Nat}
    (h' : Walk w (os.foldl (enter w) r) ys ps o) : Walk w r (xs ++ ys) (os ++ ps) o := by
  generalize hn : (none : Option Nat) = n at h
  induction h with
  | done r => exact h'
  | seen hm _ ih => exact .seen hm (ih h' hn)
  | refused => cases hn
  | entered hm hl _ ih =>
    rw [List.cons_append, List.cons_append]
    refine .entered hm hl ?_
    rw [← List.append_assoc]
    exact ih h' hn

/-- A walk that is ended early does not get to what is further ahead. -/
theorem Walk.append_refused (h : Walk w r xs os (some b)) (ys : List Nat) :
    Walk w r (xs ++ ys) os (some b) := by
  generalize hn : some b = n at h
  induction h with
  | done r => cases hn
  | seen hm _ ih => exact .seen hm (ih hn)
  | refused hm hl => exact hn ▸ .refused hm hl
  | entered hm hl _ ih =>
    rw [List.cons_append]
    refine .entered hm hl ?_
    rw [← List.append_assoc]
    exact ih hn

/-! ## How far a walk can go -/

/-- How many objects have not been visited. -/
def unvisited (w : World) (r : Resolver) : Nat :=
  ((Finset.range w.objects.size).filter (· ∉ r.seen)).card

theorem unvisited_le (w : World) (r : Resolver) : unvisited w r ≤ w.objects.size :=
  (Finset.card_filter_le _ _).trans (Finset.card_range _).le

theorem lt_size_of_moduleLocation? {l : String} (h : moduleLocation? w m = some l) :
    m < w.objects.size := by
  by_contra hm
  have hnone : w.module? m = none := by
    rw [World.module?, Array.getElem?_eq_none (by omega)]
  rw [moduleLocation?, hnone] at h
  cases h

theorem seen_enter (w : World) (r : Resolver) (m : Nat) : (enter w r m).seen = m :: r.seen := by
  unfold enter
  split <;> rfl

theorem unvisited_enter_lt {l : String} (hm : m ∉ r.seen) (hl : moduleLocation? w m = some l) :
    unvisited w (enter w r m) < unvisited w r := by
  refine Finset.card_lt_card (Finset.ssubset_iff_of_subset ?_ |>.mpr ⟨m, ?_, ?_⟩)
  · intro i hi
    simp only [seen_enter, Finset.mem_filter, List.mem_cons, not_or] at hi ⊢
    exact ⟨hi.1, hi.2.2⟩
  · simpa using ⟨lt_size_of_moduleLocation? hl, hm⟩
  · simp [seen_enter]

/-! ## What is kept on the way -/

/-- A resolver that holds all that another one holds: what was there first is in front, in its
order. -/
structure Extends (r r' : Resolver) : Prop where
  context : r'.context = r.context
  seen : r.seen ⊆ r'.seen
  modules : r.modules.entries <+: r'.modules.entries
  references : r.references.byLocation.entries <+: r'.references.byLocation.entries

protected theorem Extends.refl (r : Resolver) : Extends r r :=
  ⟨rfl, List.Subset.refl _, List.prefix_rfl, List.prefix_rfl⟩

protected theorem Extends.trans (h : Extends r r') (h' : Extends r' r'') : Extends r r'' :=
  ⟨h'.context.trans h.context, List.Subset.trans h.seen h'.seen, h.modules.trans h'.modules,
    h.references.trans h'.references⟩

/-- Entering a module takes nothing away. -/
theorem extends_enter (w : World) (r : Resolver) (m : Nat) : Extends r (enter w r m) where
  context := by unfold enter; split <;> rfl
  seen := by rw [seen_enter]; exact List.subset_cons_self m r.seen
  modules := by
    unfold enter
    split
    · exact List.prefix_rfl
    · exact Table.prefix_setDefault _ _ _
  references := by
    unfold enter
    split
    · exact List.prefix_rfl
    · exact Table.prefix_setDefault _ _ _

/-- **Entering modules takes nothing away.** -/
theorem extends_foldl (os : List Nat) : ∀ r, Extends r (os.foldl (enter w) r) := by
  induction os with
  | nil => exact Extends.refl
  | cons m os ih => exact fun r => (extends_enter w r m).trans (ih _)

theorem unvisited_anti (h : Extends r r') : unvisited w r' ≤ unvisited w r :=
  Finset.card_le_card fun i hi => by
    simp only [Finset.mem_filter] at hi ⊢
    exact ⟨hi.1, fun hr => hi.2 (h.seen hr)⟩

/-- All that is ahead of a walk that is not ended has been visited after it. -/
theorem Walk.visits (h : Walk w r ms os none) : ∀ m ∈ ms, m ∈ (os.foldl (enter w) r).seen := by
  generalize hn : (none : Option Nat) = n at h
  induction h with
  | done r => exact nofun
  | @seen r m ms os o hm _ ih =>
    exact List.forall_mem_cons.mpr ⟨(extends_foldl os r).seen hm, ih hn⟩
  | refused => cases hn
  | @entered r m ms os o l hm hl _ ih =>
    refine List.forall_mem_cons.mpr ⟨?_, fun k hk => ih hn k (List.mem_append_right _ hk)⟩
    exact (extends_foldl os _).seen (by rw [seen_enter]; exact List.mem_cons_self)

/-! ## Adding modules is a walk -/

/-- What a walk comes to. -/
def ended (w : World) : Option Nat → Except Refusal PUnit
  | none => .ok ⟨⟩
  | some b => .error (unresolved w (.module b) noOrigin)

theorem addModuleFrom_run_seen (h : m ∈ r.seen) (fuel : Nat) (log : List LogRecord) :
    (addModuleFrom w (fuel + 1) m).run (r, log) = (.ok ⟨⟩, r, log) := by
  rw [addModuleFrom, run_bind, show state.run (r, log) = (.ok r, r, log) from rfl]
  dsimp only
  rw [if_pos (by simpa using h)]
  rfl

theorem addModuleFrom_run_refused (h : m ∉ r.seen) (hl : moduleLocation? w m = none) (fuel : Nat)
    (log : List LogRecord) : (addModuleFrom w (fuel + 1) m).run (r, log) =
      (ended w (some m), enter w r m, log) := by
  have hlocate : locate w m = .error (unresolved w (.module m) noOrigin) := by rw [locate, hl]
  rw [addModuleFrom, run_bind, show state.run (r, log) = (.ok r, r, log) from rfl]
  dsimp only
  rw [if_neg (by simpa using h), enter, hl, hlocate]
  rfl

theorem record_run (message name location : String) : ∃ x, ∀ (r : Resolver) (log : List LogRecord),
    (record message name location).run (r, log) = (.ok ⟨⟩, r, log ++ [x]) :=
  ⟨_, fun _ _ => rfl⟩

/-- Entering a module leaves a record, and goes on with what the module opens. -/
theorem addModuleFrom_run_entered {l : String} (h : m ∉ r.seen)
    (hl : moduleLocation? w m = some l) : ∃ x, ∀ fuel log,
      (addModuleFrom w (fuel + 1) m).run (r, log) =
        ((opened w r m).forM (addModuleFrom w fuel)).run (enter w r m, log ++ [x]) := by
  have hlocate : locate w m = .ok l := by rw [locate, hl]
  have hrun (fuel : Nat) (log : List LogRecord) : (addModuleFrom w (fuel + 1) m).run (r, log) =
      (if !r.references.hasLocation l then do
          record "referenced module" (w.moduleName m) l
          (declaredReferences w m).forM (addModuleFrom w fuel)
        else record "location already referenced" (w.moduleName m) l).run (enter w r m, log) := by
    rw [addModuleFrom, run_bind, show state.run (r, log) = (.ok r, r, log) from rfl]
    dsimp only
    rw [if_neg (by simpa using h), enter, hl, hlocate]
    rfl
  by_cases hc : r.references.hasLocation l = true
  · obtain ⟨x, hx⟩ := record_run "location already referenced" (w.moduleName m) l
    refine ⟨x, fun fuel log => ?_⟩
    rw [hrun, if_neg (by simp [hc]), opened, hl, hx]
    dsimp only
    rw [if_pos hc]
    rfl
  · obtain ⟨x, hx⟩ := record_run "referenced module" (w.moduleName m) l
    refine ⟨x, fun fuel log => ?_⟩
    rw [hrun, if_pos (by simpa using hc), opened, hl, run_bind, hx]
    dsimp only
    rw [if_neg hc]

theorem forM_cons_run {f : Nat → Resolving PUnit} {l l' : Resolver × List LogRecord} {m : Nat}
    (h : (f m).run l = (.ok ⟨⟩, l')) (ms : List Nat) :
    ((m :: ms).forM f).run l = (ms.forM f).run l' := by
  show (f m >>= fun _ => ms.forM f).run l = _
  rw [run_bind, h]

theorem forM_cons_run_refused {f : Nat → Resolving PUnit} {l l' : Resolver × List LogRecord}
    {e : Refusal} (h : (f m).run l = (.error e, l')) (ms : List Nat) :
    ((m :: ms).forM f).run l = (.error e, l') := by
  show (f m >>= fun _ => ms.forM f).run l = _
  rw [run_bind, h]

/-- **Adding modules is a walk.** As deep as there are objects that have not been visited, all depths
give the same: entering a module with a place leaves fewer of them. -/
theorem forM_run (n : Nat) : ∀ r ms, unvisited w r ≤ n → ∃ os o, Walk w r ms os o ∧
    ∃ records, ∀ fuel, n < fuel → ∀ log,
      (ms.forM (addModuleFrom w fuel)).run (r, log) =
        (ended w o, os.foldl (enter w) r, log ++ records) := by
  induction n using Nat.strongRecOn with
  | ind n ihn =>
    intro r ms
    induction ms with
    | nil => exact fun _ => ⟨[], none, .done r, [], fun fuel _ log => by rw [List.append_nil]; rfl⟩
    | cons m ms ih =>
      intro hn
      by_cases hm : m ∈ r.seen
      · obtain ⟨os, o, hwalk, records, hrun⟩ := ih hn
        refine ⟨os, o, .seen hm hwalk, records, fun fuel hfuel log => ?_⟩
        obtain ⟨fuel, rfl⟩ := Nat.exists_eq_succ_of_ne_zero (Nat.ne_zero_of_lt hfuel)
        rw [forM_cons_run (addModuleFrom_run_seen hm fuel log), hrun _ hfuel]
      cases hl : moduleLocation? w m with
      | none =>
        refine ⟨[m], some m, .refused hm hl, [], fun fuel hfuel log => ?_⟩
        obtain ⟨fuel, rfl⟩ := Nat.exists_eq_succ_of_ne_zero (Nat.ne_zero_of_lt hfuel)
        rw [forM_cons_run_refused (addModuleFrom_run_refused hm hl fuel log), List.append_nil]
        rfl
      | some l =>
        have hlt := unvisited_enter_lt hm hl
        obtain ⟨k, rfl⟩ : ∃ k, n = k + 1 := ⟨n - 1, by omega⟩
        obtain ⟨x, hx⟩ := addModuleFrom_run_entered hm hl
        obtain ⟨os, o, hwalk, records, hrun⟩ :=
          ihn k (by omega) (enter w r m) (opened w r m) (by omega)
        -- What the module opens is walked with one depth less, what is ahead of it with all depth.
        have hone (fuel : Nat) (hfuel : k < fuel) (log : List LogRecord) :
            (addModuleFrom w (fuel + 1) m).run (r, log) =
              (ended w o, os.foldl (enter w) (enter w r m), log ++ [x] ++ records) := by
          rw [hx, hrun fuel hfuel]
        cases o with
        | some b =>
          refine ⟨m :: os, some b, .entered hm hl (hwalk.append_refused ms), [x] ++ records,
            fun fuel hfuel log => ?_⟩
          obtain ⟨fuel, rfl⟩ := Nat.exists_eq_succ_of_ne_zero (Nat.ne_zero_of_lt hfuel)
          rw [forM_cons_run_refused (hone fuel (by omega) log), List.append_assoc]
          rfl
        | none =>
          have hle := unvisited_anti (w := w) (extends_foldl (w := w) os (enter w r m))
          obtain ⟨ps, o', hwalk', records', hrun'⟩ :=
            ihn k (by omega) (os.foldl (enter w) (enter w r m)) ms (by omega)
          refine ⟨m :: (os ++ ps), o', .entered hm hl (hwalk.append hwalk'),
            [x] ++ records ++ records', fun fuel hfuel log => ?_⟩
          obtain ⟨fuel, rfl⟩ := Nat.exists_eq_succ_of_ne_zero (Nat.ne_zero_of_lt hfuel)
          rw [forM_cons_run (hone fuel (by omega) log), hrun' _ (by omega), List.foldl_cons,
            List.foldl_append]
          simp only [List.append_assoc]

theorem forM_singleton_run {f : Nat → Resolving PUnit} (m : Nat) (l : Resolver × List LogRecord) :
    ([m].forM f).run l = (f m).run l := by
  simp

/-- **Adding a module is a walk,** which no lack of depth cuts short. -/
theorem addModule_run (w : World) (r : Resolver) (m : Nat) : ∃ os o, Walk w r [m] os o ∧
    ∃ records, ∀ fuel, w.objects.size < fuel → ∀ log,
      (addModuleFrom w fuel m).run (r, log) =
        (ended w o, os.foldl (enter w) r, log ++ records) := by
  obtain ⟨os, o, hwalk, records, hrun⟩ := forM_run w.objects.size r [m] (unvisited_le w r)
  exact ⟨os, o, hwalk, records, fun fuel hfuel log => by rw [← hrun fuel hfuel, forM_singleton_run]⟩

/-! ## Adding types -/

/-- A type inside a function, which cannot be imported. -/
def isLocal (hint : Value) : Bool :=
  (((Hint.nameParts? hint).map Prod.snd).getD "").contains "<locals>"

/-- What adding a type comes to when the walk through its module does. -/
def endedFor (w : World) (hint : Value) : Option Nat → Except Refusal PUnit
  | none => .ok ⟨⟩
  | some _ => .error (unresolved w hint noOrigin)

/-- A type without a module is refused by its own name. -/
theorem moduleOf?_error {hint : Value} {e : Refusal} (h : moduleOf? w r hint = .error e) :
    ∃ reason, e = unresolved w hint reason := by
  unfold moduleOf? at h
  split at h
  · cases h
  · simp only at h
    split at h
    · cases h
    · exact ⟨_, (Except.error.inj h).symm⟩

/-- **Adding a type** is refused at once, by its own name, if it has no module or is inside a function,
and walks through its module otherwise. -/
theorem addType_run_cases (w : World) (r : Resolver) (hint : Value) :
    (((∃ e, moduleOf? w r hint = .error e) ∨ isLocal hint = true) ∧
      ∃ reason, ∀ log, (addType w hint).run (r, log) = (.error (unresolved w hint reason), r, log)) ∨
    ∃ m os o, moduleOf? w r hint = .ok m ∧ isLocal hint = false ∧ Walk w r [m] os o ∧
      ∃ records, ∀ log, (addType w hint).run (r, log) =
        (endedFor w hint o, os.foldl (enter w) r, log ++ records) := by
  cases hm : moduleOf? w r hint with
  | error e =>
    obtain ⟨reason, rfl⟩ := moduleOf?_error hm
    refine .inl ⟨.inl ⟨_, rfl⟩, reason, fun log => ?_⟩
    unfold addType
    rw [run_bind, show state.run (r, log) = (.ok r, r, log) from rfl]
    dsimp only
    rw [hm]
    rfl
  | ok m =>
    cases hlocal : isLocal hint with
    | true =>
      refine .inl ⟨.inr rfl, insideFunction, fun log => ?_⟩
      unfold addType
      rw [run_bind, show state.run (r, log) = (.ok r, r, log) from rfl]
      dsimp only
      rw [hm, run_bind, show (orRefuse (Except.ok m)).run (r, log) = (.ok m, r, log) from rfl]
      dsimp only
      rw [if_pos (by simpa [isLocal] using hlocal)]
      rfl
    | false =>
      obtain ⟨os, o, hwalk, records, hrun⟩ := addModule_run w r m
      refine .inr ⟨m, os, o, rfl, rfl, hwalk, records, fun log => ?_⟩
      have hadd : (addModule w m).run (r, log) = _ := hrun _ (Nat.lt_succ_self _) log
      cases o with
      | none => exact addType_run hm hlocal hadd
      | some b => exact addType_run_refused hm hlocal hadd

/-! ## Where a walk leads -/

/-- The modules that declared references lead to. -/
def Reaches (w : World) (ms : List Nat) (k : Nat) : Prop :=
  ∃ m ∈ ms, Relation.ReflTransGen (fun i j => j ∈ declaredReferences w i) m k

theorem reaches_of_mem (h : m ∈ ms) : Reaches w ms m := ⟨m, h, .refl⟩

theorem Reaches.mono (h : ∀ m ∈ ms, m ∈ xs) {k : Nat} (hk : Reaches w ms k) : Reaches w xs k := by
  obtain ⟨m, hm, hpath⟩ := hk
  exact ⟨m, h m hm, hpath⟩

theorem opened_subset (w : World) (r : Resolver) (m : Nat) :
    ∀ k ∈ opened w r m, k ∈ declaredReferences w m := by
  unfold opened
  split
  · exact nofun
  · split
    · exact nofun
    · exact fun _ h => h

/-- What is reached from the modules that a module refers to is reached from it. -/
theorem Reaches.of_append (h : ∀ k ∈ xs, k ∈ declaredReferences w m) {k : Nat}
    (hk : Reaches w (xs ++ ms) k) : Reaches w (m :: ms) k := by
  obtain ⟨i, hi, hpath⟩ := hk
  rcases List.mem_append.mp hi with hi | hi
  · exact ⟨m, List.mem_cons_self, .head (h i hi) hpath⟩
  · exact ⟨i, List.mem_cons_of_mem m hi, hpath⟩

/-- **A walk enters only what it can reach.** -/
theorem Walk.reaches (h : Walk w r ms os o) : ∀ k ∈ os, Reaches w ms k := by
  induction h with
  | done r => exact nofun
  | seen hm _ ih => exact fun k hk => (ih k hk).mono fun _ => List.mem_cons_of_mem _
  | refused hm hl => exact fun k hk => reaches_of_mem (by simp [List.mem_singleton.mp hk])
  | entered hm hl _ ih =>
    refine List.forall_mem_cons.mpr ⟨reaches_of_mem List.mem_cons_self, fun k hk => ?_⟩
    exact (ih k hk).of_append (opened_subset w _ _)

/-- A walk is ended by a module without a place. -/
theorem Walk.ended_unplaced (h : Walk w r ms os (some b)) : b ∈ os ∧ moduleLocation? w b = none := by
  generalize hn : some b = n at h
  induction h with
  | done r => cases hn
  | seen hm _ ih => exact ih hn
  | refused hm hl =>
    obtain rfl := Option.some.inj hn
    exact ⟨List.mem_singleton_self b, hl⟩
  | entered hm hl _ ih => exact (ih hn).imp_left (List.mem_cons_of_mem _)

end Resolver

end Facade
