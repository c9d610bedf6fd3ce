import Facade.Config.Session
import Facade.Proofs.Outcome
import Facade.Proofs.Rereading

/-!
# Settings on top of settings

The settings of a directory come on top of those of the directories around it, two at a time. How they
are put together in pairs makes no difference.

* `Value.face?`: what a simple value amounts to; two are equal if they amount to the same.
* `IsKeyed`: facts whose keys are simple and differ from each other.
* `mergeFacts_assoc`, `mergeFacts_self`: facts on top of facts.
* `Grouping`: a row of settings put together in pairs; `Grouping.merged_eq` says that only the row
  counts.
* `Session.get?_perform`: work with settings of some names leaves the other names alone.
-/

namespace Facade

/-! ## Equality of simple values -/

/-- What a simple value amounts to: a key that data can have. -/
inductive Face where
  | absent
  | text (s : String)
  | whole (i : Int)
  | real (x : Binary64)
  | moment (m : Moment)
  deriving DecidableEq

/-- What a value amounts to if it is simple. A number that is none differs from itself, so it is not
simple. -/
def Value.face? : Value → Option Face
  | .none => some .absent
  | .str s | .subStr s => some (.text s)
  | .bool b => some (.whole (if b then 1 else 0))
  | .int i | .subInt i => some (.whole i)
  | .float x =>
    match x.toInt? with
    | some i => some (.whole i)
    | Option.none => if x.parts = .nan then Option.none else some (.real x)
  | .moment m => some (.moment m)
  | _ => Option.none

theorem Binary64.toInt?_of_isZero {x : Binary64} (h : x.isZero = true) : x.toInt?.isSome := by
  rw [Binary64.eq_of_isZero h]
  obtain ⟨p, hp, -⟩ := Binary64.parts_zero x.isNegative
  simp only [Binary64.toInt?, hp]
  split <;> simp

/-- Reals of which one is no integer are equal if they have the same bits. -/
theorem Binary64.numEq_eq {x y : Binary64} (hx : x.parts ≠ .nan) (hy : y.parts ≠ .nan)
    (hi : x.toInt? = none ∨ y.toInt? = none) : x.numEq y = decide (x = y) := by
  have hzero : (x.isZero && y.isZero) = false := by
    rw [← Bool.not_eq_true, Bool.and_eq_true]
    rintro ⟨h, h'⟩
    have := toInt?_of_isZero h
    have := toInt?_of_isZero h'
    rcases hi with hi | hi <;> simp_all
  unfold numEq
  split
  · contradiction
  · contradiction
  · rw [hzero, Bool.or_false]
    rfl

theorem Binary64.parts_ne_nan {x : Binary64} {i : Int} (h : x.toInt? = some i) : x.parts ≠ .nan := by
  intro hx
  simp [toInt?, hx] at h

/-- A number. -/
inductive Value.IsNumber : Value → Prop
  | bool (b : Bool) : IsNumber (.bool b)
  | int (i : Int) : IsNumber (.int i)
  | subInt (i : Int) : IsNumber (.subInt i)
  | float (x : Binary64) : IsNumber (.float x)

/-- What a number amounts to. -/
def Value.Amounts (v : Value) (f : Face) : Prop :=
  (∃ i, v.toInt? = some i ∧ f = .whole i) ∨
    ∃ x, v = .float x ∧ x.toInt? = Option.none ∧ x.parts ≠ .nan ∧ f = .real x

theorem Value.amounts_of_isNumber {v : Value} {f : Face} (hv : v.IsNumber) (h : v.face? = some f) :
    v.Amounts f := by
  cases hv with
  | float x =>
    simp only [face?] at h
    split at h
    · exact .inl ⟨_, by assumption, (Option.some.inj h).symm⟩
    · split at h
      · cases h
      · exact .inr ⟨x, rfl, by assumption, by assumption, (Option.some.inj h).symm⟩
  | _ => exact .inl ⟨_, rfl, (Option.some.inj h).symm⟩

/-- The shapes of simple values that are no numbers. -/
theorem Value.face?_cases {v : Value} {f : Face} (h : v.face? = some f) :
    v.IsNumber ∨ (v = .none ∧ f = .absent) ∨ (∃ s, (v = .str s ∨ v = .subStr s) ∧ f = .text s) ∨
      ∃ m, v = .moment m ∧ f = .moment m := by
  cases v with
  | bool b => exact .inl (.bool b)
  | int i => exact .inl (.int i)
  | subInt i => exact .inl (.subInt i)
  | float x => exact .inl (.float x)
  | none => exact .inr (.inl ⟨rfl, (Option.some.inj h).symm⟩)
  | str s => exact .inr (.inr (.inl ⟨s, .inl rfl, (Option.some.inj h).symm⟩))
  | subStr s => exact .inr (.inr (.inl ⟨s, .inr rfl, (Option.some.inj h).symm⟩))
  | moment m => exact .inr (.inr (.inr ⟨m, rfl, (Option.some.inj h).symm⟩))
  | _ => cases h

theorem Value.same_of_isNumber {a b : Value} (ha : a.IsNumber) (hb : b.IsNumber) :
    a.same b = (sameNumber a b).getD false := by
  cases ha <;> cases hb <;> (unfold Value.same; rfl)

/-- Numbers are equal if they amount to the same. -/
theorem Value.same_of_amounts {a b : Value} {f g : Face} (hna : a.IsNumber) (hnb : b.IsNumber)
    (ha : a.Amounts f) (hb : b.Amounts g) : a.same b = decide (f = g) := by
  rw [same_of_isNumber hna hnb]
  obtain ⟨i, ha, rfl⟩ | ⟨x, rfl, hx, hxn, rfl⟩ := ha <;>
    obtain ⟨j, hb, rfl⟩ | ⟨y, rfl, hy, hyn, rfl⟩ := hb
  · simp [sameNumber, ha, hb, beq_eq_decide]
  · cases hna with
    | float x =>
      have hne : x ≠ y := fun h => by simp_all [toInt?]
      simp [sameNumber, toInt?, hy, Binary64.numEq_eq (Binary64.parts_ne_nan ha) hyn (.inr hy), hne]
    | _ => simp [sameNumber, toInt?, hy]
  · cases hnb with
    | float y =>
      have hne : x ≠ y := fun h => by simp_all [toInt?]
      simp [sameNumber, toInt?, hx, Binary64.numEq_eq hxn (Binary64.parts_ne_nan hb) (.inl hx), hne]
    | _ => simp [sameNumber, toInt?, hx]
  · simp [sameNumber, toInt?, hx, Binary64.numEq_eq hxn hyn (.inl hx)]

/-- A number equals nothing else that is simple. -/
theorem Value.same_number {a b : Value} {f g : Face} (hna : ¬ a.IsNumber) (hnb : b.IsNumber)
    (ha : a.face? = some f) (hb : b.Amounts g) :
    a.same b = decide (f = g) ∧ b.same a = decide (g = f) := by
  have hg : (∃ i, g = .whole i) ∨ ∃ x, g = .real x := by
    obtain ⟨i, -, rfl⟩ | ⟨x, -, -, -, rfl⟩ := hb
    · exact .inl ⟨i, rfl⟩
    · exact .inr ⟨x, rfl⟩
  obtain h | ⟨rfl, rfl⟩ | ⟨s, rfl | rfl, rfl⟩ | ⟨m, rfl, rfl⟩ := face?_cases ha
  · exact absurd h hna
  all_goals
    obtain ⟨_, rfl⟩ | ⟨_, rfl⟩ := hg <;> cases hnb <;> unfold Value.same <;>
      simp [toStr?, sameNumber, toInt?]

/-- Simple values that are no numbers are equal if they amount to the same. -/
theorem Value.same_of_not_isNumber {a b : Value} {f g : Face} (hna : ¬ a.IsNumber)
    (hnb : ¬ b.IsNumber) (ha : a.face? = some f) (hb : b.face? = some g) :
    a.same b = decide (f = g) := by
  obtain h | ⟨rfl, rfl⟩ | ⟨s, rfl | rfl, rfl⟩ | ⟨m, rfl, rfl⟩ := face?_cases ha
  · exact absurd h hna
  all_goals
    obtain h | ⟨rfl, rfl⟩ | ⟨t, rfl | rfl, rfl⟩ | ⟨n, rfl, rfl⟩ := face?_cases hb
    · exact absurd h hnb
    all_goals
      unfold Value.same
      simp [toStr?, sameNumber, toInt?, beq_eq_decide]

/-- **Simple values are equal if they amount to the same.** -/
theorem Value.same_of_face? {a b : Value} {f g : Face} (ha : a.face? = some f)
    (hb : b.face? = some g) : a.same b = decide (f = g) := by
  by_cases hna : a.IsNumber <;> by_cases hnb : b.IsNumber
  · exact same_of_amounts hna hnb (amounts_of_isNumber hna ha) (amounts_of_isNumber hnb hb)
  · exact (same_number hnb hna hb (amounts_of_isNumber hna ha)).2
  · exact (same_number hna hnb ha (amounts_of_isNumber hnb hb)).1
  · exact same_of_not_isNumber hna hnb ha hb

namespace Config

/-! ## Facts on top of facts -/

/-- What the keys of facts amount to. -/
def faces (m : List (Value × Value)) : List (Option Face) := m.map fun e => e.1.face?

/-- Facts whose keys are simple. -/
def IsSimple (m : List (Value × Value)) : Prop := ∀ e ∈ m, e.1.face?.isSome = true

instance (m : List (Value × Value)) : Decidable (IsSimple m) :=
  inferInstanceAs (Decidable (∀ e ∈ m, _))

/-- Facts whose keys are simple and differ from each other, as those of a table do. -/
structure IsKeyed (m : List (Value × Value)) : Prop where
  simple : IsSimple m
  distinct : (faces m).Nodup

/-- The facts with one more; a key that amounts to the same keeps its place and its spelling. -/
def put (m : List (Value × Value)) (e : Value × Value) : List (Value × Value) :=
  if e.1.face? ∈ faces m then m.map fun d => if d.1.face? = e.1.face? then (d.1, e.2) else d
  else m ++ [e]

section Put

variable {a b c m : List (Value × Value)} {d e : Value × Value}

theorem insertEntry_eq_put (hm : IsSimple m) (he : e.1.face?.isSome = true) :
    Value.insertEntry m e.1 e.2 = put m e := by
  obtain ⟨f, hf⟩ := Option.isSome_iff_exists.mp he
  have hsame : ∀ d ∈ m, d.1.same e.1 = decide (d.1.face? = e.1.face?) := by
    intro d hd
    obtain ⟨g, hg⟩ := Option.isSome_iff_exists.mp (hm d hd)
    simp [Value.same_of_face? hg hf, hg, hf]
  have hany : (m.any fun d => d.1.same e.1) = decide (e.1.face? ∈ faces m) := by
    rw [Bool.eq_iff_iff, List.any_eq_true, decide_eq_true_eq, faces, List.mem_map]
    exact exists_congr fun d => and_congr_right fun hd => by simp [hsame d hd]
  unfold Value.insertEntry put
  rw [hany]
  simp only [decide_eq_true_eq]
  congr 1
  exact List.map_congr_left fun d hd => by simp [hsame d hd]

@[simp] theorem faces_append : faces (a ++ b) = faces a ++ faces b := List.map_append

theorem face_replace (d e : Value × Value) :
    (if d.1.face? = e.1.face? then (d.1, e.2) else d).1 = d.1 := by
  split <;> rfl

theorem faces_put : faces (put m e) =
    if e.1.face? ∈ faces m then faces m else faces m ++ [e.1.face?] := by
  unfold put
  split
  · simp only [faces, List.map_map]
    exact List.map_congr_left fun d _ => congrArg Value.face? (face_replace d e)
  · simp [faces]

theorem mem_faces_put : e.1.face? ∈ faces (put m e) := by
  rw [faces_put]
  split
  · assumption
  · simp

theorem isSimple_put (hm : IsSimple m) (he : e.1.face?.isSome = true) : IsSimple (put m e) := by
  have h : ∀ f ∈ faces (put m e), f.isSome = true := by
    intro f hf
    rw [faces_put] at hf
    have hm' : ∀ f ∈ faces m, f.isSome = true := List.forall_mem_map.mpr hm
    split at hf
    · exact hm' f hf
    · rw [List.mem_append, List.mem_singleton] at hf
      rcases hf with hf | rfl
      · exact hm' f hf
      · exact he
  exact List.forall_mem_map.mp h

theorem isKeyed_put (hm : IsKeyed m) (he : e.1.face?.isSome = true) : IsKeyed (put m e) := by
  refine ⟨isSimple_put hm.simple he, ?_⟩
  rw [faces_put]
  split
  · exact hm.distinct
  · rename_i h
    exact List.nodup_append'.mpr ⟨hm.distinct, List.nodup_singleton _, by simpa using h⟩

/-- A key that is put twice has the value of the second time. -/
theorem put_put (h : d.1.face? = e.1.face?) : put (put m d) e = put m (d.1, e.2) := by
  have hmem : e.1.face? ∈ faces (put m d) := h ▸ mem_faces_put
  rw [put, if_pos hmem]
  unfold put
  split
  · rw [List.map_map]
    refine List.map_congr_left fun c _ => ?_
    by_cases hc : c.1.face? = d.1.face? <;> simp [hc, h, h ▸ hc]
  · rename_i hd
    rw [List.map_append]
    congr 1
    · refine (List.map_congr_left fun c hc => if_neg fun hce => hd ?_).trans (List.map_id _)
      exact h ▸ hce ▸ List.mem_map_of_mem hc
    · simp [h]

/-- Keys that differ can be put in any order once one of them is there. -/
theorem put_comm (h : d.1.face? ≠ e.1.face?) (he : e.1.face? ∈ faces m) :
    put (put m d) e = put (put m e) d := by
  have hed : e.1.face? ∈ faces (put m d) := by
    rw [faces_put]
    split
    · exact he
    · simp [he]
  have hd : d.1.face? ∈ faces (put m e) ↔ d.1.face? ∈ faces m := by
    rw [faces_put, if_pos he]
  rw [put, if_pos hed]
  by_cases hm : d.1.face? ∈ faces m
  · rw [put, if_pos hm, put, if_pos (hd.mpr hm), put, if_pos he, List.map_map, List.map_map]
    refine List.map_congr_left fun c _ => ?_
    by_cases hcd : c.1.face? = d.1.face?
    · simp [hcd, h]
    · by_cases hce : c.1.face? = e.1.face? <;> simp [hcd, hce, Ne.symm h]
  · rw [put, if_neg hm, put, if_neg (mt hd.mp hm), put, if_pos he, List.map_append]
    simp [h]

theorem put_foldl (hb : ∀ d ∈ b, d.1.face? ≠ e.1.face?) (he : e.1.face? ∈ faces m) :
    put (b.foldl put m) e = b.foldl put (put m e) := by
  induction b generalizing m with
  | nil => rfl
  | cons d r ih =>
    rw [List.forall_mem_cons] at hb
    have hmem : e.1.face? ∈ faces (put m d) := by
      rw [faces_put]
      split
      · exact he
      · simp [he]
    rw [List.foldl_cons, List.foldl_cons, ih hb.2 hmem, put_comm hb.1 he]

/-- **Facts with one more, on top of others,** are the one more on top of everything. -/
theorem foldl_put (hb : (faces b).Nodup) : (put b e).foldl put a = put (b.foldl put a) e := by
  by_cases he : e.1.face? ∈ faces b
  · obtain ⟨d, hd, hde⟩ := List.mem_map.mp he
    obtain ⟨p, q, rfl⟩ := List.append_of_mem hd
    have hother : e.1.face? ∉ faces p ∧ e.1.face? ∉ faces q := by
      rw [faces_append, faces, faces, List.map_cons, List.nodup_middle, List.nodup_cons,
        List.mem_append, not_or, hde] at hb
      exact hb.1
    have hp : ∀ c ∈ p, c.1.face? ≠ e.1.face? := fun c hc h =>
      hother.1 (h ▸ List.mem_map_of_mem hc)
    have hq : ∀ c ∈ q, c.1.face? ≠ e.1.face? := fun c hc h =>
      hother.2 (h ▸ List.mem_map_of_mem hc)
    have hput : put (p ++ d :: q) e = p ++ (d.1, e.2) :: q := by
      rw [put, if_pos he, List.map_append, List.map_cons, if_pos hde]
      congr 1
      · exact (List.map_congr_left fun c hc => if_neg (hp c hc)).trans (List.map_id _)
      · exact congrArg _ ((List.map_congr_left fun c hc => if_neg (hq c hc)).trans (List.map_id _))
    calc (put (p ++ d :: q) e).foldl put a
        = q.foldl put (put (p.foldl put a) (d.1, e.2)) := by
          rw [hput, List.foldl_append, List.foldl_cons]
      _ = q.foldl put (put (put (p.foldl put a) d) e) := by rw [put_put hde]
      _ = put (q.foldl put (put (p.foldl put a) d)) e := (put_foldl hq (hde ▸ mem_faces_put)).symm
      _ = put ((p ++ d :: q).foldl put a) e := by rw [List.foldl_append, List.foldl_cons]
  · rw [put, if_neg he, List.foldl_append]
    rfl

theorem mergeFacts_eq (ha : IsSimple a) (hb : IsSimple b) : mergeFacts a b = b.foldl put a := by
  induction b generalizing a with
  | nil => rfl
  | cons e r ih =>
    rw [IsSimple, List.forall_mem_cons] at hb
    rw [List.foldl_cons, ← ih (isSimple_put ha hb.1) hb.2, ← insertEntry_eq_put ha hb.1]
    rfl

theorem isSimple_mergeFacts (ha : IsSimple a) (hb : IsSimple b) : IsSimple (mergeFacts a b) := by
  rw [mergeFacts_eq ha hb]
  induction b generalizing a with
  | nil => exact ha
  | cons e r ih =>
    rw [IsSimple, List.forall_mem_cons] at hb
    exact ih (isSimple_put ha hb.1) hb.2

theorem isKeyed_mergeFacts (ha : IsKeyed a) (hb : IsSimple b) : IsKeyed (mergeFacts a b) := by
  rw [mergeFacts_eq ha.simple hb]
  induction b generalizing a with
  | nil => exact ha
  | cons e r ih =>
    rw [IsSimple, List.forall_mem_cons] at hb
    exact ih (isKeyed_put ha hb.1) hb.2

/-- **Facts on top of facts can be grouped in any way.** -/
theorem mergeFacts_assoc (ha : IsSimple a) (hb : IsKeyed b) (hc : IsSimple c) :
    mergeFacts a (mergeFacts b c) = mergeFacts (mergeFacts a b) c := by
  rw [mergeFacts_eq ha (isKeyed_mergeFacts hb hc).simple, mergeFacts_eq hb.simple hc,
    mergeFacts_eq ha hb.simple,
    mergeFacts_eq (mergeFacts_eq ha hb.simple ▸ isSimple_mergeFacts ha hb.simple) hc]
  induction c generalizing b with
  | nil => rfl
  | cons e r ih =>
    rw [IsSimple, List.forall_mem_cons] at hc
    rw [List.foldl_cons, List.foldl_cons, ← foldl_put hb.distinct]
    exact ih (isKeyed_put hb hc.1) hc.2

/-- **Facts on top of themselves** are as they were. -/
theorem mergeFacts_self (hm : IsKeyed m) : mergeFacts m m = m := by
  have hput : ∀ e ∈ m, put m e = m := by
    intro e he
    have hmem : e.1.face? ∈ faces m := List.mem_map_of_mem he
    rw [put, if_pos hmem]
    refine (List.map_congr_left fun d hd => ?_).trans (List.map_id _)
    split
    · rename_i h
      rw [List.inj_on_of_nodup_map hm.distinct hd he h]
      rfl
    · rfl
  have hfold : ∀ l : List (Value × Value), (∀ e ∈ l, e ∈ m) → l.foldl put m = m := by
    intro l hl
    induction l with
    | nil => rfl
    | cons e r ih =>
      rw [List.forall_mem_cons] at hl
      rw [List.foldl_cons, hput e hl.1, ih hl.2]
  rw [mergeFacts_eq hm.simple hm.simple, hfold m fun _ => id]

end Put

/-! ## Settings on top of settings -/

/-- Settings whose facts have simple keys that differ from each other. -/
def Settings.IsKeyed (s : Settings) : Prop := Config.IsKeyed s.metadata

theorem orBelow_assoc (a b c : Value) : orBelow (orBelow c b) a = orBelow c (orBelow b a) := by
  unfold orBelow
  cases hc : c.truth <;> simp [hc]

theorem orBelow_self (v : Value) : orBelow v v = v := ite_self v

theorem unlessUsual_assoc (usual a b c : Value) :
    unlessUsual usual (unlessUsual usual c b) a = unlessUsual usual c (unlessUsual usual b a) := by
  unfold unlessUsual
  cases hc : c.same usual <;> simp [hc]

theorem unlessUsual_self (usual v : Value) : unlessUsual usual v v = v := ite_self v

theorem Compiling.merge_assoc (a b c : Compiling) :
    a.merge (b.merge c) = (a.merge b).merge c := by
  simp only [merge, orBelow_assoc, Option.orElse_eq_orElse, Compiling.mk.injEq, true_and, and_true]
  cases c.workingDir <;> rfl

theorem Compiling.merge_self (a : Compiling) : a.merge a = a := by
  obtain ⟨persist, workingDir, warningsAsErrors, version⟩ := a
  simp only [merge, orBelow_self, Compiling.mk.injEq, true_and, and_true]
  cases workingDir <;> rfl

theorem Naming.merge_assoc (a b c : Naming) : a.merge (b.merge c) = (a.merge b).merge c := by
  simp only [merge, unlessUsual_assoc]

theorem Naming.merge_self (a : Naming) : a.merge a = a := by
  simp only [merge, unlessUsual_self]

section Settings

variable {a b c : Settings}

theorem Settings.isKeyed_merge (ha : a.IsKeyed) (hb : b.IsKeyed) : (a.merge b).IsKeyed :=
  isKeyed_mergeFacts ha hb.simple

theorem Settings.merge_assoc (ha : a.IsKeyed) (hb : b.IsKeyed) (hc : c.IsKeyed) :
    a.merge (b.merge c) = (a.merge b).merge c := by
  simp only [merge, Compiling.merge_assoc, Naming.merge_assoc,
    mergeFacts_assoc ha.simple hb hc.simple]

theorem Settings.merge_self (ha : a.IsKeyed) : a.merge a = a := by
  simp only [merge, Compiling.merge_self, Naming.merge_self, mergeFacts_self ha]

end Settings

/-- A row of settings put together in pairs. -/
inductive Grouping where
  /-- Settings on their own. -/
  | one (s : Settings)
  /-- What one group comes to, with what another comes to on top. -/
  | pair (below above : Grouping)

namespace Grouping

/-- The settings of a group, the lowest first. -/
def row : Grouping → List Settings
  | one s => [s]
  | pair g h => g.row ++ h.row

/-- What a group comes to. -/
def merged : Grouping → Settings
  | one s => s
  | pair g h => g.merged.merge h.merged

theorem isKeyed_merged {g : Grouping} (hg : ∀ s ∈ g.row, s.IsKeyed) : g.merged.IsKeyed := by
  induction g with
  | one s => exact hg s (List.mem_singleton_self s)
  | pair g h ihg ihh =>
    rw [row, List.forall_mem_append] at hg
    exact Settings.isKeyed_merge (ihg hg.1) (ihh hg.2)

/-- A group comes to what its settings come to if each is put on top of all those before it. -/
theorem foldl_merge_row (g : Grouping) {s : Settings} (hs : s.IsKeyed)
    (hg : ∀ s ∈ g.row, s.IsKeyed) : g.row.foldl Settings.merge s = s.merge g.merged := by
  induction g generalizing s with
  | one t => rfl
  | pair g h ihg ihh =>
    rw [row, List.forall_mem_append] at hg
    have hgk := isKeyed_merged hg.1
    rw [row, List.foldl_append, ihg hs hg.1, ihh (Settings.isKeyed_merge hs hgk) hg.2, merged,
      Settings.merge_assoc hs hgk (isKeyed_merged hg.2)]

/-- The lowest settings of a group, and those above them. -/
theorem exists_row (g : Grouping) : ∃ s r, g.row = s :: r := by
  induction g with
  | one s => exact ⟨s, [], rfl⟩
  | pair g h ihg _ =>
    obtain ⟨s, r, hr⟩ := ihg
    exact ⟨s, r ++ h.row, by rw [row, hr]; rfl⟩

theorem merged_eq_foldl {g : Grouping} (hg : ∀ s ∈ g.row, s.IsKeyed) {s : Settings}
    {r : List Settings} (hr : g.row = s :: r) : g.merged = r.foldl Settings.merge s := by
  induction g generalizing s r with
  | one t =>
    obtain ⟨rfl, rfl⟩ := List.cons.inj hr
    rfl
  | pair g h ihg _ =>
    rw [row, List.forall_mem_append] at hg
    obtain ⟨t, q, hq⟩ := g.exists_row
    rw [row, hq, List.cons_append] at hr
    obtain ⟨rfl, rfl⟩ := List.cons.inj hr
    rw [List.foldl_append, ← ihg hg.1 hq, foldl_merge_row h (isKeyed_merged hg.1) hg.2, merged]

/-- **Only the row counts,** not how it is grouped. -/
theorem merged_eq {g h : Grouping} (hg : ∀ s ∈ g.row, s.IsKeyed) (hrow : g.row = h.row) :
    g.merged = h.merged := by
  obtain ⟨s, r, hr⟩ := g.exists_row
  rw [merged_eq_foldl hg hr, merged_eq_foldl (hrow ▸ hg) (hrow ▸ hr)]

end Grouping

/-! ## Settings with names -/

namespace Session

open Execution Run

variable {s s' : Session} {name other : String} {w w' : World} {r : Except Failure Value}

theorem get?_make {y : Run Settings} {v : Value} (hne : name ≠ other)
    (h : (s.make name y).outcome w = (.ok (v, s'), w')) :
    s'.settings.get? other = s.settings.get? other := by
  obtain ⟨x, w₁, -, h⟩ := bind_eq_ok h
  obtain ⟨h, -⟩ := Prod.mk.inj h
  obtain ⟨-, rfl⟩ := Prod.mk.inj (Except.ok.inj h)
  exact Table.get?_set_of_ne _ _ hne

theorem get?_change {c : Change} (hne : name ≠ other)
    (h : (s.change name c).outcome w = (.ok (r, s'), w')) :
    s'.settings.get? other = s.settings.get? other := by
  obtain ⟨x, w₁, -, h⟩ := bind_eq_ok h
  obtain ⟨h, -⟩ := Prod.mk.inj h
  obtain ⟨-, rfl⟩ := Prod.mk.inj (Except.ok.inj h)
  exact Table.get?_set_of_ne _ _ hne

theorem get?_ok_make {y : Run Settings} (hne : name ≠ other)
    (h : (run.ok <$> s.make name y).outcome w = (.ok (r, s'), w')) :
    s'.settings.get? other = s.settings.get? other := by
  rw [map_eq_pure_bind] at h
  obtain ⟨⟨v, t⟩, w₁, ht, h⟩ := bind_eq_ok h
  obtain ⟨h, -⟩ := Prod.mk.inj h
  obtain ⟨-, rfl⟩ := Prod.mk.inj (Except.ok.inj h)
  exact get?_make hne ht

theorem get?_run {x : Step} (hne : name ≠ other)
    (h : (s.run name x).outcome w = (.ok (r, s'), w')) :
    s'.settings.get? other = s.settings.get? other := by
  cases x with
  | fresh => exact get?_ok_make hne h
  | data data root => exact get?_ok_make hne h
  | load file content => exact get?_ok_make hne h
  | reload source => exact get?_ok_make hne h
  | merge base top => exact get?_ok_make hne h
  | compiling given inside asFile =>
    simp only [run] at h
    split at h
    · obtain ⟨-, w₁, -, h⟩ := bind_eq_ok h
      exact get?_change hne h
    · exact get?_change hne h
  | change c => exact get?_change hne h
  | ask q =>
    obtain ⟨x, w₁, -, h⟩ := bind_eq_ok h
    obtain ⟨v, w₂, -, h⟩ := bind_eq_ok h
    obtain ⟨h, -⟩ := Prod.mk.inj h
    obtain ⟨-, rfl⟩ := Prod.mk.inj (Except.ok.inj h)
    rfl

/-- **A step works on the settings of its own name.** Those of other names stay. -/
theorem get?_step {x : Step} (hne : name ≠ other)
    (h : (s.step name x).outcome w = (.ok (r, s'), w')) :
    s'.settings.get? other = s.settings.get? other := by
  rw [step, outcome_tryCatch] at h
  rcases hx : (s.run name x).outcome w with ⟨e | ⟨v, t⟩, w₁⟩ <;> rw [hx] at h
  · obtain ⟨h, -⟩ := Prod.mk.inj h
    obtain ⟨-, rfl⟩ := Prod.mk.inj (Except.ok.inj h)
    rfl
  · obtain ⟨h, -⟩ := Prod.mk.inj h
    obtain ⟨-, rfl⟩ := Prod.mk.inj (Except.ok.inj h)
    exact get?_run hne hx

/-- Does several things, each with the settings of a name. -/
def perform (s : Session) : List (String × Step) → Run Session
  | [] => return s
  | (name, x) :: r => do (← s.step name x).2.perform r

/-- **Work with settings of some names leaves the other names alone.** -/
theorem get?_perform (xs : List (String × Step)) (hxs : ∀ x ∈ xs, x.1 ≠ other)
    (h : (s.perform xs).outcome w = (.ok s', w')) :
    s'.settings.get? other = s.settings.get? other := by
  induction xs generalizing s w with
  | nil =>
    obtain ⟨h, -⟩ := Prod.mk.inj h
    rw [Except.ok.inj h]
  | cons x r ih =>
    obtain ⟨name, x⟩ := x
    rw [List.forall_mem_cons] at hxs
    obtain ⟨⟨v, t⟩, w₁, ht, h⟩ := bind_eq_ok h
    rw [ih hxs.2 h, get?_step hxs.1 ht]

/-- **A merge** puts settings under a name and changes nothing else. -/
theorem outcome_step_merge {base top : String} {a b : Settings}
    (ha : s.settings.get? base = some a) (hb : s.settings.get? top = some b) (w : World) :
    (s.step name (.merge base top)).outcome w =
      (.ok (.ok .none, { s with settings := s.settings.set name (a.merge b) }), w) := by
  have hfa : (s.find base).outcome w = (.ok a, w) := by rw [find, ha]; rfl
  have hfb : (s.find top).outcome w = (.ok b, w) := by rw [find, hb]; rfl
  have hrun : (s.run name (.merge base top)).outcome w =
      (.ok (.ok .none, { s with settings := s.settings.set name (a.merge b) }), w) := by
    show (run.ok <$> s.make name _).outcome w = _
    rw [outcome_map, make, outcome_bind, outcome_bind, hfa, after_ok, outcome_bind, hfb]
    rfl
  rw [step, outcome_tryCatch, hrun]

end Session

/-! ## The laws of merging -/

/-- What holds of settings `a`, `b` and `c` that are put on top of each other. -/
structure MergeLaws (a b c : Settings) : Prop where
  /-- It makes no difference which two are put together first. -/
  assoc : a.merge (b.merge c) = (a.merge b).merge c
  /-- Settings on top of themselves are as they were. -/
  self : a.merge a = a
  /-- A row of settings comes to the same however it is grouped. -/
  regroup : ∀ g h : Grouping, (∀ s ∈ g.row, s.IsKeyed) → g.row = h.row → g.merged = h.merged
  /-- Settings merged under a name change nothing else, and no more does what is done with them
  afterwards. -/
  apart : ∀ (s : Session) (name base top : String) (w : World),
    s.settings.get? base = some a → s.settings.get? top = some b →
      ∃ s', (s.step name (.merge base top)).outcome w = (.ok (.ok .none, s'), w) ∧
        s'.settings.get? name = some (a.merge b) ∧
        ∀ (xs : List (String × Step)) (t : Session) (w' : World), (∀ x ∈ xs, x.1 = name) →
          (s'.perform xs).outcome w = (.ok t, w') →
          ∀ other, name ≠ other → t.settings.get? other = s.settings.get? other

/-- **Merging settings is associative and idempotent,** and the settings that are merged stay as they
are. -/
theorem mergeLaws {a b c : Settings} (ha : a.IsKeyed) (hb : b.IsKeyed) (hc : c.IsKeyed) :
    MergeLaws a b c where
  assoc := Settings.merge_assoc ha hb hc
  self := Settings.merge_self ha
  regroup _ _ hg hrow := Grouping.merged_eq hg hrow
  apart s name base top w hbase htop := by
    refine ⟨_, Session.outcome_step_merge hbase htop w, Table.get?_set_self _ _ _, ?_⟩
    intro xs t w' hxs ht other hne
    rw [Session.get?_perform xs (fun x hx h => hne (hxs x hx ▸ h)) ht]
    exact Table.get?_set_of_ne _ _ hne

/-- The settings around a project, with facts. -/
def outerSettings : Settings :=
  { compiling := { version := .str "1.0" }
    naming := { methodName := .str "invoke" }
    metadata := [(.str "owner", .str "platform"), (.str "retries", .int 3)] }

/-- Those of the project, with an empty version and the usual name of a method. -/
def projectSettings : Settings :=
  { compiling := { workingDir := some ⟨"/out", true⟩, version := .str "" }
    metadata := [(.subStr "retries", .int 5), (.bool true, .none)] }

/-- Those of a directory in it, with a key that equals one of the project's. -/
def innerSettings : Settings :=
  { naming := { typeName := .str "Wrapper" }
    metadata := [(.int 1, .str "one"), (.str "owner", .str "me")] }

/-- The settings of three directories inside each other; the facts keep the order and the spelling in
which they come first. -/
theorem mergeLaws_nested :
    outerSettings.IsKeyed ∧ projectSettings.IsKeyed ∧ innerSettings.IsKeyed ∧
      MergeLaws outerSettings projectSettings innerSettings := by
  have houter : outerSettings.IsKeyed := ⟨by decide, by decide⟩
  have hproject : projectSettings.IsKeyed := ⟨by decide, by decide⟩
  have hinner : innerSettings.IsKeyed := ⟨by decide, by decide⟩
  exact ⟨houter, hproject, hinner, mergeLaws houter hproject hinner⟩

end Config

end Facade
