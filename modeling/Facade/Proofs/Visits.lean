import Facade.Reference.Required
import Mathlib.Data.List.Chain
import Mathlib.Data.List.Induction
import Mathlib.Data.List.Nodup
import Mathlib.Logic.Relation

/-!
# Walks that know where they have been

A walk passes over every object that it knows, with all that lies in it. It finds what a walk finds
that goes everywhere, in the order in which that one first comes to it.

* `Objects.Meets`: the walk that goes everywhere, only not round in circles.
* `Objects.Lawful`: identities that tell objects apart, and depths that suffice.
* `Objects.exists_meets`: walking on from where a walk has come to adds what that walk meets.
* `Objects.required_eq`, `Objects.mem_required`, `Objects.nodup_required`,
  `Objects.required_append`: what is found.
-/

namespace Facade

/-! ## First occurrences -/

section EraseDups

variable {α : Type} [DecidableEq α]

theorem eraseDups_concat (xs : List α) (x : α) :
    (xs ++ [x]).eraseDups = if x ∈ xs then xs.eraseDups else xs.eraseDups ++ [x] := by
  rw [List.eraseDups_append]
  by_cases h : x ∈ xs <;> simp [List.removeAll, h, List.eraseDups_cons]

theorem nodup_eraseDups (xs : List α) : xs.eraseDups.Nodup := by
  induction xs using List.reverseRecOn with
  | nil => exact List.nodup_nil
  | append_singleton xs x ih =>
    rw [eraseDups_concat]
    split
    · exact ih
    · rename_i hx
      exact ih.append (List.nodup_singleton x) (by simpa using hx)

theorem eraseDups_filter (p : α → Bool) (xs : List α) :
    (xs.filter p).eraseDups = xs.eraseDups.filter p := by
  induction xs using List.reverseRecOn with
  | nil => rfl
  | append_singleton xs x ih =>
    rw [eraseDups_concat, List.filter_append, List.filter_singleton]
    cases hp : p x with
    | false => split <;> simp [ih, hp]
    | true =>
      rw [cond_true, eraseDups_concat, ih]
      by_cases hx : x ∈ xs <;> simp [hx, hp]

/-- What comes again adds nothing. -/
theorem eraseDups_append_of_subset {xs ys : List α} (h : ∀ y ∈ ys, y ∈ xs) :
    (xs ++ ys).eraseDups = xs.eraseDups := by
  have hnone : ys.removeAll xs = [] := by
    rw [List.removeAll, List.filter_eq_nil_iff]
    exact fun y hy => by simpa using h y hy
  rw [List.eraseDups_append, hnone, List.eraseDups_nil, List.append_nil]

/-- Of two lists, one behind the other, the second adds what is not in the first. -/
theorem eraseDups_append_eq (xs ys : List α) :
    (xs ++ ys).eraseDups = xs.eraseDups ++ ys.eraseDups.filter (· ∉ xs.eraseDups) := by
  rw [List.eraseDups_append, List.removeAll, eraseDups_filter]
  simp

theorem eraseDups_map {β : Type} [DecidableEq β] {f : α → β} {xs : List α}
    (h : ∀ x ∈ xs, ∀ y ∈ xs, f x = f y → x = y) :
    (xs.map f).eraseDups = xs.eraseDups.map f := by
  induction xs using List.reverseRecOn with
  | nil => rfl
  | append_singleton xs x ih =>
    have hin : ∀ y ∈ xs, ∀ z ∈ xs, f y = f z → y = z := fun y hy z hz =>
      h y (List.mem_append_left _ hy) z (List.mem_append_left _ hz)
    have hiff : f x ∈ xs.map f ↔ x ∈ xs := by
      refine ⟨fun hx => ?_, List.mem_map_of_mem⟩
      obtain ⟨y, hy, he⟩ := List.mem_map.mp hx
      rwa [← h y (List.mem_append_left _ hy) x (by simp) he]
    rw [List.map_append, List.map_singleton, eraseDups_concat, eraseDups_concat, ih hin]
    by_cases hx : x ∈ xs <;> simp [hiff, hx]

end EraseDups

namespace Hint.Objects

variable {α ι : Type} {o : Objects α ι} {path as bs ms ns M : List α} {a b : α} {n : Nat}

/-! ## The walk that goes everywhere -/

variable (o) in
/-- One object is a part of another. -/
def Part (a b : α) : Prop := b ∈ o.parts a

variable (o) in
/-- **The walk that goes everywhere,** from left to right, to each object before its parts: the
objects that it meets, inside of some and with others ahead. It does not go into an object that it
is inside of, and remembers nothing else. -/
inductive Meets : List α → List α → List α → Prop
  | done (path : List α) : Meets path [] []
  | inside {path as ms : List α} {a : α} (h : a ∈ path) (hr : Meets path as ms) :
    Meets path (a :: as) ms
  | enter {path as ms ns : List α} {a : α} (h : a ∉ path) (ha : Meets (a :: path) (o.parts a) ms)
    (hr : Meets path as ns) : Meets path (a :: as) (a :: (ms ++ ns))

theorem Meets.append (h : o.Meets path as ms) (h' : o.Meets path bs ns) :
    o.Meets path (as ++ bs) (ms ++ ns) := by
  induction h with
  | done path => exact h'
  | inside hp _ ih => exact .inside hp (ih h')
  | enter hp ha _ _ ih =>
    rw [List.cons_append, List.cons_append, List.append_assoc]
    exact .enter hp ha (ih h')

/-- To meet one object is to meet it and its parts. -/
theorem Meets.single (hn : a ∉ path) (h : o.Meets (a :: path) (o.parts a) ms) :
    o.Meets path [a] (a :: ms) := by
  simpa using Meets.enter hn h (.done path)

/-- A walk meets what is ahead, and the parts of all that it meets, as far as it is not inside of
them. -/
theorem Meets.covers (h : o.Meets path as ms) :
    (∀ a ∈ as, a ∈ ms ∨ a ∈ path) ∧ ∀ a ∈ ms, ∀ b ∈ o.parts a, b ∈ ms ∨ b ∈ path := by
  induction h with
  | done path => exact ⟨nofun, nofun⟩
  | inside hp _ ih => exact ⟨List.forall_mem_cons.mpr ⟨.inr hp, ih.1⟩, ih.2⟩
  | @enter path as ms ns a hp _ _ iha ihr =>
    have hmove {c : α} (hc : c ∈ ms ∨ c ∈ a :: path) : c ∈ a :: (ms ++ ns) ∨ c ∈ path := by
      simp only [List.mem_cons, List.mem_append] at hc ⊢
      tauto
    have hbehind {c : α} (hc : c ∈ ns ∨ c ∈ path) : c ∈ a :: (ms ++ ns) ∨ c ∈ path :=
      hc.imp_left fun hc => List.mem_cons_of_mem a (List.mem_append_right ms hc)
    refine ⟨List.forall_mem_cons.mpr ⟨.inl List.mem_cons_self, fun c hc => hbehind (ihr.1 c hc)⟩,
      List.forall_mem_cons.mpr ⟨fun c hc => hmove (iha.1 c hc), fun c hc b hb => ?_⟩⟩
    rcases List.mem_append.mp hc with hc | hc
    · exact hmove (iha.2 c hc b hb)
    · exact hbehind (ihr.2 c hc b hb)

/-- A walk meets only what lies in what is ahead. -/
theorem Meets.reached (h : o.Meets path as ms) :
    ∀ m ∈ ms, ∃ a ∈ as, Relation.ReflTransGen o.Part a m := by
  induction h with
  | done path => exact nofun
  | inside _ _ ih =>
    intro m hm
    obtain ⟨a, ha, hpath⟩ := ih m hm
    exact ⟨a, List.mem_cons_of_mem _ ha, hpath⟩
  | @enter path as ms ns a _ _ _ iha ihr =>
    refine List.forall_mem_cons.mpr ⟨⟨a, List.mem_cons_self, .refl⟩, fun m hm => ?_⟩
    rcases List.mem_append.mp hm with hm | hm
    · obtain ⟨b, hb, hpath⟩ := iha m hm
      exact ⟨a, List.mem_cons_self, .head hb hpath⟩
    · obtain ⟨b, hb, hpath⟩ := ihr m hm
      exact ⟨b, List.mem_cons_of_mem a hb, hpath⟩

/-- **The walk that goes everywhere meets what can be reached.** -/
theorem Meets.mem_iff (h : o.Meets [] as ms) (m : α) :
    m ∈ ms ↔ ∃ a ∈ as, Relation.ReflTransGen o.Part a m := by
  refine ⟨h.reached m, ?_⟩
  rintro ⟨a, ha, hpath⟩
  induction hpath with
  | refl => exact (h.covers.1 a ha).resolve_right nofun
  | tail _ hpart ih => exact (h.covers.2 _ ih _ hpart).resolve_right nofun

/-- There is one walk. -/
theorem Meets.unique (h : o.Meets path as ms) : ∀ {ns}, o.Meets path as ns → ms = ns := by
  induction h with
  | done path =>
    intro ns h'
    cases h'
    rfl
  | inside hp _ ih =>
    intro ns h'
    cases h' with
    | inside _ hr => exact ih hr
    | enter hn _ _ => exact absurd hp hn
  | enter hn _ _ iha ihr =>
    intro ns h'
    cases h' with
    | inside hp _ => exact absurd hp hn
    | enter _ ha hr => rw [iha ha, ihr hr]

/-! ## What has been met -/

/-- What has been met holds the parts of everything in it, but of what a walk is inside of. -/
def ClosedOff (o : Objects α ι) (path M : List α) : Prop :=
  ∀ a ∈ M, a ∉ path → ∀ b ∈ o.parts a, b ∈ M

theorem ClosedOff.cons (h : o.ClosedOff path M) (a : α) : o.ClosedOff (a :: path) M :=
  fun b hb hn => h b hb fun hp => hn (List.mem_cons_of_mem a hp)

theorem ClosedOff.enter (h : o.ClosedOff path M) (a : α) : o.ClosedOff (a :: path) (M ++ [a]) := by
  intro b hb hn c hc
  rcases List.mem_append.mp hb with hb | hb
  · exact List.mem_append_left _ (h.cons a b hb hn c hc)
  · exact absurd (List.mem_singleton.mp hb ▸ List.mem_cons_self) hn

/-- A walk closes off what it meets. -/
theorem ClosedOff.append (h : o.ClosedOff path M) (hm : o.Meets path as ms)
    (hp : ∀ p ∈ path, p ∈ M) : o.ClosedOff path (M ++ ms) := by
  intro a ha hn b hb
  rcases List.mem_append.mp ha with ha | ha
  · exact List.mem_append_left _ (h a ha hn b hb)
  · exact List.mem_append.mpr ((hm.covers.2 a ha b hb).symm.imp_left (hp b))

/-- **Nothing new lies in what has been met:** a walk from there meets nothing else. -/
theorem Meets.subset (h : o.Meets path as ms) (hM : o.ClosedOff path M)
    (has : ∀ a ∈ as, a ∈ M) : ∀ m ∈ ms, m ∈ M := by
  induction h with
  | done path => exact nofun
  | inside _ _ ih => exact ih hM fun a ha => has a (List.mem_cons_of_mem _ ha)
  | @enter path as ms ns a hn _ _ iha ihr =>
    obtain ⟨ha, has⟩ := List.forall_mem_cons.mp has
    refine List.forall_mem_cons.mpr ⟨ha, fun m hm => ?_⟩
    rcases List.mem_append.mp hm with hm | hm
    · exact iha (hM.cons a) (hM a ha hn) m hm
    · exact ihr hM has m hm

/-! ## Walking on -/

/-- Objects that are told apart by what they are known by. -/
structure Lawful (o : Objects α ι) : Prop where
  /-- What is known by the same is the same object. -/
  same : ∀ {a b i}, o.identity? a = some i → o.identity? b = some i → a = b
  /-- Types are known. -/
  declared : ∀ a, o.declares a = true → (o.identity? a).isSome
  /-- Every object is known that lies in itself. -/
  circular : ∀ a, Relation.TransGen o.Part a a → (o.identity? a).isSome
  /-- Different objects, each a part of the one before, are no more than the depth of the first one
  says. -/
  bounded : ∀ a line, (a :: line).IsChain o.Part → (a :: line).Nodup → line.length ≤ o.depth a

/-- Where a walk stands: inside of some objects, with others ahead, after it has met some. -/
structure Stands (o : Objects α ι) (path as M : List α) : Prop where
  within : ∀ p ∈ path, p ∈ M
  closed : o.ClosedOff path M
  inside : ∀ p ∈ path, ∀ a ∈ as, Relation.TransGen o.Part p a

theorem stands_nil (o : Objects α ι) (hM : o.ClosedOff [] M) : o.Stands [] as M :=
  ⟨nofun, hM, nofun⟩

/-- The parts of an object lie in it, and in what it lies in. -/
theorem Stands.inside_parts (h : o.Stands path (a :: as) M) :
    ∀ p ∈ a :: path, ∀ b ∈ o.parts a, Relation.TransGen o.Part p b :=
  List.forall_mem_cons.mpr ⟨fun _ hb => .single hb,
    fun p hp _ hb => (h.inside p hp a List.mem_cons_self).tail hb⟩

theorem Stands.known (h : o.Stands path (a :: as) M) (ha : a ∈ M) :
    o.Stands (a :: path) (o.parts a) M :=
  ⟨List.forall_mem_cons.mpr ⟨ha, h.within⟩, h.closed.cons a, h.inside_parts⟩

theorem Stands.enter (h : o.Stands path (a :: as) M) :
    o.Stands (a :: path) (o.parts a) (M ++ [a]) :=
  ⟨List.forall_mem_cons.mpr ⟨by simp, fun p hp => List.mem_append_left _ (h.within p hp)⟩,
    h.closed.enter a, h.inside_parts⟩

theorem Stands.tail (h : o.Stands path (a :: as) M) : o.Stands path as M :=
  ⟨h.within, h.closed, fun p hp b hb => h.inside p hp b (List.mem_cons_of_mem a hb)⟩

theorem Stands.next (h : o.Stands path (a :: as) M) (hm : o.Meets path [a] ms) :
    o.Stands path as (M ++ ms) :=
  ⟨fun p hp => List.mem_append_left _ (h.within p hp), h.closed.append hm h.within, h.tail.inside⟩

/-- So many visits inside of one another are enough for what is ahead. -/
def Room (o : Objects α ι) (n : Nat) (path as : List α) : Prop :=
  ∀ a ∈ as, ∀ line, (a :: line).IsChain o.Part → (a :: line).Nodup →
    (∀ b ∈ a :: line, b ∉ path) → line.length < n

theorem Room.pos (h : o.Room n path (a :: as)) (ha : a ∉ path) : 0 < n :=
  h a List.mem_cons_self [] (.singleton a) (List.nodup_singleton a) (by simpa using ha)

theorem Room.tail (h : o.Room n path (a :: as)) : o.Room n path as :=
  fun b hb => h b (List.mem_cons_of_mem a hb)

theorem Room.parts (h : o.Room (n + 1) path (a :: as)) (ha : a ∉ path) :
    o.Room n (a :: path) (o.parts a) := by
  intro b hb line hchain hnodup havoid
  have hline : ∀ c ∈ b :: line, c ≠ a ∧ c ∉ path := by simpa using havoid
  have hlt := h a List.mem_cons_self (b :: line) (.cons_cons hb hchain)
    (List.nodup_cons.mpr ⟨fun hmem => (hline a hmem).1 rfl, hnodup⟩)
    (List.forall_mem_cons.mpr ⟨ha, fun c hc => (hline c hc).2⟩)
  exact Nat.lt_of_succ_lt_succ hlt

/-- The depth of an object is enough for it. -/
theorem Lawful.room (ho : o.Lawful) (a : α) : o.Room (o.depth a + 1) [] [a] := by
  intro b hb line hchain hnodup _
  obtain rfl := List.mem_singleton.mp hb
  exact Nat.lt_succ_of_le (ho.bounded b line hchain hnodup)

/-! ## What a walk knows -/

variable {s : Search α ι}

section Identity

variable [DecidableEq ι]

theorem isKnown_iff : o.isKnown s a = true ↔ ∃ i, o.identity? a = some i ∧ i ∈ s.visited := by
  simp [isKnown, Option.any_eq_true]

theorem visit_of_isKnown (h : o.isKnown s a = true) (n : Nat) : o.visit n s a = s := by
  cases n with
  | zero => rfl
  | succ n => rw [visit, if_pos h]

end Identity

section Known

variable [DecidableEq α]

/-- A walk has met these objects: it knows them again, and has found the types among them. -/
structure Holds (o : Objects α ι) (s : Search α ι) (M : List α) : Prop where
  visited : ∀ i, i ∈ s.visited ↔ ∃ a ∈ M, o.identity? a = some i
  found : s.found = (M.filter o.declares).eraseDups

theorem holds_nil (o : Objects α ι) : o.Holds {} [] := ⟨by simp, rfl⟩

/-- Meeting the same again changes nothing. -/
theorem Holds.append (h : o.Holds s M) (hms : ∀ m ∈ ms, m ∈ M) : o.Holds s (M ++ ms) where
  visited i := by
    rw [h.visited]
    constructor
    · rintro ⟨a, ha, hi⟩
      exact ⟨a, List.mem_append_left _ ha, hi⟩
    · rintro ⟨a, ha, hi⟩
      exact ⟨a, (List.mem_append.mp ha).elim id (hms a), hi⟩
  found := by
    rw [List.filter_append, eraseDups_append_of_subset, h.found]
    intro m hm
    rw [List.mem_filter] at hm ⊢
    exact ⟨hms m hm.1, hm.2⟩

variable [DecidableEq ι]

/-- What a walk knows it has met. -/
theorem Holds.mem_of_isKnown (h : o.Holds s M) (ho : o.Lawful) (hk : o.isKnown s a = true) :
    a ∈ M := by
  obtain ⟨i, hi, hv⟩ := isKnown_iff.mp hk
  obtain ⟨b, hb, hbi⟩ := (h.visited i).mp hv
  exact ho.same hi hbi ▸ hb

/-- What a walk has met and can know it knows. -/
theorem Holds.isKnown (h : o.Holds s M) (ha : a ∈ M) (hi : (o.identity? a).isSome) :
    o.isKnown s a = true := by
  obtain ⟨i, hi⟩ := Option.isSome_iff_exists.mp hi
  exact isKnown_iff.mpr ⟨i, hi, (h.visited i).mpr ⟨a, ha, hi⟩⟩

/-- An object that is not known is met. -/
theorem Holds.enter (h : o.Holds s M) (ho : o.Lawful) (hk : ¬ o.isKnown s a = true) :
    o.Holds (o.enter s a) (M ++ [a]) where
  visited i := by
    simp only [Objects.enter, List.mem_append, Option.mem_toList, h.visited, List.mem_singleton,
      or_and_right, exists_or, exists_eq_left]
    exact or_comm
  found := by
    rw [List.filter_append, List.filter_singleton]
    cases hd : o.declares a with
    | false => simp [Objects.enter, hd, h.found]
    | true =>
      have hnew : a ∉ M.filter o.declares := fun ha =>
        hk (h.isKnown (List.mem_filter.mp ha).1 (ho.declared a hd))
      simp [Objects.enter, hd, h.found, eraseDups_concat, hnew]

/-- **Walking on adds what the walk that goes everywhere meets.** An object that is known adds
nothing, because all that lies in it has been met; one that the walk is inside of is known. -/
theorem exists_meets (ho : o.Lawful) (n : Nat) : ∀ {path as M s}, o.Room n path as →
    o.Stands path as M → o.Holds s M →
      ∃ ms, o.Meets path as ms ∧ o.Holds (as.foldl (o.visit n) s) (M ++ ms) := by
  induction n using Nat.strongRecOn with
  | ind n ihn =>
    intro path as M s hroom hstands hs
    induction as generalizing M s with
    | nil => exact ⟨[], .done path, by simpa using hs⟩
    | cons a as ih =>
      rw [List.foldl_cons]
      by_cases hp : a ∈ path
      · have hk := hs.isKnown (hstands.within a hp)
          (ho.circular a (hstands.inside a hp a List.mem_cons_self))
        obtain ⟨ms, hms, hholds⟩ := ih hroom.tail hstands.tail hs
        exact ⟨ms, .inside hp hms, by rwa [visit_of_isKnown hk]⟩
      obtain ⟨k, rfl⟩ := Nat.exists_eq_add_one.mpr (hroom.pos hp)
      obtain ⟨ms, hms, hone⟩ : ∃ ms, o.Meets (a :: path) (o.parts a) ms ∧
          o.Holds (o.visit (k + 1) s a) (M ++ a :: ms) := by
        by_cases hk : o.isKnown s a = true
        · -- The walk goes no further; what the other one meets in the object has been met.
          have ha := hs.mem_of_isKnown ho hk
          obtain ⟨ms, hms, -⟩ := ihn k (Nat.lt_succ_self k) (hroom.parts hp) (hstands.known ha) hs
          have hsub := hms.subset (hstands.closed.cons a) (hstands.closed a ha hp)
          rw [visit_of_isKnown hk]
          exact ⟨ms, hms, hs.append (List.forall_mem_cons.mpr ⟨ha, hsub⟩)⟩
        · obtain ⟨ms, hms, hparts⟩ := ihn k (Nat.lt_succ_self k) (hroom.parts hp) hstands.enter
            (hs.enter ho hk)
          refine ⟨ms, hms, ?_⟩
          rw [visit, if_neg hk]
          simpa using hparts
      obtain ⟨ns, hns, hholds⟩ := ih hroom.tail (hstands.next (.single hp hms)) hone
      exact ⟨_, .enter hp hms hns, by simpa using hholds⟩

/-! ## What is found -/

/-- Walking through objects one after the other meets what one walk through them meets. -/
theorem exists_meets_foldl (ho : o.Lawful) (as : List α) {s : Search α ι} (hM : o.ClosedOff [] M)
    (hs : o.Holds s M) : ∃ ms, o.Meets [] as ms ∧
      o.Holds (as.foldl (fun s a => o.visit (o.depth a + 1) s a) s) (M ++ ms) := by
  induction as generalizing s M with
  | nil => exact ⟨[], .done [], by simpa using hs⟩
  | cons a as ih =>
    obtain ⟨ms, hms, hone⟩ := exists_meets ho (o.depth a + 1) (ho.room a) (stands_nil o hM) hs
    obtain ⟨ns, hns, hrest⟩ := ih (hM.append hms nofun) hone
    exact ⟨ms ++ ns, hms.append hns, by simpa using hrest⟩

/-- **The types that are found are those that the walk that goes everywhere meets,** in the order in
which it first comes to them. -/
theorem required_eq (ho : o.Lawful) (h : o.Meets [] as ms) :
    o.required as = (ms.filter o.declares).eraseDups := by
  obtain ⟨ms', hms', hholds⟩ := exists_meets_foldl ho as (M := []) nofun (holds_nil o)
  rw [h.unique hms', required, hholds.found, List.nil_append]

theorem exists_required (ho : o.Lawful) (as : List α) :
    ∃ ms, o.Meets [] as ms ∧ o.required as = (ms.filter o.declares).eraseDups := by
  obtain ⟨ms, hms, -⟩ := exists_meets_foldl ho as (M := []) nofun (holds_nil o)
  exact ⟨ms, hms, required_eq ho hms⟩

/-- The types that are found are those that can be reached. -/
theorem mem_required (ho : o.Lawful) {d : α} : d ∈ o.required as ↔
    o.declares d = true ∧ ∃ a ∈ as, Relation.ReflTransGen o.Part a d := by
  obtain ⟨ms, hms, hfound⟩ := exists_required ho as
  rw [hfound, List.mem_eraseDups, List.mem_filter, hms.mem_iff, and_comm]

/-- No identity is found twice. -/
theorem nodup_required (ho : o.Lawful) (as : List α) : ((o.required as).map o.identity?).Nodup := by
  obtain ⟨ms, -, hfound⟩ := exists_required ho as
  rw [hfound]
  refine (nodup_eraseDups _).map_on fun a ha b _ hab => ?_
  rw [List.mem_eraseDups, List.mem_filter] at ha
  obtain ⟨i, hi⟩ := Option.isSome_iff_exists.mp (ho.declared a ha.2)
  exact ho.same hi (hab ▸ hi)

/-- **Going on with more objects adds what is found in them and has not been found.** -/
theorem required_append (ho : o.Lawful) (as bs : List α) : o.required (as ++ bs) =
    o.required as ++ (o.required bs).filter (· ∉ o.required as) := by
  obtain ⟨ms, hms, has⟩ := exists_required ho as
  obtain ⟨ns, hns, hbs⟩ := exists_required ho bs
  rw [required_eq ho (hms.append hns), has, hbs, List.filter_append, eraseDups_append_eq]

end Known

end Hint.Objects

end Facade
