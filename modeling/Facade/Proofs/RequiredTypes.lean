import Facade.Proofs.Visits
import Mathlib.Data.Fintype.Card
import Mathlib.Tactic.FinCases

/-!
# Which types annotations need

Annotations need the types that can be reached from them, each once, in the order of a walk that
goes everywhere; what a walk knows, and so what it passes over, makes no difference.

* `lawful_values`: among plain values types are told apart, and parts lie less deep.
* `mem_requiredTypes`: what annotations need is what can be reached and is declared.
* `Objects.StandsFor`: objects that are annotations, whichever of their parts are the same object.
* `Objects.required_exact`: what is found among objects, and that it is what their annotations need.
-/

namespace Facade.Hint

/-! ## Nesting -/

section Nesting

attribute [local simp] nesting nestingAll

variable {a b v u : Value} {vs as : List Value}

theorem nesting_le_nestingAll (h : v ∈ vs) : nesting v ≤ nestingAll vs := by
  induction vs with
  | nil => cases h
  | cons u vs ih =>
    rw [nestingAll]
    rcases List.mem_cons.mp h with rfl | h
    · exact le_max_left _ _
    · exact (ih h).trans (le_max_right _ _)

theorem nestingAll_le {n : Nat} (h : ∀ v ∈ vs, nesting v ≤ n) : nestingAll vs ≤ n := by
  induction vs with
  | nil => exact Nat.zero_le n
  | cons u vs ih =>
    obtain ⟨hu, hvs⟩ := List.forall_mem_cons.mp h
    exact max_le hu (ih hvs)

theorem nesting_listMembers_le (h : u ∈ listMembers v) : nesting u ≤ nesting v := by
  unfold listMembers at h
  split at h
  · rw [nesting]
    exact nesting_le_nestingAll h
  · rw [nesting]
    exact nesting_le_nestingAll h
  · rw [List.mem_singleton.mp h]

/-- Grouping parameters brings nothing deeper. -/
theorem nesting_callableArgs_le (h : v ∈ callableArgs as) : nesting v ≤ nestingAll as := by
  unfold callableArgs callableGroups at h
  split at h
  · exact nesting_le_nestingAll h
  · split at h
    · rename_i r hr
      rcases List.mem_pair.mp h with rfl | rfl
      · rw [nesting]
        exact nestingAll_le fun u hu => nesting_le_nestingAll (List.dropLast_subset as hu)
      · exact nesting_le_nestingAll (List.mem_of_getLast? hr)
    · simp [List.mem_singleton.mp h]

theorem nesting_args_lt (h : v ∈ args a) : nesting v < nesting a := by
  unfold args at h
  split at h
  · rename_i f o as
    rw [nesting]
    have hle : nesting v ≤ nestingAll as := by
      split at h
      · split at h
        · exact nesting_callableArgs_le h
        · exact nesting_le_nestingAll h
      · exact nesting_le_nestingAll h
    omega
  · rw [nesting]
    exact Nat.lt_succ_of_le (nesting_le_nestingAll h)
  · rename_i o ms
    rw [nesting]
    rcases List.mem_cons.mp h with rfl | h
    · omega
    · have := nesting_le_nestingAll h
      omega
  · cases h

theorem nesting_statedOrigin?_lt (h : statedOrigin? a = some b) : nesting b < nesting a := by
  unfold statedOrigin? at h
  split at h
  · obtain ⟨c, -, rfl⟩ := Option.map_eq_some_iff.mp h
    simp
  · obtain rfl := Option.some.inj h
    rw [nesting]
    omega
  · obtain rfl := Option.some.inj h
    rw [nesting]
    omega
  · cases h

/-- **The parts of an annotation lie less deep than it does.** -/
theorem nesting_lt_of_part (h : values.Part a b) : nesting b < nesting a := by
  rcases List.mem_append.mp h with h | h
  · exact nesting_statedOrigin?_lt (Option.mem_filter_iff.mp (Option.mem_toList.mp h)).1
  · obtain ⟨v, hv, hb⟩ := List.mem_flatMap.mp h
    exact (nesting_listMembers_le hb).trans_lt (nesting_args_lt hv)

end Nesting

/-! ## Plain values -/

theorem identity?_cases {a : Value} {i : Identity} (h : identity? a = some i) :
    (∃ c, i = .cls c ∧ a = .cls c) ∨ (∃ n, i = .newType n ∧ a = .newType n) ∨
      ∃ n, i = .typeAlias n ∧ a = .typeAlias n := by
  cases a <;> simp_all [identity?]

theorem declares_iff {a : Value} : values.declares a = true ↔ (declared? a).isSome := by
  simp [values, declaringModule?]

theorem isSome_identity? {a : Value} (h : (declared? a).isSome) : (identity? a).isSome := by
  cases a <;> simp_all [declared?, identity?]

namespace Objects

variable {α ι : Type} {o : Objects α ι} {as bs ms : List α}

/-- Parts that lie less and less deep come to an end, and never to where they began. -/
theorem lawful_of_rank (rank : α → Nat) (hrank : ∀ a b, o.Part a b → rank b < rank a)
    (hdepth : ∀ a, rank a ≤ o.depth a)
    (hsame : ∀ a b i, o.identity? a = some i → o.identity? b = some i → a = b)
    (hdeclared : ∀ a, o.declares a = true → (o.identity? a).isSome) : o.Lawful where
  same ha hb := hsame _ _ _ ha hb
  declared := hdeclared
  circular a h := by
    have hlt : ∀ b, Relation.TransGen o.Part a b → rank b < rank a := by
      intro b hb
      induction hb with
      | single hb => exact hrank _ _ hb
      | tail _ hb ih => exact (hrank _ _ hb).trans ih
    exact absurd (hlt a h) (Nat.lt_irrefl _)
  bounded a line hchain _ := by
    have hlength : ∀ line a, (a :: line).IsChain o.Part → line.length ≤ rank a := by
      intro line
      induction line with
      | nil => exact fun _ _ => Nat.zero_le _
      | cons b line ih =>
        intro a hchain
        obtain ⟨hb, hchain⟩ := List.isChain_cons_cons.mp hchain
        exact (ih b hchain).trans_lt (hrank a b hb)
    exact (hlength line a hchain).trans (hdepth a)

/-- Finitely many objects, all of them known: circles or not, no more of them than there are can
follow one another. -/
theorem lawful_of_fintype [Fintype α] {o : Objects α α} (hidentity : ∀ a, o.identity? a = some a)
    (hdepth : ∀ a, Fintype.card α ≤ o.depth a) : o.Lawful where
  same ha hb := by
    rw [hidentity] at ha hb
    exact Option.some.inj (ha.trans hb.symm)
  declared a _ := by rw [hidentity]; rfl
  circular a _ := by rw [hidentity]; rfl
  bounded a line _ hnodup :=
    (Nat.le_succ _).trans (hnodup.length_le_card.trans (hdepth a))

end Objects

/-- **Plain values are told apart** as far as they are types, and their parts come to an end. -/
theorem lawful_values : values.Lawful := by
  refine Objects.lawful_of_rank nesting (fun _ _ => nesting_lt_of_part) (fun _ => le_rfl) ?_ ?_
  · intro a b i ha hb
    rcases identity?_cases ha with ⟨c, rfl, rfl⟩ | ⟨c, rfl, rfl⟩ | ⟨c, rfl, rfl⟩ <;>
      rcases identity?_cases hb with ⟨d, h, rfl⟩ | ⟨d, h, rfl⟩ | ⟨d, h, rfl⟩ <;> cases h <;> rfl
  · exact fun a ha => isSome_identity? (declares_iff.mp ha)

/-- **What annotations need** are the declared types that can be reached from them. -/
theorem mem_requiredTypes {as : List Value} {d : Value} : d ∈ requiredTypes as ↔
    (declared? d).isSome ∧ ∃ a ∈ as, Relation.ReflTransGen values.Part a d := by
  have := Classical.decEq Value
  rw [requiredTypes, Objects.mem_required lawful_values, declares_iff]

theorem isSome_declared? {as : List Value} {d : Value} (h : d ∈ requiredTypes as) :
    (declared? d).isSome :=
  (mem_requiredTypes.mp h).1

/-- A declared type needs itself. -/
theorem requiredTypes_declared {a : Value} (h : (declared? a).isSome) :
    requiredTypes [a] = [a] := by
  cases a <;> first | rfl | cases h

/-! ## Objects that are annotations -/

namespace Objects

variable {α ι : Type} {o : Objects α ι} {value : α → Value} {path as bs ms : List α}

/-- Each object is some annotation: what it was made from and its arguments are those of the
annotation. Objects may have parts in common, and different objects may be the same annotation,
unless it is a declared type. -/
structure StandsFor (o : Objects α ι) (value : α → Value) : Prop where
  declares : ∀ a, o.declares a = (declaringModule? (value a)).isSome
  origin : ∀ a, (o.origin? a).map value = values.origin? (value a)
  arguments : ∀ a, (o.arguments a).map value = typeArguments (value a)
  one : ∀ a b, o.declares a = true → value a = value b → a = b

theorem StandsFor.parts (h : o.StandsFor value) (a : α) :
    (o.parts a).map value = values.parts (value a) := by
  rw [Objects.parts, List.map_append, h.arguments, Objects.parts, ← h.origin]
  cases o.origin? a <;> rfl

theorem StandsFor.part (h : o.StandsFor value) {a b : α} (hb : o.Part a b) :
    values.Part (value a) (value b) := by
  rw [Part, ← h.parts]
  exact List.mem_map_of_mem hb

/-- The walk that goes everywhere among objects meets what it meets among their annotations. -/
theorem Meets.map (hm : o.Meets path as ms) (h : o.StandsFor value)
    (hpath : ∀ p ∈ path, ∀ a ∈ as, nesting (value a) < nesting (value p)) :
    values.Meets (path.map value) (as.map value) (ms.map value) := by
  induction hm with
  | done path => exact .done _
  | inside hp _ ih =>
    exact .inside (List.mem_map_of_mem hp)
      (ih fun p hp a ha => hpath p hp a (List.mem_cons_of_mem _ ha))
  | @enter path as ms ns a hn _ _ iha ihr =>
    rw [List.map_cons, List.map_cons, List.map_append]
    have hnew : value a ∉ path.map value := by
      intro hmem
      obtain ⟨p, hp, he⟩ := List.mem_map.mp hmem
      have := hpath p hp a List.mem_cons_self
      rw [he] at this
      exact Nat.lt_irrefl _ this
    refine .enter hnew ?_ (ihr fun p hp b hb => hpath p hp b (List.mem_cons_of_mem a hb))
    rw [← h.parts]
    have hless : ∀ b ∈ o.parts a, nesting (value b) < nesting (value a) := fun b hb =>
      nesting_lt_of_part (h.part hb)
    exact iha (List.forall_mem_cons.mpr ⟨hless, fun p hp b hb =>
      (hless b hb).trans (hpath p hp a List.mem_cons_self)⟩)

end Objects

namespace Objects

variable {α ι : Type} [DecidableEq α] [DecidableEq ι] {o : Objects α ι} {value : α → Value}

/-- **What is found among objects is what their annotations need,** whichever parts are the same
object and whatever the walk knows them by. -/
theorem map_required (ho : o.Lawful) (h : o.StandsFor value) (as : List α) :
    (o.required as).map value = requiredTypes (as.map value) := by
  have := Classical.decEq Value
  obtain ⟨ms, hms, hfound⟩ := exists_required ho as
  have hdeclares : o.declares = values.declares ∘ value := funext h.declares
  rw [hfound, requiredTypes, required_eq lawful_values (hms.map h nofun), List.filter_map,
    ← hdeclares, eraseDups_map]
  exact fun a ha b _ => h.one a b (List.mem_filter.mp ha).2

/-- **What annotations need is exact,** whichever of their parts are the same object. Among objects
that are told apart, in circles or not, a walk that passes over what it knows finds the declared
ones that can be reached: each identity once, in the order in which the walk that goes everywhere
first comes to them. Two walks, of which the second leaves out what the first has found, find what
one walk finds. And if the objects are annotations, what is found is what these need as plain
values. -/
theorem required_exact (ho : o.Lawful) (as bs : List α) :
    (∀ d, d ∈ o.required as ↔
      o.declares d = true ∧ ∃ a ∈ as, Relation.ReflTransGen o.Part a d) ∧
    ((o.required as).map o.identity?).Nodup ∧
    (∃ ms, o.Meets [] as ms ∧ o.required as = (ms.filter o.declares).eraseDups) ∧
    o.required (as ++ bs) = o.required as ++ (o.required bs).filter (· ∉ o.required as) ∧
    ∀ value, o.StandsFor value → (o.required as).map value = requiredTypes (as.map value) :=
  ⟨fun _ => mem_required ho, nodup_required ho as, exists_required ho as, required_append ho as bs,
    fun _ h => map_required ho h as⟩

end Objects

/-! ## A part in common, and a circle -/

/-- Three classes, `Box[Item]`, and `Pair[Box[Item], Box[Item]]` with the same object for both
arguments. -/
def sharing : Objects (Fin 5) (Fin 5) where
  identity? := some
  declares a := a < 3
  origin?
    | 3 => some 1
    | 4 => some 0
    | _ => none
  arguments
    | 3 => [2]
    | 4 => [3, 3]
    | _ => []
  depth _ := 5

/-- The annotations that these objects are. -/
def sharingValue : Fin 5 → Value
  | 0 => .cls ⟨0, "m", "Pair"⟩
  | 1 => .cls ⟨1, "m", "Box"⟩
  | 2 => .cls ⟨2, "m", "Item"⟩
  | 3 => .generic .plain (.cls ⟨1, "m", "Box"⟩) [.cls ⟨2, "m", "Item"⟩]
  | 4 => .generic .plain (.cls ⟨0, "m", "Pair"⟩)
    [.generic .plain (.cls ⟨1, "m", "Box"⟩) [.cls ⟨2, "m", "Item"⟩],
      .generic .plain (.cls ⟨1, "m", "Box"⟩) [.cls ⟨2, "m", "Item"⟩]]

theorem standsFor_sharing : sharing.StandsFor sharingValue where
  declares a := by fin_cases a <;> rfl
  origin a := by fin_cases a <;> rfl
  arguments a := by fin_cases a <;> rfl
  one a b ha h := by
    have hone : ∀ a b, sharing.declares a = true → (declared? (sharingValue a)).map Named.id =
        (declared? (sharingValue b)).map Named.id → a = b := by decide
    exact hone a b ha (by rw [h])

/-- An alias of a class that has itself and another class for arguments. -/
def circle : Objects (Fin 3) (Fin 3) where
  identity? := some
  declares a := a ≠ 0
  origin?
    | 0 => some 1
    | _ => none
  arguments
    | 0 => [0, 2]
    | _ => []
  depth _ := 3

/-- The pair needs `Pair`, `Box` and `Item`. The walk round the circle finds both classes, and only
the first one if the second one has been found before. -/
theorem required_exact_sharing :
    sharing.Lawful ∧ sharing.StandsFor sharingValue ∧
      requiredTypes [sharingValue 4, sharingValue 2] =
        [.cls ⟨0, "m", "Pair"⟩, .cls ⟨1, "m", "Box"⟩, .cls ⟨2, "m", "Item"⟩] ∧
      circle.Lawful ∧ circle.required [0] = [1, 2] ∧ circle.required ([2] ++ [0]) = [2] ++ [1] := by
  have hsharing : sharing.Lawful := Objects.lawful_of_fintype (fun _ => rfl) fun _ => le_rfl
  have hcircle : circle.Lawful := Objects.lawful_of_fintype (fun _ => rfl) fun _ => le_rfl
  obtain ⟨-, -, -, -, hvalue⟩ := Objects.required_exact hsharing [4, 2] []
  obtain ⟨-, -, -, hsplit, -⟩ := Objects.required_exact hcircle [2] [0]
  refine ⟨hsharing, standsFor_sharing, (hvalue _ standsFor_sharing).symm, hcircle, by decide, ?_⟩
  rw [hsplit]
  decide

end Facade.Hint
