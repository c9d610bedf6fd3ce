import Facade.Proofs.RequiredTypes

/-!
# Types that a spelling names

The declared types that a spelling of an annotation can name, among those that the annotation needs.

* `walk`: the declared types in an annotation, its origin and its arguments.
* `mem_walk_generic`: what is in an argument is in the annotation around it.
* `mem_requiredTypes_of_mem_walk`: what is in an annotation it needs.
-/

namespace Facade.Hint

/-! ## Declared types in annotations -/

/-- Whether the parameters of an alias from some origin stand in a list of their own, besides the
result. -/
def groupsParameters (o : Value) (as : List Value) : Bool :=
  match o with
  | .cls c => c.id = callableClass.id && !firstIsParameterList as
  | _ => false

mutual

/-- The declared types on a walk through an annotation: to itself, to what it was made from, to its
arguments. -/
def walk : Value → List Value
  | .cls c => [.cls c]
  | .newType n => [.newType n]
  | .typeAlias n => [.typeAlias n]
  | .special n => ((Standard.aliasClass? n).map Value.cls).toList
  | .generic _ o as => walk o ++ if groupsParameters o as then walkGroups as else walkArgs as
  | .pipe as => walkArgs as
  | .annotated o ms => walk o ++ walkArgs ms
  | _ => []

/-- The declared types on a walk through parameters and a result. A list that is a parameter is not
entered. -/
def walkGroups : List Value → List Value
  | [] => []
  | [.list vs] => walkAll vs
  | [.tuple vs] => walkAll vs
  | v :: r => walk v ++ walkGroups r

/-- The declared types on a walk through arguments. A list among them is entered. -/
def walkArgs : List Value → List Value
  | [] => []
  | .list vs :: r => walkAll vs ++ walkArgs r
  | .tuple vs :: r => walkAll vs ++ walkArgs r
  | v :: r => walk v ++ walkArgs r

/-- The declared types on a walk through several annotations. -/
def walkAll : List Value → List Value
  | [] => []
  | v :: r => walk v ++ walkAll r

end

section Walk

variable {a d o : Value} {as : List Value}

/-- A value that is no list of values. -/
def IsSingle (a : Value) : Prop := (∀ vs, a ≠ .list vs) ∧ ∀ vs, a ≠ .tuple vs

/-- What an argument needs, all arguments together need. -/
theorem mem_walkArgs (ha : IsSingle a) (hmem : a ∈ as) (hd : d ∈ walk a) : d ∈ walkArgs as := by
  induction as with
  | nil => cases hmem
  | cons b bs ih =>
    rcases List.mem_cons.mp hmem with rfl | hmem
    · rw [walkArgs.eq_4 a bs ha.1 ha.2]
      exact List.mem_append_left _ hd
    · have := ih hmem
      cases b <;> simp only [walkArgs] <;> exact List.mem_append_right _ this

theorem walkGroups_cons (v u : Value) (r : List Value) :
    walkGroups (v :: u :: r) = walk v ++ walkGroups (u :: r) := by
  rw [walkGroups] <;> simp

theorem mem_walkGroups (ha : IsSingle a) (hmem : a ∈ as) (hd : d ∈ walk a) : d ∈ walkGroups as := by
  induction as with
  | nil => cases hmem
  | cons b bs ih =>
    rcases List.mem_cons.mp hmem with rfl | hmem
    · rw [walkGroups.eq_4 a bs (fun vs h _ => ha.1 vs h) (fun vs h _ => ha.2 vs h)]
      exact List.mem_append_left _ hd
    · obtain ⟨c, cs, rfl⟩ := List.exists_cons_of_ne_nil (List.ne_nil_of_mem hmem)
      rw [walkGroups_cons]
      exact List.mem_append_right _ (ih hmem)

theorem mem_walk_origin {f : Family} (hd : d ∈ walk o) : d ∈ walk (.generic f o as) := by
  rw [walk]
  exact List.mem_append_left _ hd

/-- **What an argument needs, the annotation around it needs too.** -/
theorem mem_walk_generic {f : Family} (ha : IsSingle a) (hmem : a ∈ as) (hd : d ∈ walk a) :
    d ∈ walk (.generic f o as) := by
  rw [walk]
  split
  · exact List.mem_append_right _ (mem_walkGroups ha hmem hd)
  · exact List.mem_append_right _ (mem_walkArgs ha hmem hd)

end Walk

/-! ## What annotations need -/

section Needs

variable {a b d o : Value} {as bs : List Value}

theorem requiredTypes_mono (h : ∀ a ∈ as, a ∈ bs) (hd : d ∈ requiredTypes as) :
    d ∈ requiredTypes bs := by
  obtain ⟨hdeclared, a, ha, hpath⟩ := mem_requiredTypes.mp hd
  exact mem_requiredTypes.mpr ⟨hdeclared, a, h a ha, hpath⟩

theorem mem_requiredTypes_append (hd : d ∈ requiredTypes as ∨ d ∈ requiredTypes bs) :
    d ∈ requiredTypes (as ++ bs) :=
  hd.elim (requiredTypes_mono fun _ => List.mem_append_left bs)
    (requiredTypes_mono fun _ => List.mem_append_right as)

theorem mem_requiredTypes_cons (hd : d ∈ requiredTypes [a] ∨ d ∈ requiredTypes as) :
    d ∈ requiredTypes (a :: as) :=
  mem_requiredTypes_append hd

/-- What parts of an annotation need, it needs itself. -/
theorem mem_requiredTypes_of_parts (h : ∀ b ∈ bs, values.Part a b) (hd : d ∈ requiredTypes bs) :
    d ∈ requiredTypes [a] := by
  obtain ⟨hdeclared, b, hb, hpath⟩ := mem_requiredTypes.mp hd
  exact mem_requiredTypes.mpr ⟨hdeclared, a, List.mem_singleton_self a, .head (h b hb) hpath⟩

theorem mem_requiredTypes_of_part (h : values.Part a b) (hd : d ∈ requiredTypes [b]) :
    d ∈ requiredTypes [a] :=
  mem_requiredTypes_of_parts (List.forall_mem_singleton.mpr h) hd

theorem mem_requiredTypes_self (h : (declared? d).isSome) : d ∈ requiredTypes [d] := by
  rw [requiredTypes_declared h]
  exact List.mem_singleton_self d

theorem part_of_mem_typeArguments (h : b ∈ typeArguments a) : values.Part a b :=
  List.mem_append_right _ h

theorem part_of_statedOrigin? (h : statedOrigin? a = some o) (ho : o.toStr? = none) :
    values.Part a o := by
  refine List.mem_append_left _ (Option.mem_toList.mpr ?_)
  show (statedOrigin? a).filter _ = some o
  rw [h, Option.filter_some, ho]
  rfl

/-- A text has no declared types in it. -/
theorem toStr?_of_mem_walk (h : d ∈ walk o) : o.toStr? = none := by
  cases o <;> first | rfl | exact absurd h (by simp [walk])

/-- The arguments of a callable are its parameters one by one, then its result. -/
theorem flatMap_callableArgs (h : firstIsParameterList as = false) :
    (callableArgs as).flatMap listMembers = as.dropLast ++ as.getLast?.elim [] listMembers := by
  unfold callableArgs callableGroups
  rw [h]
  cases hr : as.getLast? with
  | some r => simp [listMembers]
  | none =>
    obtain rfl := List.getLast?_eq_none_iff.mp hr
    rfl

theorem typeArguments_of_groupsParameters {f : Family} (h : groupsParameters o as = true) :
    typeArguments (.generic f o as) = as.dropLast ++ as.getLast?.elim [] listMembers := by
  unfold groupsParameters at h
  split at h
  · simp only [Bool.and_eq_true, decide_eq_true_eq, Bool.not_eq_true'] at h
    rw [← flatMap_callableArgs h.2]
    simp only [typeArguments, args, h.1, if_true]
  · cases h

theorem typeArguments_of_not_groupsParameters {f : Family} (h : groupsParameters o as = false) :
    typeArguments (.generic f o as) = as.flatMap listMembers := by
  cases o <;> try rfl
  rename_i c
  by_cases hc : c.id = callableClass.id
  · have hfirst : firstIsParameterList as = true := by simpa [groupsParameters, hc] using h
    simp [typeArguments, args, hc, callableArgs, callableGroups, hfirst]
  · simp [typeArguments, args, hc]

end Needs

/-- **What is in an annotation it needs.** -/
theorem walk_subset_requiredTypes : (∀ a, ∀ d ∈ walk a, d ∈ requiredTypes [a]) ∧
    (∀ as, ∀ d ∈ walkArgs as, d ∈ requiredTypes (as.flatMap listMembers)) ∧
    (∀ as, ∀ d ∈ walkAll as, d ∈ requiredTypes as) ∧
    ∀ as, ∀ d ∈ walkGroups as,
      d ∈ requiredTypes (as.dropLast ++ as.getLast?.elim [] listMembers) := by
  apply walk.mutual_induct
  case case1 | case2 | case3 =>
    intro c d hd
    rw [walk, List.mem_singleton] at hd
    subst hd
    exact mem_requiredTypes_self rfl
  case case4 =>
    intro n d hd
    rw [walk, Option.mem_toList] at hd
    obtain ⟨c, -, rfl⟩ := Option.map_eq_some_iff.mp hd
    exact mem_requiredTypes_of_part (part_of_statedOrigin? hd rfl) (mem_requiredTypes_self rfl)
  case case5 =>
    intro f o as ho hgroups hargs d hd
    rw [walk, List.mem_append] at hd
    rcases hd with hd | hd
    · exact mem_requiredTypes_of_part (part_of_statedOrigin? rfl (toStr?_of_mem_walk hd)) (ho d hd)
    · -- Parameters that stand in a list of their own are arguments one by one.
      have hall : d ∈ requiredTypes (typeArguments (.generic f o as)) := by
        cases hg : groupsParameters o as with
        | true =>
          rw [typeArguments_of_groupsParameters hg]
          exact hgroups d (by simpa [hg] using hd)
        | false =>
          rw [typeArguments_of_not_groupsParameters hg]
          exact hargs d (by simpa [hg] using hd)
      exact mem_requiredTypes_of_parts (fun _ => part_of_mem_typeArguments) hall
  case case6 =>
    intro as has d hd
    rw [walk] at hd
    exact mem_requiredTypes_of_parts (fun _ => part_of_mem_typeArguments) (has d hd)
  case case7 =>
    intro o ms ho hms d hd
    rw [walk, List.mem_append] at hd
    rcases hd with hd | hd
    · exact mem_requiredTypes_of_part (part_of_statedOrigin? rfl (toStr?_of_mem_walk hd)) (ho d hd)
    · refine mem_requiredTypes_of_parts (fun b hb => part_of_mem_typeArguments ?_) (hms d hd)
      exact List.mem_append_right _ hb
  case case8 =>
    intro a h1 h2 h3 h4 h5 h6 h7 d hd
    rw [walk.eq_8 a h1 h2 h3 h4 h5 h6 h7] at hd
    cases hd
  case case9 => exact nofun
  case case10 | case11 =>
    intro vs as hvs has d hd
    rw [walkArgs, List.mem_append] at hd
    exact mem_requiredTypes_append (hd.imp (hvs d) (has d))
  case case12 =>
    intro a as hl ht ha has d hd
    rw [walkArgs.eq_4 a as hl ht, List.mem_append] at hd
    rw [List.flatMap_cons, listMembers.eq_3 a hl ht]
    exact mem_requiredTypes_append (hd.imp (ha d) (has d))
  case case13 => exact nofun
  case case14 =>
    intro a as ha has d hd
    rw [walkAll, List.mem_append] at hd
    exact mem_requiredTypes_cons (hd.imp (ha d) (has d))
  case case15 => exact nofun
  case case16 | case17 =>
    intro vs hvs d hd
    rw [walkGroups] at hd
    exact hvs d hd
  case case18 =>
    intro a as hl ht ha has d hd
    rw [walkGroups.eq_4 a as hl ht, List.mem_append] at hd
    cases as with
    | nil =>
      have hsingle : listMembers a = [a] :=
        listMembers.eq_3 a (fun vs h => hl vs h rfl) fun vs h => ht vs h rfl
      refine hd.elim (fun hd => ?_) nofun
      show d ∈ requiredTypes (listMembers a)
      exact hsingle ▸ ha d hd
    | cons b bs => exact mem_requiredTypes_cons (hd.imp (ha d) (has d))

theorem mem_requiredTypes_of_mem_walk {a d : Value} (h : d ∈ walk a) : d ∈ requiredTypes [a] :=
  walk_subset_requiredTypes.1 a d h

end Facade.Hint
