import Facade.Proofs.Remainder

/-!
# Completing partial calls

What a partial call leaves of a signature accepts exactly the arguments with which the call can be
completed.

* `refill`: the binding of the whole for one of what is left.
* `bindArguments_remain`: a partial call, completed.
* `completed_error`: what is not accepted cannot complete the call.
* `completed_similar`: arguments that bind alike complete the call alike.
-/

namespace Facade.Describe

open Facade.Binding Facade.Execution
open Syntax (ParamKind)

variable {ks kw kw' : Keywords} {moved : Bool} {as pos pos' : List Value} {p : Parameter}
  {ps : List Parameter}

/-! ## Arguments by position -/

/-- Arguments by position that a parameter list takes. -/
def Takes (pos : List Value) (ps : List Parameter) : Prop :=
  hasKind .varPositional ps = false → pos.length ≤ (ps.filter isPositional).length

theorem takes_remain_moved {pos : List Value} (h : ∀ q ∈ ps, 1 ≤ rank q.kind)
    (ht : Takes pos (remain ks true [] ps)) : pos = [] := by
  have hno := remain_moved_no_position ks h
  have hv : hasKind .varPositional (remain ks true [] ps) = false := by
    refine List.any_eq_false.mpr fun q hq => ?_
    have := hno q hq
    intro hc
    rw [decide_eq_true_eq] at hc
    rw [hc] at this
    exact absurd this (by decide)
  have hf : (remain ks true [] ps).filter isPositional = [] := by
    refine List.filter_eq_nil_iff.mpr fun q hq => ?_
    have := hno q hq
    rw [isPositional_iff]
    omega
  have := ht hv
  rw [hf] at this
  exact List.length_eq_zero_iff.mp (Nat.le_zero.mp this)

theorem takes_cons_of_not_isPositional {pos : List Value} (hp : isPositional p = false)
    (hv : p.kind ≠ .varPositional) : Takes pos (p :: ps) ↔ Takes pos ps := by
  unfold Takes
  rw [List.filter_cons_of_neg (by simp [hp])]
  simp [hasKind, hv]

theorem takes_cons_position {v : Value} {pos : List Value} (hp : isPositional p = true) :
    Takes (v :: pos) (p :: ps) ↔ Takes pos ps := by
  have hv : p.kind ≠ .varPositional := by
    intro hc
    simp [isPositional, hc] at hp
  unfold Takes
  rw [List.filter_cons_of_pos hp]
  simp [hasKind, hv]

theorem takes_nil (ps : List Parameter) : Takes [] ps := fun _ => Nat.zero_le _

theorem takes_append (ps : List Parameter) (hl : ps.Pairwise Precedes) :
    ∀ {moved : Bool} {as pos : List Value}, Fits as ps →
      (moved = true → pos = []) → Takes pos (remain ks moved as ps) → Takes (as ++ pos) ps := by
  induction ps with
  | nil =>
    intro moved as pos hfit _ ht
    cases as with
    | nil => exact ht
    | cons a as => exact absurd hfit (by simp [Fits])
  | cons p ps ih =>
    obtain ⟨hbefore, hps⟩ := List.pairwise_cons.mp hl
    replace ih := @ih hps
    intro moved as pos hfit hmoved ht
    have next (hp : isPositional p = true) {moved : Bool} (hm : moved = true → pos = [])
        (ht : Takes pos (p :: remain ks moved [] ps)) : Takes ([] ++ pos) (p :: ps) := by
      cases pos with
      | nil => exact takes_nil _
      | cons v pos =>
        exact (takes_cons_position hp).mpr
          (@ih _ [] _ trivial (fun h => by simp at hm; simp [hm] at h)
            ((takes_cons_position hp).mp ht))
    cases hk : p.kind with
    | positionalOnly =>
      have hp : isPositional p = true := by simp [isPositional, hk]
      cases as with
      | nil => exact next hp hmoved (by rwa [remain_positionalOnly hk] at ht)
      | cons a as =>
        rw [remain_position hp] at ht
        exact (takes_cons_position hp).mpr (ih (by simpa [Fits, hk] using hfit) hmoved ht)
    | positionalOrKeyword =>
      have hp : isPositional p = true := by simp [isPositional, hk]
      cases as with
      | nil =>
        cases hpos : pos with
        | nil => exact takes_nil _
        | cons v pos' =>
          have hm : moved = false := by
            by_contra hc
            rw [hpos] at hmoved
            exact absurd (hmoved (by simpa using hc)) (by simp)
          subst hm
          cases hv : given ks p.name with
          | none =>
            rw [remain_not_given hk hv] at ht
            rw [← hpos]
            exact next hp hmoved ht
          | some v =>
            rw [remain_given hk hv, takes_cons_of_not_isPositional rfl (by simp)] at ht
            have := takes_remain_moved (fun q hq => by
              have := (hbefore q hq).1
              rwa [hk] at this) ht
            rw [this] at hpos
            cases hpos
      | cons a as =>
        rw [remain_position hp] at ht
        exact (takes_cons_position hp).mpr (ih (by simpa [Fits, hk] using hfit) hmoved ht)
    | varPositional => exact fun h => by simp [hasKind, hk] at h
    | keywordOnly =>
      have has : as = [] := by
        cases as with
        | nil => rfl
        | cons a as => simp [Fits, hk] at hfit
      subst has
      rw [remain_keywordOnly hk, takes_cons_of_not_isPositional (by simp [isPositional, hk])
        (by simp [hk])] at ht
      rw [takes_cons_of_not_isPositional (by simp [isPositional, hk]) (by simp [hk])]
      exact @ih _ [] _ trivial hmoved ht
    | varKeyword =>
      have has : as = [] := by
        cases as with
        | nil => rfl
        | cons a as => simp [Fits, hk] at hfit
      subst has
      rw [remain_varKeyword hk, takes_cons_of_not_isPositional (by simp [isPositional, hk])
        (by simp [hk])] at ht
      rw [takes_cons_of_not_isPositional (by simp [isPositional, hk]) (by simp [hk])]
      exact @ih _ [] _ trivial hmoved ht

/-! ## The binding of the whole -/

/-- What the bindings of what is left say about the whole: the arguments given before are put in, and
`left` is the surplus of names. -/
def refill (ks : Keywords) (left : Value) :
    Bool → List Value → List Parameter → List (String × Value) → List (String × Value)
  | _, _, [], _ => []
  | moved, as, p :: ps, bs =>
    match p.kind, as with
    | .positionalOnly, a :: as => (p.name, a) :: refill ks left moved as ps bs
    | .positionalOrKeyword, a :: as => (p.name, a) :: refill ks left moved as ps bs
    | .positionalOnly, [] => bs.take 1 ++ refill ks left moved [] ps (bs.drop 1)
    | .positionalOrKeyword, [] =>
      bs.take 1 ++ refill ks left (moved || (given ks p.name).isSome) [] ps (bs.drop 1)
    | .varPositional, as =>
      if moved then (p.name, .tuple []) :: refill ks left moved [] ps bs
      else
        (p.name, .tuple (as ++ bs.head?.elim [] fun b => membersOf b.2)) ::
          refill ks left moved [] ps (bs.drop 1)
    | .keywordOnly, as => bs.take 1 ++ refill ks left moved as ps (bs.drop 1)
    | .varKeyword, as => (p.name, left) :: refill ks left moved as ps (bs.drop 1)

theorem map_map {α β γ : Type} (r : Except Fault α) (f : α → β) (g : β → γ) :
    (r.map f).map g = r.map fun x => g (f x) := by
  cases r <;> rfl

section Refill

attribute [local simp] refill

variable {left : Value} {bs : List (String × Value)} {b : String × Value}

theorem refill_position (hp : isPositional p = true) (a : Value) :
    refill ks left moved (a :: as) (p :: ps) bs = (p.name, a) :: refill ks left moved as ps bs := by
  cases hk : p.kind <;> simp_all [isPositional]

theorem refill_positionalOnly (hk : p.kind = .positionalOnly) :
    refill ks left moved [] (p :: ps) (b :: bs) = b :: refill ks left moved [] ps bs := by
  simp [hk]

theorem refill_positionalOrKeyword (hk : p.kind = .positionalOrKeyword) :
    refill ks left moved [] (p :: ps) (b :: bs) =
      b :: refill ks left (moved || (given ks p.name).isSome) [] ps bs := by
  simp [hk]

theorem refill_varPositional_moved (hk : p.kind = .varPositional) :
    refill ks left true as (p :: ps) bs = (p.name, .tuple []) :: refill ks left true [] ps bs := by
  simp [hk]

theorem refill_varPositional (hk : p.kind = .varPositional) :
    refill ks left false as (p :: ps) (b :: bs) =
      (p.name, .tuple (as ++ membersOf b.2)) :: refill ks left false [] ps bs := by
  simp [hk]

theorem refill_keywordOnly (hk : p.kind = .keywordOnly) :
    refill ks left moved as (p :: ps) (b :: bs) = b :: refill ks left moved as ps bs := by
  simp [hk]

theorem refill_varKeyword (hk : p.kind = .varKeyword) :
    refill ks left moved as (p :: ps) (b :: bs) = (p.name, left) :: refill ks left moved as ps bs := by
  simp [hk]

end Refill

section Lift

variable {n : String} {x y : Except Fault (List (String × Value))}
  {f g : List (String × Value) → List (String × Value)}

theorem map_cons_lift {v w : Value} (hxy : x = y.map g)
    (hf : ∀ bs, f ((n, w) :: bs) = (n, v) :: g bs) :
    x.map ((n, v) :: ·) = (y.map ((n, w) :: ·)).map f := by
  rw [hxy, map_map, map_map]
  simp only [hf]

theorem elim_lift (o : Option Value) (hxy : x = y.map g)
    (hf : ∀ v bs, f ((n, v) :: bs) = (n, v) :: g bs) :
    (o.elim (.error .type) fun v => x.map ((n, v) :: ·)) =
      (o.elim (.error .type) fun v => y.map ((n, v) :: ·)).map f := by
  cases o with
  | none => rfl
  | some v => exact map_cons_lift hxy (hf v)

end Lift

section Bind

variable {all als : List Parameter} {kw jw : Keywords}

/-- Arguments that complete a call: the whole binds as what is left of it, given arguments put in. -/
def Completes (ks : Keywords) (all als : List Parameter) (kw jw : Keywords) (moved : Bool)
    (as : List Value) (ps : List Parameter) (pos : List Value) : Prop :=
  bindFrom all jw ps (as ++ pos) =
    (bindFrom als kw (remain ks moved as ps) pos).map
      (refill ks (Value.dictOfNames (surplus all jw)) moved as ps)

theorem completes_filled {pos : List Value} {a : Value} (hp : isPositional p = true)
    (hg : isGivenByName jw p = false) (h : Completes ks all als kw jw moved as ps pos) :
    Completes ks all als kw jw moved (a :: as) (p :: ps) pos := by
  unfold Completes at h ⊢
  rw [remain_position hp, List.cons_append, bindFrom_position hp, hg, if_neg (by simp), h, map_map]
  exact congrArg (Except.map · _) (funext fun bs => (refill_position hp a).symm)

/-- A positional parameter that is left. -/
theorem completes_position {pos : List Value} (hp : isPositional p = true)
    (hremain : remain ks moved [] (p :: ps) = p :: remain ks moved [] ps)
    (hrefill : ∀ l b bs, refill ks l moved [] (p :: ps) (b :: bs) = b :: refill ks l moved [] ps bs)
    (hgiven : isNamed p = true → given jw p.name = given kw p.name)
    (h : ∀ pos', (∃ v, pos = v :: pos') ∨ (pos = [] ∧ pos' = []) →
      Completes ks all als kw jw moved [] ps pos') :
    Completes ks all als kw jw moved [] (p :: ps) pos := by
  unfold Completes at h ⊢
  rw [hremain, List.nil_append]
  cases pos with
  | cons v pos =>
    have hg : isGivenByName jw p = isGivenByName kw p := by
      rw [isGivenByName_eq, isGivenByName_eq]
      cases hn : isNamed p with
      | false => rfl
      | true => rw [hgiven hn]
    rw [bindFrom_position hp, bindFrom_position hp, hg]
    split
    · rfl
    · exact map_cons_lift (h pos (.inl ⟨v, rfl⟩)) fun bs => hrefill _ _ _
  | nil =>
    have hv : namedOrDefault jw p = namedOrDefault kw p := by
      rw [namedOrDefault_eq, namedOrDefault_eq]
      cases hn : isNamed p with
      | false => rfl
      | true => rw [hgiven hn]
    rw [bindFrom_position_nil hp, bindFrom_position_nil hp, hv]
    exact elim_lift _ (h [] (.inr ⟨rfl, rfl⟩)) fun v bs => hrefill _ _ _

/-- **A partial call, completed.** The whole binds as what is left of it, given arguments put in. -/
theorem bindFrom_remain (hjw : ∀ n, given jw n = (given kw n <|> given ks n)) (ps : List Parameter)
    (hl : ps.Pairwise Precedes) :
    ∀ {moved : Bool} {as pos : List Value}, Fits as ps →
      (∀ n ∈ filledNames as ps, given jw n = none) →
      (moved = true → as = [] ∧ pos = [] ∧ ∀ q ∈ ps, 1 ≤ rank q.kind) →
      Takes pos (remain ks moved as ps) → Completes ks all als kw jw moved as ps pos := by
  induction ps with
  | nil =>
    intro moved as pos _ _ _ _
    simp [Completes, remain, bindFrom, refill, Except.map]
  | cons p ps ih =>
    obtain ⟨hbefore, hps⟩ := List.pairwise_cons.mp hl
    replace ih := @ih hps
    intro moved as pos hfit hfilled hmoved ht
    have hmoved' : moved = true → as = [] ∧ pos = [] ∧ ∀ q ∈ ps, 1 ≤ rank q.kind := fun h =>
      ⟨(hmoved h).1, (hmoved h).2.1, fun q hq => (hmoved h).2.2 q (List.mem_cons_of_mem p hq)⟩
    have stays (hm : moved = false) {as' pos' : List Value} :
        moved = true → as' = [] ∧ pos' = [] ∧ ∀ q ∈ ps, 1 ≤ rank q.kind :=
      fun h => by rw [hm] at h; cases h
    cases hk : p.kind with
    | positionalOnly =>
      have hp : isPositional p = true := by simp [isPositional, hk]
      have hn : isNamed p = false := by simp [isNamed, hk]
      have hm : moved = false := by
        by_contra hc
        have := (hmoved (by simpa using hc)).2.2 p List.mem_cons_self
        rw [hk] at this
        exact absurd this (by decide)
      cases as with
      | cons a as =>
        rw [remain_position hp] at ht
        exact completes_filled hp (by simp [isGivenByName, hn])
          (ih (by simpa [Fits, hk] using hfit) (by simpa [filledNames, hk] using hfilled)
            (stays hm) ht)
      | nil =>
        rw [remain_positionalOnly hk] at ht
        refine completes_position hp (remain_positionalOnly hk)
          (fun l b bs => refill_positionalOnly hk) (fun h => by rw [hn] at h; cases h) ?_
        rintro pos' (⟨v, rfl⟩ | ⟨rfl, rfl⟩)
        · exact ih trivial (by simp [filledNames]) (stays hm) ((takes_cons_position hp).mp ht)
        · exact ih trivial (by simp [filledNames]) (stays hm) (takes_nil _)
    | positionalOrKeyword =>
      have hp : isPositional p = true := by simp [isPositional, hk]
      have hn : isNamed p = true := by simp [isNamed, hk]
      have hlater : ∀ q ∈ ps, 1 ≤ rank q.kind := fun q hq => by
        have := (hbefore q hq).1
        rw [hk] at this
        exact this
      cases as with
      | cons a as =>
        have hm : moved = false := by
          by_contra hc
          exact absurd (hmoved (by simpa using hc)).1 (by simp)
        have hnone : given jw p.name = none := hfilled p.name (by simp [filledNames, hk])
        rw [remain_position hp] at ht
        exact completes_filled hp (by simp [isGivenByName_eq, hnone])
          (ih (by simpa [Fits, hk] using hfit)
            (fun n hn => hfilled n (by simp [filledNames, hk, hn])) (stays hm) ht)
      | nil =>
        cases hv : given ks p.name with
        | some v =>
          -- Given by name: from here on nothing is taken by position.
          rw [remain_given hk hv, takes_cons_of_not_isPositional (by rfl) (by simp)] at ht
          obtain rfl := takes_remain_moved hlater ht
          have h := @ih true [] [] trivial (by simp [filledNames])
            (fun _ => ⟨rfl, rfl, hlater⟩) ht
          unfold Completes at h ⊢
          rw [remain_given hk hv, List.append_nil, bindFrom_position_nil hp,
            bindFrom_keywordOnly (by rfl), namedOrDefault_eq, namedOrDefault_eq, hjw, hv]
          have hval : ((if isNamed p = true then (given kw p.name <|> some v) else none) <|>
              p.default) = ((given kw p.name) <|> some v) := by
            rw [if_pos hn]
            cases given kw p.name <;> rfl
          rw [hval]
          refine elim_lift _ h fun w bs => ?_
          rw [refill_positionalOrKeyword hk, hv]
          simp
        | none =>
          have hgiven : given jw p.name = given kw p.name := by
            rw [hjw, hv]
            cases given kw p.name <;> rfl
          have hrefill (l : Value) (b : String × Value) (bs : List (String × Value)) :
              refill ks l moved [] (p :: ps) (b :: bs) = b :: refill ks l moved [] ps bs := by
            rw [refill_positionalOrKeyword hk, hv]
            simp
          cases hm : moved with
          | false =>
            subst hm
            have hremain : remain ks false [] (p :: ps) = p :: remain ks false [] ps := by
              rw [remain_not_given hk hv]
              rfl
            rw [hremain] at ht
            refine completes_position hp hremain hrefill (fun _ => hgiven) ?_
            rintro pos' (⟨v, rfl⟩ | ⟨rfl, rfl⟩)
            · exact ih trivial (by simp [filledNames]) (by simp) ((takes_cons_position hp).mp ht)
            · exact ih trivial (by simp [filledNames]) (by simp) (takes_nil _)
          | true =>
            subst hm
            obtain ⟨-, rfl, -⟩ := hmoved rfl
            have h := @ih true [] [] trivial (by simp [filledNames])
              (fun _ => ⟨rfl, rfl, hlater⟩) (takes_nil _)
            unfold Completes at h ⊢
            rw [remain_not_given hk hv, if_pos rfl, List.append_nil, bindFrom_position_nil hp,
              bindFrom_keywordOnly (by rfl), namedOrDefault_eq, namedOrDefault_eq, hgiven,
              if_pos hn, if_pos (by rfl)]
            exact elim_lift _ h fun w bs => hrefill _ _ _
    | varPositional =>
      cases hm : moved with
      | true =>
        subst hm
        obtain ⟨rfl, rfl, -⟩ := hmoved rfl
        have h := @ih true [] [] trivial (by simp [filledNames]) hmoved'
          (takes_nil _)
        unfold Completes at h ⊢
        rw [remain_varPositional hk, if_pos rfl, List.append_nil, bindFrom_varPositional hk]
        rw [List.append_nil] at h
        rw [h, map_map]
        exact congrArg (Except.map · _) (funext fun bs => (refill_varPositional_moved hk).symm)
      | false =>
        subst hm
        have h := @ih false [] [] trivial (by simp [filledNames])
          (by simp) (takes_nil _)
        unfold Completes at h ⊢
        rw [remain_varPositional hk, if_neg (by simp), bindFrom_varPositional hk,
          bindFrom_varPositional hk]
        exact map_cons_lift h fun bs => refill_varPositional hk
    | keywordOnly =>
      have hn : isNamed p = true := by simp [isNamed, hk]
      have hnp : isPositional p = false := by simp [isPositional, hk]
      have has : as = [] := by
        cases as with
        | nil => rfl
        | cons a as => simp [Fits, hk] at hfit
      subst has
      rw [remain_keywordOnly hk, takes_cons_of_not_isPositional (by simp [isPositional, hk])
        (by simp [hk])] at ht
      have h := @ih _ [] _ trivial (by simp [filledNames]) hmoved' ht
      unfold Completes at h ⊢
      rw [remain_keywordOnly hk, List.nil_append, bindFrom_keywordOnly hk,
        bindFrom_keywordOnly (by exact hk), namedOrDefault_eq, namedOrDefault_eq, hjw, if_pos hn,
        if_pos (by simp [isNamed, hk])]
      have hval : ((given kw p.name <|> given ks p.name) <|> p.default) =
          (given kw p.name <|> (given ks p.name <|> p.default)) := by
        cases given kw p.name <;> rfl
      rw [hval]
      exact elim_lift _ h fun v bs => refill_keywordOnly hk
    | varKeyword =>
      have has : as = [] := by
        cases as with
        | nil => rfl
        | cons a as => simp [Fits, hk] at hfit
      subst has
      rw [remain_varKeyword hk, takes_cons_of_not_isPositional (by simp [isPositional, hk])
        (by simp [hk])] at ht
      have h := @ih _ [] _ trivial (by simp [filledNames]) hmoved' ht
      unfold Completes at h ⊢
      rw [remain_varKeyword hk, List.nil_append, bindFrom_varKeyword hk, bindFrom_varKeyword hk]
      exact map_cons_lift h fun bs => refill_varKeyword hk

/-! ## The whole and what is left -/

/-- A name that is filled by position and given as well is refused. -/
theorem bindFrom_clash {n : String} (hn : (given jw n).isSome) (ps : List Parameter) :
    ∀ {as pos : List Value}, n ∈ filledNames as ps →
      bindFrom all jw ps (as ++ pos) = .error .type := by
  induction ps with
  | nil =>
    intro as pos h
    cases as <;> simp [filledNames] at h
  | cons p ps ih =>
    intro as pos h
    cases as with
    | nil => simp [filledNames] at h
    | cons a as =>
      rw [List.cons_append]
      cases hk : p.kind with
      | positionalOnly =>
        rw [bindFrom_position (by simp [isPositional, hk]),
          ih (by simpa [filledNames, hk] using h)]
        split <;> rfl
      | positionalOrKeyword =>
        rw [bindFrom_position (by simp [isPositional, hk])]
        simp only [filledNames, hk, List.mem_cons] at h
        rcases h with rfl | h
        · rw [isGivenByName_eq, hn, if_pos (by simp [isNamed, hk])]
        · rw [ih h]
          split <;> rfl
      | varPositional | keywordOnly | varKeyword => simp [filledNames, hk] at h

/-- More arguments by position than what is left takes are refused by the whole. -/
theorem bindFrom_not_takes (hjw : ∀ n, (given ks n).isSome → (given jw n).isSome)
    (ps : List Parameter) : ∀ {as pos : List Value}, Fits as ps →
      ¬ Takes pos (remain ks false as ps) → Takes (as ++ pos) ps →
      bindFrom all jw ps (as ++ pos) = .error .type := by
  induction ps with
  | nil =>
    intro as pos hfit hno ht
    cases as with
    | nil => exact absurd ht hno
    | cons a as => exact absurd hfit (by simp [Fits])
  | cons p ps ih =>
    intro as pos hfit hno ht
    have position (hp : isPositional p = true) {v : Value} {args : List Value}
        (h : bindFrom all jw ps args = .error .type) :
        bindFrom all jw (p :: ps) (v :: args) = .error .type := by
      rw [bindFrom_position hp, h]
      split <;> rfl
    have next (hp : isPositional p = true)
        (hremain : remain ks false [] (p :: ps) = p :: remain ks false [] ps)
        (has : as = []) : bindFrom all jw (p :: ps) (as ++ pos) = .error .type := by
      subst has
      rw [hremain] at hno
      cases pos with
      | nil => exact absurd (takes_nil _) hno
      | cons v pos =>
        rw [takes_cons_position hp] at hno
        exact position hp (@ih [] _ trivial hno ((takes_cons_position hp).mp ht))
    cases hk : p.kind with
    | positionalOnly =>
      have hp : isPositional p = true := by simp [isPositional, hk]
      cases as with
      | nil => exact next hp (remain_positionalOnly hk) rfl
      | cons a as =>
        rw [remain_position hp] at hno
        exact position hp (ih (by simpa [Fits, hk] using hfit) hno ((takes_cons_position hp).mp ht))
    | positionalOrKeyword =>
      have hp : isPositional p = true := by simp [isPositional, hk]
      cases as with
      | nil =>
        cases hv : given ks p.name with
        | none => exact next hp (by rw [remain_not_given hk hv]; rfl) rfl
        | some v =>
          cases pos with
          | nil => exact absurd (takes_nil _) hno
          | cons u pos =>
            rw [List.nil_append, bindFrom_position hp, isGivenByName_eq, hjw p.name (by simp [hv]),
              if_pos (by simp [isNamed, hk])]
      | cons a as =>
        rw [remain_position hp] at hno
        exact position hp (ih (by simpa [Fits, hk] using hfit) hno ((takes_cons_position hp).mp ht))
    | varPositional =>
      rw [remain_varPositional hk, if_neg (by simp)] at hno
      exact absurd (fun h => by simp [hasKind, hk] at h) hno
    | keywordOnly =>
      have has : as = [] := by
        cases as with
        | nil => rfl
        | cons a as => simp [Fits, hk] at hfit
      subst has
      rw [remain_keywordOnly hk, takes_cons_of_not_isPositional (by simp [isPositional, hk])
        (by simp [hk])] at hno
      rw [List.nil_append, takes_cons_of_not_isPositional (by simp [isPositional, hk])
        (by simp [hk])] at ht
      rw [List.nil_append, bindFrom_keywordOnly hk, ← List.nil_append pos,
        @ih [] _ trivial hno ht]
      cases namedOrDefault jw p <;> rfl
    | varKeyword =>
      have has : as = [] := by
        cases as with
        | nil => rfl
        | cons a as => simp [Fits, hk] at hfit
      subst has
      rw [remain_varKeyword hk, takes_cons_of_not_isPositional (by simp [isPositional, hk])
        (by simp [hk])] at hno
      rw [List.nil_append, takes_cons_of_not_isPositional (by simp [isPositional, hk])
        (by simp [hk])] at ht
      rw [List.nil_append, bindFrom_varKeyword hk, ← List.nil_append pos,
        @ih [] _ trivial hno ht]
      rfl

end Bind

/-! ## Accepted arguments -/

/-- Arguments that a signature lets a partial call give: those by position find a parameter each, those
by name fill no parameter twice, and a parameter takes what is left of them. -/
structure Accepts (ps : List Parameter) (as : List Value) (ks : Keywords) : Prop where
  positions : Fits as ps
  names : ∀ n ∈ filledNames as ps, given ks n = none
  surplus : hasKind .varKeyword ps = false → surplus ps ks = []

/-- Some name is that of a parameter that is filled by position. -/
def clashes (as : List Value) (ps : List Parameter) (kw : Keywords) : Bool :=
  kw.any fun e => (filledNames as ps).contains e.1

theorem nodup_namedNames (h : (ps.map Parameter.name).Nodup) : (namedNames ps).Nodup :=
  (List.filter_sublist.map _).nodup h

theorem mem_namedNames_remain (ks : Keywords) (hl : IsLegal ps) (hfit : Fits as ps) {n : String} :
    n ∈ namedNames (remain ks false as ps) ↔ n ∈ namedNames ps ∧ n ∉ filledNames as ps := by
  have hnodup := nodup_namedNames hl.nodup
  rw [namedNames_remain ks ps false hfit] at hnodup ⊢
  rw [List.mem_append]
  constructor
  · exact fun h => ⟨.inr h, fun hf => (List.disjoint_of_nodup_append hnodup) hf h⟩
  · rintro ⟨h | h, hf⟩
    · exact absurd h hf
    · exact h

theorem filledNames_subset (hfit : Fits as ps) {n : String} (h : n ∈ filledNames as ps) :
    n ∈ namedNames ps := by
  rw [namedNames_remain [] ps false hfit]
  exact List.mem_append_left _ h

/-- The surplus of the whole is that of what is left, less the names that are filled. -/
theorem surplus_eq_filter_remain (ks : Keywords) (hl : IsLegal ps) (hfit : Fits as ps) (kw : Keywords) :
    surplus ps kw = (surplus (remain ks false as ps) kw).filter
      fun e => !(filledNames as ps).contains e.1 := by
  rw [surplus_eq_filter, surplus_eq_filter, List.filter_filter]
  refine List.filter_congr fun e _ => ?_
  have hmem := mem_namedNames_remain (n := e.1) ks hl hfit
  have hsub := filledNames_subset hfit (n := e.1)
  by_cases hf : e.1 ∈ filledNames as ps <;> by_cases hn : e.1 ∈ namedNames ps <;>
    simp_all

theorem clashes_eq_surplus (ks : Keywords) (hl : IsLegal ps) (hfit : Fits as ps) (kw : Keywords) :
    clashes as ps kw = clashes as ps (surplus (remain ks false as ps) kw) := by
  rw [clashes, clashes, surplus_eq_filter, List.any_filter]
  congr 1
  funext e
  have hmem := mem_namedNames_remain (n := e.1) ks hl hfit
  by_cases hf : e.1 ∈ filledNames as ps <;> simp_all

theorem surplus_remain (hl : IsLegal ps) (hfit : Fits as ps) (hc : clashes as ps kw = false) :
    surplus (remain ks false as ps) kw = surplus ps kw := by
  rw [surplus_eq_filter_remain ks hl hfit, List.filter_eq_self.mpr]
  intro e he
  rw [clashes_eq_surplus ks hl hfit, clashes, List.any_eq_false] at hc
  simpa using hc e he

theorem isSome_given_iff (kw : Keywords) (n : String) : (given kw n).isSome = true ↔ n ∈ kw.map Prod.fst := by
  rw [← Option.ne_none_iff_isSome, Ne, given_eq_none_iff, not_not]

/-- What the whole binds once it is completed. -/
def refilled (ps : List Parameter) (as : List Value) (ks kw : Keywords) :
    List (String × Value) → List (String × Value) :=
  refill ks (Value.dictOfNames (overrideKeywords (surplus ps ks) (surplus ps kw))) false as ps

theorem not_takes_bindArguments {args : List Value} (h : ¬ Takes args ps) :
    bindArguments ps args kw = .error .type := by
  unfold Takes at h
  rw [Classical.not_imp] at h
  unfold bindArguments
  rw [if_pos]
  simpa [h.1] using h.2

theorem bindArguments_eq_error {args : List Value} (h : bindFrom ps kw ps args = .error .type) :
    bindArguments ps args kw = .error .type := by
  unfold bindArguments
  split
  · rfl
  · split
    · rfl
    · exact h

theorem bindArguments_of_takes {args : List Value} (h : Takes args ps) :
    bindArguments ps args kw =
      if !hasKind .varKeyword ps && !(surplus ps kw).isEmpty then .error .type
      else bindFrom ps kw ps args := by
  unfold Takes at h
  unfold bindArguments
  rw [if_neg]
  simpa using h

/-- **A partial call, completed.** The whole binds what is left of it, unless a name is given that is
filled already. -/
theorem bindArguments_remain (hl : IsLegal ps) (ha : Accepts ps as ks)
    (hn : (kw.map Prod.fst).Nodup) :
    bindArguments ps (as ++ pos) (overrideKeywords ks kw) =
      if clashes as ps kw then .error .type
      else (bindArguments (remain ks false as ps) pos kw).map (refilled ps as ks kw) := by
  have hgiven := given_overrideKeywords hn ks
  split
  · rename_i hc
    obtain ⟨e, he, hf⟩ := List.any_eq_true.mp hc
    refine bindArguments_eq_error (bindFrom_clash (n := e.1) ?_ ps (by simpa using hf))
    obtain ⟨v, hv⟩ := Option.isSome_iff_exists.mp ((isSome_given_iff kw e.1).mpr
      (List.mem_map_of_mem he))
    rw [hgiven, hv]
    rfl
  · rename_i hc
    rw [Bool.not_eq_true] at hc
    by_cases ht : Takes pos (remain ks false as ps)
    · have hleft : surplus ps (overrideKeywords ks kw) =
          overrideKeywords (surplus ps ks) (surplus ps kw) := surplus_overrideKeywords ps ks kw
      have hcheck : (!hasKind .varKeyword ps && !(surplus ps (overrideKeywords ks kw)).isEmpty) =
          (!hasKind .varKeyword ps && !(surplus (remain ks false as ps) kw).isEmpty) := by
        cases hk : hasKind .varKeyword ps with
        | true => rfl
        | false =>
          rw [hleft, ha.surplus hk, overrideKeywords_nil_left, surplus_remain hl ha.positions hc]
          exact (List.filter_sublist.map _).nodup hn
      rw [bindArguments_of_takes (takes_append ps hl.ordered ha.positions (by simp) ht),
        bindArguments_of_takes ht, hcheck, hasKind_varKeyword_remain]
      split
      · rfl
      · rw [bindFrom_remain hgiven ps hl.ordered ha.positions (fun n hn => ?_) (by simp) ht, hleft]
        · rfl
        · rw [hgiven, ha.names n hn, given_eq_none_iff.mpr]
          · rfl
          · intro hmem
            obtain ⟨e, he, rfl⟩ := List.mem_map.mp hmem
            rw [clashes, List.any_eq_false] at hc
            exact hc e he (by simpa using hn)
    · rw [not_takes_bindArguments ht]
      by_cases ht' : Takes (as ++ pos) ps
      · refine bindArguments_eq_error
          (bindFrom_not_takes (fun n h => ?_) ps ha.positions ht ht')
        rw [hgiven]
        cases given kw n with
        | none => exact h
        | some v => rfl
      · rw [not_takes_bindArguments ht']
        rfl

/-- **What is not accepted cannot complete the call.** -/
theorem completed_error (hl : IsLegal ps) (ha : Accepts ps as ks) (hn : (kw.map Prod.fst).Nodup)
    {f : Fault} (h : bindArguments (remain ks false as ps) pos kw = .error f) :
    bindArguments ps (as ++ pos) (overrideKeywords ks kw) = .error .type := by
  rw [bindArguments_remain hl ha hn, h, bindArguments_error h]
  split <;> rfl

section Similar

variable {R : Value → Value → Prop}

theorem similar_refill (hR : ∀ v, R v v) (left : Value) (ps : List Parameter) :
    ∀ {moved : Bool} {as : List Value} {bs cs : List (String × Value)},
      Similar R (remain ks moved as ps) bs cs →
      Similar R ps (refill ks left moved as ps bs) (refill ks left moved as ps cs) := by
  induction ps with
  | nil => intro moved as bs cs _; cases as <;> exact .nil
  | cons p ps ih =>
    intro moved as bs cs h
    cases hk : p.kind with
    | positionalOnly =>
      have hp : isPositional p = true := by simp [isPositional, hk]
      cases as with
      | nil =>
        rw [remain_positionalOnly hk] at h
        cases h with
        | cons hv heq h =>
          rw [refill_positionalOnly hk, refill_positionalOnly hk]
          exact .cons hv heq (ih h)
      | cons a as =>
        rw [remain_position hp] at h
        rw [refill_position hp, refill_position hp]
        exact .cons (hR a) (fun _ => rfl) (ih h)
    | positionalOrKeyword =>
      have hp : isPositional p = true := by simp [isPositional, hk]
      have hvar : p.kind.isVariadic = true → False := by simp [hk, ParamKind.isVariadic]
      cases as with
      | nil =>
        cases hv : given ks p.name with
        | some v =>
          rw [remain_given hk hv] at h
          cases h with
          | cons hv' heq h =>
            rw [refill_positionalOrKeyword hk, refill_positionalOrKeyword hk, hv]
            exact .cons hv' (fun h => (hvar h).elim) (ih (by simpa using h))
        | none =>
          rw [remain_not_given hk hv] at h
          have hname : (if moved then { p with kind := .keywordOnly } else p).name = p.name := by
            cases moved <;> rfl
          cases h with
          | cons hv' heq h =>
            rw [hname, refill_positionalOrKeyword hk, refill_positionalOrKeyword hk, hv]
            exact .cons hv' (fun h => (hvar h).elim) (ih (by simpa using h))
      | cons a as =>
        rw [remain_position hp] at h
        rw [refill_position hp, refill_position hp]
        exact .cons (hR a) (fun _ => rfl) (ih h)
    | varPositional =>
      rw [remain_varPositional hk] at h
      cases moved with
      | true =>
        rw [refill_varPositional_moved hk, refill_varPositional_moved hk]
        exact .cons (hR _) (fun _ => rfl) (ih h)
      | false =>
        rw [if_neg (by simp)] at h
        cases h with
        | @cons _ _ v u bs cs hv heq h =>
          obtain rfl := heq (by simp [hk, ParamKind.isVariadic])
          rw [refill_varPositional hk, refill_varPositional hk]
          exact .cons (hR _) (fun _ => rfl) (ih h)
    | keywordOnly =>
      rw [remain_keywordOnly hk] at h
      cases h with
      | cons hv heq h =>
        rw [refill_keywordOnly hk, refill_keywordOnly hk]
        exact .cons hv heq (ih h)
    | varKeyword =>
      rw [remain_varKeyword hk] at h
      cases h with
      | cons hv heq h =>
        rw [refill_varKeyword hk, refill_varKeyword hk]
        exact .cons (hR left) (fun _ => rfl) (ih h)

/-- **Arguments that bind alike complete the call alike.** -/
theorem completed_similar (hR : ∀ v, R v v) (hl : IsLegal ps) (ha : Accepts ps as ks)
    (hn : (kw.map Prod.fst).Nodup) (hn' : (kw'.map Prod.fst).Nodup)
    (h : BindingBy R (remain ks false as ps) (bindArguments (remain ks false as ps) pos kw)
      (bindArguments (remain ks false as ps) pos' kw')) :
    BindingBy R ps (bindArguments ps (as ++ pos) (overrideKeywords ks kw))
      (bindArguments ps (as ++ pos') (overrideKeywords ks kw')) := by
  generalize hx : bindArguments (remain ks false as ps) pos kw = x at h
  generalize hy : bindArguments (remain ks false as ps) pos' kw' = y at h
  cases h with
  | error f =>
    rw [completed_error hl ha hn hx, completed_error hl ha hn' hy]
    exact .error .type
  | ok h =>
    have hsurplus := surplus_eq_of_similar (isLegal_remain hl) h hx hy
    rw [bindArguments_remain hl ha hn, bindArguments_remain hl ha hn', hx, hy,
      clashes_eq_surplus ks hl ha.positions kw,
      clashes_eq_surplus ks hl ha.positions kw', hsurplus]
    split
    · exact .error .type
    · unfold refilled
      rw [surplus_eq_filter_remain ks hl ha.positions kw,
        surplus_eq_filter_remain ks hl ha.positions kw', hsurplus]
      exact .ok (similar_refill hR _ ps h)

end Similar

end Facade.Describe
