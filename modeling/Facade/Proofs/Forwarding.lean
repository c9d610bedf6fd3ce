import Facade.Proofs.Outcome
import Mathlib.Data.List.Nodup

/-!
# Forwarding arguments

A generated method takes its arguments apart by the parameters of the callable behind it and puts
them together again: positional ones by position, the surplus of them starred, those that can be
given by name only by their names, the surplus of named ones with two stars.

* `IsLegal`: the parameter lists that a definition can have.
* `passedPositions`, `passedNames`: the arguments of the forwarded call.
* `bindArguments_passed`: the forwarded call binds every parameter to the value that was passed for
  it, unless a name of the surplus is that of a positional parameter.
* `Similar`, `bindArguments_similar`: parameters that differ in defaults only bind the same arguments.
-/

namespace Facade.Binding

open Syntax (ParamKind)

/-! ## Parameter lists -/

/-- The place of a kind of parameters in a list. -/
def rank : ParamKind → Nat
  | .positionalOnly => 0
  | .positionalOrKeyword => 1
  | .varPositional => 2
  | .keywordOnly => 3
  | .varKeyword => 4

/-- Whether one parameter can stand before another. -/
def Precedes (p q : Parameter) : Prop :=
  rank p.kind ≤ rank q.kind ∧ (p.kind.isVariadic = true → rank p.kind < rank q.kind)

instance (p q : Parameter) : Decidable (Precedes p q) := by unfold Precedes; infer_instance

/-- A parameter list that a definition can have: the kinds stand in order, at most one parameter takes
each surplus, and all names differ. -/
structure IsLegal (ps : List Parameter) : Prop where
  ordered : ps.Pairwise Precedes
  nodup : (ps.map Parameter.name).Nodup

variable {p : Parameter} {ps : List Parameter}

theorem isLegal_cons :
    IsLegal (p :: ps) ↔ (∀ q ∈ ps, Precedes p q) ∧ p.name ∉ ps.map Parameter.name ∧ IsLegal ps := by
  constructor
  · rintro ⟨ho, hn⟩
    rw [List.pairwise_cons] at ho
    rw [List.map_cons, List.nodup_cons] at hn
    exact ⟨ho.1, hn.1, ho.2, hn.2⟩
  · rintro ⟨ho, hn, h⟩
    exact ⟨List.pairwise_cons.mpr ⟨ho, h.ordered⟩, by
      rw [List.map_cons, List.nodup_cons]
      exact ⟨hn, h.nodup⟩⟩

theorem IsLegal.tail (h : IsLegal (p :: ps)) : IsLegal ps := (isLegal_cons.mp h).2.2

theorem isPositional_iff (p : Parameter) : isPositional p = true ↔ rank p.kind ≤ 1 := by
  unfold isPositional
  cases p.kind <;> decide

/-! ## The arguments of the forwarded call -/

/-- The members that a starred argument stands for. -/
def membersOf : Value → List Value
  | .tuple vs => vs
  | _ => []

/-- The arguments that are passed on by position for a parameter. -/
def passedPosition (val : Parameter → Value) (p : Parameter) : List Value :=
  match p.kind with
  | .varPositional => membersOf (val p)
  | .keywordOnly | .varKeyword => []
  | _ => [val p]

/-- The arguments that are passed on by position. -/
def passedPositions (val : Parameter → Value) (ps : List Parameter) : List Value :=
  ps.flatMap (passedPosition val)

/-- The arguments that are passed on by name, the surplus left out. -/
def passedNames (val : Parameter → Value) (ps : List Parameter) : Keywords :=
  ps.filterMap fun p => if p.kind = .keywordOnly then some (p.name, val p) else none

variable {val : Parameter → Value}

theorem passedPositions_eq_nil (h : ∀ q ∈ ps, 2 < rank q.kind) : passedPositions val ps = [] := by
  refine List.flatMap_eq_nil_iff.mpr fun q hq => ?_
  have := h q hq
  cases hk : q.kind <;> rw [hk] at this <;> simp_all [rank, passedPosition]

theorem mem_passedNames {e : String × Value} :
    e ∈ passedNames val ps ↔ ∃ p ∈ ps, p.kind = .keywordOnly ∧ (p.name, val p) = e := by
  simp only [passedNames, List.mem_filterMap]
  constructor
  · rintro ⟨p, hp, h⟩
    split at h
    · exact ⟨p, hp, ‹_›, Option.some.inj h⟩
    · cases h
  · rintro ⟨p, hp, hk, h⟩
    exact ⟨p, hp, by rw [if_pos hk, h]⟩

theorem passedNames_cons (val : Parameter → Value) (p : Parameter) (ps : List Parameter) :
    passedNames val (p :: ps) =
      (if p.kind = .keywordOnly then [(p.name, val p)] else []) ++ passedNames val ps := by
  unfold passedNames
  rw [List.filterMap_cons]
  by_cases hk : p.kind = .keywordOnly <;> simp [hk]

theorem nodup_passedNames (h : (ps.map Parameter.name).Nodup) :
    ((passedNames val ps).map Prod.fst).Nodup := by
  have hsub : ((passedNames val ps).map Prod.fst).Sublist (ps.map Parameter.name) := by
    clear h
    induction ps with
    | nil => exact .slnil
    | cons p ps ih =>
      rw [passedNames_cons, List.map_cons]
      by_cases hk : p.kind = .keywordOnly
      · simpa [hk] using ih
      · simpa [hk] using ih.cons p.name
  exact hsub.nodup h

/-! ## Binding, parameter by parameter -/

section Kinds

variable {all : List Parameter} {kw : Keywords}

theorem bindFrom_position (hp : isPositional p = true) (v : Value) (args : List Value) :
    bindFrom all kw (p :: ps) (v :: args) = if isGivenByName kw p then .error .type
      else (bindFrom all kw ps args).map ((p.name, v) :: ·) := by
  conv_lhs => unfold bindFrom
  cases hk : p.kind <;> simp_all [isPositional]

theorem bindFrom_position_nil (hp : isPositional p = true) :
    bindFrom all kw (p :: ps) [] = (namedOrDefault kw p).elim (.error .type)
      fun v => (bindFrom all kw ps []).map ((p.name, v) :: ·) := by
  conv_lhs => unfold bindFrom
  cases hk : p.kind <;> simp_all [isPositional]

theorem bindFrom_varPositional (hk : p.kind = .varPositional) (args : List Value) :
    bindFrom all kw (p :: ps) args =
      (bindFrom all kw ps []).map ((p.name, .tuple args) :: ·) := by
  conv_lhs => unfold bindFrom
  simp [hk]

theorem bindFrom_keywordOnly (hk : p.kind = .keywordOnly) (args : List Value) :
    bindFrom all kw (p :: ps) args = (namedOrDefault kw p).elim (.error .type)
      fun v => (bindFrom all kw ps args).map ((p.name, v) :: ·) := by
  conv_lhs => unfold bindFrom
  simp [hk]

theorem bindFrom_varKeyword (hk : p.kind = .varKeyword) (args : List Value) :
    bindFrom all kw (p :: ps) args =
      (bindFrom all kw ps args).map ((p.name, Value.dictOfNames (surplus all kw)) :: ·) := by
  conv_lhs => unfold bindFrom
  simp [hk]

theorem map_eq_error {r : Except Fault (List (String × Value))} {x : String × Value} {f : Fault}
    (h : r.map (x :: ·) = .error f) : r = .error f := by
  cases r with
  | error e => simpa [Except.map] using h
  | ok cs => simp [Except.map] at h

theorem map_eq_ok {r : Except Fault (List (String × Value))} {x : String × Value}
    {bs : List (String × Value)} (h : r.map (x :: ·) = .ok bs) : ∃ cs, r = .ok cs ∧ bs = x :: cs := by
  cases r with
  | error e => simp [Except.map] at h
  | ok cs => exact ⟨cs, rfl, by simpa [Except.map] using h.symm⟩

theorem bindFrom_error (ps : List Parameter) : ∀ {args : List Value} {f : Fault},
    bindFrom all kw ps args = .error f → f = .type := by
  induction ps with
  | nil => intro args f h; simp [bindFrom] at h
  | cons p ps ih =>
    intro args f h
    have named {args : List Value} (h : (namedOrDefault kw p).elim (Except.error Fault.type)
        (fun v => (bindFrom all kw ps args).map ((p.name, v) :: ·)) = .error f) : f = .type := by
      cases hv : namedOrDefault kw p with
      | none => rw [hv] at h; simpa using h.symm
      | some v => rw [hv] at h; exact ih (map_eq_error h)
    by_cases hp : isPositional p = true
    · cases args with
      | nil => exact named (by rwa [bindFrom_position_nil hp] at h)
      | cons v args =>
        rw [bindFrom_position hp] at h
        split at h
        · simpa using h.symm
        · exact ih (map_eq_error h)
    · cases hk : p.kind with
      | positionalOnly | positionalOrKeyword => simp [isPositional, hk] at hp
      | varPositional => exact ih (map_eq_error (bindFrom_varPositional hk _ ▸ h))
      | keywordOnly => exact named (by rwa [bindFrom_keywordOnly hk] at h)
      | varKeyword => exact ih (map_eq_error (bindFrom_varKeyword hk _ ▸ h))

/-- What a parameter can be bound to: a surplus by position is a list, and the surplus by name is what no
parameter takes by its name. -/
structure BoundTo (all : List Parameter) (kw : Keywords) (p : Parameter) (b : String × Value) :
    Prop where
  name : b.1 = p.name
  positions : p.kind = .varPositional → ∃ vs, b.2 = .tuple vs
  names : p.kind = .varKeyword → b.2 = Value.dictOfNames (surplus all kw)

theorem bindFrom_boundTo (ps : List Parameter) :
    ∀ {args : List Value} {bs : List (String × Value)}, bindFrom all kw ps args = .ok bs →
      List.Forall₂ (BoundTo all kw) ps bs := by
  induction ps with
  | nil =>
    intro args bs h
    obtain rfl := Except.ok.inj h
    exact .nil
  | cons p ps ih =>
    intro args bs h
    have later {v : Value} {args : List Value}
        (hs : p.kind = .varPositional → ∃ vs, v = .tuple vs)
        (hn : p.kind = .varKeyword → v = Value.dictOfNames (surplus all kw))
        (h : (bindFrom all kw ps args).map ((p.name, v) :: ·) = .ok bs) :
        List.Forall₂ (BoundTo all kw) (p :: ps) bs := by
      obtain ⟨cs, hcs, rfl⟩ := map_eq_ok h
      exact .cons ⟨rfl, hs, hn⟩ (ih hcs)
    have named {args : List Value} (hs : p.kind ≠ .varPositional) (hn : p.kind ≠ .varKeyword)
        (h : (namedOrDefault kw p).elim (.error .type)
          (fun v => (bindFrom all kw ps args).map ((p.name, v) :: ·)) = .ok bs) :
        List.Forall₂ (BoundTo all kw) (p :: ps) bs := by
      cases hv : namedOrDefault kw p with
      | none => rw [hv] at h; cases h
      | some v => rw [hv] at h; exact later (absurd · hs) (absurd · hn) h
    by_cases hp : isPositional p = true
    · have hs : p.kind ≠ .varPositional := fun hk => by simp [isPositional, hk] at hp
      have hn : p.kind ≠ .varKeyword := fun hk => by simp [isPositional, hk] at hp
      cases args with
      | nil => rw [bindFrom_position_nil hp] at h; exact named hs hn h
      | cons v args =>
        rw [bindFrom_position hp] at h
        split at h
        · cases h
        · exact later (absurd · hs) (absurd · hn) h
    · cases hk : p.kind with
      | positionalOnly | positionalOrKeyword => simp [isPositional, hk] at hp
      | varPositional =>
        rw [bindFrom_varPositional hk] at h
        exact later (fun _ => ⟨_, rfl⟩) (by simp [hk]) h
      | keywordOnly => rw [bindFrom_keywordOnly hk] at h; exact named (by simp [hk]) (by simp [hk]) h
      | varKeyword => rw [bindFrom_varKeyword hk] at h; exact later (by simp [hk]) (fun _ => rfl) h

end Kinds

/-- Binding fails in one way only. -/
theorem bindArguments_error {args : List Value} {kw : Keywords} {f : Fault}
    (h : bindArguments ps args kw = .error f) : f = .type := by
  unfold bindArguments at h
  split at h
  · simpa using h.symm
  · split at h
    · simpa using h.symm
    · exact bindFrom_error ps h

/-! ## Binding what was passed on -/

/-- What is passed on for a parameter arrives there. -/
structure Arrives (all : List Parameter) (kw : Keywords) (val : Parameter → Value)
    (p : Parameter) : Prop where
  /-- What goes by position is not given by name as well. -/
  position : isPositional p = true → isGivenByName kw p = false
  /-- What goes by name only is given by its name. -/
  name : p.kind = .keywordOnly → kw.find? (fun e => e.1 == p.name) = some (p.name, val p)
  /-- The surplus by position is a list. -/
  positions : p.kind = .varPositional → ∃ vs, val p = .tuple vs
  /-- The surplus by name is what is left of the names. -/
  names : p.kind = .varKeyword → val p = Value.dictOfNames (surplus all kw)

theorem passedPositions_cons_of_isPositional (hp : isPositional p = true) :
    passedPositions val (p :: ps) = val p :: passedPositions val ps := by
  unfold passedPositions
  rw [List.flatMap_cons]
  cases hk : p.kind <;> simp_all [isPositional, passedPosition]

/-- Behind the parameters that take arguments by position, nothing is passed on by position. -/
theorem passedPositions_eq_nil_of_pairwise (h : (p :: ps).Pairwise Precedes)
    (hp : isPositional p = false) : passedPositions val ps = [] := by
  rw [List.pairwise_cons] at h
  refine passedPositions_eq_nil fun q hq => ?_
  obtain ⟨hle, hlt⟩ := h.1 q hq
  cases hk : p.kind <;> simp_all [isPositional, rank, ParamKind.isVariadic]
  all_goals omega

theorem bindFrom_passed {all : List Parameter} {kw : Keywords} (ps : List Parameter)
    (hl : ps.Pairwise Precedes) (h : ∀ p ∈ ps, Arrives all kw val p) :
    bindFrom all kw ps (passedPositions val ps) = .ok (ps.map fun p => (p.name, val p)) := by
  induction ps with
  | nil => rfl
  | cons p ps ih =>
    have hp := h p List.mem_cons_self
    have hps := ih (List.pairwise_cons.mp hl).2 fun q hq => h q (List.mem_cons_of_mem p hq)
    by_cases hpos : isPositional p = true
    · rw [passedPositions_cons_of_isPositional hpos, bindFrom_position hpos, hp.position hpos, hps]
      rfl
    · have hnil : passedPositions val ps = [] :=
        passedPositions_eq_nil_of_pairwise hl (by simpa using hpos)
      have hcons : passedPositions val (p :: ps) = passedPosition val p := by
        rw [passedPositions, List.flatMap_cons, ← passedPositions, hnil, List.append_nil]
      rw [hnil] at hps
      cases hk : p.kind with
      | positionalOnly | positionalOrKeyword => simp [isPositional, hk] at hpos
      | varPositional =>
        obtain ⟨vs, hvs⟩ := hp.positions hk
        rw [bindFrom_varPositional hk, hps, hcons]
        simp [passedPosition, hk, hvs, membersOf, Except.map]
      | keywordOnly =>
        have hv : namedOrDefault kw p = some (val p) := by
          simp [namedOrDefault, isNamed, hk, hp.name hk]
        rw [bindFrom_keywordOnly hk, hv, hcons]
        simp [passedPosition, hk, hps, Except.map]
      | varKeyword =>
        rw [bindFrom_varKeyword hk, hcons, ← hp.names hk]
        simp [passedPosition, hk, hps, Except.map]

theorem length_passedPositions (h : hasKind .varPositional ps = false) :
    (passedPositions val ps).length = (ps.filter isPositional).length := by
  induction ps with
  | nil => rfl
  | cons p ps ih =>
    simp only [hasKind, List.any_cons, Bool.or_eq_false_iff, decide_eq_false_iff_not] at h
    have hps := ih (by simpa [hasKind] using h.2)
    by_cases hp : isPositional p = true
    · rw [passedPositions_cons_of_isPositional hp, List.filter_cons_of_pos hp]
      simp [hps]
    · rw [passedPositions, List.flatMap_cons, ← passedPositions, List.filter_cons_of_neg hp,
        List.length_append, hps]
      cases hk : p.kind <;> simp_all [passedPosition, isPositional]

theorem find?_of_mem_of_nodup {l : Keywords} (h : (l.map Prod.fst).Nodup) {e : String × Value}
    (he : e ∈ l) : l.find? (fun x => x.1 == e.1) = some e := by
  induction l with
  | nil => simp at he
  | cons x l ih =>
    rw [List.map_cons, List.nodup_cons] at h
    rcases List.mem_cons.mp he with rfl | hmem
    · simp
    · have hne : x.1 ≠ e.1 := fun hxe => h.1 (hxe ▸ List.mem_map_of_mem hmem)
      rw [List.find?_cons_of_neg (by simpa using hne)]
      exact ih h.2 hmem

/-- What a parameter list passes on fits together: each surplus comes as what it is, and no name of
the surplus is that of a parameter that is passed on by name. -/
structure Passable (ps : List Parameter) (val : Parameter → Value) (left : Keywords) : Prop where
  positions : ∀ p ∈ ps, p.kind = .varPositional → ∃ vs, val p = .tuple vs
  names : ∀ p ∈ ps, p.kind = .varKeyword → val p = Value.dictOfNames left
  absent : hasKind .varKeyword ps = false → left = []
  apart : ∀ e ∈ left, ∀ p ∈ ps, p.kind = .keywordOnly → p.name ≠ e.1

variable {left : Keywords}

theorem surplus_passed (h : Passable ps val left)
    (hclash : ∀ e ∈ left, ∀ p ∈ ps, p.kind = .positionalOrKeyword → p.name ≠ e.1) :
    surplus ps (passedNames val ps ++ left) = left := by
  unfold surplus
  rw [List.filter_append]
  have hnames : (passedNames val ps).filter
      (fun e => !(ps.any fun p => isNamed p && p.name == e.1)) = [] := by
    refine List.filter_eq_nil_iff.mpr fun e he => ?_
    obtain ⟨p, hp, hk, rfl⟩ := mem_passedNames.mp he
    have : ps.any (fun q => isNamed q && q.name == p.name) = true :=
      List.any_eq_true.mpr ⟨p, hp, by simp [isNamed, hk]⟩
    simp [this]
  have hleft : left.filter (fun e => !(ps.any fun p => isNamed p && p.name == e.1)) = left := by
    refine List.filter_eq_self.mpr fun e he => ?_
    rw [Bool.not_eq_true', List.any_eq_false]
    intro p hp
    have hko := h.apart e he p hp
    have hpk := hclash e he p hp
    cases hk : p.kind <;> simp_all [isNamed]
  rw [hnames, hleft, List.nil_append]

theorem bindArguments_of_checks {args : List Value} {kw : Keywords}
    (hlen : hasKind .varPositional ps = false → args.length ≤ (ps.filter isPositional).length)
    (hleft : hasKind .varKeyword ps = false → surplus ps kw = []) :
    bindArguments ps args kw = bindFrom ps kw ps args := by
  unfold bindArguments
  have h₁ : ¬ (!hasKind .varPositional ps &&
      decide ((ps.filter isPositional).length < args.length)) = true := by
    intro hc
    simp only [Bool.and_eq_true, Bool.not_eq_true', decide_eq_true_eq] at hc
    have := hlen hc.1
    omega
  have h₂ : ¬ (!hasKind .varKeyword ps && !(surplus ps kw).isEmpty) = true := by
    intro hc
    simp only [Bool.and_eq_true, Bool.not_eq_true'] at hc
    simp [hleft hc.1] at hc
  rw [if_neg h₁, if_neg h₂]

/-- **What is passed on arrives.** If no name of the surplus is that of a parameter, every parameter
gets the value that was passed for it. -/
theorem bindArguments_passed (hl : IsLegal ps) (h : Passable ps val left)
    (hclash : ∀ e ∈ left, ∀ p ∈ ps, p.kind = .positionalOrKeyword → p.name ≠ e.1) :
    bindArguments ps (passedPositions val ps) (passedNames val ps ++ left) =
      .ok (ps.map fun p => (p.name, val p)) := by
  have hsurplus := surplus_passed h hclash
  rw [bindArguments_of_checks (fun hv => Nat.le_of_eq (length_passedPositions hv))
    (fun hv => hsurplus.trans (h.absent hv))]
  refine bindFrom_passed ps hl.ordered fun p hp => ⟨fun hpos => ?_, fun hk => ?_, h.positions p hp,
    fun hk => by rw [hsurplus, h.names p hp hk]⟩
  · -- A positional parameter is neither passed on by name nor named by the surplus.
    unfold isGivenByName
    cases hk : p.kind with
    | positionalOnly => simp [isNamed, hk]
    | positionalOrKeyword =>
      rw [Bool.and_eq_false_iff]
      refine .inr (List.any_eq_false.mpr fun e he => ?_)
      rcases List.mem_append.mp he with he | he
      · obtain ⟨q, hq, hqk, rfl⟩ := mem_passedNames.mp he
        have hne : q.name ≠ p.name := fun hn => by
          have := List.inj_on_of_nodup_map hl.nodup hq hp hn
          rw [this, hk] at hqk
          cases hqk
        simpa using hne
      · simpa using (hclash e he p hp hk).symm
    | varPositional | keywordOnly | varKeyword => simp [isPositional, hk] at hpos
  · rw [List.find?_append, find?_of_mem_of_nodup (nodup_passedNames hl.nodup)
      (mem_passedNames.mpr ⟨p, hp, hk, rfl⟩)]
    rfl

/-! ## Defaults that differ -/

/-- Parameters that differ in annotations, and in defaults by a relation between values. What takes a
surplus has no use for a default. -/
structure ParameterBy (R : Value → Value → Prop) (p q : Parameter) : Prop where
  name : p.name = q.name
  kind : p.kind = q.kind
  default : p.kind.isVariadic = false → Option.Rel R p.default q.default

/-- Bindings of the same parameters that differ by a relation between values; each surplus is the same
in both. -/
inductive Similar (R : Value → Value → Prop) :
    List Parameter → List (String × Value) → List (String × Value) → Prop
  | nil : Similar R [] [] []
  | cons {p : Parameter} {ps : List Parameter} {v u : Value} {bs cs : List (String × Value)}
    (hv : R v u) (heq : p.kind.isVariadic = true → v = u) (h : Similar R ps bs cs) :
    Similar R (p :: ps) ((p.name, v) :: bs) ((p.name, u) :: cs)

/-- Bindings that both fail, or both succeed and are similar. -/
inductive BindingBy (R : Value → Value → Prop) (ps : List Parameter) :
    Except Fault (List (String × Value)) → Except Fault (List (String × Value)) → Prop
  | ok {bs cs : List (String × Value)} (h : Similar R ps bs cs) : BindingBy R ps (.ok bs) (.ok cs)
  | error (f : Fault) : BindingBy R ps (.error f) (.error f)

section Similar

variable {R : Value → Value → Prop} {qs : List Parameter} {q : Parameter} {kw : Keywords}

theorem isNamed_eq (h : ParameterBy R p q) : isNamed p = isNamed q := by
  simp only [isNamed, h.kind]

theorem isPositional_eq (h : ParameterBy R p q) : isPositional p = isPositional q := by
  simp only [isPositional, h.kind]

theorem isVariadic_of_isPositional (hp : isPositional p = true) : p.kind.isVariadic = false := by
  unfold isPositional at hp
  cases hk : p.kind <;> simp_all [ParamKind.isVariadic]

theorem isGivenByName_congr (h : ParameterBy R p q) : isGivenByName kw p = isGivenByName kw q := by
  rw [isGivenByName, isGivenByName, isNamed_eq h, h.name]

theorem hasKind_eq (h : List.Forall₂ (ParameterBy R) ps qs) (k : ParamKind) :
    hasKind k ps = hasKind k qs := by
  unfold hasKind
  induction h with
  | nil => rfl
  | cons h _ ih => rw [List.any_cons, List.any_cons, ih, h.kind]

theorem length_filter_isPositional_eq (h : List.Forall₂ (ParameterBy R) ps qs) :
    (ps.filter isPositional).length = (qs.filter isPositional).length := by
  induction h with
  | nil => rfl
  | cons h _ ih =>
    rw [List.filter_cons, List.filter_cons, isPositional_eq h]
    split <;> simp [ih]

theorem surplus_eq (h : List.Forall₂ (ParameterBy R) ps qs) (kw : Keywords) :
    surplus ps kw = surplus qs kw := by
  refine List.filter_congr fun e _ => congrArg Bool.not ?_
  induction h with
  | nil => rfl
  | cons h _ ih => rw [List.any_cons, List.any_cons, ih, isNamed_eq h, h.name]

theorem rel_namedOrDefault (hR : ∀ v, R v v) (h : ParameterBy R p q)
    (hk : p.kind.isVariadic = false) :
    Option.Rel R (namedOrDefault kw p) (namedOrDefault kw q) := by
  unfold namedOrDefault
  rw [← isNamed_eq h, ← h.name]
  cases (if isNamed p then kw.find? fun e => e.1 == p.name else none).map Prod.snd with
  | none => simpa using h.default hk
  | some v => simpa using Option.Rel.some (hR v)

theorem BindingBy.map {r s : Except Fault (List (String × Value))} (h : BindingBy R ps r s)
    {v u : Value} (hv : R v u) (heq : p.kind.isVariadic = true → v = u) :
    BindingBy R (p :: ps) (r.map ((p.name, v) :: ·)) (s.map ((p.name, u) :: ·)) := by
  cases h with
  | ok h => exact .ok (.cons hv heq h)
  | error f => exact .error f

theorem BindingBy.elim {a b : Option Value} (h : Option.Rel R a b)
    {f g : Value → Except Fault (List (String × Value))}
    (hfg : ∀ v u, R v u → BindingBy R ps (f v) (g u)) :
    BindingBy R ps (a.elim (.error .type) f) (b.elim (.error .type) g) := by
  cases h with
  | none => exact .error .type
  | some h => exact hfg _ _ h

theorem bindFrom_similar {all als : List Parameter} (hR : ∀ v, R v v)
    (hall : List.Forall₂ (ParameterBy R) all als) (h : List.Forall₂ (ParameterBy R) ps qs) :
    ∀ args : List Value, BindingBy R ps (bindFrom all kw ps args) (bindFrom als kw qs args) := by
  induction h with
  | nil => intro args; exact .ok .nil
  | @cons p q ps qs hpq _ ih =>
    intro args
    have hname := hpq.name
    by_cases hp : isPositional p = true
    · have hq : isPositional q = true := isPositional_eq hpq ▸ hp
      have hvar := isVariadic_of_isPositional hp
      cases args with
      | nil =>
        rw [bindFrom_position_nil hp, bindFrom_position_nil hq, ← hname]
        exact .elim (rel_namedOrDefault hR hpq hvar) fun v u hv =>
          (ih []).map hv fun h => by rw [hvar] at h; cases h
      | cons v args =>
        rw [bindFrom_position hp, bindFrom_position hq, ← hname, ← isGivenByName_congr hpq]
        split
        · exact .error .type
        · exact (ih args).map (hR v) fun _ => rfl
    · have hkind := hpq.kind
      cases hk : p.kind with
      | positionalOnly | positionalOrKeyword => simp [isPositional, hk] at hp
      | varPositional =>
        rw [bindFrom_varPositional hk, bindFrom_varPositional (hkind ▸ hk), ← hname]
        exact (ih []).map (hR _) fun _ => rfl
      | keywordOnly =>
        have hvar : p.kind.isVariadic = false := by simp [hk, ParamKind.isVariadic]
        rw [bindFrom_keywordOnly hk, bindFrom_keywordOnly (hkind ▸ hk), ← hname]
        exact .elim (rel_namedOrDefault hR hpq hvar) fun v u hv =>
          (ih args).map hv fun h => by rw [hvar] at h; cases h
      | varKeyword =>
        rw [bindFrom_varKeyword hk, bindFrom_varKeyword (hkind ▸ hk), ← hname, surplus_eq hall]
        exact (ih args).map (hR _) fun _ => rfl

/-- **Defaults do not decide what binds.** Parameters that differ in defaults bind the same arguments,
and similarly. -/
theorem bindArguments_similar (hR : ∀ v, R v v) (h : List.Forall₂ (ParameterBy R) ps qs)
    (args : List Value) (kw : Keywords) :
    BindingBy R ps (bindArguments ps args kw) (bindArguments qs args kw) := by
  unfold bindArguments
  rw [hasKind_eq h, hasKind_eq h, length_filter_isPositional_eq h, surplus_eq h]
  split
  · exact .error .type
  · split
    · exact .error .type
    · exact bindFrom_similar hR h h args

theorem Similar.map_fst {bs cs : List (String × Value)} (h : Similar R ps bs cs) :
    bs.map Prod.fst = ps.map Parameter.name ∧ cs.map Prod.fst = ps.map Parameter.name := by
  induction h with
  | nil => exact ⟨rfl, rfl⟩
  | cons _ _ _ ih => simp [ih.1, ih.2]

/-- What takes a surplus has the same value in similar bindings. -/
theorem Similar.eq_of_isVariadic {bs cs : List (String × Value)} (h : Similar R ps bs cs)
    (hn : (ps.map Parameter.name).Nodup) (hp : p ∈ ps) (hk : p.kind.isVariadic = true) {v u : Value}
    (hv : (p.name, v) ∈ bs) (hu : (p.name, u) ∈ cs) : v = u := by
  induction h with
  | nil => simp at hp
  | @cons q qs v' u' bs cs hvu heq h ih =>
    rw [List.map_cons, List.nodup_cons] at hn
    have hnot {ds : List (String × Value)} (hd : ds.map Prod.fst = qs.map Parameter.name)
        {x : Value} : (q.name, x) ∉ ds := fun hx =>
      hn.1 (hd ▸ List.mem_map_of_mem (f := Prod.fst) hx)
    rcases List.mem_cons.mp hp with rfl | hp
    · have hv' : v = v' := by
        rcases List.mem_cons.mp hv with he | hv
        · simpa using he
        · exact absurd hv (hnot h.map_fst.1)
      have hu' : u = u' := by
        rcases List.mem_cons.mp hu with he | hu
        · simpa using he
        · exact absurd hu (hnot h.map_fst.2)
      rw [hv', hu', heq hk]
    · have hne : p.name ≠ q.name := fun he => hn.1 (he ▸ List.mem_map_of_mem hp)
      refine ih hn.2 hp ?_ ?_
      · exact (List.mem_cons.mp hv).resolve_left fun he => hne (Prod.mk.inj he).1
      · exact (List.mem_cons.mp hu).resolve_left fun he => hne (Prod.mk.inj he).1

theorem mem_bindFrom_varKeyword {all : List Parameter} (hk : p.kind = .varKeyword)
    (ps : List Parameter) (hp : p ∈ ps) {args : List Value} {bs : List (String × Value)}
    (h : bindFrom all kw ps args = .ok bs) : (p.name, Value.dictOfNames (surplus all kw)) ∈ bs := by
  obtain ⟨b, hb, hbound⟩ := Run.exists_of_forall₂ (bindFrom_boundTo ps h) hp
  have he : b = (p.name, Value.dictOfNames (surplus all kw)) := Prod.ext hbound.name (hbound.names hk)
  exact he ▸ hb

theorem bindArguments_eq_ok {args : List Value} {bs : List (String × Value)}
    (h : bindArguments ps args kw = .ok bs) :
    bindFrom ps kw ps args = .ok bs ∧ (hasKind .varKeyword ps = false → surplus ps kw = []) := by
  unfold bindArguments at h
  split at h
  · cases h
  · split at h
    · cases h
    · rename_i hc
      exact ⟨h, fun hk => by simpa [hk] using hc⟩

theorem dictOfNames_inj {ks js : Keywords} (h : Value.dictOfNames ks = Value.dictOfNames js) :
    ks = js := by
  refine List.map_injective_iff.mpr ?_ (Value.dict.inj h)
  rintro ⟨a, b⟩ ⟨c, d⟩ he
  simpa using he

/-- Similar bindings have the same surplus of names. -/
theorem surplus_eq_of_similar {kw' : Keywords} (hl : IsLegal ps) {args args' : List Value}
    {bs cs : List (String × Value)} (h : Similar R ps bs cs)
    (hb : bindArguments ps args kw = .ok bs) (hc : bindArguments ps args' kw' = .ok cs) :
    surplus ps kw = surplus ps kw' := by
  obtain ⟨hb, hb'⟩ := bindArguments_eq_ok hb
  obtain ⟨hc, hc'⟩ := bindArguments_eq_ok hc
  cases hk : hasKind .varKeyword ps with
  | false => rw [hb' hk, hc' hk]
  | true =>
    obtain ⟨p, hp, hpk⟩ := List.any_eq_true.mp hk
    rw [decide_eq_true_eq] at hpk
    exact dictOfNames_inj (h.eq_of_isVariadic hl.nodup hp (by simp [hpk, ParamKind.isVariadic])
      (mem_bindFrom_varKeyword hpk ps hp hb) (mem_bindFrom_varKeyword hpk ps hp hc))

end Similar

/-! ## The receiver -/

/-- **The receiver comes first.** If it is not given by name, a method binds its other parameters as if
it had no receiver. -/
theorem bindArguments_receiver {r : Parameter} (hr : isPositional r = true) (v : Value)
    (args : List Value) {kw : Keywords} (hkw : ∀ e ∈ kw, e.1 ≠ r.name) :
    bindArguments (r :: ps) (v :: args) kw = (bindArguments ps args kw).map ((r.name, v) :: ·) := by
  have hsurplus : surplus (r :: ps) kw = surplus ps kw := by
    refine List.filter_congr fun e he => ?_
    have : (r.name == e.1) = false := by simpa using (hkw e he).symm
    rw [List.any_cons, this, Bool.and_false, Bool.false_or]
  have hkind (k : ParamKind) (hk : 2 ≤ rank k) : hasKind k (r :: ps) = hasKind k ps := by
    have : r.kind ≠ k := by
      rintro rfl
      rw [isPositional_iff] at hr
      omega
    simp [hasKind, this]
  have hgiven : isGivenByName kw r = false := by
    rw [isGivenByName, Bool.and_eq_false_iff]
    exact .inr (List.any_eq_false.mpr fun e he => by simpa using hkw e he)
  have hfrom : ∀ ps' args, bindFrom (r :: ps) kw ps' args = bindFrom ps kw ps' args := by
    intro ps'
    induction ps' with
    | nil => intro args; rfl
    | cons q qs ih =>
      intro args
      conv_lhs => unfold bindFrom
      conv_rhs => unfold bindFrom
      simp only [ih, hsurplus]
  unfold bindArguments
  rw [hkind _ (by decide), hkind _ (by decide), hsurplus, List.filter_cons_of_pos hr,
    bindFrom_position hr, hgiven, hfrom]
  simp only [List.length_cons, Nat.add_lt_add_iff_right]
  split
  · rfl
  · split <;> rfl

end Facade.Binding
