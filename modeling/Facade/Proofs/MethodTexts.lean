import Facade.Proofs.ParameterTexts
import Facade.Proofs.PlanHistories
import Facade.Proofs.PropertyNames
import Facade.Proofs.Rereading
import Facade.Proofs.Writing

/-!
# Texts of generated methods

However the parameters of a method are routed and renamed, what is written of it can be read: its
parameter list is the receiver and the parameters that are left, and the forwarded call has one argument
for each parameter.

* `methodParams_succeeds`: the parameters of a method are written while the cache has room.
* `ConvertedMethod.IsRouted`: a legal parameter list after routing.
* `ConvertedMethod.IsRouted.paramsWritten`: what is written of it can be read.
* `ConvertedMethod.IsRouted.reads_call`: the text of the forwarded call is read as the call.
-/

namespace Facade.Conversion

open Run Execution Syntax
open Binding (rank)
open Facade.Describe (ParameterInfo)

variable {p : Plan} {c k : Nat} {b w w' : World}

/-! ## Writing succeeds -/

theorem methodParam_succeeds (hp : p.cache = some c) (h : Room c (k + 1) w) (q : ConvertedParameter) :
    ∃ r w', (p.methodParam q).outcome w = (.ok r, w') ∧ Room c k w' := by
  unfold Plan.methodParam
  rw [outcome_get_bind]
  dsimp only
  split
  · exact ⟨_, w, rfl, h.mono (by omega)⟩
  · cases q.parameter.default with
    | none => exact ⟨_, w, rfl, h.mono (by omega)⟩
    | some v =>
      obtain ⟨e, w', he, hroom⟩ := defaultExpr_succeeds hp h v
      have hmap : (Option.mapM p.defaultExpr (some v)).outcome w = (.ok (some e), w') := by
        rw [Option.mapM_some, map_eq_pure_bind, outcome_bind_of_ok he, outcome_pure]
      exact ⟨_, w', outcome_bind_of_ok hmap, hroom⟩

/-- **The parameters of a method are written while the cache has room for their defaults.** -/
theorem methodParams_succeeds (hp : p.cache = some c) {m : ConvertedMethod}
    (h : Room c m.methodParameters.length w) :
    ∃ rs w', (p.methodParams m).outcome w = (.ok rs, w') := by
  obtain ⟨rs, w', hrs⟩ := mapM_succeeds (R := Room c) m.methodParameters
    (fun q _ k w hw => methodParam_succeeds hp hw q) h
  unfold Plan.methodParams
  exact ⟨_, w', outcome_bind_of_ok hrs⟩

/-! ## Routing -/

/-- A method whose parameters a definition can have, after they were routed and renamed: those that are
left differ from each other and from the receiver. All names stand for themselves, since a name that is
not in normal form is read as another one. -/
structure ConvertedMethod.IsRouted (m : ConvertedMethod) : Prop where
  ordered : m.parameters.Pairwise fun p q => rank p.parameter.kind ≤ rank q.parameter.kind ∧
    (p.parameter.kind.isVariadic = true → rank p.parameter.kind < rank q.parameter.kind)
  defaulted : m.parameters.Pairwise fun p q => rank q.parameter.kind ≤ 1 →
    p.parameter.default.isSome = true → q.parameter.default.isSome = true
  originals : (m.parameters.map fun p => p.parameter.name).Nodup
  stated : ∀ p ∈ m.parameters, Text.isPlainName p.parameter.name = true ∧ p.parameter.name ≠ unbindable
  names : ∀ p ∈ m.parameters, Text.isPlainName p.name = true
  bound : ∀ p ∈ m.methodParameters, p.name ≠ unbindable
  distinct : ("self" :: m.methodParameters.map ConvertedParameter.name).Nodup

variable {m : ConvertedMethod} {ps : List Param}

/-! ## Parameter lists -/

/-- Lists that are related member by member keep what holds between members. -/
theorem pairwise_of_forall₂ {α β : Type} {R : α → β → Prop} {P : α → α → Prop} {Q : β → β → Prop}
    {as : List α} {bs : List β} (h : List.Forall₂ R as bs)
    (hPQ : ∀ {a a' b b'}, R a b → R a' b' → P a a' → Q b b') (hP : as.Pairwise P) : bs.Pairwise Q := by
  induction h with
  | nil => exact .nil
  | cons hab htail ih =>
    rw [List.pairwise_cons] at hP ⊢
    refine ⟨fun b' hb' => ?_, ih hP.2⟩
    obtain ⟨a', ha', hab'⟩ := exists_of_forall₂_right htail hb'
    exact hPQ hab hab' (hP.1 a' ha')

theorem isOperand_cachedValue (u : Uuid) : IsOperand (cachedValue u) where
  reads := operandReads_cachedValue u
  text := rfl
  notConst := by simp [cachedValue]
  unspelled := rfl
  sound := by
    have hnames : Text.isIdentifier cacheGlobal = true ∧ Text.isIdentifier "get" = true := by decide
    simp [cachedValue, Expr.isSound, Expr.areSound, Expr.areSoundKeywords, Expr.str, hnames, areDistinct]

theorem isWritten_stored {v : Value} {e : Expr} (h : Stored c w v e) : IsWritten e := by
  rcases h with hlit | ⟨u, rfl, -, -⟩
  · exact isWritten_literal? hlit
  · exact (isOperand_cachedValue u).isWritten (by simp [cachedValue])

theorem Writes.isWritten {cls : Option String} {q : ConvertedParameter} {r : Param}
    (h : Writes c b w cls q r) (hname : Text.isPlainName q.name = true)
    (hwritable : Hint.isWritable (q.parameter.hint.getD Standard.empty) = true) : r.IsWritten where
  name := h.name ▸ hname
  hint e he := by
    obtain ⟨v, -, rfl⟩ := h.hint e he
    exact (Hint.isWritten_spell _ hwritable).readable
  default e he := by
    have hdefault := h.default
    rw [Option.mem_def.mp he] at hdefault
    generalize (if q.parameter.kind.isVariadic then none else q.parameter.default) = o at hdefault
    cases hdefault with
    | some hstored => exact (isWritten_stored hstored).readable
  hinted _ := h.hinted
  variadic hv := by
    have hdefault := h.default
    rw [if_pos (h.kind ▸ hv)] at hdefault
    generalize r.default = o at hdefault
    cases hdefault
    rfl

theorem isWritten_receiver (k : ParamKind) (hk : k.isVariadic = false) : (Plan.receiver k).IsWritten where
  name := by
    show Text.isPlainName "self" = true
    decide
  hint e he := by cases he
  default e he := by cases he
  hinted h := by cases h
  variadic h := by
    rw [show (Plan.receiver k).kind = k from rfl, hk] at h
    cases h

/-- The receiver can stand before the parameters of its method. -/
theorem rank_receiver_le (ps : List Param) : ∀ q ∈ ps, rank (receiverKind ps) ≤ rank q.kind := by
  intro q hq
  unfold receiverKind
  split
  · exact Nat.zero_le _
  · rename_i hany
    have hne : q.kind ≠ .positionalOnly := fun hk => hany (List.any_eq_true.mpr ⟨q, hq, decide_eq_true hk⟩)
    cases hk : q.kind <;> simp [hk, rank] at hne ⊢

/-- The receiver is given by position only if another parameter is. -/
theorem any_receiverKind (ps : List Param) :
    (decide ((Plan.receiver (receiverKind ps)).kind = .positionalOnly) ||
      ps.any fun q => q.kind = .positionalOnly) = ps.any fun q => q.kind = .positionalOnly := by
  unfold receiverKind
  cases ps.any fun q => q.kind = .positionalOnly <;> rfl

theorem isVariadic_receiverKind (ps : List Param) : (receiverKind ps).isVariadic = false := by
  unfold receiverKind
  split <;> rfl

/-- **What is written for the parameters of a routed method can be read.** -/
theorem ConvertedMethod.IsRouted.paramsWritten {cls : Option String} (h : m.IsRouted)
    (hps : List.Forall₂ (Writes c b w cls) m.methodParameters ps)
    (hwritable : ∀ q ∈ m.methodParameters,
      Hint.isWritable (q.parameter.hint.getD Standard.empty) = true) :
    ParamsWritten (Plan.receiver (receiverKind ps) :: ps) where
  written := by
    refine List.forall_mem_cons.mpr ⟨isWritten_receiver _ (isVariadic_receiverKind ps), fun r hr => ?_⟩
    obtain ⟨q, hq, hqr⟩ := exists_of_forall₂_right hps hr
    exact hqr.isWritten (h.names q (List.mem_of_mem_filter hq)) (hwritable q hq)
  ordered := by
    refine List.pairwise_cons.mpr ⟨fun r hr => ⟨rank_receiver_le ps r hr, fun hv => ?_⟩, ?_⟩
    · rw [show (Plan.receiver (receiverKind ps)).kind = receiverKind ps from rfl,
        isVariadic_receiverKind] at hv
      cases hv
    · refine pairwise_of_forall₂ hps (fun hq hq' hle => ?_) (h.ordered.sublist List.filter_sublist)
      rw [hq.kind, hq'.kind]
      exact hle
  defaulted := by
    refine List.pairwise_cons.mpr ⟨fun r _ _ hd => (by cases hd), ?_⟩
    refine pairwise_of_forall₂ hps (fun hq hq' hle hrank hd => ?_) (h.defaulted.sublist List.filter_sublist)
    rw [hq'.kind] at hrank
    have hvariadic : ∀ k : ParamKind, rank k ≤ 1 → k.isVariadic = false := by
      rintro (_ | _ | _ | _ | _) hk <;> simp [rank, ParamKind.isVariadic] at hk ⊢
    rw [isSome_eq_of_rel hq'.default, if_neg (by simp [hvariadic _ hrank])]
    refine hle hrank ?_
    rw [isSome_eq_of_rel hq.default] at hd
    split at hd
    · cases hd
    · exact hd

/-! ## The forwarded call -/

section Arguments

variable {q : ConvertedParameter} {qs : List ConvertedParameter} (i : Describe.MethodInfo)

/-- The expression of an argument is read as it is written. -/
theorem isOperand_expression (hname : Text.isPlainName q.name = true) : IsOperand q.expression := by
  have hself : IsOperand (.name "self") := isOperand_name (by decide)
  unfold ConvertedParameter.expression
  split
  · exact hself.attribute (isPlainName_fieldOf hname)
  · exact hself.attribute hname
  · exact isOperand_name hname

/-- What has been read once the arguments for some parameters are. -/
def readArguments (acc : Reader.ArgsRead) (m : ConvertedMethod) : Reader.ArgsRead where
  args := m.positionalArguments.reverse ++ acc.args
  keywords := m.namedArguments.reverse ++ acc.keywords

theorem positionalArguments_cons (q : ConvertedParameter) (qs : List ConvertedParameter) :
    (⟨i, q :: qs⟩ : ConvertedMethod).positionalArguments =
      (⟨i, [q]⟩ : ConvertedMethod).positionalArguments ++
        (⟨i, qs⟩ : ConvertedMethod).positionalArguments :=
  @List.filterMap_append _ _ [q] qs _

theorem namedArguments_cons (q : ConvertedParameter) (qs : List ConvertedParameter) :
    (⟨i, q :: qs⟩ : ConvertedMethod).namedArguments =
      (⟨i, [q]⟩ : ConvertedMethod).namedArguments ++ (⟨i, qs⟩ : ConvertedMethod).namedArguments :=
  @List.filterMap_append _ _ [q] qs _

theorem readArguments_cons (acc : Reader.ArgsRead) (q : ConvertedParameter)
    (qs : List ConvertedParameter) :
    readArguments acc ⟨i, q :: qs⟩ = readArguments (readArguments acc ⟨i, [q]⟩) ⟨i, qs⟩ := by
  simp only [readArguments, positionalArguments_cons i q qs, namedArguments_cons i q qs,
    List.reverse_append, List.append_assoc]

/-- **The text of an argument is one argument.** No argument by position follows one by name. -/
theorem argText_argument {acc : Reader.ArgsRead} (hname : Text.isPlainName q.name = true)
    (horiginal : Text.isPlainName q.parameter.name = true)
    (hacc : rank q.parameter.kind ≤ 2 → acc.keywords = []) :
    ArgText q.argument acc (readArguments acc ⟨i, [q]⟩) := by
  have hoperand := isOperand_expression hname
  have hsurplus := operandReads_name hname
  have htext := hoperand.text ▸ hoperand.reads
  unfold ConvertedParameter.argument readArguments ConvertedMethod.positionalArguments
    ConvertedMethod.namedArguments
  cases hk : q.parameter.kind with
  | varPositional =>
    simp only [List.filterMap_cons, List.filterMap_nil, hk]
    exact hsurplus.starred_argText (hacc (by rw [hk]; decide))
  | varKeyword =>
    simp only [List.filterMap_cons, List.filterMap_nil, hk]
    exact hsurplus.doubleStarred_argText
  | keywordOnly =>
    simp only [List.filterMap_cons, List.filterMap_nil, hk]
    exact htext.named_argText horiginal
  | _ =>
    simp only [List.filterMap_cons, List.filterMap_nil, hk]
    exact htext.textReads.argText (hacc (by rw [hk]; decide))

theorem argTexts_arguments (qs : List ConvertedParameter) : ∀ acc : Reader.ArgsRead,
    (∀ q ∈ qs, Text.isPlainName q.name = true ∧ Text.isPlainName q.parameter.name = true) →
    (qs.Pairwise fun p q => rank p.parameter.kind ≤ rank q.parameter.kind) →
    (acc.keywords ≠ [] → ∀ q ∈ qs, 2 < rank q.parameter.kind) →
    ArgTexts (qs.map ConvertedParameter.argument) acc (readArguments acc ⟨i, qs⟩) := by
  induction qs with
  | nil => exact fun acc _ _ _ => .nil acc
  | cons q qs ih =>
    intro acc hnames hordered hacc
    rw [List.forall_mem_cons] at hnames
    rw [List.pairwise_cons] at hordered
    have hq : rank q.parameter.kind ≤ 2 → acc.keywords = [] := fun hle => by
      by_contra hne
      exact absurd (hacc hne q List.mem_cons_self) (by omega)
    rw [List.map_cons, readArguments_cons]
    refine .cons (argText_argument i hnames.1.1 hnames.1.2 hq) (ih _ hnames.2 hordered.2 fun hne r hr => ?_)
    have hle := hordered.1 r hr
    by_cases hk : rank q.parameter.kind ≤ 2
    · exfalso
      refine hne ?_
      have hnone : (⟨i, [q]⟩ : ConvertedMethod).namedArguments = [] := by
        cases hkind : q.parameter.kind <;> simp [hkind, rank, ConvertedMethod.namedArguments] at hk ⊢
      rw [readArguments, hnone, hq hk]
      rfl
    · omega

end Arguments

/-- There is one argument for each parameter. -/
theorem length_arguments (m : ConvertedMethod) :
    m.positionalArguments.length + m.namedArguments.length = m.parameters.length := by
  obtain ⟨i, qs⟩ := m
  induction qs with
  | nil => rfl
  | cons q qs ih =>
    have hone : (⟨i, [q]⟩ : ConvertedMethod).positionalArguments.length +
        (⟨i, [q]⟩ : ConvertedMethod).namedArguments.length = 1 := by
      cases hk : q.parameter.kind <;>
        simp [hk, ConvertedMethod.positionalArguments, ConvertedMethod.namedArguments]
    rw [positionalArguments_cons, namedArguments_cons, List.length_append, List.length_append,
      List.length_cons, ← ih]
    omega

theorem areSound_positionalArguments (i : Describe.MethodInfo) {qs : List ConvertedParameter}
    (h : ∀ q ∈ qs, Text.isPlainName q.name = true) :
    Expr.areSound false (⟨i, qs⟩ : ConvertedMethod).positionalArguments = true := by
  induction qs with
  | nil => rfl
  | cons q qs ih =>
    rw [List.forall_mem_cons] at h
    have hq := (isOperand_expression h.1).sound
    have hstar : ∀ x, q.expression ≠ .starred x := by
      intro x hx
      rw [hx, Expr.isSound] at hq
      cases hq
    have ih := ih h.2
    rw [positionalArguments_cons]
    simp only [ConvertedMethod.positionalArguments, List.filterMap_cons, List.filterMap_nil] at ih ⊢
    cases q.parameter.kind with
    | varPositional =>
      simp only [List.cons_append, List.nil_append]
      rw [Expr.areSound, Expr.isSound, Text.isIdentifier_of_isPlainName h.1, Bool.true_and]
      exact ih
    | varKeyword | keywordOnly => exact ih
    | _ =>
      simp only [List.cons_append, List.nil_append]
      rw [Expr.areSound.eq_3 _ _ _ hstar, hq, Bool.true_and]
      exact ih

theorem areSoundKeywords_namedArguments (i : Describe.MethodInfo) {qs : List ConvertedParameter}
    (h : ∀ q ∈ qs, Text.isPlainName q.name = true ∧ canBind q.parameter.name = true) :
    Expr.areSoundKeywords false (⟨i, qs⟩ : ConvertedMethod).namedArguments = true := by
  induction qs with
  | nil => rfl
  | cons q qs ih =>
    rw [List.forall_mem_cons] at h
    have hq := (isOperand_expression h.1.1).sound
    have ih := ih h.2
    rw [namedArguments_cons]
    simp only [ConvertedMethod.namedArguments, List.filterMap_cons, List.filterMap_nil] at ih ⊢
    cases q.parameter.kind with
    | varKeyword =>
      simp only [List.cons_append, List.nil_append]
      rw [Expr.areSoundKeywords, Expr.isSound, Text.isIdentifier_of_isPlainName h.1.1, Bool.true_and]
      exact ih
    | keywordOnly =>
      simp only [List.cons_append, List.nil_append]
      rw [Expr.areSoundKeywords, h.1.2, hq, Bool.true_and, Bool.true_and]
      exact ih
    | _ => exact ih

/-- The names of the arguments that are given by name. -/
theorem names_namedArguments_sublist (m : ConvertedMethod) :
    (m.namedArguments.filterMap Prod.fst).Sublist (m.parameters.map fun q => q.parameter.name) := by
  obtain ⟨i, qs⟩ := m
  induction qs with
  | nil => exact .slnil
  | cons q qs ih =>
    rw [namedArguments_cons, List.filterMap_append, List.map_cons]
    simp only [ConvertedMethod.namedArguments, List.filterMap_cons, List.filterMap_nil] at ih ⊢
    cases q.parameter.kind with
    | keywordOnly => exact ih.cons_cons _
    | _ => exact ih.cons _

/-- The text of the forwarded call is read as the call. -/
theorem ConvertedMethod.IsRouted.operandReads_call (h : m.IsRouted) {f : Expr} (hf : IsOperand f) :
    OperandReads (f.text .draft ++ "(" ++ m.argumentsText ++ ")") (m.callOf f) := by
  have htexts := argTexts_arguments m.method m.parameters {}
    (fun q hq => ⟨h.names q hq, (h.stated q hq).1⟩)
    (h.ordered.imp And.left) fun hne => absurd rfl hne
  have hcall := (hf.text ▸ hf.reads).call htexts
  simp only [readArguments, List.append_nil, List.reverse_reverse] at hcall
  exact hcall

/-- **The text of the forwarded call is read as the call,** which can be run. -/
theorem ConvertedMethod.IsRouted.reads_call (h : m.IsRouted) {f : Expr} (hf : IsOperand f) :
    readExpr (f.text .draft ++ "(" ++ m.argumentsText ++ ")") = .ok (m.callOf f) ∧
      (m.callOf f).isSound false = true := by
  have hnames : ∀ q ∈ m.parameters, Text.isPlainName q.name = true ∧ canBind q.parameter.name = true :=
    fun q hq => ⟨h.names q hq, canBind_of_isPlainName (h.stated q hq).1 (h.stated q hq).2⟩
  constructor
  · exact (h.operandReads_call hf).textReads.readExpr
  · have hdistinct := (areDistinct_iff _).mpr (h.originals.sublist (names_namedArguments_sublist m))
    rw [ConvertedMethod.callOf, Expr.isSound, hf.sound, hdistinct,
      areSound_positionalArguments m.method h.names, areSoundKeywords_namedArguments m.method hnames]
    rfl

/-! ## The method -/

/-- A parameter that is read from what is written for a converted one. -/
structure ReadFrom (c : Nat) (b w : World) (cls : Option String) (q : ConvertedParameter)
    (r : Param) : Prop where
  kind : r.kind = q.parameter.kind
  name : r.name = q.name
  hint : ∃ a e, SpelledIn b cls q.parameter.hint a ∧ a.ReadsAs e ∧ r.hint = some e
  default : Option.Rel (fun v e => ∃ d, Stored c w v d ∧ d.ReadsAs e)
    (if q.parameter.kind.isVariadic then none else q.parameter.default) r.default

theorem Writes.readFrom {cls : Option String} {q : ConvertedParameter} {r r' : Param}
    (h : Writes c b w cls q r) (hr : r.ReadsAs r') :
    ReadFrom c b w cls q r' where
  kind := hr.kind.trans h.kind
  name := hr.name.trans h.name
  hint := by
    obtain ⟨a, ha⟩ := Option.isSome_iff_exists.mp h.hinted
    have hread := hr.hint
    rw [ha] at hread
    cases hr' : r'.hint with
    | none => rw [hr'] at hread; cases hread
    | some e =>
      rw [hr'] at hread
      cases hread with
      | some hae => exact ⟨a, e, h.hint a ha, hae, rfl⟩
  default := by
    have hstored := h.default
    have hread := hr.default
    revert hstored hread
    generalize (if q.parameter.kind.isVariadic then none else q.parameter.default) = o
    generalize r.default = d
    generalize r'.default = e
    intro hstored hread
    cases hstored with
    | none =>
      cases hread
      exact .none
    | some hstored =>
      cases hread with
      | some hread => exact .some ⟨_, hstored, hread⟩

theorem forall₂_readFrom {cls : Option String} {qs : List ConvertedParameter} {rs : List Param}
    (hps : List.Forall₂ (Writes c b w cls) qs ps)
    (hrs : List.Forall₂ Param.ReadsAs ps rs) : List.Forall₂ (ReadFrom c b w cls) qs rs := by
  induction hps generalizing rs with
  | nil =>
    cases hrs
    exact .nil
  | cons hp _ ih =>
    cases hrs with
    | cons hr hrs => exact .cons (hp.readFrom hr) (ih hrs)

theorem eq_receiver {k : ParamKind} {r : Param} (h : (Plan.receiver k).ReadsAs r) : r = Plan.receiver k := by
  obtain ⟨kind, name, hint, default⟩ := r
  obtain ⟨hkind, hname, hhint, hdefault⟩ := h
  dsimp only [Plan.receiver] at hkind hname hhint hdefault
  cases hhint
  cases hdefault
  rw [hkind, hname]
  rfl

/-- A definition with a receiver and parameters that were read can be run. -/
theorem isSound_define {cls : Option String} {qs : List ConvertedParameter} {rs : List Param} (k : ParamKind)
    (hrs : List.Forall₂ (ReadFrom c b w cls) qs rs) (hnames : ∀ q ∈ qs, canBind q.name = true)
    (hdistinct : ("self" :: qs.map ConvertedParameter.name).Nodup) :
    Stmt.areSound {} [.define false "f" (Plan.receiver k :: rs) none [] [.pass]] = true := by
  have hself : canBind "f" = true ∧ canBind "self" = true := by decide
  have hmap : rs.map Param.name = qs.map ConvertedParameter.name := by
    induction hrs with
    | nil => rfl
    | cons h _ ih =>
      rw [List.forall_mem_cons] at hnames
      rw [List.map_cons, List.nodup_cons, List.mem_cons, not_or, List.nodup_cons] at hdistinct
      rw [List.map_cons, List.map_cons, h.name,
        ih hnames.2 (List.nodup_cons.mpr ⟨hdistinct.1.2, hdistinct.2.2⟩)]
  have hparams : areSoundParams {} (Plan.receiver k :: rs) = true := by
    rw [areSoundParams, Bool.and_eq_true, areDistinct_iff, List.all_eq_true, List.forall_mem_cons]
    refine ⟨?_, ?_, fun r hr => ?_⟩
    · rw [List.map_cons]
      exact hmap ▸ hdistinct
    · simp [Plan.receiver, hself.2, Expr.isSoundOption]
    · obtain ⟨q, hq, hqr⟩ := exists_of_forall₂_right hrs hr
      obtain ⟨a, e, -, hae, hhint⟩ := hqr.hint
      have hdefault := hqr.default
      rw [hqr.name, hnames q hq, hhint, Expr.isSoundOption, hae.2, Bool.true_and, Bool.true_and]
      cases hd : r.default with
      | none => rw [Expr.isSoundOption]
      | some d =>
        rw [hd] at hdefault
        generalize (if q.parameter.kind.isVariadic then none else q.parameter.default) = o at hdefault
        cases hdefault with
        | some h =>
          obtain ⟨_, -, hread⟩ := h
          exact hread.2
  simp [Stmt.areSound, Stmt.isSound, hself.1, hparams, Expr.isSoundOption, Stmt.declaresGlobal]

theorem any_kind_eq {cls : Option String} {qs : List ConvertedParameter} {rs : List Param}
    (h : List.Forall₂ (Writes c b w cls) qs rs) (k : ParamKind) :
    (rs.any fun r => r.kind = k) = qs.any fun q => q.parameter.kind = k := by
  induction h with
  | nil => rfl
  | cons h _ ih => rw [List.any_cons, List.any_cons, h.kind, ih]

/-- **Signatures stay well formed under routing.** What is written of a method reads as its receiver and
the parameters that are left, in order, with their kinds, names, annotations and defaults; and the
forwarded call has one argument for each parameter. -/
theorem method_reads {f : Expr} (hp : p.cache = some c) (hroom : Room c m.methodParameters.length w)
    (h : m.IsRouted) (hf : IsOperand f) (hwritable : ∀ q ∈ m.methodParameters,
      Hint.isWritable (q.parameter.hint.getD Standard.empty) = true) :
    (∃ ps w' k rs, (p.methodParams m).outcome w = (.ok ps, w') ∧
      readModule (definitionText (paramsText .draft ps)) =
        .ok [.define false "f" (Plan.receiver k :: rs) none [] [.pass]] ∧
      Stmt.areSound {} [.define false "f" (Plan.receiver k :: rs) none [] [.pass]] = true ∧
      List.Forall₂ (ReadFrom c w w' p.selfTypeName) m.methodParameters rs ∧
      k = (if m.methodParameters.any fun q => q.parameter.kind = .positionalOnly then .positionalOnly
        else .positionalOrKeyword) ∧
      (paramTexts .draft false ps).count "/" =
        (if m.methodParameters.any fun q => q.parameter.kind = .positionalOnly then 1 else 0) ∧
      (paramTexts .draft false ps).count "*" =
        (if (m.methodParameters.any fun q => q.parameter.kind = .keywordOnly) &&
          !(m.methodParameters.any fun q => q.parameter.kind = .varPositional) then 1 else 0) ∧
      rs.Pairwise fun r s => rank s.kind ≤ 1 → r.default.isSome = true → s.default.isSome = true) ∧
    readExpr (f.text .draft ++ "(" ++ m.argumentsText ++ ")") = .ok (m.callOf f) ∧
    (m.callOf f).isSound false = true ∧
    m.positionalArguments.length + m.namedArguments.length = m.parameters.length := by
  refine ⟨?_, (h.reads_call hf).1, (h.reads_call hf).2, length_arguments m⟩
  obtain ⟨all, w', hall⟩ := methodParams_succeeds hp hroom
  obtain ⟨ps, rfl, hps, -⟩ := methodParams_eq_ok hp rfl hroom.1 hall
  have hwritten := h.paramsWritten hps hwritable
  obtain ⟨rs, hread, hrs⟩ := readModule_params hwritten
  cases hrs with
  | @cons _ r _ rs hr hrs =>
  obtain rfl := eq_receiver hr
  have hfrom := forall₂_readFrom hps hrs
  have hkinds := any_kind_eq hps
  have hreceiver (k : ParamKind) (hk : k ≠ .positionalOnly ∧ k ≠ .positionalOrKeyword) :
      decide ((Plan.receiver (receiverKind ps)).kind = k) = false := by
    rw [decide_eq_false_iff_not]
    rintro rfl
    unfold receiverKind at hk
    revert hk
    simp only [Plan.receiver]
    split <;> simp
  have hbound : ∀ q ∈ m.methodParameters, canBind q.name = true := fun q hq =>
    canBind_of_isPlainName (h.names q (List.mem_of_mem_filter hq)) (h.bound q hq)
  refine ⟨_, w', receiverKind ps, rs, hall, hread,
    isSound_define _ hfrom hbound h.distinct, hfrom, ?_, ?_,
    ?_, ?_⟩
  · rw [receiverKind, hkinds]
  · rw [count_slash _ hwritten.written, List.any_cons, any_receiverKind, hkinds]
  · rw [count_star _ hwritten, List.any_cons, List.any_cons, hkinds, hkinds, hreceiver _ (by simp),
      hreceiver _ (by simp)]
    rfl
  · refine pairwise_of_forall₂ hrs (fun hr hs hle hrank hd => ?_) hwritten.defaulted.tail
    rw [hs.kind] at hrank
    rw [isSome_eq_of_rel hs.default]
    rw [isSome_eq_of_rel hr.default] at hd
    exact hle hrank hd

/-- A function `(a, /, b=0, *args, c)` of which `b` is kept in a field and `c` is now `d`. -/
theorem method_reads_positionalOnly :
    let m : ConvertedMethod := ⟨default,
      [⟨{ name := "a", kind := .positionalOnly }, .method, "a"⟩,
        ⟨{ name := "b", default := some (.int 0) }, .constructor, "b"⟩,
        ⟨{ name := "args", kind := .varPositional }, .method, "args"⟩,
        ⟨{ name := "c", kind := .keywordOnly }, .method, "d"⟩]⟩
    (∃ ps w' k rs, (Plan.methodParams { cache := some 0 } m).outcome { caches := #[{}] } = (.ok ps, w') ∧
      readModule (definitionText (paramsText .draft ps)) =
        .ok [.define false "f" (Plan.receiver k :: rs) none [] [.pass]] ∧ k = .positionalOnly) ∧
    readExpr ("g(" ++ m.argumentsText ++ ")") = .ok (m.callOf (.name "g")) := by
  intro m
  have hrouted : m.IsRouted :=
    ⟨by decide, by decide, by decide, by decide, by decide, by decide, by decide⟩
  obtain ⟨⟨ps, w', k, rs, hps, hread, -, -, hk, -⟩, hcall, -⟩ :=
    method_reads (p := { cache := some 0 }) (c := 0) (w := { caches := #[{}] }) (f := .name "g") rfl
      ⟨by decide, by decide⟩ hrouted (isOperand_name (by decide)) (by decide)
  exact ⟨⟨ps, w', k, rs, hps, hread, hk⟩, hcall⟩

/-- A parameter that goes by `__debug__` has a name, but nothing can be bound to it. -/
theorem debug_parameter_unsound : ∃ ps w' rs,
    (Plan.methodParams { cache := some 0 } ⟨default, [⟨{ name := "a" }, .method, "__debug__"⟩]⟩).outcome
        { caches := #[{}] } = (.ok ps, w') ∧
      paramsText .draft ps = "self, __debug__: typing.Any" ∧
      readModule (definitionText (paramsText .draft ps)) =
        .ok [.define false "f" rs none [] [.pass]] ∧
      Stmt.areSound {} [.define false "f" rs none [] [.pass]] = false := by
  have hspell : Hint.spell { caches := #[{}] } none Standard.empty = Expr.dotted "typing.Any" := by
    rw [Standard.empty, Hint.spell]
    rfl
  have hparam : Param.IsWritten
      ⟨.positionalOrKeyword, "__debug__", some (Expr.dotted "typing.Any"), none⟩ :=
    { name := by decide
      hint := fun e he => by
        obtain rfl := Option.some.inj he
        exact (Hint.isWritten_dotted (by decide)).readable
      default := fun e he => by cases he
      hinted := fun h => by cases h
      variadic := fun _ => rfl }
  have hwritten : ParamsWritten [Plan.receiver .positionalOrKeyword,
      ⟨.positionalOrKeyword, "__debug__", some (Expr.dotted "typing.Any"), none⟩] :=
    ⟨List.forall_mem_cons.mpr ⟨isWritten_receiver _ rfl, List.forall_mem_singleton.mpr hparam⟩,
      by decide, by simp [Plan.receiver]⟩
  obtain ⟨rs, hread, hrs⟩ := readModule_params hwritten
  refine ⟨_, _, rs, rfl, ?_⟩
  simp only [Plan.spell, Option.getD_none, hspell]
  refine ⟨by decide, hread, ?_⟩
  cases hrs with
  | cons _ hrs =>
    cases hrs with
    | cons hr _ =>
      have hunbound : canBind "__debug__" = false := by decide
      simp [Stmt.areSound, Stmt.isSound, areSoundParams, hr.name, hunbound]

end Facade.Conversion
