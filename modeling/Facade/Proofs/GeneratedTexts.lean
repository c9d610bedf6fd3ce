import Facade.Proofs.CallableClass
import Facade.Proofs.MethodTexts
import Facade.Proofs.ModuleTexts
import Facade.Proofs.TypeClass

/-!
# Texts of generated modules

What is known of the draft of a generated class is what its text is read as, but for spellings and for lines
that mean nothing.

* `text_callOf`: how a forwarded call is written.
* `IsPlainDeclaration`, `Plan.IsPlain`: what is declared under names that stand for themselves.
* `IsPlainlyNamed`, `program_rereads`: the class around a callable.
* `IsPlainlyNamedAround`, `draft_rereads`: the class around a class.
-/

namespace Facade.Conversion

open Execution Syntax
open Binding (rank)
open Facade.Describe (MethodInfo)

/-! ## Calls -/

section Calls

variable {m : ConvertedMethod} {f e : Expr} {args : List Expr}

/-- The arguments of a forwarded call are written in the order of the parameters. -/
theorem texts_arguments (i : MethodInfo) {qs : List ConvertedParameter}
    (h : qs.Pairwise fun p q => rank p.parameter.kind ≤ rank q.parameter.kind) :
    Expr.texts .draft .test (⟨i, qs⟩ : ConvertedMethod).positionalArguments ++
        Expr.keywordTexts .draft (⟨i, qs⟩ : ConvertedMethod).namedArguments =
      qs.map ConvertedParameter.argument := by
  induction qs with
  | nil => rfl
  | cons q qs ih =>
    rw [List.pairwise_cons] at h
    -- Behind an argument by name there is none by position.
    have hnone : 2 < rank q.parameter.kind → (⟨i, qs⟩ : ConvertedMethod).positionalArguments = [] := by
      intro hq
      refine List.filterMap_eq_nil_iff.mpr fun r hr => ?_
      have hr : 2 < rank r.parameter.kind := Nat.lt_of_lt_of_le hq (h.1 r hr)
      cases hk : r.parameter.kind <;> simp [hk, rank] at hr ⊢
    have ih := ih h.2
    rw [positionalArguments_cons, namedArguments_cons, List.map_cons, ← ih]
    cases hk : q.parameter.kind with
    | varKeyword | keywordOnly =>
      rw [hnone (by rw [hk]; decide)]
      simp [hk, ConvertedMethod.positionalArguments, ConvertedMethod.namedArguments,
        ConvertedParameter.argument, Expr.texts, Expr.keywordTexts, Expr.text, Expr.textAt]
    | _ =>
      simp [hk, ConvertedMethod.positionalArguments, ConvertedMethod.namedArguments,
        ConvertedParameter.argument, Expr.texts, Expr.text, Expr.textAt]

/-- **How a forwarded call is written.** -/
theorem text_callOf (h : m.parameters.Pairwise fun p q => rank p.parameter.kind ≤ rank q.parameter.kind)
    (l : Level) : (m.callOf f).textAt .draft l = f.textAt .draft .atom ++ "(" ++ m.argumentsText ++ ")" := by
  rw [ConvertedMethod.callOf, Expr.textAt, ConvertedMethod.argumentsText, ← texts_arguments m.method h]

/-- A call with what is waited for, or without. -/
def waitedFor (wait : Bool) (call : Expr) : Expr := if wait then .await call else call

/-- The text of a forwarded call, waited for or not, is read as the call. -/
theorem reads_callOf (h : m.IsRouted) (hf : IsOperand f) (wait : Bool) :
    TextReads ((waitedFor wait (m.callOf f)).text .draft) (waitedFor wait (m.callOf f)) ∧
      (waitedFor wait (m.callOf f)).textAt .draft .yield = (waitedFor wait (m.callOf f)).text .draft ∧
      (waitedFor wait (m.callOf f)).unspelled = waitedFor wait (m.callOf f) := by
  have hordered := h.ordered.imp And.left
  have hcall := h.operandReads_call hf
  rw [hf.text, ← text_callOf hordered .atom] at hcall
  have htext (l : Level) : (m.callOf f).textAt .draft l = (m.callOf f).textAt .draft .atom := by
    rw [text_callOf hordered, text_callOf hordered]
  cases wait with
  | false =>
    refine ⟨?_, (htext .yield).trans (htext .test).symm, rfl⟩
    rw [Expr.text, waitedFor, if_neg (by simp), htext]
    exact hcall.textReads
  | true => exact ⟨hcall.await, rfl, rfl⟩

/-- A call of an operand with operands. -/
theorem isOperand_call (hf : IsOperand f) (hargs : ∀ a ∈ args, IsOperand a) :
    IsOperand (.call f args []) where
  reads := by
    have htexts : ∀ acc : Reader.ArgsRead, acc.keywords = [] → ArgTexts (Expr.texts .draft .test args) acc
        { acc with args := args.reverse ++ acc.args } := by
      induction args with
      | nil => exact fun acc _ => .nil acc
      | cons a args ih =>
        rw [List.forall_mem_cons] at hargs
        intro acc hacc
        have hread : ArgText (a.textAt .draft .test) acc { acc with args := a :: acc.args } :=
          (hargs.1.text ▸ hargs.1.reads).textReads.argText hacc
        simpa [Expr.texts] using ArgTexts.cons hread (ih hargs.2 { acc with args := a :: acc.args } hacc)
    have hcall := hf.reads.call (htexts {} rfl)
    simp only [List.append_nil, List.reverse_reverse, List.reverse_nil] at hcall
    rw [Expr.textAt, Expr.keywordTexts, List.append_nil]
    exact hcall
  text := rfl
  notConst := by simp
  unspelled := rfl
  sound := by
    have hall : Expr.areSound false args = true := areSound_of_forall fun a ha => (hargs a ha).sound
    rw [Expr.isSound, hf.sound, hall]
    rfl

end Calls

/-! ## What is declared -/

/-- A name that stands for itself, with an annotation that can be read back. -/
def IsPlainDeclaration (name : String) (hint : Option Value) : Prop :=
  Text.isPlainName name = true ∧ Hint.isWritable (hint.getD Standard.empty) = true

/-- All that a plan has taken in is declared so. -/
structure Plan.IsPlain (p : Plan) : Prop where
  constructor : ∀ q ∈ p.constructor.values, IsPlainDeclaration q.name q.hint
  properties : ∀ q ∈ p.properties.values, IsPlainDeclaration q.name q.hint

section Declarations

variable {p : Plan} {c : ConvertedParameter}

theorem isPlain_empty (rules : List Rule) (cache : Option Nat) (self : Option String) :
    Plan.IsPlain { rules := rules, cache := cache, selfTypeName := self } :=
  ⟨fun q hq => (by cases hq), fun q hq => (by cases hq)⟩

theorem forall_values_setDefault {α : Type} {P : α → Prop} {t : Table String α} {k : String} {x : α}
    (h : ∀ v ∈ t.values, P v) (hx : P x) : ∀ v ∈ (t.setDefault k x).values, P v := by
  unfold Table.setDefault
  split
  · exact h
  · intro v hv
    rcases (by simpa [Table.values] using hv : (∃ a, (a, v) ∈ t.entries) ∨ v = x) with ⟨a, ha⟩ | rfl
    · exact h v (List.mem_map_of_mem ha)
    · exact hx

theorem Plan.IsPlain.adopt (h : Plan.IsPlain p) (hc : IsPlainDeclaration c.name c.parameter.hint) :
    Plan.IsPlain (p.adopt c) := by
  unfold Plan.adopt
  split
  · exact h
  · exact ⟨forall_values_setDefault h.constructor hc, h.properties⟩
  · exact ⟨h.constructor, forall_values_setDefault h.properties hc⟩

theorem Plan.IsPlain.foldl_adopt {cs : List ConvertedParameter}
    (hcs : ∀ c ∈ cs, IsPlainDeclaration c.name c.parameter.hint) : ∀ {p : Plan}, Plan.IsPlain p →
      Plan.IsPlain (cs.foldl Plan.adopt p) := by
  induction cs with
  | nil => exact fun h => h
  | cons c cs ih =>
    rw [List.forall_mem_cons] at hcs
    exact fun h => ih hcs.2 (h.adopt hcs.1)

end Declarations

end Facade.Conversion

namespace Facade.Wrapper

open Facade.Conversion Facade.Execution Syntax
open Facade.Describe (MethodInfo PropertyInfo)

/-! ## Parts -/

section Parts

variable {name : String} {hint place : Expr} {c : Nat} {w b : World} {p : Plan} {body imports : List Stmt}
  {ps : List Param} {modules : List String}

/-- The place of a field is read as it is written. -/
theorem isOperand_selfField (h : Text.isPlainName name = true) : IsOperand (Plan.selfField name) :=
  (isOperand_name (by decide)).attribute (isPlainName_fieldOf h)

theorem textAt_attribute (m n : String) (l : Level) : (Expr.attribute (.name m) n).textAt .draft l =
    (Expr.attribute (.name m) n).text .draft := by
  simp [Expr.text, Expr.textAt]

theorem rereads_imports (h : ∀ n ∈ modules, isDottedName n = true) : Rereads (modules.map importOf) := by
  rw [List.map_eq_flatMap]
  refine rereads_flatMap fun n hn => rereads_import ?_
  rw [ImportName.isLegible, h n hn]
  rfl

/-- The statements in front of a class. -/
theorem rereads_header (h : Rereads imports) (ns : String) : Rereads (header imports ns) := by
  have hns : Rereads [.assign [.name namespaceName] (Expr.str ns)] :=
    (isOperand_name (by decide)).rereads_assign rfl rfl (isWritten_const rfl).reads
  exact h.append (rereads_blank.append (hns.append (rereads_blank.append rereads_blank)))

theorem rereads_namespaceLine : Rereads [namespaceLine] :=
  (isOperand_name (by decide)).rereads_assign rfl rfl (isOperand_name (by decide)).reads_unspelled.textReads

theorem isSpelled_receiver (k : ParamKind) : (Plan.receiver k).IsSpelled :=
  ⟨by simp [Plan.receiver], by simp [Plan.receiver]⟩

/-- A parameter by position or by name that has no default. -/
structure IsPlainParam (r : Param) : Prop where
  written : r.IsWritten
  spelled : r.IsSpelled
  kind : r.kind = .positionalOrKeyword
  default : r.default = none

theorem isPlainParam_receiver : IsPlainParam (Plan.receiver .positionalOrKeyword) :=
  ⟨isWritten_receiver _ rfl, isSpelled_receiver _, rfl, rfl⟩

theorem isPlainParam_hinted (hname : Text.isPlainName name = true) (hhint : Syntax.IsWritten hint) :
    IsPlainParam { kind := .positionalOrKeyword, name := name, hint := some hint } where
  written :=
    { name := hname
      hint := fun e he => Option.some.inj he ▸ hhint.readable
      default := by simp
      hinted := by simp
      variadic := by simp }
  spelled := ⟨fun e he => Option.some.inj he ▸ hhint, by simp⟩
  kind := rfl
  default := rfl

theorem paramsWritten_plain (h : ∀ r ∈ ps, IsPlainParam r) : ParamsWritten ps := by
  refine ⟨fun r hr => (h r hr).written, ?_, ?_⟩ <;>
    refine List.pairwise_of_forall_mem_list fun p hp q hq => ?_
  · rw [(h p hp).kind, (h q hq).kind]
    simp [ParamKind.isVariadic]
  · rw [(h p hp).default]
    simp

/-- A property that passes reads and writes on to a place. -/
theorem rereads_passThrough (hname : Text.isPlainName name = true) (hhint : Syntax.IsWritten hint)
    (hplace : IsOperand place) (htarget : Reader.isTarget place = true)
    (htuple : place.textAt .draft .tuple = place.text .draft) (writable : Bool) :
    Rereads (passThrough name hint place writable) := by
  have hgetter : Rereads [.define false name [Plan.receiver .positionalOrKeyword] (some hint)
      [.name "property"] [.returns (some place)]] := by
    have hps : ∀ r ∈ [Plan.receiver .positionalOrKeyword], IsPlainParam r :=
      List.forall_mem_singleton.mpr isPlainParam_receiver
    exact rereads_define hname (paramsWritten_plain hps) (fun r hr => (hps r hr).spelled)
      (fun e he => Option.some.inj he ▸ hhint) (List.forall_mem_singleton.mpr (isOperand_name (by decide)))
      (rereads_returns hplace.reads_unspelled.textReads) (by simp [Stmt.allUnspelled, Stmt.unspelled])
  have hsetter : Rereads [.define false name [Plan.receiver .positionalOrKeyword,
      { kind := .positionalOrKeyword, name := "value", hint := some hint }] (some (.const .none))
      [.attribute (.name name) "setter"] [.assign [place] (.name "value")]] := by
    have hps : ∀ r ∈ [Plan.receiver .positionalOrKeyword,
        { kind := .positionalOrKeyword, name := "value", hint := some hint }], IsPlainParam r :=
      List.forall_mem_cons.mpr ⟨isPlainParam_receiver,
        List.forall_mem_singleton.mpr (isPlainParam_hinted (by decide) hhint)⟩
    exact rereads_define hname (paramsWritten_plain hps) (fun r hr => (hps r hr).spelled)
      (fun e he => Option.some.inj he ▸ isWritten_const rfl)
      (List.forall_mem_singleton.mpr ((isOperand_name hname).attribute (by decide)))
      (hplace.rereads_assign htarget htuple (isOperand_name (by decide)).reads_unspelled.textReads)
      (by simp [Stmt.allUnspelled, Stmt.unspelled])
  unfold passThrough
  refine (hgetter.append rereads_blank).append ?_
  cases writable with
  | false => exact rereads_nil
  | true => exact hsetter.append rereads_blank

theorem rereads_fieldProperty (hname : Text.isPlainName name = true) (hhint : Syntax.IsWritten hint) :
    Rereads (passThrough name hint (Plan.selfField name) true) :=
  rereads_passThrough hname hhint (isOperand_selfField hname) rfl (textAt_attribute _ _ _) true

theorem isWritten_spelledIn {cls : Option String} {h : Option Value} {e : Expr} (he : SpelledIn b cls h e)
    (hw : Hint.isWritable (h.getD Standard.empty) = true) : Syntax.IsWritten e := by
  obtain ⟨v, -, rfl⟩ := he
  exact Hint.isWritten_spell _ hw

/-! ### Constructors -/

/-- An argument that is kept. -/
theorem rereads_keepArgument (hname : Text.isPlainName name = true) : Rereads [keepArgument name] :=
  (isOperand_selfField hname).rereads_assign rfl (textAt_attribute _ _ _)
    (isOperand_name hname).reads_unspelled.textReads

/-- The first value of a property. -/
theorem rereads_givesFirst {q : RoutedProperty} {s : Stmt} (h : GivesFirst c w q s)
    (hq : IsPlainDeclaration q.name q.hint) : Rereads [s] := by
  obtain ⟨hint, e, rfl, he, b, cls, hspelled⟩ := h
  have hvalue : Syntax.IsWritten e := by
    unfold Starts at he
    split at he
    · exact isWritten_stored he
    · exact he ▸ isWritten_const rfl
  exact rereads_field (by decide) (isPlainName_fieldOf hq.1) (isWritten_spelledIn hspelled hq.2).reads
    hvalue.reads

/-- The statements that fill the fields. -/
theorem rereads_fields {names : List String} {firsts : List Stmt}
    (hnames : ∀ n ∈ names, Text.isPlainName n = true) (hp : Plan.IsPlain p)
    (hfirsts : List.Forall₂ (GivesFirst c w) p.properties.values firsts) :
    Rereads (names.map keepArgument ++ firsts) ∧
      (names.map keepArgument ++ firsts ≠ [] →
        Stmt.allUnspelled (names.map keepArgument ++ firsts) ≠ []) := by
  have hkept : Rereads (names.map keepArgument) := by
    rw [List.map_eq_flatMap]
    exact rereads_flatMap fun n hn => rereads_keepArgument (hnames n hn)
  constructor
  · refine hkept.append ?_
    rw [← List.flatMap_singleton' firsts]
    refine rereads_flatMap fun s hs => ?_
    obtain ⟨q, hq, hqs⟩ := Run.exists_of_forall₂_right hfirsts hs
    exact rereads_givesFirst hqs (hp.properties q hq)
  · intro hne
    cases names with
    | cons n names => simp [keepArgument, Stmt.allUnspelled, Stmt.unspelled]
    | nil =>
      generalize p.properties.values = qs at hfirsts
      cases hfirsts with
      | nil => exact absurd rfl hne
      | cons hq _ =>
        obtain ⟨hint, e, rfl, -⟩ := hq
        simp [Stmt.allUnspelled, Stmt.unspelled]

/-- **The constructor.** -/
theorem rereads_constructorOf (hps : ∀ r ∈ ps, IsPlainParam r) (hbody : Rereads body)
    (hne : body ≠ [] → Stmt.allUnspelled body ≠ []) : Rereads (constructorOf ps body) := by
  have hinner : Rereads (orPass body) ∧ Stmt.allUnspelled (orPass body) ≠ [] := by
    unfold orPass
    split
    · exact ⟨rereads_pass, by simp [Stmt.allUnspelled, Stmt.unspelled]⟩
    · rename_i hempty
      exact ⟨hbody, hne (mt List.isEmpty_iff.mpr hempty)⟩
  exact (rereads_define (by decide) (paramsWritten_plain hps) (fun r hr => (hps r hr).spelled) (by simp)
    (by simp) hinner.1 hinner.2).append rereads_blank

/-- The parameters of a method and its result. -/
theorem rereads_method {m : ConvertedMethod} {cls : Option String} {o : Option Expr} (isAsync : Bool)
    (hm : m.IsRouted) (hps : List.Forall₂ (Writes c b w cls) m.methodParameters ps)
    (hwritable : ∀ q ∈ m.parameters, Hint.isWritable (q.parameter.hint.getD Standard.empty) = true)
    (hname : Text.isPlainName name = true) (ho : ∀ e ∈ o, Syntax.IsWritten e) (hbody : Rereads body)
    (hne : Stmt.allUnspelled body ≠ []) :
    Rereads [.define isAsync name (Plan.receiver (receiverKind ps) :: ps) o [] body] := by
  have hmem : ∀ q ∈ m.methodParameters, Hint.isWritable (q.parameter.hint.getD Standard.empty) = true :=
    fun q hq => hwritable q (List.mem_of_mem_filter hq)
  have hspelled : ∀ r ∈ Plan.receiver (receiverKind ps) :: ps, r.IsSpelled := by
    refine List.forall_mem_cons.mpr ⟨isSpelled_receiver _, fun r hr => ?_⟩
    obtain ⟨q, hq, hqr⟩ := Run.exists_of_forall₂_right hps hr
    refine ⟨fun e he => isWritten_spelledIn (hqr.hint e he) (hmem q hq), fun e he => ?_⟩
    have hdefault := hqr.default
    rw [Option.mem_def.mp he] at hdefault
    generalize (if q.parameter.kind.isVariadic then none else q.parameter.default) = d at hdefault
    cases hdefault with
    | some hstored => exact isWritten_stored hstored
  exact rereads_define hname (hm.paramsWritten hps hmem) hspelled ho (by simp) hbody hne

end Parts

/-! ## Classes around callables -/

/-- Everything that the module of a class around a callable names stands for itself. -/
structure IsPlainlyNamed (method : MethodInfo) (o : CallableOptions) (modules : List String) : Prop where
  routed : (convertedMethod method o).IsRouted
  hints : ∀ p ∈ method.params, Hint.isWritable (p.hint.getD Standard.empty) = true
  result : ∀ a ∈ method.returns, Hint.isWritable a = true
  typeName : Text.isPlainName o.typeName = true
  methodName : Text.isPlainName o.methodName = true
  modules : ∀ n ∈ modules, isDottedName n = true

section Callable

variable {cw : CallableWrapper} {f : Value} {method : MethodInfo} {o : CallableOptions} {b w w' : World}
  {l : CallableLayout} {modules : List String}

/-- What is done with the forwarded call. -/
theorem rereads_forwardStatement (method : MethodInfo) {call : Expr}
    (h : TextReads (call.text .draft) call) (hyield : call.textAt .draft .yield = call.text .draft)
    (hcall : call.unspelled = call) (text : String) :
    Rereads [forwardStatement method text call] ∧
      Stmt.allUnspelled [forwardStatement method text call] ≠ [] := by
  have hunspelled : TextReads (call.text .draft) call.unspelled := hcall.symm ▸ h
  unfold forwardStatement
  cases method.returns with
  | none => exact ⟨rereads_returns hunspelled, by simp [Stmt.allUnspelled, Stmt.unspelled]⟩
  | some a =>
    cases method.returnsValue with
    | false => exact ⟨rereads_expr hyield hunspelled, by simp [Stmt.allUnspelled, Stmt.unspelled]⟩
    | true =>
      have hcast := (operandReads_name (s := typingAlias) (by decide)).attribute (n := "cast") (by decide)
      have hargs : ArgTexts [(Expr.str text).text .draft, call.text .draft] {}
          { args := [call, Expr.str text] } :=
        .cons ((textReads_const rfl).argText rfl) (.cons (h.argText rfl) (.nil _))
      exact ⟨rereads_returns (hcast.call hargs).textReads, by simp [Stmt.allUnspelled, Stmt.unspelled]⟩

namespace IsPlainlyNamed

variable (h : IsPlainlyNamed method o modules)

include h

theorem declares : ∀ c ∈ (convertedMethod method o).parameters,
    IsPlainDeclaration c.name c.parameter.hint := by
  intro c hc
  refine ⟨h.routed.names c hc, ?_⟩
  obtain ⟨p, hp, rfl⟩ := List.mem_map.mp hc
  rw [parameter_convertedOf]
  exact h.hints p hp

theorem plan (cw : CallableWrapper) : (planOf cw method o).IsPlain :=
  (isPlain_empty _ _ _).foldl_adopt h.declares

variable (hl : WrittenFor cw f method o b w l)

include hl

/-- The parameters of the constructor. -/
theorem constructorParams :
    ∀ r ∈ Plan.receiver .positionalOrKeyword :: l.constructorParams, IsPlainParam r := by
  refine List.forall_mem_cons.mpr ⟨isPlainParam_receiver, fun r hr => ?_⟩
  obtain ⟨q, hq, hqr⟩ := Run.exists_of_forall₂_right hl.constructorParams hr
  obtain ⟨hname, hwritable⟩ := (h.plan cw).constructor q hq
  have hhint : ∀ e ∈ r.hint, Syntax.IsWritten e :=
    fun e he => isWritten_spelledIn (hqr.hint e he) hwritable
  exact
    { written :=
        { name := hqr.name ▸ hname
          hint := fun e he => (hhint e he).readable
          default := by simp [hqr.default]
          hinted := by simp [hqr.default]
          variadic := fun _ => hqr.default }
      spelled := ⟨hhint, by simp [hqr.default]⟩
      kind := hqr.kind
      default := hqr.default }

/-- The constructor. -/
theorem rereads_constructor : Rereads (constructorOf
    (Plan.receiver .positionalOrKeyword :: l.constructorParams)
      ((l.constructorParams.map fun r => keepArgument r.name) ++ l.firsts)) := by
  have hparams := h.constructorParams hl
  have hnames : ∀ n ∈ l.constructorParams.map Param.name, Text.isPlainName n = true :=
    List.forall_mem_map.mpr fun r hr => (hparams r (List.mem_cons_of_mem _ hr)).written.name
  have hfields := rereads_fields hnames (h.plan cw) hl.firsts
  simp only [List.map_map, Function.comp_def] at hfields
  exact rereads_constructorOf hparams hfields.1 hfields.2

/-- The properties. -/
theorem rereads_properties : Rereads (l.properties.flatMap Piece.statements) := by
  refine rereads_flatMap fun p hp => ?_
  obtain ⟨q, hq, hint, rfl, hspelled⟩ := Run.exists_of_forall₂_right hl.properties hp
  obtain ⟨hname, hwritable⟩ := (h.plan cw).properties q hq
  exact rereads_fieldProperty hname (isWritten_spelledIn hspelled hwritable)

/-- The method that passes its call on. -/
theorem rereads_forward : Rereads [.define method.isAsync o.methodName
    (Plan.receiver (receiverKind l.params) :: l.params) l.result [] (l.body method o)] := by
  have hresult : ∀ e ∈ l.result, Syntax.IsWritten e := by
    intro e he
    obtain ⟨a, ha, hspelled⟩ := hl.result e he
    exact isWritten_spelledIn hspelled (h.result a ha)
  obtain ⟨hcall, hyield, hunspelled⟩ :=
    reads_callOf h.routed (isOperand_cachedValue l.identifier) method.isAsync
  have hbody := rereads_forwardStatement method hcall hyield hunspelled l.resultText
  exact rereads_method _ h.routed hl.params (fun q hq => (h.declares q hq).2) h.methodName hresult hbody.1
    hbody.2

/-- **The module of a class around a callable is read back** from its text. -/
theorem rereads_tree : Rereads (l.tree method o modules) ∧
    Stmt.allUnspelled (l.tree method o modules) ≠ [] := by
  have himports : Rereads (modules.map importOf ++ [importTyping]) :=
    (rereads_imports h.modules).append (rereads_import (by decide))
  have hbody := ((rereads_namespaceLine.append rereads_blank).append (h.rereads_constructor hl)).append
    ((h.rereads_properties hl).append (h.rereads_forward hl))
  rw [l.tree_eq]
  refine ⟨(rereads_header himports o.namespaceName).append
    (rereads_class h.typeName (by simp) (by simp) ?_ ?_), ?_⟩
  · simpa using hbody
  · simp [namespaceLine, Stmt.allUnspelled, Stmt.unspelled]
  · simp [allUnspelled_append, Stmt.allUnspelled, Stmt.unspelled]

end IsPlainlyNamed

/-- **What is known of a program is what its text is read as,** but for spellings and for lines that mean
nothing. -/
theorem program_rereads {compiler : String} {p : Program} (hc : cw.cache < w.caches.size)
    (h : (cw.program f method o compiler).outcome w = (.ok p, w'))
    (hplain : IsPlainlyNamed method o (w.compiler compiler).moduleNames) :
    ∃ tree, p = .ofTree .draft tree ∧ Syntax.readModule p.text = .ok (Stmt.allUnspelled tree) := by
  obtain ⟨l, rfl, hl, -, -⟩ := program_eq_ok hc h
  obtain ⟨hrereads, hne⟩ := hplain.rereads_tree hl
  exact ⟨_, rfl, hrereads.readModule hne⟩

end Callable

/-! ## Classes around classes -/

/-- Everything that the module of a class around a class names stands for itself, and nothing foreign is put
into it. -/
structure IsPlainlyNamedAround (o : TypeOptions) (k : Named) (methods : List MethodInfo)
    (properties : List PropertyInfo) (modules : List String) : Prop where
  routed : ∀ m ∈ convertedMethods o.rules methods, m.IsRouted
  hints : ∀ m ∈ methods, ∀ p ∈ m.params, Hint.isWritable (p.hint.getD Standard.empty) = true
  results : ∀ m ∈ methods, ∀ a ∈ m.returns, Hint.isWritable a = true
  names : ∀ m ∈ methods, Text.isPlainName m.name = true ∧ Text.isPlainName (o.methodNameOf m) = true
  required : ∀ q ∈ o.constructorParameters, IsPlainDeclaration q.1 (some q.2)
  properties : ∀ q ∈ properties, IsPlainDeclaration q.name q.hint
  typeName : Text.isPlainName (o.nameFor k) = true
  paths : ∀ v ∈ Value.cls k :: o.bases, isDottedName ((Hint.qualifiedName? v).getD "") = true
  modules : ∀ n ∈ modules ++ o.namespaces, isDottedName n = true
  decorators : ∀ v ∈ o.decorators, v.isNone = false
  fragments : o.fragments.construct = none ∧ o.fragments.before = none ∧ o.fragments.after = none ∧
    o.fragments.body = none

section Around

variable {tw : TypeWrapper} {c : Nat} {k : Named} {o : TypeOptions} {methods : List MethodInfo}
  {properties : List PropertyInfo} {w w' : World} {l : TypeLayout} {modules : List String} {p : Plan}
  {args : List Expr} {e : Expr} {v : Value}

theorem isOperand_wrapped : IsOperand wrapped := (isOperand_name (by decide)).attribute (by decide)

theorem isOperand_fetched (h : Fetched c w v e) : IsOperand e := by
  obtain ⟨u, rfl, -, -⟩ := h
  exact isOperand_cachedValue u

/-- A call that is made for its effect. -/
theorem rereads_effect (hf : IsOperand e) (hargs : ∀ a ∈ args, IsOperand a) : Rereads [effect e args] :=
  rereads_expr rfl (isOperand_call hf hargs).reads_unspelled.textReads

theorem rereads_superInit : Rereads [superInit] := by
  have hsuper : IsOperand (.call (.name "super") [] []) :=
    isOperand_call (isOperand_name (by decide)) (by simp)
  exact rereads_effect (hsuper.attribute (by decide)) (by simp)

/-- A hook, if there is one. -/
theorem rereads_hook {h : Option Expr} {x : Option Value} (hx : Option.Rel (Fetched c w) x h)
    (hargs : ∀ a ∈ args, IsOperand a) : Rereads (h.map fun e => effect e args).toList := by
  cases hx with
  | none => exact rereads_nil
  | some hx => exact rereads_effect (isOperand_fetched hx) hargs

/-- A property that is passed on. -/
theorem rereads_typeProperty {q : PropertyInfo} (h : IsPlainDeclaration q.name q.hint) (v : World) :
    Rereads (typeProperty p v q) := by
  refine rereads_passThrough h.1 (Hint.isWritten_spell _ h.2) (isOperand_wrapped.attribute h.1) rfl ?_ _
  simp [wrapped, Expr.text, Expr.textAt]

/-- **A method that passes its call on.** -/
theorem rereads_statements {m : ConvertedMethod} {es : HookExprs} {ml : MethodLayout}
    (hes : WritesHooks c w o.hooks es) (hm : WritesMethod c p es w m ml) (hrouted : m.IsRouted)
    (hwritable : ∀ q ∈ m.parameters, Hint.isWritable (q.parameter.hint.getD Standard.empty) = true)
    (hresult : ∀ a ∈ m.method.returns, Hint.isWritable a = true)
    (hname : Text.isPlainName m.method.name = true ∧ Text.isPlainName (o.methodNameOf m.method) = true)
    (hfragments : o.fragments.before = none ∧ o.fragments.after = none) :
    Rereads (ml.statements o es) := by
  obtain ⟨b, ps, hparams, hps⟩ := hm.params
  obtain ⟨x, -, -, hinfo⟩ := hm.info
  obtain ⟨v, hresultEq⟩ := hm.result
  have hargs : ∀ a ∈ wrapped :: ml.info.toList, IsOperand a := by
    refine List.forall_mem_cons.mpr ⟨isOperand_wrapped, fun a ha => ?_⟩
    generalize ml.info = i at hinfo ha
    cases hinfo with
    | none => simp at ha
    | some hi =>
      rw [List.mem_singleton.mp ha]
      exact isOperand_fetched hi
  obtain ⟨hcall, -, hunspelled⟩ :=
    reads_callOf hrouted (isOperand_wrapped.attribute hname.1) m.method.isAsync
  have hassign : Rereads [.assign [.name resultName]
      (waitedFor m.method.isAsync (m.callOf (.attribute wrapped m.method.name)))] :=
    (isOperand_name (by decide)).rereads_assign rfl rfl (hunspelled.symm ▸ hcall)
  have hreturns : Rereads (if m.method.returnsValue then [.returns (some (.name resultName))] else []) := by
    split
    · exact rereads_returns (isOperand_name (by decide)).reads_unspelled.textReads
    · exact rereads_nil
  have hbefore := rereads_hook hes.before hargs
  have hafter := rereads_hook hes.after hargs
  have hbody := ((hbefore.append hassign).append hafter).append hreturns
  have ho : ∀ e ∈ ml.result, Syntax.IsWritten e := by
    intro e he
    rw [hresultEq] at he
    obtain ⟨a, ha, rfl⟩ := Option.map_eq_some_iff.mp he
    exact Hint.isWritten_spell _ (hresult a ha)
  have hmethod := rereads_method m.method.isAsync hrouted hps hwritable hname.2 ho hbody
    (by simp [allUnspelled_append, Stmt.allUnspelled, Stmt.unspelled])
  unfold MethodLayout.statements
  rw [hm.method, hparams, hfragments.1, hfragments.2]
  simp only [Option.map_none, Option.toList_none, List.append_nil]
  exact hmethod.append rereads_blank

namespace IsPlainlyNamedAround

variable (h : IsPlainlyNamedAround o k methods properties modules)

include h

theorem declares {m : ConvertedMethod} (hm : m ∈ convertedMethods o.rules methods) :
    ∀ c ∈ m.parameters, IsPlainDeclaration c.name c.parameter.hint := by
  intro c hc
  refine ⟨(h.routed m hm).names c hc, ?_⟩
  obtain ⟨i, hi, rfl⟩ := List.mem_map.mp hm
  obtain ⟨p, hp, rfl⟩ := List.mem_map.mp hc
  rw [parameter_convertedOf]
  exact h.hints i hi p hp

theorem plan (tw : TypeWrapper) : (planAround tw o k methods).IsPlain := by
  have required (qs : List (String × Value)) (hqs : ∀ q ∈ qs, IsPlainDeclaration q.1 (some q.2)) :
      ∀ {p : Plan}, p.IsPlain → (qs.foldl adoptParameter p).IsPlain := by
    induction qs with
    | nil => exact fun hp => hp
    | cons q qs ih =>
      rw [List.forall_mem_cons] at hqs
      exact fun hp => ih hqs.2 ⟨forall_values_setDefault hp.constructor hqs.1, hp.properties⟩
  have adopted (ms : List ConvertedMethod) (hms : ∀ m ∈ ms, m ∈ convertedMethods o.rules methods) :
      ∀ {p : Plan}, p.IsPlain → (ms.foldl adoptMethod p).IsPlain := by
    induction ms with
    | nil => exact fun hp => hp
    | cons m ms ih =>
      rw [List.forall_mem_cons] at hms
      exact fun hp => ih hms.2 (hp.foldl_adopt (h.declares hms.1))
  exact required _ h.required (adopted _ (fun _ hm => hm) (isPlain_empty _ _ _))

variable
  (hl : WrittenAround c o k (planAround tw o k methods) (convertedMethods o.rules methods) properties w l)

include hl

/-- The constructor. -/
theorem rereads_constructor : Rereads (l.constructor o k) := by
  have hplan := h.plan tw
  obtain ⟨v, hparams⟩ := hl.constructorParams
  obtain ⟨firsts, hfields, hfirsts⟩ := hl.fields
  have hps : ∀ r ∈ l.constructorParams, IsPlainParam r := by
    rw [hparams]
    refine List.forall_mem_cons.mpr ⟨isPlainParam_receiver, List.forall_mem_map.mpr fun q hq => ?_⟩
    obtain ⟨hname, hwritable⟩ := hplan.constructor q hq
    exact isPlainParam_hinted hname (Hint.isWritten_spell _ hwritable)
  have hfill : Rereads l.fields := by
    have hnames : ∀ n ∈ (planAround tw o k methods).constructor.values.map ConstructorParameter.name,
        Text.isPlainName n = true := List.forall_mem_map.mpr fun q hq => (hplan.constructor q hq).1
    have := (rereads_fields hnames hplan hfirsts).1
    simp only [List.map_map, Function.comp_def] at this
    rwa [hfields]
  have hsuper : Rereads (if o.bases.isEmpty then [] else [superInit]) := by
    split
    · exact rereads_nil
    · exact rereads_superInit
  have hinstance : Rereads [.assign [wrapped] (.call l.provider [] [])] :=
    isOperand_wrapped.rereads_assign rfl (textAt_attribute _ _ _)
      (isOperand_call (isOperand_fetched hl.provider) (by simp)).reads_unspelled.textReads
  have hhook := rereads_hook hl.hooks.construct (List.forall_mem_singleton.mpr isOperand_wrapped)
  unfold TypeLayout.constructor
  rw [h.fragments.1]
  simp only [Option.map_none, Option.toList_none, List.append_nil]
  exact rereads_constructorOf hps (((hsuper.append hinstance).append hfill).append hhook)
    fun _ => by simp [allUnspelled_append, Stmt.allUnspelled, Stmt.unspelled]

/-- **The module of a class around a class is read back** from its text. -/
theorem rereads_tree : Rereads (l.tree o k modules) ∧ Stmt.allUnspelled (l.tree o k modules) ≠ [] := by
  have hplan := h.plan tw
  obtain ⟨v, hproperties⟩ := hl.properties
  have hpath : Rereads [.annAssign (.name instanceName) (pathExpr (.cls k)) none true] := by
    have hdotted := isOperand_dotted (h.paths _ List.mem_cons_self)
    exact rereads_declare (by decide) hdotted.reads_unspelled.textReads
  have hprops : Rereads l.properties := by
    rw [hproperties]
    refine (rereads_flatMap fun q hq => ?_).append (rereads_flatMap fun q hq =>
      rereads_typeProperty (h.properties q hq) v)
    obtain ⟨hname, hwritable⟩ := hplan.properties q hq
    exact rereads_fieldProperty hname (Hint.isWritten_spell _ hwritable)
  have hmethods : Rereads (l.methods.flatMap fun m => m.statements o l.hooks) := by
    refine rereads_flatMap fun ml hml => ?_
    obtain ⟨m, hm, hwrites⟩ := Run.exists_of_forall₂_right hl.methods hml
    have hdeclares := h.declares hm
    have hrouted := h.routed m hm
    obtain ⟨i, hi, rfl⟩ := List.mem_map.mp hm
    exact rereads_statements hl.hooks hwrites hrouted (fun q hq => (hdeclares q hq).2) (h.results i hi)
      (h.names i hi) ⟨h.fragments.2.1, h.fragments.2.2.1⟩
  have hsource : Rereads (if o.includeSource then [placeholderStmt] else []) := by
    split
    · exact (isOperand_name (by decide)).rereads_assign rfl rfl (isWritten_const rfl).reads
    · exact rereads_nil
  have hbody := ((((rereads_namespaceLine.append (hpath.append rereads_blank)).append
    (h.rereads_constructor hl)).append hprops).append hmethods).append hsource
  have hbases : ∀ e ∈ o.bases.map pathExpr, IsOperand e :=
    List.forall_mem_map.mpr fun v hv => isOperand_dotted (h.paths v (List.mem_cons_of_mem _ hv))
  have hdecorators : ∀ d ∈ l.decorators, IsOperand d := by
    intro d hd
    obtain ⟨v, hv, hvd⟩ := Run.exists_of_forall₂_right hl.decorators hd
    rcases hvd with ⟨hnone, -⟩ | hfetched
    · rw [h.decorators v hv] at hnone
      cases hnone
    · exact isOperand_fetched hfetched
  have himports : Rereads ((modules ++ o.namespaces).eraseDups.map importOf) :=
    rereads_imports fun n hn => h.modules n (List.mem_eraseDups.mp hn)
  unfold TypeLayout.tree
  rw [h.fragments.2.2.2]
  refine ⟨(rereads_header himports _).append (rereads_class h.typeName hbases hdecorators ?_ ?_), ?_⟩
  · simpa using hbody
  · simp [namespaceLine, Stmt.allUnspelled, Stmt.unspelled]
  · simp [allUnspelled_append, Stmt.allUnspelled, Stmt.unspelled]

end IsPlainlyNamedAround

/-- **What is known of a draft is what its text is read as,** but for spellings and for lines that mean
nothing. What becomes of the draft is settled after that. -/
theorem draft_rereads {compiler : String} {q : Program} (hc : tw.cache < w.caches.size)
    (h : (tw.program k o compiler methods properties).outcome w = (.ok q, w'))
    (hplain : IsPlainlyNamedAround o k methods properties (w.compiler compiler).moduleNames) :
    ∃ tree, TypeWrapper.settle o (.ofTree .draft tree) = .ok q ∧
      Syntax.readModule (Program.ofTree .draft tree).text = .ok (Stmt.allUnspelled tree) := by
  obtain ⟨l, hq, hl, -, -⟩ := typeProgram_eq_ok hc h
  obtain ⟨hrereads, hne⟩ := hplain.rereads_tree hl
  exact ⟨_, hq, hrereads.readModule hne⟩

end Around

end Facade.Wrapper
