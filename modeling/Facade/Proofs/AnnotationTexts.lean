import Facade.Proofs.Coverage
import Facade.Proofs.Literals
import Facade.Syntax.Check

/-!
# Texts of annotations

An annotation of which nothing is left to a display is written as an expression that can be read.

* `IsReadable`: a text is read as an expression that can be run.
* `IsWritten`: an expression is written as one that is read as itself without its spellings.
* `IsOperand`: an expression that is read as it is written, whatever is put behind it.
* `Hint.isWritable`, `Hint.isWritten_spell`: an annotation made of names and literals, and that its text
  is read.
-/

namespace Facade.Syntax

open Text

attribute [local simp] Expr.isSound Expr.areSound

/-- A text is read as an expression that can be run. -/
def IsReadable (s : String) : Prop := ∃ e, TextReads s e ∧ e.isSound false = true

/-- An expression is read from its text, but for the spellings that it carries, and it is no tuple,
which would lose its parentheses in a subscript. -/
structure IsWritten (e : Expr) : Prop where
  reads : TextReads (e.text .draft) e.unspelled
  sound : e.unspelled.isSound false = true
  notTuple : ∀ es, e ≠ .tuple es

/-- An operand that opens with a name is read as it is written. -/
structure IsOperand (e : Expr) : Prop where
  reads : OperandReads (e.textAt .draft .atom) e
  text : e.text .draft = e.textAt .draft .atom
  notConst : ∀ c, e ≠ .const c
  unspelled : e.unspelled = e
  sound : e.isSound false = true

variable {e : Expr} {es : List Expr} {s : String}

theorem IsWritten.readable (h : IsWritten e) : IsReadable (e.text .draft) :=
  ⟨e.unspelled, h.reads, h.sound⟩

theorem IsOperand.isWritten (h : IsOperand e) (hes : ∀ es, e ≠ .tuple es) : IsWritten e :=
  ⟨by rw [h.unspelled, h.text]; exact h.reads.textReads, by rw [h.unspelled, h.sound], hes⟩

theorem isOperand_name (h : isPlainName s = true) : IsOperand (.name s) :=
  ⟨operandReads_name h, rfl, by simp, rfl, by rw [Expr.isSound, isIdentifier_of_isPlainName h]⟩

theorem IsOperand.attribute (h : IsOperand e) (hs : isPlainName s = true) :
    IsOperand (.attribute e s) := by
  have htext (l : Level) : (Expr.attribute e s).textAt .draft l = e.textAt .draft .atom ++ "." ++ s := by
    cases e with
    | const c => exact absurd rfl (h.notConst c)
    | _ => simp [Expr.textAt]
  refine ⟨?_, (htext _).trans (htext _).symm, by simp, rfl, by
    rw [Expr.isSound, isIdentifier_of_isPlainName hs, h.sound]; rfl⟩
  rw [htext]
  exact h.reads.attribute hs

/-- **A dotted name.** -/
theorem isOperand_dotted (h : isDottedName s = true) : IsOperand (Expr.dotted s) := by
  have attributes (ns : List String) : ∀ e, IsOperand e → (∀ n ∈ ns, isPlainName n = true) →
      IsOperand (ns.foldl Expr.attribute e) := by
    induction ns with
    | nil => exact fun e he _ => he
    | cons n ns ih =>
      intro e he hns
      rw [List.forall_mem_cons] at hns
      exact ih _ (he.attribute hns.1) hns.2
  obtain ⟨p, ps, hsplit, -⟩ := splitDots_cases s.toList
  rw [isDottedName, dottedParts, hsplit, List.map_cons, List.all_eq_true, List.forall_mem_cons] at h
  rw [Expr.dotted, dottedParts, hsplit, List.map_cons]
  exact attributes _ _ (isOperand_name h.1) h.2

/-! ## Lists, subscripts and literals -/

theorem areSound_of_forall {wait : Bool} (h : ∀ e ∈ es, e.isSound wait = true) :
    Expr.areSound wait es = true := by
  induction es with
  | nil => rw [Expr.areSound]
  | cons e es ih =>
    rw [List.forall_mem_cons] at h
    have hstar : ∀ x, e ≠ .starred x := by
      rintro x rfl
      simp at h
    rw [Expr.areSound.eq_3 wait e es hstar, h.1, ih h.2]
    rfl

/-- Several expressions are read from their texts. -/
theorem forall₂_reads (h : ∀ e ∈ es, IsWritten e) :
    List.Forall₂ TextReads (Expr.texts .draft .test es) (es.map Expr.unspelled) := by
  induction es with
  | nil => exact .nil
  | cons e es ih =>
    rw [List.forall_mem_cons] at h
    exact .cons h.1.reads (ih h.2)

theorem areSound_unspelled (h : ∀ e ∈ es, IsWritten e) :
    Expr.areSound false (es.map Expr.unspelled) = true :=
  areSound_of_forall (List.forall_mem_map.mpr fun e he => (h e he).sound)

theorem unspelled_list (es : List Expr) :
    (Expr.list es).unspelled = .list (es.map Expr.unspelled) := by
  rw [Expr.unspelled, allUnspelled_eq]

theorem unspelled_subscripted (h : e.unspelled = e) (es : List Expr) :
    (Hint.subscripted e es).unspelled = Hint.subscripted e (es.map Expr.unspelled) := by
  match es with
  | [] => exact h
  | [i] =>
    show Expr.subscript e.unspelled i.unspelled = _
    rw [h]
    rfl
  | i :: j :: es =>
    show Expr.subscript e.unspelled (.tuple (Expr.allUnspelled (i :: j :: es))) = _
    rw [h, allUnspelled_eq]
    rfl

theorem isWritten_list (h : ∀ e ∈ es, IsWritten e) : IsWritten (.list es) := by
  refine ⟨?_, ?_, by simp⟩
  · rw [Expr.text, Expr.textAt, unspelled_list]
    exact textReads_list (forall₂_reads h)
  · rw [unspelled_list, Expr.isSound, areSound_unspelled h]

/-- **A subscript,** however many arguments it has. -/
theorem IsOperand.subscripted (h : IsOperand e) (hne : ∀ es, e ≠ .tuple es)
    (hes : ∀ e ∈ es, IsWritten e) : IsWritten (Hint.subscripted e es) := by
  match es, hes with
  | [], _ => exact h.isWritten hne
  | [i], hes =>
    have hi := hes i (by simp)
    have htext : (Expr.subscript e i).text .draft =
        e.textAt .draft .atom ++ "[" ++ i.textAt .draft .test ++ "]" := by
      rw [Expr.text, Expr.textAt]
      · exact fun h => hi.notTuple _ h
      · exact fun es h => hi.notTuple es h
    refine ⟨?_, ?_, by simp [Hint.subscripted]⟩
    · rw [unspelled_subscripted h.unspelled, Hint.subscripted, htext]
      exact (h.reads.subscript_one hi.reads).textReads
    · show (Expr.subscript e.unspelled i.unspelled).isSound false = true
      rw [h.unspelled, Expr.isSound, h.sound, hi.sound]
      rfl
  | i :: j :: es, hes =>
    have htext : (Expr.subscript e (.tuple (i :: j :: es))).text .draft =
        e.textAt .draft .atom ++ "[" ++
          ", ".intercalate (Expr.texts .draft .test (i :: j :: es)) ++ "]" := by
      simp [Expr.text, Expr.textAt, Expr.texts, tupleItems]
    refine ⟨?_, ?_, by simp [Hint.subscripted]⟩
    · rw [unspelled_subscripted h.unspelled]
      show TextReads ((Expr.subscript e (.tuple (i :: j :: es))).text .draft) _
      rw [htext]
      exact (h.reads.subscript_tuple (forall₂_reads hes)).textReads
    · rw [unspelled_subscripted h.unspelled]
      show (Expr.subscript e (.tuple ((i :: j :: es).map Expr.unspelled))).isSound false = true
      rw [Expr.isSound, Expr.isSound, h.sound, areSound_unspelled hes]
      rfl

/-! ## Literals -/

theorem isSound_signed (b : Bool) (c : Constant) (wait : Bool) :
    (signed b (.const c)).isSound wait = true := by
  cases b <;> simp [signed]

theorem isSound_literal? {v : Value} (h : v.literal? = some e) (wait : Bool) :
    e.unspelled.isSound wait = true ∧ ∀ es, e ≠ .tuple es := by
  have hsigned (b : Bool) (c : Constant) : (signed b (.const c)).unspelled.isSound wait = true ∧
      ∀ es, signed b (.const c) ≠ .tuple es := by
    rw [unspelled_signed]
    exact ⟨isSound_signed b c wait, by cases b <;> simp [signed]⟩
  unfold Value.literal? at h
  split at h
  · obtain rfl := Option.some.inj h
    exact hsigned false _
  · obtain rfl := Option.some.inj h
    exact hsigned false _
  · obtain rfl := Option.some.inj h
    exact hsigned _ _
  · split at h
    · obtain rfl := Option.some.inj h
      exact hsigned _ _
    · cases h
  · split at h
    · obtain rfl := Option.some.inj h
      unfold complexExpr
      split
      · exact hsigned _ _
      · simp [Expr.unspelled, realPartExpr, isSound_signed]
    · cases h
  · obtain rfl := Option.some.inj h
    exact hsigned false _
  · obtain rfl := Option.some.inj h
    exact hsigned false _
  · cases h

theorem isWritten_literal? {v : Value} (h : v.literal? = some e) : IsWritten e :=
  ⟨textReads_literal? h, (isSound_literal? h false).1, (isSound_literal? h false).2⟩

theorem isWritten_const {c : Constant} (h : c.isPlain = true) : IsWritten (.const c) :=
  ⟨textReads_const h, by rw [show (Expr.const c).unspelled = .const c from rfl, Expr.isSound], by simp⟩

end Facade.Syntax

namespace Facade.Hint

open Syntax

variable {w : World} {self : Option String} {a : Value} {as : List Value}

mutual

/-- Whether an annotation is made of names and literals, so that nothing of it is left to its
display. -/
def isWritable : Value → Bool
  | .none | .ellipsis | .str _ | .subStr _ | .typeVar _ _ | .forward _ => true
  | .list vs => areWritable vs
  | .generic _ (.special "Literal") as => !as.isEmpty && as.all Value.isLiteral
  | .generic _ o as => isDottedName ((qualifiedName? o).getD "") && areWritable as
  | .pipe as => areWritable as
  | .annotated o _ => isWritable o
  | .cls c =>
    c.id = (Standard.named "_empty").id || c.id = (Standard.named "Any").id ||
      c.id = Standard.noneType.id || isDottedName c.path
  | .newType n | .typeAlias n => isDottedName n.path
  | .special n => isDottedName ((Standard.aliasClass? n).elim ("typing." ++ n) Named.path)
  | v => v.isLiteral

/-- Whether several annotations are made of names and literals. -/
def areWritable : List Value → Bool
  | [] => true
  | a :: as => isWritable a && areWritable as

end

theorem dotted_ne_tuple (s : String) (es : List Expr) : Expr.dotted s ≠ .tuple es := by
  intro h
  have := path?_dotted s
  rw [h] at this
  cases this

theorem isWritten_dotted {s : String} (h : isDottedName s = true) : IsWritten (Expr.dotted s) :=
  (isOperand_dotted h).isWritten (dotted_ne_tuple s)

theorem isWritten_valueExpr (h : a.isLiteral = true) : IsWritten (valueExpr w a) := by
  obtain ⟨e, he⟩ := Option.isSome_iff_exists.mp h
  rw [valueExpr, he]
  exact isWritten_literal? he

theorem isWritten_literalForm (hne : as ≠ []) (h : ∀ a ∈ as, a.isLiteral = true) :
    IsWritten (literalForm w as) := by
  rw [literalForm, if_neg (by simpa using hne)]
  refine (isOperand_dotted (by decide)).subscripted (dotted_ne_tuple _) fun e he => ?_
  obtain ⟨a, ha, rfl⟩ := List.mem_map.mp he
  exact isWritten_valueExpr (h a ha)

theorem isWritten_callableGroups {es : List Expr} (h : ∀ e ∈ es, IsWritten e) (grouped : Bool) :
    ∀ e ∈ callableGroups grouped Expr.list es, IsWritten e := by
  unfold callableGroups
  split
  · exact h
  · split
    · rename_i r hr
      intro e he
      rcases List.mem_pair.mp he with rfl | rfl
      · exact isWritten_list fun e he => h e (List.dropLast_subset es he)
      · exact h e (List.mem_of_getLast? hr)
    · exact List.forall_mem_singleton.mpr (isWritten_list fun e he => absurd he List.not_mem_nil)

theorem isWritten_forward (s : String) : IsWritten (.call (.name "ForwardRef") [.str s] []) := by
  have hname : Text.isPlainName "ForwardRef" = true := by decide
  have harg : ArgText ((Expr.const (.str s)).text .draft) {} { args := [.str s] } :=
    (textReads_const rfl).argText rfl
  have htext : (Expr.call (.name "ForwardRef") [.str s] []).text .draft =
      "ForwardRef" ++ "(" ++ ", ".intercalate [(Expr.const (.str s)).text .draft] ++ ")" := rfl
  refine ⟨?_, ?_, by simp⟩
  · rw [htext]
    exact ((operandReads_name hname).call (.cons harg (.nil _))).textReads
  · have hargs : Expr.areSound false [Expr.str s] = true :=
      areSound_of_forall (by simp [Expr.str, Expr.isSound])
    simp [Expr.unspelled, Expr.isSound, hargs, Expr.areSoundKeywords,
      Text.isIdentifier_of_isPlainName hname, areDistinct]

mutual

/-- **The text of an annotation made of names and literals is read.** -/
theorem isWritten_spell : (a : Value) → isWritable a = true → IsWritten (spell w self a)
  | .none, _ => by
    rw [spell]
    exact isWritten_const rfl
  | .ellipsis, _ => by
    rw [spell]
    exact isWritten_const rfl
  | .str s, _ | .subStr s, _ => by
    rw [spell]
    exact isWritten_const rfl
  | .typeVar _ n, _ => by
    have hany : IsWritten (Expr.dotted "typing.Any") := isWritten_dotted (by decide)
    cases self with
    | none => rwa [spell]
    | some t =>
      rw [spell]
      split
      · exact isWritten_const rfl
      · exact hany
  | .forward s, _ => by
    rw [spell]
    exact isWritten_forward s
  | .list vs, h => by
    rw [isWritable] at h
    rw [spell]
    exact isWritten_list (isWritten_spellAll vs h)
  | .pipe as, h => by
    rw [isWritable] at h
    rw [spell]
    exact (isOperand_dotted (by decide)).subscripted (dotted_ne_tuple _)
      (isWritten_spellAll as h)
  | .annotated o _, h => by
    rw [isWritable] at h
    rw [spell]
    exact isWritten_spell o h
  | .generic _ o as, h => by
    by_cases ho : o = .special "Literal"
    · subst ho
      rw [isWritable, Bool.and_eq_true, List.all_eq_true, Bool.not_eq_true',
        List.isEmpty_eq_false_iff] at h
      rw [spell]
      exact isWritten_literalForm h.1 h.2
    · rw [isWritable.eq_9 _ _ _ ho, Bool.and_eq_true] at h
      have hes := isWritten_spellAll as h.2
      have hbase := isOperand_dotted h.1
      by_cases hc : ∃ c, o = .cls c
      · obtain ⟨c, rfl⟩ := hc
        rw [spell]
        split
        · exact hbase.subscripted (dotted_ne_tuple _) (isWritten_callableGroups hes _)
        · exact hbase.subscripted (dotted_ne_tuple _) hes
      · rw [spell.eq_10 _ _ _ _ _ ho fun c h => hc ⟨c, h⟩]
        exact hbase.subscripted (dotted_ne_tuple _) hes
  | .cls c, h => by
    rw [isWritable] at h
    rw [spell]
    split
    · exact isWritten_dotted (by decide)
    · rename_i hnamed
      split
      · exact isWritten_const rfl
      · rename_i hnone
        simp only [Bool.or_eq_true, decide_eq_true_eq, not_or] at h hnamed
        exact isWritten_dotted ((h.resolve_left fun h => h.elim (fun h => h.elim hnamed.1 hnamed.2) hnone))
  | .newType n, h | .typeAlias n, h | .special n, h => by
    rw [isWritable] at h
    rw [spell]
    exact isWritten_dotted h
  | .bool _, h | .int _, h | .float _, h | .complex _ _, h | .bytes _, h | .uuid _, h | .path _, h
  | .purePath _, h | .moment _, h | .subInt _, h | .opaqueObj _ _, h | .tuple _, h | .dict _, h
  | .instance _, h | .function _, h | .module _, h | .bound _ _, h | .partialCall _ _ _, h
  | .property _ _, h | .staticMethod _, h | .classMethod _, h | .native _, h | .superOf _ _, h
  | .coroutine _ _, h | .cache _, h | .methodInfo _ _, h => by
    rw [spell]
    · exact isWritten_valueExpr h
    all_goals simp

theorem isWritten_spellAll : (as : List Value) → areWritable as = true →
    ∀ e ∈ spellAll w self as, IsWritten e
  | [], _ => by simp [spellAll]
  | a :: as, h => by
    rw [areWritable, Bool.and_eq_true] at h
    rw [spellAll, List.forall_mem_cons]
    exact ⟨isWritten_spell a h.1, isWritten_spellAll as h.2⟩

end

end Facade.Hint
