import Facade.Proofs.Operands
import Facade.Syntax.Literal

/-!
# Texts of literals

* `lexes_constant`: a literal without a sign is one token.
* `textReads_signed`, `textReads_sum`: numbers behind a sign, complex numbers in parentheses.
* `textReads_literal?`: the text of every literal is read as the literal.
-/

namespace Facade.Syntax

open Text Number

/-! ## Literals -/

/-- Whether a literal is written as one token: it has no sign and is finite. -/
def Constant.isPlain : Constant → Bool
  | .float x | .imaginary x => x.isFinite && !x.isNegative
  | .marked _ => Bool.false
  | _ => Bool.true

/-- The literals that are numbers. -/
def Constant.isNumber : Constant → Bool
  | .int _ | .float _ | .imaginary _ => Bool.true
  | _ => Bool.false

/-- A text opens with a digit. -/
def OpensDigit (cs : List Char) : Prop := ∃ d r, cs = d :: r ∧ d.isDigit = true

section Numbers

variable {x : Binary64} {n : Numeral}

theorem opensDigit_chars (n : Numeral) (cs : List Char) : OpensDigit (n.chars ++ cs) := by
  obtain ⟨d, ds, hd⟩ := List.exists_cons_of_ne_nil n.whole_ne_nil
  exact ⟨d, _, by rw [Numeral.chars, hd]; rfl, n.whole_isDigits d (by simp [hd])⟩

theorem lexes_int (n : Nat) :
    Lexes (Avoids joinsOperand) (Constant.int n).text.toList [.number (.int n)] ∧
      OpensDigit (Constant.int n).text.toList := by
  let d : Numeral := ⟨Nat.toDigits 10 n, none, none, Nat.toDigits_ne_nil, isDigits_toDigits n, by simp,
    by simp, by simp⟩
  have hchars : (Constant.int n).text.toList = d.chars := by
    simp [Constant.text, d, Numeral.chars, Numeral.tail, Numeral.exponentChars]
  have hdigits : d.digits = n := by simp [Numeral.digits, d, digitsVal_toDigits]
  have hlex := lexes_numeral d fun _ => by
    obtain rfl | hn := Nat.eq_zero_or_pos n
    · exact .inl rfl
    · exact .inr (FloatStyle.head?_toDigits hn.ne')
  rw [show d.isWhole = true from rfl, if_pos rfl, hdigits] at hlex
  rw [hchars]
  exact ⟨hlex, by simpa using opensDigit_chars d []⟩

theorem realText_of_isFinite (h : x.isFinite = true) (style : FloatStyle) :
    realText x style = style.render x := by
  obtain ⟨m, q, hparts⟩ := Binary64.exists_parts h
  simp only [realText, hparts]

theorem lexes_float (h : x.isFinite = true) (hx : x.isNegative = false) :
    Lexes (Avoids joinsOperand) (Constant.float x).text.toList [.number (.float x)] ∧
      OpensDigit (Constant.float x).text.toList := by
  obtain ⟨n, hn⟩ := FloatStyle.alone.exists_writes h
  have hwhole : n.isWhole = false := hn.isWhole
  have hchars : (Constant.float x).text.toList = n.chars := by
    rw [Constant.text, realText_of_isFinite h, hn.render, hx]
    simp
  have hlex := lexes_numeral n hn.head
  rw [hwhole, if_neg Bool.false_ne_true, hn.value, Binary64.abs_of_nonneg hx] at hlex
  rw [hchars]
  exact ⟨hlex, by simpa using opensDigit_chars n []⟩

theorem lexes_imaginaryConstant (h : x.isFinite = true) (hx : x.isNegative = false) :
    Lexes (Avoids joinsOperand) (Constant.imaginary x).text.toList [.number (.imaginary x)] ∧
      OpensDigit (Constant.imaginary x).text.toList := by
  obtain ⟨n, hn⟩ := FloatStyle.part.exists_writes h
  have hchars : (Constant.imaginary x).text.toList = n.chars ++ ['j'] := by
    rw [Constant.text, realText_of_isFinite h, hn.render, hx]
    simp
  have hlex := lexes_imaginary n
  rw [hn.value, Binary64.abs_of_nonneg hx] at hlex
  rw [hchars]
  exact ⟨hlex, opensDigit_chars n ['j']⟩

/-- **A number without a sign is one token.** -/
theorem lexes_number {c : Constant} (hc : c.isNumber = true) (hplain : c.isPlain = true) :
    Lexes (Avoids joinsOperand) c.text.toList [c.token] ∧ OpensDigit c.text.toList := by
  cases c with
  | int n => exact lexes_int n
  | float x =>
    simp only [Constant.isPlain, Bool.and_eq_true, Bool.not_eq_true'] at hplain
    exact lexes_float hplain.1 hplain.2
  | imaginary x =>
    simp only [Constant.isPlain, Bool.and_eq_true, Bool.not_eq_true'] at hplain
    exact lexes_imaginaryConstant hplain.1 hplain.2
  | _ => simp [Constant.isNumber] at hc

end Numbers

theorem joinsSign_of_isDigit {c : Char} (h : c.isDigit = true) : joinsSign c = false := by
  rw [← Bool.not_eq_true]
  intro hc
  have hsigns : ∀ d ∈ ['*', '/', '>', '<', '=', '.'], d.isDigit = false :=
    Text.forall_of_all (by decide)
  rw [hsigns c (by simpa [joinsSign] using hc)] at h
  cases h

theorem OpensDigit.not_isLayout {cs : List Char} (h : OpensDigit cs) :
    ∃ c r, cs = c :: r ∧ isLayout c = false := by
  obtain ⟨d, r, hcs, hd⟩ := h
  exact ⟨d, r, hcs, (not_isIdentifierStart_of_isDigit hd).2.1⟩

/-- **A literal without a sign is one token.** -/
theorem lexes_constant {c : Constant} (h : c.isPlain = true) :
    Lexes (Avoids joinsOperand) c.text.toList [c.token] ∧
      ∃ d r, c.text.toList = d :: r ∧ isLayout d = false := by
  have hword {s : String} (hs : isIdentifier s = true) :=
    (lexes_word hs).mono fun _ => joinsWord_of_joinsOperand
  cases c with
  | none => exact ⟨hword (by decide), _, _, rfl, by decide⟩
  | true => exact ⟨hword (by decide), _, _, rfl, by decide⟩
  | false => exact ⟨hword (by decide), _, _, rfl, by decide⟩
  | ellipsis => exact ⟨lexes_ellipsis.mono fun _ _ => trivial, _, _, rfl, by decide⟩
  | int | float | imaginary =>
    have hlex := lexes_number rfl h
    exact ⟨hlex.1, hlex.2.not_isLayout⟩
  | str s =>
    refine ⟨(lexes_quote s).mono fun _ => joinsWord_of_joinsOperand, ?_⟩
    refine ⟨quoteMark s.toList, _, by rw [Constant.text, quote, String.toList_ofList]; rfl, ?_⟩
    rcases isQuote_quoteMark s.toList with h | h <;> rw [h] <;> decide
  | bytes bs =>
    have htext : ∃ r, (Constant.bytes bs).text.toList = 'b' :: r := by
      rw [Constant.text, quoteBytes, String.toList_ofList]
      exact ⟨_, rfl⟩
    obtain ⟨r, hr⟩ := htext
    exact ⟨(lexes_bytes bs).mono fun _ => joinsWord_of_joinsOperand, 'b', r, hr, by decide⟩
  | marked s => simp [Constant.isPlain] at h

/-- **The text of a literal without a sign is read as the literal.** -/
theorem textReads_const {c : Constant} (h : c.isPlain = true) :
    TextReads ((Expr.const c).text .draft) (.const c) := by
  obtain ⟨hlex, hopen⟩ := lexes_constant h
  rw [Expr.text, Expr.textAt]
  exact ⟨⟨_, hlex, (primaryReads_const c).factorReads.exprReads⟩, hopen⟩

/-- A number behind a sign that it may have. -/
theorem reads_signed {c : Constant} {cs : List Char}
    (hlex : Lexes (Avoids joinsOperand) cs [c.token]) (hcs : OpensDigit cs) (b : Bool) :
    ∃ ts, Lexes (Avoids joinsOperand) (if b then '-' :: cs else cs) ts ∧
      FactorReads ts (signed b (.const c)) := by
  obtain ⟨d, r, rfl, hd⟩ := hcs
  cases b with
  | false => exact ⟨_, hlex, (primaryReads_const c).factorReads⟩
  | true =>
    have hminus := lexes_sign (c := '-') (by decide)
    exact ⟨_, hminus.append hlex fun rest _ => avoids_cons (joinsSign_of_isDigit hd) _,
      (primaryReads_const c).factorReads.minus⟩

/-- **The text of a number that may have a sign.** -/
theorem textReads_signed {c : Constant} (hc : c.isNumber = true) (h : c.isPlain = true) (b : Bool) :
    TextReads ((signed b (.const c)).text .draft) (signed b (.const c)) := by
  obtain ⟨hlex, hcs⟩ := lexes_number hc h
  obtain ⟨ts, hts, hreads⟩ := reads_signed hlex hcs b
  have htext : ((signed b (.const c)).text .draft).toList =
      if b then '-' :: c.text.toList else c.text.toList := by
    cases b
    · simp [signed, Expr.text, Expr.textAt]
    · simp [signed, Expr.text, Expr.textAt, parenIf, UnaryOp.level, UnaryOp.text, Level.factor,
        Level.test]
  refine ⟨⟨ts, htext ▸ hts, hreads.exprReads⟩, ?_⟩
  rw [htext]
  cases b
  · exact hcs.not_isLayout
  · exact ⟨'-', _, rfl, by decide⟩

/-! ## Complex numbers -/

section Complex

variable {re im : Binary64}

/-- The real part of a sum is read as the integer that it is written as, or as the number. -/
theorem lexes_realPart (hre : re.isFinite = true) :
    ∃ cs, (FloatStyle.part.render re).toList = (if re.isNegative then '-' :: cs else cs) ∧
      OpensDigit cs ∧ Lexes (Avoids joinsOperand) cs
        [(re.wholeDecimal?.elim (Constant.float re.abs) Constant.int).token] := by
  obtain ⟨n, hn⟩ := FloatStyle.part.exists_writes hre
  refine ⟨n.chars, by rw [hn.render, String.toList_ofList], by simpa using opensDigit_chars n [], ?_⟩
  have hlex := lexes_numeral n hn.head
  rw [hn.value] at hlex
  cases hwhole : n.isWhole with
  | true =>
    rw [hwhole, if_pos rfl] at hlex
    rw [hn.whole hwhole]
    exact hlex
  | false =>
    have hnone : re.wholeDecimal? = none := by
      have := hn.isWhole
      rw [hwhole] at this
      simpa [FloatStyle.part] using this.symm
    rw [hwhole, if_neg Bool.false_ne_true] at hlex
    rw [hnone]
    exact hlex

/-- The imaginary part of a sum, behind the sign between the parts. -/
theorem lexes_imaginaryPart (him : im.isFinite = true) :
    ∃ cs, ((if (FloatStyle.part.render im).startsWith "-" then "" else "+") ++
        FloatStyle.part.render im).toList = (if im.isNegative then '-' else '+') :: cs ∧
      OpensDigit cs ∧ Lexes (Avoids joinsOperand) (cs ++ ['j'])
        [(Constant.imaginary im.abs).token] := by
  obtain ⟨n, hn⟩ := FloatStyle.part.exists_writes him
  have hcs : OpensDigit n.chars := by simpa using opensDigit_chars n []
  refine ⟨n.chars, ?_, hcs, ?_⟩
  · have hstarts : (FloatStyle.part.render im).startsWith "-" = im.isNegative := by
      rw [Bool.eq_iff_iff, String.startsWith_string_iff, hn.render, String.toList_ofList]
      obtain ⟨d, r, hd, hdigit⟩ := hcs
      have hne : '-' ≠ d := by rintro rfl; cases hdigit
      cases im.isNegative <;> simp [hd, hne]
    rw [hstarts, hn.render]
    cases im.isNegative <;> simp
  · have hlex := lexes_imaginary n
    rw [hn.value] at hlex
    exact hlex

/-- **The text of a complex number with a real part.** -/
theorem textReads_sum (hre : re.isFinite = true) (him : im.isFinite = true)
    (h : (re.isZero && !re.isNegative) = false) :
    TextReads (renderComplex re im)
      (.binary (if im.isNegative then .sub else .add) (realPartExpr re)
        (.const (.imaginary im.abs))) := by
  obtain ⟨cs, hcs, hdigit, hlex⟩ := lexes_realPart hre
  obtain ⟨ds, hds, hdigit', hlex'⟩ := lexes_imaginaryPart him
  obtain ⟨ts, hts, hreads⟩ := reads_signed hlex hdigit re.isNegative
  obtain ⟨sign, hsign⟩ : ∃ c, c = if im.isNegative then '-' else '+' := ⟨_, rfl⟩
  have hop : separates sign = true ∧ joinsOperand sign = false := by
    subst hsign
    cases im.isNegative <;> exact ⟨by decide, joinsOperand_of_ascii (by decide)⟩
  have htext : (renderComplex re im).toList =
      '(' :: (((if re.isNegative then '-' :: cs else cs) ++ sign :: (ds ++ ['j'])) ++ [')']) := by
    rw [← hsign] at hds
    simp only [String.toList_append] at hds
    simp only [renderComplex, h, Bool.false_eq_true, if_false, String.toList_append, hcs,
      List.append_assoc]
    rw [← List.append_assoc _ _ "j)".toList, hds]
    simp
  have hsum : Lexes (Avoids joinsOperand)
      ((if re.isNegative then '-' :: cs else cs) ++ sign :: (ds ++ ['j']))
      (ts ++ .sign (String.ofList [sign]) :: [(Constant.imaginary im.abs).token]) := by
    refine hts.append ((lexes_sign hop.1).append hlex' fun rest _ => ?_) fun rest _ =>
      avoids_cons hop.2 _
    obtain ⟨d, r, rfl, hd⟩ := hdigit'
    exact avoids_cons (joinsSign_of_isDigit hd) _
  have hpair : (String.ofList [sign], if im.isNegative then BinaryOp.sub else .add) = ("+", .add) ∨
      (String.ofList [sign], if im.isNegative then BinaryOp.sub else .add) = ("-", .sub) := by
    subst hsign
    cases im.isNegative
    · exact .inl rfl
    · exact .inr rfl
  have htree := (hreads.sum (primaryReads_const (.imaginary im.abs)).factorReads hpair).paren
  refine ⟨⟨_, ?_, htree.factorReads.exprReads⟩, '(', _, htext, by decide⟩
  rw [htext]
  exact (hsum.enclosed (.inl ⟨rfl, rfl⟩) fun rest => avoids_of_standsAlone (by decide) _).mono
    fun _ _ => trivial

end Complex

/-! ## All literals -/

mutual

/-- An expression without the spellings that it carries, also in lists and subscripts. -/
def Expr.unspelled : Expr → Expr
  | .spelled _ e => e.unspelled
  | .list es => .list (Expr.allUnspelled es)
  | .tuple es => .tuple (Expr.allUnspelled es)
  | .subscript e i => .subscript e.unspelled i.unspelled
  | e => e

/-- Several expressions without the spellings that they carry. -/
def Expr.allUnspelled : List Expr → List Expr
  | [] => []
  | e :: es => e.unspelled :: Expr.allUnspelled es

end

theorem allUnspelled_eq (es : List Expr) : Expr.allUnspelled es = es.map Expr.unspelled := by
  induction es with
  | nil => rw [Expr.allUnspelled, List.map_nil]
  | cons e es ih => rw [Expr.allUnspelled, ih, List.map_cons]

theorem unspelled_signed (b : Bool) (c : Constant) :
    (signed b (.const c)).unspelled = signed b (.const c) := by cases b <;> rfl

theorem isPlain_abs {x : Binary64} (h : x.isFinite = true) :
    (Constant.float x.abs).isPlain = true ∧ (Constant.imaginary x.abs).isPlain = true := by
  have hfinite : x.abs.isFinite = true := by
    simp only [Binary64.isFinite, bne_iff_ne, ne_eq, Binary64.toNat_abs] at h ⊢
    omega
  simp [Constant.isPlain, hfinite, Binary64.isNegative_abs]

/-- The text of a complex number is read as its parts: their sum, or the imaginary one alone. -/
theorem textReads_complexExpr {re im : Binary64} (hre : re.isFinite = true)
    (him : im.isFinite = true) :
    TextReads ((complexExpr re im).text .draft) (complexExpr re im).unspelled := by
  unfold complexExpr
  cases h : re.isZero && !re.isNegative with
  | true =>
    rw [if_pos rfl, unspelled_signed]
    exact textReads_signed rfl (isPlain_abs him).2 _
  | false =>
    rw [if_neg Bool.false_ne_true, Expr.text, Expr.textAt]
    exact textReads_sum hre him h

/-- **The text of a literal is read as the literal.** -/
theorem textReads_literal? {v : Value} {e : Expr} (h : v.literal? = some e) :
    TextReads (e.text .draft) e.unspelled := by
  unfold Value.literal? at h
  split at h
  · obtain rfl := Option.some.inj h
    exact textReads_const rfl
  · rename_i b
    obtain rfl := Option.some.inj h
    cases b <;> exact textReads_const rfl
  · obtain rfl := Option.some.inj h
    rw [intExpr, unspelled_signed]
    exact textReads_signed rfl rfl _
  · split at h
    · rename_i hx
      obtain rfl := Option.some.inj h
      rw [realExpr, unspelled_signed]
      exact textReads_signed rfl (isPlain_abs hx).1 _
    · cases h
  · split at h
    · rename_i hx
      obtain rfl := Option.some.inj h
      rw [Bool.and_eq_true] at hx
      exact textReads_complexExpr hx.1 hx.2
    · cases h
  · obtain rfl := Option.some.inj h
    exact textReads_const rfl
  · obtain rfl := Option.some.inj h
    exact textReads_const rfl
  · cases h

end Facade.Syntax
