import Facade.Proofs.Grammar
import Facade.Syntax.Printer

/-!
# Texts of operands

What a text is read as where it is a part of a longer one.

* `TextReads`: a text is read as a tree wherever it stands as an expression.
* `OperandReads`: a text that opens with a name is read as a tree to which attributes, calls and
  subscripts may be added; `OperandReads.attribute`, `OperandReads.call`, `OperandReads.subscript`.
* `ArgText`, `ArgTexts`: a text is read as one more argument, several as a list of arguments.
-/

namespace Facade.Syntax

open Text Reader

/-! ## Expressions and operands -/

/-- A text is read as a tree wherever it stands as an expression. -/
structure TextReads (s : String) (e : Expr) : Prop where
  tokens : ∃ ts, Lexes (Avoids joinsOperand) s.toList ts ∧ ExprReads ts e
  opens : ∃ c r, s.toList = c :: r ∧ isLayout c = false

/-- A text that opens with a name is read as an operand. -/
structure OperandReads (s : String) (e : Expr) : Prop where
  tokens : ∃ ts, Lexes (Avoids joinsWord) s.toList ts ∧ PrimaryReads ts e
  opens : ∃ c r, s.toList = c :: r ∧ isIdentifierStart c = true

theorem TextReads.readExpr {s : String} {e : Expr} (h : TextReads s e) : readExpr s = .ok e := by
  obtain ⟨ts, hlex, hreads⟩ := h.tokens
  exact readExpr_of_lexes hlex (avoids_nil _) h.opens hreads

theorem joinsWord_of_joinsOperand {rest : List Char} (h : Avoids joinsOperand rest) :
    Avoids joinsWord rest := fun c hc => by
  have := h c hc
  simp only [joinsOperand, Bool.or_eq_false_iff] at this
  exact this.1

theorem joinsPoint_of_isIdentifierStart {c : Char} (h : isIdentifierStart c = true) :
    joinsPoint c = false := by
  have hsigns : ∀ d ∈ ['*', '/', '>', '<', '=', '.'], isIdentifierStart d = false := by
    simp [isIdentifierStart_of_ascii]
  rw [joinsPoint, Bool.or_eq_false_iff]
  constructor
  · rw [← Bool.not_eq_true]
    intro hc
    rw [hsigns c (by simpa [joinsSign] using hc)] at h
    cases h
  · rw [← Bool.not_eq_true]
    intro hdigit
    rw [(not_isIdentifierStart_of_isDigit hdigit).1] at h
    cases h

theorem isIdentifierStart_of_isIdentifier {s : String} (h : isIdentifier s = true) :
    ∃ c r, s.toList = c :: r ∧ isIdentifierStart c = true := by
  cases hs : s.toList with
  | nil => simp [isIdentifier, hs, isIdentifierChars] at h
  | cons c r =>
    rw [isIdentifier, hs, isIdentifierChars, Bool.and_eq_true] at h
    exact ⟨c, r, rfl, h.1⟩

theorem OperandReads.textReads {s : String} {e : Expr} (h : OperandReads s e) : TextReads s e := by
  obtain ⟨ts, hlex, hreads⟩ := h.tokens
  obtain ⟨c, r, hs, hc⟩ := h.opens
  exact ⟨⟨ts, hlex.mono fun _ => joinsWord_of_joinsOperand, hreads.factorReads.exprReads⟩,
    c, r, hs, isLayout_of_isIdentifierStart hc⟩

/-! ## Names and attributes -/

section Operands

variable {s n : String} {e : Expr}

theorem operandReads_name (h : isPlainName s = true) : OperandReads s (.name s) := by
  have hid := isIdentifier_of_isPlainName h
  exact ⟨⟨_, lexes_word hid, primaryReads_name h⟩, isIdentifierStart_of_isIdentifier hid⟩

/-- What is put behind an operand belongs to it. -/
theorem OperandReads.extend (h : OperandReads s e) {cs : List Char} {us : List Token} {e' : Expr}
    (hlex : Lexes (Avoids joinsWord) cs us) (hcs : ∀ rest, Avoids joinsWord (cs ++ rest))
    (hreads : ∀ {ts}, PrimaryReads ts e → PrimaryReads (ts ++ us) e') :
    OperandReads (s ++ String.ofList cs) e' := by
  obtain ⟨ts, hts, hprimary⟩ := h.tokens
  obtain ⟨c, r, hs, hc⟩ := h.opens
  have htext : (s ++ String.ofList cs).toList = s.toList ++ cs := by simp
  refine ⟨⟨ts ++ us, ?_, hreads hprimary⟩, c, r ++ cs, by rw [htext, hs]; rfl, hc⟩
  rw [htext]
  exact hts.append hlex fun rest _ => hcs rest

/-- **An attribute.** -/
theorem OperandReads.attribute (h : OperandReads s e) (hn : isPlainName n = true) :
    OperandReads (s ++ "." ++ n) (.attribute e n) := by
  have hid := isIdentifier_of_isPlainName hn
  have hpoint : Lexes (Avoids joinsWord) (['.'] ++ n.toList) ([.sign "."] ++ [.word n]) := by
    obtain ⟨c, r, hs, hc⟩ := isIdentifierStart_of_isIdentifier hid
    refine lexes_point.append (lexes_word hid) fun rest _ => ?_
    rw [hs]
    exact avoids_cons (joinsPoint_of_isIdentifierStart hc) _
  have : OperandReads (s ++ String.ofList (['.'] ++ n.toList)) (.attribute e n) :=
    h.extend hpoint (fun _ => avoids_cons (joinsWord_of_ascii (by decide)) _)
      fun h => h.attribute hn
  have htext : String.ofList (['.'] ++ n.toList) = "." ++ n := by
    rw [← String.toList_inj, String.toList_ofList, String.toList_append]
    rfl
  rwa [htext, ← String.append_assoc] at this

/-! ## Calls -/

variable {texts : List String} {acc acc' : ArgsRead}

/-- A text is read as one more argument. -/
def ArgText (s : String) (acc acc' : ArgsRead) : Prop :=
  ∃ ts, Lexes (Avoids joinsOperand) s.toList ts ∧ ArgReads ts acc acc'

/-- Texts are read as arguments one after another. -/
inductive ArgTexts : List String → ArgsRead → ArgsRead → Prop
  | nil (acc : ArgsRead) : ArgTexts [] acc acc
  | cons {s : String} {texts : List String} {acc acc' acc'' : ArgsRead} :
    ArgText s acc acc' → ArgTexts texts acc' acc'' → ArgTexts (s :: texts) acc acc''

theorem ArgTexts.exists_tokens (h : ArgTexts texts acc acc') :
    ∃ tss, List.Forall₂ (Lexes (Avoids joinsOperand)) (texts.map String.toList) tss ∧
      ArgsRead.Reads tss acc acc' := by
  induction h with
  | nil acc => exact ⟨[], .nil, .nil acc⟩
  | cons h _ ih =>
    obtain ⟨ts, hlex, hreads⟩ := h
    obtain ⟨tss, hlexes, hreadss⟩ := ih
    exact ⟨ts :: tss, .cons hlex hlexes, .cons hreads hreadss⟩

theorem TextReads.argText (h : TextReads s e) (hacc : acc.keywords = []) :
    ArgText s acc { acc with args := e :: acc.args } := by
  obtain ⟨ts, hlex, hreads⟩ := h.tokens
  exact ⟨ts, hlex, hreads.argReads hacc⟩

theorem OperandReads.avoids_joinsSign (h : OperandReads s e) (rest : List Char) :
    Avoids joinsSign (s.toList ++ rest) := by
  obtain ⟨c, r, hs, hc⟩ := h.opens
  have hpoint := joinsPoint_of_isIdentifierStart hc
  rw [joinsPoint, Bool.or_eq_false_iff] at hpoint
  rw [hs]
  exact avoids_cons hpoint.1 _

/-- An argument with a mark before it. -/
theorem OperandReads.marked_argText (h : OperandReads s e) {mark : String} {sign : Token}
    (hmark : Lexes (Avoids joinsSign) mark.toList [sign])
    (hreads : ∀ {ts}, ExprReads ts e → ArgReads (sign :: ts) acc acc') :
    ArgText (mark ++ s) acc acc' := by
  obtain ⟨ts, hlex, hexpr⟩ := h.textReads.tokens
  refine ⟨sign :: ts, ?_, hreads hexpr⟩
  rw [String.toList_append]
  exact hmark.append hlex fun rest _ => h.avoids_joinsSign rest

theorem OperandReads.starred_argText (h : OperandReads s e) (hacc : acc.keywords = []) :
    ArgText ("*" ++ s) acc { acc with args := .starred e :: acc.args } :=
  h.marked_argText (lexes_sign (c := '*') (by decide)) fun h => h.starred_argReads hacc

theorem OperandReads.doubleStarred_argText (h : OperandReads s e) :
    ArgText ("**" ++ s) acc { acc with keywords := (none, e) :: acc.keywords } :=
  h.marked_argText lexes_doubleStar fun h => h.doubleStarred_argReads

theorem OperandReads.named_argText (h : OperandReads s e) (hn : isPlainName n = true) :
    ArgText (n ++ "=" ++ s) acc { acc with keywords := (some n, e) :: acc.keywords } := by
  obtain ⟨ts, hlex, hexpr⟩ := h.textReads.tokens
  have hsign : Lexes (Avoids joinsOperand) ("=" ++ s).toList (.sign "=" :: ts) := by
    rw [String.toList_append]
    exact (lexes_sign (c := '=') (by decide)).append hlex fun rest _ => h.avoids_joinsSign rest
  refine ⟨.word n :: .sign "=" :: ts, ?_, hexpr.named_argReads hn⟩
  rw [String.append_assoc, String.toList_append]
  refine (lexes_word (isIdentifier_of_isPlainName hn)).append hsign fun rest _ => ?_
  rw [String.toList_append]
  exact avoids_cons (c := '=') (joinsWord_of_ascii (by decide)) _

/-- **A call.** -/
theorem OperandReads.call (h : OperandReads s e) (hargs : ArgTexts texts {} acc) :
    OperandReads (s ++ "(" ++ ", ".intercalate texts ++ ")")
      (.call e acc.args.reverse acc.keywords.reverse) := by
  obtain ⟨tss, hlex, hreads⟩ := hargs.exists_tokens
  have hlist := lexes_intercalate hlex fun rest => avoids_of_standsAlone (c := ',') (by decide) rest
  have hparen := hlist.enclosed (.inl ⟨rfl, rfl⟩) fun rest => avoids_of_standsAlone (by decide) rest
  have := h.extend (hparen.mono fun _ _ => trivial)
    (fun _ => avoids_cons (joinsWord_of_ascii (by decide)) _) fun h => h.call hreads
  have htext : String.ofList ('(' :: ([',', ' '].intercalate (texts.map String.toList) ++ [')'])) =
      "(" ++ (", ".intercalate texts ++ ")") := by
    rw [← String.toList_inj, String.toList_ofList, String.toList_append, String.toList_append,
      String.toList_intercalate]
    rfl
  rw [htext] at this
  simpa [String.append_assoc] using this

/-- **An operand that is waited for.** -/
theorem OperandReads.await (h : OperandReads s e) : TextReads ("await " ++ s) (.await e) := by
  obtain ⟨ts, hlex, hreads⟩ := h.tokens
  have hword := (lexes_word (s := "await") (by decide)).append
    (lexes_space.append (hlex.mono fun _ => joinsWord_of_joinsOperand) fun _ _ => trivial) fun rest _ =>
      avoids_cons (c := ' ') (joinsWord_of_ascii (by decide)) _
  exact ⟨⟨_, by simpa using hword, hreads.await.exprReads⟩, ⟨'a', "wait ".toList ++ s.toList, by simp, by decide⟩⟩

/-! ## Lists and subscripts -/

variable {es : List Expr}

theorem exists_tokens_texts (h : List.Forall₂ TextReads texts es) :
    ∃ tss, List.Forall₂ (Lexes (Avoids joinsOperand)) (texts.map String.toList) tss ∧
      List.Forall₂ ExprReads tss es := by
  induction h with
  | nil => exact ⟨[], .nil, .nil⟩
  | cons h _ ih =>
    obtain ⟨ts, hlex, hreads⟩ := h.tokens
    obtain ⟨tss, hlexes, hreadss⟩ := ih
    exact ⟨ts :: tss, .cons hlex hlexes, .cons hreads hreadss⟩

theorem toList_enclosed (o c : String) (texts : List String) :
    (o ++ ", ".intercalate texts ++ c).toList =
      o.toList ++ ([',', ' '].intercalate (texts.map String.toList) ++ c.toList) := by
  rw [String.toList_append, String.toList_append, String.toList_intercalate, List.append_assoc]
  rfl

/-- **A list.** -/
theorem textReads_list (h : List.Forall₂ TextReads texts es) :
    TextReads ("[" ++ ", ".intercalate texts ++ "]") (.list es) := by
  obtain ⟨tss, hlex, hreads⟩ := exists_tokens_texts h
  have hlist := lexes_intercalate hlex fun rest => avoids_of_standsAlone (c := ',') (by decide) rest
  have hbrackets := hlist.enclosed (.inr ⟨rfl, rfl⟩) fun rest => avoids_of_standsAlone (by decide) rest
  refine ⟨⟨_, ?_, (primaryReads_list hreads).factorReads.exprReads⟩, '[', _, toList_enclosed .., rfl⟩
  rw [toList_enclosed]
  exact hbrackets.mono fun _ _ => trivial

/-- **A subscript,** given what its brackets hold. -/
theorem OperandReads.subscript (h : OperandReads s e) {cs : List Char} {ts : List Token} {i : Expr}
    (hlex : Lexes (Avoids joinsOperand) cs ts)
    (hindex : ∀ n fuel ls, 20 * ts.length + 20 ≤ fuel → nextToken ls = .sign "]" →
      (index fuel).run (atLine n ts ++ ls) = .ok (i, ls)) :
    OperandReads (s ++ "[" ++ String.ofList cs ++ "]") (.subscript e i) := by
  have hbrackets := hlex.enclosed (.inr ⟨rfl, rfl⟩) fun rest => avoids_of_standsAlone (by decide) rest
  have := h.extend (hbrackets.mono fun _ _ => trivial)
    (fun _ => avoids_cons (joinsWord_of_ascii (by decide)) _) fun h => h.subscript hindex
  have htext : String.ofList ('[' :: (cs ++ [']'])) = "[" ++ (String.ofList cs ++ "]") := by
    rw [← String.toList_inj]
    simp
  rw [htext] at this
  simpa [String.append_assoc] using this

theorem OperandReads.subscript_one (h : OperandReads s e) {t : String} {i : Expr}
    (hi : TextReads t i) : OperandReads (s ++ "[" ++ t ++ "]") (.subscript e i) := by
  obtain ⟨ts, hlex, hreads⟩ := hi.tokens
  have := h.subscript hlex fun n fuel ls hfuel hls => hreads.index_run n fuel ls hfuel hls
  rwa [String.ofList_toList] at this

theorem OperandReads.subscript_tuple (h : OperandReads s e) {t u : String} {i j : Expr}
    (hi : List.Forall₂ TextReads (t :: u :: texts) (i :: j :: es)) :
    OperandReads (s ++ "[" ++ ", ".intercalate (t :: u :: texts) ++ "]")
      (.subscript e (.tuple (i :: j :: es))) := by
  obtain ⟨tss, hlex, hreads⟩ := exists_tokens_texts hi
  have hlist := lexes_intercalate hlex fun rest => avoids_of_standsAlone (c := ',') (by decide) rest
  cases hreads with
  | cons hi hreads =>
    cases hreads with
    | cons hj hreads =>
      have := h.subscript hlist (i := .tuple (i :: j :: es)) fun n fuel ls hfuel hls => by
        rw [intercalate_cons_eq] at hfuel ⊢
        exact index_tuple_run hi (.cons hj hreads) n fuel ls hfuel hls
      have htext := String.toList_intercalate (s := ", ") (l := t :: u :: texts)
      rwa [show [',', ' '] = ", ".toList from rfl, ← htext, String.ofList_toList] at this

end Operands

end Facade.Syntax
