import Facade.Proofs.AnnotationTexts
import Facade.Proofs.Forwarding

/-!
# Texts of parameter lists

The text of a parameter list is read as the list, entry by entry: parameters, the slash after the
positional-only ones and the star before the keyword-only ones.
-/

namespace Facade.Syntax

open Text Reader

/-! ## Entries -/

section Entries

variable {acc : ParamsRead} {n fuel : Nat} {ls : List Lexeme} {name : String}
  {hint default : Option (List Token)} {a d : Option Expr}

/-- The tokens of an annotation and of a default, if there are any. -/
def statedTokens (sign : String) : Option (List Token) → List Token
  | none => []
  | some ts => .sign sign :: ts

theorem run_paramAnnotation {α : Type} (h : Option.Rel ExprReads hint a)
    (hfuel : 20 * (statedTokens ":" hint).length ≤ fuel) (hls : Closes ls)
    (hcolon : nextToken ls ≠ .sign ":") (k : Option Expr → Reader α) :
    ( paramAnnotation (fuel + 1) >>= k).run (atLine n (statedTokens ":" hint) ++ ls) =
      (k a).run ls := by
  refine run_bind_ok k ?_
  cases h with
  | none => exact run_accept_other hcolon _ _
  | some h =>
    rw [statedTokens, List.length_cons] at hfuel
    rw [ paramAnnotation, acceptSign, statedTokens, atLine_cons, List.cons_append, run_accept_self,
      run_bind_ok _ (h.star_run n fuel ls (by omega) hls), run_pure]

theorem param_slash (hclosed : acc.closed = false) (hslash : acc.slash = false)
    (hstar : acc.star = false) (hne : acc.params ≠ []) :
    (param fuel acc).run (⟨.sign "/", n⟩ :: ls) =
      .ok ({ acc with
        slash := true
        params := acc.params.map fun p => { p with kind := .positionalOnly } }, ls) := by
  simp only [param, hclosed, Bool.false_eq_true, if_false]
  rw [acceptSign, run_accept_self]
  simp only [hslash, hstar, List.isEmpty_eq_false_iff.mpr hne, Bool.or_self, Bool.false_eq_true,
    if_false]
  exact run_pure _

theorem param_star (hclosed : acc.closed = false) (hstar : acc.star = false)
    (hls : nextToken ls = .sign ",") :
    (param fuel acc).run (⟨.sign "*", n⟩ :: ls) =
      .ok ({ acc with star := true, bareStar := true }, ls) := by
  simp only [param, hclosed, Bool.false_eq_true, if_false]
  rw [acceptSign, acceptSign, acceptSign, run_accept_other (by simp), run_accept_other (by simp),
    run_accept_self]
  simp only [hstar, Bool.false_eq_true, if_false]
  rw [run_peek, if_pos hls, run_pure]

/-- A parameter that is read without a star before its name. -/
def Reader.ParamsRead.named (acc : ParamsRead) (name : String) (a d : Option Expr) : ParamsRead :=
  if acc.star then
    { acc with bareStar := false, params := ⟨.keywordOnly, name, a, d⟩ :: acc.params }
  else
    { acc with
      defaulted := acc.defaulted || d.isSome
      params := ⟨.positionalOrKeyword, name, a, d⟩ :: acc.params }

theorem closes_of_entry (hls : nextToken ls ∈ [.sign ",", .sign ")"]) :
    Closes ls ∧ nextToken ls ≠ .sign ":" ∧ nextToken ls ≠ .sign "=" := by
  simp only [List.mem_cons, List.not_mem_nil, or_false] at hls
  rcases hls with h | h <;> simp [Closes, closers, h]

variable (n fuel : Nat) (hclosed : acc.closed = false) (hname : isPlainName name = true)
  (hhint : Option.Rel ExprReads hint a) (hdefault : Option.Rel ExprReads default d)
  (hls : nextToken ls ∈ [.sign ",", .sign ")"])
include hclosed hname hhint hls

theorem param_varPositional (hstar : acc.star = false)
    (hfuel : 20 * (statedTokens ":" hint).length ≤ fuel) :
    (param (fuel + 1) acc).run (⟨.sign "*", n⟩ :: ⟨.word name, n⟩ ::
        (atLine n (statedTokens ":" hint) ++ ls)) =
      .ok ({ acc with star := true, params := ⟨.varPositional, name, a, none⟩ :: acc.params }, ls) := by
  obtain ⟨hclose, hcolon, -⟩ := closes_of_entry hls
  simp only [param, hclosed, Bool.false_eq_true, if_false]
  rw [acceptSign, acceptSign, acceptSign, run_accept_other (by simp), run_accept_other (by simp),
    run_accept_self]
  simp only [hstar, Bool.false_eq_true, if_false]
  rw [run_peek, if_neg (by simp), run_name hname, run_paramAnnotation hhint hfuel hclose hcolon,
    run_pure]

theorem param_varKeyword (hbare : acc.bareStar = false)
    (hfuel : 20 * (statedTokens ":" hint).length ≤ fuel) :
    (param (fuel + 1) acc).run (⟨.sign "**", n⟩ :: ⟨.word name, n⟩ ::
        (atLine n (statedTokens ":" hint) ++ ls)) =
      .ok ({ acc with closed := true, params := ⟨.varKeyword, name, a, none⟩ :: acc.params }, ls) := by
  obtain ⟨hclose, hcolon, -⟩ := closes_of_entry hls
  simp only [param, hclosed, Bool.false_eq_true, if_false]
  rw [acceptSign, acceptSign, run_accept_other (by simp), run_accept_self]
  simp only [hbare, Bool.false_eq_true, if_false]
  rw [run_name hname, run_paramAnnotation hhint hfuel hclose hcolon, run_pure]

include hdefault

theorem param_named (hdefaulted : acc.star = false → acc.defaulted = true → d.isSome = true)
    (hfuel : 20 * ((statedTokens ":" hint).length + (statedTokens "=" default).length) ≤ fuel) :
    (param (fuel + 1) acc).run (⟨.word name, n⟩ :: (atLine n (statedTokens ":" hint) ++
        (atLine n (statedTokens "=" default) ++ ls))) =
      .ok (acc.named name a d, ls) := by
  obtain ⟨hclose, hcolon, hequals⟩ := closes_of_entry hls
  have hmid : Closes (atLine n (statedTokens "=" default) ++ ls) ∧
      nextToken (atLine n (statedTokens "=" default) ++ ls) ≠ .sign ":" := by
    cases default with
    | none => exact ⟨hclose, hcolon⟩
    | some ts => simp [statedTokens, Closes, closers]
  have hmissing : acc.star = false → (acc.defaulted && d.isNone) = false := fun hstar => by
    cases hd : acc.defaulted with
    | false => rfl
    | true => simpa [hd] using hdefaulted hstar
  simp only [param, hclosed, Bool.false_eq_true, if_false]
  rw [acceptSign, acceptSign, acceptSign, acceptSign, run_accept_other (by simp),
    run_accept_other (by simp), run_accept_other (by simp), run_name hname,
    run_paramAnnotation hhint (by omega) hmid.1 hmid.2]
  unfold Reader.ParamsRead.named
  cases hdefault with
  | none =>
    rw [statedTokens, atLine_nil, List.nil_append, run_accept_other hequals, pure_bind]
    cases hstar : acc.star with
    | true => rw [if_pos rfl, if_pos rfl, run_pure, hclosed]
    | false =>
      have hmiss := hmissing hstar
      simp only [hmiss, Bool.false_eq_true, if_false]
      rw [run_pure, hclosed]
  | @some ts e h =>
    have hlen : (statedTokens "=" (some ts)).length = ts.length + 1 := rfl
    have hsome : (some <$> expr (fuel + 1)).run (atLine n ts ++ ls) = .ok (some e, ls) := by
      rw [map_eq_pure_bind, run_bind_ok _ (h.reads n (fuel + 1) ls (by omega) hclose)]
      exact run_pure _
    rw [statedTokens, atLine_cons, List.cons_append, run_accept_self, run_bind_ok _ hsome]
    cases hstar : acc.star with
    | true => rw [if_pos rfl, if_pos rfl, run_pure, hclosed]
    | false =>
      have hmiss := hmissing hstar
      simp only [hmiss, Bool.false_eq_true, if_false]
      rw [run_pure, hclosed]

end Entries

/-! ## Whole lists -/

section Lists

variable {ts us : List Token} {tss : List (List Token)} {before : List Token}
  {acc acc' acc'' : ParamsRead}

/-- Tokens are read as one more entry of a parameter list, before certain tokens. -/
structure EntryReads (before : List Token) (ts : List Token) (acc acc' : ParamsRead) : Prop where
  opens : ∃ t r, ts = t :: r ∧ t ≠ .sign ")"
  reads : ∀ n fuel ls, 20 * ts.length ≤ fuel → nextToken ls ∈ before →
    (param (fuel + 1) acc).run (atLine n ts ++ ls) = .ok (acc', ls)

/-- Tokens are read as the entries of a parameter list. -/
inductive Reader.ParamsRead.Reads : List (List Token) → ParamsRead → ParamsRead → Prop
  | nil (acc : ParamsRead) : Reads [] acc acc
  | last {ts : List Token} {acc acc' : ParamsRead} :
    EntryReads [.sign ",", .sign ")"] ts acc acc' → Reads [ts] acc acc'
  | cons {ts us : List Token} {tss : List (List Token)} {acc acc' acc'' : ParamsRead} :
    EntryReads [.sign ","] ts acc acc' → Reads (us :: tss) acc' acc'' → Reads (ts :: us :: tss) acc acc''

theorem EntryReads.run_params (h : EntryReads before ts acc acc') (n fuel : Nat) (ls : List Lexeme)
    (hfuel : 20 * ts.length ≤ fuel) (hls : nextToken ls ∈ before) :
    (params (fuel + 2) acc).run (atLine n ts ++ ls) = (do
      if ← acceptSign "," then params (fuel + 1) acc'
      else
        expectSign ")"
        if acc'.bareStar then report .malformed
        return acc'.params.reverse).run ls := by
  obtain ⟨t, r, hts, ht⟩ := h.opens
  have hnext : nextToken (atLine n ts ++ ls) ≠ .sign ")" := by
    rw [hts]
    exact ht
  rw [params, acceptSign, run_accept_other hnext, run_bind_ok _ (h.reads n fuel ls hfuel hls)]

/-- **A parameter list is read up to its closing parenthesis.** -/
theorem Reader.ParamsRead.Reads.run (h : ParamsRead.Reads tss acc acc') (hbare : acc'.bareStar = false)
    (n fuel : Nat) (ls : List Lexeme)
    (hfuel : 20 * ([Token.sign ","].intercalate tss).length + 2 ≤ fuel) :
    (Reader.params fuel acc).run (atLine n ([.sign ","].intercalate tss) ++ ⟨.sign ")", n⟩ :: ls) =
      .ok (acc'.params.reverse, ls) := by
  induction h generalizing fuel with
  | nil acc =>
    obtain ⟨f, rfl⟩ : ∃ f, fuel = f + 1 := ⟨fuel - 1, by omega⟩
    rw [List.intercalate_nil, atLine_nil, List.nil_append, Reader.params, acceptSign, run_accept_self,
      if_neg (by simp [hbare]), run_pure]
  | last h =>
    obtain ⟨f, rfl⟩ : ∃ f, fuel = f + 2 := ⟨fuel - 2, by omega⟩
    rw [List.intercalate_singleton] at hfuel ⊢
    rw [h.run_params n f _ (by omega) (by simp), acceptSign, run_accept_other (by simp), expectSign,
      run_expect, if_neg (by simp [hbare]), run_pure]
  | cons h _ ih =>
    obtain ⟨f, rfl⟩ : ∃ f, fuel = f + 2 := ⟨fuel - 2, by omega⟩
    rw [List.intercalate_cons_cons, List.append_assoc] at hfuel ⊢
    simp only [List.length_append, List.length_cons, List.length_nil] at hfuel
    rw [atLine_append, atLine_append, atLine_cons, atLine_nil, List.append_assoc, List.append_assoc,
      List.singleton_append, h.run_params n f _ (by omega) (by simp), acceptSign, run_accept_self]
    exact ih hbare (f + 1) (by omega)

end Lists

/-! ## Parameters -/

/-- A parameter whose parts can be read. -/
structure Param.IsWritten (p : Param) : Prop where
  name : isPlainName p.name = true
  hint : ∀ e ∈ p.hint, IsReadable (e.text .draft)
  default : ∀ e ∈ p.default, IsReadable (e.text .draft)
  hinted : p.default.isSome = true → p.hint.isSome = true
  variadic : p.kind.isVariadic = true → p.default = none

/-- An expression is what the text of another is read as, and it can be run. -/
def Expr.ReadsAs (e e' : Expr) : Prop := readExpr (e.text .draft) = .ok e' ∧ e'.isSound false = true

/-- A parameter is what the text of another is read as. -/
structure Param.ReadsAs (p r : Param) : Prop where
  kind : r.kind = p.kind
  name : r.name = p.name
  hint : Option.Rel Expr.ReadsAs p.hint r.hint
  default : Option.Rel Expr.ReadsAs p.default r.default

/-- The tokens of an expression, if there is one, and what they are read as. -/
structure Stated (o : Option Expr) (ts : Option (List Token)) (o' : Option Expr) : Prop where
  lexes : Option.Rel (fun e ts => Lexes (Avoids joinsOperand) (e.text .draft).toList ts) o ts
  reads : Option.Rel ExprReads ts o'
  readsAs : Option.Rel Expr.ReadsAs o o'

theorem exists_stated {o : Option Expr} (h : ∀ e ∈ o, IsReadable (e.text .draft)) :
    ∃ ts o', Stated o ts o' := by
  cases o with
  | none => exact ⟨none, none, .none, .none, .none⟩
  | some e =>
    obtain ⟨e', hreads, hsound⟩ := h e rfl
    obtain ⟨ts, hlex, htokens⟩ := hreads.tokens
    exact ⟨some ts, some e', .some hlex, .some htokens, .some ⟨hreads.readExpr, hsound⟩⟩

/-- The tokens of the mark that a parameter opens with. -/
def markTokens : ParamKind → List Token
  | .varPositional => [.sign "*"]
  | .varKeyword => [.sign "**"]
  | _ => []

/-- The mark that a parameter opens with. -/
def markText : ParamKind → String
  | .varPositional => "*"
  | .varKeyword => "**"
  | _ => ""

/-- What stands behind the name of a parameter. -/
def statedText (p : Param) : String :=
  (match p.hint with
    | some a => ": " ++ a.text .draft
    | none => "") ++
  (match p.default with
    | some d => (if p.hint.isSome then " = " else "=") ++ d.text .draft
    | none => "")

theorem text_eq (p : Param) : p.text .draft = markText p.kind ++ (p.name ++ statedText p) := by
  rw [Param.text, statedText, ← String.append_assoc, ← String.append_assoc]
  rfl

section Texts

variable {p : Param} {hint default : Option (List Token)} {a d : Option Expr}
  (h : p.IsWritten) (hhint : Stated p.hint hint a) (hdefault : Stated p.default default d)
include h hhint hdefault

/-- The tokens behind the name of a parameter. -/
theorem lexes_statedText : Lexes (Avoids joinsOperand) (statedText p).toList
    (statedTokens ":" hint ++ statedTokens "=" default) := by
  have hspace (rest : List Char) : Avoids joinsSign (' ' :: rest) := avoids_cons (by decide) _
  have hblank (rest : List Char) : Avoids joinsOperand (' ' :: rest) :=
    avoids_cons (joinsOperand_of_ascii (by decide)) _
  have hinted := h.hinted
  have hlexes := hhint.lexes
  have hlexes' := hdefault.lexes
  rw [statedText]
  cases hp : p.hint with
  | none =>
    cases hq : p.default with
    | some => simp [hp, hq] at hinted
    | none =>
      rw [hp] at hlexes
      rw [hq] at hlexes'
      cases hlexes
      cases hlexes'
      exact lexes_nil _
  | some e =>
    rw [hp] at hlexes
    cases hlexes with
    | @some _ ts hlex =>
    have hcolon : Lexes (Avoids joinsOperand) (": " ++ e.text .draft).toList (.sign ":" :: ts) := by
      have := ((lexes_sign (c := ':') (by decide)).append lexes_space fun rest _ => hspace _).append hlex
        fun _ _ => trivial
      rw [String.toList_append]
      exact this
    cases hq : p.default with
    | none =>
      rw [hq] at hlexes'
      cases hlexes'
      simpa [statedTokens] using hcolon
    | some e' =>
      rw [hq] at hlexes'
      cases hlexes' with
      | @some _ us hlex' =>
      have hequals : Lexes (Avoids joinsOperand) (" = " ++ e'.text .draft).toList
          (.sign "=" :: us) := by
        have := (lexes_space.append ((lexes_sign (c := '=') (by decide)).append lexes_space
          fun rest _ => hspace _) fun _ _ => trivial).append hlex' fun _ _ => trivial
        rw [String.toList_append]
        exact this
      rw [Option.isSome_some, if_pos rfl, String.toList_append]
      refine hcolon.append hequals fun rest _ => ?_
      rw [String.toList_append]
      exact hblank _

/-- **The tokens of a parameter.** -/
theorem lexes_param : Lexes (Avoids joinsOperand) (p.text .draft).toList
    (markTokens p.kind ++ .word p.name :: (statedTokens ":" hint ++ statedTokens "=" default)) := by
  have hstated := lexes_statedText h hhint hdefault
  have hword : Lexes (Avoids joinsOperand) (p.name ++ statedText p).toList
      (.word p.name :: (statedTokens ":" hint ++ statedTokens "=" default)) := by
    rw [String.toList_append]
    have hcolon (rest : List Char) : Avoids joinsWord (':' :: rest) :=
      avoids_cons (joinsWord_of_ascii (by decide)) _
    refine (lexes_word (isIdentifier_of_isPlainName h.name)).append hstated fun rest hrest => ?_
    rw [statedText]
    cases hp : p.hint with
    | some e =>
      simp only [String.toList_append]
      exact hcolon _
    | none =>
      cases hq : p.default with
      | some => simpa [hp, hq] using h.hinted
      | none => exact joinsWord_of_joinsOperand hrest
  have hjoins (rest : List Char) : Avoids joinsSign ((p.name ++ statedText p).toList ++ rest) := by
    rw [String.toList_append, List.append_assoc]
    exact (operandReads_name h.name).avoids_joinsSign _
  rw [text_eq, String.toList_append]
  cases p.kind with
  | varPositional => exact (lexes_sign (c := '*') (by decide)).append hword fun rest _ => hjoins rest
  | varKeyword => exact lexes_doubleStar.append hword fun rest _ => hjoins rest
  | _ => exact hword

end Texts

/-! ## Entries of a written list -/

section Written

variable {p : Param} {ps : List Param} {acc acc' : ParamsRead}

theorem EntryReads.mono {before before' : List Token} {ts : List Token}
    (h : EntryReads before ts acc acc') (hb : ∀ t ∈ before', t ∈ before) :
    EntryReads before' ts acc acc' :=
  ⟨h.opens, fun n fuel ls hfuel hls => h.reads n fuel ls hfuel (hb _ hls)⟩

/-- An entry in front of others, or of none. -/
theorem EntryReads.cons {ts : List Token} {tss : List (List Token)} {acc'' : ParamsRead}
    (h : EntryReads [.sign ",", .sign ")"] ts acc acc') (htail : ParamsRead.Reads tss acc' acc'') :
    ParamsRead.Reads (ts :: tss) acc acc'' := by
  have hcomma : EntryReads [.sign ","] ts acc acc' := h.mono (by simp)
  cases htail with
  | nil => exact .last h
  | last h' => exact .cons hcomma (.last h')
  | cons h' htail => exact .cons hcomma (.cons h' htail)

theorem isSome_eq_of_rel {α β : Type} {R : α → β → Prop} {o : Option α} {o' : Option β}
    (h : Option.Rel R o o') : o'.isSome = o.isSome := by cases h <;> rfl

/-- **A parameter with a plain name is one entry.** -/
theorem entry_named (acc : ParamsRead) (h : p.IsWritten) (hkind : markTokens p.kind = [])
    (hclosed : acc.closed = false)
    (hdefaulted : acc.star = false → acc.defaulted = true → p.default.isSome = true) :
    ∃ ts a d, Lexes (Avoids joinsOperand) (p.text .draft).toList ts ∧
      EntryReads [.sign ",", .sign ")"] ts acc (acc.named p.name a d) ∧
      Option.Rel Expr.ReadsAs p.hint a ∧ Option.Rel Expr.ReadsAs p.default d := by
  obtain ⟨hint, a, hhint⟩ := exists_stated h.hint
  obtain ⟨default, d, hdefault⟩ := exists_stated h.default
  have hlex := lexes_param h hhint hdefault
  have hsome := isSome_eq_of_rel hdefault.readsAs
  rw [hkind, List.nil_append] at hlex
  refine ⟨_, a, d, hlex, ⟨⟨_, _, rfl, by simp⟩, fun n fuel ls hfuel hls => ?_⟩, hhint.readsAs,
    hdefault.readsAs⟩
  rw [List.length_cons, List.length_append] at hfuel
  rw [atLine_cons, atLine_append, List.cons_append, List.append_assoc]
  exact param_named n fuel hclosed h.name hhint.reads hdefault.reads hls (by rwa [hsome]) (by omega)

/-- **A parameter that takes a surplus is one entry.** -/
theorem entry_variadic (acc : ParamsRead) (h : p.IsWritten) (hclosed : acc.closed = false)
    (hkind : p.kind = .varPositional ∧ acc.star = false ∨ p.kind = .varKeyword ∧ acc.bareStar = false) :
    ∃ ts a, Lexes (Avoids joinsOperand) (p.text .draft).toList ts ∧
      Option.Rel Expr.ReadsAs p.hint a ∧
      EntryReads [.sign ",", .sign ")"] ts acc { acc with
        params := ⟨p.kind, p.name, a, none⟩ :: acc.params
        star := acc.star || p.kind = .varPositional
        closed := p.kind = .varKeyword } := by
  obtain ⟨hint, a, hhint⟩ := exists_stated h.hint
  have hnone : p.default = none := h.variadic (by rcases hkind with ⟨hk, -⟩ | ⟨hk, -⟩ <;> rw [hk] <;> rfl)
  have hstated : Stated p.default none none := by
    rw [hnone]
    exact ⟨.none, .none, .none⟩
  have hlex := lexes_param h hhint hstated
  refine ⟨_, a, hlex, hhint.readsAs, ?_⟩
  rcases hkind with ⟨hk, hstar⟩ | ⟨hk, hbare⟩
  · rw [hk]
    refine ⟨⟨_, _, rfl, by simp⟩, fun n fuel ls hfuel hls => ?_⟩
    simp only [List.length_append, List.length_cons] at hfuel
    have := param_varPositional n fuel hclosed h.name hhint.reads hls hstar (by omega)
    simpa [markTokens, statedTokens, hclosed] using this
  · rw [hk]
    refine ⟨⟨_, _, rfl, by simp⟩, fun n fuel ls hfuel hls => ?_⟩
    simp only [List.length_append, List.length_cons] at hfuel
    have := param_varKeyword n fuel hclosed h.name hhint.reads hls hbare (by omega)
    simpa [markTokens, statedTokens] using this

end Written

/-! ## Written lists -/

open Binding (rank)

/-- A parameter list that can be written: the kinds stand in order, at most one parameter takes each
surplus, and none without a default can be given by position after one with a default. -/
structure ParamsWritten (ps : List Param) : Prop where
  written : ∀ p ∈ ps, p.IsWritten
  ordered : ps.Pairwise fun p q =>
    rank p.kind ≤ rank q.kind ∧ (p.kind.isVariadic = true → rank p.kind < rank q.kind)
  defaulted : ps.Pairwise fun p q =>
    rank q.kind ≤ 1 → p.default.isSome = true → q.default.isSome = true

section Reading

variable {p : Param} {ps rs : List Param} {acc acc' : ParamsRead} {tss : List (List Token)}

theorem ParamsWritten.tail (h : ParamsWritten (p :: ps)) : ParamsWritten ps :=
  ⟨(List.forall_mem_cons.mp h.written).2, h.ordered.tail, h.defaulted.tail⟩

theorem ParamsWritten.split {ls qs : List Param} (h : ParamsWritten (ls ++ qs)) :
    ParamsWritten ls ∧ ParamsWritten qs ∧ ∀ p ∈ ls, ∀ q ∈ qs,
      rank q.kind ≤ 1 → p.default.isSome = true → q.default.isSome = true := by
  obtain ⟨hwritten, hordered, hdefaulted⟩ := h
  rw [List.forall_mem_append] at hwritten
  rw [List.pairwise_append] at hordered hdefaulted
  exact ⟨⟨hwritten.1, hordered.1, hdefaulted.1⟩, ⟨hwritten.2, hordered.2.1, hdefaulted.2.1⟩,
    hdefaulted.2.2⟩

/-- The next character goes on with no entry. -/
def EndsEntry (rest : List Char) : Prop := Avoids joinsOperand rest ∧ Avoids joinsSign rest

/-- Texts are read as entries that add parameters to those that were read before. -/
def ReadEntries (texts : List String) (ps : List Param) (acc acc' : ParamsRead) : Prop :=
  ∃ tss rs, List.Forall₂ (Lexes EndsEntry) (texts.map String.toList) tss ∧
    ParamsRead.Reads tss acc acc' ∧ acc'.params = rs.reverse ++ acc.params ∧
    List.Forall₂ Param.ReadsAs ps rs

/-- An entry is read before those that follow. -/
theorem ReadEntries.cons {texts : List String} {acc₁ : ParamsRead} {r : Param} {text : String}
    {ts : List Token} (hlex : Lexes (Avoids joinsOperand) text.toList ts)
    (hentry : EntryReads [.sign ",", .sign ")"] ts acc acc₁) (hparams : acc₁.params = r :: acc.params)
    (hr : p.ReadsAs r) (htail : ReadEntries texts ps acc₁ acc') :
    ReadEntries (text :: texts) (p :: ps) acc acc' := by
  obtain ⟨tss, rs, hlexes, hreads, hrest, hrs⟩ := htail
  refine ⟨ts :: tss, r :: rs, .cons (hlex.mono fun _ => And.left) hlexes, hentry.cons hreads, ?_,
    .cons hr hrs⟩
  rw [hrest, hparams]
  simp

/-- What has been read once a parameter is. -/
def Reader.ParamsRead.after (acc : ParamsRead) (r : Param) : ParamsRead :=
  { acc with
    params := r :: acc.params
    star := acc.star || r.kind = .varPositional || r.kind = .keywordOnly
    closed := r.kind = .varKeyword
    defaulted := acc.defaulted || (r.kind = .positionalOrKeyword && r.default.isSome) }

/-- Parameters can follow those that were read before. -/
structure Precedes (acc : ParamsRead) (ps : List Param) : Prop where
  bare : acc.bareStar = false
  closed : acc.closed = true → ps = []
  star : acc.star = true → ∀ p ∈ ps, 3 ≤ rank p.kind
  given : acc.defaulted = true → ∀ p ∈ ps, rank p.kind ≤ 1 → p.default.isSome = true

theorem Precedes.opened (h : Precedes acc (p :: ps)) : acc.closed = false := by
  rw [← Bool.not_eq_true]
  intro hc
  cases h.closed hc

theorem Precedes.unstarred (h : Precedes acc (p :: ps)) (hp : rank p.kind < 3) : acc.star = false := by
  rw [← Bool.not_eq_true]
  intro hs
  have := h.star hs p List.mem_cons_self
  omega

/-- What follows a parameter can follow once it is read. -/
theorem Precedes.after {r : Param} (hacc : Precedes acc (p :: ps)) (h : ParamsWritten (p :: ps))
    (hr : p.ReadsAs r) : Precedes (acc.after r) ps := by
  have hlater := (List.pairwise_cons.mp h.ordered).1
  have hgiven := (List.pairwise_cons.mp h.defaulted).1
  refine ⟨hacc.bare, fun hc => ?_, fun hs q hq => ?_, fun hd q hq hrank => ?_⟩
  · have hk : p.kind = .varKeyword := hr.kind ▸ of_decide_eq_true hc
    refine List.eq_nil_iff_forall_not_mem.mpr fun q hq => ?_
    have := (hlater q hq).2 (by rw [hk]; rfl)
    cases hq : q.kind <;> simp [hk, hq, rank] at this
  · simp only [ParamsRead.after, Bool.or_eq_true, decide_eq_true_eq, hr.kind] at hs
    have hq' := hlater q hq
    rcases hs with (hs | hk) | hk
    · exact hacc.star hs q (List.mem_cons_of_mem _ hq)
    · rw [hk] at hq'
      exact hq'.2 rfl
    · rw [hk] at hq'
      exact hq'.1
  · simp only [ParamsRead.after, Bool.or_eq_true, Bool.and_eq_true, isSome_eq_of_rel hr.default] at hd
    rcases hd with hd | ⟨-, hd⟩
    · exact hacc.given hd q (List.mem_cons_of_mem _ hq) hrank
    · exact hgiven q hq hrank hd

/-- **A parameter is read before those that follow,** behind its bare star if it needs one. -/
theorem Precedes.exists_reads (hacc : Precedes acc (p :: ps)) (hp : p.IsWritten)
    (hkind : p.kind ≠ .positionalOnly) :
    ∃ r, p.ReadsAs r ∧ ∀ {texts : List String} {acc'}, ReadEntries texts ps (acc.after r) acc' →
      ReadEntries ((if p.kind = .keywordOnly ∧ acc.star = false then ["*"] else []) ++
        p.text .draft :: texts) (p :: ps) acc acc' := by
  have hbare := hacc.bare
  have hclosed := hacc.opened
  cases hk : p.kind with
  | positionalOnly => exact absurd hk hkind
  | positionalOrKeyword =>
    have hs := hacc.unstarred (by rw [hk]; decide)
    obtain ⟨ts, a, d, hlex, hentry, ha, hd⟩ := entry_named acc hp (by rw [hk]; rfl) hclosed
      fun _ hdd => hacc.given hdd p List.mem_cons_self (by rw [hk]; decide)
    have hafter : acc.named p.name a d = acc.after ⟨.positionalOrKeyword, p.name, a, d⟩ := by
      simp [ParamsRead.named, ParamsRead.after, hs, hclosed]
    rw [hafter] at hentry
    have hr : p.ReadsAs ⟨.positionalOrKeyword, p.name, a, d⟩ := ⟨hk.symm, rfl, ha, hd⟩
    exact ⟨_, hr, fun hread => by simpa using ReadEntries.cons hlex hentry rfl hr hread⟩
  | varPositional =>
    have hs := hacc.unstarred (by rw [hk]; decide)
    obtain ⟨ts, a, hlex, ha, hentry⟩ := entry_variadic acc hp hclosed (.inl ⟨hk, hs⟩)
    have hr : p.ReadsAs ⟨p.kind, p.name, a, none⟩ := ⟨rfl, rfl, ha, by
      rw [hp.variadic (by rw [hk]; rfl)]; exact .none⟩
    refine ⟨_, hr, fun hread => ?_⟩
    simpa using ReadEntries.cons hlex (by simpa [ParamsRead.after, hk] using hentry) rfl hr hread
  | keywordOnly =>
    cases hs : acc.star with
    | true =>
      obtain ⟨ts, a, d, hlex, hentry, ha, hd⟩ := entry_named acc hp (by rw [hk]; rfl) hclosed
        fun hs' => by simp [hs] at hs'
      have hafter : acc.named p.name a d = acc.after ⟨.keywordOnly, p.name, a, d⟩ := by
        simp [ParamsRead.named, ParamsRead.after, hs, hclosed, hbare]
      rw [hafter] at hentry
      have hr : p.ReadsAs ⟨.keywordOnly, p.name, a, d⟩ := ⟨hk.symm, rfl, ha, hd⟩
      exact ⟨_, hr, fun hread => by simpa using ReadEntries.cons hlex hentry rfl hr hread⟩
    | false =>
      obtain ⟨starred, hstarred⟩ : ∃ starred : ParamsRead,
          starred = { acc with star := true, bareStar := true } := ⟨_, rfl⟩
      obtain ⟨ts, a, d, hlex, hentry, ha, hd⟩ := entry_named starred hp (by rw [hk]; rfl)
        (by rw [hstarred, hclosed]) fun hs' => by simp [hstarred] at hs'
      have hafter : starred.named p.name a d = acc.after ⟨.keywordOnly, p.name, a, d⟩ := by
        simp [ParamsRead.named, ParamsRead.after, hstarred, hclosed, hbare]
      have hparams : starred.params = acc.params := by rw [hstarred]
      have hstar : EntryReads [.sign ","] [.sign "*"] acc starred := by
        rw [hstarred]
        exact ⟨⟨_, _, rfl, by simp⟩, fun n fuel ls _ hls => param_star hclosed hs (by simpa using hls)⟩
      have hstars : Lexes EndsEntry "*".toList [.sign "*"] :=
        (lexes_sign (c := '*') (by decide)).mono fun _ => And.right
      rw [hafter] at hentry
      have hr : p.ReadsAs ⟨.keywordOnly, p.name, a, d⟩ := ⟨hk.symm, rfl, ha, hd⟩
      refine ⟨_, hr, fun hread => ?_⟩
      obtain ⟨tss, rs, hlexes, hreads, hrest, hrs⟩ :=
        ReadEntries.cons hlex hentry (by rw [hparams]; rfl) hr hread
      rw [List.map_cons] at hlexes
      cases hlexes with
      | cons hlex hlexes =>
        exact ⟨_, rs, .cons hstars (.cons hlex hlexes), .cons hstar hreads, by rw [hrest, hparams], hrs⟩
  | varKeyword =>
    obtain ⟨ts, a, hlex, ha, hentry⟩ := entry_variadic acc hp hclosed (.inr ⟨hk, hbare⟩)
    have hr : p.ReadsAs ⟨p.kind, p.name, a, none⟩ := ⟨rfl, rfl, ha, by
      rw [hp.variadic (by rw [hk]; rfl)]; exact .none⟩
    refine ⟨_, hr, fun hread => ?_⟩
    simpa using ReadEntries.cons hlex (by simpa [ParamsRead.after, hk] using hentry) rfl hr hread

/-- **The parameters behind the positional-only ones are read.** -/
theorem read_trailing (ps : List Param) : ∀ acc : ParamsRead, ParamsWritten ps →
    (∀ p ∈ ps, p.kind ≠ .positionalOnly) → Precedes acc ps →
    ∃ acc', acc'.bareStar = false ∧ ReadEntries (paramTexts .draft acc.star ps) ps acc acc' := by
  induction ps with
  | nil => exact fun acc _ _ hacc => ⟨acc, hacc.bare, [], [], .nil, .nil acc, rfl, .nil⟩
  | cons p ps ih =>
    intro acc h hno hacc
    rw [List.forall_mem_cons] at hno
    obtain ⟨r, hr, hnext⟩ := hacc.exists_reads (h.written p (by simp)) hno.1
    obtain ⟨acc', hbare, hread⟩ := ih (acc.after r) h.tail hno.2 (hacc.after h hr)
    refine ⟨acc', hbare, ?_⟩
    have htexts : paramTexts .draft acc.star (p :: ps) =
        (if p.kind = .keywordOnly ∧ acc.star = false then ["*"] else []) ++
          p.text .draft :: paramTexts .draft (acc.after r).star ps := by
      simp [paramTexts, ParamsRead.after, hr.kind, hno.1]
    rw [htexts]
    exact hnext hread

/-! ## The slash -/

theorem exists_split (ps : List Param) (h : ParamsWritten ps) :
    ∃ ls qs, ps = ls ++ qs ∧ (∀ p ∈ ls, p.kind = .positionalOnly) ∧
      ∀ p ∈ qs, p.kind ≠ .positionalOnly := by
  induction ps with
  | nil => exact ⟨[], [], rfl, by simp, by simp⟩
  | cons p ps ih =>
    by_cases hp : p.kind = .positionalOnly
    · obtain ⟨ls, qs, rfl, hls, hqs⟩ := ih h.tail
      exact ⟨p :: ls, qs, rfl, List.forall_mem_cons.mpr ⟨hp, hls⟩, hqs⟩
    · refine ⟨[], p :: ps, rfl, by simp, List.forall_mem_cons.mpr ⟨hp, fun q hq heq => ?_⟩⟩
      have := ((List.pairwise_cons.mp h.ordered).1 q hq).1
      rw [heq] at this
      cases hk : p.kind <;> simp [hk, rank] at hp this

theorem paramTexts_leading (l : Layout) (ls qs : List Param)
    (hls : ∀ p ∈ ls, p.kind = .positionalOnly) (hqs : ∀ p ∈ qs, p.kind ≠ .positionalOnly) :
    paramTexts l false (ls ++ qs) =
      ls.map (Param.text l) ++ ((if ls.isEmpty then [] else ["/"]) ++ paramTexts l false qs) := by
  induction ls with
  | nil => rfl
  | cons p ls ih =>
    rw [List.forall_mem_cons] at hls
    have hany : ((ls ++ qs).any fun q => q.kind = .positionalOnly) = !ls.isEmpty := by
      cases ls with
      | nil => simpa using hqs
      | cons q ls => simp [hls.2 q (by simp)]
    have hseen : (false || decide (p.kind = .varPositional) || decide (p.kind = .keywordOnly)) = false := by
      rw [hls.1]
      rfl
    rw [List.cons_append, paramTexts, hany, hseen, ih hls.2]
    cases ls <;> simp [hls.1]

/-- A parameter as it is read before its slash. -/
def Param.unslashed (p : Param) : Param := { p with kind := .positionalOrKeyword }

/-- **Positional-only parameters are read like others,** up to their slash. -/
theorem read_leading (ps : List Param) : ∀ acc : ParamsRead, ParamsWritten ps →
    (∀ p ∈ ps, p.kind = .positionalOnly) → acc.closed = false → acc.star = false →
    (acc.defaulted = true → ∀ p ∈ ps, p.default.isSome = true) →
    ∃ tss rs, List.Forall₂ (Lexes EndsEntry) ((ps.map (Param.text .draft)).map String.toList) tss ∧
      List.Forall₂ Param.ReadsAs ps rs ∧ ∀ {us acc'}, ParamsRead.Reads us { acc with
          params := (rs.map Param.unslashed).reverse ++ acc.params
          defaulted := acc.defaulted || ps.any fun p => p.default.isSome } acc' →
        ParamsRead.Reads (tss ++ us) acc acc' := by
  induction ps with
  | nil =>
    intro acc _ _ _ _ _
    exact ⟨[], [], .nil, .nil, fun h => by simpa using h⟩
  | cons p ps ih =>
    intro acc h hall hclosed hstar hdef
    rw [List.forall_mem_cons] at hall
    have hgiven := (List.pairwise_cons.mp h.defaulted).1
    obtain ⟨ts, a, d, hlex, hentry, ha, hd⟩ := entry_named acc (h.written p (by simp))
      (by rw [hall.1]; rfl) hclosed fun _ hdd => hdef hdd p (by simp)
    have hnamed : acc.named p.name a d = { acc with
        defaulted := acc.defaulted || d.isSome
        params := ⟨.positionalOrKeyword, p.name, a, d⟩ :: acc.params } := if_neg (by simp [hstar])
    rw [hnamed] at hentry
    obtain ⟨tss, rs, hlexes, hrs, hreads⟩ := ih { acc with
        defaulted := acc.defaulted || d.isSome
        params := ⟨.positionalOrKeyword, p.name, a, d⟩ :: acc.params } h.tail hall.2 hclosed hstar
      fun hdd q hq => by
        rw [isSome_eq_of_rel hd, Bool.or_eq_true] at hdd
        rcases hdd with hdd | hdd
        · exact hdef hdd q (List.mem_cons_of_mem _ hq)
        · exact hgiven q hq (by rw [hall.2 q hq]; simp [rank]) hdd
    refine ⟨ts :: tss, ⟨.positionalOnly, p.name, a, d⟩ :: rs, .cons (hlex.mono fun _ => And.left) hlexes,
      .cons ⟨hall.1.symm, rfl, ha, hd⟩ hrs, fun h => hentry.cons (hreads ?_)⟩
    simpa [Param.unslashed, isSome_eq_of_rel hd, Bool.or_assoc] using h

/-- **A written parameter list is read as the list.** -/
theorem read_params (h : ParamsWritten ps) :
    ∃ acc', acc'.bareStar = false ∧ ReadEntries (paramTexts .draft false ps) ps {} acc' := by
  obtain ⟨ls, qs, rfl, hls, hqs⟩ := exists_split ps h
  rw [paramTexts_leading .draft ls qs hls hqs]
  obtain ⟨hleading, htrailing, hgiven⟩ := h.split
  cases hempty : ls.isEmpty with
  | true =>
    obtain rfl : ls = [] := by simpa using hempty
    exact read_trailing qs {} htrailing hqs
      ⟨rfl, fun _ => by contradiction, fun _ => by contradiction, fun _ => by contradiction⟩
  | false =>
    obtain ⟨tss, rs, hlexes, hrs, hreads⟩ := read_leading ls {} hleading hls rfl rfl
      fun hs => by cases hs
    have hslashed : ((rs.map Param.unslashed).reverse.map fun p => { p with kind := .positionalOnly }) =
        rs.reverse := by
      rw [← List.map_reverse, List.map_map]
      refine (List.map_congr_left fun r hr => ?_).trans (List.map_id _)
      obtain ⟨p, hp, hpr⟩ := Run.exists_of_forall₂_right hrs (List.mem_reverse.mp hr)
      have hk := hpr.kind.trans (hls p hp)
      cases r
      cases hk
      rfl
    have hne : (rs.map Param.unslashed).reverse ≠ [] := by
      have hlen := hrs.length_eq
      have hpos : ls ≠ [] := by simpa using hempty
      have : ls.length ≠ 0 := by simpa using hpos
      simpa using List.ne_nil_of_length_pos (by omega)
    have hslash : EntryReads [.sign ",", .sign ")"] [.sign "/"]
        { params := (rs.map Param.unslashed).reverse, defaulted := ls.any fun p => p.default.isSome }
        { params := rs.reverse
          slash := true
          defaulted := ls.any fun p => p.default.isSome } := by
      refine ⟨⟨_, _, rfl, by simp⟩, fun n fuel ls _ _ => ?_⟩
      rw [← hslashed]
      exact param_slash rfl rfl rfl hne
    have hprecedes : Precedes {
        params := rs.reverse
        slash := true
        defaulted := ls.any fun p => p.default.isSome } qs := by
      refine ⟨rfl, fun _ => by contradiction, fun _ => by contradiction, fun hdd q hq hrank => ?_⟩
      obtain ⟨p, hp, hsome⟩ := List.any_eq_true.mp hdd
      exact hgiven p hp q hq hrank hsome
    obtain ⟨acc', hbare, uss, rs', hlexes', hreads', hparams, hrs'⟩ :=
      read_trailing qs _ htrailing hqs hprecedes
    have hslashes : Lexes EndsEntry "/".toList [.sign "/"] :=
      (lexes_sign (c := '/') (by decide)).mono fun _ => And.right
    refine ⟨acc', hbare, tss ++ [.sign "/"] :: uss, rs ++ rs', ?_, hreads ?_, ?_, ?_⟩
    · rw [List.map_append]
      exact List.rel_append hlexes (.cons hslashes hlexes')
    · simpa using hslash.cons hreads'
    · rw [hparams]
      simp
    · exact List.rel_append hrs hrs'

/-! ## Marks -/

/-- The text of a parameter is none of the marks between parameters. -/
theorem Param.IsWritten.text_ne (h : p.IsWritten) : p.text .draft ≠ "/" ∧ p.text .draft ≠ "*" := by
  obtain ⟨c, r, hc, hstart⟩ := isIdentifierStart_of_isIdentifier (isIdentifier_of_isPlainName h.name)
  have hsigns : isIdentifierStart '/' = false ∧ isIdentifierStart '*' = false :=
    ⟨isIdentifierStart_of_ascii (by decide), isIdentifierStart_of_ascii (by decide)⟩
  have hslash : c ≠ '/' := by
    rintro rfl
    rw [hsigns.1] at hstart
    cases hstart
  have hstar : c ≠ '*' := by
    rintro rfl
    rw [hsigns.2] at hstart
    cases hstart
  rw [text_eq]
  constructor <;> intro heq <;> replace heq := congrArg String.toList heq <;>
    rw [String.toList_append, String.toList_append, hc] at heq <;>
    cases hk : p.kind <;> simp [hk, markText, hslash, hstar] at heq

/-- **There is one slash if there is a positional-only parameter,** and none otherwise. -/
theorem count_slash (ps : List Param) : ∀ {starSeen : Bool}, (∀ p ∈ ps, p.IsWritten) →
    (paramTexts .draft starSeen ps).count "/" =
      if ps.any fun p => p.kind = .positionalOnly then 1 else 0 := by
  induction ps with
  | nil => exact fun _ => rfl
  | cons p ps ih =>
    intro starSeen h
    rw [List.forall_mem_cons] at h
    have hp := h.1.text_ne.1
    have hstar : (if p.kind = .keywordOnly ∧ (!starSeen) = true then ["*"] else []).count "/" = 0 := by
      split <;> rfl
    rw [paramTexts, List.count_append, List.count_cons, List.count_append, ih h.2, hstar]
    cases hany : ps.any fun p => p.kind = .positionalOnly <;> by_cases hk : p.kind = .positionalOnly <;>
      simp [hk, hany, hp]

theorem count_slash_mark (P : Prop) [Decidable P] :
    (if P then ["/"] else [] : List String).count "*" = 0 := by
  split <;> rfl

theorem count_star_seen (ps : List Param) (h : ∀ p ∈ ps, p.IsWritten) :
    (paramTexts .draft true ps).count "*" = 0 := by
  induction ps with
  | nil => rfl
  | cons p ps ih =>
    rw [List.forall_mem_cons] at h
    have hp := h.1.text_ne.2
    rw [paramTexts, List.count_append, List.count_cons, List.count_append, Bool.true_or, Bool.true_or,
      ih h.2, count_slash_mark]
    simp [hp]

/-- **There is one bare star if there is a keyword-only parameter and none takes a surplus,** and none
otherwise. -/
theorem count_star (ps : List Param) (h : ParamsWritten ps) :
    (paramTexts .draft false ps).count "*" =
      if (ps.any fun p => p.kind = .keywordOnly) && !(ps.any fun p => p.kind = .varPositional) then 1
      else 0 := by
  induction ps with
  | nil => rfl
  | cons p ps ih =>
    have hp := (h.written p (by simp)).text_ne.2
    have hseen := count_star_seen ps h.tail.written
    have hlater := (List.pairwise_cons.mp h.ordered).1
    rw [paramTexts, List.count_append, List.count_cons, List.count_append, count_slash_mark]
    by_cases hk : p.kind = .keywordOnly
    · have hnone : (ps.any fun q => q.kind = .varPositional) = false := by
        rw [List.any_eq_false]
        intro q hq heq
        have hrank := (hlater q hq).1
        rw [hk, of_decide_eq_true heq] at hrank
        simp [rank] at hrank
      simp [hk, hp, hseen, hnone]
    · by_cases hv : p.kind = .varPositional
      · simp [hv, hp, hseen]
      · have hs : (false || decide (p.kind = .varPositional) || decide (p.kind = .keywordOnly)) = false := by
          simp [hk, hv]
        rw [hs, ih h.tail]
        simp [hk, hv, hp]

end Reading

section Reading

variable {ps : List Param}

/-! ## A definition -/

/-- The source of a function that does nothing, by its parameter list. -/
def definitionText (params : String) : String := "def f(" ++ params ++ "): pass"

theorem toList_definitionText (params : String) : (definitionText params).toList =
    "def".toList ++ ([' '] ++ ("f".toList ++ ('(' :: (params.toList ++ [')']) ++
      ([':'] ++ ([' '] ++ "pass".toList))))) := by
  simp [definitionText]

/-- The tokens of such a source. -/
theorem lexes_definitionText {params : String} {ts : List Token}
    (h : Lexes EndsEntry params.toList ts) :
    Lexes (Avoids joinsWord) (definitionText params).toList
      (.word "def" :: .word "f" :: .sign "(" :: (ts ++ [.sign ")", .sign ":", .word "pass"])) := by
  have hparen := h.enclosed (.inl ⟨rfl, rfl⟩) fun rest =>
    ⟨avoids_of_standsAlone (by decide) rest, avoids_cons (by decide) rest⟩
  have hpass := lexes_space.append (lexes_word (s := "pass") (by decide)) fun _ _ => trivial
  have hbody := (lexes_sign (c := ':') (by decide)).append hpass fun rest _ =>
    avoids_cons (c := ' ') (by decide) _
  have hcall := (lexes_word (s := "f") (by decide)).append
    (hparen.append hbody fun _ _ => trivial) fun rest _ =>
      avoids_cons (c := '(') (joinsWord_of_ascii (by decide)) _
  have hdef := (lexes_word (s := "def") (by decide)).append
    (lexes_space.append hcall fun _ _ => trivial) fun rest _ =>
      avoids_cons (c := ' ') (joinsWord_of_ascii (by decide)) _
  rw [toList_definitionText]
  simpa using hdef

/-- A function that does nothing, once its parameter list is read. -/
theorem run_definition {ts : List Token} {rs : List Param} {fuel : Nat}
    (hparams : ∀ ls, (params (fuel + 4) {}).run (atLine 1 ts ++ ⟨.sign ")", 1⟩ :: ls) = .ok (rs, ls)) :
    (module (fuel + 8)).run (atLine 1 (.word "def" :: .word "f" :: .sign "(" ::
        (ts ++ [.sign ")", .sign ":", .word "pass"])) ++ [⟨.newline, 1⟩, ⟨.finish, 1⟩]) =
      .ok ([.define false "f" rs none [] [.pass]], []) := by
  obtain ⟨ls, hls⟩ : ∃ ls : List Lexeme, ls = ⟨.word "f", 1⟩ :: ⟨.sign "(", 1⟩ ::
      (atLine 1 ts ++ ⟨.sign ")", 1⟩ :: [⟨.sign ":", 1⟩, ⟨.word "pass", 1⟩, ⟨.newline, 1⟩,
        ⟨.finish, 1⟩]) := ⟨_, rfl⟩
  have htokens : atLine 1 (.word "def" :: .word "f" :: .sign "(" ::
      (ts ++ [.sign ")", .sign ":", .word "pass"])) ++ [⟨.newline, 1⟩, ⟨.finish, 1⟩] =
      ⟨.word "def", 1⟩ :: ls := by
    simp [hls]
  have hblock : (block (fuel + 4)).run [⟨.word "pass", 1⟩, ⟨.newline, 1⟩, ⟨.finish, 1⟩] =
      .ok ([.pass], [⟨.finish, 1⟩]) := rfl
  have hfunction : (function (fuel + 5) false []).run ls =
      .ok (.define false "f" rs none [] [.pass], [⟨.finish, 1⟩]) := by
    rw [hls, function, run_name (by decide), expectSign, run_expect, run_bind_ok _ (hparams _),
      acceptSign, run_accept_other (by simp), pure_bind, expectSign, run_expect, run_bind_ok _ hblock,
      run_pure]
  have hdefinition : (definition (fuel + 6) []).run (⟨.word "def", 1⟩ :: ls) =
      .ok (.define false "f" rs none [] [.pass], [⟨.finish, 1⟩]) := by
    rw [definition, run_peek]
    simp only [nextToken_cons]
    rw [run_next, hfunction]
  have hstmt : (stmt (fuel + 7)).run (⟨.word "def", 1⟩ :: ls) =
      .ok ([.define false "f" rs none [] [.pass]], [⟨.finish, 1⟩]) := by
    rw [stmt, run_peek]
    simp only [nextToken_cons]
    rw [run_bind_ok _ hdefinition, run_pure]
  have hstmts : (stmts (fuel + 8)).run (⟨.word "def", 1⟩ :: ls) =
      .ok ([.define false "f" rs none [] [.pass]], [⟨.finish, 1⟩]) := by
    rw [stmts, run_bind_ok _ hstmt, run_peek]
    rfl
  rw [htokens, module, run_accept_other (by simp), run_bind_ok _ hstmts, run_expect, run_pure]

/-- **A written parameter list is one that a definition can have.** -/
theorem readModule_params (h : ParamsWritten ps) :
    ∃ rs, readModule (definitionText (paramsText .draft ps)) =
        .ok [.define false "f" rs none [] [.pass]] ∧ List.Forall₂ Param.ReadsAs ps rs := by
  obtain ⟨acc', hbare, tss, rs, hlexes, hreads, hparams, hrs⟩ := read_params h
  refine ⟨rs, ?_, hrs⟩
  have hlist := lexes_intercalate hlexes fun rest =>
    ⟨avoids_of_standsAlone (c := ',') (by decide) rest, avoids_cons (c := ',') (by decide) rest⟩
  rw [show [',', ' '] = ", ".toList from rfl, ← String.toList_intercalate] at hlist
  have hlex := lexes_definitionText hlist
  rw [readModule, paramsText, lex_of_lexes hlex (avoids_nil _) ⟨'d', _, toList_definitionText _, rfl⟩]
  have hlen : ∀ us : List Token, (us.map (⟨·, 1⟩) ++ [⟨.newline, 1⟩, ⟨.finish, 1⟩] : List Lexeme).length =
      us.length + 2 := by simp
  refine runReader_ok rfl [] ?_
  rw [hlen]
  obtain ⟨fuel, hfuel⟩ : ∃ fuel, 30 * ((Token.word "def" :: .word "f" :: .sign "(" ::
      ([.sign ","].intercalate tss ++ [.sign ")", .sign ":", .word "pass"])).length + 2 + 2) =
        fuel + 8 := ⟨_, (Nat.sub_add_cancel (by simp; omega)).symm⟩
  rw [hfuel]
  simp only [List.length_cons, List.length_append, List.length_nil] at hfuel
  refine run_definition fun ls => ?_
  rw [hreads.run hbare 1 (fuel + 4) ls (by omega), hparams]
  simp

end Reading

end Facade.Syntax
