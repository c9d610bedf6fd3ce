import Facade.Proofs.SourceTexts
import Facade.Proofs.StatementTexts

/-!
# Texts of modules

Imports, assignments, results, functions and classes are read back from the lines they are written in.

* `SimpleText`: a text is read as a statement of one line.
* `lexes_defineHeader`, `lexes_classHeader`: the lines that definitions open with.
* `Written`: what statements are read as; `Written.readModule`: a module of such statements.
-/

namespace Facade.Syntax

open Text Reader

/-! ## Statements of one line -/

/-- A text is read as a statement of one line. -/
structure SimpleText (text : String) (s : Stmt) : Prop where
  tokens : ∃ ts, Lexes (Avoids joinsOperand) text.toList ts ∧ SimpleReads ts s
  opens : OpensPiece text.toList

section Simple

variable {s t v : String} {e a x : Expr} {ok : List Char → Prop} {cs ds : List Char} {ts us : List Token}

theorem OpensPiece.append (h : OpensPiece cs) (ds : List Char) : OpensPiece (cs ++ ds) := by
  obtain ⟨c, r, rfl, hc⟩ := h
  exact ⟨c, r ++ ds, rfl, hc⟩

/-- A word, and what stands behind a blank. -/
theorem lexes_spaced {w : String} (hw : isIdentifier w = true) (h : Lexes ok cs ts) :
    Lexes ok (w.toList ++ ([' '] ++ cs)) (.word w :: ts) := by
  have := (lexes_word hw).append (lexes_space.append h fun _ _ => trivial) fun rest _ =>
    avoids_cons (c := ' ') (joinsWord_of_ascii (by decide)) _
  simpa using this

/-- A value behind what it is assigned to. -/
theorem lexes_assigned (h : Lexes (Avoids joinsOperand) cs ts) (h' : Lexes ok ds us) :
    Lexes ok (cs ++ ([' ', '=', ' '] ++ ds)) (ts ++ .sign "=" :: us) := by
  have hsign := (lexes_sign (c := '=') (by decide)).append (lexes_space.append h' fun _ _ => trivial)
    fun rest _ => avoids_cons (c := ' ') (by decide) _
  have := h.append (lexes_space.append hsign fun _ _ => trivial) fun rest _ =>
    avoids_cons (c := ' ') (joinsOperand_of_ascii (by decide)) _
  simpa using this

/-- An annotation behind what it is about. -/
theorem lexes_annotated (h : Lexes (Avoids joinsOperand) cs ts) (h' : Lexes ok ds us) :
    Lexes ok (cs ++ ([':', ' '] ++ ds)) (ts ++ .sign ":" :: us) := by
  have hsign := (lexes_sign (c := ':') (by decide)).append (lexes_space.append h' fun _ _ => trivial)
    fun rest _ => avoids_cons (c := ' ') (by decide) _
  have := h.append hsign fun rest _ => avoids_cons (c := ':') (joinsOperand_of_ascii (by decide)) _
  simpa using this

theorem TextReads.simpleText (h : TextReads s e) : SimpleText s (.expr e) := by
  obtain ⟨ts, hlex, hreads⟩ := h.tokens
  exact ⟨⟨ts, hlex, hreads.simpleReads⟩, h.opens⟩

/-- An assignment. -/
theorem TextReads.assign (ht : TextReads t e) (htarget : isTarget e = true) (hv : TextReads v x) :
    SimpleText (t ++ " = " ++ v) (.assign [e] x) := by
  obtain ⟨ts, hlex, hreads⟩ := ht.tokens
  obtain ⟨us, hlex', hreads'⟩ := hv.tokens
  refine ⟨⟨_, ?_, hreads.assign htarget hreads'⟩, ?_⟩
  · simpa using lexes_assigned hlex hlex'
  · simpa using OpensPiece.append ht.opens (" = " ++ v).toList

/-- An annotation of an attribute, with its value. -/
theorem simpleText_field {m n : String} (hm : isPlainName m = true) (hn : isPlainName n = true)
    (ha : TextReads s a) (hv : TextReads v x) : SimpleText (m ++ "." ++ n ++ ": " ++ s ++ " = " ++ v)
      (.annAssign (.attribute (.name m) n) a (some x) false) := by
  have hplace : ExprReads [.word m, .sign ".", .word n] (.attribute (.name m) n) :=
    ((primaryReads_name hm).attribute hn).factorReads.exprReads
  have hparts : ∀ q ∈ [m.toList, n.toList], isPlainName (String.ofList q) = true := by simp [hm, hn]
  have hdotted := (lexes_dotted hparts).mono fun _ => joinsWord_of_joinsOperand
  obtain ⟨hs, hlex, hreads⟩ := ha.tokens
  obtain ⟨us, hlex', hreads'⟩ := hv.tokens
  obtain ⟨c, r, hc, hstart⟩ := isIdentifierStart_of_isIdentifier (isIdentifier_of_isPlainName hm)
  refine ⟨⟨_, ?_, hplace.annotate rfl (by simp) hreads (.some hreads')⟩,
    ⟨c, r ++ ("." ++ n ++ ": " ++ s ++ " = " ++ v).toList, by simp [hc],
      isLayout_of_isIdentifierStart hstart⟩⟩
  simpa [valueTokens, dotJoined, dottedTokens] using lexes_annotated hdotted (lexes_assigned hlex hlex')

/-- An annotation of a name. -/
theorem simpleText_declare {n : String} (hn : isPlainName n = true) (ha : TextReads s a) :
    SimpleText (n ++ ": " ++ s) (.annAssign (.name n) a none true) := by
  have hplace : ExprReads [.word n] (.name n) := (primaryReads_name hn).factorReads.exprReads
  have hword := (lexes_word (isIdentifier_of_isPlainName hn)).mono fun _ => joinsWord_of_joinsOperand
  obtain ⟨hs, hlex, hreads⟩ := ha.tokens
  obtain ⟨c, r, hc, hstart⟩ := isIdentifierStart_of_isIdentifier (isIdentifier_of_isPlainName hn)
  refine ⟨⟨_, ?_, hplace.annotate rfl (by simp) hreads .none⟩,
    ⟨c, r ++ (": " ++ s).toList, by simp [hc], isLayout_of_isIdentifierStart hstart⟩⟩
  simpa [valueTokens] using lexes_annotated hword hlex

theorem TextReads.returns (h : TextReads s e) : SimpleText ("return " ++ s) (.returns (some e)) := by
  obtain ⟨ts, hlex, hreads⟩ := h.tokens
  refine ⟨⟨_, ?_, hreads.returns⟩, ⟨'r', "eturn ".toList ++ s.toList, by simp, by decide⟩⟩
  simpa using lexes_spaced (w := "return") (by decide) hlex

theorem simpleText_pass : SimpleText "pass" .pass := by
  have hword : Lexes (Avoids joinsOperand) "pass".toList [.word "pass"] :=
    (lexes_word (by decide)).mono fun _ => joinsWord_of_joinsOperand
  exact ⟨⟨_, hword, simpleReads_pass⟩, ⟨'p', "ass".toList, by decide, by decide⟩⟩

/-- An import of a module, under a name of its own or not. -/
theorem simpleText_import {n : ImportName} (h : n.isLegible = true) :
    SimpleText ("import " ++ n.text) (.imports [n]) := by
  rw [ImportName.isLegible, Bool.and_eq_true, Option.all_eq_true] at h
  obtain ⟨p, ps, hsplit, hjoin⟩ := splitDots_cases n.name.toList
  have hparts : ∀ q ∈ p :: ps, isPlainName (String.ofList q) = true := by
    simpa [isDottedName, dottedParts, hsplit] using h.1
  have hname : String.ofList (dotJoined p ps) = n.name := by
    rw [dotJoined, hjoin, String.ofList_toList]
  have hbound : Lexes (Avoids joinsWord)
      (dotJoined p ps ++ n.boundAs.elim [] fun s => " as ".toList ++ s.toList)
      (dottedTokens p ps ++ n.boundAs.elim [] fun s => [.word "as", .word s]) := by
    have hdotted := lexes_dotted hparts
    cases hb : n.boundAs with
    | none => simpa using hdotted
    | some b =>
      have hword := lexes_spaced (w := "as") (by decide)
        (lexes_word (isIdentifier_of_isPlainName (h.2 b hb)))
      have := hdotted.append (lexes_space.append hword fun _ _ => trivial) fun rest _ =>
        avoids_cons (c := ' ') (joinsWord_of_ascii (by decide)) _
      simpa using this
  have hreads := simpleReads_import hparts h.2
  rw [hname] at hreads
  refine ⟨⟨_, ?_, hreads⟩, ⟨'i', "mport ".toList ++ n.text.toList, by simp, by decide⟩⟩
  have htext : n.text.toList =
      dotJoined p ps ++ n.boundAs.elim [] fun s => " as ".toList ++ s.toList := by
    have := congrArg String.toList hname
    rw [String.toList_ofList] at this
    rw [this, ImportName.text]
    cases n.boundAs <;> simp
  have := lexes_spaced (w := "import") (by decide) hbound
  simpa [htext] using this.mono fun _ => joinsWord_of_joinsOperand

end Simple

/-! ## Lines of definitions -/

theorem lexes_arrow : Lexes (fun _ => True) ['-', '>'] [.sign "->"] := by
  refine ⟨by decide, 1, by decide, fun fuel st rest _ => ?_⟩
  have hthree : signs3.contains (String.ofList (('-' :: '>' :: rest).take 3)) = false := by
    refine contains_ofList fun s hs htake => ?_
    have hfirst : ∀ s ∈ signs3, s.toList.head? ≠ some '-' := by decide
    exact hfirst s hs (by rw [htake]; rfl)
  have hread : readSign? ('-' :: '>' :: rest) = some ("->", rest) := by
    rw [readSign?]
    simp only [hthree, Bool.false_eq_true, if_false]
    simp [signs2]
  exact lexFrom_separator (by decide) hread fuel st

section Headers

variable {name : String} {ps : List Param} {o : Option Expr} {ts : List Token} {us : Option (List Token)}
  {isAsync : Bool}

/-- The tokens of an expression, if there is one. -/
def Expr.Lexed (o : Option Expr) (us : Option (List Token)) : Prop :=
  Option.Rel (fun e us => Lexes (Avoids joinsOperand) (e.text .draft).toList us) o us

/-- The text of the result that a function states. -/
def resultText (o : Option Expr) : String :=
  match o with
  | some e => " -> " ++ e.text .draft
  | none => ""

/-- The result that a function states, and the colon behind it. -/
theorem lexes_result (h : Expr.Lexed o us) : Lexes (Avoids joinsSign) ((resultText o).toList ++ [':'])
    (us.elim [] (.sign "->" :: ·) ++ [.sign ":"]) := by
  have hcolon := lexes_sign (c := ':') (by decide)
  cases h with
  | none => exact hcolon
  | @some e us he =>
    have hend := he.append hcolon fun rest _ =>
      avoids_cons (c := ':') (joinsOperand_of_ascii (by decide)) _
    have harrow := lexes_arrow.append (lexes_space.append hend fun _ _ => trivial) fun _ _ => trivial
    simpa [resultText] using lexes_space.append harrow fun _ _ => trivial

/-- **The line that a function opens with.** -/
theorem lexes_defineHeader (hname : isPlainName name = true)
    (hparams : Lexes EndsEntry (paramsText .draft ps).toList ts) (hresult : Expr.Lexed o us) :
    Lexes (Avoids joinsSign) (defineHeader .draft isAsync name ps o).toList
      (defTokens isAsync ++ functionTokens name ts us) := by
  have hparen := hparams.enclosed (.inl ⟨rfl, rfl⟩) fun rest =>
    ⟨avoids_of_standsAlone (by decide) rest, avoids_cons (by decide) rest⟩
  have hcall := (lexes_word (isIdentifier_of_isPlainName hname)).append
    (hparen.append (lexes_result hresult) fun _ _ => trivial) fun rest _ =>
      avoids_cons (c := '(') (joinsWord_of_ascii (by decide)) _
  have hdef := lexes_spaced (w := "def") (by decide) hcall
  have htext : defineHeader .draft isAsync name ps o = (if isAsync then "async def " else "def ") ++ name ++
      "(" ++ paramsText .draft ps ++ ")" ++ resultText o ++ ":" := by
    cases o <;> rfl
  cases isAsync with
  | false => simpa [htext, defTokens, functionTokens] using hdef
  | true => simpa [htext, defTokens, functionTokens] using lexes_spaced (w := "async") (by decide) hdef

theorem opensPiece_defineHeader : OpensPiece (defineHeader .draft isAsync name ps o).toList := by
  cases isAsync with
  | false => exact ⟨'d', _, by simp [defineHeader]; rfl, by decide⟩
  | true => exact ⟨'a', _, by simp [defineHeader]; rfl, by decide⟩

/-- **The line that a class opens with.** -/
theorem lexes_classHeader {bases : List Expr} {tss : List (List Token)} (hname : isPlainName name = true)
    (h : List.Forall₂ (Lexes (Avoids joinsOperand))
      ((bases.map (Expr.text .draft)).map String.toList) tss) :
    Lexes (Avoids joinsSign) (classHeader .draft name bases []).toList
      (.word "class" :: classTokens name tss) := by
  have hcolon := lexes_sign (c := ':') (by decide)
  have hword := lexes_word (isIdentifier_of_isPlainName hname)
  cases bases with
  | nil =>
    cases h
    have := hword.append hcolon fun rest _ => avoids_cons (c := ':') (joinsWord_of_ascii (by decide)) _
    simpa [classHeader, Expr.keywordTexts, classTokens] using lexes_spaced (w := "class") (by decide) this
  | cons base bases =>
    have hlist := lexes_intercalate h fun rest => avoids_of_standsAlone (c := ',') (by decide) rest
    have hparen := hlist.enclosed (.inl ⟨rfl, rfl⟩) fun rest => avoids_of_standsAlone (by decide) rest
    have hcall := hword.append (hparen.append hcolon fun _ _ => trivial) fun rest _ =>
      avoids_cons (c := '(') (joinsWord_of_ascii (by decide)) _
    have hclass := lexes_spaced (w := "class") (by decide) hcall
    rw [show [',', ' '] = ", ".toList from rfl, ← String.toList_intercalate] at hclass
    have hne : tss.isEmpty = false := by
      cases h
      rfl
    simpa [classHeader, Expr.keywordTexts, classTokens, hne] using hclass

theorem opensPiece_classHeader {bases : List Expr} {keywords : List (Option String × Expr)} :
    OpensPiece (classHeader .draft name bases keywords).toList :=
  ⟨'c', _, by simp [classHeader]; rfl, by decide⟩

end Headers

/-! ## Written statements -/

/-- An expression is written as a text that is read as another one, wherever it stands. -/
def Expr.Rereads (e r : Expr) : Prop := TextReads (e.text .draft) r

/-- A statement is written as one line. -/
def Stmt.IsLine (s : Stmt) (text : String) : Prop := ∀ level, s.lines .draft level = [lineAt level text]

/-- What statements are read as once they are written: without the lines that mean nothing, and each
expression as what its text is read as. -/
inductive Written : List Stmt → List Stmt → Prop
  | nil : Written [] []
  | blank {ss rs : List Stmt} (h : Written ss rs) : Written (.layout "" :: ss) rs
  | line {s r : Stmt} {text : String} {ss rs : List Stmt} (hs : s.IsLine text) (hr : SimpleText text r)
    (h : Written ss rs) : Written (s :: ss) (r :: rs)
  | define {isAsync : Bool} {name : String} {ps qs : List Param} {o x : Option Expr} {ds es : List Expr}
    {body inner ss rs : List Stmt} (hname : isPlainName name = true) (hps : ParamsWritten ps)
    (hqs : List.Forall₂ Param.ReadsAs ps qs) (ho : Option.Rel Expr.Rereads o x)
    (hds : List.Forall₂ (fun d e => OperandReads (d.text .draft) e) ds es) (hbody : Written body inner)
    (hne : inner ≠ []) (h : Written ss rs) :
    Written (.define isAsync name ps o ds body :: ss) (.define isAsync name qs x es inner :: rs)
  | class {name : String} {bases bs ds es : List Expr} {body inner ss rs : List Stmt}
    (hname : isPlainName name = true) (hbs : List.Forall₂ Expr.Rereads bases bs)
    (hds : List.Forall₂ (fun d e => OperandReads (d.text .draft) e) ds es) (hbody : Written body inner)
    (hne : inner ≠ []) (h : Written ss rs) :
    Written (.class name bases [] ds body :: ss) (.class name bs [] es inner :: rs)

section Lines

variable {level : Nat} {cs : List Char} {text name : String} {s : Stmt} {e : Expr}
  {ds es bases bs : List Expr} {ps qs : List Param} {o x : Option Expr} {body ss rs : List Stmt}
  {d : List Expr → Stmt} {isAsync : Bool}

theorem toList_lineAt_newline (h : OpensPiece text.toList) : (lineAt level text ++ "\n").toList =
    List.replicate (4 * level) ' ' ++ (text.toList ++ ['\n']) := by
  obtain ⟨c, r, hc, -⟩ := h
  have hne : text.isEmpty = false := by
    rw [← Bool.not_eq_true, String.isEmpty_iff, ← String.toList_inj, hc]
    simp
  simp [lineAt, hne, indentation]

theorem SimpleText.chunk (h : SimpleText text s) :
    Chunk level (lineAt level text ++ "\n").toList (StmtReads [s]) := by
  obtain ⟨ts, hlex, hreads⟩ := h.tokens
  rw [toList_lineAt_newline h.opens]
  exact chunk_row hlex (fun rest => avoids_cons (c := '\n') (joinsOperand_of_ascii (by decide)) rest)
    h.opens hreads.stmtReads

theorem lexes_at : Lexes (Avoids joinsSign) ['@'] [.sign "@"] := by
  have hstart : isIdentifierStart '@' = false := isIdentifierStart_of_ascii (by decide)
  refine ⟨by decide, 1, le_rfl, fun fuel st rest hrest => ?_⟩
  have hread := readSign?_single (c := '@') (by decide) hrest
  simp [lexFrom, hstart, hread, LexState.push, LexState.pushAll]

/-- A decorator in front of a definition. -/
theorem OperandReads.decorate (h : OperandReads text e) (hd : Chunk level cs (DefinitionReads es d)) :
    Chunk level ((lineAt level ("@" ++ text) ++ "\n").toList ++ cs) (DefinitionReads (e :: es) d) := by
  obtain ⟨ts, hlex, hreads⟩ := h.textReads.tokens
  have hopen : OpensPiece ("@" ++ text).toList := ⟨'@', text.toList, by simp, by decide⟩
  have hline : Lexes (Avoids joinsOperand) ("@" ++ text).toList (.sign "@" :: ts) := by
    rw [String.toList_append]
    exact lexes_at.append hlex fun rest _ => h.avoids_joinsSign rest
  have hrow : Chunk level (List.replicate (4 * level) ' ' ++ (("@" ++ text).toList ++ ['\n']))
      fun ls => ∃ n, ls = atLine n (.sign "@" :: ts ++ [.newline]) :=
    chunk_row hline (fun rest => avoids_cons (c := '\n') (joinsOperand_of_ascii (by decide)) rest) hopen
      fun n => ⟨n, rfl⟩
  rw [toList_lineAt_newline hopen]
  refine hrow.append hd ?_
  rintro _ ls ⟨n, rfl⟩ hls
  exact hls.cons hreads n

theorem decorators_chunk (h : List.Forall₂ (fun d e => OperandReads (Expr.text .draft d) e) ds es)
    (hd : Chunk level cs (DefinitionReads [] d)) :
    Chunk level ((Source.linesText (ds.map fun d => lineAt level ("@" ++ d.text .draft))).toList ++ cs)
      (DefinitionReads es d) := by
  induction h with
  | nil => simpa [Source.linesText] using hd
  | @cons a b as bs hab _ ih =>
    have := hab.decorate ih
    simpa [Source.linesText] using this

theorem readsAs_unique {e a b : Expr} (ha : e.ReadsAs a) (hb : e.ReadsAs b) : a = b :=
  Except.ok.inj (ha.1.symm.trans hb.1)

theorem rel_unique {a b : Option Expr} (ha : Option.Rel Expr.ReadsAs o a) (hb : Option.Rel Expr.ReadsAs o b) :
    a = b := by
  cases ha with
  | none =>
    cases hb
    rfl
  | some ha =>
    cases hb with
    | some hb => rw [readsAs_unique ha hb]

theorem Param.ReadsAs.unique {p q r : Param} (hq : p.ReadsAs q) (hr : p.ReadsAs r) : q = r := by
  obtain ⟨kind, name, hint, default⟩ := q
  obtain ⟨kind', name', hint', default'⟩ := r
  have hkind := hq.kind.trans hr.kind.symm
  have hname := hq.name.trans hr.name.symm
  have hhint := rel_unique hq.hint hr.hint
  have hdefault := rel_unique hq.default hr.default
  dsimp only at hkind hname hhint hdefault
  rw [hkind, hname, hhint, hdefault]

/-- A parameter list that is written is read as the list it is read as. -/
theorem exists_paramsRun (hps : ParamsWritten ps) (hqs : List.Forall₂ Param.ReadsAs ps qs) :
    ∃ ts, Lexes EndsEntry (paramsText .draft ps).toList ts ∧ ParamsRun ts qs := by
  obtain ⟨acc, hbare, tss, rs, hlexes, hreads, hparams, hrs⟩ := read_params hps
  have hlist := lexes_intercalate hlexes fun rest =>
    ⟨avoids_of_standsAlone (c := ',') (by decide) rest, avoids_cons (c := ',') (by decide) rest⟩
  rw [show [',', ' '] = ", ".toList from rfl, ← String.toList_intercalate] at hlist
  have hunique : rs = qs := Relator.RightUnique.forall₂ (fun _ _ _ hq hr => hq.unique hr) hrs hqs
  refine ⟨_, hlist, fun n fuel ls hfuel => ?_⟩
  rw [hreads.run hbare n fuel ls hfuel, hparams]
  simp [hunique]

/-- **A function is read back** with its block. -/
theorem function_chunk (hname : isPlainName name = true) (hps : ParamsWritten ps)
    (hqs : List.Forall₂ Param.ReadsAs ps qs) (ho : Option.Rel Expr.Rereads o x)
    (hbody : Chunk (level + 1) cs (StmtsRead body)) :
    Chunk level ((lineAt level (defineHeader .draft isAsync name ps o) ++ "\n").toList ++ cs)
      (DefinitionReads [] fun ds => .define isAsync name qs x ds body) := by
  obtain ⟨ts, hlex, hrun⟩ := exists_paramsRun hps hqs
  obtain ⟨us, hlexed, hresult⟩ : ∃ us, Expr.Lexed o us ∧ Option.Rel ExprReads us x := by
    cases ho with
    | none => exact ⟨none, .none, .none⟩
    | some h =>
      obtain ⟨ts, hlex, hreads⟩ := h.tokens
      exact ⟨some ts, .some hlex, .some hreads⟩
  rw [toList_lineAt_newline opensPiece_defineHeader]
  refine Chunk.block (lexes_defineHeader hname hlex hlexed)
    (fun rest => avoids_cons (c := '\n') (by decide) rest) opensPiece_defineHeader hbody
    fun n m m' ls hls => ?_
  exact definitionReads_function hname hrun hresult hls n m m'

/-- **A class is read back** with its block. -/
theorem class_chunk (hname : isPlainName name = true) (hbs : List.Forall₂ Expr.Rereads bases bs)
    (hbody : Chunk (level + 1) cs (StmtsRead body)) :
    Chunk level ((lineAt level (classHeader .draft name bases []) ++ "\n").toList ++ cs)
      (DefinitionReads [] fun ds => .class name bs [] ds body) := by
  have htexts : List.Forall₂ TextReads (bases.map (Expr.text .draft)) bs := by
    rw [List.forall₂_map_left_iff]
    exact hbs
  obtain ⟨tss, hlexes, hreads⟩ := exists_tokens_texts htexts
  have hargs : ∀ acc : ArgsRead, acc.keywords = [] →
      ArgsRead.Reads tss acc { acc with args := bs.reverse ++ acc.args } := by
    clear hlexes htexts hbs
    induction hreads with
    | nil => exact fun acc _ => .nil acc
    | @cons _ b _ _ h _ ih =>
      intro acc hacc
      have := ih { acc with args := b :: acc.args } hacc
      simpa using ArgsRead.Reads.cons (h.argReads hacc) this
  rw [toList_lineAt_newline opensPiece_classHeader]
  refine Chunk.block (lexes_classHeader hname hlexes)
    (fun rest => avoids_cons (c := '\n') (by decide) rest) opensPiece_classHeader hbody
    fun n m m' ls hls => ?_
  have hread := definitionReads_class hname (hargs {} rfl) hls n m m'
  simp only [List.append_nil, List.reverse_reverse, List.reverse_nil] at hread
  exact hread

/-! ## Blocks -/

/-- The lines of statements at a level, as one text. -/
def bodyText (level : Nat) (ss : List Stmt) : List Char :=
  (Source.linesText (Stmt.bodyLines .draft level ss)).toList

theorem toList_linesText_append (ls ls' : List String) : (Source.linesText (ls ++ ls')).toList =
    (Source.linesText ls).toList ++ (Source.linesText ls').toList := by
  simp [Source.linesText]

theorem toList_linesText_cons (l : String) (ls : List String) : (Source.linesText (l :: ls)).toList =
    (l ++ "\n").toList ++ (Source.linesText ls).toList := by
  simp [Source.linesText]

theorem bodyText_cons (level : Nat) (s : Stmt) (ss : List Stmt) : bodyText level (s :: ss) =
    (Source.linesText (s.lines .draft level)).toList ++ bodyText level ss := by
  rw [bodyText, Stmt.bodyLines, toList_linesText_append, bodyText]

theorem bodyText_line {l : String} (h : s.lines .draft level = [l]) (ss : List Stmt) :
    bodyText level (s :: ss) = (l ++ "\n").toList ++ bodyText level ss := by
  rw [bodyText_cons, h, toList_linesText_cons]
  simp [Source.linesText]

theorem documentedLines_draft (level : Nat) (ss : List Stmt) :
    Stmt.documentedLines .draft level ss = Stmt.bodyLines .draft level ss := by
  cases ss with
  | nil => rfl
  | cons s ss =>
    rw [Stmt.documentedLines, Stmt.bodyLines]
    cases s.docstring? <;> rfl

theorem bodyText_define (name : String) (ps : List Param) (o : Option Expr) (ds : List Expr)
    (body ss : List Stmt) : bodyText level (.define isAsync name ps o ds body :: ss) =
      ((Source.linesText (ds.map fun d => lineAt level ("@" ++ d.text .draft))).toList ++
        ((lineAt level (defineHeader .draft isAsync name ps o) ++ "\n").toList ++
          bodyText (level + 1) body)) ++ bodyText level ss := by
  rw [bodyText_cons, Stmt.lines, documentedLines_draft, toList_linesText_append, toList_linesText_append,
    toList_linesText_cons]
  rfl

theorem bodyText_class (name : String) (bases ds : List Expr) (body ss : List Stmt) :
    bodyText level (.class name bases [] ds body :: ss) =
      ((Source.linesText (ds.map fun d => lineAt level ("@" ++ d.text .draft))).toList ++
        ((lineAt level (classHeader .draft name bases []) ++ "\n").toList ++
          bodyText (level + 1) body)) ++ bodyText level ss := by
  rw [bodyText_cons, Stmt.lines, documentedLines_draft, toList_linesText_append, toList_linesText_append,
    toList_linesText_cons]
  rfl

/-- What is known of a body: it is read as its statements, or it has none and all lines are blank. -/
def BodyReads (level : Nat) (cs : List Char) (rs : List Stmt) : Prop :=
  (rs = [] ∧ ∃ k, cs = List.replicate k '\n') ∨ Chunk level cs (StmtsRead rs)

theorem Chunk.blanks {P : List Lexeme → Prop} (h : Chunk level cs P) (k : Nat) :
    Chunk level (cs ++ List.replicate k '\n') P := by
  induction k with
  | zero => simpa using h
  | succ k ih =>
    rw [List.replicate_succ', ← List.append_assoc]
    exact ih.concat_blank

theorem BodyReads.blank_cons (h : BodyReads level cs rs) : BodyReads level ('\n' :: cs) rs := by
  rcases h with ⟨hnil, k, rfl⟩ | h
  · exact .inl ⟨hnil, k + 1, rfl⟩
  · exact .inr h.blank_cons

/-- A statement in front of a body. -/
theorem BodyReads.cons {ds : List Char} (h : BodyReads level cs rs) (hs : Chunk level ds (StmtReads [s])) :
    BodyReads level (ds ++ cs) (s :: rs) := by
  rcases h with ⟨rfl, k, rfl⟩ | h
  · exact .inr ((hs.blanks k).mono fun _ hls => hls.stmtsRead)
  · exact .inr (hs.append h fun _ _ hls hls' => hls.append hls')

/-- **Statements are read back from their lines,** at every level. -/
theorem Written.bodyReads (h : Written ss rs) (level : Nat) : BodyReads level (bodyText level ss) rs := by
  induction h generalizing level with
  | nil => exact .inl ⟨rfl, 0, rfl⟩
  | blank _ ih =>
    rw [bodyText_line (show Stmt.lines .draft level (.layout "") = [""] from rfl)]
    exact (ih level).blank_cons
  | line hs hr _ ih =>
    rw [bodyText_line (hs level)]
    exact (ih level).cons hr.chunk
  | define hname hps hqs ho hds _ hne _ ihbody ih =>
    obtain hbody := (ihbody (level + 1)).resolve_left fun h => hne h.1
    rw [bodyText_define]
    exact (ih level).cons ((decorators_chunk hds (function_chunk hname hps hqs ho hbody)).mono
      fun _ hls => hls.stmtReads)
  | «class» hname hbs hds _ hne _ ihbody ih =>
    obtain hbody := (ihbody (level + 1)).resolve_left fun h => hne h.1
    rw [bodyText_class]
    exact (ih level).cons ((decorators_chunk hds (class_chunk hname hbs hbody)).mono
      fun _ hls => hls.stmtReads)

/-- **A module is read back from its text.** -/
theorem Written.readModule (h : Written ss rs) (hne : rs ≠ []) :
    Syntax.readModule (render .draft ss) = .ok rs := by
  have hchunk : Chunk 0 (render .draft ss).toList (StmtsRead rs) := by
    have hbody := (h.bodyReads 0).resolve_left fun h => hne h.1
    rw [render_draft, documentedLines_draft]
    unfold bodyText at hbody
    generalize Stmt.bodyLines .draft 0 ss = ls at hbody ⊢
    cases ls with
    | nil => exact hbody.concat_blank
    | cons l ls => rwa [Source.intercalate_feed (by simp)]
  obtain ⟨ls, m, hread, hlexemes, hfault⟩ := hchunk.lex
  have hopens : nextToken ls ≠ .finish := fun heq => hread.opens (by simp [heq])
  refine runReader_ok hfault [] ?_
  rw [hlexemes, module, run_accept_other (by rwa [nextToken_append hopens]),
    run_bind_ok _ (hread.reads _ _ (by simp; omega) (by simp)), run_expect, run_pure]

end Lines

/-! ## What is read back -/

/-- A parameter without the spellings that it carries. -/
def Param.unspelled (p : Param) : Param :=
  { p with hint := p.hint.map Expr.unspelled, default := p.default.map Expr.unspelled }

mutual

/-- A statement without the spellings that it carries, and without lines that mean nothing. -/
def Stmt.unspelled : Stmt → List Stmt
  | .expr e => [.expr e.unspelled]
  | .assign targets value => [.assign (targets.map Expr.unspelled) value.unspelled]
  | .annAssign target hint value simple =>
    [.annAssign target.unspelled hint.unspelled (value.map Expr.unspelled) simple]
  | .returns value => [.returns (value.map Expr.unspelled)]
  | .define isAsync name params result decorators body =>
    [.define isAsync name (params.map Param.unspelled) (result.map Expr.unspelled)
      (decorators.map Expr.unspelled) (Stmt.allUnspelled body)]
  | .class name bases keywords decorators body =>
    [.class name (bases.map Expr.unspelled) keywords (decorators.map Expr.unspelled)
      (Stmt.allUnspelled body)]
  | .layout _ => []
  | s => [s]

/-- Statements without the spellings that they carry, and without lines that mean nothing. -/
def Stmt.allUnspelled : List Stmt → List Stmt
  | [] => []
  | s :: ss => s.unspelled ++ Stmt.allUnspelled ss

end

/-- Statements are read back from what they are written as, but for spellings and for lines that mean
nothing. -/
def Rereads (ss : List Stmt) : Prop := Written ss (Stmt.allUnspelled ss)

section Rereads

variable {ss ss' rs rs' body : List Stmt} {s : Stmt} {e v a : Expr} {ps : List Param} {o : Option Expr}
  {ds : List Expr} {name : String} {isAsync : Bool}

theorem Written.append (h : Written ss rs) (h' : Written ss' rs') : Written (ss ++ ss') (rs ++ rs') := by
  induction h with
  | nil => exact h'
  | blank _ ih => exact .blank ih
  | line hs hr _ ih => exact .line hs hr ih
  | define hname hps hqs ho hds hbody hne _ _ ih => exact .define hname hps hqs ho hds hbody hne ih
  | «class» hname hbs hds hbody hne _ _ ih => exact .class hname hbs hds hbody hne ih

theorem allUnspelled_append (ss ss' : List Stmt) :
    Stmt.allUnspelled (ss ++ ss') = Stmt.allUnspelled ss ++ Stmt.allUnspelled ss' := by
  induction ss with
  | nil => rw [List.nil_append, Stmt.allUnspelled, List.nil_append]
  | cons s ss ih => rw [List.cons_append, Stmt.allUnspelled, Stmt.allUnspelled, ih, List.append_assoc]

theorem Rereads.append (h : Rereads ss) (h' : Rereads ss') : Rereads (ss ++ ss') := by
  rw [Rereads, allUnspelled_append]
  exact Written.append h h'

theorem rereads_nil : Rereads [] := .nil

theorem rereads_flatMap {α : Type} {f : α → List Stmt} {l : List α} (h : ∀ x ∈ l, Rereads (f x)) :
    Rereads (l.flatMap f) := by
  induction l with
  | nil => exact rereads_nil
  | cons x l ih =>
    rw [List.forall_mem_cons] at h
    exact h.1.append (ih h.2)

theorem rereads_blank : Rereads [.layout ""] := .blank .nil

theorem rereads_pass : Rereads [.pass] := .line (fun _ => rfl) simpleText_pass .nil

/-- An assignment. -/
theorem IsOperand.rereads_assign (ht : IsOperand e) (htarget : isTarget e = true)
    (htuple : e.textAt .draft .tuple = e.text .draft) (hv : TextReads (v.text .draft) v.unspelled) :
    Rereads [.assign [e] v] := by
  have hline : (Stmt.assign [e] v).IsLine (e.text .draft ++ " = " ++ v.text .draft) := by
    intro level
    rw [Stmt.lines, List.map_singleton, htuple, String.join_cons, String.join_nil, String.append_empty]
  have hreads := (ht.text ▸ ht.reads.textReads).assign htarget hv
  simpa [Rereads, Stmt.allUnspelled, Stmt.unspelled, ht.unspelled] using Written.line hline hreads .nil

/-- An annotation of an attribute, with its value. -/
theorem rereads_field {m n : String} (hm : isPlainName m = true) (hn : isPlainName n = true)
    (ha : TextReads (a.text .draft) a.unspelled) (hv : TextReads (v.text .draft) v.unspelled) :
    Rereads [.annAssign (.attribute (.name m) n) a (some v) false] := by
  have hplace : (Expr.attribute (.name m) n).text .draft = m ++ "." ++ n := by
    simp [Expr.text, Expr.textAt]
  have hline : (Stmt.annAssign (.attribute (.name m) n) a (some v) false).IsLine
      (m ++ "." ++ n ++ ": " ++ a.text .draft ++ " = " ++ v.text .draft) := by
    intro level
    rw [← hplace, @String.append_assoc _ " = "]
    rfl
  exact .line hline (simpleText_field hm hn ha hv) .nil

/-- An annotation of a name. -/
theorem rereads_declare {n : String} (hn : isPlainName n = true)
    (ha : TextReads (a.text .draft) a.unspelled) : Rereads [.annAssign (.name n) a none true] :=
  .line (fun level => by rw [Stmt.lines, String.append_empty]; rfl) (simpleText_declare hn ha) .nil

/-- A result that is given back. -/
theorem rereads_returns (h : TextReads (v.text .draft) v.unspelled) : Rereads [.returns (some v)] :=
  .line (fun level => by rw [Stmt.lines, ← String.append_assoc]; rfl) h.returns .nil

/-- An expression that stands alone. -/
theorem rereads_expr (htext : e.textAt .draft .yield = e.text .draft)
    (h : TextReads (e.text .draft) e.unspelled) : Rereads [.expr e] :=
  .line (fun level => by rw [Stmt.lines, htext]) h.simpleText .nil

/-- An import of a module. -/
theorem rereads_import {n : ImportName} (h : n.isLegible = true) : Rereads [.imports [n]] :=
  .line (fun level => by rw [Stmt.lines]; simp) (simpleText_import h) .nil

/-- A parameter whose annotation and default are read as they are written. -/
structure Param.IsSpelled (p : Param) : Prop where
  hint : ∀ e ∈ p.hint, Syntax.IsWritten e
  default : ∀ e ∈ p.default, Syntax.IsWritten e

theorem IsWritten.readsAs (h : IsWritten e) : e.ReadsAs e.unspelled := ⟨h.reads.readExpr, h.sound⟩

theorem rel_unspelled {R : Expr → Expr → Prop} (h : ∀ e ∈ o, R e e.unspelled) :
    Option.Rel R o (o.map Expr.unspelled) := by
  cases o with
  | none => exact .none
  | some e => exact .some (h e rfl)

theorem forall₂_unspelled {R : Expr → Expr → Prop} (h : ∀ d ∈ ds, R d d.unspelled) :
    List.Forall₂ R ds (ds.map Expr.unspelled) :=
  List.forall₂_map_right_iff.mpr (List.forall₂_same.mpr h)

theorem Param.IsSpelled.readsAs {p : Param} (h : p.IsSpelled) : p.ReadsAs p.unspelled :=
  ⟨rfl, rfl, rel_unspelled fun e he => (h.hint e he).readsAs,
    rel_unspelled fun e he => (h.default e he).readsAs⟩

theorem IsOperand.reads_unspelled (h : IsOperand e) : OperandReads (e.text .draft) e.unspelled := by
  rw [h.unspelled, h.text]
  exact h.reads

/-- **A function.** -/
theorem rereads_define (hname : isPlainName name = true) (hps : ParamsWritten ps)
    (hspelled : ∀ p ∈ ps, p.IsSpelled) (ho : ∀ e ∈ o, IsWritten e) (hds : ∀ d ∈ ds, IsOperand d)
    (hbody : Rereads body) (hne : Stmt.allUnspelled body ≠ []) :
    Rereads [.define isAsync name ps o ds body] := by
  have hqs : List.Forall₂ Param.ReadsAs ps (ps.map Param.unspelled) :=
    List.forall₂_map_right_iff.mpr (List.forall₂_same.mpr fun p hp => (hspelled p hp).readsAs)
  exact .define hname hps hqs (rel_unspelled fun e he => (ho e he).reads)
    (forall₂_unspelled fun d hd => (hds d hd).reads_unspelled) hbody hne .nil

/-- **A class.** -/
theorem rereads_class {bases : List Expr} (hname : isPlainName name = true)
    (hbs : ∀ b ∈ bases, IsOperand b) (hds : ∀ d ∈ ds, IsOperand d) (hbody : Rereads body)
    (hne : Stmt.allUnspelled body ≠ []) : Rereads [.class name bases [] ds body] :=
  .class hname (forall₂_unspelled fun b hb => (hbs b hb).reads_unspelled.textReads)
    (forall₂_unspelled fun d hd => (hds d hd).reads_unspelled) hbody hne .nil

/-- **A module is read back from its text.** -/
theorem Rereads.readModule (h : Rereads ss) (hne : Stmt.allUnspelled ss ≠ []) :
    Syntax.readModule (render .draft ss) = .ok (Stmt.allUnspelled ss) := Written.readModule h hne

end Rereads

end Facade.Syntax
