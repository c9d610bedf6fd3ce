import Facade.Proofs.Spellings
import Facade.Syntax.Reader

/-!
# Quoted texts read back

The quoted form of a text, whatever characters the text holds, is read as one literal, and that
literal is the text.

* `Syntax.hexEscape?_hexPadded`: the digits of an escape denote the number they were written for.
* `Syntax.Escaped`: the ways in which a character stands between quotes.
* `Syntax.readText_quoted`: the body of a quoted text reads back, character by character.
* `Syntax.lex_quote`: a quoted text is one token.
* `Syntax.readExpr_quote`: as an expression it is the text.
-/

namespace Facade.Syntax

open Text

/-! ## Escapes -/

theorem baseDigit?_digitChar {d : Nat} (h : d < 16) : baseDigit? 16 (Nat.digitChar d) = some d := by
  revert d
  decide

theorem readBase_digits {ds : List Nat} (h : ∀ d ∈ ds, d < 16) (acc count : Nat) :
    readBase 16 acc count (ds.map Nat.digitChar) =
      (ds.foldl (fun a d => 16 * a + d) acc, count + ds.length, []) := by
  induction ds generalizing acc count with
  | nil => simp [readBase]
  | cons d ds ih =>
    have hd := baseDigit?_digitChar (h d List.mem_cons_self)
    have ih := ih (fun e he => h e (List.mem_cons_of_mem _ he)) (16 * acc + d) (count + 1)
    cases ds with
    | nil => simp [readBase, hd]
    | cons e ds =>
      simp only [List.map_cons] at ih ⊢
      rw [readBase, hd]
      simpa [Nat.add_assoc, Nat.add_comm] using ih

theorem digitChar_ne_underscore {d : Nat} (h : d < 16) : (Nat.digitChar d != '_') = true := by
  revert d
  decide

/-- The digits of an escape denote the number they were written for. -/
theorem hexEscape?_hexPadded {width v : Nat} (hw : 0 < width) (hv : v < 16 ^ width)
    (rest : List Char) :
    hexEscape? width (hexPadded width v ++ rest) = some (Char.ofNat v, rest) := by
  obtain ⟨ds, hds, hlt, hlen, hfold⟩ := hexPadded_eq_map hw hv
  have htake : (ds.map Nat.digitChar ++ rest).take width = ds.map Nat.digitChar :=
    List.take_left' (by simpa using hlen)
  have hdrop : (ds.map Nat.digitChar ++ rest).drop width = rest :=
    List.drop_left' (by simpa using hlen)
  have hkeep : (ds.map Nat.digitChar).filter (· != '_') = ds.map Nat.digitChar := by
    refine List.filter_eq_self.mpr fun c hc => ?_
    obtain ⟨d, hd, rfl⟩ := List.mem_map.mp hc
    exact digitChar_ne_underscore (hlt d hd)
  simp [hexEscape?, hds, htake, hdrop, hkeep, readBase_digits hlt, hlen, hfold]

/-! ## How a character stands between quotes -/

/-- A character that texts are quoted with. -/
def IsQuote (q : Char) : Prop := q = '\'' ∨ q = '"'

theorem isQuote_quoteMark (cs : List Char) : IsQuote (quoteMark cs) := by
  unfold quoteMark
  split
  · exact Or.inr rfl
  · exact Or.inl rfl

/-- The ways in which a character stands between quotes: as it is, as an escape of one letter, or
by its number. -/
inductive Escaped (q c : Char) : List Char → Prop
  | plain : c ≠ q → c ≠ '\\' → c ≠ '\n' → c ≠ '\r' → Escaped q c [c]
  | letter {e : Char} : letterEscape? e = some c → Escaped q c ['\\', e]
  | code {m : Char} {width : Nat} : (m, width) ∈ [('x', 2), ('u', 4), ('U', 8)] →
      c.toNat < 16 ^ width → Escaped q c ('\\' :: m :: hexPadded width c.toNat)

theorem escaped_escapeCode (q c : Char) : Escaped q c (escapeCode c) := by
  have hmax : c.toNat < 0x110000 := by
    rcases c.valid with h | h
    · exact Nat.lt_trans h (by decide)
    · exact h.2
  simp only [escapeCode]
  split_ifs with h₂ h₄
  · exact .code (by simp) h₂
  · exact .code (by simp) h₄
  · exact .code (by simp) (Nat.lt_trans hmax (by decide))

theorem escaped_escapeChar {q : Char} (hq : IsQuote q) (c : Char) :
    Escaped q c (escapeChar q c) := by
  unfold escapeChar
  split_ifs with hmark hn hr ht hp
  · rw [Bool.or_eq_true, beq_iff_eq, beq_iff_eq] at hmark
    rcases hmark with rfl | rfl
    · rcases hq with rfl | rfl <;> exact .letter rfl
    · exact .letter rfl
  · exact .letter (by simp_all [letterEscape?])
  · exact .letter (by simp_all [letterEscape?])
  · exact .letter (by simp_all [letterEscape?])
  · exact .plain (by simp_all) (by simp_all) (by simp_all) (by simp_all)
  · exact escaped_escapeCode q c

/-- What a character is written as between quotes does not open with the quote. -/
theorem Escaped.eq_cons {q c : Char} (hq : IsQuote q) {written : List Char}
    (h : Escaped q c written) : ∃ d r, written = d :: r ∧ d ≠ q := by
  have hslash : '\\' ≠ q := by rcases hq with rfl | rfl <;> decide
  cases h with
  | plain hne => exact ⟨c, _, rfl, hne⟩
  | letter | code => exact ⟨'\\', _, rfl, hslash⟩

theorem Escaped.return_notMem {q c : Char} {written : List Char} (h : Escaped q c written) :
    '\r' ∉ written := by
  cases h with
  | plain _ _ _ hr => simpa using Ne.symm hr
  | letter he =>
    rintro (_ | ⟨_, _ | ⟨_, h⟩⟩)
    · simp [letterEscape?] at he
    · cases h
  | @code m width hm hc =>
    obtain ⟨ds, hds, hlt, -⟩ :=
      hexPadded_eq_map (Nat.pos_of_ne_zero (by rintro rfl; simp at hm)) hc
    have hdigit : ∀ d < 16, Nat.digitChar d ≠ '\r' := by decide
    simp only [hds, List.mem_cons, List.mem_map, not_or, not_exists, not_and]
    refine ⟨by decide, ?_, fun d hd => hdigit d (hlt d hd)⟩
    rintro rfl
    simp at hm

/-! ## The body of a quoted text -/

/-- What has been read of a text, and one more character. -/
def TextRead.put (acc : TextRead) (c : Char) : TextRead :=
  { acc with reversed := c :: acc.reversed }

section Body

variable {q : Char} (hq : IsQuote q) (fuel : Nat) (acc : TextRead) (rest : List Char)

/-- A character is read back from every way it stands between quotes. -/
theorem readText_escaped {c : Char} {written : List Char} (h : Escaped q c written) :
    readText false false false q (fuel + 1) acc (written ++ rest) =
      readText false false false q fuel (acc.put c) rest := by
  cases h with
  | plain hq hslash hn _ => simp [readText, hq, hn, TextRead.put]
  | @letter e he =>
    have hn : e ≠ '\n' := by rintro rfl; simp [letterEscape?] at he
    simp [readText, hn, he, TextRead.put]
  | @code m width hm hc =>
    have hread := hexEscape?_hexPadded (Nat.pos_of_ne_zero (by rintro rfl; simp at hm)) hc rest
    simp only [List.mem_cons, Prod.mk.injEq, List.not_mem_nil, or_false] at hm
    rcases hm with ⟨rfl, rfl⟩ | ⟨rfl, rfl⟩ | ⟨rfl, rfl⟩ <;>
      simp [readText, letterEscape?, hread, TextRead.put]

include hq

/-- **The body of a quoted text reads back,** character by character, up to the closing quote. -/
theorem readText_quoted (cs : List Char) (hfuel : cs.length < fuel) :
    readText false false false q fuel acc (cs.flatMap (escapeChar q) ++ q :: rest) =
      some ({ acc with reversed := cs.reverse ++ acc.reversed }, rest) := by
  induction cs generalizing fuel acc with
  | nil =>
    obtain ⟨fuel, rfl⟩ := Nat.exists_eq_succ_of_ne_zero (Nat.ne_of_gt hfuel)
    rcases hq with rfl | rfl <;> simp [readText]
  | cons c cs ih =>
    obtain ⟨fuel, rfl⟩ := Nat.exists_eq_succ_of_ne_zero (Nat.ne_of_gt (Nat.zero_lt_of_lt hfuel))
    rw [List.flatMap_cons, List.append_assoc, readText_escaped fuel acc _
        (escaped_escapeChar hq c),
      ih fuel (acc.put c) (by simpa using hfuel)]
    simp [TextRead.put]

end Body

/-! ## A quoted text as a literal -/

theorem length_le_flatMap_escapeChar {q : Char} (hq : IsQuote q) (cs : List Char) :
    cs.length ≤ (cs.flatMap (escapeChar q)).length := by
  induction cs with
  | nil => simp
  | cons c cs ih =>
    obtain ⟨d, r, hd, -⟩ := (escaped_escapeChar hq c).eq_cons hq
    simp only [List.flatMap_cons, hd, List.length_append, List.length_cons]
    omega

/-- Where a quoted text ends, three quotes do not begin it. -/
theorem take_body_ne {q : Char} (hq : IsQuote q) (cs : List Char) {rest : List Char}
    (hrest : rest.head? ≠ some q) :
    ((cs.flatMap (escapeChar q) ++ q :: rest).take 2 == [q, q]) = false := by
  cases cs with
  | nil => cases rest with
    | nil => simp
    | cons d r => simpa using hrest
  | cons c cs =>
    obtain ⟨d, r, hd, hne⟩ := (escaped_escapeChar hq c).eq_cons hq
    simp [hd, hne]

/-- A quoted text is one literal: the text. -/
theorem readLiteral?_quoteChars (cs rest : List Char)
    (hrest : rest.head? ≠ some (quoteMark cs)) :
    readLiteral? [] (quoteChars cs ++ rest) =
      some (.text (String.ofList cs) false, { reversed := cs.reverse }, rest) := by
  have hq := isQuote_quoteMark cs
  have hlen : cs.length < (cs.flatMap (escapeChar (quoteMark cs)) ++ quoteMark cs :: rest).length
      + 1 := by
    have := length_le_flatMap_escapeChar hq cs
    rw [List.length_append]
    omega
  have hmarks : literalMarks.contains ([] : List Char) = true := by decide
  have hraw : keepsEscapes [] = false := rfl
  simp only [readLiteral?, hmarks, Bool.not_true, quoteChars, List.cons_append, List.append_assoc,
    List.nil_append, List.contains_nil, take_body_ne hq cs hrest, Bool.false_eq_true, if_false, hraw,
    readText_quoted hq _ {} rest cs hlen]
  simp [literalToken]

/-! ## A quoted text as a source -/

/-- A text without carriage returns keeps its line ends. -/
theorem normalizeFeeds_eq_self {cs : List Char} (h : '\r' ∉ cs) : normalizeFeeds cs = cs := by
  induction cs with
  | nil => rfl
  | cons c r ih =>
    rw [List.mem_cons, not_or] at h
    have ih := ih h.2
    unfold normalizeFeeds
    split <;> simp_all

/-- A quoted text holds no carriage return. -/
theorem return_notMem_quoteChars (cs : List Char) : '\r' ∉ quoteChars cs := by
  have hq := isQuote_quoteMark cs
  have hmark : '\r' ≠ quoteMark cs := by rcases hq with h | h <;> rw [h] <;> decide
  simp [quoteChars, hmark, fun c => (escaped_escapeChar hq c).return_notMem]

theorem isIdentifierStart_quote {q : Char} (hq : IsQuote q) : isIdentifierStart q = false := by
  rcases hq with rfl | rfl <;> exact isIdentifierStart_of_ascii (by decide)

/-- A line that opens with a quote is not indented. -/
theorem lexFrom_quote_start {q : Char} (hq : IsQuote q) (fuel : Nat) (r : List Char) :
    lexFrom (fuel + 1) true {} (q :: r) = lexFrom fuel false {} (q :: r) := by
  rcases hq with rfl | rfl <;> simp [lexFrom, measureIndent, LexState.indentTo]

theorem lexFrom_quote {q : Char} (hq : IsQuote q) (fuel : Nat) (st : LexState) (r : List Char) :
    lexFrom (fuel + 1) false st (q :: r) = lexFrom.literal fuel st [] (q :: r) := by
  have hstart := isIdentifierStart_quote hq
  rcases hq with rfl | rfl <;> simp [lexFrom, hstart]

/-- **A quoted text is one token.** -/
theorem lex_quote (s : String) :
    lex (quote s) = { lexemes := [⟨.text s false, 1⟩, ⟨.newline, 1⟩, ⟨.finish, 1⟩] } := by
  have hq := isQuote_quoteMark s.toList
  have hread := readLiteral?_quoteChars s.toList [] (by simp)
  obtain ⟨body, hcs⟩ : ∃ body, quoteChars s.toList = quoteMark s.toList :: body := ⟨_, rfl⟩
  simp only [lex, quote, String.toList_ofList,
    normalizeFeeds_eq_self (return_notMem_quoteChars s.toList)]
  rw [List.append_nil, hcs] at hread
  rw [hcs, List.length_cons, Nat.mul_add, lexFrom_quote_start hq, lexFrom_quote hq]
  simp [lexFrom.literal, hread, lexFrom, lexFrom.finish, LexState.push, LexState.stop]

/-- **A quoted text is read as the text.** -/
theorem readExpr_quote (s : String) : readExpr (quote s) = .ok (.const (.str s)) := by
  rw [readExpr, lex_quote]
  rfl

end Facade.Syntax
