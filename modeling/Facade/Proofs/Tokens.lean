import Facade.Proofs.Decimals
import Facade.Proofs.Quoting

/-!
# Texts as tokens

A text is built of pieces, and each piece is read as its tokens whatever stands behind it, as long as
that does not run into the piece.

* `Lexes`: a text is read as tokens; `Lexes.append` puts two together.
* `lexes_word`, `lexes_numeral`, `lexes_quote`, `lexes_bytes`, `lexes_sign`, `Lexes.parens`,
  `Lexes.brackets`: the pieces.
* `lex_of_lexes`: a whole source.
-/

namespace Facade.Syntax

open Text Number

/-! ## Pieces of a source -/

/-- Adds tokens of the line at hand. -/
def LexState.pushAll (st : LexState) (ts : List Token) : LexState :=
  { st with lexemes := (ts.map fun t => ⟨t, st.line⟩).reverse ++ st.lexemes }

theorem LexState.pushAll_append (st : LexState) (ts us : List Token) :
    st.pushAll (ts ++ us) = (st.pushAll ts).pushAll us := by
  simp [pushAll]

/-- A text is read as tokens wherever what stands behind it is as asked for. -/
structure Lexes (ok : List Char → Prop) (cs : List Char) (ts : List Token) : Prop where
  /-- No line end of an older kind is in it. -/
  plain : '\r' ∉ cs
  /-- It takes at most one step for each character. -/
  reads : ∃ k ≤ cs.length, ∀ fuel st rest, ok rest →
    lexFrom (fuel + k) false st (cs ++ rest) = lexFrom fuel false (st.pushAll ts) rest

section Combining

variable {ok ok' : List Char → Prop} {cs ds : List Char} {ts us : List Token}

theorem lexes_nil (ok : List Char → Prop) : Lexes ok [] [] :=
  ⟨by simp, 0, le_rfl, fun _ _ _ _ => rfl⟩

theorem Lexes.mono (h : Lexes ok cs ts) (hok : ∀ rest, ok' rest → ok rest) : Lexes ok' cs ts := by
  obtain ⟨k, hk, hread⟩ := h.reads
  exact ⟨h.plain, k, hk, fun fuel st rest hrest => hread fuel st rest (hok rest hrest)⟩

theorem Lexes.append (h : Lexes ok cs ts) (h' : Lexes ok' ds us)
    (hok : ∀ rest, ok' rest → ok (ds ++ rest)) : Lexes ok' (cs ++ ds) (ts ++ us) := by
  obtain ⟨k, hk, hread⟩ := h.reads
  obtain ⟨k', hk', hread'⟩ := h'.reads
  refine ⟨by simp [h.plain, h'.plain], k' + k, by simp; omega, fun fuel st rest hrest => ?_⟩
  rw [← Nat.add_assoc, List.append_assoc, hread _ _ _ (hok rest hrest), hread' _ _ _ hrest,
    LexState.pushAll_append]

end Combining

/-! ## What may stand behind a piece -/

/-- The next character is none of a class. -/
def Avoids (p : Char → Bool) (rest : List Char) : Prop := ∀ c ∈ rest.head?, p c = false

theorem avoids_nil (p : Char → Bool) : Avoids p [] := by simp [Avoids]

theorem avoids_cons {p : Char → Bool} {c : Char} (h : p c = false) (r : List Char) :
    Avoids p (c :: r) := by simpa [Avoids] using h

/-- The characters that continue a word, or make it the mark of a text. -/
def joinsWord (c : Char) : Bool := isIdentifierContinue c || c == '\'' || c == '"'

/-- The characters that continue an operand: a word, a number or a text. -/
def joinsOperand (c : Char) : Bool := joinsWord c || c == '.'

theorem joinsWord_of_ascii {c : Char} (hc : c.toNat < 128) :
    joinsWord c = (c.isAlphanum || c == '_' || c == '\'' || c == '"') := by
  rw [joinsWord, isIdentifierContinue_of_ascii hc]

theorem joinsOperand_of_ascii {c : Char} (hc : c.toNat < 128) :
    joinsOperand c = (c.isAlphanum || c == '_' || c == '\'' || c == '"' || c == '.') := by
  rw [joinsOperand, joinsWord_of_ascii hc]

/-- The characters that are signs of their own wherever they stand. -/
def standsAlone (c : Char) : Bool := ['(', ')', '[', ']', ','].contains c

/-- A sign of its own ends every operand. -/
theorem avoids_of_standsAlone {c : Char} (h : standsAlone c = true) (rest : List Char) :
    Avoids joinsOperand (c :: rest) := by
  have hall : ∀ d ∈ ['(', ')', '[', ']', ','], joinsOperand d = false := by simp [joinsOperand_of_ascii]
  exact avoids_cons (hall c (by simpa [standsAlone] using h)) rest

/-- The characters that can be the second one of a sign. -/
def joinsSign (c : Char) : Bool := ['*', '/', '>', '<', '=', '.'].contains c

/-! ## Words -/

section Splitting

variable {p : Char → Bool} {r rest : List Char} (hr : ∀ c ∈ r, p c = true) (hrest : Avoids p rest)
include hr hrest

theorem takeWhile_append : (r ++ rest).takeWhile p = r := by
  rw [List.takeWhile_append_of_pos hr]
  cases rest with
  | nil => simp
  | cons d rest => simp [hrest d rfl]

theorem dropWhile_append : (r ++ rest).dropWhile p = rest := by
  rw [List.dropWhile_append_of_pos hr]
  cases rest with
  | nil => simp
  | cons d rest => simp [hrest d rfl]

end Splitting

/-- The characters that no piece opens with. -/
def isLayout (c : Char) : Bool := [' ', '\t', '\x0c', '\n', '\r', '#', '\\'].contains c

theorem isLayout_of_isIdentifierContinue {c : Char} (h : isIdentifierContinue c = true) :
    isLayout c = false := by
  have hlayout : ∀ d ∈ [' ', '\t', '\x0c', '\n', '\r', '#', '\\'],
      isIdentifierContinue d = false := by simp [isIdentifierContinue_of_ascii]
  rw [← Bool.not_eq_true]
  intro hc
  rw [hlayout c (by simpa [isLayout] using hc)] at h
  cases h

theorem isLayout_of_isIdentifierStart {c : Char} (h : isIdentifierStart c = true) :
    isLayout c = false := by
  have hlayout : ∀ d ∈ [' ', '\t', '\x0c', '\n', '\r', '#', '\\'],
      isIdentifierStart d = false := by simp [isIdentifierStart_of_ascii]
  rw [← Bool.not_eq_true]
  intro hc
  rw [hlayout c (by simpa [isLayout] using hc)] at h
  cases h

theorem return_ne_of_isLayout {c : Char} (h : isLayout c = false) : '\r' ≠ c := by
  rintro rfl
  cases h

/-- **A word is one token.** -/
theorem lexes_word {s : String} (h : isIdentifier s = true) :
    Lexes (Avoids joinsWord) s.toList [.word s] := by
  obtain ⟨c, r, hs⟩ : ∃ c r, s.toList = c :: r := by
    cases hs : s.toList with
    | nil => simp [isIdentifier, hs, isIdentifierChars] at h
    | cons c r => exact ⟨c, r, rfl⟩
  rw [isIdentifier, hs, isIdentifierChars, Bool.and_eq_true, List.all_eq_true] at h
  obtain ⟨hstart, hcontinue⟩ := h
  have hlayout := isLayout_of_isIdentifierStart hstart
  rw [hs]
  refine ⟨?_, 1, by simp, fun fuel st rest hrest => ?_⟩
  · rw [List.mem_cons, not_or]
    exact ⟨return_ne_of_isLayout hlayout, fun hr =>
      return_ne_of_isLayout (isLayout_of_isIdentifierContinue (hcontinue _ hr)) rfl⟩
  · have hcont : ∀ d ∈ rest.head?, isIdentifierContinue d = false := fun d hd => by
      have := hrest d hd
      simp only [joinsWord, Bool.or_eq_false_iff] at this
      exact this.1.1
    have htake : (r ++ rest).takeWhile isIdentifierContinue = r := takeWhile_append hcontinue hcont
    have hdrop : (r ++ rest).dropWhile isIdentifierContinue = rest :=
      dropWhile_append hcontinue hcont
    have hword : String.ofList (c :: r) = s := by rw [← hs, String.ofList_toList]
    simp only [isLayout, List.contains_eq_mem, List.mem_cons, List.not_mem_nil, or_false,
      decide_eq_false_iff_not, not_or] at hlayout
    obtain ⟨hspace, htab, hfeed, hnl, -, hhash, hslash⟩ := hlayout
    rw [List.cons_append]
    simp only [hslash, IsEmpty.forall_iff, implies_true, imp_false, lexFrom, hstart, hspace, htab,
      hfeed, htake, hdrop, hword, beq_iff_eq, Bool.or_eq_true, or_self, if_true, if_false]
    cases rest with
    | nil => rfl
    | cons d rest =>
      have hd := hrest d rfl
      simp only [joinsWord, Bool.or_eq_false_iff] at hd
      simp [hd, LexState.push, LexState.pushAll]

/-! ## Texts -/

/-- **A quoted text is one token, wherever it stands.** -/
theorem lexes_quote (s : String) : Lexes (Avoids joinsWord) (quote s).toList [.text s false] := by
  have hq := isQuote_quoteMark s.toList
  rw [quote, String.toList_ofList]
  refine ⟨return_notMem_quoteChars s.toList, 1, ?_, fun fuel st rest hrest => ?_⟩
  · simp [quoteChars]
  · have hmark : rest.head? ≠ some (quoteMark s.toList) := by
      intro hmark
      have := hrest _ hmark
      rcases hq with h | h <;> simp [joinsWord, h] at this
    have hread := readLiteral?_quoteChars s.toList rest hmark
    obtain ⟨body, hcs⟩ : ∃ body, quoteChars s.toList = quoteMark s.toList :: body := ⟨_, rfl⟩
    rw [hcs, List.cons_append] at hread ⊢
    rw [lexFrom_quote hq, lexFrom.literal, hread]
    simp [LexState.push, LexState.pushAll]

theorem toNat_ofNat_byte (b : UInt8) : (Char.ofNat b.toNat).toNat = b.toNat := by
  have hb := b.toNat_lt
  rw [Char.ofNat, dif_pos (.inl (by omega))]
  rfl

section Bytes

variable {q : Char} (hq : IsQuote q) (fuel : Nat) (acc : TextRead) (rest : List Char)
include hq

/-- A byte is read back from the way it stands between quotes. -/
theorem readText_escapeByte (b : UInt8) :
    readText false true false q (fuel + 1) acc (escapeByte q b ++ rest) =
      readText false true false q fuel (acc.put (Char.ofNat b.toNat)) rest := by
  have hb := b.toNat_lt
  have hnat := toNat_ofNat_byte b
  have hcode : hexEscape? 2 (hexPadded 2 b.toNat ++ rest) = some (Char.ofNat b.toNat, rest) :=
    hexEscape?_hexPadded (by decide) hb rest
  simp only [escapeByte]
  generalize Char.ofNat b.toNat = c at hnat hcode
  split_ifs with hmark hn hr ht hp
  · have he : letterEscape? c = some c := by
      rw [Bool.or_eq_true, beq_iff_eq, beq_iff_eq] at hmark
      rcases hmark with rfl | rfl
      · rcases hq with rfl | rfl <;> rfl
      · rfl
    have hne : c ≠ '\n' := by rintro rfl; simp [letterEscape?] at he
    simp [readText, hne, he, TextRead.put]
  · simp_all [readText, letterEscape?, TextRead.put]
  · simp_all [readText, letterEscape?, TextRead.put]
  · simp_all [readText, letterEscape?, TextRead.put]
  · have hlt : ¬ 128 ≤ c.toNat := by
      simp only [Bool.and_eq_true, decide_eq_true_eq] at hp
      omega
    simp_all [readText, TextRead.put]
  · simp [readText, letterEscape?, hcode, TextRead.put]

/-- What a byte is written as between quotes does not open with the quote and holds no carriage
return. -/
theorem escapeByte_eq_cons (b : UInt8) :
    (∃ d r, escapeByte q b = d :: r ∧ d ≠ q) ∧ '\r' ∉ escapeByte q b := by
  have hslash : '\\' ≠ q := by rcases hq with rfl | rfl <;> decide
  have hreturn : '\r' ≠ q := by rcases hq with rfl | rfl <;> decide
  simp only [escapeByte]
  split_ifs with hmark hn hr ht hp
  · refine ⟨⟨_, _, rfl, hslash⟩, ?_⟩
    rw [Bool.or_eq_true, beq_iff_eq, beq_iff_eq] at hmark
    rcases hmark with h | h <;> simp [h, hreturn]
  · exact ⟨⟨_, _, rfl, hslash⟩, by decide⟩
  · exact ⟨⟨_, _, rfl, hslash⟩, by decide⟩
  · exact ⟨⟨_, _, rfl, hslash⟩, by decide⟩
  · exact ⟨⟨_, _, rfl, by simp_all⟩, by simpa using Ne.symm (by simpa using hr)⟩
  · refine ⟨⟨_, _, rfl, hslash⟩, ?_⟩
    have hx : ∀ n < 256, '\r' ∉ hexPadded 2 n := by decide +kernel
    simp [hx _ b.toNat_lt]

theorem readText_bytes (bs : List UInt8) (hfuel : bs.length < fuel) :
    readText false true false q fuel acc (bs.flatMap (escapeByte q) ++ q :: rest) =
      some ({ acc with reversed := (bs.map fun b => Char.ofNat b.toNat).reverse ++ acc.reversed },
        rest) := by
  induction bs generalizing fuel acc with
  | nil =>
    obtain ⟨fuel, rfl⟩ := Nat.exists_eq_succ_of_ne_zero (Nat.ne_of_gt hfuel)
    rcases hq with rfl | rfl <;> simp [readText]
  | cons b bs ih =>
    obtain ⟨fuel, rfl⟩ := Nat.exists_eq_succ_of_ne_zero (Nat.ne_of_gt (Nat.zero_lt_of_lt hfuel))
    rw [List.flatMap_cons, List.append_assoc, readText_escapeByte hq,
      ih fuel (acc.put _) (by simpa using hfuel)]
    simp [TextRead.put]

end Bytes

theorem readLiteral?_bytes (bs : List UInt8) {q : Char} (hq : IsQuote q) {rest : List Char}
    (hrest : rest.head? ≠ some q) :
    readLiteral? ['b'] (q :: (bs.flatMap (escapeByte q) ++ q :: rest)) =
      some (.bytes bs, { reversed := (bs.map fun b => Char.ofNat b.toNat).reverse }, rest) := by
  have hlen : bs.length ≤ (bs.flatMap (escapeByte q)).length := by
    induction bs with
    | nil => simp
    | cons b bs ih =>
      obtain ⟨⟨d, r, hd, -⟩, -⟩ := escapeByte_eq_cons hq b
      simp only [List.flatMap_cons, hd, List.length_append, List.length_cons]
      omega
  have htake : ((bs.flatMap (escapeByte q) ++ q :: rest).take 2 == [q, q]) = false := by
    cases bs with
    | nil => cases rest with
      | nil => simp
      | cons d r => simpa using hrest
    | cons b bs =>
      obtain ⟨⟨d, r, hd, hne⟩, -⟩ := escapeByte_eq_cons hq b
      simp [hd, hne]
  have hmarks : literalMarks.contains ['b'] = true := by decide
  have hread := readText_bytes hq ((bs.flatMap (escapeByte q) ++ q :: rest).length + 1) {} rest bs
    (by rw [List.length_append]; omega)
  have hbytes : (bs.map fun b => Char.ofNat b.toNat).map (fun c => UInt8.ofNat c.toNat) = bs := by
    rw [List.map_map]
    conv_rhs => rw [← List.map_id bs]
    refine List.map_congr_left fun b _ => ?_
    simp [toNat_ofNat_byte]
  have hr : keepsEscapes ['b'] = false := by decide
  have hb : ['b'].contains 'b' = true := by decide
  simp only [readLiteral?, hmarks, hr, hb, Bool.not_true, Bool.false_eq_true, htake, hread, if_false]
  simp [literalToken, hbytes]

/-- **A byte string is one token.** -/
theorem lexes_bytes (bs : List UInt8) :
    Lexes (Avoids joinsWord) (quoteBytes bs).toList [.bytes bs] := by
  rw [quoteBytes, String.toList_ofList]
  have hq := isQuote_quoteMark (bs.map fun b => Char.ofNat b.toNat)
  generalize quoteMark (bs.map fun b => Char.ofNat b.toNat) = q at hq
  refine ⟨?_, 1, by simp, fun fuel st rest hrest => ?_⟩
  · have hreturn : '\r' ≠ q := by rcases hq with rfl | rfl <;> decide
    simp [hreturn, fun b => (escapeByte_eq_cons hq b).2]
  · have hmark : rest.head? ≠ some q := by
      intro hmark
      have := hrest _ hmark
      rcases hq with rfl | rfl <;> simp [joinsWord] at this
    have hread := readLiteral?_bytes bs hq hmark
    have hstart : isIdentifierStart 'b' = true := by decide
    have hstop : isIdentifierContinue q = false := by
      rcases hq with rfl | rfl <;> exact isIdentifierContinue_of_ascii (by decide)
    have hb : ('b').toLower = 'b' := by decide
    rcases hq with rfl | rfl <;>
      simp [lexFrom, hstart, hstop, hb, lexFrom.literal, hread, LexState.push, LexState.pushAll]

/-! ## Numbers -/

section Numbers

variable (n : Numeral) {rest : List Char}

theorem tail_eq_nil : n.tail = [] ↔ n.isWhole = true := by
  unfold Numeral.tail Numeral.isWhole Numeral.exponentChars
  cases n.frac <;> cases n.exponent <;> simp

/-- The letters of a base other than ten. -/
def marksBase (c : Char) : Bool := ['x', 'X', 'o', 'O', 'b', 'B'].contains c

theorem marksBase_isDigit {c : Char} (h : c.isDigit = true) : marksBase c = false := by
  rw [← Bool.not_eq_true]
  intro hc
  have hmarks : ∀ d ∈ ['x', 'X', 'o', 'O', 'b', 'B'], d.isDigit = false :=
    Text.forall_of_all (by decide)
  rw [hmarks c (by simpa [marksBase] using hc)] at h
  cases h

theorem avoids_tail (hrest : Avoids marksBase rest) : Avoids marksBase (n.tail ++ rest) := by
  unfold Numeral.tail Numeral.exponentChars
  split
  · split
    · exact hrest
    · exact avoids_cons (by decide) _
  · exact avoids_cons (by decide) _

/-- A decimal does not open like a number of another base. -/
theorem marksBase_second (hrest : Avoids marksBase rest) {c d : Char} {r : List Char}
    (h : n.chars ++ rest = c :: d :: r) : marksBase d = false := by
  rw [Numeral.chars, List.append_assoc] at h
  obtain ⟨e, es, he⟩ := List.exists_cons_of_ne_nil n.whole_ne_nil
  rw [he, List.cons_append, List.cons.injEq] at h
  cases es with
  | nil =>
    have := avoids_tail n hrest
    rw [show n.tail ++ rest = d :: r from h.2] at this
    exact this d rfl
  | cons f fs =>
    obtain ⟨rfl, -⟩ := List.cons.inj h.2
    exact marksBase_isDigit (n.whole_isDigits _ (by simp [he]))

theorem readNumber?_eq_decimal (hrest : Avoids marksBase rest) {c : Constant} {after : List Char}
    (h : readNumber?.decimal (n.chars ++ rest) = some (c, after))
    (hafter : Avoids isIdentifierContinue after) :
    readNumber? (n.chars ++ rest) = some (c, after) := by
  have hsecond := fun d r => marksBase_second n hrest (c := '0') (d := d) (r := r)
  unfold readNumber?
  generalize n.chars ++ rest = cs at h hsecond
  split
  · rename_i d r
    have hd := hsecond d r rfl
    simp only [marksBase, List.contains_eq_mem, List.mem_cons, List.not_mem_nil, or_false,
      decide_eq_false_iff_not, not_or] at hd
    cases after with
    | nil => simp [hd, h]
    | cons e es => simp [hd, h, hafter e rfl]
  · cases after with
    | nil => simp [h]
    | cons e es => simp [h, hafter e rfl]

theorem decimal_whole (hrest : StopsNumber rest) (hj : ∀ c ∈ rest.head?, c ≠ 'j' ∧ c ≠ 'J')
    (hwhole : n.isWhole = true) (hhead : n.whole = ['0'] ∨ n.whole.head? ≠ some '0') :
    readNumber?.decimal (n.chars ++ rest) = some (.int n.digits, rest) := by
  have htail := (tail_eq_nil n).mpr hwhole
  have hzero : (n.whole.length > 1 && n.whole.head? == some '0' && n.digits != 0) = false := by
    rcases hhead with h | h
    · simp [h]
    · simp [h]
  rw [readNumber?.decimal, n.readDigits_chars hrest, n.readDecimal?_chars hrest, htail]
  simp only [Option.bind_some, List.nil_append, if_true, hzero, Bool.false_eq_true, if_false]
  split
  · exact absurd rfl (hj _ rfl).1
  · exact absurd rfl (hj _ rfl).2
  · rfl

theorem decimal_real (hrest : StopsNumber rest) (hj : ∀ c ∈ rest.head?, c ≠ 'j' ∧ c ≠ 'J')
    (hwhole : n.isWhole = false) :
    readNumber?.decimal (n.chars ++ rest) =
      some (.float (.ofDecimal false n.digits n.power), rest) := by
  have htail : n.tail ≠ [] := fun h => by simp [(tail_eq_nil n).mp h] at hwhole
  have hlen : ¬ rest.length = (n.tail ++ rest).length := by
    rw [List.length_append]
    have := List.length_pos_of_ne_nil htail
    omega
  rw [readNumber?.decimal, n.readDigits_chars hrest, n.readDecimal?_chars hrest]
  simp only [Option.bind_some, hlen, if_false]
  split
  · exact absurd rfl (hj _ rfl).1
  · exact absurd rfl (hj _ rfl).2
  · rfl

theorem decimal_imaginary (rest : List Char) :
    readNumber?.decimal (n.chars ++ 'j' :: rest) =
      some (.imaginary (.ofDecimal false n.digits n.power), rest) := by
  have hj : StopsNumber ('j' :: rest) := by
    rintro c hc
    obtain rfl : 'j' = c := by simpa using hc
    decide
  rw [readNumber?.decimal, n.readDigits_chars hj, n.readDecimal?_chars hj]
  rfl

theorem return_notMem_chars : '\r' ∉ n.chars := by
  have hdigits {ds : List Char} (h : IsDigits ds) : '\r' ∉ ds := fun hr => by
    have := h _ hr
    cases this
  have hexp : '\r' ∉ n.exponentChars := by
    unfold Numeral.exponentChars
    split
    · simp
    · rename_i negative es he
      cases negative <;> simp [hdigits (n.exponent_isDigits _ he)]
  have htail : '\r' ∉ n.tail := by
    unfold Numeral.tail
    split
    · exact hexp
    · rename_i f hf
      simp [hdigits (n.frac_isDigits f hf), hexp]
  simp [Numeral.chars, hdigits n.whole_isDigits, htail]

theorem not_isIdentifierStart_of_isDigit {c : Char} (h : c.isDigit = true) :
    isIdentifierStart c = false ∧ isLayout c = false ∧ c ≠ '\'' ∧ c ≠ '"' := by
  simp only [Char.isDigit, Bool.and_eq_true, decide_eq_true_eq, UInt32.le_iff_toNat_le] at h
  have hc : c.toNat < 58 := Nat.lt_succ_of_le h.2
  have hdigits : ∀ n < 58, 48 ≤ n → ((Char.ofNat n).isAlpha || Char.ofNat n == '_') = false ∧
      isLayout (Char.ofNat n) = false ∧ Char.ofNat n ≠ '\'' ∧ Char.ofNat n ≠ '"' := by
    decide +kernel
  rw [isIdentifierStart_of_ascii (by omega), ← Char.ofNat_toNat c]
  exact hdigits _ hc h.1

theorem lexes_of_readNumber? {ok : List Char → Prop} {cs : List Char} {c : Constant}
    (hplain : '\r' ∉ cs) (hdigit : ∀ d ∈ cs.head?, d.isDigit = true) (hne : cs ≠ [])
    (hread : ∀ rest, ok rest → readNumber? (cs ++ rest) = some (c, rest)) :
    Lexes ok cs [.number c] := by
  obtain ⟨d, r, rfl⟩ := List.exists_cons_of_ne_nil hne
  have hd := hdigit d rfl
  obtain ⟨hstart, hlayout, hsingle, hdouble⟩ := not_isIdentifierStart_of_isDigit hd
  refine ⟨hplain, 1, by simp, fun fuel st rest hrest => ?_⟩
  have hread := hread rest hrest
  simp only [isLayout, List.contains_eq_mem, List.mem_cons, List.not_mem_nil, or_false,
    decide_eq_false_iff_not, not_or] at hlayout
  obtain ⟨hspace, htab, hfeed, hnl, -, hhash, hslash⟩ := hlayout
  rw [List.cons_append] at hread ⊢
  simp [lexFrom, hstart, hspace, htab, hfeed, hslash, hsingle, hdouble, hd, hread, LexState.push,
    LexState.pushAll]

/-- What may stand behind an operand does not continue a number. -/
theorem stopsNumber_of_avoids (h : Avoids joinsOperand rest) :
    StopsNumber rest ∧ Avoids marksBase rest ∧ ∀ c ∈ rest.head?, c ≠ 'j' ∧ c ≠ 'J' := by
  have hcontinue : ∀ c ∈ rest.head?, isIdentifierContinue c = false ∧ c ≠ '.' := fun c hc => by
    have := h c hc
    simp only [joinsOperand, joinsWord, Bool.or_eq_false_iff, beq_eq_false_iff_ne] at this
    exact ⟨this.1.1.1, this.2⟩
  have hne {d : Char} (hd : isIdentifierContinue d = true) : ∀ c ∈ rest.head?, c ≠ d := by
    rintro c hc rfl
    rw [(hcontinue c hc).1] at hd
    cases hd
  have hmarks : ∀ d ∈ ['x', 'X', 'o', 'O', 'b', 'B', 'e', 'E', 'j', 'J', '_'],
      isIdentifierContinue d = true := Text.forall_of_all (by decide)
  refine ⟨fun c hc => ⟨?_, ?_, (hcontinue c hc).2, ?_, ?_⟩, fun c hc => ?_, fun c hc => ⟨?_, ?_⟩⟩
  · rw [← Bool.not_eq_true]
    intro hd
    have := (hcontinue c hc).1
    simp [isIdentifierContinue, Char.isAlphanum, hd] at this
  all_goals try exact hne (hmarks _ (by decide)) c hc
  · rw [← Bool.not_eq_true]
    intro hm
    exact hne (hmarks c (by
      simp only [marksBase, List.contains_eq_mem, decide_eq_true_eq] at hm
      simp only [List.mem_cons, List.not_mem_nil, or_false] at hm ⊢
      rcases hm with h | h | h | h | h | h <;> simp [h])) c hc rfl

/-- **A decimal is one token:** an integer if it has neither a point nor an exponent. -/
theorem lexes_numeral (hhead : n.isWhole = true → n.whole = ['0'] ∨ n.whole.head? ≠ some '0') :
    Lexes (Avoids joinsOperand) n.chars [.number (if n.isWhole then .int n.digits
      else .float (.ofDecimal false n.digits n.power))] := by
  obtain ⟨d, ds, hd⟩ := List.exists_cons_of_ne_nil n.whole_ne_nil
  refine lexes_of_readNumber? (return_notMem_chars n) ?_ (by simp [Numeral.chars, hd])
    fun rest hrest => ?_
  · simpa [Numeral.chars, hd] using n.whole_isDigits d (by simp [hd])
  · obtain ⟨hstops, hmarks, hj⟩ := stopsNumber_of_avoids hrest
    have hafter : Avoids isIdentifierContinue rest := fun c hc => by
      have := hrest c hc
      simp only [joinsOperand, joinsWord, Bool.or_eq_false_iff] at this
      exact this.1.1.1
    refine readNumber?_eq_decimal n hmarks ?_ hafter
    cases hwhole : n.isWhole with
    | true => exact decimal_whole n hstops hj hwhole (hhead hwhole)
    | false => exact decimal_real n hstops hj hwhole

/-- **A decimal with the mark of an imaginary number is one token.** -/
theorem lexes_imaginary : Lexes (Avoids joinsOperand) (n.chars ++ ['j'])
    [.number (.imaginary (.ofDecimal false n.digits n.power))] := by
  obtain ⟨d, ds, hd⟩ := List.exists_cons_of_ne_nil n.whole_ne_nil
  refine lexes_of_readNumber? (by simp [return_notMem_chars n]) ?_ (by simp) fun rest hrest => ?_
  · simpa [Numeral.chars, hd] using n.whole_isDigits d (by simp [hd])
  · have hafter : Avoids isIdentifierContinue rest := fun c hc => by
      have := hrest c hc
      simp only [joinsOperand, joinsWord, Bool.or_eq_false_iff] at this
      exact this.1.1.1
    rw [List.append_assoc]
    exact readNumber?_eq_decimal n (avoids_cons (by decide) _) (decimal_imaginary n rest) hafter

end Numbers

/-! ## Signs -/

section Signs

variable {c : Char} {rest : List Char}

theorem contains_ofList {l : List String} {cs : List Char} (h : ∀ s ∈ l, s.toList ≠ cs) :
    l.contains (String.ofList cs) = false := by
  rw [List.contains_eq_mem, decide_eq_false_iff_not]
  intro hmem
  exact h _ hmem String.toList_ofList

/-- The second character of a sign of more than one. -/
theorem second_of_signs {s : String} (hs : s ∈ signs3 ++ signs2) :
    ∃ d e r, s.toList = d :: e :: r ∧ standsAlone d = false ∧ joinsSign e = true := by
  have hall : ∀ s ∈ signs3 ++ signs2, (s.toList.head?.any fun d => !standsAlone d) = true ∧
      s.toList.tail.head?.any joinsSign = true := by decide
  obtain ⟨hd, he⟩ := hall s hs
  rcases hcs : s.toList with _ | ⟨d, _ | ⟨e, r⟩⟩
  · simp [hcs] at hd
  · simp [hcs] at he
  · exact ⟨d, e, r, rfl, by simpa [hcs] using hd, by simpa [hcs] using he⟩

theorem readSign?_of_short (hc : c ∈ signs1)
    (hshort : ∀ s ∈ signs3 ++ signs2, ∀ k, s.toList ≠ (c :: rest).take k) :
    readSign? (c :: rest) = some (String.ofList [c], rest) := by
  have hlong {k : Nat} {l : List String} (hl : l ⊆ signs3 ++ signs2) :
      l.contains (String.ofList ((c :: rest).take k)) = false :=
    contains_ofList fun s hs => hshort s (hl hs) k
  rw [readSign?]
  simp only [hlong (List.subset_append_left _ _), hlong (List.subset_append_right _ _),
    Bool.false_eq_true, if_false]
  simp [hc]

/-- A sign of one character is read where no sign of more characters can be. -/
theorem readSign?_single (hc : c ∈ signs1) (hrest : Avoids joinsSign rest) :
    readSign? (c :: rest) = some (String.ofList [c], rest) := by
  refine readSign?_of_short hc fun s hs k htake => ?_
  obtain ⟨d, e, r, hcs, -, he⟩ := second_of_signs hs
  rw [hcs] at htake
  match k, rest, htake, hrest with
  | 0, _, h, _ => simp at h
  | 1, _, h, _ => simp at h
  | k + 2, [], h, _ => simp at h
  | k + 2, f :: r, h, hrest =>
    simp only [List.take_succ_cons, List.cons.injEq] at h
    have := hrest f rfl
    rw [← h.2.1, he] at this
    cases this

theorem readSign?_alone (hc : standsAlone c = true) (rest : List Char) :
    readSign? (c :: rest) = some (String.ofList [c], rest) := by
  have hmem : ∀ d ∈ ['(', ')', '[', ']', ','], d ∈ signs1 := Text.forall_of_all (by decide)
  refine readSign?_of_short (hmem c (by simpa [standsAlone] using hc)) fun s hs k htake => ?_
  obtain ⟨d, e, r, hcs, hd, -⟩ := second_of_signs hs
  rw [hcs] at htake
  match k, htake with
  | 0, h => simp at h
  | k + 1, h =>
    rw [List.take_succ_cons, List.cons.injEq] at h
    rw [h.1, hc] at hd
    cases hd

/-- The signs of one character that neither open nor close, nor begin a number. -/
def separates (c : Char) : Bool := [',', ':', '=', '*', '/', '-', '+'].contains c

theorem lexFrom_separator (hc : separates c = true) {s : String} {cs : List Char}
    (hread : readSign? (c :: cs) = some (s, rest)) (fuel : Nat) (st : LexState) :
    lexFrom (fuel + 1) false st (c :: cs) = lexFrom fuel false (st.push (.sign s)) rest := by
  have hall : ∀ d ∈ [',', ':', '=', '*', '/', '-', '+'], isIdentifierStart d = false := by
    simp [isIdentifierStart_of_ascii]
  have hmem : c ∈ [',', ':', '=', '*', '/', '-', '+'] := by simpa [separates] using hc
  have hstart := hall c hmem
  simp only [List.mem_cons, List.not_mem_nil, or_false] at hmem
  rcases hmem with rfl | rfl | rfl | rfl | rfl | rfl | rfl <;> simp [lexFrom, hstart, hread]

/-- **A sign of one character is one token.** -/
theorem lexes_sign (hc : separates c = true) :
    Lexes (Avoids joinsSign) [c] [.sign (String.ofList [c])] := by
  have hmem : ∀ d ∈ [',', ':', '=', '*', '/', '-', '+'], d ∈ signs1 ∧ '\r' ≠ d :=
    Text.forall_of_all (by decide)
  obtain ⟨hsign, hreturn⟩ := hmem c (by simpa [separates] using hc)
  refine ⟨by simpa using hreturn, 1, le_rfl, fun fuel st rest hrest => ?_⟩
  exact lexFrom_separator hc (readSign?_single hsign hrest) fuel st

/-- A space is no token. -/
theorem lexes_space : Lexes (fun _ => True) [' '] [] :=
  ⟨by decide, 1, le_rfl, fun fuel st rest _ => by simp [lexFrom, LexState.pushAll]⟩

/-- The characters that an attribute's point is not followed by. -/
def joinsPoint (c : Char) : Bool := joinsSign c || c.isDigit

theorem lexes_point : Lexes (Avoids joinsPoint) ['.'] [.sign "."] := by
  have hstart : isIdentifierStart '.' = false := isIdentifierStart_of_ascii (by decide)
  refine ⟨by decide, 1, le_rfl, fun fuel st rest hrest => ?_⟩
  have hread : readSign? ('.' :: rest) = some (".", rest) :=
    readSign?_single (by decide) fun c hc => by
      have := hrest c hc
      simp only [joinsPoint, Bool.or_eq_false_iff] at this
      exact this.1
  have hdigit : rest.head?.any Char.isDigit = false := by
    cases rest with
    | nil => rfl
    | cons d r =>
      have := hrest d rfl
      simp only [joinsPoint, Bool.or_eq_false_iff] at this
      simpa using this.2
  simp [lexFrom, hstart, hread, hdigit, LexState.push, LexState.pushAll]

theorem lexes_ellipsis : Lexes (fun _ => True) ['.', '.', '.'] [.sign "..."] := by
  have hstart : isIdentifierStart '.' = false := isIdentifierStart_of_ascii (by decide)
  refine ⟨by decide, 1, by decide, fun fuel st rest _ => ?_⟩
  have hread : readSign? ('.' :: '.' :: '.' :: rest) = some ("...", rest) := by
    rw [readSign?]
    simp [signs3]
  simp [lexFrom, hstart, hread, LexState.push, LexState.pushAll]

theorem lexes_doubleStar : Lexes (Avoids joinsSign) ['*', '*'] [.sign "**"] := by
  refine ⟨by decide, 1, by decide, fun fuel st rest hrest => ?_⟩
  have hthree : signs3.contains (String.ofList (('*' :: '*' :: rest).take 3)) = false := by
    refine contains_ofList fun s hs htake => ?_
    have hthird : ∀ s ∈ signs3, (s.toList.take 2 = ['*', '*'] → s.toList = ['*', '*', '=']) ∧
        s.toList.length = 3 := by decide
    have hcs := (hthird s hs).1 (by rw [htake]; simp)
    rw [hcs] at htake
    cases rest with
    | nil => simp at htake
    | cons d r =>
      have := hrest d rfl
      simp only [List.take_succ_cons, List.take_zero, List.cons.injEq, true_and, and_true] at htake
      rw [← htake] at this
      cases this
  have hread : readSign? ('*' :: '*' :: rest) = some ("**", rest) := by
    rw [readSign?]
    simp only [hthree, Bool.false_eq_true, if_false]
    simp [signs2]
  exact lexFrom_separator (by decide) hread fuel st

end Signs

/-! ## Brackets and lists -/

section Enclosing

variable {ok : List Char → Prop} {cs : List Char} {ts : List Token}

/-- The brackets of calls and of subscripts. -/
def IsPair (o c : Char) : Prop := (o = '(' ∧ c = ')') ∨ (o = '[' ∧ c = ']')

/-- **A text in brackets is read as its tokens between the brackets.** -/
theorem Lexes.enclosed (h : Lexes ok cs ts) {o c : Char} (hpair : IsPair o c)
    (hok : ∀ rest, ok (c :: rest)) :
    Lexes (fun _ => True) (o :: (cs ++ [c]))
      (.sign (String.ofList [o]) :: (ts ++ [.sign (String.ofList [c])])) := by
  obtain ⟨k, hk, hread⟩ := h.reads
  have hplain := h.plain
  refine ⟨?_, k + 2, by simpa using hk, fun fuel st rest _ => ?_⟩
  · rcases hpair with ⟨rfl, rfl⟩ | ⟨rfl, rfl⟩ <;> simp [hplain]
  have hstart : isIdentifierStart o = false ∧ isIdentifierStart c = false := by
    rcases hpair with ⟨rfl, rfl⟩ | ⟨rfl, rfl⟩ <;>
      exact ⟨isIdentifierStart_of_ascii (by decide), isIdentifierStart_of_ascii (by decide)⟩
  have hopen : standsAlone o = true ∧ standsAlone c = true := by
    rcases hpair with ⟨rfl, rfl⟩ | ⟨rfl, rfl⟩ <;> decide
  have hout := readSign?_alone hopen.1 (cs ++ c :: rest)
  have hin := readSign?_alone hopen.2 rest
  have hstep : lexFrom (fuel + 1 + k + 1) false st (o :: (cs ++ c :: rest)) =
      lexFrom (fuel + 1 + k) false { st.push (.sign (String.ofList [o])) with
        brackets := o :: st.brackets } (cs ++ c :: rest) := by
    rcases hpair with ⟨rfl, rfl⟩ | ⟨rfl, rfl⟩ <;> simp [lexFrom, hstart, hout, LexState.push]
  rw [List.cons_append, List.append_assoc, List.singleton_append, show fuel + (k + 2) =
    fuel + 1 + k + 1 by omega, hstep, hread _ _ _ (hok rest)]
  rcases hpair with ⟨rfl, rfl⟩ | ⟨rfl, rfl⟩ <;>
    simp [lexFrom, hstart, hin, LexState.push, LexState.pushAll, closingOf]

/-- **Texts with commas between them are read one by one.** -/
theorem lexes_intercalate {css : List (List Char)} {tss : List (List Token)}
    (h : List.Forall₂ (Lexes ok) css tss) (hok : ∀ rest, ok (',' :: rest)) :
    Lexes ok ([',', ' '].intercalate css) ([.sign ","].intercalate tss) := by
  induction h with
  | nil => exact lexes_nil ok
  | @cons cs ts css tss hhead htail ih =>
    cases htail with
    | nil => simpa [List.intercalate] using hhead
    | @cons ds us css tss h' htail =>
      have hcomma : Lexes (fun _ => True) [',', ' '] [.sign ","] :=
        (lexes_sign (c := ',') (by decide)).append lexes_space fun rest _ => avoids_cons (by decide) _
      have := (hhead.append hcomma fun rest _ => hok _).append ih fun _ _ => trivial
      simpa [List.intercalate] using this

/-- **A source of one line.** -/
theorem lex_of_lexes {s : String} (h : Lexes ok s.toList ts) (hok : ok [])
    (hopen : ∃ c r, s.toList = c :: r ∧ isLayout c = false) :
    lex s = { lexemes := ts.map (⟨·, 1⟩) ++ [⟨.newline, 1⟩, ⟨.finish, 1⟩] } := by
  obtain ⟨c, r, hs, hc⟩ := hopen
  obtain ⟨k, hk, hread⟩ := h.reads
  obtain ⟨j, hj⟩ : ∃ j, 2 * s.toList.length + 2 = j + 1 + k + 1 :=
    ⟨2 * s.toList.length - k, by omega⟩
  simp only [isLayout, List.contains_eq_mem, List.mem_cons, List.not_mem_nil, or_false,
    decide_eq_false_iff_not, not_or] at hc
  obtain ⟨hspace, htab, hfeed, hnl, -, hhash, -⟩ := hc
  have hstart : lexFrom (j + 1 + k + 1) true {} s.toList =
      lexFrom (j + 1 + k) false {} s.toList := by
    rw [hs]
    simp [lexFrom, measureIndent, hspace, htab, hfeed, hnl, hhash, LexState.indentTo]
  have hend := hread (j + 1) {} [] hok
  rw [List.append_nil] at hend
  rw [lex, normalizeFeeds_eq_self h.plain, hj, hstart, hend]
  simp [lexFrom, lexFrom.finish, LexState.push, LexState.pushAll, LexState.stop]

end Enclosing

end Facade.Syntax
