import Facade.Proofs.Boundaries

/-!
# Sources read line by line

A source can be read one line after the other, where the lines that a literal spans count as one: what
a line holds depends on its own characters only, and what it means for the lines behind it is in the
state that it leaves.

* `Piece`, `piece?`: what stands at one place of a line, read from the line alone.
* `pieces`: what stands on a line.
* `LexState.readLine`, `LexState.readLines`: the state that a line, or several, leave.
* `IsCutInto`: a text as lines, some of which hold line feeds in their literals.
* `lexFrom_readLines`, `lex_of_readLines`: reading a source is reading its lines.
-/

namespace Facade.Syntax

open Text

/-! ## Pieces of a line -/

/-- What stands at one place of a line. -/
inductive Piece where
  /-- A word or a number. -/
  | token (t : Token)
  /-- A sign, with its first character. -/
  | sign (s : String) (c : Char)
  /-- A text literal, with what was read of it. -/
  | literal (t : Token) (read : TextRead)

/-- Whether a word is the mark of the literal that follows. -/
def marksLiteral (word : List Char) : List Char → Bool
  | q :: _ => (q == '\'' || q == '"') && word.length ≤ 2 &&
      word.all (fun c => ['r', 'u', 'b', 'f'].contains c.toLower)
  | [] => false

/-- The literal at the front of a text. -/
def literal? (marks cs : List Char) : Option (Piece × List Char) :=
  (readLiteral? marks cs).map fun p => (.literal p.1 p.2.1, p.2.2)

/-- The piece at the front of a text that opens with neither a blank nor a comment. -/
def piece? : List Char → Option (Piece × List Char)
  | [] => none
  | c :: r =>
    if isLayout c then none
    else if isIdentifierStart c then
      let word := c :: r.takeWhile isIdentifierContinue
      let rest := r.dropWhile isIdentifierContinue
      if marksLiteral word rest then literal? (word.map Char.toLower) rest
      else some (.token (.word (String.ofList word)), rest)
    else if c == '\'' || c == '"' then literal? [] (c :: r)
    else if c.isDigit || (c == '.' && r.head?.any Char.isDigit) then
      (readNumber? (c :: r)).map fun p => (.token (.number p.1), p.2)
    else (readSign? (c :: r)).map fun p => (.sign p.1 c, p.2)

namespace LexState

/-- The state after a piece; a bracket must close the last one that is open. -/
def take? (st : LexState) : Piece → Option LexState
  | .token t => some (st.push t)
  | .literal t read => some { st.push t with
      line := st.line + read.feeds
      oddEscapes := (read.odd.map fun c => (st.line, c)).toList ++ st.oddEscapes }
  | .sign s c =>
    if c == '(' || c == '[' || c == '\x7b' then
      some { st.push (.sign s) with brackets := c :: st.brackets }
    else if c == ')' || c == ']' || c == '\x7d' then
      match st.brackets with
      | o :: os => if closingOf o == c then some { st.push (.sign s) with brackets := os } else none
      | [] => none
    else some (st.push (.sign s))

end LexState

theorem lexFrom_literal {marks cs r : List Char} {p : Piece} {st st' : LexState}
    (h : literal? marks cs = some (p, r)) (ht : st.take? p = some st') (fuel : Nat) :
    lexFrom.literal fuel st marks cs = lexFrom fuel false st' r := by
  obtain ⟨⟨t, read, r'⟩, hread, hp⟩ := Option.map_eq_some_iff.mp h
  obtain ⟨rfl, rfl⟩ := Prod.mk.inj hp
  obtain rfl := Option.some.inj ht
  simp only [lexFrom.literal, hread]
  rfl

section Steps

variable {c : Char} {r : List Char} (hlayout : isLayout c = false) (fuel : Nat) (st : LexState)
include hlayout

theorem lexFrom_word (hstart : isIdentifierStart c = true) :
    lexFrom (fuel + 1) false st (c :: r) =
      if marksLiteral (c :: r.takeWhile isIdentifierContinue) (r.dropWhile isIdentifierContinue) then
        lexFrom.literal fuel st ((c :: r.takeWhile isIdentifierContinue).map Char.toLower)
          (r.dropWhile isIdentifierContinue)
      else lexFrom fuel false
        (st.push (.word (String.ofList (c :: r.takeWhile isIdentifierContinue))))
        (r.dropWhile isIdentifierContinue) := by
  simp only [isLayout, List.contains_eq_mem, List.mem_cons, List.not_mem_nil, or_false,
    decide_eq_false_iff_not, not_or] at hlayout
  obtain ⟨hspace, htab, hfeed, hnl, -, hhash, hslash⟩ := hlayout
  simp only [hslash, IsEmpty.forall_iff, implies_true, imp_false, lexFrom, hstart, hspace, htab,
    hfeed, beq_iff_eq, Bool.or_eq_true, or_self, if_true, if_false]
  cases r.dropWhile isIdentifierContinue with
  | nil => rfl
  | cons q r => rfl

section Operands

variable (hstart : isIdentifierStart c = false) (hquote : ¬ (c == '\'' || c == '"') = true)
include hstart hquote

theorem lexFrom_number (hdigit : (c.isDigit || (c == '.' && r.head?.any Char.isDigit)) = true)
    {n : Constant} {rest : List Char} (h : readNumber? (c :: r) = some (n, rest)) :
    lexFrom (fuel + 1) false st (c :: r) = lexFrom fuel false (st.push (.number n)) rest := by
  simp only [isLayout, List.contains_eq_mem, List.mem_cons, List.not_mem_nil, or_false,
    decide_eq_false_iff_not, not_or] at hlayout
  obtain ⟨hspace, htab, hfeed, hnl, -, hhash, hslash⟩ := hlayout
  simp only [hslash, IsEmpty.forall_iff, implies_true, imp_false, lexFrom, hstart, hspace, htab,
    hfeed, beq_iff_eq, Bool.or_eq_true, or_self, if_false, hquote, hdigit, h, if_true,
    Bool.false_eq_true]

theorem lexFrom_sign (hdigit : ¬ (c.isDigit || (c == '.' && r.head?.any Char.isDigit)) = true)
    {s : String} {rest : List Char} {st' : LexState} (h : readSign? (c :: r) = some (s, rest))
    (ht : st.take? (.sign s c) = some st') :
    lexFrom (fuel + 1) false st (c :: r) = lexFrom fuel false st' rest := by
  simp only [isLayout, List.contains_eq_mem, List.mem_cons, List.not_mem_nil, or_false,
    decide_eq_false_iff_not, not_or] at hlayout
  obtain ⟨hspace, htab, hfeed, hnl, -, hhash, hslash⟩ := hlayout
  have hblank : (c == ' ' || c == '\t' || c == '\x0c') = false := by simp [hspace, htab, hfeed]
  simp only [hslash, IsEmpty.forall_iff, implies_true, imp_false, lexFrom, hstart, hblank,
    Bool.false_eq_true, if_false, hquote, hdigit, h]
  simp only [LexState.take?] at ht
  split_ifs at ht with hopen hclose
  · obtain rfl := Option.some.inj ht
    rw [if_pos hopen]
    rfl
  · rw [if_neg hopen, if_pos hclose]
    have hpush : (st.push (.sign s)).brackets = st.brackets := rfl
    rw [hpush]
    cases hb : st.brackets with
    | nil => simp [hb] at ht
    | cons o os =>
      simp only [hb] at ht ⊢
      split_ifs at ht with hmatch
      obtain rfl := Option.some.inj ht
      rw [if_pos hmatch]
  · obtain rfl := Option.some.inj ht
    rw [if_neg hopen, if_neg hclose]

end Operands

end Steps

/-- **One step of reading.** A piece is read as one step, whatever stands behind it. -/
theorem lexFrom_piece {cs r : List Char} {p : Piece} {st st' : LexState}
    (h : piece? cs = some (p, r)) (ht : st.take? p = some st') (fuel : Nat) :
    lexFrom (fuel + 1) false st cs = lexFrom fuel false st' r := by
  cases cs with
  | nil => cases h
  | cons c r' =>
    simp only [piece?] at h
    split_ifs at h with hlayout hstart hmarks hquote hdigit
    · rw [lexFrom_word (by simpa using hlayout) fuel st hstart, if_pos hmarks]
      exact lexFrom_literal h ht fuel
    · obtain ⟨rfl, rfl⟩ := Prod.mk.inj (Option.some.inj h)
      obtain rfl := Option.some.inj ht
      rw [lexFrom_word (by simpa using hlayout) fuel st hstart, if_neg hmarks]
    · have hq : IsQuote c := by simpa [IsQuote] using hquote
      rw [lexFrom_quote hq]
      exact lexFrom_literal h ht fuel
    · obtain ⟨⟨n, rest⟩, hread, hp⟩ := Option.map_eq_some_iff.mp h
      obtain ⟨rfl, rfl⟩ := Prod.mk.inj hp
      obtain rfl := Option.some.inj ht
      exact lexFrom_number (by simpa using hlayout) fuel st (by simpa using hstart) hquote hdigit
        hread
    · obtain ⟨⟨s, rest⟩, hread, hp⟩ := Option.map_eq_some_iff.mp h
      obtain ⟨rfl, rfl⟩ := Prod.mk.inj hp
      exact lexFrom_sign (by simpa using hlayout) fuel st (by simpa using hstart) hquote hdigit
        hread ht

/-! ## A piece depends on its line only -/

theorem takeWhile_append_ends {p : Char → Bool} {y : List Char} (hy : Avoids p y) (t : List Char) :
    (t ++ y).takeWhile p = t.takeWhile p ∧ (t ++ y).dropWhile p = t.dropWhile p ++ y := by
  induction t with
  | nil =>
    cases y with
    | nil => simp
    | cons d y => simp [hy d rfl]
  | cons c t ih => by_cases hc : p c = true <;> simp [hc, ih]

theorem suffix_of_length_lt {c : Char} {r t : List Char} (h : r <:+ c :: t)
    (hlen : r.length < (c :: t).length) : r <:+ t := by
  rcases List.suffix_cons_iff.mp h with rfl | h
  · exact absurd hlen (Nat.lt_irrefl _)
  · exact h

theorem literal?_local {marks s r : List Char} {p : Piece} {q : Char}
    (h : literal? marks (q :: s) = some (p, r)) :
    ∃ u, s = u ++ q :: r ∧ ∀ y, (y.head? = some q → r.head? = some q) →
      literal? marks (q :: (u ++ q :: y)) = some (p, y) := by
  obtain ⟨⟨t, read, r'⟩, hread, hp⟩ := Option.map_eq_some_iff.mp h
  obtain ⟨rfl, rfl⟩ := Prod.mk.inj hp
  obtain ⟨u, hs, hlocal⟩ := readLiteral?_local hread
  exact ⟨u, hs, fun y hy => by rw [literal?, hlocal y hy]; rfl⟩

theorem marksLiteral_cons {word rest : List Char} (h : marksLiteral word rest = true) :
    ∃ q s, rest = q :: s ∧ IsQuote q := by
  cases rest with
  | nil => cases h
  | cons q s =>
    simp only [marksLiteral, Bool.and_eq_true, Bool.or_eq_true, beq_iff_eq] at h
    exact ⟨q, s, rfl, h.1.1⟩

/-- A piece leaves the end of its line. -/
theorem piece?_suffix {c : Char} {t r : List Char} {p : Piece} (h : piece? (c :: t) = some (p, r)) :
    r <:+ t := by
  have hliteral {marks s : List Char} {q : Char} (h : literal? marks (q :: s) = some (p, r)) :
      r <:+ s := by
    obtain ⟨u, rfl, -⟩ := literal?_local h
    exact (List.suffix_cons q r).trans (List.suffix_append u _)
  have hword := List.dropWhile_suffix (l := t) isIdentifierContinue
  simp only [piece?] at h
  split_ifs at h with hlayout hstart hmarks hquote hdigit
  · obtain ⟨q, s, hrest, -⟩ := marksLiteral_cons hmarks
    rw [hrest] at h hword
    exact (hliteral h).trans ((List.suffix_cons q s).trans hword)
  · obtain ⟨-, rfl⟩ := Prod.mk.inj (Option.some.inj h)
    exact hword
  · exact hliteral h
  · obtain ⟨⟨n, rest⟩, hread, hp⟩ := Option.map_eq_some_iff.mp h
    obtain ⟨-, rfl⟩ := Prod.mk.inj hp
    exact suffix_of_length_lt (readNumber?_suffix hread).1 (readNumber?_suffix hread).2
  · obtain ⟨⟨n, rest⟩, hread, hp⟩ := Option.map_eq_some_iff.mp h
    obtain ⟨-, rfl⟩ := Prod.mk.inj hp
    exact suffix_of_length_lt (readSign?_suffix hread).1 (readSign?_suffix hread).2

section Extending

variable {z : List Char} (hz : Ends z)
include hz

theorem head?_ne_of_ends {q : Char} (hq : IsQuote q) : z.head? ≠ some q := by
  intro hz'
  have hblank := hz q hz'
  rcases hq with rfl | rfl <;> cases hblank

theorem marksLiteral_append (word rest : List Char) :
    marksLiteral word (rest ++ z) = marksLiteral word rest := by
  cases rest with
  | cons q s => rfl
  | nil =>
    cases z with
    | nil => rfl
    | cons c z =>
      have hc : (c == '\'' || c == '"') = false :=
        forall_isBlank (P := fun c => (c == '\'' || c == '"') = false) (by decide) (hz c rfl)
      simp only [List.nil_append, marksLiteral, hc, Bool.false_and]

/-- All but a literal is read from the line alone. -/
theorem piece?_append_eq (c : Char) (t : List Char) : piece? (c :: (t ++ z)) =
    if isLayout c then none
    else if isIdentifierStart c then
      let word := c :: t.takeWhile isIdentifierContinue
      let rest := t.dropWhile isIdentifierContinue
      if marksLiteral word rest then literal? (word.map Char.toLower) (rest ++ z)
      else some (.token (.word (String.ofList word)), rest ++ z)
    else if c == '\'' || c == '"' then literal? [] (c :: (t ++ z))
    else if c.isDigit || (c == '.' && t.head?.any Char.isDigit) then
      (readNumber? (c :: t)).map fun p => (.token (.number p.1), p.2 ++ z)
    else (readSign? (c :: t)).map fun p => (.sign p.1 c, p.2 ++ z) := by
  obtain ⟨htake, hdrop⟩ := takeWhile_append_ends
    (p := isIdentifierContinue) (fun c hc => (identifier_of_isBlank (hz c hc)).2) t
  have hhead : (t ++ z).head?.any Char.isDigit = t.head?.any Char.isDigit := by
    cases t with
    | cons d t => rfl
    | nil =>
      cases z with
      | nil => rfl
      | cons d z => simpa using (Number.stopsNumber_of_ends hz d rfl).1
  have hnumber := readNumber?_ends hz (c :: t)
  have hsign := readSign?_ends hz (c :: t)
  rw [List.cons_append] at hnumber hsign
  simp only [piece?, htake, hdrop, hhead, marksLiteral_append hz, hnumber, hsign, Option.map_map]
  rfl

theorem literal?_append {marks s r : List Char} {q : Char} {p : Piece} (hq : IsQuote q)
    (h : literal? marks (q :: s) = some (p, r)) :
    literal? marks (q :: (s ++ z)) = some (p, r ++ z) := by
  obtain ⟨u, rfl, hlocal⟩ := literal?_local h
  rw [List.append_assoc, List.cons_append]
  refine hlocal _ fun hhead => ?_
  cases r with
  | nil => exact absurd hhead (head?_ne_of_ends hz hq)
  | cons d r => exact hhead

/-- **A piece stays the same when a blank or a whole line is put behind its line.** -/
theorem piece?_append {cs r : List Char} {p : Piece} (h : piece? cs = some (p, r)) :
    piece? (cs ++ z) = some (p, r ++ z) := by
  cases cs with
  | nil => cases h
  | cons c t =>
    rw [List.cons_append, piece?_append_eq hz]
    simp only [piece?] at h
    split_ifs at h with hlayout hstart hmarks hquote hdigit
    · obtain ⟨q, s, hrest, hq⟩ := marksLiteral_cons hmarks
      rw [hrest] at h hmarks
      simp only [hlayout, hstart, hrest, hmarks, if_true]
      exact literal?_append hz hq h
    · obtain ⟨rfl, rfl⟩ := Prod.mk.inj (Option.some.inj h)
      simp only [hlayout, hstart, hmarks, if_true]
      rfl
    · have hq : IsQuote c := by simpa [IsQuote] using hquote
      simp only [hlayout, hstart, hquote, if_true]
      exact literal?_append hz hq h
    · obtain ⟨⟨n, rest⟩, hread, hp⟩ := Option.map_eq_some_iff.mp h
      obtain ⟨rfl, rfl⟩ := Prod.mk.inj hp
      simp only [hlayout, hstart, hquote, hdigit, hread, if_true]
      rfl
    · obtain ⟨⟨n, rest⟩, hread, hp⟩ := Option.map_eq_some_iff.mp h
      obtain ⟨rfl, rfl⟩ := Prod.mk.inj hp
      simp only [hlayout, hstart, hquote, hdigit, hread]
      rfl

end Extending

section Stripping

variable {z : List Char} (hz : ∀ c ∈ z, isBlank c = true)
include hz

theorem ends_of_blank : Ends z := fun c hc => hz c (List.mem_of_mem_head? hc)

/-- The quotes of a literal are not among the blanks behind it. -/
theorem literal?_of_append {marks s r : List Char} {q : Char} {p : Piece} (hq : IsQuote q)
    (h : literal? marks (q :: (s ++ z)) = some (p, r)) :
    ∃ r', r = r' ++ z ∧ literal? marks (q :: s) = some (p, r') := by
  obtain ⟨u, hu, hlocal⟩ := literal?_local h
  have hnot : q ∉ z := by
    intro hmem
    have hblank := hz q hmem
    rcases hq with rfl | rfl <;> cases hblank
  have hsplit : s ++ z = (u ++ [q]) ++ r := by simpa using hu
  rcases List.append_eq_append_iff.mp hsplit with ⟨t, hs, rfl⟩ | ⟨t, rfl, rfl⟩
  · rcases List.eq_nil_or_concat t with rfl | ⟨t, d, rfl⟩
    · rw [List.append_nil] at hs
      exact ⟨[], by simp, by simpa [← hs] using hlocal [] (by simp)⟩
    · obtain ⟨-, hd⟩ := List.append_inj' (by simpa using hs : u ++ [q] = (s ++ t) ++ [d]) rfl
      exact absurd (by simp [List.cons.inj hd |>.1]) hnot
  · exact ⟨t, rfl, by simpa using hlocal t fun ht => by cases t <;> simp_all⟩

/-- **A piece stays the same when the blanks at the end of its line are taken away.** -/
theorem piece?_of_append {m r : List Char} {p : Piece} (hm : m ≠ [])
    (h : piece? (m ++ z) = some (p, r)) : ∃ r', r = r' ++ z ∧ piece? m = some (p, r') := by
  obtain ⟨c, t, rfl⟩ := List.exists_cons_of_ne_nil hm
  rw [List.cons_append, piece?_append_eq (ends_of_blank hz)] at h
  simp only [piece?] at h ⊢
  split_ifs at h with hlayout hstart hmarks hquote hdigit
  · obtain ⟨q, s, hrest, hq⟩ := marksLiteral_cons hmarks
    rw [hrest] at h hmarks
    simp only [hlayout, hstart, hrest, hmarks, if_true]
    exact literal?_of_append hz hq h
  · obtain ⟨rfl, rfl⟩ := Prod.mk.inj (Option.some.inj h)
    simp only [hlayout, hstart, hmarks, if_true]
    exact ⟨_, rfl, rfl⟩
  · have hq : IsQuote c := by simpa [IsQuote] using hquote
    simp only [hlayout, hstart, hquote, if_true]
    exact literal?_of_append hz hq h
  · obtain ⟨⟨n, rest⟩, hread, hp⟩ := Option.map_eq_some_iff.mp h
    obtain ⟨rfl, rfl⟩ := Prod.mk.inj hp
    simp only [hlayout, hstart, hquote, hdigit, hread, if_true]
    exact ⟨_, rfl, rfl⟩
  · obtain ⟨⟨n, rest⟩, hread, hp⟩ := Option.map_eq_some_iff.mp h
    obtain ⟨rfl, rfl⟩ := Prod.mk.inj hp
    simp only [hlayout, hstart, hquote, hdigit, hread]
    exact ⟨_, rfl, rfl⟩

end Stripping

/-! ## A line -/

/-- A blank inside a line. -/
def isSpace (c : Char) : Bool := c == ' ' || c == '\t' || c == '\x0c'

/-- The pieces of a line, and whether a backslash at its end joins it to the next one. A line feed may
stand in a literal only. -/
def pieces : Nat → List Char → Option (List Piece × Bool)
  | 0, _ => none
  | _ + 1, [] => some ([], false)
  | n + 1, c :: r =>
    if isSpace c then pieces n r
    else if c == '#' then if '\n' ∈ r then none else some ([], false)
    else if c == '\\' && r.isEmpty then some ([], true)
    else (piece? (c :: r)).bind fun p => (pieces n p.2).map fun x => (p.1 :: x.1, x.2)

namespace LexState

/-- The state at the next line. -/
def next (st : LexState) : LexState := { st with line := st.line + 1 }

/-- What the end of a line does to the state, and whether the next line is still inside the same
statement. -/
def endLine (st : LexState) (joined : Bool) : Bool × LexState :=
  if joined then (true, st)
  else if st.brackets.isEmpty then (false, st.push .newline)
  else (true, st)

/-- Reads a line from where its first piece may stand. -/
def readRest (st : LexState) (l : List Char) : Option (Bool × LexState) :=
  (pieces (l.length + 1) l).bind fun x => (x.1.foldlM take? st).map fun st' => st'.endLine x.2

/-- Reads a line up to its end; `inside` tells that the line before left a statement open. -/
def readTo (inside : Bool) (st : LexState) (l : List Char) : Option (Bool × LexState) :=
  if inside then st.readRest l
  else match measureIndent 0 0 l with
    | (_, _, []) => some (false, st)
    | (col, alt, c :: r) =>
      if c == '#' then if '\n' ∈ r then none else some (false, st)
      else match st.indentTo col alt with
        | .ok st' => st'.readRest (c :: r)
        | .error _ => none

/-- Reads a line with its end. -/
def readLine (p : Bool × LexState) (l : List Char) : Option (Bool × LexState) :=
  (p.2.readTo p.1 l).map fun q => (q.1, q.2.next)

/-- Reads lines. -/
def readLines (p : Bool × LexState) (ls : List (List Char)) : Option (Bool × LexState) :=
  ls.foldlM readLine p

theorem readLines_append (p : Bool × LexState) (ls ls' : List (List Char)) :
    readLines p (ls ++ ls') = (readLines p ls).bind fun q => readLines q ls' :=
  List.foldlM_append

theorem readLines_cons (p : Bool × LexState) (l : List Char) (ls : List (List Char)) :
    readLines p (l :: ls) = (readLine p l).bind fun q => readLines q ls :=
  List.foldlM_cons

theorem readLines_singleton (p : Bool × LexState) (l : List Char) :
    readLines p [l] = readLine p l := by
  rw [readLines_cons]
  exact Option.bind_fun_some _

end LexState

/-- Characters of one line of a text. -/
def IsLine (l : List Char) : Prop := '\n' ∉ l

/-- The end of a source, or of a line. -/
def EndsLine (y : List Char) : Prop := y = [] ∨ ∃ r, y = '\n' :: r

theorem EndsLine.ends {y : List Char} (h : EndsLine y) : Ends y := by
  rcases h with rfl | ⟨r, rfl⟩
  · exact ends_nil
  · exact ends_newline r

theorem dropWhile_line {l : List Char} (hl : IsLine l) {y : List Char} (hy : EndsLine y) :
    (l ++ y).dropWhile (· != '\n') = y := by
  have hline : ∀ c ∈ l, (c != '\n') = true := fun c hc => by
    rw [bne_iff_ne]
    rintro rfl
    exact hl hc
  rw [List.dropWhile_append_of_pos hline]
  rcases hy with rfl | ⟨r, rfl⟩ <;> simp

theorem piece?_layout {c : Char} (h : isLayout c = true) (r : List Char) : piece? (c :: r) = none := by
  rw [piece?, if_pos h]

/-- A line does not open with its line feed. -/
theorem pieces_feed (n : Nat) (r : List Char) : pieces n ('\n' :: r) = none := by
  cases n with
  | zero => rfl
  | succ n => simp [pieces, isSpace, piece?_layout (c := '\n') (by decide)]

/-- **The pieces of a line are read one after the other,** up to its end or to the backslash there. -/
theorem lexFrom_pieces {n : Nat} {l : List Char} {x : List Piece × Bool} {st st' : LexState}
    (h : pieces n l = some x) (ht : x.1.foldlM LexState.take? st = some st')
    {y : List Char} (hy : EndsLine y) :
    ∃ k ≤ l.length, ∀ fuel, lexFrom (fuel + k) false st (l ++ y) =
      lexFrom fuel false st' ((if x.2 then ['\\'] else []) ++ y) := by
  induction n generalizing l x st with
  | zero => cases h
  | succ n ih =>
    cases l with
    | nil =>
      obtain rfl := Option.some.inj h
      obtain rfl := Option.some.inj ht
      exact ⟨0, le_rfl, fun fuel => rfl⟩
    | cons c r =>
      simp only [pieces] at h
      split_ifs at h with hspace hhash hfeed hslash
      · obtain ⟨k, hk, hread⟩ := ih h ht
        refine ⟨k + 1, by simpa using hk, fun fuel => ?_⟩
        rw [← hread fuel, ← Nat.add_assoc, List.cons_append]
        simp only [isSpace, Bool.or_eq_true, beq_iff_eq] at hspace
        rcases hspace with (rfl | rfl) | rfl <;> simp [lexFrom]
      · obtain rfl := Option.some.inj h
        obtain rfl := Option.some.inj ht
        obtain rfl := eq_of_beq hhash
        refine ⟨1, by simp, fun fuel => ?_⟩
        rw [List.cons_append, lexFrom, dropWhile_line hfeed hy]
        rfl
      · obtain rfl := Option.some.inj h
        obtain rfl := Option.some.inj ht
        simp only [Bool.and_eq_true, beq_iff_eq, List.isEmpty_iff] at hslash
        obtain ⟨rfl, rfl⟩ := hslash
        exact ⟨0, by simp, fun fuel => rfl⟩
      · obtain ⟨⟨p, r'⟩, hpiece, hrest⟩ := Option.bind_eq_some_iff.mp h
        obtain ⟨x', hx', rfl⟩ := Option.map_eq_some_iff.mp hrest
        obtain ⟨st₁, hst₁, hst'⟩ := Option.bind_eq_some_iff.mp ht
        obtain ⟨k, hk, hread⟩ := ih hx' hst'
        have hlen : r'.length ≤ r.length := (piece?_suffix hpiece).length_le
        replace hk : k ≤ r'.length := hk
        refine ⟨k + 1, by rw [List.length_cons]; omega, fun fuel => ?_⟩
        rw [← Nat.add_assoc, lexFrom_piece (piece?_append hy.ends hpiece) hst₁]
        exact hread fuel

/-- What reading goes on with behind a line: the next line, or the end of the source. -/
def after (fuel : Nat) (q : Bool × LexState) : List Char → Lexed
  | [] => lexFrom.finish q.2
  | _ :: r => lexFrom fuel (!q.1) q.2.next r

/-- Whether a statement that is still open has something to go on with. -/
def GoesOn (q : Bool × LexState) (y : List Char) : Prop := q.1 = true → y.tail ≠ []

theorem lexFrom_endLine (st : LexState) (joined : Bool) {y : List Char} (hy : EndsLine y)
    (hgo : GoesOn (st.endLine joined) y) (fuel : Nat) :
    lexFrom (fuel + 1) false st ((if joined then ['\\'] else []) ++ y) =
      after fuel (st.endLine joined) y := by
  cases joined with
  | true =>
    rcases hy with rfl | ⟨r, rfl⟩
    · exact absurd rfl (hgo rfl)
    · have hr : r.isEmpty = false := by simpa using hgo rfl
      simp [lexFrom, hr, after, LexState.endLine, LexState.next]
  | false =>
    cases hopen : st.brackets.isEmpty with
    | true =>
      rcases hy with rfl | ⟨r, rfl⟩
      · simp [lexFrom, hopen, after, LexState.endLine]
      · simp [lexFrom, hopen, after, LexState.endLine, LexState.next]
        rfl
    | false =>
      rcases hy with rfl | ⟨r, rfl⟩
      · exact absurd rfl (hgo (by simp [LexState.endLine, hopen]))
      · simp [lexFrom, hopen, after, LexState.endLine, LexState.next]

theorem lexFrom_readRest {st : LexState} {l : List Char} {q : Bool × LexState}
    (h : st.readRest l = some q) {y : List Char} (hy : EndsLine y) (hgo : GoesOn q y) :
    ∃ k ≤ l.length + 1, ∀ fuel, lexFrom (fuel + k) false st (l ++ y) = after fuel q y := by
  obtain ⟨x, hx, hrest⟩ := Option.bind_eq_some_iff.mp h
  obtain ⟨st', hst', rfl⟩ := Option.map_eq_some_iff.mp hrest
  obtain ⟨k, hk, hread⟩ := lexFrom_pieces hx hst' hy
  refine ⟨k + 1, by omega, fun fuel => ?_⟩
  rw [← lexFrom_endLine st' x.2 hy hgo fuel, ← hread (fuel + 1)]
  congr 1
  omega

theorem measureIndent_append {y : List Char} {col alt : Nat} {l : List Char}
    (h : EndsLine y ∨ (measureIndent col alt l).2.2 ≠ []) :
    measureIndent col alt (l ++ y) = ((measureIndent col alt l).1, (measureIndent col alt l).2.1,
      (measureIndent col alt l).2.2 ++ y) := by
  fun_induction measureIndent col alt l with
  | case1 col alt r ih => simpa [measureIndent] using ih h
  | case2 col alt r ih => simpa [measureIndent] using ih h
  | case3 col alt r ih => simpa [measureIndent] using ih h
  | case4 col alt cs hspace htab hfeed =>
    cases cs with
    | nil =>
      rcases h with (rfl | ⟨r, rfl⟩) | h
      · simp [measureIndent]
      · simp [measureIndent]
      · exact absurd rfl h
    | cons c r =>
      have hc : c ≠ ' ' ∧ c ≠ '\t' ∧ c ≠ '\x0c' :=
        ⟨fun h => hspace r (by rw [h]), fun h => htab r (by rw [h]), fun h => hfeed r (by rw [h])⟩
      simp [measureIndent, hc]

theorem measureIndent_suffix (col alt : Nat) (l : List Char) :
    (measureIndent col alt l).2.2 <:+ l := by
  fun_induction measureIndent col alt l with
  | case1 col alt r ih => exact ih.trans (List.suffix_cons _ r)
  | case2 col alt r ih => exact ih.trans (List.suffix_cons _ r)
  | case3 col alt r ih => exact ih.trans (List.suffix_cons _ r)
  | case4 => exact List.suffix_rfl

/-- The margin of a line holds blanks only, and all that the line opens with. -/
theorem measureIndent_isSpace (col alt : Nat) (l : List Char) :
    (∀ c r, (measureIndent col alt l).2.2 = c :: r → isSpace c = false) ∧
      ((measureIndent col alt l).2.2 = [] → ∀ c ∈ l, isSpace c = true) := by
  fun_induction measureIndent col alt l with
  | case1 col alt r ih => exact ⟨ih.1, fun h => by simpa [isSpace] using ih.2 h⟩
  | case2 col alt r ih => exact ⟨ih.1, fun h => by simpa [isSpace] using ih.2 h⟩
  | case3 col alt r ih => exact ⟨ih.1, fun h => by simpa [isSpace] using ih.2 h⟩
  | case4 col alt cs hspace htab hfeed =>
    refine ⟨fun c r h => ?_, fun h => by simp [show cs = [] from h]⟩
    obtain rfl : cs = c :: r := h
    simpa [isSpace, and_assoc] using ⟨fun h => hspace r (by rw [h]), fun h => htab r (by rw [h]),
      fun h => hfeed r (by rw [h])⟩

/-- **A line is read up to its end,** from its start or in the middle of a statement. -/
theorem lexFrom_readTo {inside : Bool} {st : LexState} {l : List Char} {q : Bool × LexState}
    (h : st.readTo inside l = some q) {y : List Char} (hy : EndsLine y) (hgo : GoesOn q y) :
    ∃ k ≤ l.length + 2, ∀ fuel, lexFrom (fuel + k) (!inside) st (l ++ y) = after fuel q y := by
  cases inside with
  | true =>
    obtain ⟨k, hk, hread⟩ := lexFrom_readRest h hy hgo
    exact ⟨k, by omega, hread⟩
  | false =>
    have hindent : measureIndent 0 0 (l ++ y) = _ := measureIndent_append (.inl hy)
    have hlen := (measureIndent_suffix 0 0 l).length_le
    simp only [LexState.readTo, Bool.false_eq_true, if_false] at h
    rcases hm : measureIndent 0 0 l with ⟨col, alt, _ | ⟨c, r⟩⟩
    · rw [hm] at h hindent
      obtain rfl := Option.some.inj h
      refine ⟨1, by omega, fun fuel => ?_⟩
      rcases hy with rfl | ⟨r, rfl⟩ <;> simp only [Bool.not_false, lexFrom, hindent] <;> rfl
    · rw [hm] at h hindent hlen
      simp only at h hlen
      split_ifs at h with hhash hfeed
      · obtain rfl := Option.some.inj h
        obtain rfl := eq_of_beq hhash
        refine ⟨2, by omega, fun fuel => ?_⟩
        simp only [Bool.not_false, lexFrom, hindent, List.cons_append, dropWhile_line hfeed hy]
        rcases hy with rfl | ⟨r, rfl⟩ <;> rfl
      · cases hto : st.indentTo col alt with
        | error e => simp [hto] at h
        | ok st' =>
          rw [hto] at h
          obtain ⟨k, hk, hread⟩ := lexFrom_readRest h hy hgo
          refine ⟨k + 1, by omega, fun fuel => ?_⟩
          rw [← hread fuel, ← Nat.add_assoc]
          have hc : c ≠ '#' ∧ c ≠ '\n' := by
            refine ⟨by simpa using hhash, ?_⟩
            rintro rfl
            simp [LexState.readRest, pieces_feed] at h
          simp [lexFrom, hindent, hc, hto]

/-! ## Several lines -/

/-- The text of lines, each with its line feed. -/
def feedLines (ls : List (List Char)) : List Char := ls.flatMap (· ++ ['\n'])

/-- **Lines are read one after the other.** -/
theorem lexFrom_readLines {ls : List (List Char)} {p : Bool × LexState} {q : Bool × LexState}
    (h : LexState.readLines p ls = some q) {r : List Char} (hgo : q.1 = true → r ≠ []) :
    ∃ k ≤ 2 * (feedLines ls).length, ∀ fuel,
      lexFrom (fuel + k) (!p.1) p.2 (feedLines ls ++ r) = lexFrom fuel (!q.1) q.2 r := by
  induction ls generalizing p with
  | nil =>
    obtain rfl := Option.some.inj h
    exact ⟨0, by simp, fun fuel => rfl⟩
  | cons l ls ih =>
    obtain ⟨p', hp', hrest⟩ := Option.bind_eq_some_iff.mp h
    obtain ⟨q', hq', rfl⟩ := Option.map_eq_some_iff.mp hp'
    obtain ⟨k', hk', hread'⟩ := ih hrest
    have hgo' : GoesOn q' ('\n' :: (feedLines ls ++ r)) := by
      intro hopen
      cases ls with
      | nil =>
        obtain rfl := Option.some.inj hrest
        simpa [feedLines] using hgo hopen
      | cons l ls => simp [feedLines]
    obtain ⟨k, hk, hread⟩ := lexFrom_readTo hq' (.inr ⟨_, rfl⟩) hgo'
    refine ⟨k' + k, ?_, fun fuel => ?_⟩
    · simp only [feedLines, List.flatMap_cons, List.length_append, List.length_singleton] at hk' ⊢
      omega
    · have hsplit : feedLines (l :: ls) ++ r = l ++ '\n' :: (feedLines ls ++ r) := by
        simp [feedLines]
      rw [hsplit, ← Nat.add_assoc, hread, after, hread']

/-- The tokens of what was read. -/
def Lexed.tokens (x : Lexed) : List Token := x.lexemes.map (·.token)

namespace LexState

/-- The tokens so far, in their order. -/
def tokens (st : LexState) : List Token := (st.lexemes.map (·.token)).reverse

/-- The tokens behind the last line. -/
def closers (st : LexState) : List Token :=
  List.replicate (st.indents.length - 1) .dedent ++ [.finish]

theorem finish_tokens (st : LexState) : (lexFrom.finish st).fault = none ∧
    (lexFrom.finish st).tokens = st.tokens ++ st.closers := by
  have hclose (ps : List (Nat × Nat)) (st : LexState) :
      (ps.foldl (fun st _ => st.push .dedent) st).tokens =
        st.tokens ++ List.replicate ps.length .dedent := by
    induction ps generalizing st with
    | nil => simp
    | cons p ps ih =>
      rw [List.foldl_cons, ih, List.length_cons, List.replicate_succ]
      simp [tokens, push]
  refine ⟨rfl, ?_⟩
  have hpush (st : LexState) : ((st.push .finish).stop none).tokens = st.tokens ++ [.finish] := by
    simp [tokens, Lexed.tokens, push, stop]
  rw [lexFrom.finish, hpush, hclose, closers, List.length_drop, List.append_assoc]

end LexState

/-- The lines of a text between its line feeds: a line feed at the end opens no further line. -/
def linesOf : List Char → List (List Char)
  | [] => []
  | c :: r => if c == '\n' then [] :: linesOf r else pushFront c (linesOf r)

/-- The lines of a source. -/
def sourceLines (cs : List Char) : List (List Char) := linesOf (normalizeFeeds cs)

/-- A text is cut into lines: each has its line feed but the last, which need not have one. -/
def IsCutInto (cs : List Char) (rows : List (List Char)) : Prop :=
  cs = feedLines rows ∨ ∃ ls l, l ≠ [] ∧ rows = ls ++ [l] ∧ cs = feedLines ls ++ l

/-- A text is cut into its lines. -/
theorem isCutInto_linesOf (cs : List Char) : IsCutInto cs (linesOf cs) := by
  induction cs with
  | nil => exact .inl rfl
  | cons c r ih =>
    unfold linesOf
    split_ifs with hc
    · obtain rfl := eq_of_beq hc
      rcases ih with ih | ⟨ls, l, hl, hls, hr⟩
      · exact .inl (by conv_lhs => rw [ih]
                       simp [feedLines])
      · exact .inr ⟨[] :: ls, l, hl, by simp [hls], by simp [hr, feedLines]⟩
    · rcases ih with ih | ⟨ls, l, hl, hls, hr⟩
      · cases hls : linesOf r with
        | nil =>
          rw [hls] at ih
          exact .inr ⟨[], [c], by simp, rfl, by simp [ih, feedLines]⟩
        | cons l ls =>
          rw [hls] at ih
          exact .inl (by simp [pushFront, ih, feedLines])
      · cases ls with
        | nil => exact .inr ⟨[], c :: l, by simp, by simp [hls, pushFront], by simp [hr, feedLines]⟩
        | cons l' ls =>
          exact .inr ⟨(c :: l') :: ls, l, hl, by simp [hls, pushFront], by simp [hr, feedLines]⟩

/-- **A source is read line by line.** If the lines that it is cut into can be read one after the
other, and the last one leaves nothing open, then it has no fault, and its tokens are those of the
lines. -/
theorem lex_of_readLines {s : String} {rows : List (List Char)} {st : LexState}
    (hrows : IsCutInto (normalizeFeeds s.toList) rows)
    (h : LexState.readLines (false, {}) rows = some (false, st)) :
    (lex s).fault = none ∧ (lex s).tokens = st.tokens ++ st.closers := by
  rw [lex]
  generalize normalizeFeeds s.toList = cs at hrows
  rcases hrows with hcs | ⟨ls, l, hl, hls, hcs⟩
  · obtain ⟨k, hk, hread⟩ := lexFrom_readLines h (r := []) (by simp)
    simp only [List.append_nil, ← hcs, Bool.not_false] at hread
    rw [← hcs] at hk
    obtain ⟨j, hj⟩ : ∃ j, 2 * cs.length + 2 = j + 1 + k := ⟨2 * cs.length + 1 - k, by omega⟩
    have hend : lexFrom (j + 1) true st [] = lexFrom.finish st := by simp [lexFrom, measureIndent]
    rw [hj, hread, hend]
    exact st.finish_tokens
  · rw [hls, LexState.readLines, List.foldlM_append] at h
    obtain ⟨p, hp, hlast⟩ := Option.bind_eq_some_iff.mp h
    obtain ⟨p', hp', hnil⟩ := Option.bind_eq_some_iff.mp hlast
    obtain rfl := Option.some.inj hnil
    obtain ⟨⟨inside, st'⟩, hq, hst⟩ := Option.map_eq_some_iff.mp hp'
    obtain ⟨rfl, rfl⟩ := Prod.mk.inj hst
    obtain ⟨k, hk, hread⟩ := lexFrom_readLines hp (r := l) (fun _ => hl)
    obtain ⟨k', hk', hread'⟩ := lexFrom_readTo hq (.inl rfl) (by simp [GoesOn])
    rw [List.append_nil] at hread'
    simp only [Bool.not_false] at hread
    obtain ⟨j, hj⟩ : ∃ j, 2 * cs.length + 2 = j + k' + k :=
      ⟨2 * cs.length + 2 - k' - k, by rw [hcs, List.length_append]; omega⟩
    have hpos : 0 < l.length := List.length_pos_of_ne_nil hl
    rw [hj, hcs, hread, hread']
    exact st'.finish_tokens

end Facade.Syntax
