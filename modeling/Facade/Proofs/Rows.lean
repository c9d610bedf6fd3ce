import Facade.Proofs.Indenting

/-!
# Sources as rows

The lines of a source fall into rows: a row goes on while a literal is open. A text is a source if and
only if its rows can be read one by one, and leave nothing open.

* `rowsFrom`: the rows of lines.
* `readTo_append_feed`: a row that can be read ends with its line.
* `exists_pieces`, `exists_readTo`: reading without fault is reading a row, and going on behind it.
* `readsWhole_rowsFrom`: the rows of a source are read one by one.
-/

namespace Facade.Syntax

open Text

/-! ## Lines as one text -/

theorem feedLines_append (ls ls' : List (List Char)) :
    feedLines (ls ++ ls') = feedLines ls ++ feedLines ls' :=
  List.flatMap_append

theorem joinFeeds_cons {ls : List (List Char)} (l : List Char) (hne : ls ≠ []) :
    joinFeeds (l :: ls) = l ++ '\n' :: joinFeeds ls := by
  cases ls with
  | nil => exact absurd rfl hne
  | cons => rfl

theorem joinFeeds_concat (ls : List (List Char)) (l : List Char) :
    joinFeeds (ls ++ [l]) = feedLines ls ++ l := by
  induction ls with
  | nil => rfl
  | cons l' ls ih =>
    rw [List.cons_append, joinFeeds_cons l' (by simp), ih]
    simp [feedLines]

theorem joinFeeds_append {ls ls' : List (List Char)} (h : ls ≠ []) (h' : ls' ≠ []) :
    joinFeeds (ls ++ ls') = joinFeeds ls ++ '\n' :: joinFeeds ls' := by
  induction ls with
  | nil => exact absurd rfl h
  | cons l ls ih =>
    cases ls with
    | nil => exact joinFeeds_cons l h'
    | cons l₁ ls =>
      rw [List.cons_append, joinFeeds_cons l (by simp), joinFeeds_cons l (by simp), ih (by simp),
        List.append_assoc, List.cons_append]

theorem feed_joinFeeds {row : List (List Char)} (hne : row ≠ []) :
    joinFeeds row ++ ['\n'] = feedLines row := by
  obtain rfl | ⟨ls, l, rfl⟩ := List.eq_nil_or_concat row
  · exact absurd rfl hne
  · rw [List.concat_eq_append, joinFeeds_concat, feedLines_append]
    simp [feedLines]

/-- Lines that are taken together are the same lines. -/
theorem feedLines_rows {rows : List (List (List Char))} (hne : ∀ row ∈ rows, row ≠ []) :
    feedLines (rows.map joinFeeds) = feedLines rows.flatten := by
  induction rows with
  | nil => rfl
  | cons row rows ih =>
    rw [List.flatten_cons, feedLines_append, ← ih fun r hr => hne r (List.mem_cons_of_mem _ hr),
      ← feed_joinFeeds (hne row List.mem_cons_self)]
    rfl

theorem IsCutInto.rows {cs : List Char} {rows : List (List (List Char))}
    (h : IsCutInto cs rows.flatten) (hne : ∀ row ∈ rows, row ≠ []) :
    IsCutInto cs (rows.map joinFeeds) := by
  rcases h with h | ⟨ls, l, hl, hls, h⟩
  · exact .inl (h.trans (feedLines_rows hne).symm)
  obtain rfl | ⟨rs, row, rfl⟩ := List.eq_nil_or_concat rows
  · simp at hls
  rw [List.concat_eq_append] at hls hne ⊢
  obtain hrow | ⟨init, l', rfl⟩ := List.eq_nil_or_concat row
  · exact absurd hrow (hne row (by simp))
  have hsplit : (rs.flatten ++ init) ++ [l'] = ls ++ [l] := by simpa using hls
  obtain ⟨rfl, hlast⟩ := List.append_inj' hsplit rfl
  obtain rfl := (List.cons.inj hlast).1
  rw [List.concat_eq_append] at hne ⊢
  refine .inr ⟨rs.map joinFeeds, joinFeeds (init ++ [l']), ?_, by simp, ?_⟩
  · simp [joinFeeds_concat, hl]
  · rw [h, feedLines_append, feedLines_rows fun r hr => hne r (by simp [hr]), joinFeeds_concat,
      List.append_assoc]

/-! ## Rows -/

/-- Whether lines can be read one by one and leave nothing open. -/
def readsWhole (ls : List (List Char)) : Bool :=
  (LexState.readLines (false, {}) ls).any fun q => !q.1

theorem exists_of_readsWhole {ls : List (List Char)} (h : readsWhole ls = true) :
    ∃ st, LexState.readLines (false, {}) ls = some (false, st) := by
  unfold readsWhole at h
  rcases hst : LexState.readLines (false, {}) ls with _ | ⟨_ | _, st⟩
  · simp [hst] at h
  · exact ⟨st, rfl⟩
  · simp [hst] at h

/-- Lines in rows: each row has as many lines as it takes to read it behind those before it. `pending`
are lines in which a literal is still open. -/
def rowsFrom (p : Bool × LexState) (pending : List (List Char)) :
    List (List Char) → List (List (List Char))
  | [] => if pending = [] then [] else [pending]
  | l :: ls =>
    match LexState.readLine p (joinFeeds (pending ++ [l])) with
    | some q => (pending ++ [l]) :: rowsFrom q [] ls
    | none => rowsFrom p (pending ++ [l]) ls

theorem flatten_rowsFrom (p : Bool × LexState) (pending ls : List (List Char)) :
    (rowsFrom p pending ls).flatten = pending ++ ls := by
  induction ls generalizing p pending with
  | nil =>
    unfold rowsFrom
    split_ifs with h <;> simp [h]
  | cons l ls ih =>
    unfold rowsFrom
    cases LexState.readLine p (joinFeeds (pending ++ [l])) <;> simp [ih]

theorem ne_nil_of_mem_rowsFrom {p : Bool × LexState} {pending ls row : List (List Char)}
    (h : row ∈ rowsFrom p pending ls) : row ≠ [] := by
  induction ls generalizing p pending with
  | nil =>
    unfold rowsFrom at h
    split_ifs at h with hpending
    · cases h
    · rwa [List.mem_singleton.mp h]
  | cons l ls ih =>
    unfold rowsFrom at h
    cases hread : LexState.readLine p (joinFeeds (pending ++ [l])) with
    | none =>
      rw [hread] at h
      exact ih h
    | some q =>
      rw [hread] at h
      rcases List.mem_cons.mp h with rfl | h
      · simp
      · exact ih h

/-! ## Where a row ends -/

/-- A line feed behind the pieces of a row is not part of it. -/
theorem pieces_append_feed {n n' : Nat} {l : List Char} {x : List Piece × Bool}
    (h : pieces n l = some x) (r : List Char) : pieces n' (l ++ '\n' :: r) = none := by
  induction n generalizing l x n' with
  | zero => cases h
  | succ n ih =>
    cases n' with
    | zero => rfl
    | succ k =>
    cases l with
    | nil => exact pieces_feed (k + 1) r
    | cons c t =>
      simp only [List.cons_append, pieces] at h ⊢
      split_ifs at h with hspace hhash hfeed hslash
      · rw [if_pos hspace]
        exact ih h
      · rw [if_neg hspace, if_pos hhash, if_pos (by simp)]
      · obtain ⟨rfl, rfl⟩ : c = '\\' ∧ t = [] := by simpa using hslash
        rw [piece?_layout (by decide)]
        rfl
      · obtain ⟨⟨p, r'⟩, hpiece, hrest⟩ := Option.bind_eq_some_iff.mp h
        obtain ⟨x', hx', rfl⟩ := Option.map_eq_some_iff.mp hrest
        have happend := piece?_append (ends_newline r) hpiece
        rw [List.cons_append] at happend
        rw [if_neg hspace, if_neg hhash, if_neg (by simp), happend, Option.bind_some, ih hx']
        rfl

/-- A line feed that no literal holds is not read. -/
theorem readTo_feed {inside : Bool} {l r : List Char} (st : LexState)
    (h : ∀ n, pieces n ((if inside then l else (measureIndent 0 0 l).2.2) ++ '\n' :: r) = none) :
    st.readTo inside (l ++ '\n' :: r) = none := by
  cases inside with
  | true =>
    show st.readRest (l ++ '\n' :: r) = none
    rw [LexState.readRest, show pieces _ (l ++ '\n' :: r) = none from h _, Option.bind_none]
  | false =>
    have hmeasure : measureIndent 0 0 (l ++ '\n' :: r) = _ := measureIndent_append (.inl (.inr ⟨r, rfl⟩))
    simp only [LexState.readTo, Bool.false_eq_true, if_false] at h ⊢
    rw [hmeasure]
    have hrest (c : Char) (t : List Char)
        (ht : (measureIndent 0 0 l).2.2 ++ '\n' :: r = c :: t) (st' : LexState) :
        st'.readRest (c :: t) = none := by
      rw [LexState.readRest, ← ht, h, Option.bind_none]
    rcases ht : (measureIndent 0 0 l).2.2 ++ '\n' :: r with _ | ⟨c, t⟩
    · simp at ht
    · have hfeed : c == '#' → '\n' ∈ t := by
        intro hc
        have hmem : '\n' ∈ c :: t := by simp [← ht]
        rcases List.mem_cons.mp hmem with rfl | hmem
        · simp at hc
        · exact hmem
      dsimp only
      split_ifs with hc hmem
      · rfl
      · exact absurd (hfeed hc) hmem
      · split
        · exact hrest c t ht _
        · rfl

/-- **A row that can be read ends with its line.** -/
theorem readTo_append_feed {inside : Bool} {st : LexState} {l : List Char} {q : Bool × LexState}
    (h : st.readTo inside l = some q) (r : List Char) : st.readTo inside (l ++ '\n' :: r) = none := by
  refine readTo_feed st fun n => ?_
  have hpieces {st : LexState} {l : List Char} (h : st.readRest l = some q) (n : Nat) :
      pieces n (l ++ '\n' :: r) = none := by
    obtain ⟨x, hx, -⟩ := Option.bind_eq_some_iff.mp h
    exact pieces_append_feed hx r
  cases inside with
  | true => exact hpieces h n
  | false =>
    simp only [LexState.readTo, Bool.false_eq_true, if_false] at h ⊢
    rcases hm : measureIndent 0 0 l with ⟨col, alt, _ | ⟨c, t⟩⟩
    · exact pieces_feed n r
    · rw [hm] at h
      simp only at h ⊢
      split_ifs at h with hhash hfeed
      · obtain rfl := eq_of_beq hhash
        cases n <;> simp [pieces, isSpace]
      · cases hto : st.indentTo col alt with
        | error e => simp [hto] at h
        | ok st' =>
          rw [hto] at h
          exact hpieces h n

/-- A row does not end with a line feed. -/
theorem readTo_concat_feed (inside : Bool) (st : LexState) (l : List Char) :
    st.readTo inside (l ++ ['\n']) = none := by
  refine readTo_feed st fun n => ?_
  generalize (if inside then l else (measureIndent 0 0 l).2.2) = m
  cases h : pieces n (m ++ ['\n']) with
  | none => rfl
  | some x =>
    have hblank : ∀ c ∈ ['\n'], isBlank c = true := by simp; decide
    exact absurd (List.mem_singleton_self _) (pieces_of_append hblank h (Nat.lt_succ_self _)).2

/-- The lines of a row are found as one. -/
theorem rowsFrom_row {p q : Bool × LexState} {ls : List (List Char)} (hne : ls ≠ [])
    (pending rest : List (List Char))
    (h : LexState.readLine p (joinFeeds (pending ++ ls)) = some q) :
    rowsFrom p pending (ls ++ rest) = (pending ++ ls) :: rowsFrom q [] rest := by
  induction ls generalizing pending with
  | nil => exact absurd rfl hne
  | cons l ls ih =>
    rw [List.cons_append, rowsFrom]
    cases ls with
    | nil =>
      rw [h]
      rfl
    | cons l' ls =>
      -- The lines in front of the last one cannot be read.
      have hnone : LexState.readLine p (joinFeeds (pending ++ [l])) = none := by
        cases hfront : LexState.readLine p (joinFeeds (pending ++ [l])) with
        | none => rfl
        | some q' =>
          obtain ⟨q₁, hq₁, -⟩ := Option.map_eq_some_iff.mp hfront
          have hsplit : joinFeeds (pending ++ l :: l' :: ls) =
              joinFeeds (pending ++ [l]) ++ '\n' :: joinFeeds (l' :: ls) := by
            rw [List.append_cons, joinFeeds_append (by simp) (by simp)]
          rw [hsplit, LexState.readLine, readTo_append_feed hq₁] at h
          cases h
      have hmore := ih (by simp) (pending ++ [l]) (by simpa using h)
      rw [hnone]
      simpa using hmore

/-! ## Reading without fault -/

theorem fault_literal {marks cs : List Char} (h : literal? marks cs = none) (fuel : Nat)
    (st : LexState) : (lexFrom.literal fuel st marks cs).fault = some .malformed := by
  have hread : readLiteral? marks cs = none := by simpa [literal?] using h
  simp only [lexFrom.literal, hread]
  rfl

section Operands

variable {c : Char} {r : List Char} {fuel : Nat} {st : LexState} (hlayout : isLayout c = false)
include hlayout

/-- Where no piece stands, or one that closes a bracket which is not open, reading stops. -/
theorem fault_of_no_piece
    (h : ∀ p r' st', piece? (c :: r) = some (p, r') → st.take? p ≠ some st') :
    (lexFrom (fuel + 1) false st (c :: r)).fault = some .malformed := by
  simp only [piece?, hlayout, Bool.false_eq_true, if_false] at h
  split_ifs at h with hstart hmarks hquote hdigit
  · rw [lexFrom_word hlayout fuel st hstart, if_pos hmarks]
    refine fault_literal ?_ fuel st
    rcases hl : literal? _ _ with _ | ⟨p, r'⟩
    · rfl
    · obtain ⟨⟨t, read, r''⟩, -, hp⟩ := Option.map_eq_some_iff.mp hl
      obtain ⟨rfl, rfl⟩ := Prod.mk.inj hp
      exact absurd rfl (h _ _ _ hl)
  · exact absurd rfl (h _ _ _ rfl)
  · have hq : IsQuote c := by simpa [IsQuote] using hquote
    rw [lexFrom_quote hq]
    refine fault_literal ?_ fuel st
    rcases hl : literal? _ _ with _ | ⟨p, r'⟩
    · rfl
    · obtain ⟨⟨t, read, r''⟩, -, hp⟩ := Option.map_eq_some_iff.mp hl
      obtain ⟨rfl, rfl⟩ := Prod.mk.inj hp
      exact absurd rfl (h _ _ _ hl)
  · have hnone : readNumber? (c :: r) = none := by
      rcases hn : readNumber? (c :: r) with _ | ⟨n, rest⟩
      · rfl
      · exact absurd rfl (h _ _ _ (by rw [hn]; rfl))
    simp only [isLayout, List.contains_eq_mem, List.mem_cons, List.not_mem_nil, or_false,
      decide_eq_false_iff_not, not_or] at hlayout
    obtain ⟨hspace, htab, hfeed, hnl, -, hhash, hslash⟩ := hlayout
    simp only [hslash, IsEmpty.forall_iff, implies_true, imp_false, lexFrom, hstart, hspace, htab,
      hfeed, beq_iff_eq, Bool.or_eq_true, or_self, if_false, hquote, hdigit, hnone, if_true,
      Bool.false_eq_true]
    rfl
  · simp only [isLayout, List.contains_eq_mem, List.mem_cons, List.not_mem_nil, or_false,
      decide_eq_false_iff_not, not_or] at hlayout
    obtain ⟨hspace, htab, hfeed, hnl, -, hhash, hslash⟩ := hlayout
    have hblank : (c == ' ' || c == '\t' || c == '\x0c') = false := by simp [hspace, htab, hfeed]
    simp only [hslash, IsEmpty.forall_iff, implies_true, imp_false, lexFrom, hstart, hblank,
      Bool.false_eq_true, if_false, hquote, hdigit]
    rcases hsign : readSign? (c :: r) with _ | ⟨s, rest⟩
    · rfl
    have htake (st' : LexState) : st.take? (.sign s c) ≠ some st' :=
      h _ _ st' (by rw [hsign]; rfl)
    simp only [LexState.take?] at htake ⊢
    split_ifs at htake ⊢ with hopen hclose
    · exact absurd rfl (htake _)
    · have hpush : (st.push (.sign s)).brackets = st.brackets := rfl
      rw [hpush]
      cases hb : st.brackets with
      | nil => rfl
      | cons o os =>
        simp only [hb] at htake ⊢
        split_ifs at htake ⊢ with hmatch
        · exact absurd rfl (htake _)
        · rfl
    · exact absurd rfl (htake _)

/-- **One step of reading without fault** takes a piece. -/
theorem exists_piece (h : (lexFrom (fuel + 1) false st (c :: r)).fault = none) :
    ∃ p r' st', piece? (c :: r) = some (p, r') ∧ st.take? p = some st' ∧
      (lexFrom fuel false st' r').fault = none := by
  by_cases hp : ∃ p r' st', piece? (c :: r) = some (p, r') ∧ st.take? p = some st'
  · obtain ⟨p, r', st', hpiece, htake⟩ := hp
    exact ⟨p, r', st', hpiece, htake, by rwa [lexFrom_piece hpiece htake] at h⟩
  · rw [fault_of_no_piece hlayout fun p r' st' hpiece htake => hp ⟨p, r', st', hpiece, htake⟩] at h
    cases h

end Operands

/-- What stands behind the margin of a line. -/
theorem measureIndent_front (col alt : Nat) (cs : List Char) :
    ∃ m, cs = m ++ (measureIndent col alt cs).2.2 ∧
      ∀ r, r = [] ∨ r.head? = (measureIndent col alt cs).2.2.head? → measureIndent col alt (m ++ r) =
        ((measureIndent col alt cs).1, (measureIndent col alt cs).2.1, r) := by
  fun_induction measureIndent col alt cs with
  | case1 col alt r ih =>
    obtain ⟨m, hm, hsame⟩ := ih
    exact ⟨' ' :: m, congrArg _ hm, fun r hr => hsame r hr⟩
  | case2 col alt r ih =>
    obtain ⟨m, hm, hsame⟩ := ih
    exact ⟨'\t' :: m, congrArg _ hm, fun r hr => hsame r hr⟩
  | case3 col alt r ih =>
    obtain ⟨m, hm, hsame⟩ := ih
    exact ⟨'\x0c' :: m, congrArg _ hm, fun r hr => hsame r hr⟩
  | case4 col alt cs hspace htab hfeed =>
    refine ⟨[], rfl, fun r hr => ?_⟩
    cases r with
    | nil => rfl
    | cons c r =>
      cases cs with
      | nil => simp at hr
      | cons d cs =>
        obtain rfl : c = d := by simpa using hr
        refine measureIndent_flush ?_ col alt r
        have hc : c ≠ ' ' ∧ c ≠ '\t' ∧ c ≠ '\x0c' :=
          ⟨fun h => hspace cs (by rw [h]), fun h => htab cs (by rw [h]), fun h => hfeed cs (by rw [h])⟩
        simp [isSpace, hc]

section Front

variable {z : List Char}

theorem literal?_front {marks s r : List Char} {q : Char} {p : Piece}
    (h : literal? marks (q :: (s ++ z)) = some (p, r ++ z)) :
    literal? marks (q :: s) = some (p, r) := by
  obtain ⟨u, hu, hlocal⟩ := literal?_local h
  have hs : s = u ++ q :: r := by
    rw [← List.cons_append, ← List.append_assoc] at hu
    exact List.append_cancel_right hu
  rw [hs]
  refine hlocal r fun hr => ?_
  cases r with
  | nil => cases hr
  | cons d r => exact hr

/-- A piece in front of the end of a line is read without what stands behind it. -/
theorem piece?_front (hz : Ends z) {c : Char} {t r : List Char} {p : Piece}
    (h : piece? (c :: (t ++ z)) = some (p, r ++ z)) : piece? (c :: t) = some (p, r) := by
  rw [piece?_append_eq hz] at h
  simp only [piece?] at h ⊢
  split_ifs at h ⊢ with hlayout hstart hmarks hquote hdigit
  · obtain ⟨q, s, hrest, -⟩ := marksLiteral_cons hmarks
    rw [hrest] at h ⊢
    exact literal?_front h
  · obtain ⟨rfl, hr⟩ := Prod.mk.inj (Option.some.inj h)
    rw [List.append_cancel_right hr]
  · exact literal?_front h
  · obtain ⟨⟨n, rest⟩, hread, hp⟩ := Option.map_eq_some_iff.mp h
    obtain ⟨rfl, hr⟩ := Prod.mk.inj hp
    rw [hread, ← List.append_cancel_right hr]
    rfl
  · obtain ⟨⟨n, rest⟩, hread, hp⟩ := Option.map_eq_some_iff.mp h
    obtain ⟨rfl, hr⟩ := Prod.mk.inj hp
    rw [hread, ← List.append_cancel_right hr]
    rfl

end Front

/-- A character that no sign opens with. -/
theorem readSign?_of_no_sign {c : Char} (h : c ∉ signs1)
    (hlong : ∀ s ∈ signs3 ++ signs2, s.toList.head? ≠ some c) (r : List Char) :
    readSign? (c :: r) = none := by
  have hnot {l : List String} (hl : ∀ s ∈ l, s.toList.head? ≠ some c) (n : Nat) :
      l.contains (String.ofList ((c :: r).take (n + 1))) = false := by
    rw [List.contains_eq_mem, decide_eq_false_iff_not]
    exact fun hmem => hl _ hmem (by simp)
  have hthree := hnot (fun s hs => hlong s (List.mem_append_left _ hs)) 2
  have htwo := hnot (fun s hs => hlong s (List.mem_append_right _ hs)) 1
  simp only [readSign?, hthree, htwo, Bool.false_eq_true, if_false]
  simp [h]

/-- Reading stops at a backslash that does not stand at the end of a line, and at a carriage return. -/
theorem fault_of_layout {fuel : Nat} {st : LexState} {c : Char} {r : List Char}
    (h : c = '\r' ∨ c = '\\' ∧ r.head? ≠ some '\n') :
    (lexFrom (fuel + 1) false st (c :: r)).fault = some .malformed := by
  rcases h with rfl | ⟨rfl, hr⟩
  · have hstart : isIdentifierStart '\r' = false := isIdentifierStart_of_ascii (by decide)
    have hsign := readSign?_of_no_sign (c := '\r') (by decide) (by decide) r
    simp [lexFrom, hstart, hsign]
    rfl
  · have hstart : isIdentifierStart '\\' = false := isIdentifierStart_of_ascii (by decide)
    have hsign := readSign?_of_no_sign (c := '\\') (by decide) (by decide) r
    cases r with
    | nil =>
      simp [lexFrom, hstart, hsign]
      rfl
    | cons d r =>
      have hd : d ≠ '\n' := by simpa using hr
      simp [lexFrom, hstart, hsign, hd]
      rfl

/-- The front of a text that is read without fault holds pieces up to the end of a line. -/
theorem exists_pieces {fuel : Nat} {st : LexState} {cs : List Char}
    (h : (lexFrom fuel false st cs).fault = none) :
    ∃ l y x st', cs = l ++ y ∧ EndsLine y ∧ (∀ n, l.length < n → pieces n l = some x) ∧
      x.1.foldlM LexState.take? st = some st' ∧ GoesOn (st'.endLine x.2) y ∧
      ∃ k < fuel, (after k (st'.endLine x.2) y).fault = none := by
  induction fuel generalizing st cs with
  | zero => simp [lexFrom, LexState.stop] at h
  | succ fuel ih =>
    have hempty (n : Nat) (hn : ([] : List Char).length < n) : pieces n [] = some ([], false) := by
      obtain ⟨k, rfl⟩ := Nat.exists_eq_succ_of_ne_zero (Nat.ne_of_gt hn)
      rfl
    have hstop (fuel : Nat) (st : LexState) (hopen : st.brackets.isEmpty = false) :
        (lexFrom fuel false st []).fault ≠ none := by
      cases fuel <;> simp [lexFrom, LexState.stop, hopen]
    cases cs with
    | nil =>
      cases hopen : st.brackets.isEmpty with
      | false => exact absurd h (hstop _ st hopen)
      | true =>
        refine ⟨[], [], ([], false), st, rfl, .inl rfl, hempty, rfl, ?_, 0, Nat.succ_pos _, rfl⟩
        simp [GoesOn, LexState.endLine, hopen]
    | cons c r =>
    by_cases hspace : isSpace c = true
    · have hread : lexFrom (fuel + 1) false st (c :: r) = lexFrom fuel false st r := by
        have hc := hspace
        simp only [isSpace, Bool.or_eq_true, beq_iff_eq] at hc
        rcases hc with (rfl | rfl) | rfl <;> simp [lexFrom]
      obtain ⟨l, y, x, st', rfl, hy, hpieces, htake, hgo, k, hk, hrest⟩ := ih (hread ▸ h)
      refine ⟨c :: l, y, x, st', rfl, hy, fun n hn => ?_, htake, hgo, k, by omega, hrest⟩
      obtain ⟨j, rfl⟩ := Nat.exists_eq_succ_of_ne_zero (Nat.ne_of_gt (Nat.zero_lt_of_lt hn))
      rw [pieces, if_pos hspace]
      exact hpieces j (by simpa using hn)
    by_cases hnl : c = '\n'
    · subst hnl
      refine ⟨[], '\n' :: r, ([], false), st, rfl, .inr ⟨r, rfl⟩, hempty, rfl, ?_, fuel,
        Nat.lt_succ_self _, ?_⟩
      · intro hgoes hr
        obtain rfl : r = [] := hr
        cases hopen : st.brackets.isEmpty with
        | true => simp [LexState.endLine, hopen] at hgoes
        | false =>
          simp only [lexFrom, hopen, Bool.false_eq_true, if_false] at h
          exact hstop fuel { st with line := st.line + 1 } hopen h
      · cases hopen : st.brackets.isEmpty with
        | true =>
          simp only [lexFrom, hopen, if_true] at h
          simp only [after, LexState.endLine, hopen, if_true, Bool.false_eq_true, if_false]
          exact h
        | false =>
          simp only [lexFrom, hopen, Bool.false_eq_true, if_false] at h
          simp only [after, LexState.endLine, hopen, Bool.false_eq_true, if_false]
          exact h
    by_cases hhash : c = '#'
    · subst hhash
      rw [lexFrom] at h
      obtain ⟨l, y, x, st', hsplit, hy, hpieces, htake, hgo, k, hk, hrest⟩ := ih h
      -- What a comment leaves of the text begins with the end of the line.
      obtain rfl : l = [] := by
        cases l with
        | nil => rfl
        | cons d l =>
          have hd : d = '\n' := by
            have := List.head?_dropWhile_not (· != '\n') r
            rw [hsplit] at this
            simpa using this
          have := hpieces _ (Nat.lt_succ_self _)
          rw [hd, pieces_feed] at this
          cases this
      obtain rfl : x = ([], false) := by
        simpa using (hempty 1 (by simp)).symm.trans (hpieces 1 (by simp)) |>.symm
      refine ⟨'#' :: r.takeWhile (· != '\n'), y, ([], false), st', ?_, hy, fun n hn => ?_, htake, hgo,
        k, by omega, hrest⟩
      · rw [List.cons_append, ← List.nil_append y, ← hsplit, List.takeWhile_append_dropWhile]
      · obtain ⟨j, rfl⟩ := Nat.exists_eq_succ_of_ne_zero (Nat.ne_of_gt (Nat.zero_lt_of_lt hn))
        have hline : '\n' ∉ r.takeWhile (· != '\n') := fun hmem => by
          simpa using List.all_eq_true.mp List.all_takeWhile _ hmem
        simp [pieces, isSpace, hline]
    by_cases hlayout : isLayout c = true
    · have hc : c = '\r' ∨ c = '\\' := by
        simp only [isSpace, Bool.or_eq_true, beq_iff_eq, not_or] at hspace
        simpa [isLayout, hspace, hnl, hhash] using hlayout
      rcases hc with rfl | rfl
      · rw [fault_of_layout (.inl rfl)] at h
        cases h
      by_cases hr : r.head? = some '\n'
      · obtain ⟨r, rfl⟩ := List.head?_eq_some_iff.mp hr
        have hne : r.isEmpty = false := by
          cases r with
          | nil => simp [lexFrom, LexState.stop] at h
          | cons => rfl
        refine ⟨['\\'], '\n' :: r, ([], true), st, rfl, .inr ⟨r, rfl⟩, fun n hn => ?_, rfl, ?_, fuel,
          Nat.lt_succ_self _, ?_⟩
        · obtain ⟨j, rfl⟩ := Nat.exists_eq_succ_of_ne_zero (Nat.ne_of_gt (Nat.zero_lt_of_lt hn))
          rfl
        · intro _ hnil
          simp [show r = [] from hnil] at hne
        · simp only [lexFrom, hne, Bool.false_eq_true, if_false] at h
          exact h
      · rw [fault_of_layout (.inr ⟨rfl, hr⟩)] at h
        cases h
    · obtain ⟨p, r', st₁, hpiece, ht, hread⟩ := exists_piece (by simpa using hlayout) h
      obtain ⟨l, y, x, st', rfl, hy, hpieces, htake, hgo, k, hk, hrest⟩ := ih hread
      obtain ⟨d, hd⟩ := piece?_suffix hpiece
      rw [← List.append_assoc] at hd
      subst hd
      refine ⟨c :: (d ++ l), y, (p :: x.1, x.2), st', rfl, hy, fun n hn => ?_, ?_, hgo, k, by omega,
        hrest⟩
      · obtain ⟨j, rfl⟩ := Nat.exists_eq_succ_of_ne_zero (Nat.ne_of_gt (Nat.zero_lt_of_lt hn))
        have hslash : ¬ (c == '\\' && (d ++ l).isEmpty) = true := by
          simp only [Bool.and_eq_true, beq_iff_eq]
          rintro ⟨rfl, -⟩
          exact hlayout (by decide)
        have hhash' : ¬ (c == '#') = true := by simpa using hhash
        have hlen : l.length < j := by
          simp only [List.length_cons, List.length_append] at hn
          omega
        rw [pieces, if_neg hspace, if_neg hhash', if_neg hslash, piece?_front hy.ends hpiece,
          Option.bind_some, hpieces j hlen]
        rfl
      · rw [List.foldlM_cons, ht]
        exact htake

/-- **A text that is read without fault begins with a row.** -/
theorem exists_readTo {fuel : Nat} {inside : Bool} {st : LexState} {cs : List Char}
    (h : (lexFrom fuel (!inside) st cs).fault = none) :
    ∃ l y q, cs = l ++ y ∧ EndsLine y ∧ st.readTo inside l = some q ∧ GoesOn q y ∧
      ∃ k < fuel, (after k q y).fault = none := by
  have hrow {fuel : Nat} {st : LexState} {cs : List Char}
      (h : (lexFrom fuel false st cs).fault = none) :
      ∃ l y q, cs = l ++ y ∧ EndsLine y ∧ st.readRest l = some q ∧ GoesOn q y ∧
        ∃ k < fuel, (after k q y).fault = none := by
    obtain ⟨l, y, x, st', hcs, hy, hpieces, htake, hgo, hrest⟩ := exists_pieces h
    refine ⟨l, y, _, hcs, hy, ?_, hgo, hrest⟩
    rw [LexState.readRest, hpieces _ (Nat.lt_succ_self _), Option.bind_some, htake]
    rfl
  cases inside with
  | true => exact hrow h
  | false =>
    cases fuel with
    | zero => simp [lexFrom, LexState.stop] at h
    | succ fuel =>
    obtain ⟨m, hm, hfront⟩ := measureIndent_front 0 0 cs
    rcases hmeasure : measureIndent 0 0 cs with ⟨col, alt, r⟩
    rw [hmeasure] at hm hfront
    subst hm
    replace hfront (t : List Char) (ht : t = [] ∨ t.head? = r.head?) :
        measureIndent 0 0 (m ++ t) = (col, alt, t) := hfront t ht
    simp only [Bool.not_false, lexFrom, hmeasure] at h
    cases r with
    | nil =>
      refine ⟨m, [], (false, st), rfl, .inl rfl, ?_, by simp [GoesOn], 0, Nat.succ_pos _, rfl⟩
      have hm := hfront [] (.inl rfl)
      rw [List.append_nil] at hm
      simp [LexState.readTo, hm]
    | cons c r =>
    by_cases hnl : c = '\n'
    · subst hnl
      have hm := hfront [] (.inl rfl)
      rw [List.append_nil] at hm
      exact ⟨m, '\n' :: r, (false, st), rfl, .inr ⟨r, rfl⟩, by simp [LexState.readTo, hm],
        by simp [GoesOn], fuel, Nat.lt_succ_self _, h⟩
    by_cases hhash : c = '#'
    · subst hhash
      have hsplit := List.takeWhile_append_dropWhile (p := (· != '\n')) (l := r)
      have hline : '\n' ∉ r.takeWhile (· != '\n') := fun hmem => by
        simpa using List.all_eq_true.mp List.all_takeWhile _ hmem
      have hread : st.readTo false (m ++ '#' :: r.takeWhile (· != '\n')) = some (false, st) := by
        simp [LexState.readTo, hfront ('#' :: r.takeWhile (· != '\n')) (.inr rfl), hline]
      have hbehind : EndsLine (r.dropWhile (· != '\n')) := by
        have hhead := List.head?_dropWhile_not (· != '\n') r
        cases hdrop : r.dropWhile (· != '\n') with
        | nil => exact .inl rfl
        | cons d t =>
          rw [hdrop] at hhead
          exact .inr ⟨t, by simpa using hhead⟩
      refine ⟨m ++ '#' :: r.takeWhile (· != '\n'), r.dropWhile (· != '\n'), (false, st), ?_, hbehind,
        hread, by simp [GoesOn], fuel - 1, by omega, ?_⟩
      · rw [List.append_assoc, List.cons_append, hsplit]
      -- The comment leaves a line that ends at once.
      replace h : (lexFrom fuel true st (r.dropWhile (· != '\n'))).fault = none := h
      cases fuel with
      | zero => simp [lexFrom, LexState.stop] at h
      | succ fuel =>
        rcases hbehind with hbehind | ⟨t, hbehind⟩
        · rw [hbehind]
          rfl
        · rw [hbehind] at h ⊢
          simp only [lexFrom] at h
          exact h
    · cases hto : st.indentTo col alt with
      | error e => simp [hnl, hhash, hto, LexState.stop] at h
      | ok st' =>
        have hread : (lexFrom fuel false st' (c :: r)).fault = none := by
          simpa [hnl, hhash, hto] using h
        obtain ⟨l, y, q, hcs, hy, hrest, hgo, k, hk, hafter⟩ := hrow hread
        cases l with
        | nil =>
          rcases hy with rfl | ⟨r', rfl⟩
          · cases hcs
          · exact absurd (List.cons.inj hcs).1 hnl
        | cons d l =>
          obtain ⟨rfl, rfl⟩ := List.cons.inj hcs
          refine ⟨m ++ c :: l, y, q, by simp, hy, ?_, hgo, k, by omega, hafter⟩
          simp [LexState.readTo, hfront (c :: l) (.inr rfl), hhash, hto, hrest]

/-- The lines of a text in front of another line. -/
theorem linesOf_append_feed (l r : List Char) :
    linesOf (l ++ '\n' :: r) = splitFeeds l ++ linesOf r := by
  induction l with
  | nil => simp [linesOf, splitFeeds]
  | cons c l ih =>
    rw [List.cons_append, linesOf, splitFeeds, ih]
    split_ifs
    · rfl
    · cases hl : splitFeeds l with
      | nil => exact absurd hl (splitFeeds_ne_nil l)
      | cons => rfl

/-- The lines of a text that does not end with a line feed. -/
theorem linesOf_eq_splitFeeds {l : List Char} (hne : l ≠ []) (hend : ∀ m, l ≠ m ++ ['\n']) :
    linesOf l = splitFeeds l := by
  induction l with
  | nil => exact absurd rfl hne
  | cons c l ih =>
    cases l with
    | nil =>
      have hc : ¬ (c == '\n') = true := by
        rw [beq_iff_eq]
        rintro rfl
        exact hend [] rfl
      simp [linesOf, splitFeeds, hc, pushFront]
    | cons d l =>
      have hrest := ih (by simp) fun m hm => hend (c :: m) (by rw [hm]; rfl)
      rw [linesOf, splitFeeds, hrest]

/-- **The rows of a source are read one by one.** -/
theorem readLines_rowsFrom {fuel : Nat} {p : Bool × LexState} {cs : List Char}
    (hgo : p.1 = true → cs ≠ []) (h : (lexFrom fuel (!p.1) p.2 cs).fault = none) :
    ∃ st, LexState.readLines p ((rowsFrom p [] (linesOf cs)).map joinFeeds) = some (false, st) := by
  induction fuel using Nat.strong_induction_on generalizing p cs with
  | _ fuel ih =>
  by_cases hne : cs = []
  · subst hne
    cases hp : p.1 with
    | true => exact absurd rfl (hgo hp)
    | false => exact ⟨p.2, by rw [← hp]; rfl⟩
  obtain ⟨l, y, q, rfl, hy, hread, hgoes, k, hk, hafter⟩ := exists_readTo h
  have hline : LexState.readLine p (joinFeeds ([] ++ splitFeeds l)) = some (q.1, q.2.next) := by
    rw [List.nil_append, joinFeeds_splitFeeds, LexState.readLine, hread]
    rfl
  have hrow (rest : List (List Char)) := rowsFrom_row (splitFeeds_ne_nil l) [] rest hline
  have hfirst (rest : List (List Char)) : LexState.readLines p
      ((rowsFrom p [] (splitFeeds l ++ rest)).map joinFeeds) =
        LexState.readLines (q.1, q.2.next) ((rowsFrom (q.1, q.2.next) [] rest).map joinFeeds) := by
    rw [hrow, List.map_cons, LexState.readLines_cons, hline, Option.bind_some]
  rcases hy with rfl | ⟨r, rfl⟩
  · rw [List.append_nil] at hne ⊢
    have hend : ∀ m, l ≠ m ++ ['\n'] := by
      rintro m rfl
      rw [readTo_concat_feed] at hread
      cases hread
    have hdone : q.1 = false := by simpa [GoesOn] using hgoes
    rw [linesOf_eq_splitFeeds hne hend, ← List.append_nil (splitFeeds l), hfirst]
    exact ⟨q.2.next, by rw [← hdone]; rfl⟩
  · rw [linesOf_append_feed, hfirst]
    exact ih k hk hgoes hafter

/-- **The rows of a source are read one by one,** and nothing is left open. -/
theorem readsWhole_rowsFrom {s : String} (h : (lex s).fault = none) :
    readsWhole ((rowsFrom (false, {}) [] (sourceLines s.toList)).map joinFeeds) = true := by
  obtain ⟨st, hst⟩ := readLines_rowsFrom (p := (false, {})) (by simp) h
  rw [readsWhole, sourceLines, hst]
  rfl

end Facade.Syntax
