import Facade.Toml.Reader
import Mathlib.Data.List.Basic

/-!
# Texts that stand for themselves

Between quotes a text stands for itself if no character of it is a quote, a backslash or a control
character. Any other text is read as a shorter one, if it is read at all.

* `IsPlain`: a text that stands for itself between quotes.
* `readBasic_plain`, `readBasic_bounds`: what is read of a text on one line.
* `opensLong`: whether its quotes open a text over several lines.
* `IsCut`, `isCut_of_readText`: what is read of a text that is not plain.
* `joinFeeds_of_plain`: a text keeps its line ends if it is plain afterwards.
-/

namespace Facade.Toml

/-! ## Texts on one line -/

/-- Whether a character stands for itself between quotes. -/
def isPlain (c : Char) : Bool := c != '"' && c != '\\' && !isControl c

/-- A text that stands for itself between quotes. -/
def IsPlain (s : String) : Prop := s.toList.all isPlain = true

instance (s : String) : Decidable (IsPlain s) := inferInstanceAs (Decidable (_ = _))

theorem readBasic_cons {c : Char} (h : isPlain c = true) (cs : List Char) :
    readBasic false false (c :: cs) = (readBasic false false cs).map fun p => (c :: p.1, p.2) := by
  simp only [isPlain, Bool.and_eq_true, bne_iff_ne, Bool.not_eq_true'] at h
  obtain ⟨⟨hq, hb⟩, hc⟩ := h
  rw [readBasic.eq_def]
  split <;> simp_all

/-- A plain text reads back. -/
theorem readBasic_plain {cs : List Char} (h : cs.all isPlain = true) (rest : List Char) :
    readBasic false false (cs ++ '"' :: rest) = some (cs, rest) := by
  induction cs with
  | nil => rw [List.nil_append, readBasic.eq_def]; rfl
  | cons c cs ih =>
    rw [List.all_cons, Bool.and_eq_true] at h
    rw [List.cons_append, readBasic_cons h.1, ih h.2]
    rfl

theorem newline_notMem_of_scalar? {ds : List Char} {ch : Char} (h : scalar? ds = some ch) :
    '\n' ∉ ds := by
  simp only [scalar?, Option.bind_eq_bind, Option.bind_eq_some_iff] at h
  obtain ⟨n, hn, -⟩ := h
  generalize 0 = acc at hn
  induction ds generalizing acc with
  | nil => simp
  | cons d ds ih =>
    simp only [List.foldlM_cons, Option.bind_eq_bind, Option.bind_eq_some_iff] at hn
    obtain ⟨acc', hacc, hn⟩ := hn
    rw [List.mem_cons, not_or]
    refine ⟨?_, ih acc' hn⟩
    rintro rfl
    simp at hacc

theorem newline_ne_of_escape? {e ch : Char} (h : escape? e = some ch) : '\n' ≠ e := by
  rintro rfl
  simp [escape?] at h

/-- What is written for one character of a text, and the character. -/
def IsPiece (piece : List Char) (c : Char) : Prop :=
  '\n' ∉ piece ∧ (1 < piece.length ∨ piece = [c] ∧ isPlain c = true)

/-- A text on one line ends at once, or goes on with a piece for its first character. -/
theorem readBasic_cases {cs v r : List Char} (h : readBasic false false cs = some (v, r)) :
    cs = '"' :: r ∧ v = [] ∨ ∃ piece c cs' v', IsPiece piece c ∧ cs = piece ++ cs' ∧ v = c :: v' ∧
      readBasic false false cs' = some (v', r) := by
  rw [readBasic.eq_def] at h
  split at h
  · cases h
  · obtain ⟨rfl, rfl⟩ := Prod.mk.inj (Option.some.inj h)
    exact .inl ⟨rfl, rfl⟩
  · simp only [Option.bind_eq_bind, Option.bind_eq_some_iff] at h
    obtain ⟨c, hc, ⟨v', r'⟩, hread, hv⟩ := h
    obtain ⟨rfl, rfl⟩ := Prod.mk.inj (Option.some.inj hv)
    have hn := newline_notMem_of_scalar? hc
    exact .inr ⟨['\\', 'u', _, _, _, _], c, _, v', ⟨by simpa using hn, .inl (by simp)⟩, rfl, rfl, hread⟩
  · simp only [Option.bind_eq_bind, Option.bind_eq_some_iff] at h
    obtain ⟨c, hc, ⟨v', r'⟩, hread, hv⟩ := h
    obtain ⟨rfl, rfl⟩ := Prod.mk.inj (Option.some.inj hv)
    have hn := newline_notMem_of_scalar? hc
    exact .inr ⟨['\\', 'U', _, _, _, _, _, _, _, _], c, _, v', ⟨by simpa using hn, .inl (by simp)⟩, rfl,
      rfl, hread⟩
  · split at h
    · rename_i e rest _ _ _ c hc
      obtain ⟨⟨v', r'⟩, hread, hv⟩ := Option.map_eq_some_iff.mp h
      obtain ⟨rfl, rfl⟩ := Prod.mk.inj hv
      have hn := newline_ne_of_escape? hc
      exact .inr ⟨['\\', e], c, rest, v', ⟨by simpa using hn, .inl (by simp)⟩, rfl, rfl, hread⟩
    · cases h
  · rename_i c rest hq _ _ _
    simp only [Bool.false_and, Bool.false_eq_true, if_false, Bool.not_false, Bool.and_true] at h
    split at h
    · cases h
    rename_i hb
    split at h
    · cases h
    rename_i hctl
    obtain ⟨⟨v', r'⟩, hread, hv⟩ := Option.map_eq_some_iff.mp h
    obtain ⟨rfl, rfl⟩ := Prod.mk.inj hv
    have hplain : isPlain c = true := by simp_all [isPlain]
    refine .inr ⟨[c], c, rest, v', ⟨?_, .inr ⟨rfl, hplain⟩⟩, rfl, rfl, hread⟩
    rw [List.mem_singleton]
    rintro rfl
    exact absurd hplain (by decide)

/-- What a text on one line is read from: the text is shorter than that, unless it stands there as it
is. -/
theorem readBasic_bounds {cs v r : List Char} (h : readBasic false false cs = some (v, r)) :
    ∃ used, cs = used ++ '"' :: r ∧ '\n' ∉ used ∧
      (v.length < used.length ∨ v = used ∧ used.all isPlain = true) := by
  induction v generalizing cs with
  | nil =>
    rcases readBasic_cases h with ⟨rfl, -⟩ | ⟨_, _, _, _, _, _, hv, _⟩
    · exact ⟨[], rfl, by simp, .inr ⟨rfl, rfl⟩⟩
    · cases hv
  | cons c v ih =>
    rcases readBasic_cases h with ⟨-, hv⟩ | ⟨piece, c', cs', v', ⟨hn, hpiece⟩, rfl, hv, hread⟩
    · cases hv
    obtain ⟨rfl, rfl⟩ := List.cons.inj hv
    obtain ⟨used, rfl, hn', hle⟩ := ih hread
    refine ⟨piece ++ used, by simp, by simp [hn, hn'], ?_⟩
    rcases hpiece with hlong | ⟨rfl, hplain⟩
    · left
      rw [List.length_append, List.length_cons]
      rcases hle with hle | ⟨rfl, -⟩ <;> omega
    · rcases hle with hle | ⟨rfl, hall⟩
      · exact .inl (by simpa using hle)
      · exact .inr ⟨rfl, by simp [hplain, hall]⟩

/-- Whether the quotes of a text, with the text between them, open a text over several lines. -/
def opensLong (cs : List Char) : Bool := (cs ++ ['"']).take 2 == ['"', '"']

theorem opensLong_iff {cs : List Char} :
    opensLong cs = true ↔ ∃ r, cs ++ ['"'] = '"' :: '"' :: r := by
  rw [opensLong, beq_iff_eq]
  constructor
  · intro h
    exact ⟨(cs ++ ['"']).drop 2, by rw [← List.take_append_drop 2 (cs ++ ['"']), h]; simp⟩
  · rintro ⟨r, hr⟩
    rw [hr]
    rfl

theorem opensLong_of_plain {cs : List Char} (h : cs.all isPlain = true) : opensLong cs = false := by
  cases cs with
  | nil => rfl
  | cons c cs =>
    have hc : c ≠ '"' := by
      rintro rfl
      simp [isPlain] at h
    simp [opensLong, hc]

theorem readText_line {cs : List Char} (h : opensLong cs = false) (rest : List Char) :
    readText ('"' :: (cs ++ '"' :: '\n' :: rest)) =
      (readBasic false false (cs ++ '"' :: '\n' :: rest)).map fun p => (String.ofList p.1, p.2) := by
  unfold readText
  split
  · rename_i heq
    match cs with
    | [] => cases heq
    | [c] =>
      rw [List.singleton_append, List.cons_inj_right, List.cons_eq_cons] at heq
      simp [opensLong, heq.1] at h
    | c :: d :: cs =>
      simp only [List.cons_append, List.cons_inj_right, List.cons_eq_cons] at heq
      simp [opensLong, heq.1, heq.2.1] at h
  · rename_i heq
    rw [List.cons_inj_right] at heq
    rw [heq]
  all_goals simp_all

/-- What is read of a text on one line, with the line's end behind it: the text itself if it is plain,
and otherwise a shorter one. -/
theorem readText_bounds {cs r rest : List Char} {v : String} (h : opensLong cs = false)
    (hread : readText ('"' :: (cs ++ '"' :: '\n' :: rest)) = some (v, r)) :
    v.length < cs.length ∨ cs.all isPlain = true := by
  rw [readText_line h, Option.map_eq_some_iff] at hread
  obtain ⟨⟨v, r⟩, hread, hv⟩ := hread
  obtain ⟨rfl, rfl⟩ := Prod.mk.inj hv
  obtain ⟨used, hused, hn, hle⟩ := readBasic_bounds hread
  simp only [String.length_ofList]
  rcases List.append_eq_append_iff.mp hused with ⟨more, rfl, hmore⟩ | ⟨more, rfl, -⟩
  · -- The closing quote is the last that can be reached without crossing the line's end.
    match more with
    | [] =>
      rw [List.append_nil] at hle
      exact hle.imp_right And.right
    | [c] => cases hmore
    | c :: d :: more =>
      obtain ⟨-, rfl, -⟩ : '"' = c ∧ '\n' = d ∧ _ := by simpa using hmore
      simp at hn
  · cases more with
    | nil =>
      rw [List.append_nil]
      exact hle.imp_right And.right
    | cons c more =>
      left
      rw [List.length_append, List.length_cons]
      rcases hle with hle | ⟨rfl, -⟩ <;> omega

/-- A shorter text, with the same beginning if that is plain. -/
structure IsCut (s t : String) : Prop where
  length : s.length < t.length
  head : ∀ c, isPlain c = true → t.toList.head? = some c → s.toList.head? = some c

/-- What is read of a text that is not plain is cut. -/
theorem isCut_of_readText {t v : String} {r rest : List Char} (h : opensLong t.toList = false)
    (ht : ¬IsPlain t) (hread : readText ('"' :: (t.toList ++ '"' :: '\n' :: rest)) = some (v, r)) :
    IsCut v t := by
  refine ⟨(readText_bounds h hread).resolve_right ht, fun c hc hhead => ?_⟩
  obtain ⟨cs, hcs⟩ : ∃ cs, t.toList = c :: cs := List.head?_eq_some_iff.mp hhead
  rw [readText_line h, hcs, List.cons_append, readBasic_cons hc, Option.map_map,
    Option.map_eq_some_iff] at hread
  obtain ⟨p, -, hv⟩ := hread
  rw [← (Prod.mk.inj hv).1]
  simp

/-! ## Line ends -/

theorem joinFeeds_append {a : List Char} (h : '\r' ∉ a) (b : List Char) :
    joinFeeds (a ++ b) = a ++ joinFeeds b := by
  induction a with
  | nil => rfl
  | cons c a ih =>
    rw [List.mem_cons, not_or] at h
    rw [List.cons_append, joinFeeds.eq_3 _ _ fun _ hc => absurd hc.symm h.1, ih h.2, List.cons_append]

theorem joinFeeds_append_quote (cs b : List Char) :
    joinFeeds (cs ++ '"' :: b) = joinFeeds cs ++ '"' :: joinFeeds b := by
  induction cs using joinFeeds.induct with
  | case1 => exact joinFeeds.eq_3 _ _ (by simp)
  | case2 r ih => simpa [joinFeeds] using ih
  | case3 c r hcr ih =>
    have hcr' (r' : List Char) (hc : c = '\r') (hr : r ++ '"' :: b = '\n' :: r') : False := by
      cases r with
      | nil => simp at hr
      | cons d r => exact hcr r hc (by rw [(List.cons.inj hr).1])
    rw [List.cons_append, joinFeeds.eq_3 _ _ hcr', joinFeeds.eq_3 _ _ hcr, ih, List.cons_append]

theorem length_joinFeeds_le (cs : List Char) : (joinFeeds cs).length ≤ cs.length := by
  induction cs using joinFeeds.induct with
  | case1 => exact Nat.le_refl _
  | case2 r ih =>
    rw [joinFeeds]
    simp only [List.length_cons]
    omega
  | case3 c r hcr ih =>
    rw [joinFeeds.eq_3 _ _ hcr]
    simpa using ih

/-- No line ends were joined in what is plain afterwards. -/
theorem joinFeeds_of_plain {cs : List Char} (h : (joinFeeds cs).all isPlain = true) :
    joinFeeds cs = cs := by
  induction cs using joinFeeds.induct with
  | case1 => rfl
  | case2 r => simp [joinFeeds, isPlain, isControl] at h
  | case3 c r hcr ih =>
    rw [joinFeeds.eq_3 _ _ hcr] at h ⊢
    rw [List.all_cons, Bool.and_eq_true] at h
    rw [ih h.2]

theorem return_notMem_of_plain {cs : List Char} (h : cs.all isPlain = true) : '\r' ∉ cs := fun hm =>
  absurd (List.all_eq_true.mp h _ hm) (by decide)

theorem head?_joinFeeds {cs : List Char} {c : Char} (hc : isPlain c = true)
    (h : cs.head? = some c) : (joinFeeds cs).head? = some c := by
  obtain ⟨r, rfl⟩ := List.head?_eq_some_iff.mp h
  rw [joinFeeds.eq_3 _ _ (by rintro _ rfl; exact absurd hc (by decide)), List.head?_cons]

theorem joinFeeds_eq_quote_cons {cs x : List Char} (h : joinFeeds cs = '"' :: x) :
    ∃ r, cs = '"' :: r ∧ joinFeeds r = x := by
  cases cs using joinFeeds.induct with
  | case1 => cases h
  | case2 r => simp [joinFeeds] at h
  | case3 c r hcr =>
    rw [joinFeeds.eq_3 _ _ hcr] at h
    obtain ⟨rfl, rfl⟩ := List.cons.inj h
    exact ⟨r, rfl, rfl⟩

theorem opensLong_joinFeeds {cs : List Char} (h : opensLong cs = false) :
    opensLong (joinFeeds cs) = false := by
  rw [← Bool.not_eq_true, opensLong_iff] at h ⊢
  rintro ⟨x, hx⟩
  have hjoin : joinFeeds (cs ++ ['"']) = '"' :: '"' :: x := (joinFeeds_append_quote cs []).trans hx
  obtain ⟨r, hcs, hr⟩ := joinFeeds_eq_quote_cons hjoin
  obtain ⟨r', rfl, -⟩ := joinFeeds_eq_quote_cons hr
  exact h ⟨r', hcs⟩

theorem isCut_of_joined {v t : String} (h : IsCut v (String.ofList (joinFeeds t.toList))) :
    IsCut v t where
  length := Nat.lt_of_lt_of_le h.length (by
    rw [String.length_ofList, ← String.length_toList]
    exact length_joinFeeds_le t.toList)
  head c hc hhead := h.head c hc (by simpa using head?_joinFeeds hc hhead)

end Facade.Toml
