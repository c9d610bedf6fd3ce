import Facade.Uuid
import Mathlib.Tactic.Common

/-!
# Spellings of identifiers

An identifier can be written in several ways, and each is read as that identifier.

* `Uuid.Spelling`, `Uuid.written`: the ways to write an identifier.
* `Uuid.WritesDigits`: a way of writing hexadecimal digits that reading undoes.
* `Uuid.parse?_eq_some`: what is read as an identifier; `Uuid.parse?_written`: every spelling is.
-/

namespace Facade

/-! ## Hexadecimal digits -/

namespace Text

/-- The digits of a number, most significant first. -/
theorem toDigits_eq_map (n : Nat) :
    ∃ ds : List Nat, Nat.toDigits 16 n = ds.map Nat.digitChar ∧ (∀ d ∈ ds, d < 16) ∧ ds ≠ [] ∧
      ∀ acc, ds.foldl (fun a d => 16 * a + d) acc = 16 ^ ds.length * acc + n := by
  induction n using Nat.strongRecOn with
  | ind n ih =>
    rw [Nat.toDigits_eq_if (by decide)]
    by_cases hn : n < 16
    · exact ⟨[n], by simp [hn], by simpa using hn, by simp, fun acc => by simp⟩
    · obtain ⟨ds, hds, hlt, hne, hfold⟩ := ih (n / 16) (by omega)
      refine ⟨ds ++ [n % 16], by simp [hn, hds], ?_, by simp, fun acc => ?_⟩
      · intro d hd
        rcases List.mem_append.mp hd with h | h
        · exact hlt d h
        · simp only [List.mem_singleton] at h
          omega
      · rw [List.foldl_append, hfold acc]
        simp only [List.foldl_cons, List.foldl_nil, List.length_append, List.length_singleton,
          Nat.pow_succ]
        have hmul : 16 ^ ds.length * 16 * acc = 16 * (16 ^ ds.length * acc) := by
          rw [Nat.mul_right_comm, Nat.mul_comm]
        have hdiv := Nat.div_add_mod n 16
        rw [hmul]
        omega

theorem hexPadded_eq_map {width n : Nat} (hw : 0 < width) (hn : n < 16 ^ width) :
    ∃ ds : List Nat, hexPadded width n = ds.map Nat.digitChar ∧ (∀ d ∈ ds, d < 16) ∧
      ds.length = width ∧ ds.foldl (fun a d => 16 * a + d) 0 = n := by
  obtain ⟨ds, hds, hlt, -, hfold⟩ := toDigits_eq_map n
  have hlen : ds.length ≤ width := by
    have h := (Nat.length_toDigits_le_iff (b := 16) (by decide) hw).2 hn
    simpa [hds] using h
  have hzeros : ∀ k, (List.replicate k 0).foldl (fun a d => 16 * a + d) 0 = 0 := by
    intro k
    induction k with
    | zero => rfl
    | succ k ih => simpa [List.replicate_succ] using ih
  refine ⟨List.replicate (width - ds.length) 0 ++ ds, ?_, ?_, ?_, ?_⟩
  · simp only [hexPadded, hds, List.length_map, List.map_append, List.map_replicate]
    rfl
  · intro d hd
    rcases List.mem_append.mp hd with h | h
    · have := List.eq_of_mem_replicate h
      omega
    · exact hlt d h
  · simp only [List.length_append, List.length_replicate]
    omega
  · rw [List.foldl_append, hzeros, hfold 0]
    simp

theorem stripBy_eq_self {p : Char → Bool} {cs : List Char} (h : ∀ c ∈ cs, p c = false) :
    stripBy p cs = cs := by
  have hd : ∀ l : List Char, (∀ c ∈ l, p c = false) → l.dropWhile p = l := by
    intro l hl
    cases l with
    | nil => rfl
    | cons c r => rw [List.dropWhile_cons, hl c List.mem_cons_self]; rfl
  rw [stripBy, stripEndBy, hd cs h, hd _ (fun c hc => h c (List.mem_reverse.mp hc)),
    List.reverse_reverse]

/-- What is around a text is stripped from it. -/
theorem stripBy_append {p : Char → Bool} {before cs after : List Char}
    (hb : ∀ c ∈ before, p c = true) (hc : ∀ c ∈ cs, p c = false) (ha : ∀ c ∈ after, p c = true)
    (hne : cs ≠ []) : stripBy p (before ++ cs ++ after) = cs := by
  have hdrop : ∀ l r : List Char, (∀ c ∈ l, p c = true) → (l ++ r).dropWhile p = r.dropWhile p := by
    intro l r hl
    rw [List.dropWhile_append_of_pos hl]
  have hkeep : ∀ l r : List Char, l ≠ [] → (∀ c ∈ l, p c = false) → (l ++ r).dropWhile p = l ++ r := by
    intro l r hl h
    obtain ⟨c, l, rfl⟩ := List.exists_cons_of_ne_nil hl
    simp [h c List.mem_cons_self]
  rw [stripBy, stripEndBy, List.append_assoc, hdrop _ _ hb, hkeep _ _ hne hc, List.reverse_append,
    hdrop _ _ (fun c h => ha c (List.mem_reverse.mp h)), ← List.append_nil cs.reverse,
    hkeep _ _ (by simpa using hne) (fun c h => hc c (List.mem_reverse.mp h)), List.append_nil,
    List.reverse_reverse]

end Text

namespace Uuid

open Text

/-! ## Digits -/

/-- The characters other than digits that mean something in the text of an identifier. -/
def marks : List Char := ['u', 'x', 'X', '-', '+', '_', '{', '}']

/-- A way of writing hexadecimal digits that reading undoes. -/
def WritesDigits (digit : Nat → Char) : Prop :=
  ∀ d < 16, hexVal? (digit d) = some d ∧ isBlank (digit d) = false ∧ digit d ∉ marks

theorem writesDigits_digitChar : WritesDigits Nat.digitChar := by
  unfold WritesDigits
  decide

theorem writesDigits_upper : WritesDigits fun d => (Nat.digitChar d).toUpper := by
  unfold WritesDigits
  decide

/-- The number that digits make. -/
def ofDigits (ds : List Nat) : Nat := ds.foldl (fun a d => 16 * a + d) 0

section Digits

variable {digit : Nat → Char} (hw : WritesDigits digit) {ds : List Nat} (hlt : ∀ d ∈ ds, d < 16)

include hw hlt

theorem hexDigits?_map (hne : ds ≠ []) (acc : Nat) :
    hexDigits? acc (ds.map digit) = some (ds.foldl (fun a d => 16 * a + d) acc) := by
  induction ds generalizing acc with
  | nil => exact absurd rfl hne
  | cons d ds ih =>
    have hd := (hw d (hlt d List.mem_cons_self)).1
    cases ds with
    | nil => simp [hexDigits?, hd]
    | cons e ds =>
      have he := (hw e (hlt e (by simp))).2.2
      have hu : digit e ≠ '_' := fun hc => he (by rw [hc]; decide)
      rw [List.map_cons, List.map_cons, hexDigits?]
      · rw [hd, Option.bind_some, List.foldl_cons, ← List.map_cons,
          ih (fun x hx => hlt x (List.mem_cons_of_mem d hx)) (by simp)]
      · simp
      · intro r h
        exact hu (List.cons.inj h).1

omit hw hlt in
theorem hexInt?_of_not_mem_marks {cs : List Char} (hstrip : strip cs = cs)
    (h : ∀ c ∈ cs, c ∉ marks) : hexInt? cs = (hexDigits? 0 cs).map fun n => (n : Int) := by
  unfold hexInt?
  rw [hstrip]
  dsimp only
  split
  · exact absurd (by decide) (h '-' List.mem_cons_self)
  · exact absurd (by decide) (h '+' List.mem_cons_self)
  · simp only [Bool.false_eq_true, if_false]
    split
    · exact absurd (by decide) (h 'x' (List.mem_cons_of_mem _ List.mem_cons_self))
    · exact absurd (by decide) (h 'X' (List.mem_cons_of_mem _ List.mem_cons_self))
    · exact absurd (by decide) (h 'x' (List.mem_cons_of_mem _ List.mem_cons_self))
    · exact absurd (by decide) (h 'X' (List.mem_cons_of_mem _ List.mem_cons_self))
    · simp

theorem hexInt?_map (hne : ds ≠ []) : hexInt? (ds.map digit) = some (ofDigits ds : Int) := by
  have hchars : ∀ c ∈ ds.map digit, isBlank c = false ∧ c ∉ marks := by
    intro c hc
    obtain ⟨d, hd, rfl⟩ := List.mem_map.mp hc
    exact (hw d (hlt d hd)).2
  rw [hexInt?_of_not_mem_marks (stripBy_eq_self fun c hc => (hchars c hc).1)
    fun c hc => (hchars c hc).2, hexDigits?_map hw hlt hne]
  rfl

end Digits

/-! ## Reading -/

theorem removeAll_eq_self {c : Char} {w cs : List Char} (h : c ∉ cs) :
    removeAll (c :: w) cs = cs := by
  induction cs with
  | nil => rw [removeAll]
  | cons d r ih =>
    have hd : c ≠ d := fun he => h (he ▸ List.mem_cons_self)
    rw [removeAll, if_neg (by simp [hd]), ih fun hc => h (List.mem_cons_of_mem d hc)]

theorem removeAll_append {c : Char} {w cs : List Char} :
    removeAll (c :: w) (c :: w ++ cs) = removeAll (c :: w) cs := by
  rw [List.cons_append, removeAll, if_pos]
  · simp
  · rw [← List.cons_append]
    exact ⟨List.cons_ne_nil _ _, List.isPrefixOf_iff_prefix.mpr (List.prefix_append _ _)⟩

theorem removeAll_cons {w : List Char} {c : Char} {cs : List Char}
    (h : w.isPrefixOf (c :: cs) = false) : removeAll w (c :: cs) = c :: removeAll w cs := by
  rw [removeAll, if_neg (by simp [h])]

/-- A text is read as an identifier if, without the marks for names and without braces and lines,
its digits are left. -/
theorem parse?_eq_some {s : String} {digit : Nat → Char} {ds : List Nat}
    (before body after : List Char)
    (hs : removeAll ['u', 'u', 'i', 'd', ':'] (removeAll ['u', 'r', 'n', ':'] s.toList) =
      before ++ body ++ after)
    (hb : ∀ c ∈ before, c = '{') (ha : ∀ c ∈ after, c = '}')
    (hw : WritesDigits digit) (hlt : ∀ d ∈ ds, d < 16) (hlen : ds.length = 32)
    (hbody : body.filter (· != '-') = ds.map digit) : parse? s = some ⟨ofDigits ds⟩ := by
  have hne : ds ≠ [] := List.ne_nil_of_length_eq_add_one hlen
  have hchars : ∀ c ∈ body, (c == '{' || c == '}') = false := by
    intro c hc
    by_cases hline : c = '-'
    · simp [hline]
    · have hmem : c ∈ ds.map digit := hbody ▸ List.mem_filter.mpr ⟨hc, by simpa using hline⟩
      obtain ⟨d, hd, rfl⟩ := List.mem_map.mp hmem
      have hm := (hw d (hlt d hd)).2.2
      simp only [marks, List.mem_cons, List.not_mem_nil, or_false, not_or] at hm
      simp [hm]
  have hbody_ne : body ≠ [] := by
    rintro rfl
    exact hne (by simpa using hbody.symm)
  unfold parse?
  rw [hs]
  dsimp only
  rw [stripBy_append (fun c hc => by simp [hb c hc]) hchars (fun c hc => by simp [ha c hc]) hbody_ne,
    hbody, if_pos (by simpa using hlen), hexInt?_map hw hlt hne]

/-! ## Writing -/

/-- The ways to write an identifier. -/
inductive Spelling where
  /-- In five groups of lower-case digits. -/
  | canonical
  /-- In five groups of upper-case digits. -/
  | upper
  /-- In braces. -/
  | braced
  /-- As the name of a resource. -/
  | urn
  /-- Without lines. -/
  | plain
  deriving DecidableEq, Repr

/-- The text of an identifier in a spelling. -/
def written (u : Uuid) : Spelling → String
  | .canonical => u.render
  | .upper => String.ofList (u.render.toList.map Char.toUpper)
  | .braced => "\x7b" ++ u.render ++ "\x7d"
  | .urn => "urn:uuid:" ++ u.render
  | .plain => u.hex

/-- The digits of an identifier. -/
theorem exists_digits {u : Uuid} (h : u.value < 2 ^ 128) : ∃ ds : List Nat,
    hexPadded 32 u.value = ds.map Nat.digitChar ∧ (∀ d ∈ ds, d < 16) ∧ ds.length = 32 ∧
      ofDigits ds = u.value :=
  hexPadded_eq_map (by decide) (by simpa using h)

/-- The groups of the canonical text. -/
theorem toList_render (u : Uuid) : ∃ a b c d e : List Char,
    hexPadded 32 u.value = a ++ b ++ c ++ d ++ e ∧
      u.render.toList = a ++ '-' :: b ++ '-' :: c ++ '-' :: d ++ '-' :: e := by
  have hsplit (l : List Char) (a b : Nat) : (l.drop a).take b ++ l.drop (a + b) = l.drop a := by
    rw [← List.drop_drop]
    exact List.take_append_drop b (l.drop a)
  refine ⟨_, _, _, _, _, ?_, String.toList_ofList⟩
  simp only [List.append_assoc]
  rw [hsplit _ 16 4, hsplit _ 12 4, hsplit _ 8 4, List.take_append_drop]

/-- No digit is a line. -/
theorem filter_map_digits {digit : Nat → Char} {ds : List Nat} (hw : WritesDigits digit)
    (hlt : ∀ d ∈ ds, d < 16) : (ds.map digit).filter (· != '-') = ds.map digit := by
  refine List.filter_eq_self.mpr fun c hc => ?_
  obtain ⟨d, hd, rfl⟩ := List.mem_map.mp hc
  have hm := (hw d (hlt d hd)).2.2
  simp only [marks, List.mem_cons, List.not_mem_nil, or_false, not_or] at hm
  simp [hm]

/-- The canonical text is made of the digits and of lines between their groups, whatever is put for
the digits. -/
theorem filter_map_render {u : Uuid} {ds : List Nat} {f : Char → Char}
    (hds : hexPadded 32 u.value = ds.map Nat.digitChar) (hlt : ∀ d ∈ ds, d < 16)
    (hw : WritesDigits fun d => f (Nat.digitChar d)) (hf : f '-' = '-') :
    (u.render.toList.map f).filter (· != '-') = ds.map fun d => f (Nat.digitChar d) := by
  have hkeep : ((hexPadded 32 u.value).map f).filter (· != '-') =
      ds.map fun d => f (Nat.digitChar d) := by
    rw [hds, List.map_map]
    exact filter_map_digits hw hlt
  obtain ⟨a, b, c, d, e, hgroups, hrender⟩ := toList_render u
  rw [hrender, ← hkeep, hgroups]
  simp [List.filter_append, hf]

/-- No mark for a name is in a text of digits and lines. -/
theorem u_not_mem {cs : List Char} {digit : Nat → Char} {ds : List Nat} (hw : WritesDigits digit)
    (hlt : ∀ d ∈ ds, d < 16) (h : cs.filter (· != '-') = ds.map digit) : 'u' ∉ cs := by
  intro hc
  have hmem : 'u' ∈ ds.map digit := h ▸ List.mem_filter.mpr ⟨hc, by decide⟩
  obtain ⟨d, hd, he⟩ := List.mem_map.mp hmem
  exact (hw d (hlt d hd)).2.2 (he ▸ by decide)

/-- **Every spelling of an identifier is read as that identifier.** -/
theorem parse?_written {u : Uuid} (h : u.value < 2 ^ 128) (sp : Spelling) :
    parse? (u.written sp) = some u := by
  obtain ⟨ds, hds, hlt, hlen, hvalue⟩ := exists_digits h
  have hdown := writesDigits_digitChar
  have hrender : u.render.toList.filter (· != '-') = ds.map Nat.digitChar := by
    have := filter_map_render (f := id) hds hlt hdown rfl
    rwa [List.map_id] at this
  have hu := u_not_mem hdown hlt hrender
  have hclean (cs : List Char) (h : 'u' ∉ cs) :
      removeAll ['u', 'u', 'i', 'd', ':'] (removeAll ['u', 'r', 'n', ':'] cs) = cs := by
    rw [removeAll_eq_self h, removeAll_eq_self h]
  suffices parse? (u.written sp) = some ⟨ofDigits ds⟩ by rw [this, hvalue]
  cases sp with
  | canonical =>
    exact parse?_eq_some [] _ [] (by simpa [written] using hclean _ hu) (by simp)
      (by simp) hdown hlt hlen hrender
  | upper =>
    have hupper := filter_map_render hds hlt writesDigits_upper (by decide)
    refine parse?_eq_some [] _ [] ?_ (by simp) (by simp) writesDigits_upper hlt
      hlen hupper
    simpa [written] using hclean _ (u_not_mem writesDigits_upper hlt hupper)
  | braced =>
    refine parse?_eq_some ['\x7b'] _ ['\x7d'] ?_ (by simp) (by simp) hdown hlt
      hlen hrender
    simpa [written] using hclean ('\x7b' :: (u.render.toList ++ ['\x7d'])) (by simp [hu])
  | urn =>
    refine parse?_eq_some [] _ [] ?_ (by simp) (by simp) hdown hlt hlen hrender
    have htext : (u.written .urn).toList =
        ['u', 'r', 'n', ':'] ++ (['u', 'u', 'i', 'd', ':'] ++ u.render.toList) := by
      simp [written]
    have hname : removeAll ['u', 'r', 'n', ':'] (['u', 'u', 'i', 'd', ':'] ++ u.render.toList) =
        ['u', 'u', 'i', 'd', ':'] ++ u.render.toList := by
      have hskip := @removeAll_cons ['u', 'r', 'n', ':']
      simp only [List.cons_append, List.nil_append]
      rw [hskip rfl, hskip rfl, hskip rfl, hskip rfl, hskip rfl, removeAll_eq_self hu]
    rw [htext, removeAll_append, hname, removeAll_append, removeAll_eq_self hu]
    simp
  | plain =>
    have hhex : (hexPadded 32 u.value).filter (· != '-') = ds.map Nat.digitChar := by
      rw [hds]
      exact filter_map_digits hdown hlt
    refine parse?_eq_some [] _ [] ?_ (by simp) (by simp) hdown hlt hlen hhex
    simpa [written, hex] using hclean _ (u_not_mem hdown hlt hhex)

end Uuid

end Facade
