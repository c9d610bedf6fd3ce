import Facade.Proofs.Quoting
import Facade.Text.JsonText

/-!
# JSON objects read back

What is written as a JSON object with text values is read as one, with the same keys and values in the
same order, whatever characters they hold.

* `Text.readBody`, `Text.readObject?`: a reader of JSON texts, and of objects with text values.
* `Text.coded?_unit`, `Text.coded?_pair`, `Text.readBody_jsonChar`: what escapes denote.
* `Text.readText?_jsonQuote`: a quoted text reads back.
* `Text.readObject?_jsonObject`: so does an object.
-/

namespace Facade.Text

/-! ## Reading JSON -/

/-- The unit of sixteen bits that four hexadecimal digits denote. -/
def unit? : List Char → Option (Nat × List Char)
  | a :: b :: c :: d :: r => do
    let ds ← [a, b, c, d].mapM (Syntax.baseDigit? 16)
    return (ds.foldl (fun n d => 16 * n + d) 0, r)
  | _ => none

/-- The character of one unit, or of two that stand for one outside the first plane. -/
def coded? (cs : List Char) : Option (Char × List Char) :=
  match unit? cs with
  | none => none
  | some (n, r) =>
    if 0xd800 ≤ n ∧ n < 0xdc00 then
      match r with
      | '\\' :: 'u' :: r =>
        match unit? r with
        | some (m, r) =>
          if 0xdc00 ≤ m ∧ m < 0xe000 then
            some (Char.ofNat (0x10000 + (n - 0xd800) * 0x400 + (m - 0xdc00)), r)
          else none
        | none => none
      | _ => none
    else if 0xdc00 ≤ n ∧ n < 0xe000 then none
    else some (Char.ofNat n, r)

/-- The character of an escape, read from behind its backslash. -/
def escaped? : List Char → Option (Char × List Char)
  | '"' :: r => some ('"', r)
  | '\\' :: r => some ('\\', r)
  | '/' :: r => some ('/', r)
  | 'b' :: r => some ('\x08', r)
  | 'f' :: r => some ('\x0c', r)
  | 'n' :: r => some ('\n', r)
  | 'r' :: r => some ('\r', r)
  | 't' :: r => some ('\t', r)
  | 'u' :: r => coded? r
  | _ => none

/-- The characters up to a closing quote; the first argument bounds their number. -/
def readBody : Nat → List Char → Option (List Char × List Char)
  | 0, _ => none
  | _ + 1, [] => none
  | fuel + 1, c :: r =>
    if c = '"' then some ([], r)
    else if c = '\\' then
      (escaped? r).bind fun p => (readBody fuel p.2).map fun q => (p.1 :: q.1, q.2)
    else if c.toNat < 0x20 then none
    else (readBody fuel r).map fun q => (c :: q.1, q.2)

/-- The text without the blanks in front of it. -/
def skipBlanks (cs : List Char) : List Char := cs.dropWhile [' ', '\t', '\n', '\r'].contains

/-- The quoted text at the front of a text. -/
def readText? (cs : List Char) : Option (String × List Char) :=
  match skipBlanks cs with
  | '"' :: r => (readBody (r.length + 1) r).map fun q => (String.ofList q.1, q.2)
  | _ => none

/-- The entries of an object up to its closing brace; the first argument bounds their number. -/
def readEntries : Nat → List Char → Option (List (String × String) × List Char)
  | 0, _ => none
  | fuel + 1, cs =>
    (readText? cs).bind fun k =>
      match skipBlanks k.2 with
      | ':' :: r => (readText? r).bind fun v =>
        match skipBlanks v.2 with
        | ',' :: r => (readEntries fuel r).map fun q => ((k.1, v.1) :: q.1, q.2)
        | '\x7d' :: r => some ([(k.1, v.1)], r)
        | _ => none
      | _ => none

/-- The entries of an object with text values. -/
def readObject? (s : String) : Option (List (String × String)) :=
  match skipBlanks s.toList with
  | '\x7b' :: r =>
    let read := match skipBlanks r with
      | '\x7d' :: r => some ([], r)
      | r => readEntries (r.length + 1) r
    (read.filter fun q => (skipBlanks q.2).isEmpty).map Prod.fst
  | _ => none

/-! ## Characters -/

theorem unit?_hexPadded {n : Nat} (h : n < 0x10000) (r : List Char) :
    unit? (hexPadded 4 n ++ r) = some (n, r) := by
  obtain ⟨ds, hds, hlt, hlen, hfold⟩ := hexPadded_eq_map (show 0 < 4 by decide) h
  rcases ds with _ | ⟨a, _ | ⟨b, _ | ⟨c, _ | ⟨d, _ | ⟨e, ds⟩⟩⟩⟩⟩ <;> simp only [List.length_nil,
    List.length_cons, reduceCtorEq, Nat.reduceAdd, Nat.reduceEqDiff] at hlen
  · have hdigit {e : Nat} (he : e ∈ [a, b, c, d]) := Syntax.baseDigit?_digitChar (hlt e he)
    rw [hds]
    simp only [unit?, List.map_cons, List.map_nil, List.cons_append, List.nil_append,
      List.mapM_cons, List.mapM_nil, hdigit, List.mem_cons, true_or, or_true, Option.pure_def,
      Option.bind_eq_bind, Option.bind_some, hfold]

/-- A number that is no character on its own stands for half of one. -/
theorem not_surrogate (c : Char) : ¬ (0xd800 ≤ c.toNat ∧ c.toNat < 0xe000) := by
  have : c.toNat < 0xd800 ∨ 0xdfff < c.toNat ∧ c.toNat < 0x110000 := c.valid
  omega

theorem coded?_unit {n : Nat} (h : n < 0x10000) (hn : ¬ (0xd800 ≤ n ∧ n < 0xe000)) (r : List Char) :
    coded? (hexPadded 4 n ++ r) = some (Char.ofNat n, r) := by
  have hhigh : ¬ (0xd800 ≤ n ∧ n < 0xdc00) := by omega
  have hlow : ¬ (0xdc00 ≤ n ∧ n < 0xe000) := by omega
  simp only [coded?, unit?_hexPadded h, if_neg hhigh, if_neg hlow]

theorem coded?_pair {n m : Nat} (hn : 0xd800 ≤ n ∧ n < 0xdc00) (hm : 0xdc00 ≤ m ∧ m < 0xe000)
    (r : List Char) : coded? (hexPadded 4 n ++ '\\' :: 'u' :: (hexPadded 4 m ++ r)) =
      some (Char.ofNat (0x10000 + (n - 0xd800) * 0x400 + (m - 0xdc00)), r) := by
  have hn' : n < 0x10000 := by omega
  have hm' : m < 0x10000 := by omega
  simp only [coded?, unit?_hexPadded hn', unit?_hexPadded hm', if_pos hn, if_pos hm]

section Body

variable (fuel : Nat) (c : Char) (r : List Char)

theorem readBody_code : readBody (fuel + 1) ('\\' :: 'u' :: r) =
    (coded? r).bind fun p => (readBody fuel p.2).map fun q => (p.1 :: q.1, q.2) := rfl

theorem readBody_unit (h : c.toNat < 0x10000) :
    readBody (fuel + 1) (jsonUnit c.toNat ++ r) =
      (readBody fuel r).map fun q => (c :: q.1, q.2) := by
  rw [jsonUnit, List.append_assoc, List.cons_append, List.singleton_append, readBody_code,
    coded?_unit h (not_surrogate c), Char.ofNat_toNat]
  rfl

theorem readBody_pair {n m : Nat} (hn : 0xd800 ≤ n ∧ n < 0xdc00) (hm : 0xdc00 ≤ m ∧ m < 0xe000)
    (h : 0x10000 + (n - 0xd800) * 0x400 + (m - 0xdc00) = c.toNat) :
    readBody (fuel + 1) (jsonUnit n ++ jsonUnit m ++ r) =
      (readBody fuel r).map fun q => (c :: q.1, q.2) := by
  simp only [jsonUnit, List.append_assoc, List.cons_append, List.nil_append]
  rw [readBody_code, coded?_pair hn hm, h, Char.ofNat_toNat]
  rfl

/-- **A character is read back as it is written.** -/
theorem readBody_jsonChar : readBody (fuel + 1) (jsonChar c ++ r) =
    (readBody fuel r).map fun q => (c :: q.1, q.2) := by
  have hmax : c.toNat < 0xd800 ∨ 0xdfff < c.toNat ∧ c.toNat < 0x110000 := c.valid
  unfold jsonChar
  split
  case h_8 hquote hslash _ _ _ _ _ =>
    dsimp only
    split_ifs with hplain hfirst
    · rw [Bool.and_eq_true, decide_eq_true_eq, decide_eq_true_eq] at hplain
      rw [List.singleton_append, readBody, if_neg hquote, if_neg hslash, if_neg (by omega)]
    · exact readBody_unit fuel c r hfirst
    · exact readBody_pair fuel c r (by omega) (by omega) (by omega)
  all_goals rfl

end Body

theorem readBody_flatMap (cs r : List Char) : ∀ fuel, cs.length < fuel →
    readBody fuel (cs.flatMap jsonChar ++ '"' :: r) = some (cs, r) := by
  induction cs with
  | nil =>
    intro fuel h
    obtain ⟨k, rfl⟩ := Nat.exists_eq_succ_of_ne_zero (Nat.ne_of_gt h)
    rfl
  | cons c cs ih =>
    intro fuel h
    obtain ⟨k, rfl⟩ := Nat.exists_eq_succ_of_ne_zero (Nat.ne_of_gt (Nat.zero_lt_of_lt h))
    rw [List.flatMap_cons, List.append_assoc, readBody_jsonChar, ih k (Nat.lt_of_succ_lt_succ h)]
    rfl

/-! ## Texts and objects -/

theorem length_le_flatMap_jsonChar (cs : List Char) : cs.length ≤ (cs.flatMap jsonChar).length := by
  have hpos (c : Char) : 1 ≤ (jsonChar c).length := by
    unfold jsonChar
    split
    case h_8 =>
      dsimp only
      split_ifs
      · exact Nat.le_refl 1
      · exact Nat.le_add_left ..
      · exact Nat.le_add_left ..
    all_goals decide
  induction cs with
  | nil => exact Nat.le_refl 0
  | cons c cs ih =>
    have := hpos c
    rw [List.flatMap_cons, List.length_append, List.length_cons]
    omega

theorem toList_jsonQuote (s : String) :
    (jsonQuote s).toList = '"' :: (s.toList.flatMap jsonChar ++ ['"']) := by
  simp [jsonQuote]

/-- **A quoted text reads back,** with blanks in front of it or without. -/
theorem readText?_jsonQuote {blanks : List Char} (hb : ∀ c ∈ blanks, c = ' ') (s : String)
    (r : List Char) : readText? (blanks ++ ((jsonQuote s).toList ++ r)) = some (s, r) := by
  have hskip : skipBlanks (blanks ++ ((jsonQuote s).toList ++ r)) =
      '"' :: (s.toList.flatMap jsonChar ++ '"' :: r) := by
    rw [skipBlanks, List.dropWhile_append_of_pos (fun c hc => by rw [hb c hc]; rfl),
      toList_jsonQuote]
    simp
  have hlen := length_le_flatMap_jsonChar s.toList
  have hbody := readBody_flatMap s.toList r ((s.toList.flatMap jsonChar ++ '"' :: r).length + 1)
    (by rw [List.length_append]; omega)
  simp only [readText?, hskip, hbody, Option.map_some, String.ofList_toList]

/-- The entries of an object as they are written, one behind the other. -/
def entryText (e : String × String) : List Char :=
  (jsonQuote e.1).toList ++ ':' :: ' ' :: (jsonQuote e.2).toList

theorem readEntries_entry {blanks : List Char} (hb : ∀ c ∈ blanks, c = ' ') (fuel : Nat)
    (e : String × String) (r : List Char) : readEntries (fuel + 1) (blanks ++ (entryText e ++ r)) =
      match skipBlanks r with
      | ',' :: r => (readEntries fuel r).map fun q => (e :: q.1, q.2)
      | '\x7d' :: r => some ([e], r)
      | _ => none := by
  have hkey := readText?_jsonQuote hb e.1 (':' :: ' ' :: ((jsonQuote e.2).toList ++ r))
  have hvalue := readText?_jsonQuote (show ∀ c ∈ [' '], c = ' ' by simp) e.2 r
  have hcolon : skipBlanks (':' :: ' ' :: ((jsonQuote e.2).toList ++ r)) =
      ':' :: ' ' :: ((jsonQuote e.2).toList ++ r) := rfl
  rw [List.singleton_append] at hvalue
  simp only [readEntries, entryText, List.append_assoc, List.cons_append, hkey, Option.bind_some,
    hcolon, hvalue]

/-- The entries behind the first one, and the end of an object. -/
def entriesTail (es : List (String × String)) : List Char :=
  es.flatMap (fun e => ',' :: ' ' :: entryText e) ++ ['\x7d']

theorem readEntries_tail (es : List (String × String)) :
    ∀ {blanks : List Char} {fuel : Nat} (e : String × String), (∀ c ∈ blanks, c = ' ') →
      es.length < fuel →
      readEntries fuel (blanks ++ (entryText e ++ entriesTail es)) = some (e :: es, []) := by
  induction es with
  | nil =>
    intro blanks fuel e hb h
    obtain ⟨k, rfl⟩ := Nat.exists_eq_succ_of_ne_zero (Nat.ne_of_gt h)
    exact readEntries_entry hb k e _
  | cons e' es ih =>
    intro blanks fuel e hb h
    obtain ⟨k, rfl⟩ := Nat.exists_eq_succ_of_ne_zero (Nat.ne_of_gt (Nat.zero_lt_of_lt h))
    have hrest := ih e' (show ∀ c ∈ [' '], c = ' ' by simp) (Nat.lt_of_succ_lt_succ h)
    have htail : entriesTail (e' :: es) = ',' :: ([' '] ++ (entryText e' ++ entriesTail es)) := by
      simp [entriesTail]
    rw [readEntries_entry hb, htail]
    show (readEntries k ([' '] ++ (entryText e' ++ entriesTail es))).map _ = _
    rw [hrest]
    rfl

theorem toList_jsonObject (e : String × String) (es : List (String × String)) :
    (jsonObject (e :: es)).toList = '\x7b' :: (entryText e ++ entriesTail es) := by
  have hjoin (e : String × String) (es : List (String × String)) :
      (", ".intercalate ((e :: es).map fun e => jsonQuote e.1 ++ ": " ++ jsonQuote e.2)).toList =
        entryText e ++ es.flatMap (fun e => ',' :: ' ' :: entryText e) := by
    induction es generalizing e with
    | nil => simp [entryText]
    | cons e' es ih =>
      have := ih e'
      simp only [List.map_cons] at this ⊢
      rw [String.intercalate_cons_cons, String.toList_append, String.toList_append, this]
      simp [entryText]
  rw [jsonObject, String.toList_append, String.toList_append, hjoin]
  simp [entriesTail]

/-- **An object reads back:** its keys and values, in their order. -/
theorem readObject?_jsonObject (es : List (String × String)) :
    readObject? (jsonObject es) = some es := by
  cases es with
  | nil => rfl
  | cons e es =>
    have hopen (cs : List Char) : skipBlanks ('\x7b' :: cs) = '\x7b' :: cs := rfl
    have hquote (cs : List Char) : skipBlanks ('"' :: cs) = '"' :: cs := rfl
    have hlen : es.length ≤ (entriesTail es).length := by
      have (es : List (String × String)) :
          es.length ≤ (es.flatMap fun e => ',' :: ' ' :: entryText e).length := by
        induction es with
        | nil => exact Nat.le_refl 0
        | cons e es ih => simp only [List.flatMap_cons, List.length_append, List.length_cons]; omega
      rw [entriesTail, List.length_append]
      exact Nat.le_add_right_of_le (this es)
    have hread : readEntries ((entryText e ++ entriesTail es).length + 1)
        ([] ++ (entryText e ++ entriesTail es)) = some (e :: es, []) :=
      readEntries_tail es e (by simp) (by rw [List.length_append]; omega)
    obtain ⟨cs, hcs⟩ : ∃ cs, entryText e ++ entriesTail es = '"' :: cs := by
      rw [entryText, toList_jsonQuote]
      exact ⟨_, rfl⟩
    rw [List.nil_append, hcs] at hread
    simp only [readObject?, toList_jsonObject, hcs, hopen, hquote]
    show ((readEntries (('"' :: cs).length + 1) ('"' :: cs)).filter _).map Prod.fst = _
    rw [hread]
    rfl

end Facade.Text
