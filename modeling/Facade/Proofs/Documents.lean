import Facade.Proofs.PlainTexts

/-!
# Written documents read back

A document that is written line by line, texts between quotes as they are, reads back line by line, as
long as every text stands for itself. If one does not, the document cannot be read, or holds a shorter
text in its place.

* `Holds`: a value under a key of a document, which no later statement changes (`Holds.readLines`).
* `Line`, `Line.apply`: the lines of a written document, and what each does.
* `readDocument_lines`: plain lines make the document that they say.
* `plain_or_cut_document`: lines that are not plain do not.
-/

namespace Facade.Toml

/-! ## What stays in a document -/

theorem Entries.get?_set (es : Entries) (k k' : String) (n : Node) :
    (es.set k n).get? k' = if k = k' then some n else es.get? k' :=
  Table.get?_set ⟨es⟩ k k' n

/-- A value under a key of a table that is reached through others. -/
def Holds (v : Value) (k : String) : List String → Entries → Prop
  | [], es => es.get? k = some (.leaf v)
  | p :: ps, es => ∃ o t, es.get? p = some (.table o t) ∧ Holds v k ps t

variable {v : Value} {k q : String} {ps : List String} {es es' : Entries} {n : Node}

/-- A value stays where another node comes in, unless that takes the place of a value, or of a table
that held more. -/
theorem Holds.set (h : Holds v k ps es) (hleaf : ∀ x, es.get? q ≠ some (.leaf x))
    (htable : ∀ o t, es.get? q = some (.table o t) →
      ∃ o' t', n = .table o' t' ∧ ∀ ps, Holds v k ps t → Holds v k ps t') :
    Holds v k ps (es.set q n) := by
  cases ps with
  | nil =>
    rw [Holds] at h
    rw [Holds, Entries.get?_set, if_neg, h]
    rintro rfl
    exact hleaf v h
  | cons p ps =>
    obtain ⟨o, t, hp, ht⟩ := h
    by_cases hqp : q = p
    · subst hqp
      obtain ⟨o', t', rfl, hkeep⟩ := htable o t hp
      exact ⟨o', t', by rw [Entries.get?_set, if_pos rfl], hkeep ps ht⟩
    · exact ⟨o, t, by rw [Entries.get?_set, if_neg hqp, hp], ht⟩

/-- A value stays where tables are changed in a way that keeps values. -/
theorem Holds.within {f : Entries → Option Entries}
    (hf : ∀ es es' ps, f es = some es' → Holds v k ps es → Holds v k ps es') (qs : List String)
    (h : Holds v k ps es) (hw : Entries.within f qs es = some es') : Holds v k ps es' := by
  induction qs generalizing ps es es' with
  | nil => exact hf es es' ps hw h
  | cons q qs ih =>
    rw [Entries.within] at hw
    split at hw
    · rename_i hq
      obtain ⟨t', -, rfl⟩ := Option.map_eq_some_iff.mp hw
      exact h.set (by simp [hq]) (by simp [hq])
    · rename_i o t hq
      obtain ⟨t', ht', rfl⟩ := Option.map_eq_some_iff.mp hw
      refine h.set (by simp [hq]) fun o₁ t₁ h₁ => ⟨o, t', rfl, fun ps hps => ih hps ?_⟩
      obtain ⟨-, rfl⟩ : o = o₁ ∧ t = t₁ := by simpa [hq] using h₁
      exact ht'
    · rename_i hq
      obtain ⟨t', -, rfl⟩ := Option.map_eq_some_iff.mp hw
      exact h.set (by simp [hq]) (by simp [hq])
    · cases hw

theorem Holds.declare {key : Key} (h : Holds v k ps es) (hd : es.declare key = some es') :
    Holds v k ps es' := by
  refine h.within (fun es es' ps hf h => ?_) key.front hd
  split at hf
  · rename_i hq
    cases hf
    exact h.set (by simp [hq]) (by simp [hq])
  · rename_i t hq
    cases hf
    refine h.set (by simp [hq]) fun o₁ t₁ h₁ => ⟨.declared, t, rfl, ?_⟩
    obtain ⟨-, rfl⟩ : Origin.implied = o₁ ∧ t = t₁ := by simpa [hq] using h₁
    exact fun _ => id
  · cases hf

theorem Holds.extend {key : Key} (h : Holds v k ps es) (he : es.extend key = some es') :
    Holds v k ps es' := by
  refine h.within (fun es es' ps hf h => ?_) key.front he
  split at hf
  · rename_i hq
    cases hf
    exact h.set (by simp [hq]) (by simp [hq])
  · rename_i hq
    cases hf
    exact h.set (by simp [hq]) (by simp [hq])
  · cases hf

theorem Holds.assign {part : Nat} {name : String} {x : Value} {qs : List String}
    (h : Holds v k ps es) (ha : Entries.assign part name x qs es = some es') : Holds v k ps es' := by
  induction qs generalizing ps es es' with
  | nil =>
    rw [Entries.assign] at ha
    split at ha
    · cases ha
    · rename_i hq
      rw [Option.not_isSome_iff_eq_none] at hq
      cases ha
      exact h.set (by simp [hq]) (by simp [hq])
  | cons q qs ih =>
    have enter {t : Entries} {o : Origin} (hq : es.get? q = some (.table o t))
        (ha : ((Entries.assign part name x qs t).map fun t =>
          es.set q (.table (.dotted part) t)) = some es') : Holds v k ps es' := by
      obtain ⟨t', ht', rfl⟩ := Option.map_eq_some_iff.mp ha
      refine h.set (by simp [hq]) fun o₁ t₁ h₁ => ⟨_, t', rfl, fun ps hps => ih hps ?_⟩
      obtain ⟨-, rfl⟩ : o = o₁ ∧ t = t₁ := by simpa [hq] using h₁
      exact ht'
    simp only [Entries.assign] at ha
    split at ha
    · rename_i hq
      obtain ⟨t', -, rfl⟩ := Option.map_eq_some_iff.mp ha
      exact h.set (by simp [hq]) (by simp [hq])
    · rename_i hq
      exact enter hq ha
    · rename_i hq
      split at ha
      · exact enter hq ha
      · cases ha
    · cases ha

theorem Holds.readStatement {s s' : Reading} {cs r : List Char} (h : Holds v k ps s.document)
    (hr : readStatement s cs = some (s', r)) : Holds v k ps s'.document := by
  unfold Toml.readStatement at hr
  split at hr <;> simp only [Option.bind_eq_bind, Option.bind_eq_some_iff] at hr
  · obtain ⟨key, -, es, hes, _, -, _, -, hs⟩ := hr
    obtain ⟨rfl, -⟩ := Prod.mk.inj (Option.some.inj hs)
    exact h.extend hes
  · obtain ⟨key, -, es, hes, _, -, hs⟩ := hr
    obtain ⟨rfl, -⟩ := Prod.mk.inj (Option.some.inj hs)
    exact h.declare hes
  · obtain ⟨key, -, _, -, x, -, es, hes, hs⟩ := hr
    obtain ⟨rfl, -⟩ := Prod.mk.inj (Option.some.inj hs)
    exact h.within (fun _ _ _ ha h => h.assign ha) _ hes

/-- What is read of a document after a statement, from the rest of its line on. -/
def readAfter (fuel : Nat) (s : Reading) (r : List Char) : Option Entries :=
  (skipComment (skipBlanks r)).bind fun
    | [] => some s.document
    | '\n' :: r => readLines fuel s r
    | _ => none

theorem readLines_statement {s : Reading} {c : Char} (hc : isBlank c = false ∧ c ≠ '\n' ∧ c ≠ '#')
    (fuel : Nat) (cs : List Char) :
    readLines (fuel + 1) s (c :: cs) =
      (readStatement s (c :: cs)).bind fun p => readAfter fuel p.1 p.2 := by
  have hskip : skipBlanks (c :: cs) = c :: cs := by simp [skipBlanks, hc.1]
  rw [readLines, hskip]
  simp [hc.2.1, hc.2.2]
  rfl

theorem Holds.readAfter {fuel : Nat} {s : Reading} {r : List Char} (h : Holds v k ps s.document)
    (hlines : ∀ cs, readLines fuel s cs = some es → Holds v k ps es)
    (hr : readAfter fuel s r = some es) : Holds v k ps es := by
  obtain ⟨rest, -, hr⟩ := Option.bind_eq_some_iff.mp hr
  split at hr
  · cases hr
    exact h
  · exact hlines _ hr
  · cases hr

/-- **What a document holds stays in it** while the rest of its lines is read. -/
theorem Holds.readLines {fuel : Nat} {s : Reading} {cs : List Char} (h : Holds v k ps s.document)
    (hr : readLines fuel s cs = some es) : Holds v k ps es := by
  induction fuel generalizing s cs with
  | zero => cases hr
  | succ fuel ih =>
    rw [Toml.readLines] at hr
    split at hr
    · cases hr
      exact h
    · exact ih h hr
    · split at hr
      · exact h.readAfter (fun _ => ih h) hr
      · obtain ⟨⟨s', r⟩, hs, hr⟩ := Option.bind_eq_some_iff.mp hr
        have h' := h.readStatement hs
        exact h'.readAfter (fun _ => ih h') hr

/-! ## Lines -/

/-- A line of a written document. -/
inductive Line where
  /-- An empty line. -/
  | blank
  /-- The header of a table. -/
  | header (name : String)
  /-- A text under a name. -/
  | text (name value : String)
  /-- A truth value under a name. -/
  | word (name : String) (value : Bool)
  deriving DecidableEq, Repr, Inhabited

namespace Line

/-- The name on a line. -/
def name? : Line → Option String
  | .blank => none
  | .header n | .text n _ | .word n _ => some n

/-- The text on a line. -/
def value? : Line → Option String
  | .text _ s => some s
  | _ => none

/-- A line as it is written: a text stands between quotes as it is. -/
def written : Line → List Char
  | .blank => []
  | .header n => '[' :: (n.toList ++ [']'])
  | .text n s => n.toList ++ " = ".toList ++ '"' :: (s.toList ++ ['"'])
  | .word n b => n.toList ++ " = ".toList ++ (if b then "true" else "false").toList

/-- A line whose name needs no quotes. -/
def HasBareName (l : Line) : Prop := ∀ n ∈ l.name?, n.toList ≠ [] ∧ n.toList.all isBare = true

end Line

/-- What has been read, and a value under a name in the table that keys are put into. -/
def Reading.put (s : Reading) (name : String) (v : Value) : Option Reading :=
  (s.document.within (Entries.assign s.part name v []) s.header).map fun es =>
    { s with document := es }

/-- What has been read, and a line. -/
def Line.apply (s : Reading) : Line → Option Reading
  | .blank => some s
  | .header n => (s.document.declare { last := n }).map fun es => ⟨es, [n], s.part + 1⟩
  | .text n t => s.put n (.str t)
  | .word n b => s.put n (.bool b)

/-- The characters of lines. -/
def writtenLines (ls : List Line) : List Char := ls.flatMap fun l => l.written ++ ['\n']

/-! ### Names -/

theorem isBare_ne {c d : Char} (h : isBare c = true) (hd : isBare d = false) : c ≠ d := by
  rintro rfl
  rw [h] at hd
  cases hd

section Names

variable {name : String} (hne : name.toList ≠ []) (hbare : name.toList.all isBare = true)
include hne hbare

/-- A name without quotes begins with a character that begins nothing else. -/
theorem bare_eq_cons : ∃ c cs, name.toList = c :: cs ∧ isBare c = true ∧
    isBlank c = false ∧ c ≠ '\n' ∧ c ≠ '#' ∧ c ≠ '[' := by
  cases hn : name.toList with
  | nil => exact absurd hn hne
  | cons c cs =>
    rw [hn, List.all_cons, Bool.and_eq_true] at hbare
    have hc := hbare.1
    refine ⟨c, cs, rfl, hc, ?_, isBare_ne hc (by decide), isBare_ne hc (by decide),
      isBare_ne hc (by decide)⟩
    have h₁ : c ≠ ' ' := isBare_ne hc (by decide)
    have h₂ : c ≠ '\t' := isBare_ne hc (by decide)
    simp [isBlank, h₁, h₂]

theorem readKeyPart_bare {c : Char} (hc : isBare c = false) (r : List Char) :
    readKeyPart (name.toList ++ c :: r) = some (name, c :: r) := by
  obtain ⟨d, ds, hname, hd, -⟩ := bare_eq_cons hne hbare
  have hall : ∀ x ∈ name.toList, isBare x = true := List.all_eq_true.mp hbare
  have htake : (name.toList ++ c :: r).takeWhile isBare = name.toList := by
    rw [List.takeWhile_append_of_pos hall, List.takeWhile_cons_of_neg (by simp [hc]),
      List.append_nil]
  have hdrop : (name.toList ++ c :: r).dropWhile isBare = c :: r := by
    rw [List.dropWhile_append_of_pos hall, List.dropWhile_cons_of_neg (by simp [hc])]
  unfold readKeyPart
  split
  · rename_i heq
    rw [hname] at heq
    exact absurd (List.cons.inj heq).1 (isBare_ne hd (by decide))
  · rename_i heq
    rw [hname] at heq
    exact absurd (List.cons.inj heq).1 (isBare_ne hd (by decide))
  · rw [htake, hdrop]
    simpa using hne

/-- A name without quotes is read up to what follows it. -/
theorem readKey_bare {c d : Char} (hc : isBare c = false) {r r' : List Char}
    (hskip : skipBlanks (c :: r) = d :: r') (hd : d ≠ '.') (fuel : Nat) :
    readKey (fuel + 1) (name.toList ++ c :: r) = some ({ last := name }, d :: r') := by
  simp only [readKey, readKeyPart_bare hne hbare hc, Option.bind_eq_bind, Option.bind_some, hskip]
  simp [hd]

theorem readStatement_header (s : Reading) (r : List Char) :
    readStatement s ('[' :: (name.toList ++ ']' :: r)) =
      (s.document.declare { last := name }).map fun es => (⟨es, [name], s.part + 1⟩, r) := by
  obtain ⟨c, cs, hname, -, hblank, -, -, hopen⟩ := bare_eq_cons hne hbare
  have hskip : skipBlanks (name.toList ++ ']' :: r) = name.toList ++ ']' :: r := by
    simp [hname, skipBlanks, hblank]
  have hkey := readKey_bare hne hbare (c := ']') (by decide) (r := r) rfl (by decide)
  unfold readStatement
  split
  · rename_i heq
    rw [List.cons_inj_right, hname] at heq
    exact absurd (List.cons.inj heq).1 hopen
  · rename_i r' _ heq
    obtain rfl := (List.cons_inj_right _).mp heq
    simp only [hskip, hkey, Option.bind_eq_bind, Option.bind_some]
    cases s.document.declare { last := name } <;> rfl
  · rename_i h₁ h₂
    exact absurd rfl (h₂ _)

theorem readStatement_entry (s : Reading) {c : Char} (hc : isBlank c = false) (r : List Char) :
    ∃ fuel, readStatement s (name.toList ++ " = ".toList ++ c :: r) =
      (readValue (fuel + 1) (c :: r)).bind fun p => (s.put name p.1).map fun s' => (s', p.2) := by
  obtain ⟨d, cs, hname, -, -, -, -, hopen⟩ := bare_eq_cons hne hbare
  have hkey := readKey_bare hne hbare (c := ' ') (by decide) (r := '=' :: ' ' :: c :: r) rfl (by decide)
  have hskip : skipBlanks (' ' :: c :: r) = c :: r := by
    rw [skipBlanks, List.dropWhile_cons_of_pos (by decide), List.dropWhile_cons_of_neg (by simp [hc])]
  have htext : name.toList ++ " = ".toList ++ c :: r = name.toList ++ ' ' :: '=' :: ' ' :: c :: r := by
    simp
  refine ⟨(name.toList ++ " = ".toList ++ c :: r).length, ?_⟩
  rw [htext]
  unfold readStatement
  split
  · rename_i heq
    rw [hname] at heq
    exact absurd (List.cons.inj heq).1 hopen
  · rename_i heq
    rw [hname] at heq
    exact absurd (List.cons.inj heq).1 hopen
  · simp only [hkey, expect, beq_self_eq_true, if_true, hskip, Option.bind_eq_bind, Option.bind_some,
      Reading.put]
    refine Option.bind_congr fun p _ => ?_
    cases s.document.within (Entries.assign s.part name p.1 []) s.header <;> rfl

end Names

/-! ### What lines do -/

theorem readAfter_newline (fuel : Nat) (s : Reading) (r : List Char) :
    readAfter fuel s ('\n' :: r) = readLines fuel s r := by
  have hskip : skipBlanks ('\n' :: r) = '\n' :: r := rfl
  simp [readAfter, hskip, skipComment]

/-- What is read of a line with a name, whatever its value. -/
theorem readLines_entry {name : String} (hne : name.toList ≠ []) (hbare : name.toList.all isBare = true)
    (fuel : Nat) (s : Reading) {c : Char} (hc : isBlank c = false) (r : List Char) :
    ∃ n, readLines (fuel + 1) s (name.toList ++ " = ".toList ++ c :: r) =
      (readValue (n + 1) (c :: r)).bind fun p =>
        (s.put name p.1).bind fun s' => readAfter fuel s' p.2 := by
  obtain ⟨d, cs, hname, -, hd⟩ := bare_eq_cons hne hbare
  obtain ⟨n, hread⟩ := readStatement_entry hne hbare s hc r
  refine ⟨n, ?_⟩
  rw [hname] at hread ⊢
  simp only [List.cons_append] at hread ⊢
  rw [readLines_statement ⟨hd.1, hd.2.1, hd.2.2.1⟩, hread, Option.bind_assoc]
  refine Option.bind_congr fun p _ => ?_
  rw [Option.bind_map]
  rfl

/-- Whether every text stands for itself. -/
def Line.IsPlain (l : Line) : Prop := ∀ s ∈ l.value?, Toml.IsPlain s

/-- A plain line does what it says. -/
theorem readLines_line {l : Line} (hl : l.HasBareName) (hp : l.IsPlain) (fuel : Nat) (s : Reading)
    (r : List Char) :
    readLines (fuel + 1) s (l.written ++ '\n' :: r) = (l.apply s).bind fun s' => readLines fuel s' r := by
  cases l with
  | blank => rfl
  | header n =>
    obtain ⟨hne, hbare⟩ := hl n rfl
    have hread := readStatement_header hne hbare s ('\n' :: r)
    have htext : (Line.header n).written ++ '\n' :: r = '[' :: (n.toList ++ ']' :: '\n' :: r) := by
      simp [Line.written]
    rw [htext, readLines_statement (by decide), hread, Line.apply, Option.bind_map, Option.bind_map]
    exact Option.bind_congr fun es _ => readAfter_newline _ _ _
  | text n t =>
    obtain ⟨hne, hbare⟩ := hl n rfl
    have hplain := hp t rfl
    have htext : (Line.text n t).written ++ '\n' :: r =
        n.toList ++ " = ".toList ++ '"' :: (t.toList ++ '"' :: '\n' :: r) := by
      simp [Line.written]
    obtain ⟨m, hread⟩ := readLines_entry hne hbare fuel s (c := '"') (by decide)
      (t.toList ++ '"' :: '\n' :: r)
    rw [htext, hread, readValue, readText_line (opensLong_of_plain hplain), readBasic_plain hplain]
    simp [Line.apply, readAfter_newline]
  | word n b =>
    obtain ⟨hne, hbare⟩ := hl n rfl
    cases b with
    | true =>
      have htext : (Line.word n true).written ++ '\n' :: r =
          n.toList ++ " = ".toList ++ 't' :: ("rue".toList ++ '\n' :: r) := by
        simp [Line.written]
      obtain ⟨m, hread⟩ := readLines_entry hne hbare fuel s (c := 't') (by decide)
        ("rue".toList ++ '\n' :: r)
      rw [htext, hread]
      simp [readValue, readScalar, Line.apply, readAfter_newline]
    | false =>
      have htext : (Line.word n false).written ++ '\n' :: r =
          n.toList ++ " = ".toList ++ 'f' :: ("alse".toList ++ '\n' :: r) := by
        simp [Line.written]
      obtain ⟨m, hread⟩ := readLines_entry hne hbare fuel s (c := 'f') (by decide)
        ("alse".toList ++ '\n' :: r)
      rw [htext, hread]
      simp [readValue, readScalar, Line.apply, readAfter_newline]

/-- **Plain lines do what they say,** one after the other. -/
theorem readLines_lines {ls : List Line} (hl : ∀ l ∈ ls, l.HasBareName) (hp : ∀ l ∈ ls, l.IsPlain)
    {fuel : Nat} (hfuel : ls.length < fuel) (s : Reading) :
    readLines fuel s (writtenLines ls) = (ls.foldlM Line.apply s).map Reading.document := by
  induction ls generalizing fuel s with
  | nil =>
    obtain ⟨fuel, rfl⟩ := Nat.exists_eq_succ_of_ne_zero (Nat.ne_of_gt hfuel)
    rfl
  | cons l ls ih =>
    obtain ⟨fuel, rfl⟩ := Nat.exists_eq_succ_of_ne_zero (Nat.ne_of_gt (Nat.zero_lt_of_lt hfuel))
    rw [List.forall_mem_cons] at hl hp
    have htext : writtenLines (l :: ls) = l.written ++ '\n' :: writtenLines ls := by
      simp [writtenLines]
    rw [htext, readLines_line hl.1 hp.1, List.foldlM_cons, Option.bind_eq_bind, Option.map_bind]
    exact Option.bind_congr fun s' _ => ih hl.2 hp.2 (by simpa using hfuel) s'

/-! ## Lines that are not plain -/

/-- Keys are put at the top, or into a table at the top. -/
def Reading.IsShallow (s : Reading) : Prop :=
  s.header = [] ∨ ∃ h o t, s.header = [h] ∧ s.document.get? h = some (.table o t)

theorem holds_put {s s' : Reading} (hs : s.IsShallow) (h : s.put k v = some s') :
    Holds v k s.header s'.document ∧ s'.header = s.header ∧ s'.IsShallow := by
  obtain ⟨es, hes, rfl⟩ := Option.map_eq_some_iff.mp h
  have assigned {es es' : Entries} (h : Entries.assign s.part k v [] es = some es') :
      es'.get? k = some (.leaf v) := by
    rw [Entries.assign] at h
    split at h
    · cases h
    · cases h
      rw [Entries.get?_set, if_pos rfl]
  rcases hs with hs | ⟨p, o, t, hs, hp⟩
  · rw [hs] at hes ⊢
    exact ⟨assigned hes, rfl, .inl rfl⟩
  · rw [hs, Entries.within, hp] at hes
    obtain ⟨t', ht', rfl⟩ := Option.map_eq_some_iff.mp hes
    have hget : (s.document.set p (.table o t')).get? p = some (.table o t') := by
      rw [Entries.get?_set, if_pos rfl]
    rw [hs]
    exact ⟨⟨o, t', hget, assigned ht'⟩, rfl, .inr ⟨p, o, t', rfl, hget⟩⟩

/-- The texts of lines, with the names that lead to them. -/
def textsUnder (path : List String) : List Line → List (List String × String × String)
  | [] => []
  | .header n :: ls => textsUnder [n] ls
  | .text n t :: ls => (path, n, t) :: textsUnder path ls
  | .blank :: ls | .word _ _ :: ls => textsUnder path ls

/-- What a line does to the table that keys are put into. -/
theorem shallow_apply {s s' : Reading} {l : Line} (hs : s.IsShallow) (h : l.apply s = some s') :
    s'.IsShallow ∧ ∀ ls, textsUnder s'.header ls ⊆ textsUnder s.header (l :: ls) := by
  cases l with
  | blank =>
    cases h
    exact ⟨hs, fun _ => List.Subset.refl _⟩
  | header n =>
    obtain ⟨es, hes, rfl⟩ := Option.map_eq_some_iff.mp h
    refine ⟨.inr ⟨n, ?_⟩, fun _ => List.Subset.refl _⟩
    simp only [Entries.declare, Entries.within] at hes
    split at hes
    · cases hes
      exact ⟨_, _, rfl, by rw [Entries.get?_set, if_pos rfl]⟩
    · cases hes
      exact ⟨_, _, rfl, by rw [Entries.get?_set, if_pos rfl]⟩
    · cases hes
  | text n t =>
    obtain ⟨-, hheader, hs'⟩ := holds_put hs h
    rw [hheader]
    exact ⟨hs', fun _ => List.subset_cons_self _ _⟩
  | word n b =>
    obtain ⟨-, hheader, hs'⟩ := holds_put hs h
    rw [hheader]
    exact ⟨hs', fun _ => List.Subset.refl _⟩

/-- **A line that is not plain is noticed.** If the document can be read at all, it holds a cut text in
place of one that was written. -/
theorem plain_or_cut {ls : List Line} (hl : ∀ l ∈ ls, l.HasBareName)
    (hlong : ∀ l ∈ ls, ∀ t ∈ l.value?, opensLong t.toList = false) {fuel : Nat}
    (hfuel : ls.length < fuel) {s : Reading} (hs : s.IsShallow)
    (hread : readLines fuel s (writtenLines ls) = some es) :
    (∀ l ∈ ls, l.IsPlain) ∨
      ∃ x ∈ textsUnder s.header ls, ∃ v, IsCut v x.2.2 ∧ Holds (.str v) x.2.1 x.1 es := by
  induction ls generalizing fuel s with
  | nil => exact .inl (by simp)
  | cons l ls ih =>
    obtain ⟨fuel, rfl⟩ := Nat.exists_eq_succ_of_ne_zero (Nat.ne_of_gt (Nat.zero_lt_of_lt hfuel))
    rw [List.forall_mem_cons] at hl hlong
    have htext : writtenLines (l :: ls) = l.written ++ '\n' :: writtenLines ls := by
      simp [writtenLines]
    rw [htext] at hread
    by_cases hp : l.IsPlain
    · rw [readLines_line hl.1 hp] at hread
      obtain ⟨s', hs', hread⟩ := Option.bind_eq_some_iff.mp hread
      obtain ⟨hshallow, hsub⟩ := shallow_apply hs hs'
      rcases ih hl.2 hlong.2 (by simpa using hfuel) hshallow hread with h | ⟨x, hx, h⟩
      · exact .inl (List.forall_mem_cons.mpr ⟨hp, h⟩)
      · exact .inr ⟨x, hsub ls hx, h⟩
    · -- Only a text can fail to be plain; what is read of it stays in the document.
      right
      obtain ⟨n, t, rfl⟩ : ∃ n t, l = .text n t := by
        cases l with
        | text n t => exact ⟨n, t, rfl⟩
        | blank | header | word => exact absurd (fun s hs => by cases hs) hp
      obtain ⟨hne, hbare⟩ := hl.1 n rfl
      have htext : (Line.text n t).written ++ '\n' :: writtenLines ls =
          n.toList ++ " = ".toList ++ '"' :: (t.toList ++ '"' :: '\n' :: writtenLines ls) := by
        simp [Line.written]
      obtain ⟨m, hentry⟩ := readLines_entry hne hbare fuel s (c := '"') (by decide)
        (t.toList ++ '"' :: '\n' :: writtenLines ls)
      rw [htext, hentry, readValue] at hread
      obtain ⟨p, hp', hread⟩ := Option.bind_eq_some_iff.mp hread
      obtain ⟨⟨v, r⟩, htext, rfl⟩ := Option.map_eq_some_iff.mp hp'
      obtain ⟨s', hput, hread⟩ := Option.bind_eq_some_iff.mp hread
      have hcut := isCut_of_readText (hlong.1 t rfl) (fun h => hp fun _ hs => by cases hs; exact h) htext
      have hholds := (holds_put hs hput).1
      exact ⟨(s.header, n, t), by simp [textsUnder], v, hcut,
        hholds.readAfter (fun _ => hholds.readLines) hread⟩

/-! ## Line ends -/

/-- A line whose text has its line ends joined. -/
def Line.joined : Line → Line
  | .text n t => .text n (String.ofList (joinFeeds t.toList))
  | l => l

theorem joinFeeds_written {l : Line} (hl : l.HasBareName) (r : List Char) :
    joinFeeds (l.written ++ '\n' :: r) = l.joined.written ++ '\n' :: joinFeeds r := by
  have hname {n : String} (hn : n ∈ l.name?) : '\r' ∉ n.toList := fun hm =>
    absurd (List.all_eq_true.mp (hl n hn).2 _ hm) (by decide)
  cases l with
  | blank => exact joinFeeds_append (a := ['\n']) (by simp) r
  | header n =>
    have h := joinFeeds_append (a := '[' :: (n.toList ++ [']', '\n'])) (by simp [hname rfl]) r
    simpa [Line.written, Line.joined] using h
  | text n t =>
    have h := joinFeeds_append (a := n.toList ++ " = \"".toList) (by simp [hname rfl])
      (t.toList ++ '"' :: '\n' :: r)
    rw [joinFeeds_append_quote, joinFeeds.eq_3 _ _ (by simp)] at h
    simpa [Line.written, Line.joined] using h
  | word n b =>
    have h := joinFeeds_append (a := n.toList ++ " = ".toList ++
      (if b then "true" else "false").toList ++ ['\n']) (by cases b <;> simp [hname rfl]) r
    simpa [Line.written, Line.joined] using h

theorem joinFeeds_writtenLines {ls : List Line} (hl : ∀ l ∈ ls, l.HasBareName) :
    joinFeeds (writtenLines ls) = writtenLines (ls.map Line.joined) := by
  induction ls with
  | nil => rfl
  | cons l ls ih =>
    rw [List.forall_mem_cons] at hl
    have h := joinFeeds_written hl.1 (writtenLines ls)
    rw [ih hl.2] at h
    simpa [writtenLines] using h

namespace Line

theorem joined_of_plain {l : Line} (h : l.IsPlain) : l.joined = l := by
  cases l with
  | text n t =>
    have hjoin := joinFeeds_append (return_notMem_of_plain (h t rfl)) []
    rw [List.append_nil, joinFeeds, List.append_nil] at hjoin
    rw [joined, hjoin, String.ofList_toList]
  | blank | header | word => rfl

theorem isPlain_of_joined {l : Line} (h : l.joined.IsPlain) : l.IsPlain := by
  cases l with
  | text n t =>
    have hplain : (joinFeeds t.toList).all Toml.isPlain = true := by
      simpa [Toml.IsPlain] using h _ rfl
    have hjoin := joinFeeds_of_plain hplain
    rintro _ ⟨⟩
    rwa [hjoin] at hplain
  | blank | header | word => exact h

theorem hasBareName_joined {l : Line} (h : l.HasBareName) : l.joined.HasBareName := by
  cases l <;> exact h

theorem opensLong_joined {l : Line} (h : ∀ t ∈ l.value?, opensLong t.toList = false) :
    ∀ t ∈ l.joined.value?, opensLong t.toList = false := by
  cases l with
  | text n t =>
    rintro _ ⟨⟩
    simpa using opensLong_joinFeeds (h t rfl)
  | blank | header | word => exact h

end Line

theorem exists_of_mem_textsUnder_joined {path : List String} {ls : List Line}
    {x : List String × String × String} (hx : x ∈ textsUnder path (ls.map Line.joined)) :
    ∃ t, (x.1, x.2.1, t) ∈ textsUnder path ls ∧ x.2.2 = String.ofList (joinFeeds t.toList) := by
  induction ls generalizing path with
  | nil => cases hx
  | cons l ls ih =>
    cases l with
    | text n t =>
      rcases List.mem_cons.mp hx with rfl | hx
      · exact ⟨t, List.mem_cons_self, rfl⟩
      · obtain ⟨t, ht, h⟩ := ih hx
        exact ⟨t, List.mem_cons_of_mem _ ht, h⟩
    | blank | header | word => exact ih hx

/-! ## Documents -/

theorem length_lt_writtenLines (ls : List Line) : ls.length < (writtenLines ls).length + 1 := by
  induction ls with
  | nil => simp
  | cons l ls ih =>
    simp only [writtenLines, List.flatMap_cons, List.length_append, List.length_cons] at ih ⊢
    omega

section Documents

variable {ls : List Line} (hl : ∀ l ∈ ls, l.HasBareName)
include hl

/-- **Plain lines make the document that they say.** -/
theorem readDocument_lines (hp : ∀ l ∈ ls, l.IsPlain) :
    readDocument (joinFeeds (writtenLines ls)) = (ls.foldlM Line.apply {}).map Reading.document := by
  have hjoined : ls.map Line.joined = ls := by
    rw [List.map_congr_left fun l h => Line.joined_of_plain (hp l h), List.map_id']
  rw [joinFeeds_writtenLines hl, hjoined, readDocument,
    readLines_lines hl hp (length_lt_writtenLines _)]

/-- **A document with a text that is not plain** cannot be read, or holds a cut text in place of one
that was written. -/
theorem plain_or_cut_document (hlong : ∀ l ∈ ls, ∀ t ∈ l.value?, opensLong t.toList = false)
    (hread : readDocument (joinFeeds (writtenLines ls)) = some es) :
    (∀ l ∈ ls, l.IsPlain) ∨
      ∃ x ∈ textsUnder [] ls, ∃ v, IsCut v x.2.2 ∧ Holds (.str v) x.2.1 x.1 es := by
  have hl' : ∀ l ∈ ls.map Line.joined, l.HasBareName := by
    simpa using fun l h => Line.hasBareName_joined (hl l h)
  have hlong' : ∀ l ∈ ls.map Line.joined, ∀ t ∈ l.value?, opensLong t.toList = false := by
    simpa using fun l h => Line.opensLong_joined (hlong l h)
  rw [joinFeeds_writtenLines hl] at hread
  rcases plain_or_cut hl' hlong' (length_lt_writtenLines _) (.inl rfl) hread with h | ⟨x, hx, v, hv, h⟩
  · exact .inl fun l hmem => Line.isPlain_of_joined (h _ (List.mem_map_of_mem hmem))
  · obtain ⟨t, ht, hxt⟩ := exists_of_mem_textsUnder_joined hx
    rw [hxt] at hv
    exact .inr ⟨_, ht, v, isCut_of_joined hv, h⟩

end Documents

end Facade.Toml
