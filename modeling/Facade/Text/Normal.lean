import Facade.Text.CharClass
import Facade.Text.NormalTables

/-!
# Normal forms of names

A name in a source stands for its normal form KC: characters that only look different become the same,
and marks are joined with the letters that they belong to. Two names of which one is written with wide
letters or ligatures can therefore be one.

* `decomposed`, `ordered`, `composed`: the three steps, over code points.
* `normal`: the normal form of a text.
* `isPlainName`: a name that is its own normal form, and so stands for itself.
* `normal_underscore`: an underscore in front stays in front.
-/

namespace Facade.Text

/-! ## Syllables of Hangul -/

namespace Hangul

/-- The first syllable. -/
def firstSyllable : Nat := 0xac00

/-- The first leading consonant. -/
def firstLead : Nat := 0x1100

/-- The first vowel. -/
def firstVowel : Nat := 0x1161

/-- What stands before the first trailing consonant. -/
def beforeTrail : Nat := 0x11a7

/-- Whether a code point is one of `count` from a first one on. -/
def isAmong (first count n : Nat) : Bool := first ≤ n && n < first + count

/-- Whether a code point is a syllable. -/
def isSyllable (n : Nat) : Bool := isAmong firstSyllable 11172 n

/-- The letters of a syllable; the last one may be missing. -/
def letters (n : Nat) : List Nat :=
  let i := n - firstSyllable
  [firstLead + i / 588, firstVowel + i % 588 / 28] ++
    if i % 28 = 0 then [] else [beforeTrail + i % 28]

/-- The syllable of two letters, or of a syllable without a last letter and that letter. -/
def syllable? (a b : Nat) : Option Nat :=
  if isAmong firstLead 19 a && isAmong firstVowel 21 b then
    some (firstSyllable + (21 * (a - firstLead) + (b - firstVowel)) * 28)
  else if isSyllable a && (a - firstSyllable) % 28 = 0 && isAmong (beforeTrail + 1) 27 b then
    some (a + (b - beforeTrail))
  else none

end Hangul

/-! ## The three steps -/

/-- The combining class of a code point. -/
def combiningClass (n : Nat) : Nat :=
  ((NormalTables.combining.find? fun r => r.1 ≤ n && n ≤ r.2.1).map fun r => r.2.2).getD 0

/-- What a code point that is not composed of two is decomposed into. -/
def expansion (n : Nat) : List Nat :=
  match NormalTables.expansions.find? fun e => e.1 == n with
  | some e => e.2
  | none => [(NormalTables.images.findSome? fun b => if b.1 ≤ n then b.2[n - b.1]? else none).getD n]

/-- What a code point is decomposed into. Pairs stand in pairs, but not more than `depth` deep. -/
def decomposed : Nat → Nat → List Nat
  | 0, n => expansion n
  | depth + 1, n =>
    if Hangul.isSyllable n then Hangul.letters n
    else match NormalTables.pairs.find? fun p => p.2.2 == n with
      | some p => decomposed depth p.1 ++ [p.2.1]
      | none => expansion n

/-- Puts a code point in front of ordered ones: a mark goes behind those of lower classes. -/
def place (n : Nat) : List Nat → List Nat
  | [] => [n]
  | m :: r =>
    if combiningClass m != 0 && combiningClass m < combiningClass n then m :: place n r
    else n :: m :: r

/-- Marks that stand in a row by their classes. -/
def ordered (ns : List Nat) : List Nat := ns.foldr place []

/-- What two code points are composed to, if they are. -/
def compose? (a b : Nat) : Option Nat :=
  (Hangul.syllable? a b).or
    ((NormalTables.pairs.find? fun p => p.1 == a && p.2.1 == b).map fun p => p.2.2)

/-- Composes what follows with a letter, behind marks that could not be composed with it, last one
first. A mark goes past them if its class is higher. -/
def composeWith (letter : Nat) (marks : List Nat) : List Nat → List Nat
  | [] => letter :: marks.reverse
  | n :: r =>
    let blocked := marks.head?.any fun m => combiningClass n ≤ combiningClass m
    match if blocked then none else compose? letter n with
    | some m => composeWith m marks r
    | none =>
      if combiningClass n = 0 then letter :: marks.reverse ++ composeWith n [] r
      else composeWith letter (n :: marks) r

/-- Composes ordered code points. -/
def composed : List Nat → List Nat
  | [] => []
  | n :: r => if combiningClass n = 0 then composeWith n [] r else n :: composed r

/-! ## Texts -/

/-- The normal form of code points. -/
def normalCodes (ns : List Nat) : List Nat := composed (ordered (ns.flatMap (decomposed 3)))

/-- The normal form of a text. In ASCII, every text is its own. -/
def normal (s : String) : String :=
  if s.toList.all fun c => c.toNat < 128 then s
  else String.ofList ((normalCodes (s.toList.map Char.toNat)).map Char.ofNat)

/-- Whether a text is its own normal form. -/
def isNormal (s : String) : Bool := normal s == s

/-- Whether a text can be used as a name and stands for itself. -/
def isPlainName (s : String) : Bool := isName s && isNormal s

theorem isPlainName_iff {s : String} :
    isPlainName s = true ↔ isIdentifier s = true ∧ isKeyword s = false ∧ normal s = s := by
  rw [isPlainName, isName, isNormal, Bool.and_eq_true, Bool.and_eq_true, beq_iff_eq,
    Bool.not_eq_true', and_assoc]

theorem isIdentifier_of_isPlainName {s : String} (h : isPlainName s = true) : isIdentifier s = true :=
  (isPlainName_iff.mp h).1

theorem isKeyword_of_isPlainName {s : String} (h : isPlainName s = true) : isKeyword s = false :=
  (isPlainName_iff.mp h).2.1


/-! ## An underscore in front -/

/-- The code point of the underscore. -/
def underscore : Nat := '_'.toNat

/-- Nothing is composed of an underscore and something else, and it is not decomposed. -/
theorem underscore_alone : combiningClass underscore = 0 ∧ decomposed 3 underscore = [underscore] ∧
    (NormalTables.pairs.all fun p => p.1 != underscore) = true := by decide +kernel

theorem compose?_underscore (n : Nat) : compose? underscore n = none := by
  have hpairs : (NormalTables.pairs.find? fun p => p.1 == underscore && p.2.1 == n) = none := by
    refine List.find?_eq_none.mpr fun p hp h => ?_
    have := List.all_eq_true.mp underscore_alone.2.2 p hp
    rw [Bool.and_eq_true, beq_iff_eq] at h
    rw [h.1] at this
    exact absurd this (by decide)
  have hsyllable : Hangul.syllable? underscore n = none := by
    simp [Hangul.syllable?, Hangul.isSyllable, Hangul.isAmong, Hangul.firstLead,
      Hangul.firstSyllable, underscore]
  rw [compose?, hsyllable, hpairs]
  rfl

/-- What stands behind an underscore is composed as if it stood alone. -/
theorem composeWith_underscore (ns : List Nat) : ∀ marks : List Nat,
    composeWith underscore marks ns = underscore :: marks.reverse ++ composed ns := by
  induction ns with
  | nil => intro marks; simp [composeWith, composed]
  | cons n r ih =>
    intro marks
    have hnone : (if marks.head?.any fun m => combiningClass n ≤ combiningClass m then none
        else compose? underscore n) = none := by
      split
      · rfl
      · exact compose?_underscore n
    rw [composeWith, composed]
    simp only [hnone]
    split
    · rfl
    · rw [ih, List.reverse_cons, List.cons_append, List.cons_append, List.append_assoc]
      rfl

theorem normalCodes_underscore (ns : List Nat) :
    normalCodes (underscore :: ns) = underscore :: normalCodes ns := by
  obtain ⟨hclass, hdecomposed, -⟩ := underscore_alone
  have hplace (ms : List Nat) : place underscore ms = underscore :: ms := by
    cases ms with
    | nil => rfl
    | cons m r => rw [place, hclass]; simp
  rw [normalCodes, List.flatMap_cons, hdecomposed, List.singleton_append, ordered, List.foldr_cons,
    hplace, composed, if_pos hclass, composeWith_underscore]
  rfl

/-- **An underscore in front** stays in front of the normal form. -/
theorem normal_underscore (s : String) : normal ("_" ++ s) = "_" ++ normal s := by
  have hchars : ("_" ++ s).toList = '_' :: s.toList := String.toList_append
  have hcode : ('_' : Char).toNat < 128 := by decide
  rw [normal, normal, hchars, List.all_cons, decide_eq_true hcode, Bool.true_and]
  split
  · rfl
  · have hmap : ('_' :: s.toList).map Char.toNat = underscore :: s.toList.map Char.toNat := rfl
    rw [hmap, normalCodes_underscore, List.map_cons]
    exact String.toList_injective (by simp [underscore])

end Facade.Text
