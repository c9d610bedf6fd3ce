import Facade.Text.CaseTables
import Facade.Text.CharClass

/-!
# Title case and lower case

Inside each run of cased characters the first one goes to title case and the others to lower case.

* `titleCase`, `lowerCase`: the whole text.
* `capitals`: the text in title case twice over, which leaves no small letter of ASCII.
-/

namespace Facade.Text

/-- Whether a character takes part in case distinctions. -/
def isCased (c : Char) : Bool := inRanges CaseTables.cased c.toNat

/-- Whether a character is skipped when the end of a word is looked for. -/
def isCaseIgnorable (c : Char) : Bool := inRanges CaseTables.caseIgnorable c.toNat

/-- The image of a code point under a list of runs. -/
def runImage? (runs : List (Nat × Nat × Nat × Nat)) (n : Nat) : Option Nat :=
  (runs.find? fun r => r.1 ≤ n && n ≤ r.2.1 && (n - r.1) % r.2.2.1 == 0).map
    fun r => r.2.2.2 + (n - r.1)

/-- The image of a character under a full case mapping. -/
def caseImage (expansions : List (Nat × List Nat)) (runs : List (Nat × Nat × Nat × Nat))
    (c : Char) : List Char :=
  match expansions.find? fun e => e.1 == c.toNat with
  | some e => e.2.map Char.ofNat
  | none => match runImage? runs c.toNat with
    | some n => [Char.ofNat n]
    | none => [c]

/-- Title case of one character. -/
def titleImage : Char → List Char := caseImage CaseTables.titleExpansions CaseTables.titleRuns

/-- Lower case of one character, standing anywhere but at a word's end. -/
def lowerImage : Char → List Char := caseImage CaseTables.lowerExpansions CaseTables.lowerRuns

/-- Whether the next character that counts, if any, is cased. -/
def nextIsCased (cs : List Char) : Bool :=
  match cs.dropWhile isCaseIgnorable with
  | [] => false
  | c :: _ => isCased c

/-- Lower case of one character between what stands before it (nearest first) and after it: a
capital sigma at the end of a word takes its final form. -/
def lowerBetween (before : List Char) (c : Char) (after : List Char) : List Char :=
  if c == 'Σ' then
    if nextIsCased before && !nextIsCased after then ['ς'] else ['σ']
  else lowerImage c

/-- Title case of what follows the reversed text `before`. -/
def titleFrom (before : List Char) : List Char → List Char
  | [] => []
  | c :: r =>
    let image := match before with
      | [] => titleImage c
      | p :: _ => if isCased p then lowerBetween before c r else titleImage c
    image ++ titleFrom (c :: before) r

/-- Title case of a text. -/
def titleCase (s : String) : String := String.ofList (titleFrom [] s.toList)

/-- Lower case of what follows the reversed text `before`. -/
def lowerFrom (before : List Char) : List Char → List Char
  | [] => []
  | c :: r => lowerBetween before c r ++ lowerFrom (c :: before) r

/-- Lower case of a text. -/
def lowerCase (s : String) : String := String.ofList (lowerFrom [] s.toList)

/-- A text in which every character stands in title case, twice over, so that characters that become
several letters end up in capitals too. -/
def capitals (s : String) : String :=
  String.ofList ((s.toList.flatMap titleImage).flatMap titleImage)

end Facade.Text
