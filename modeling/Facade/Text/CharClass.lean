import Facade.Text.ClassTables

/-!
# Character classes

* `isPrintable`: shown as it is inside a quoted text.
* `isBlank`: removed at the ends of a text by `strip`.
* `isIdentifier`: a start character followed by continuing ones.
* `decimalDigit?`: the value of a digit in any script.
-/

namespace Facade.Text

/-- Whether a code point lies in one of the ranges. -/
def inRanges (ranges : List (Nat × Nat)) (n : Nat) : Bool :=
  ranges.any fun r => r.1 ≤ n && n ≤ r.2

/-- A character that a quoted text shows as it is. -/
def isPrintable (c : Char) : Bool :=
  if c.toNat < 0x7f then 0x20 ≤ c.toNat else inRanges ClassTables.printable c.toNat

/-- A character that counts as blank at the ends of a text. -/
def isBlank (c : Char) : Bool :=
  inRanges [(0x9, 0xd), (0x1c, 0x20), (0x85, 0x85), (0xa0, 0xa0), (0x1680, 0x1680),
    (0x2000, 0x200a), (0x2028, 0x2029), (0x202f, 0x202f), (0x205f, 0x205f), (0x3000, 0x3000)]
    c.toNat

/-- A character that may open an identifier. -/
def isIdentifierStart (c : Char) : Bool :=
  c.isAlpha || c == '_' || inRanges ClassTables.identifierStart c.toNat

/-- A character that may stand inside an identifier. -/
def isIdentifierContinue (c : Char) : Bool :=
  c.isAlphanum || c == '_' || inRanges ClassTables.identifierContinue c.toNat

/-- A start character followed by continuing ones. -/
def isIdentifierChars : List Char → Bool
  | [] => false
  | c :: r => isIdentifierStart c && r.all isIdentifierContinue

/-- Whether a text is an identifier; reserved words count as identifiers. -/
def isIdentifier (s : String) : Bool := isIdentifierChars s.toList

/-- The words that cannot be used as names. -/
def keywords : List String :=
  ["False", "None", "True", "and", "as", "assert", "async", "await", "break", "class",
   "continue", "def", "del", "elif", "else", "except", "finally", "for", "from", "global", "if",
   "import", "in", "is", "lambda", "nonlocal", "not", "or", "pass", "raise", "return", "try",
   "while", "with", "yield"]

/-- Whether a text is one of the reserved words. -/
def isKeyword (s : String) : Bool := keywords.contains s

/-- Whether a text can be used as a name: an identifier that is not reserved. -/
def isName (s : String) : Bool := isIdentifier s && !isKeyword s

/-- The value of a decimal digit of any script. -/
def decimalDigit? (c : Char) : Option Nat :=
  (ClassTables.decimalZeros.find? fun z => z ≤ c.toNat && c.toNat ≤ z + 9).map
    fun z => c.toNat - z

/-- A statement about the characters of a closed list is decided one by one. -/
theorem forall_of_all {P : Char → Prop} [DecidablePred P] {cs : List Char}
    (h : cs.all (fun c => decide (P c)) = true) : ∀ c ∈ cs, P c :=
  fun c hc => of_decide_eq_true (List.all_eq_true.mp h c hc)

theorem inRanges_of_lt {ranges : List (Nat × Nat)} {n m : Nat}
    (h : (ranges.all fun r => decide (m ≤ r.1)) = true) (hn : n < m) : inRanges ranges n = false := by
  simp only [inRanges, List.any_eq_false, Bool.and_eq_true, decide_eq_true_eq, not_and]
  intro r hr hle
  have := of_decide_eq_true (List.all_eq_true.mp h r hr)
  omega

/-- The tables begin behind ASCII. -/
theorem identifierTables_above : (ClassTables.identifierStart.all fun r => decide (128 ≤ r.1)) = true ∧
    (ClassTables.identifierContinue.all fun r => decide (128 ≤ r.1)) = true := by decide +kernel

theorem isIdentifierStart_of_ascii {c : Char} (hc : c.toNat < 128) :
    isIdentifierStart c = (c.isAlpha || c == '_') := by
  rw [isIdentifierStart, inRanges_of_lt identifierTables_above.1 hc, Bool.or_false]

theorem isIdentifierContinue_of_ascii {c : Char} (hc : c.toNat < 128) :
    isIdentifierContinue c = (c.isAlphanum || c == '_') := by
  rw [isIdentifierContinue, inRanges_of_lt identifierTables_above.2 hc, Bool.or_false]

end Facade.Text
