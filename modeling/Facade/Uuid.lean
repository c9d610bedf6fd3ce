import Facade.Number.Power
import Facade.Text.CharClass
import Facade.Text.Lines
import Facade.Text.Quoted

/-!
# Universally unique identifiers

* `Uuid.render`: the canonical text, thirty-two lower-case digits in five groups.
* `Uuid.parse?`: reads every accepted spelling.
* `Uuid.ofBits`: the identifiers that a source of randomness yields.
-/

namespace Facade

/-- A 128-bit identifier. -/
structure Uuid where
  /-- The bits as a number below `2 ^ 128`. -/
  value : Nat
  deriving DecidableEq, Repr, Inhabited

namespace Uuid

/-- The canonical text. -/
def render (u : Uuid) : String :=
  let h := Text.hexPadded 32 u.value
  String.ofList (h.take 8 ++ '-' :: (h.drop 8).take 4 ++ '-' :: (h.drop 12).take 4 ++
    '-' :: (h.drop 16).take 4 ++ '-' :: h.drop 20)

/-- The digits without the lines between their groups. -/
def hex (u : Uuid) : String := String.ofList (Text.hexPadded 32 u.value)

/-- The identifier that 122 random bits make: the digit after the second line is four, the two bits
after the third line are one and zero, and the random bits are the others. A number below `2 ^ 48`
fills the last group of `00000000-0000-4000-8000-…`. -/
def ofBits (n : Nat) : Uuid :=
  let first := n / 2 ^ 74 % 2 ^ 48
  let middle := n / 2 ^ 62 % 2 ^ 12
  let last := n % 2 ^ 62
  ⟨first * 2 ^ 80 + 4 * 2 ^ 76 + middle * 2 ^ 64 + 2 * 2 ^ 62 + last⟩

/-! ## Reading -/

/-- The text without any of the occurrences of a word, found from left to right. -/
def removeAll (w : List Char) : List Char → List Char
  | [] => []
  | c :: r =>
    if w ≠ [] ∧ w.isPrefixOf (c :: r) then removeAll w (r.drop (w.length - 1))
    else c :: removeAll w r
termination_by cs => cs.length
decreasing_by all_goals (simp only [List.length_cons, List.length_drop]; omega)

/-- The value of a hexadecimal digit; decimal digits may be of any script. -/
def hexVal? (c : Char) : Option Nat :=
  if 'a' ≤ c ∧ c ≤ 'f' then some (c.toNat - 'a'.toNat + 10)
  else if 'A' ≤ c ∧ c ≤ 'F' then some (c.toNat - 'A'.toNat + 10)
  else Text.decimalDigit? c

/-- The value of hexadecimal digits with single underscores between them. -/
def hexDigits? (acc : Nat) : List Char → Option Nat
  | [] => none
  | [c] => (hexVal? c).map (16 * acc + ·)
  | c :: '_' :: r => (hexVal? c).bind fun d => hexDigits? (16 * acc + d) r
  | c :: r => (hexVal? c).bind fun d => hexDigits? (16 * acc + d) r

/-- The value of a hexadecimal integer: blanks around it, a sign, the mark `0x` and an underscore
after the mark are accepted. -/
def hexInt? (cs : List Char) : Option Int :=
  let cs := Text.strip cs
  let (negative, cs) := match cs with
    | '-' :: r => (true, r)
    | '+' :: r => (false, r)
    | _ => (false, cs)
  let cs := match cs with
    | '0' :: 'x' :: '_' :: r => r
    | '0' :: 'X' :: '_' :: r => r
    | '0' :: 'x' :: r => r
    | '0' :: 'X' :: r => r
    | _ => cs
  (hexDigits? 0 cs).map fun n => if negative then -(n : Int) else n

/-- The identifier that a text spells. -/
def parse? (s : String) : Option Uuid :=
  let cs := removeAll ['u', 'u', 'i', 'd', ':'] (removeAll ['u', 'r', 'n', ':'] s.toList)
  let cs := (Text.stripBy (fun c => c == '{' || c == '}') cs).filter (· != '-')
  if cs.length = 32 then
    match hexInt? cs with
    | some (.ofNat n) => some ⟨n⟩
    | _ => none
  else none

end Uuid

end Facade
