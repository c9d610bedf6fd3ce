import Facade.Number.Binary64
import Facade.Text.Lines

/-!
# Reading decimals

* `readDigits`: digits of ASCII, single underscores allowed between them.
* `readDecimal?`: an unsigned decimal number with optional fraction and exponent.
* `readFloat?`: a signed number, an infinity or the number that is none.
-/

namespace Facade.Number

/-- The value of an ASCII digit. -/
def digitVal (c : Char) : Nat := c.toNat - '0'.toNat

/-- The value of a list of ASCII digits. -/
def digitsVal (ds : List Char) : Nat := ds.foldl (fun n c => 10 * n + digitVal c) 0

/-- The digits at the front of a text, without the single underscores between them, and what
follows. -/
def readDigits : List Char → List Char × List Char
  | [] => ([], [])
  | [c] => if c.isDigit then ([c], []) else ([], [c])
  | c :: d :: r =>
    if c.isDigit then
      if d == '_' then
        match r with
        | e :: _ =>
          if e.isDigit then
            let p := readDigits r
            (c :: p.1, p.2)
          else ([c], d :: r)
        | [] => ([c], d :: r)
      else
        let p := readDigits (d :: r)
        (c :: p.1, p.2)
    else ([], c :: d :: r)

/-- The exponent at the front of a text, zero if there is none, and what follows. -/
def readExponent (cs : List Char) : Int × List Char :=
  match cs with
  | e :: r =>
    if e == 'e' || e == 'E' then
      let (negative, r') := match r with
        | '+' :: r' => (false, r')
        | '-' :: r' => (true, r')
        | _ => (false, r)
      match readDigits r' with
      | ([], _) => (0, cs)
      | (ds, rest) => (if negative then -(digitsVal ds : Int) else digitsVal ds, rest)
    else (0, cs)
  | [] => (0, cs)

/-- An unsigned decimal at the front of a text: its digits as an integer, the power of ten, and
what follows. -/
def readDecimal? (cs : List Char) : Option ((Nat × Int) × List Char) :=
  let (whole, r) := readDigits cs
  let (frac, r) := match r with
    | '.' :: r' => readDigits r'
    | _ => ([], r)
  if whole.isEmpty && frac.isEmpty then none
  else
    let (e, r) := readExponent r
    some ((digitsVal (whole ++ frac), e - frac.length), r)

/-- The number that a whole text denotes. -/
def readFloat? (s : String) : Option Binary64 :=
  let cs := Text.strip s.toList
  let (negative, cs) := match cs with
    | '-' :: r => (true, r)
    | '+' :: r => (false, r)
    | _ => (false, cs)
  let word := String.ofList (cs.map Char.toLower)
  if word == "inf" || word == "infinity" then some (.infinity negative)
  else if word == "nan" then some .nan
  else match readDecimal? cs with
    | some ((d, k), []) => some (.ofDecimal negative d k)
    | _ => none

end Facade.Number
