import Facade.Number.Binary64

/-!
# Shortest decimals

Every finite number is a decimal fraction; the shortest text is the one with the fewest digits that
reads back as the number.

* `Binary64.exactDecimal`: the fraction itself.
* `Binary64.shortestDecimal`: the digits of the shortest text.
* `Binary64.wholeDecimal?`: the integer that it is, if it is laid out as one.
* `Binary64.fixed`: the text with a fixed count of places.
* `FloatStyle`: how digits are laid out, and `FloatStyle.render`.
-/

namespace Facade

namespace Binary64

/-- The integer and the power of ten whose product is `m * 2 ^ q`. -/
def exactDecimal (m : Nat) (q : Int) : Nat × Int :=
  if 0 ≤ q then (m * 2 ^ q.toNat, 0) else (m * 5 ^ (-q).toNat, q)

/-- The better of the two neighbours of `d * 10 ^ t` that have `n` digits, if one reads back as `x`;
of two that do, the nearer, and of two equally near ones the even. -/
def neighbour? (x : Binary64) (d : Nat) (t : Int) (n : Nat) : Option (Nat × Int) :=
  let len := digitCount d
  if len ≤ n then some (d, t)
  else
    let unit := 10 ^ (len - n)
    let low := d / unit
    let r := d % unit
    let k := t + (len - n : Nat)
    let hit (c : Nat) : Bool := ofDecimal false c k == x
    let lowFirst := 2 * r < unit || (2 * r == unit && low % 2 == 0)
    let (a, b) := if lowFirst then (low, low + 1) else (low + 1, low)
    if hit a then some (a, k) else if hit b then some (b, k) else none

/-- The fewest digits, starting from `n` of them, that read back as `x = d * 10 ^ t`. -/
def fewestFrom (x : Binary64) (d : Nat) (t : Int) : Nat → Nat → Nat × Int
  | 0, _ => (d, t)
  | fuel + 1, n => (neighbour? x d t n).getD (fewestFrom x d t fuel (n + 1))

/-- Drops the zeros at the end of the digits. -/
def trimZeros : Nat → Nat × Int → Nat × Int
  | 0, p => p
  | fuel + 1, (d, k) => if d ≠ 0 ∧ d % 10 = 0 then trimZeros fuel (d / 10, k + 1) else (d, k)

/-- Digits and power of ten of the shortest decimal of a positive number `m * 2 ^ q`. -/
def shortestDecimal (m : Nat) (q : Int) : Nat × Int :=
  let (d, t) := exactDecimal m q
  trimZeros (digitCount d + 20) (fewestFrom (ofScaled false m q) d t 17 1)

/-- The integer that a number is laid out as, if its shortest decimal is laid out without a point and
without an exponent. -/
def wholeDecimal? (x : Binary64) : Option Nat :=
  match x.parts with
  | .finite _ 0 _ => some 0
  | .finite _ m q =>
    let (d, k) := shortestDecimal m q
    if 0 ≤ k ∧ digitCount d + k ≤ 16 then some (d * 10 ^ k.toNat) else none
  | _ => none

/-- The text of a number with a fixed count of places; a tie goes to the even digit. -/
def fixed (x : Binary64) (places : Nat) : String :=
  match x.parts with
  | .nan => "nan"
  | .inf negative => if negative then "-inf" else "inf"
  | .finite negative m q =>
    let scaled := m * 10 ^ places
    let n := if 0 ≤ q then scaled * 2 ^ q.toNat else roundQuotient scaled (2 ^ (-q).toNat)
    let ds := Nat.toDigits 10 n
    let ds := List.replicate (places + 1 - ds.length) '0' ++ ds
    let whole := ds.take (ds.length - places)
    let text := if places = 0 then whole else whole ++ '.' :: ds.drop (ds.length - places)
    String.ofList (if negative then '-' :: text else text)

end Binary64

/-- How the digits of a number are laid out. -/
structure FloatStyle where
  /-- Whole numbers end in a point and a zero. -/
  pointZero : Bool
  deriving DecidableEq, Repr

namespace FloatStyle

/-- A real number standing alone. -/
def alone : FloatStyle := ⟨true⟩

/-- A part of a complex number. -/
def part : FloatStyle := ⟨false⟩

/-- Digits whose value is `digits * 10 ^ k`: positional when the first digit's exponent is at least
`-4` and below sixteen, else with an exponent of at least two digits. -/
def layDigits (style : FloatStyle) (digits : Nat) (k : Int) : List Char :=
  let ds := Nat.toDigits 10 digits
  let point : Int := ds.length + k
  let tail := if style.pointZero then ['.', '0'] else []
  if -4 < point ∧ point ≤ 16 then
    if point ≤ 0 then '0' :: '.' :: (List.replicate (-point).toNat '0' ++ ds)
    else if (ds.length : Int) ≤ point then
      ds ++ List.replicate (point - ds.length).toNat '0' ++ tail
    else ds.take point.toNat ++ '.' :: ds.drop point.toNat
  else
    let e := point - 1
    let mantissa := match ds with
      | [] => []
      | [d] => [d]
      | d :: r => d :: '.' :: r
    let es := Nat.toDigits 10 e.natAbs
    mantissa ++ 'e' :: (if e < 0 then '-' else '+') ::
      (List.replicate (2 - es.length) '0' ++ es)

/-- The text of a number. -/
def render (style : FloatStyle) (x : Binary64) : String :=
  let signed (negative : Bool) (cs : List Char) : String :=
    String.ofList (if negative then '-' :: cs else cs)
  match x.parts with
  | .nan => "nan"
  | .inf negative => signed negative ['i', 'n', 'f']
  | .finite negative 0 _ => signed negative ('0' :: if style.pointZero then ['.', '0'] else [])
  | .finite negative m q =>
    let (d, k) := Binary64.shortestDecimal m q
    signed negative (style.layDigits d k)

end FloatStyle

/-- The text of a complex number: the imaginary part alone if the real part is a positive zero. -/
def renderComplex (re im : Binary64) : String :=
  let style := FloatStyle.part
  if re.isZero && !re.isNegative then style.render im ++ "j"
  else
    let t := style.render im
    let sign := if t.startsWith "-" then "" else "+"
    "(" ++ style.render re ++ sign ++ t ++ "j)"

end Facade
