import Facade.Number.Power

/-!
# Binary floating point

A `Binary64` is a double-precision number, kept as its 64 bits.

* `Binary64.parts`: what the bits mean, as a sign, an integer and a power of two.
* `Binary64.ofRatio`, `Binary64.ofDecimal`: the nearest number to an exact one, ties to even.
* `Binary64.add`, `Binary64.mul`: sums and products.
-/

namespace Facade

/-- A double-precision number. -/
structure Binary64 where
  /-- Sign, eleven bits of exponent, fifty-two bits of fraction. -/
  bits : UInt64
  deriving DecidableEq, Repr, Inhabited

namespace Binary64

/-- What a number is. -/
inductive Parts where
  /-- Not a number. -/
  | nan
  /-- An infinity. -/
  | inf (negative : Bool)
  /-- The number `± m * 2 ^ q`. -/
  | finite (negative : Bool) (m : Nat) (q : Int)
  deriving DecidableEq, Repr

/-- What the bits mean. -/
def parts (x : Binary64) : Parts :=
  let n := x.bits.toNat
  let negative := decide (2 ^ 63 ≤ n)
  let e : Nat := n / 2 ^ 52 % 2 ^ 11
  let f : Nat := n % 2 ^ 52
  if e = 2047 then (if f = 0 then .inf negative else .nan)
  else if e = 0 then .finite negative f (-1074)
  else .finite negative (f + 2 ^ 52) ((e : Int) - 1075)

/-- The bits of a number from its three fields. -/
def ofFields (negative : Bool) (e f : Nat) : Binary64 :=
  ⟨UInt64.ofNat ((if negative then 2 ^ 63 else 0) + e * 2 ^ 52 + f)⟩

/-- Positive or negative infinity. -/
def infinity (negative : Bool) : Binary64 := ofFields negative 2047 0

/-- The quiet number that is none. -/
def nan : Binary64 := ofFields false 2047 (2 ^ 51)

/-- Whether the sign bit is set. -/
def isNegative (x : Binary64) : Bool := decide (2 ^ 63 ≤ x.bits.toNat)

/-- Whether a number is neither an infinity nor none. -/
def isFinite (x : Binary64) : Bool := x.bits.toNat / 2 ^ 52 % 2 ^ 11 != 2047

/-- Whether a number is a zero of either sign. -/
def isZero (x : Binary64) : Bool := x.bits.toNat % 2 ^ 63 == 0

/-- A quotient rounded to the nearest integer, a half to the even neighbour. -/
def roundQuotient (num den : Nat) : Nat :=
  let d := num / den
  let r := num % den
  if 2 * r < den then d
  else if den < 2 * r then d + 1
  else if d % 2 = 0 then d else d + 1

/-- The number with sign, integer `m ≤ 2 ^ 53` and power of two; too large ones become infinite. -/
def ofScaled (negative : Bool) (m : Nat) (q : Int) : Binary64 :=
  let (m, q) := if m = 2 ^ 53 then (2 ^ 52, q + 1) else (m, q)
  if m < 2 ^ 52 then ofFields negative 0 m
  else
    let e := q + 1075
    if 2047 ≤ e then infinity negative else ofFields negative e.toNat (m - 2 ^ 52)

/-- The number nearest to the quotient of two integers. -/
def ofRatio (negative : Bool) (num den : Nat) : Binary64 :=
  if num = 0 then ofFields negative 0 0
  else
    let guess : Int := (num.log2 : Int) - den.log2 - 52
    let fits (q : Int) : Bool :=
      if 0 ≤ q then num / (den * 2 ^ q.toNat) < 2 ^ 53
      else num * 2 ^ (-q).toNat / den < 2 ^ 53
    let q := if fits (guess - 1) then guess - 1 else if fits guess then guess else guess + 1
    let q := max q (-1074)
    let m := if 0 ≤ q then roundQuotient num (den * 2 ^ q.toNat)
      else roundQuotient (num * 2 ^ (-q).toNat) den
    ofScaled negative m q

/-- How many decimal digits an integer has. -/
def digitCount (n : Nat) : Nat := (Nat.toDigits 10 n).length

/-- The number nearest to `± digits * 10 ^ k`. One that is far too large or too small for its power
of ten to be worked out is told by the place of its first digit. -/
def ofDecimal (negative : Bool) (digits : Nat) (k : Int) : Binary64 :=
  if digits = 0 then ofFields negative 0 0
  else if 400 < k + digitCount digits then infinity negative
  else if k + digitCount digits < -400 then ofFields negative 0 0
  else if 0 ≤ k then ofRatio negative (digits * 10 ^ k.toNat) 1
  else ofRatio negative digits (10 ^ (-k).toNat)

/-- The number nearest to an integer. -/
def ofInt (i : Int) : Binary64 := ofRatio (i < 0) i.natAbs 1

/-- The integer `± m`. -/
def signedInt (negative : Bool) (m : Nat) : Int := if negative then -(m : Int) else m

/-- The sum of two numbers, rounded to the nearest. A sum of zero is negative only if both numbers
are. -/
def add (x y : Binary64) : Binary64 :=
  match x.parts, y.parts with
  | .nan, _ | _, .nan => nan
  | .inf a, .inf b => if a = b then x else nan
  | .inf _, .finite _ _ _ => x
  | .finite _ _ _, .inf _ => y
  | .finite a m q, .finite b n r =>
    let p := min q r
    let sum := signedInt a (m * 2 ^ (q - p).toNat) + signedInt b (n * 2 ^ (r - p).toNat)
    if sum = 0 then ofFields (a && b) 0 0
    else if 0 ≤ p then ofRatio (sum < 0) (sum.natAbs * 2 ^ p.toNat) 1
    else ofRatio (sum < 0) sum.natAbs (2 ^ (-p).toNat)

/-- The product of two numbers, rounded to the nearest. -/
def mul (x y : Binary64) : Binary64 :=
  match x.parts, y.parts with
  | .finite a m q, .finite b n r =>
    if 0 ≤ q + r then ofRatio (a != b) (m * n * 2 ^ (q + r).toNat) 1
    else ofRatio (a != b) (m * n) (2 ^ (-(q + r)).toNat)
  | _, _ => ⟨(Float.ofBits x.bits * Float.ofBits y.bits).toBits⟩

/-- The number without its sign. -/
def abs (x : Binary64) : Binary64 := ⟨x.bits &&& 0x7FFFFFFFFFFFFFFF⟩

/-- The number with the opposite sign. -/
def neg (x : Binary64) : Binary64 := ⟨x.bits ^^^ 0x8000000000000000⟩

/-- Numerical equality: zeros of both signs agree and nothing equals a `nan`. -/
def numEq (x y : Binary64) : Bool :=
  match x.parts, y.parts with
  | .nan, _ => false
  | _, .nan => false
  | _, _ => x == y || (x.isZero && y.isZero)

/-- The integer that a number equals, if it is one. -/
def toInt? (x : Binary64) : Option Int :=
  match x.parts with
  | .finite negative m q =>
    if 0 ≤ q then some (signedInt negative (m * 2 ^ q.toNat))
    else if m % 2 ^ (-q).toNat = 0 then some (signedInt negative (m / 2 ^ (-q).toNat)) else none
  | _ => none

end Binary64

end Facade
