import Facade.Number.Shortest
import Facade.Store.Value
import Facade.Syntax.Tree

/-!
# Values as literals

* `Value.isLiteral`: whether source text can hold the value itself.
* `Value.literal?`: the expression that such a value is written as.
-/

namespace Facade.Syntax

/-- The expression of a number that may be negative. -/
def signed (negative : Bool) (e : Expr) : Expr := if negative then .unary .minus e else e

/-- The expression of an integer. -/
def intExpr (i : Int) : Expr := signed (decide (i < 0)) (.const (.int i.natAbs))

/-- The expression of a finite real number. -/
def realExpr (x : Binary64) : Expr := signed x.isNegative (.const (.float x.abs))

/-- The expression of the real part of a complex number, which is an integer where it is laid out as
one. -/
def realPartExpr (x : Binary64) : Expr :=
  signed x.isNegative (.const (x.wholeDecimal?.elim (.float x.abs) .int))

/-- The expression of a finite complex number: a sum in parentheses unless the real part is a
positive zero. -/
def complexExpr (re im : Binary64) : Expr :=
  let part := Expr.const (.imaginary im.abs)
  if re.isZero && !re.isNegative then signed im.isNegative part
  else
    .spelled (renderComplex re im)
      (.binary (if im.isNegative then .sub else .add) (realPartExpr re) part)

end Facade.Syntax

namespace Facade.Value

open Syntax

/-- The expression that a value is written as, if it is a literal: a value of one of the plain
classes, and finite if it is a number. -/
def literal? : Value → Option Expr
  | .none => some (.const .none)
  | .bool b => some (.const (if b then .true else .false))
  | .int i => some (intExpr i)
  | .float x => if x.isFinite then some (realExpr x) else Option.none
  | .complex re im =>
    if re.isFinite && im.isFinite then some (complexExpr re im) else Option.none
  | .str s => some (Expr.str s)
  | .bytes bs => some (.const (.bytes bs))
  | _ => Option.none

/-- Whether source text can hold the value itself. -/
def isLiteral (v : Value) : Bool := v.literal?.isSome

end Facade.Value
