import Facade.Hint.Forms

/-!
# Operators on values

* `Value.plus`, `Value.binary?`: sums and the other operators between two values.
* `Value.compare?`: comparisons.
* `Value.item?`: the item under a key or at a place.
* `Value.elements?`: what iterating over a value yields.
-/

namespace Facade.Value

open Syntax (BinaryOp UnaryOp CompareOp)

/-! ## Arithmetic -/

/-- The number that a value amounts to, as a floating-point number. -/
def toFloat? : Value → Option Binary64
  | .bool b => some (.ofInt (if b then 1 else 0))
  | .int i | .subInt i => some (.ofInt i)
  | .float x => some x
  | _ => Option.none

/-- The integer that a value is, floating-point numbers excluded. -/
def asInt? : Value → Option Int
  | .bool b => some (if b then 1 else 0)
  | .int i | .subInt i => some i
  | _ => Option.none

/-- The real and imaginary part that a value amounts to. -/
def toComplex? : Value → Option (Binary64 × Binary64)
  | .complex re im => some (re, im)
  | v => v.toFloat?.map fun x => (x, .ofInt 0)

/-- The sum of two numbers, or two sequences of one class put together. -/
def plus (a b : Value) : Option Value :=
  match a.asInt?, b.asInt? with
  | some i, some j => some (.int (i + j))
  | _, _ =>
    match a.toFloat?, b.toFloat? with
    | some x, some y => some (.float (x.add y))
    | _, _ =>
      match a.toComplex?, b.toComplex? with
      | some (x, y), some (z, w) => some (.complex (x.add z) (y.add w))
      | _, _ =>
        match a.toStr?, b.toStr? with
        | some s, some t => some (.str (s ++ t))
        | _, _ =>
          match a, b with
          | .tuple s, .tuple t => some (.tuple (s ++ t))
          | .list s, .list t => some (.list (s ++ t))
          | .bytes s, .bytes t => some (.bytes (s ++ t))
          | _, _ => Option.none

/-- A number with the opposite sign. -/
def minus? (a : Value) : Option Value :=
  match a with
  | .float x => some (.float x.neg)
  | .complex re im => some (.complex re.neg im.neg)
  | a => a.asInt?.map fun i => .int (-i)

/-- The value of an operator between two values. -/
def binary? (op : BinaryOp) (a b : Value) : Except Fault Value :=
  let typed (v : Option Value) : Except Fault Value := v.elim (.error .type) .ok
  match op with
  | .add => typed (a.plus b)
  | .sub =>
    match a, b with
    | .int _, .complex re im | .float _, .complex re im =>
      -- A real number less a complex one keeps the sign of the imaginary part's difference.
      typed (a.plus (.complex re.neg im.neg))
    | a, b => typed (b.minus?.bind a.plus)
  | .mul =>
    match a.asInt?, b.asInt? with
    | some i, some j => .ok (.int (i * j))
    | _, _ => .error .type
  | .floorDiv =>
    match a.asInt?, b.asInt? with
    | some i, some j => if j = 0 then .error .zeroDivision else .ok (.int (i.fdiv j))
    | _, _ => .error .type
  | .mod =>
    match a.asInt?, b.asInt? with
    | some i, some j => if j = 0 then .error .zeroDivision else .ok (.int (i.fmod j))
    | _, _ => .error .type
  | .bitOr => Hint.unite a b
  | _ => .error .type

/-- The value of an operator in front of a value. -/
def unary? (op : UnaryOp) (a : Value) : Except Fault Value :=
  match op with
  | .not => .ok (.bool (!a.truth))
  | .minus => a.minus?.elim (.error .type) .ok
  | .plus => if a.toComplex?.isSome then .ok a else .error .type
  | .invert => (a.asInt?.map fun i => Value.int (-i - 1)).elim (.error .type) .ok

/-! ## Comparisons -/

/-- Whether two values are the same object, as far as that can be told. -/
def identical (a b : Value) : Bool :=
  match a, b with
  | .int i, .int j => i == j
  | .bool b, .bool c => b == c
  | .int _, .bool _ | .bool _, .int _ | .int _, .float _ | .float _, .int _ => false
  | a, b => a.same b

/-- Whether a container holds a value. -/
def holds? (container v : Value) : Except Fault Bool :=
  match container with
  | .tuple vs | .list vs => .ok (v.memberOf vs)
  | .dict es => .ok (es.any fun e => e.1.same v)
  | .str s | .subStr s =>
    match v.toStr? with
    | some t => .ok (s.contains t)
    | Option.none => .error .type
  | _ => .error .type

/-- Whether the first of two values is the smaller one. -/
def less? (a b : Value) : Except Fault Bool :=
  match a.asInt?, b.asInt? with
  | some i, some j => .ok (decide (i < j))
  | _, _ =>
    match a.toStr?, b.toStr? with
    | some s, some t => .ok (decide (s < t))
    | _, _ => .error .type

/-- The outcome of a comparison. -/
def compare? (op : CompareOp) (a b : Value) : Except Fault Bool :=
  match op with
  | .eq => .ok (a.same b)
  | .notEq => .ok (!a.same b)
  | .is => .ok (a.identical b)
  | .isNot => .ok (!a.identical b)
  | .isIn => b.holds? a
  | .notIn => (b.holds? a).map (!·)
  | .lt => a.less? b
  | .gt => b.less? a
  | .ltEq => (b.less? a).map (!·)
  | .gtEq => (a.less? b).map (!·)

/-! ## Containers -/

/-- The place in a sequence that an integer, counted from the end if negative, stands for. -/
def place? (size : Nat) (i : Int) : Option Nat :=
  let j := if i < 0 then i + size else i
  if 0 ≤ j ∧ j < size then some j.toNat else Option.none

/-- The item of a container under a key or at a place. -/
def item? (container k : Value) : Except Fault Value :=
  let at_ (vs : List Value) : Except Fault Value :=
    match k.asInt? with
    | some i => ((place? vs.length i).bind fun n => vs[n]?).elim (.error .index) .ok
    | Option.none => .error .type
  match container with
  | .tuple vs | .list vs => at_ vs
  | .str s | .subStr s => at_ (s.toList.map fun c => .str (String.ofList [c]))
  | .dict es => (lookup? es k).elim (.error .key) .ok
  | _ => .error .type

/-- What iterating over a value yields. -/
def elements? : Value → Except Fault (List Value)
  | .tuple vs | .list vs => .ok vs
  | .dict es => .ok (es.map Prod.fst)
  | .str s | .subStr s => .ok (s.toList.map fun c => .str (String.ofList [c]))
  | .bytes bs => .ok (bs.map fun b => .int b.toNat)
  | _ => .error .type

end Facade.Value
