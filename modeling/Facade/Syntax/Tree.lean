import Facade.Number.Binary64

/-!
# Source trees

The statements and expressions that a module's source consists of.

* `Expr`, `Param`, `Stmt`: the trees. Besides what a reader of source finds, an expression can carry
  a spelling of its own (`Expr.spelled`) or be a piece of text whose meaning is unknown
  (`Expr.verbatim`), and a statement can be a mere line of layout (`Stmt.layout`) or foreign code
  (`Stmt.fragment`).
* `Expr.dotted`: the expression that a dotted name stands for.
* `mangle`: how a private name is spelled inside a class.
-/

namespace Facade.Syntax

/-- What a parameter accepts. -/
inductive ParamKind where
  /-- Given by position only. -/
  | positionalOnly
  /-- Given by position or by name. -/
  | positionalOrKeyword
  /-- Takes the surplus of positional arguments. -/
  | varPositional
  /-- Given by name only. -/
  | keywordOnly
  /-- Takes the surplus of named arguments. -/
  | varKeyword
  deriving DecidableEq, Repr, Inhabited

/-- Whether a parameter takes a surplus. -/
def ParamKind.isVariadic : ParamKind → Bool
  | .varPositional | .varKeyword => true
  | _ => false

/-- The literals. -/
inductive Constant where
  | none
  | true
  | false
  | ellipsis
  | int (n : Nat)
  | float (x : Binary64)
  | imaginary (x : Binary64)
  | str (s : String)
  /-- A text written with the mark `u`. -/
  | marked (s : String)
  | bytes (bs : List UInt8)
  deriving DecidableEq, Repr, Inhabited

/-- The operators in front of an operand. -/
inductive UnaryOp where
  | invert | not | plus | minus
  deriving DecidableEq, Repr

/-- The operators between two operands. -/
inductive BinaryOp where
  | add | sub | mul | matMul | div | mod | shiftLeft | shiftRight | bitOr | bitXor | bitAnd
  | floorDiv | pow
  deriving DecidableEq, Repr

/-- The operators that join conditions. -/
inductive BoolOp where
  | and | or
  deriving DecidableEq, Repr

/-- The comparisons. -/
inductive CompareOp where
  | eq | notEq | lt | ltEq | gt | gtEq | is | isNot | isIn | notIn
  deriving DecidableEq, Repr

/-- An expression. -/
inductive Expr where
  | name (id : String)
  | const (c : Constant)
  | attribute (e : Expr) (name : String)
  | call (f : Expr) (args : List Expr) (keywords : List (Option String × Expr))
  | subscript (e index : Expr)
  | tuple (es : List Expr)
  | list (es : List Expr)
  | set (es : List Expr)
  | dict (items : List (Option Expr × Expr))
  | starred (e : Expr)
  | unary (op : UnaryOp) (e : Expr)
  | binary (op : BinaryOp) (l r : Expr)
  | bool (op : BoolOp) (es : List Expr)
  | compare (l : Expr) (rest : List (CompareOp × Expr))
  | conditional (body test orElse : Expr)
  | await (e : Expr)
  | slice (lower upper step : Option Expr)
  /-- An expression with a spelling of its own. -/
  | spelled (text : String) (e : Expr)
  /-- A piece of text whose meaning is found by reading the whole source. -/
  | verbatim (text : String)
  deriving Repr, Inhabited

/-- A parameter of a definition. -/
structure Param where
  /-- What it accepts. -/
  kind : ParamKind
  /-- Its name. -/
  name : String
  /-- Its annotation. -/
  hint : Option Expr := none
  /-- Its default. -/
  default : Option Expr := none
  deriving Repr, Inhabited

/-- A name that an import binds: the module or member, and the name it goes by. -/
structure ImportName where
  /-- The imported name. -/
  name : String
  /-- The name it is bound to, if another one. -/
  boundAs : Option String := none
  deriving DecidableEq, Repr, Inhabited

/-- A statement. -/
inductive Stmt where
  | expr (e : Expr)
  | assign (targets : List Expr) (value : Expr)
  /-- An annotated name, attribute or item; `simple` names are recorded as annotations. -/
  | annAssign (target hint : Expr) (value : Option Expr) (simple : Bool)
  | augAssign (target : Expr) (op : BinaryOp) (value : Expr)
  | returns (value : Option Expr)
  | raise (exception cause : Option Expr)
  | assert (test : Expr) (message : Option Expr)
  | delete (targets : List Expr)
  | pass
  | break
  | continue
  | global (names : List String)
  | nonlocal (names : List String)
  | imports (names : List ImportName)
  | importFrom (module : Option String) (names : List ImportName) (level : Nat)
  | branch (test : Expr) (body orElse : List Stmt)
  | while (test : Expr) (body orElse : List Stmt)
  | for (target iterable : Expr) (body orElse : List Stmt)
  | define (isAsync : Bool) (name : String) (params : List Param) (returns : Option Expr)
      (decorators : List Expr) (body : List Stmt)
  | class (name : String) (bases : List Expr) (keywords : List (Option String × Expr))
      (decorators : List Expr) (body : List Stmt)
  /-- A line that means nothing: blank, or a comment. -/
  | layout (text : String)
  /-- Foreign lines whose meaning is found by reading the whole source. -/
  | fragment (lines : List String)
  deriving Repr, Inhabited

/-- The pieces of a text between its dots. -/
def splitDots : List Char → List (List Char)
  | [] => [[]]
  | c :: r =>
    if c = '.' then [] :: splitDots r
    else
      match splitDots r with
      | [] => [[c]]
      | piece :: more => (c :: piece) :: more

/-- Splits a dotted name at its dots. -/
def dottedParts (s : String) : List String := (splitDots s.toList).map String.ofList

/-- The expression that a dotted name stands for. -/
def Expr.dotted (s : String) : Expr :=
  match dottedParts s with
  | [] => .name s
  | n :: r => r.foldl Expr.attribute (.name n)

/-- A text literal. -/
def Expr.str (s : String) : Expr := .const (.str s)

/-! ## Private names -/

/-- Whether a name is private to the class in which it stands: it opens with two underscores and does
not end in two. -/
def isPrivate (name : List Char) : Bool :=
  ['_', '_'].isPrefixOf name && !(['_', '_'].isSuffixOf name) && !name.contains '.'

/-- The name of a class without the underscores that it opens with. -/
def stemOf (cls : String) : List Char := cls.toList.dropWhile (· == '_')

/-- The spelling of a name inside a class: a private one carries the name of the class in front. -/
def mangle (cls : Option String) (name : String) : String :=
  match cls with
  | none => name
  | some c =>
    if isPrivate name.toList && !(stemOf c).isEmpty then
      String.ofList ('_' :: stemOf c ++ name.toList)
    else name

end Facade.Syntax
