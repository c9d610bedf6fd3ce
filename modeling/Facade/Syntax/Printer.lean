import Facade.Number.Shortest
import Facade.Syntax.Tree
import Facade.Text.Quoted

/-!
# Printing source trees

One printer, two layouts.

* `Layout.draft` keeps blank lines, comments, foreign fragments and spellings, and sets a default
  off with spaces.
* `Layout.canonical` drops what means nothing, writes every literal anew, puts a blank line before
  each definition, and closes a default up.
* `Expr.text`, `Stmt.lines`, `render`: the text of an expression, of a statement, of a module.
-/

namespace Facade.Syntax

/-- How a tree is laid out. -/
structure Layout where
  /-- Blank lines, comments, fragments and spellings are kept. -/
  keepsDraft : Bool
  /-- Definitions have a blank line before them. -/
  spacesDefinitions : Bool
  /-- What stands between an annotated parameter and its default. -/
  defaultMark : String
  deriving DecidableEq, Repr

namespace Layout

/-- The layout of source under construction. -/
def draft : Layout := ⟨true, false, " = "⟩

/-- The canonical layout. -/
def canonical : Layout := ⟨false, true, "="⟩

end Layout

/-! ## Literals -/

/-- The text of a real number inside an expression; an infinity is written as a literal that
overflows. -/
def realText (x : Binary64) (style : FloatStyle) : String :=
  match x.parts with
  | .inf false => "1e309"
  | .inf true => "-1e309"
  | .nan => "(1e309-1e309)"
  | .finite _ _ _ => style.render x

namespace Constant

/-- The text of a literal. -/
def text : Constant → String
  | .none => "None"
  | .true => "True"
  | .false => "False"
  | .ellipsis => "..."
  | .int n => toString n
  | .float x => realText x .alone
  | .imaginary x => realText x .part ++ "j"
  | .str s => Text.quote s
  | .marked s => "u" ++ Text.quote s
  | .bytes bs => Text.quoteBytes bs

/-- Whether a literal is an integer or a truth value. -/
def isIntegral : Constant → Bool
  | .int _ | .true | .false => Bool.true
  | _ => Bool.false

end Constant

/-! ## Operators -/

/-- The sign of an operator in front of its operand. -/
def UnaryOp.text : UnaryOp → String
  | .invert => "~" | .not => "not " | .plus => "+" | .minus => "-"

/-- The sign of an operator between its operands. -/
def BinaryOp.text : BinaryOp → String
  | .add => "+" | .sub => "-" | .mul => "*" | .matMul => "@" | .div => "/" | .mod => "%"
  | .shiftLeft => "<<" | .shiftRight => ">>" | .bitOr => "|" | .bitXor => "^" | .bitAnd => "&"
  | .floorDiv => "//" | .pow => "**"

/-- The word of an operator between conditions. -/
def BoolOp.text : BoolOp → String
  | .and => "and" | .or => "or"

/-- The sign of a comparison. -/
def CompareOp.text : CompareOp → String
  | .eq => "==" | .notEq => "!=" | .lt => "<" | .ltEq => "<=" | .gt => ">" | .gtEq => ">="
  | .is => "is" | .isNot => "is not" | .isIn => "in" | .notIn => "not in"

/-! ## Levels

An expression is put in parentheses where a tighter one is asked for. -/

/-- How tightly an expression binds, from tuples to atoms. -/
abbrev Level := Nat

namespace Level

def tuple : Level := 1
def yield : Level := 2
def test : Level := 3
def or : Level := 4
def and : Level := 5
def not : Level := 6
def compare : Level := 7
def expr : Level := 8
def shift : Level := 11
def arith : Level := 12
def term : Level := 13
def factor : Level := 14
def power : Level := 15
def await : Level := 16
def atom : Level := 17

end Level

/-- How tightly a unary operator binds. -/
def UnaryOp.level : UnaryOp → Level
  | .not => .not
  | _ => .factor

/-- How tightly a binary operator binds. -/
def BinaryOp.level : BinaryOp → Level
  | .bitOr => .expr
  | .bitXor => 9
  | .bitAnd => 10
  | .shiftLeft | .shiftRight => .shift
  | .add | .sub => .arith
  | .mul | .matMul | .div | .mod | .floorDiv => .term
  | .pow => .power

/-- How tightly an operator between conditions binds. -/
def BoolOp.level : BoolOp → Level
  | .and => .and
  | .or => .or

/-- Parentheses where they are asked for. -/
def parenIf (b : Bool) (s : String) : String := if b then "(" ++ s ++ ")" else s

/-- Items separated by commas; a single one keeps its comma. -/
def tupleItems : List String → String
  | [s] => s ++ ","
  | ss => ", ".intercalate ss

/-! ## Expressions -/

mutual

/-- The text of an expression at a place that asks for a level. -/
def Expr.textAt (l : Layout) (at_ : Level) : Expr → String
  | .name id => id
  | .const c => c.text
  | .attribute e n =>
    let gap := match e with
      | .const c => if c.isIntegral then " " else ""
      | _ => ""
    e.textAt l .atom ++ gap ++ "." ++ n
  | .call f args keywords =>
    f.textAt l .atom ++ "(" ++
      ", ".intercalate (Expr.texts l .test args ++ Expr.keywordTexts l keywords) ++ ")"
  | .subscript e i =>
    e.textAt l .atom ++ "[" ++
      (match i with
        | .tuple [] => "()"
        | .tuple es => tupleItems (Expr.texts l .test es)
        | i => i.textAt l .test) ++ "]"
  | .tuple es => parenIf (es.isEmpty || decide (Level.tuple < at_)) (tupleItems (Expr.texts l .test es))
  | .list es => "[" ++ ", ".intercalate (Expr.texts l .test es) ++ "]"
  | .set es =>
    if es.isEmpty then "\x7b*()\x7d"
    else "\x7b" ++ ", ".intercalate (Expr.texts l .test es) ++ "\x7d"
  | .dict items => "\x7b" ++ ", ".intercalate (Expr.itemTexts l items) ++ "\x7d"
  | .starred e => "*" ++ e.textAt l .expr
  | .unary op e =>
    parenIf (decide (op.level < at_)) (op.text ++ e.textAt l op.level)
  | .binary op a b =>
    let (left, right) := if op = .pow then (op.level + 1, op.level) else (op.level, op.level + 1)
    parenIf (decide (op.level < at_)) (a.textAt l left ++ " " ++ op.text ++ " " ++ b.textAt l right)
  | .bool op es =>
    parenIf (decide (op.level < at_)) ((" " ++ op.text ++ " ").intercalate
      (Expr.risingTexts l (op.level + 1) es))
  | .compare a rest =>
    parenIf (decide (Level.compare < at_))
      (a.textAt l (Level.compare + 1) ++ Expr.comparisonTexts l rest)
  | .conditional body test orElse =>
    parenIf (decide (Level.test < at_)) (body.textAt l (Level.test + 1) ++ " if " ++
      test.textAt l (Level.test + 1) ++ " else " ++ orElse.textAt l .test)
  | .await e => parenIf (decide (Level.await < at_)) ("await " ++ e.textAt l .atom)
  | .slice lower upper step =>
    Expr.optionText l lower ++ ":" ++ Expr.optionText l upper ++
      (match step with
        | none => ""
        | some e => ":" ++ e.textAt l .test)
  | .spelled text e => if l.keepsDraft then text else e.textAt l at_
  | .verbatim text => text

/-- The texts of several expressions, all at the same level. -/
def Expr.texts (l : Layout) (at_ : Level) : List Expr → List String
  | [] => []
  | e :: r => e.textAt l at_ :: Expr.texts l at_ r

/-- The texts of several expressions, each at a tighter level than the one before. -/
def Expr.risingTexts (l : Layout) (at_ : Level) : List Expr → List String
  | [] => []
  | e :: r => e.textAt l at_ :: Expr.risingTexts l (at_ + 1) r

/-- The texts of named arguments. -/
def Expr.keywordTexts (l : Layout) : List (Option String × Expr) → List String
  | [] => []
  | (some n, e) :: r => (n ++ "=" ++ e.textAt l .test) :: Expr.keywordTexts l r
  | (none, e) :: r => ("**" ++ e.textAt l .test) :: Expr.keywordTexts l r

/-- The texts of the entries of a table. -/
def Expr.itemTexts (l : Layout) : List (Option Expr × Expr) → List String
  | [] => []
  | (some k, e) :: r => (k.textAt l .test ++ ": " ++ e.textAt l .test) :: Expr.itemTexts l r
  | (none, e) :: r => ("**" ++ e.textAt l .expr) :: Expr.itemTexts l r

/-- The text of the comparisons after the first operand. -/
def Expr.comparisonTexts (l : Layout) : List (CompareOp × Expr) → String
  | [] => ""
  | (op, e) :: r =>
    " " ++ op.text ++ " " ++ e.textAt l (Level.compare + 1) ++ Expr.comparisonTexts l r

/-- The text of an optional expression. -/
def Expr.optionText (l : Layout) : Option Expr → String
  | none => ""
  | some e => e.textAt l .test

end

/-- The text of an expression standing alone. -/
def Expr.text (l : Layout) (e : Expr) : String := e.textAt l .test

/-! ## Parameters -/

/-- The text of a parameter. -/
def Param.text (l : Layout) (p : Param) : String :=
  let mark := match p.kind with
    | .varPositional => "*"
    | .varKeyword => "**"
    | _ => ""
  let hint := match p.hint with
    | some a => ": " ++ a.text l
    | none => ""
  let default := match p.default with
    | some d => (if p.hint.isSome then l.defaultMark else "=") ++ d.text l
    | none => ""
  mark ++ p.name ++ hint ++ default

/-- The texts of a parameter list with its separators: a slash after the positional-only ones, a
star before the keyword-only ones that no starred parameter opens. -/
def paramTexts (l : Layout) (starSeen : Bool) : List Param → List String
  | [] => []
  | p :: r =>
    let star := if p.kind = .keywordOnly ∧ !starSeen then ["*"] else []
    let slash := if p.kind = .positionalOnly ∧ !(r.any fun q => q.kind = .positionalOnly)
      then ["/"] else []
    let starSeen := starSeen || p.kind = .varPositional || p.kind = .keywordOnly
    star ++ p.text l :: (slash ++ paramTexts l starSeen r)

/-- The text of a parameter list. -/
def paramsText (l : Layout) (ps : List Param) : String := ", ".intercalate (paramTexts l false ps)

/-! ## Statements -/

/-- The four blanks of one indentation, repeated. -/
def indentation (level : Nat) : String := String.ofList (List.replicate (4 * level) ' ')

/-- A line at an indentation; an empty line stays empty. -/
def lineAt (level : Nat) (text : String) : String :=
  if text.isEmpty then "" else indentation level ++ text

/-- The text of an imported name. -/
def ImportName.text (n : ImportName) : String :=
  match n.boundAs with
  | some b => n.name ++ " as " ++ b
  | none => n.name

/-- The text of a docstring: three quotes that do not occur in it. -/
def docstringText (s : String) : String :=
  let escape (c : Char) : List Char :=
    if c == '\\' then ['\\', '\\']
    else if c == '\n' || c == '\t' || Text.isPrintable c then [c]
    else Text.escapeChar '\'' c
  let body := s.toList.flatMap escape
  let quotes := ["\"\"\"", "'''"]
  match quotes.find? fun q => !((String.ofList body).contains q) with
  | some q =>
    if body.getLast? = q.toList.head? then
      let q' := if q = "\"\"\"" then "'''" else "\"\"\""
      if !((String.ofList body).contains q') then q' ++ String.ofList body ++ q'
      else q ++ String.ofList (body.dropLast ++ ['\\'] ++ body.getLast?.toList) ++ q
    else q ++ String.ofList body ++ q
  | none =>
    let cs := Text.quoteChars s.toList
    let q := List.replicate 3 (Text.quoteMark s.toList)
    String.ofList (q ++ (cs.drop 1).dropLast ++ q)

/-- The text that a statement documents with, if it is a text standing alone. -/
def Stmt.docstring? : Stmt → Option String
  | .expr (.const (.str text)) => some text
  | .expr (.const (.marked text)) => some text
  | _ => none

/-- The line that opens a definition. -/
def defineHeader (l : Layout) (isAsync : Bool) (name : String) (params : List Param)
    (returns : Option Expr) : String :=
  (if isAsync then "async def " else "def ") ++ name ++ "(" ++ paramsText l params ++ ")" ++
    (match returns with
      | some e => " -> " ++ e.text l
      | none => "") ++ ":"

/-- The line that opens a class. -/
def classHeader (l : Layout) (name : String) (bases : List Expr)
    (keywords : List (Option String × Expr)) : String :=
  let items := bases.map (Expr.text l) ++ Expr.keywordTexts l keywords
  "class " ++ name ++ (if items.isEmpty then "" else "(" ++ ", ".intercalate items ++ ")") ++ ":"

mutual

/-- The lines of a statement. -/
def Stmt.lines (l : Layout) (level : Nat) : Stmt → List String
  | .expr e => [lineAt level (e.textAt l .yield)]
  | .assign targets value =>
    [lineAt level (String.join (targets.map fun t => t.textAt l .tuple ++ " = ") ++ value.text l)]
  | .annAssign target hint value simple =>
    let isName := match target with
      | .name _ => true
      | _ => false
    [lineAt level (parenIf (!simple && isName) (target.text l) ++ ": " ++ hint.text l ++
      (match value with
        | some v => " = " ++ v.text l
        | none => ""))]
  | .augAssign target op value =>
    [lineAt level (target.text l ++ " " ++ op.text ++ "= " ++ value.text l)]
  | .returns value =>
    [lineAt level ("return" ++ (match value with
      | some v => " " ++ v.text l
      | none => ""))]
  | .raise exception cause =>
    [lineAt level ("raise" ++ (match exception with
      | some e => " " ++ e.text l ++ (match cause with
        | some c => " from " ++ c.text l
        | none => "")
      | none => ""))]
  | .assert test message =>
    [lineAt level ("assert " ++ test.text l ++ (match message with
      | some m => ", " ++ m.text l
      | none => ""))]
  | .delete targets => [lineAt level ("del " ++ ", ".intercalate (targets.map (Expr.text l)))]
  | .pass => [lineAt level "pass"]
  | .break => [lineAt level "break"]
  | .continue => [lineAt level "continue"]
  | .global names => [lineAt level ("global " ++ ", ".intercalate names)]
  | .nonlocal names => [lineAt level ("nonlocal " ++ ", ".intercalate names)]
  | .imports names => [lineAt level ("import " ++ ", ".intercalate (names.map ImportName.text))]
  | .importFrom module names dots =>
    [lineAt level ("from " ++ String.ofList (List.replicate dots '.') ++ module.getD "" ++
      " import " ++ ", ".intercalate (names.map ImportName.text))]
  | .branch test body orElse =>
    lineAt level ("if " ++ test.text l ++ ":") :: (Stmt.bodyLines l (level + 1) body ++
      Stmt.elseLines l level orElse)
  | .while test body orElse =>
    lineAt level ("while " ++ test.text l ++ ":") :: (Stmt.bodyLines l (level + 1) body ++
      (if orElse.isEmpty then [] else lineAt level "else:" :: Stmt.bodyLines l (level + 1) orElse))
  | .for target iterable body orElse =>
    lineAt level ("for " ++ target.textAt l .tuple ++ " in " ++ iterable.text l ++ ":") ::
      (Stmt.bodyLines l (level + 1) body ++
        (if orElse.isEmpty then [] else lineAt level "else:" :: Stmt.bodyLines l (level + 1) orElse))
  | .define isAsync name params result decorators body =>
    (if l.spacesDefinitions then [""] else []) ++
      decorators.map (fun d => lineAt level ("@" ++ d.text l)) ++
      lineAt level (defineHeader l isAsync name params result) ::
        Stmt.documentedLines l (level + 1) body
  | .class name bases keywords decorators body =>
    (if l.spacesDefinitions then [""] else []) ++
      decorators.map (fun d => lineAt level ("@" ++ d.text l)) ++
      lineAt level (classHeader l name bases keywords) :: Stmt.documentedLines l (level + 1) body
  | .layout text => if l.keepsDraft then [lineAt level text] else []
  | .fragment texts => if l.keepsDraft then texts.map (lineAt level) else []

/-- The lines of a list of statements. -/
def Stmt.bodyLines (l : Layout) (level : Nat) : List Stmt → List String
  | [] => []
  | s :: r => s.lines l level ++ Stmt.bodyLines l level r

/-- The lines of a body that may open with a docstring. -/
def Stmt.documentedLines (l : Layout) (level : Nat) : List Stmt → List String
  | [] => []
  | s :: r =>
    (match s.docstring? with
      | some text => if l.keepsDraft then s.lines l level else [lineAt level (docstringText text)]
      | none => s.lines l level) ++ Stmt.bodyLines l level r

/-- The lines of what follows the body of a branch; a lone branch there continues the chain. -/
def Stmt.elseLines (l : Layout) (level : Nat) : List Stmt → List String
  | [] => []
  | [.branch test body orElse] =>
    lineAt level ("elif " ++ test.text l ++ ":") :: (Stmt.bodyLines l (level + 1) body ++
      Stmt.elseLines l level orElse)
  | s :: r => lineAt level "else:" :: (s.lines l (level + 1) ++ Stmt.bodyLines l (level + 1) r)

end

/-- The text of a module; a canonical one does not open with a blank line. -/
def render (l : Layout) (body : List Stmt) : String :=
  let lines := Stmt.documentedLines l 0 body
  let lines := match lines with
    | "" :: r => if l.spacesDefinitions then r else lines
    | _ => lines
  "\n".intercalate lines ++ "\n"

end Facade.Syntax
