import Facade.Syntax.Token
import Facade.Text.Normal

/-!
# Reading source trees

Recursive descent over the tokens of a source. Every function takes an allowance that bounds how
deep it may go; `readModule` and `readExpr` compute one that suffices. A text whose value takes more than
its characters (`Token.template`) is no expression of the trees: a source that holds one is refused.

* `readModule`: the statements of a whole source.
* `readExpr`: the expression that a text consists of.
-/

namespace Facade.Syntax

/-- Why the tokens do not follow the grammar. -/
inductive ParseFault where
  /-- This token cannot stand here. -/
  | unexpected (t : Token)
  /-- A fault with a cause of its own. -/
  | reported (e : ReadError)
  deriving Repr, Inhabited

/-- A reader of tokens. -/
abbrev Reader := StateT (List Lexeme) (Except ParseFault)

namespace Reader

/-- The next token. -/
def peek : Reader Token := do
  match ← get with
  | [] => return .finish
  | l :: _ => return l.token

/-- The token after the next one. -/
def peekSecond : Reader Token := do
  match ← get with
  | _ :: l :: _ => return l.token
  | _ => return .finish

/-- Takes the next token. -/
def next : Reader Token := do
  match ← get with
  | [] => return .finish
  | l :: r =>
    set r
    return l.token

/-- Fails at the next token. -/
def unexpected {α : Type} : Reader α := do
  throw (.unexpected (← peek))

/-- Fails with a cause of its own. -/
def report {α : Type} (e : ReadError) : Reader α := throw (.reported e)

/-- Takes the next token if it is the given one. -/
def accept (t : Token) : Reader Bool := do
  if (← peek) = t then
    let _ ← next
    return true
  else return false

/-- Takes the given sign if it is next. -/
def acceptSign (s : String) : Reader Bool := accept (.sign s)

/-- Takes the given word if it is next. -/
def acceptWord (s : String) : Reader Bool := accept (.word s)

/-- Takes the given token or fails. -/
def expect (t : Token) : Reader Unit := do
  if !(← accept t) then unexpected

/-- Takes the given sign or fails. -/
def expectSign (s : String) : Reader Unit := expect (.sign s)

/-- Takes a word that is a name, or fails. The name is the normal form of the word. -/
def name : Reader String := do
  match ← peek with
  | .word s =>
    if Text.isKeyword s then unexpected
    else
      let _ ← next
      return Text.normal s
  | _ => unexpected

/-- Whether an expression can open with a token. -/
def opensExpr : Token → Bool
  | .word s => !Text.isKeyword s || ["None", "True", "False", "not", "await"].contains s
  | .number _ | .text _ _ | .bytes _ => true
  | .sign s => ["(", "[", "\x7b", "-", "+", "~", "...", "*"].contains s
  | _ => false

/-- Texts that stand side by side become one. -/
def joinTexts (fuel : Nat) (acc : String) : Reader String := do
  match fuel with
  | 0 => unexpected
  | fuel + 1 =>
    match ← peek with
    | .text s _ =>
      let _ ← next
      joinTexts fuel (acc ++ s)
    | .bytes _ => report .malformed
    | _ => return acc

/-- Byte strings that stand side by side become one. -/
def joinBytes (fuel : Nat) (acc : List UInt8) : Reader (List UInt8) := do
  match fuel with
  | 0 => unexpected
  | fuel + 1 =>
    match ← peek with
    | .bytes bs =>
      let _ ← next
      joinBytes fuel (acc ++ bs)
    | .text _ _ => report .malformed
    | _ => return acc

/-- The binary operators of a level, loosest level first. -/
def binaryOps : Nat → List (String × BinaryOp)
  | 0 => [("|", .bitOr)]
  | 1 => [("^", .bitXor)]
  | 2 => [("&", .bitAnd)]
  | 3 => [("<<", .shiftLeft), (">>", .shiftRight)]
  | 4 => [("+", .add), ("-", .sub)]
  | 5 => [("*", .mul), ("@", .matMul), ("/", .div), ("%", .mod), ("//", .floorDiv)]
  | _ => []

/-- The comparison that comes next, if one does. -/
def compareOp? : Reader (Option CompareOp) := do
  let simple : List (String × CompareOp) :=
    [("==", .eq), ("!=", .notEq), ("<", .lt), ("<=", .ltEq), (">", .gt), (">=", .gtEq)]
  match ← peek with
  | .sign s =>
    match simple.find? fun p => p.1 == s with
    | some p =>
      let _ ← next
      return some p.2
    | none => return none
  | .word "is" =>
    let _ ← next
    if ← acceptWord "not" then return some .isNot else return some .is
  | .word "in" =>
    let _ ← next
    return some .isIn
  | .word "not" =>
    if (← peekSecond) = .word "in" then
      let _ ← next
      let _ ← next
      return some .notIn
    else return none
  | _ => return none

/-- What the arguments of a call have been so far. -/
structure ArgsRead where
  /-- Arguments by position, last one first. -/
  args : List Expr := []
  /-- Arguments by name, last one first. -/
  keywords : List (Option String × Expr) := []

mutual

/-- An expression without a comma at its top. -/
def expr : Nat → Reader Expr
  | 0 => unexpected
  | fuel + 1 => do
    let body ← orTest fuel
    if ← acceptWord "if" then
      let test ← orTest fuel
      expect (.word "else")
      let orElse ← expr fuel
      return .conditional body test orElse
    else return body

/-- Conditions joined by `or`. -/
def orTest : Nat → Reader Expr
  | 0 => unexpected
  | fuel + 1 => do
    let e ← andTest fuel
    match ← orRest fuel with
    | [] => return e
    | es => return .bool .or (e :: es)

/-- The further conditions of an `or`. -/
def orRest : Nat → Reader (List Expr)
  | 0 => unexpected
  | fuel + 1 => do
    if ← acceptWord "or" then
      let e ← andTest fuel
      let es ← orRest fuel
      return e :: es
    else return []

/-- Conditions joined by `and`. -/
def andTest : Nat → Reader Expr
  | 0 => unexpected
  | fuel + 1 => do
    let e ← notTest fuel
    match ← andRest fuel with
    | [] => return e
    | es => return .bool .and (e :: es)

/-- The further conditions of an `and`. -/
def andRest : Nat → Reader (List Expr)
  | 0 => unexpected
  | fuel + 1 => do
    if ← acceptWord "and" then
      let e ← notTest fuel
      let es ← andRest fuel
      return e :: es
    else return []

/-- A condition that may be negated. -/
def notTest : Nat → Reader Expr
  | 0 => unexpected
  | fuel + 1 => do
    if ← acceptWord "not" then return .unary .not (← notTest fuel)
    else comparison fuel

/-- A chain of comparisons. -/
def comparison : Nat → Reader Expr
  | 0 => unexpected
  | fuel + 1 => do
    let e ← binary fuel 0
    match ← comparisonRest fuel with
    | [] => return e
    | rest => return .compare e rest

/-- The comparisons after the first operand. -/
def comparisonRest : Nat → Reader (List (CompareOp × Expr))
  | 0 => unexpected
  | fuel + 1 => do
    match ← compareOp? with
    | none => return []
    | some op =>
      let e ← binary fuel 0
      let rest ← comparisonRest fuel
      return (op, e) :: rest

/-- Operands joined by the operators of a level. -/
def binary : Nat → Nat → Reader Expr
  | 0, _ => unexpected
  | fuel + 1, level => do
    if level < 6 then
      let e ← binary fuel (level + 1)
      binaryRest fuel level e
    else factor fuel

/-- Further operands of a level, gathered from the left. -/
def binaryRest : Nat → Nat → Expr → Reader Expr
  | 0, _, _ => unexpected
  | fuel + 1, level, left => do
    match ← peek with
    | .sign s =>
      match (binaryOps level).find? fun p => p.1 == s with
      | some p =>
        let _ ← next
        let right ← binary fuel (level + 1)
        binaryRest fuel level (.binary p.2 left right)
      | none => return left
    | _ => return left

/-- An operand with signs in front. -/
def factor : Nat → Reader Expr
  | 0 => unexpected
  | fuel + 1 => do
    if ← acceptSign "+" then return .unary .plus (← factor fuel)
    else if ← acceptSign "-" then return .unary .minus (← factor fuel)
    else if ← acceptSign "~" then return .unary .invert (← factor fuel)
    else
      let e ← awaited fuel
      if ← acceptSign "**" then return .binary .pow e (← factor fuel)
      else return e

/-- A primary, awaited or not. -/
def awaited : Nat → Reader Expr
  | 0 => unexpected
  | fuel + 1 => do
    if ← acceptWord "await" then
      let e ← atom fuel
      return .await (← trailers fuel e)
    else
      let e ← atom fuel
      trailers fuel e

/-- Attributes, calls and subscripts of a primary. -/
def trailers : Nat → Expr → Reader Expr
  | 0, _ => unexpected
  | fuel + 1, e => do
    if ← acceptSign "." then
      let n ← name
      trailers fuel (.attribute e n)
    else if ← acceptSign "(" then
      let read ← args fuel {}
      trailers fuel (.call e read.args.reverse read.keywords.reverse)
    else if ← acceptSign "[" then
      let i ← index fuel
      expectSign "]"
      trailers fuel (.subscript e i)
    else return e

/-- The arguments of a call up to its closing parenthesis. -/
def args : Nat → ArgsRead → Reader ArgsRead
  | 0, _ => unexpected
  | fuel + 1, acc => do
    if ← acceptSign ")" then return acc
    else
      let acc ← arg fuel acc
      if ← acceptSign "," then args fuel acc
      else
        expectSign ")"
        return acc

/-- One argument of a call. -/
def arg : Nat → ArgsRead → Reader ArgsRead
  | 0, _ => unexpected
  | fuel + 1, acc => do
    if ← acceptSign "**" then
      let e ← expr fuel
      return { acc with keywords := (none, e) :: acc.keywords }
    else if ← acceptSign "*" then
      let e ← expr fuel
      if acc.keywords.any (fun k => k.1.isNone) then report .malformed
      return { acc with args := .starred e :: acc.args }
    else
      let isKeyword := match ← peek with
        | .word s => !Text.isKeyword s
        | _ => false
      if isKeyword && (← peekSecond) = .sign "=" then
        let n ← name
        expectSign "="
        let e ← expr fuel
        return { acc with keywords := (some n, e) :: acc.keywords }
      else
        let e ← expr fuel
        if !acc.keywords.isEmpty then report .malformed
        return { acc with args := e :: acc.args }

/-- What stands between the brackets of a subscript. -/
def index : Nat → Reader Expr
  | 0 => unexpected
  | fuel + 1 => do
    let e ← slicePart fuel
    if (← peek) = .sign "," then
      let es ← indexRest fuel
      return .tuple (e :: es)
    else match e with
      | .starred _ => return .tuple [e]
      | e => return e

/-- The further parts of a subscript. -/
def indexRest : Nat → Reader (List Expr)
  | 0 => unexpected
  | fuel + 1 => do
    if ← acceptSign "," then
      if (← peek) = .sign "]" then return []
      else
        let e ← slicePart fuel
        let es ← indexRest fuel
        return e :: es
    else return []

/-- A slice, or one expression of a subscript. -/
def slicePart : Nat → Reader Expr
  | 0 => unexpected
  | fuel + 1 => do
    if ← acceptSign "*" then return .starred (← binary fuel 0)
    else
      let lower ← sliceBound fuel
      if ← acceptSign ":" then
        let upper ← sliceBound fuel
        let step ← if ← acceptSign ":" then sliceBound fuel else pure none
        return .slice lower upper step
      else match lower with
        | some e => return e
        | none => unexpected

/-- A bound of a slice, if there is one. -/
def sliceBound : Nat → Reader (Option Expr)
  | 0 => unexpected
  | fuel + 1 => do
    if opensExpr (← peek) then return some (← expr fuel) else return none

/-- An expression that may be starred. -/
def starExpr : Nat → Reader Expr
  | 0 => unexpected
  | fuel + 1 => do
    if ← acceptSign "*" then return .starred (← binary fuel 0) else expr fuel

/-- Expressions after the first one, separated by commas; the last comma may stand alone. -/
def exprRest : Nat → Reader (List Expr)
  | 0 => unexpected
  | fuel + 1 => do
    if ← acceptSign "," then
      if opensExpr (← peek) then
        let e ← starExpr fuel
        let es ← exprRest fuel
        return e :: es
      else return []
    else return []

/-- An expression, or a tuple without parentheses. -/
def exprList : Nat → Reader Expr
  | 0 => unexpected
  | fuel + 1 => do
    let e ← starExpr fuel
    if (← peek) = .sign "," then return .tuple (e :: (← exprRest fuel))
    else return e

/-- The entries of a table after the first one. -/
def dictRest : Nat → Reader (List (Option Expr × Expr))
  | 0 => unexpected
  | fuel + 1 => do
    if ← acceptSign "," then
      if (← peek) = .sign "\x7d" then return []
      else
        let item ← dictItem fuel
        let items ← dictRest fuel
        return item :: items
    else return []

/-- An entry of a table. -/
def dictItem : Nat → Reader (Option Expr × Expr)
  | 0 => unexpected
  | fuel + 1 => do
    if ← acceptSign "**" then return (none, ← binary fuel 0)
    else
      let k ← expr fuel
      expectSign ":"
      return (some k, ← expr fuel)

/-- A set or a table, after its opening brace. -/
def braces : Nat → Reader Expr
  | 0 => unexpected
  | fuel + 1 => do
    if ← acceptSign "\x7d" then return .dict []
    else if (← peek) = .sign "**" then
      let item ← dictItem fuel
      let items ← dictRest fuel
      expectSign "\x7d"
      return .dict (item :: items)
    else
      let e ← starExpr fuel
      if ← acceptSign ":" then
        let v ← expr fuel
        let items ← dictRest fuel
        expectSign "\x7d"
        return .dict ((some e, v) :: items)
      else
        let es ← exprRest fuel
        expectSign "\x7d"
        return .set (e :: es)

/-- A name, a literal, or something in brackets. -/
def atom : Nat → Reader Expr
  | 0 => unexpected
  | fuel + 1 => do
    match ← peek with
    | .word "None" => let _ ← next; return .const .none
    | .word "True" => let _ ← next; return .const .true
    | .word "False" => let _ ← next; return .const .false
    | .word _ => return .name (← name)
    | .number c => let _ ← next; return .const c
    | .text s marked =>
      let _ ← next
      let s ← joinTexts fuel s
      return .const (if marked then .marked s else .str s)
    | .bytes bs =>
      let _ ← next
      return .const (.bytes (← joinBytes fuel bs))
    | .sign "..." => let _ ← next; return .const .ellipsis
    | .sign "(" =>
      let _ ← next
      if ← acceptSign ")" then return .tuple []
      else
        let e ← exprList fuel
        expectSign ")"
        match e with
        | .starred _ => report .malformed
        | e => return e
    | .sign "[" =>
      let _ ← next
      if ← acceptSign "]" then return .list []
      else
        let e ← starExpr fuel
        let es ← exprRest fuel
        expectSign "]"
        return .list (e :: es)
    | .sign "\x7b" =>
      let _ ← next
      braces fuel
    | _ => unexpected

end

/-! ## Targets -/

mutual

/-- Whether an expression can be assigned to. -/
def isTarget : Expr → Bool
  | .name _ | .attribute _ _ | .subscript _ _ => true
  | .tuple es | .list es => areTargets es
  | .starred e => isTarget e
  | _ => false

/-- Whether all of several expressions can be assigned to. -/
def areTargets : List Expr → Bool
  | [] => true
  | e :: r => isTarget e && areTargets r

end

/-- Whether an expression is a place: a name, an attribute or an item. -/
def isPlace : Expr → Bool
  | .name _ | .attribute _ _ | .subscript _ _ => true
  | _ => false

/-- The operators that assign while they compute. -/
def augOps : List (String × BinaryOp) :=
  [("+=", .add), ("-=", .sub), ("*=", .mul), ("@=", .matMul), ("/=", .div), ("%=", .mod),
   ("<<=", .shiftLeft), (">>=", .shiftRight), ("|=", .bitOr), ("^=", .bitXor), ("&=", .bitAnd),
   ("//=", .floorDiv), ("**=", .pow)]

/-! ## Simple statements -/

/-- The further values of a chain of assignments. -/
def assignRest : Nat → Reader (List Expr)
  | 0 => unexpected
  | fuel + 1 => do
    if ← acceptSign "=" then
      let e ← exprList fuel
      let es ← assignRest fuel
      return e :: es
    else return []

/-- A statement that opens with an expression. -/
def exprStmt (fuel : Nat) : Reader Stmt := do
  let parenthesised := (← peek) = .sign "("
  let e ← exprList fuel
  match ← peek with
  | .sign ":" =>
    if !isPlace e then report .malformed
    let _ ← next
    let hint ← expr fuel
    let value ← if ← acceptSign "=" then some <$> exprList fuel else pure none
    let isName := match e with
      | .name _ => true
      | _ => false
    return .annAssign e hint value (isName && !parenthesised)
  | .sign "=" =>
    let es ← assignRest fuel
    let all := e :: es
    let targets := all.dropLast
    if !areTargets targets || targets.any (fun t => match t with
        | .starred _ => true
        | _ => false) then report .malformed
    match all.getLast? with
    | some v => return .assign targets v
    | none => unexpected
  | .sign s =>
    match augOps.find? fun p => p.1 == s with
    | some p =>
      if !isPlace e then report .malformed
      let _ ← next
      let v ← exprList fuel
      return .augAssign e p.2 v
    | none => return .expr e
  | _ => return .expr e

/-- A dotted name. -/
def dottedName : Nat → Reader String
  | 0 => unexpected
  | fuel + 1 => do
    let n ← name
    if ← acceptSign "." then
      let r ← dottedName fuel
      return n ++ "." ++ r
    else return n

/-- The name that an import binds, if it is given. -/
def boundName : Reader (Option String) := do
  if ← acceptWord "as" then return some (← name) else return none

/-- The modules of an import. -/
def importNames : Nat → Reader (List ImportName)
  | 0 => unexpected
  | fuel + 1 => do
    let n ← dottedName fuel
    let b ← boundName
    if ← acceptSign "," then
      let r ← importNames fuel
      return ⟨n, b⟩ :: r
    else return [⟨n, b⟩]

/-- The members of an import from a module. -/
def memberNames (closing : Bool) : Nat → Reader (List ImportName)
  | 0 => unexpected
  | fuel + 1 => do
    let n ← name
    let b ← boundName
    if ← acceptSign "," then
      if closing && (← peek) = .sign ")" then return [⟨n, b⟩]
      else
        let r ← memberNames closing fuel
        return ⟨n, b⟩ :: r
    else return [⟨n, b⟩]

/-- The dots in front of a relative module. -/
def dots : Nat → Nat → Reader Nat
  | 0, _ => unexpected
  | fuel + 1, n => do
    if ← acceptSign "." then dots fuel (n + 1)
    else if ← acceptSign "..." then dots fuel (n + 3)
    else return n

/-- An import from a module, after its first word. -/
def importFrom (fuel : Nat) : Reader Stmt := do
  let level ← dots fuel 0
  let module ← if (← peek) = .word "import" && level > 0 then pure none
    else some <$> dottedName fuel
  expect (.word "import")
  if ← acceptSign "*" then return .importFrom module [⟨"*", none⟩] level
  else if ← acceptSign "(" then
    let names ← memberNames true fuel
    expectSign ")"
    return .importFrom module names level
  else
    let names ← memberNames false fuel
    return .importFrom module names level

/-- Names separated by commas. -/
def nameList : Nat → Reader (List String)
  | 0 => unexpected
  | fuel + 1 => do
    let n ← name
    if ← acceptSign "," then return n :: (← nameList fuel) else return [n]

/-- A statement on part of a line. -/
def simpleStmt (fuel : Nat) : Reader Stmt := do
  match ← peek with
  | .word "pass" => let _ ← next; return .pass
  | .word "break" => let _ ← next; return .break
  | .word "continue" => let _ ← next; return .continue
  | .word "return" =>
    let _ ← next
    if opensExpr (← peek) then return .returns (some (← exprList fuel)) else return .returns none
  | .word "raise" =>
    let _ ← next
    if opensExpr (← peek) then
      let e ← expr fuel
      if ← acceptWord "from" then return .raise (some e) (some (← expr fuel))
      else return .raise (some e) none
    else return .raise none none
  | .word "assert" =>
    let _ ← next
    let e ← expr fuel
    if ← acceptSign "," then return .assert e (some (← expr fuel)) else return .assert e none
  | .word "del" =>
    let _ ← next
    let e ← exprList fuel
    let targets := match e with
      | .tuple es => es
      | e => [e]
    if !targets.all isPlace then report .malformed
    return .delete targets
  | .word "global" => let _ ← next; return .global (← nameList fuel)
  | .word "nonlocal" => let _ ← next; return .nonlocal (← nameList fuel)
  | .word "import" => let _ ← next; return .imports (← importNames fuel)
  | .word "from" => let _ ← next; importFrom fuel
  | _ => exprStmt fuel

/-- The statements of a line. -/
def simpleLine : Nat → Reader (List Stmt)
  | 0 => unexpected
  | fuel + 1 => do
    let s ← simpleStmt fuel
    if ← acceptSign ";" then
      if ← accept .newline then return [s]
      else
        let r ← simpleLine fuel
        return s :: r
    else
      expect .newline
      return [s]

/-! ## Parameters -/

/-- How far a parameter list has been read. -/
structure ParamsRead where
  /-- The parameters, last one first. -/
  params : List Param := []
  /-- A slash was met. -/
  slash : Bool := false
  /-- A star was met. -/
  star : Bool := false
  /-- A bare star was met and no parameter after it. -/
  bareStar : Bool := false
  /-- A parameter for named surplus was met. -/
  closed : Bool := false
  /-- A parameter with a default was met before any star. -/
  defaulted : Bool := false

/-- The annotation of a parameter, if it has one. -/
def paramAnnotation (fuel : Nat) : Reader (Option Expr) := do
  if ← acceptSign ":" then return some (← starExpr fuel) else return none

/-- One entry of a parameter list. -/
def param (fuel : Nat) (acc : ParamsRead) : Reader ParamsRead := do
  if acc.closed then report .malformed
  if ← acceptSign "/" then
    if acc.slash || acc.star || acc.params.isEmpty then report .malformed
    return { acc with
      slash := true
      params := acc.params.map fun p => { p with kind := .positionalOnly } }
  else if ← acceptSign "**" then
    if acc.bareStar then report .malformed
    let n ← name
    let a ← paramAnnotation fuel
    return { acc with closed := true, params := ⟨.varKeyword, n, a, none⟩ :: acc.params }
  else if ← acceptSign "*" then
    if acc.star then report .malformed
    if (← peek) = .sign "," then return { acc with star := true, bareStar := true }
    else
      let n ← name
      let a ← paramAnnotation fuel
      return { acc with star := true, params := ⟨.varPositional, n, a, none⟩ :: acc.params }
  else
    let n ← name
    let a ← paramAnnotation fuel
    let d ← if ← acceptSign "=" then some <$> expr fuel else pure none
    if acc.star then
      return { acc with bareStar := false, params := ⟨.keywordOnly, n, a, d⟩ :: acc.params }
    else
      if acc.defaulted && d.isNone then report .malformed
      return { acc with
        defaulted := acc.defaulted || d.isSome
        params := ⟨.positionalOrKeyword, n, a, d⟩ :: acc.params }

/-- A parameter list up to its closing parenthesis. -/
def params : Nat → ParamsRead → Reader (List Param)
  | 0, _ => unexpected
  | fuel + 1, acc => do
    if ← acceptSign ")" then
      if acc.bareStar then report .malformed
      return acc.params.reverse
    else
      let acc ← param fuel acc
      if ← acceptSign "," then params fuel acc
      else
        expectSign ")"
        if acc.bareStar then report .malformed
        return acc.params.reverse

/-! ## Compound statements -/

mutual

/-- The statements of a block, after the colon. -/
def block : Nat → Reader (List Stmt)
  | 0 => unexpected
  | fuel + 1 => do
    if ← accept .newline then
      if ← accept .indent then
        let s ← stmts fuel
        expect .dedent
        return s
      else report .indentation
    else simpleLine fuel

/-- One or more statements. -/
def stmts : Nat → Reader (List Stmt)
  | 0 => unexpected
  | fuel + 1 => do
    let s ← stmt fuel
    match ← peek with
    | .dedent | .finish => return s
    | _ =>
      let r ← stmts fuel
      return s ++ r

/-- A compound statement, or the statements of a line. -/
def stmt : Nat → Reader (List Stmt)
  | 0 => unexpected
  | fuel + 1 => do
    match ← peek with
    | .word "if" =>
      let _ ← next
      return [← branch fuel]
    | .word "while" =>
      let _ ← next
      let test ← expr fuel
      expectSign ":"
      let body ← block fuel
      let orElse ← elseBlock fuel
      return [.while test body orElse]
    | .word "for" =>
      let _ ← next
      let target ← forTarget fuel
      expect (.word "in")
      let iterable ← exprList fuel
      expectSign ":"
      let body ← block fuel
      let orElse ← elseBlock fuel
      return [.for target iterable body orElse]
    | .word "def" | .word "class" | .word "async" => return [← definition fuel []]
    | .sign "@" =>
      let ds ← decorators fuel
      return [← definition fuel ds]
    | _ => simpleLine fuel

/-- What follows the word `if` or `elif`. -/
def branch : Nat → Reader Stmt
  | 0 => unexpected
  | fuel + 1 => do
    let test ← expr fuel
    expectSign ":"
    let body ← block fuel
    if ← acceptWord "elif" then
      let s ← branch fuel
      return .branch test body [s]
    else
      let orElse ← elseBlock fuel
      return .branch test body orElse

/-- The block after `else`, if there is one. -/
def elseBlock : Nat → Reader (List Stmt)
  | 0 => unexpected
  | fuel + 1 => do
    if ← acceptWord "else" then
      expectSign ":"
      block fuel
    else return []

/-- The target of a loop. -/
def forTarget : Nat → Reader Expr
  | 0 => unexpected
  | fuel + 1 => do
    let e ← binary fuel 0
    if (← peek) = .sign "," then
      let es ← forTargets fuel
      if !areTargets (e :: es) then report .malformed
      return .tuple (e :: es)
    else
      if !isTarget e then report .malformed
      return e

/-- The further targets of a loop. -/
def forTargets : Nat → Reader (List Expr)
  | 0 => unexpected
  | fuel + 1 => do
    if ← acceptSign "," then
      if opensExpr (← peek) then
        let e ← binary fuel 0
        let es ← forTargets fuel
        return e :: es
      else return []
    else return []

/-- The decorators in front of a definition. -/
def decorators : Nat → Reader (List Expr)
  | 0 => unexpected
  | fuel + 1 => do
    if ← acceptSign "@" then
      let e ← expr fuel
      expect .newline
      let es ← decorators fuel
      return e :: es
    else return []

/-- A definition of a function or a class. -/
def definition : Nat → List Expr → Reader Stmt
  | 0, _ => unexpected
  | fuel + 1, ds => do
    match ← peek with
    | .word "class" =>
      let _ ← next
      let n ← name
      let read ← if ← acceptSign "(" then args fuel {} else pure {}
      expectSign ":"
      let body ← block fuel
      return .class n read.args.reverse read.keywords.reverse ds body
    | .word "async" =>
      let _ ← next
      expect (.word "def")
      function fuel true ds
    | .word "def" =>
      let _ ← next
      function fuel false ds
    | _ => unexpected

/-- A function, after the word `def`. -/
def function : Nat → Bool → List Expr → Reader Stmt
  | 0, _, _ => unexpected
  | fuel + 1, isAsync, ds => do
    let n ← name
    expectSign "("
    let ps ← params fuel {}
    let result ← if ← acceptSign "->" then some <$> expr fuel else pure none
    expectSign ":"
    let body ← block fuel
    return .define isAsync n ps result ds body

end

/-- The statements of a whole source. -/
def module (fuel : Nat) : Reader (List Stmt) := do
  if ← accept .finish then return []
  else
    let s ← stmts fuel
    expect .finish
    return s

/-- A text that consists of one expression. -/
def soleExpr (fuel : Nat) : Reader Expr := do
  let e ← exprList fuel
  let _ ← accept .newline
  expect .finish
  return e

end Reader

/-- Runs a reader over the tokens of a source. Of a fault in the grammar and one in the tokens
after it the latter counts, unless the former is a misplaced indentation. -/
def runReader {α : Type} (r : Nat → Reader α) (lexed : Lexed) : Except ReadError α :=
  match (r (30 * (lexed.lexemes.length + 2))).run' lexed.lexemes, lexed.fault with
  | .ok x, none => .ok x
  | .ok _, some e => .error e
  | .error (.unexpected .indent), _ => .error .indentation
  | .error (.unexpected .dedent), _ => .error .indentation
  | .error _, some e => .error e
  | .error (.unexpected _), none => .error .malformed
  | .error (.reported e), none => .error e

/-- The statements of a source. -/
def readModule (source : String) : Except ReadError (List Stmt) :=
  runReader Reader.module (lex source)

/-- The expression that a text consists of. -/
def readExpr (source : String) : Except ReadError Expr :=
  runReader Reader.soleExpr (lex source)

end Facade.Syntax
