import Facade.Number.Decimal
import Facade.Syntax.Tree
import Facade.Text.CharClass

/-!
# Tokens

Source text as a sequence of words, literals, signs and changes of indentation.

* `Token`, `Lexeme`: a token, and a token with its line.
* `ReadError`: why a source cannot be read.
* `Lexed`: the tokens up to the first fault, and that fault.
* `lex`: reads a whole source.
-/

namespace Facade.Syntax

/-- Why a source cannot be read. -/
inductive ReadError where
  /-- The text does not follow the grammar. -/
  | malformed
  /-- A line is indented where no block opens, or a block has no line. -/
  | indentation
  /-- Tabs and blanks are mixed so that the depth of a line is unclear. -/
  | tabs
  deriving DecidableEq, Repr, Inhabited

/-- A token. -/
inductive Token where
  | word (s : String)
  | number (c : Constant)
  | text (s : String) (marked : Bool)
  /-- A text whose value takes more than its characters: it is formatted, as its marks tell, or it
  gives characters by their names. The escapes of a formatted text are left as they are written, and
  so are those by name, each behind as many characters of the content as `names` says. -/
  | template (marks : List Char) (content : String) (names : List Nat)
  | bytes (bs : List UInt8)
  | sign (s : String)
  | newline
  | indent
  | dedent
  | finish
  deriving DecidableEq, Repr, Inhabited

/-- A token with the line it stands on. -/
structure Lexeme where
  /-- The token. -/
  token : Token
  /-- Its line, counted from one. -/
  line : Nat
  deriving DecidableEq, Repr, Inhabited

/-- What reading tokens came to. -/
structure Lexed where
  /-- The tokens before the first fault. -/
  lexemes : List Lexeme := []
  /-- The first fault. -/
  fault : Option ReadError := none
  /-- The texts that hold an escape without meaning: their lines, and the first such escape. -/
  oddEscapes : List (Nat × Char) := []
  deriving Repr, Inhabited

/-! ## Signs -/

/-- The signs of three characters. -/
def signs3 : List String := ["**=", "//=", ">>=", "<<=", "..."]

/-- The signs of two characters. -/
def signs2 : List String :=
  ["**", "//", ">>", "<<", "<=", ">=", "==", "!=", "->", "+=", "-=", "*=", "/=", "%=", "&=",
   "|=", "^=", "@=", ":="]

/-- The signs of one character. -/
def signs1 : List Char :=
  ['+', '-', '*', '/', '%', '@', '&', '|', '^', '~', '<', '>', '(', ')', '[', ']', '\x7b',
   '\x7d', ',', ':', '.', ';', '=']

/-- The sign at the front of a text, the longest first, and what follows. -/
def readSign? (cs : List Char) : Option (String × List Char) :=
  let three := String.ofList (cs.take 3)
  let two := String.ofList (cs.take 2)
  if signs3.contains three then some (three, cs.drop 3)
  else if signs2.contains two then some (two, cs.drop 2)
  else match cs with
    | c :: r => if signs1.contains c then some (String.ofList [c], r) else none
    | [] => none

/-! ## Numbers -/

/-- The value of a digit in a base up to sixteen. -/
def baseDigit? (base : Nat) (c : Char) : Option Nat :=
  let v := if c.isDigit then some (c.toNat - '0'.toNat)
    else if 'a' ≤ c ∧ c ≤ 'f' then some (c.toNat - 'a'.toNat + 10)
    else if 'A' ≤ c ∧ c ≤ 'F' then some (c.toNat - 'A'.toNat + 10)
    else none
  v.filter (· < base)

/-- The digits of a base at the front of a text, single underscores in front of them allowed: their
value, how many there are, and what follows. -/
def readBase (base : Nat) (acc count : Nat) : List Char → Nat × Nat × List Char
  | [] => (acc, count, [])
  | [c] => match baseDigit? base c with
    | some d => (base * acc + d, count + 1, [])
    | none => (acc, count, [c])
  | c :: d :: r =>
    match baseDigit? base c with
    | some v => readBase base (base * acc + v) (count + 1) (d :: r)
    | none =>
      if c == '_' then
        match baseDigit? base d with
        | some v => readBase base (base * acc + v) (count + 1) r
        | none => (acc, count, c :: d :: r)
      else (acc, count, c :: d :: r)

/-- The number at the front of a text that opens with a digit, or with a point and a digit. -/
def readNumber? (cs : List Char) : Option (Constant × List Char) :=
  let based (base : Nat) (r : List Char) : Option (Constant × List Char) :=
    match readBase base 0 0 r with
    | (_, 0, _) => none
    | (v, _, rest) => some (.int v, rest)
  let result := match cs with
    | '0' :: c :: r =>
      if c == 'x' || c == 'X' then based 16 r
      else if c == 'o' || c == 'O' then based 8 r
      else if c == 'b' || c == 'B' then based 2 r
      else decimal cs
    | _ => decimal cs
  result.filter fun p => match p.2 with
    | c :: _ => !Text.isIdentifierContinue c
    | [] => true
where
  /-- A decimal integer, a real number or an imaginary one. -/
  decimal (cs : List Char) : Option (Constant × List Char) :=
    let (whole, afterWhole) := Number.readDigits cs
    (Number.readDecimal? cs).bind fun ((d, k), rest) =>
      match rest with
      | 'j' :: r | 'J' :: r => some (.imaginary (.ofDecimal false d k), r)
      | _ =>
        if rest.length = afterWhole.length then
          if whole.length > 1 && whole.head? == some '0' && d != 0 then none
          else some (.int d, rest)
        else some (.float (.ofDecimal false d k), rest)

/-! ## Texts -/

/-- What a text literal holds so far: characters, or bytes as characters. -/
structure TextRead where
  /-- The content, last character first. -/
  reversed : List Char := []
  /-- Line feeds passed. -/
  feeds : Nat := 0
  /-- The first escape without meaning. -/
  odd : Option Char := none
  /-- How many characters stand in front of each escape by name, last one first. -/
  names : List Nat := []

/-- The escapes of one letter. -/
def letterEscape? (c : Char) : Option Char :=
  match c with
  | '\\' => some '\\' | '\'' => some '\'' | '"' => some '"'
  | 'a' => some '\x07' | 'b' => some '\x08' | 'f' => some '\x0c' | 'n' => some '\n'
  | 'r' => some '\r' | 't' => some '\t' | 'v' => some '\x0b'
  | _ => none

/-- The character that exactly `n` hexadecimal digits denote. -/
def hexEscape? (n : Nat) (cs : List Char) : Option (Char × List Char) :=
  match readBase 16 0 0 ((cs.take n).filter (· != '_')) with
  | (v, count, []) => if count = n then some (Char.ofNat v, cs.drop n) else none
  | _ => none

/-- Reads the body of a text literal up to its closing quotes. -/
def readText (raw isBytes triple : Bool) (q : Char) :
    Nat → TextRead → List Char → Option (TextRead × List Char)
  | 0, _, _ => none
  | fuel + 1, acc, cs =>
    let put (c : Char) (acc : TextRead) : TextRead := { acc with reversed := c :: acc.reversed }
    match cs with
    | [] => none
    | '\\' :: r =>
      match r with
      | [] => none
      | e :: r' =>
        let feed := if e == '\n' then 1 else 0
        if raw then
          readText raw isBytes triple q fuel
            { put e (put '\\' acc) with feeds := acc.feeds + feed } r'
        else if e == '\n' then
          readText raw isBytes triple q fuel { acc with feeds := acc.feeds + 1 } r'
        else if let some c := letterEscape? e then
          readText raw isBytes triple q fuel (put c acc) r'
        else if e == 'x' then
          match hexEscape? 2 r' with
          | some (c, rest) => readText raw isBytes triple q fuel (put c acc) rest
          | none => none
        else if (e == 'u' || e == 'U') && !isBytes then
          match hexEscape? (if e == 'u' then 4 else 8) r' with
          | some (c, rest) => readText raw isBytes triple q fuel (put c acc) rest
          | none => none
        else if '0' ≤ e ∧ e ≤ '7' then
          let digits := (r.take 3).takeWhile fun c => '0' ≤ c && c ≤ '7'
          let v := digits.foldl (fun n c => 8 * n + (c.toNat - '0'.toNat)) 0
          readText raw isBytes triple q fuel
            (put (Char.ofNat (if isBytes then v % 256 else v)) acc) (r.drop digits.length)
        else if e == 'N' && !isBytes then
          readText raw isBytes triple q fuel
            { put e (put '\\' acc) with names := acc.reversed.length :: acc.names } r'
        else
          readText raw isBytes triple q fuel
            { put e (put '\\' acc) with odd := acc.odd <|> some e } r'
    | c :: r =>
      if c == q && !triple then some (acc, r)
      else if c == q && r.take 2 == [q, q] then some (acc, r.drop 2)
      else if c == '\n' then
        if triple then
          readText raw isBytes triple q fuel { put c acc with feeds := acc.feeds + 1 } r
        else none
      else if isBytes && 128 ≤ c.toNat then none
      else readText raw isBytes triple q fuel (put c acc) r

/-- The marks that a text literal may carry, in lower case. -/
def literalMarks : List (List Char) :=
  [[], ['r'], ['u'], ['b'], ['f'], ['b', 'r'], ['r', 'b'], ['f', 'r'], ['r', 'f']]

/-- Whether the marks of a literal keep its escapes from being worked out: it is raw, or it is
formatted, and then they belong to the parts that it is made of. -/
def keepsEscapes (marks : List Char) : Bool := marks.contains 'r' || marks.contains 'f'

/-- The token that a literal is, by its marks and by what was read of it. -/
def literalToken (marks : List Char) (read : TextRead) : Token :=
  let content := read.reversed.reverse
  if marks.contains 'b' then .bytes (content.map fun c => UInt8.ofNat c.toNat)
  else if marks.contains 'f' || !read.names.isEmpty then
    .template marks (String.ofList content) read.names.reverse
  else .text (String.ofList content) (marks.contains 'u')

/-- The text literal at the front of a text whose marks, in lower case, are `marks`. A formatted one
ends like any other, at the first quotes of its kind. -/
def readLiteral? (marks : List Char) (cs : List Char) :
    Option (Token × TextRead × List Char) :=
  if !literalMarks.contains marks then none
  else match cs with
    | [] => none
    | q :: r =>
      let (triple, body) := if r.take 2 == [q, q] then (true, r.drop 2) else (false, r)
      (readText (keepsEscapes marks) (marks.contains 'b') triple q (body.length + 1) {} body).map
        fun (read, rest) => (literalToken marks read, read, rest)

/-! ## The whole source -/

/-- Where reading stands. -/
structure LexState where
  /-- The line, counted from one. -/
  line : Nat := 1
  /-- The open brackets, innermost first. -/
  brackets : List Char := []
  /-- The open indentations with tabs as eight and as one, innermost first. -/
  indents : List (Nat × Nat) := [(0, 0)]
  /-- The tokens so far, last one first. -/
  lexemes : List Lexeme := []
  /-- Texts with escapes without meaning, last one first. -/
  oddEscapes : List (Nat × Char) := []
  deriving Inhabited

namespace LexState

/-- Adds a token. -/
def push (st : LexState) (t : Token) : LexState :=
  { st with lexemes := ⟨t, st.line⟩ :: st.lexemes }

/-- What reading came to. -/
def stop (st : LexState) (fault : Option ReadError) : Lexed :=
  { lexemes := st.lexemes.reverse, fault := fault, oddEscapes := st.oddEscapes.reverse }

/-- Opens or closes indentations for a line that starts at a column. -/
def indentTo (st : LexState) (col alt : Nat) : Except ReadError LexState :=
  match st.indents with
  | [] => .error .indentation
  | (c, a) :: _ =>
    if col = c then (if alt = a then .ok st else .error .tabs)
    else if c < col then
      if alt ≤ a then .error .tabs
      else .ok ({ st with indents := (col, alt) :: st.indents }.push .indent)
    else
      let kept := st.indents.dropWhile fun p => col < p.1
      let closed := st.indents.length - kept.length
      let st := (List.range closed).foldl (fun st _ => st.push .dedent) { st with indents := kept }
      match kept with
      | (c, a) :: _ =>
        if c ≠ col then .error .indentation
        else if alt ≠ a then .error .tabs
        else .ok st
      | [] => .error .indentation

end LexState

/-- The column at which a line starts, with tabs as eight and as one, and the rest of the line. -/
def measureIndent (col alt : Nat) : List Char → Nat × Nat × List Char
  | ' ' :: r => measureIndent (col + 1) (alt + 1) r
  | '\t' :: r => measureIndent ((col / 8 + 1) * 8) (alt + 1) r
  | '\x0c' :: r => measureIndent 0 0 r
  | cs => (col, alt, cs)

/-- The bracket that closes an open one. -/
def closingOf : Char → Char
  | '(' => ')'
  | '[' => ']'
  | c => if c == '\x7b' then '\x7d' else c

/-- Reads tokens from the middle of a line (`atStart = false`) or from its start. -/
def lexFrom : Nat → Bool → LexState → List Char → Lexed
  | 0, _, st, _ => st.stop (some .malformed)
  | fuel + 1, true, st, cs =>
    let (col, alt, r) := measureIndent 0 0 cs
    match r with
    | [] => finish st
    | '\n' :: r => lexFrom fuel true { st with line := st.line + 1 } r
    | '#' :: r => lexFrom fuel true st (r.dropWhile (· != '\n'))
    | r =>
      match st.indentTo col alt with
      | .error e => st.stop (some e)
      | .ok st => lexFrom fuel false st r
  | fuel + 1, false, st, cs =>
    match cs with
    | [] =>
      if st.brackets.isEmpty then finish (st.push .newline) else st.stop (some .malformed)
    | '\n' :: r =>
      if st.brackets.isEmpty then
        lexFrom fuel true { st.push .newline with line := st.line + 1 } r
      else lexFrom fuel false { st with line := st.line + 1 } r
    | '#' :: r => lexFrom fuel false st (r.dropWhile (· != '\n'))
    | '\\' :: '\n' :: r =>
      if r.isEmpty then st.stop (some .malformed)
      else lexFrom fuel false { st with line := st.line + 1 } r
    | c :: r =>
      if c == ' ' || c == '\t' || c == '\x0c' then lexFrom fuel false st r
      else if Text.isIdentifierStart c then
        let word := c :: r.takeWhile Text.isIdentifierContinue
        let rest := r.dropWhile Text.isIdentifierContinue
        match rest with
        | q :: _ =>
          if (q == '\'' || q == '"') && word.length ≤ 2 &&
              word.all (fun c => ['r', 'u', 'b', 'f'].contains c.toLower) then
            literal fuel st (word.map Char.toLower) rest
          else lexFrom fuel false (st.push (.word (String.ofList word))) rest
        | [] => lexFrom fuel false (st.push (.word (String.ofList word))) rest
      else if c == '\'' || c == '"' then literal fuel st [] cs
      else if c.isDigit || (c == '.' && (r.head?.any Char.isDigit)) then
        match readNumber? cs with
        | some (n, rest) => lexFrom fuel false (st.push (.number n)) rest
        | none => st.stop (some .malformed)
      else match readSign? cs with
        | some (s, rest) =>
          let st := st.push (.sign s)
          if c == '(' || c == '[' || c == '\x7b' then
            lexFrom fuel false { st with brackets := c :: st.brackets } rest
          else if c == ')' || c == ']' || c == '\x7d' then
            match st.brackets with
            | o :: os =>
              if closingOf o == c then lexFrom fuel false { st with brackets := os } rest
              else st.stop (some .malformed)
            | [] => st.stop (some .malformed)
          else lexFrom fuel false st rest
        | none => st.stop (some .malformed)
termination_by fuel => (fuel, 0)
where
  /-- Closes all indentations at the end. -/
  finish (st : LexState) : Lexed :=
    let st := (st.indents.drop 1).foldl (fun st _ => st.push .dedent) st
    (st.push .finish).stop none
  /-- Reads a text literal. -/
  literal (fuel : Nat) (st : LexState) (marks cs : List Char) : Lexed :=
    match readLiteral? marks cs with
    | some (t, read, rest) =>
      let st := st.push t
      let st := { st with
        line := st.line + read.feeds
        oddEscapes := (read.odd.map fun c => (st.line, c)).toList ++ st.oddEscapes }
      lexFrom fuel false st rest
    | none => st.stop (some .malformed)
  termination_by (fuel, 1)

/-- Line ends of every kind become line feeds. -/
def normalizeFeeds : List Char → List Char
  | [] => []
  | '\r' :: '\n' :: r => '\n' :: normalizeFeeds r
  | '\r' :: r => '\n' :: normalizeFeeds r
  | c :: r => c :: normalizeFeeds r

/-- Reads the tokens of a source. -/
def lex (source : String) : Lexed :=
  let cs := normalizeFeeds source.toList
  lexFrom (2 * cs.length + 2) true {} cs

end Facade.Syntax
