import Facade.Source.Embedding
import Facade.Syntax.Check

/-!
# Programs

* `Program`: the text of a module, and what it says where that is known without reading it.
* `Program.ofTree`: the program that a tree is written as.
* `Program.prettify`, `Program.embed`: the canonical form of a program; a program that holds its
  own text.
* `Program.diagnose`: the diagnostics of a program, and what it says.
-/

namespace Facade

open Syntax (Expr Stmt Layout)

/-- The text of a module. -/
structure Program where
  /-- The text. -/
  text : String
  /-- What it says, if that is known. -/
  known : Option (List Stmt) := none
  /-- Whether the text can be encoded. -/
  encodable : Bool := true
  deriving Repr, Inhabited

namespace Program

/-- The program that a tree is written as. What it says is known if the tree can be told from its
text. -/
def ofTree (layout : Layout) (body : List Stmt) : Program :=
  { text := Syntax.render layout body
    known := if Stmt.areLegible body then some body else none }

/-- The canonical form of a program. One that says nothing sound may not be readable. -/
def prettify (p : Program) : Except Fault Program :=
  match p.known.filter (Stmt.areSound {}) with
  | some body => .ok { p with text := Syntax.render .canonical body }
  | none => (Source.prettify p.text).map fun text => { p with text := text }

/-! ## Embedding -/

/-- A statement with a text in the place of the placeholder. -/
def fillLine (content : String) : Stmt → Stmt
  | .assign [.name n] (.const (.str m)) =>
    .assign [.name n] (.const (.str
      (if n = Source.sourceAttribute ∧ m = Source.sourceMarker then content else m)))
  | s => s

/-- A module with a text in the place of the placeholder. -/
def fill (content : String) (body : List Stmt) : List Stmt :=
  body.map fun
    | .class name bases keywords decorators inner =>
      .class name bases keywords decorators (inner.map (fillLine content))
    | s => s

/-- The program that holds its own text. What it says remains known if there is only one place where
the text can go. -/
def embed (p : Program) : Program :=
  let content := Source.withoutPlaceholder p.text Source.sourceAttribute
  let places := Source.occurrences (Source.placeholder Source.sourceAttribute).toList p.text.toList
  { p with
    text := Source.embed p.text Source.sourceAttribute
    known := if places ≤ 1 then p.known.map (fill content) else none }

/-! ## Diagnostics -/

/-- The diagnostic of a source that cannot be read. -/
def readDiagnostic (e : Syntax.ReadError) : Diagnostic :=
  match e with
  | .malformed => { id := "SyntaxError", message := "invalid syntax" }
  | .indentation => { id := "IndentationError", message := "unexpected indent" }
  | .tabs =>
    { id := "TabError", message := "inconsistent use of tabs and spaces in indentation" }

/-- The diagnostics of escapes without meaning. -/
def escapeDiagnostics (asErrors : Bool) (lexed : Syntax.Lexed) : List Diagnostic :=
  lexed.oddEscapes.map fun (line, c) =>
    { id := "DeprecationWarning"
      message := "invalid escape sequence '\\" ++ String.singleton c ++ "'"
      severity := .warning
      line := some (line : Int)
      warningAsError := asErrors }

/-- The diagnostics of comparisons that ask for the identity of a literal. -/
def identityDiagnostics (asErrors : Bool) (lexed : Syntax.Lexed) : List Diagnostic :=
  (Syntax.identityWarnings lexed.lexemes).map fun (line, negated) =>
    { id := "SyntaxWarning"
      message := if negated then "\"is not\" with a literal. Did you mean \"!=\"?"
        else "\"is\" with a literal. Did you mean \"==\"?"
      severity := .warning
      line := some (line : Int)
      warningAsError := asErrors }

/-- The diagnostics of a text, and what it says. -/
def diagnoseText (asErrors : Bool) (text : String) : List Diagnostic × Option (List Stmt) :=
  let lexed := Syntax.lex text
  match Syntax.readModule text with
  | .error e => ([readDiagnostic e], none)
  | .ok body =>
    let escapes := escapeDiagnostics asErrors lexed
    if Stmt.areSound {} body then (escapes ++ identityDiagnostics asErrors lexed, some body)
    else (escapes ++ [readDiagnostic .malformed], none)

/-- The diagnostics of a program, warnings as errors if asked for, and what the program says. -/
def diagnose (asErrors : Bool) (p : Program) : List Diagnostic × Option (List Stmt) :=
  if !p.encodable then
    ([{ id := "UnicodeEncodeError", message := "surrogates not allowed" }], none)
  else
    -- Names hold no null character and quoted texts escape it, so a sound tree needs no check.
    match p.known.filter (Stmt.areSound {}) with
    | some body => ([], some body)
    | none =>
      if p.text.toList.contains '\x00' then
        ([{ id := "ValueError", message := "source code string cannot contain null bytes" }], none)
      else if p.known.isSome then ([readDiagnostic .malformed], none)
      else diagnoseText asErrors p.text

end Program

end Facade
