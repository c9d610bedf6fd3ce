import Facade.Scene.Build

/-!
# Using compilers

* `Line`: a line of source, by what it does; `programOf`: a whole source.
* `CompileStep`: what can be done with a compiler.
* `CompileStep.run`: does one thing: the module that was generated, if one was, and the modules by
  their labels afterwards.
-/

namespace Facade.Scene

open Facade.Execution

/-! ## Source -/

/-- A line of source. -/
inductive Line where
  /-- Defines a class. -/
  | cls (name : String)
  /-- Defines a class with a base. -/
  | derived (name base : String)
  /-- Gives a name to what an expression yields. -/
  | assign (name expression : String)
  /-- Lists what the module gives out. -/
  | exports (names : List String)
  /-- Imports a module. -/
  | importModule (name : String)
  /-- Imports a member of a module. -/
  | importMember (module name : String)
  /-- Raises. -/
  | raise (s : Scripted)
  /-- Asserts what does not hold. -/
  | assertion
  /-- Is no source at all. -/
  | broken
  /-- Compares numbers by identity. -/
  | identity
  /-- Holds what no file can hold. -/
  | unencodable
  deriving DecidableEq, Repr, Inhabited

/-- The text of a line. -/
def Line.text : Line → String
  | .cls name => "class " ++ name ++ ": pass"
  | .derived name base => "class " ++ name ++ "(" ++ base ++ "): pass"
  | .assign name expression => name ++ " = " ++ expression
  | .exports names => "__all__ = [" ++ ", ".intercalate (names.map Text.quote) ++ "]"
  | .importModule name => "import " ++ name
  | .importMember module name => "from " ++ module ++ " import " ++ name
  | .raise s => "raise " ++ s.kind ++ "(" ++ Text.quote s.text ++ ")"
  | .assertion => "assert False"
  | .broken => "class :"
  | .identity => "_w = 1 is 1"
  | .unencodable => "_s = '<surrogate>'"

/-- The source that lines make. -/
def programOf (lines : List Line) : Program :=
  { text := "\n".intercalate (lines.map Line.text) ++ "\n"
    encodable := !lines.contains .unencodable }

/-! ## Steps -/

/-- What can be done with a compiler. -/
inductive CompileStep where
  /-- Adds a reference. -/
  | add (t : Target)
  /-- Adds a generated module as a reference. -/
  | addGenerated (label : String)
  /-- Adds the class of a generated module as a reference. -/
  | addClass (label : String)
  /-- Adds what annotations need. -/
  | addAll (as : List Ann)
  /-- Compiles lines, with globals from the start; the module may get a name and a label. -/
  | compile (name : Option String) (lines : List Line) (seeds : List (String × Value))
    (label : Option String)
  deriving Repr, Inhabited

/-- The generated modules, by their labels. -/
abbrev Labels := Table String GeneratedModule

/-- The module with a label. -/
def labelled (ls : Labels) (label : String) : Run GeneratedModule :=
  lift ((ls.get? label).elim (.error .key) .ok)

/-- Does one thing with a compiler. -/
def CompileStep.run (s : Scene) (ls : Labels) (id : String) :
    CompileStep → Run (Option GeneratedModule × Labels)
  | .add t => do
    Compiler.addReference id (← t.build s)
    return (none, ls)
  | .addGenerated label => do
    Compiler.addReference id (.module (← labelled ls label).module)
    return (none, ls)
  | .addClass label => do
    Compiler.addReference id (.cls (← (← labelled ls label).singleType))
    return (none, ls)
  | .addAll as => do
    Compiler.addReferences id (← as.mapM (Ann.build s))
    return (none, ls)
  | .compile name lines seeds label => do
    name.forM (Compiler.rename id)
    let seeds ← seeds.mapM fun e => return (e.1, ← freshen e.2)
    let g ← Compiler.compile id (programOf lines) seeds
    return (some g, ls.set (label.getD g.name) g)

end Facade.Scene
