import Facade.Compiler.Compile
import Facade.Conversion.Plan

/-!
# What all generated classes share

* `defaultTypeName`, `defaultNamespaceName`, `defaultMethodName`: the names used when none is set.
* `header`: the statements in front of a generated class.
* `namespaceLine`, `constructorOf`: the members that every generated class has.
* `cached`: the expression that fetches a value put into the cache.
-/

namespace Facade.Wrapper

open Facade.Conversion Facade.Execution
open Syntax (Expr Stmt Param)

/-- The name of a generated class. -/
def defaultTypeName : String := "GeneratedType"

/-- The namespace of a generated module. -/
def defaultNamespaceName : String := "GeneratedNamespace"

/-- The name of a generated method. -/
def defaultMethodName : String := "run"

/-- The name under which a module and its class state their namespace. -/
def namespaceName : String := "__namespace__"

/-- An import of a module under its own name. -/
def importOf (module : String) : Stmt := .imports [⟨module, none⟩]

/-- The statements in front of a generated class: imports, and the namespace. -/
def header (imports : List Stmt) (ns : String) : List Stmt :=
  imports ++ [.layout "", .assign [.name namespaceName] (Expr.str ns), .layout "", .layout ""]

/-- The line by which a class takes over the namespace of its module. -/
def namespaceLine : Stmt := .assign [.name namespaceName] (.name namespaceName)

/-- A body; an empty one does nothing. -/
def orPass (body : List Stmt) : List Stmt := if body.isEmpty then [.pass] else body

/-- The constructor of a generated class, with a blank line after it. -/
def constructorOf (params : List Param) (body : List Stmt) : List Stmt :=
  [.define false "__init__" params none [] (orPass body), .layout ""]

/-- The expression that fetches a value put into the cache. -/
def cached (cache : Nat) (v : Value) : Run Expr := return cachedValue (← addValue cache v)

/-- The annotation of a result, if the method states one. -/
def resultOf (p : Plan) (w : World) (returns : Option Value) : Option Expr :=
  returns.map fun a => p.spell w (some a)

/-- The globals that a generated module starts with. -/
def seeds (cache : Nat) : List (String × Value) := [(cacheGlobal, .cache cache)]

/-- A plan put to work inside a larger run: the outcome and the plan afterwards. -/
def planning {α : Type} (p : Plan) (x : Planning α) : Run (α × Plan) := do
  let (result, p) ← Run.within x p
  return (← Run.orRefuse result, p)

/-- Makes the module of special forms importable. -/
def addTypingReference (compiler : String) : Run Unit := do
  match (← get).importable.get? "typing" with
  | some m => Compiler.addReference compiler (.module m)
  | none => pure ()

/-- The compiler that is set, or the one that is given when none is. -/
def compilerFor (set : Option String) (given : Run String) : Run String :=
  match set with
  | some id => pure id
  | none => given

/-- How many lines a text has. -/
def countLines (text : String) : Nat := (text.toList.filter (· == '\n')).length

end Facade.Wrapper
