import Facade.Wrapper.Layout

/-!
# Classes around a callable

The callable goes into the value cache; the one method of the generated class fetches it and calls
it with arguments that come from the method's parameters, the constructor and the properties.

* `CallableOptions`: how the class is shaped.
* `callableTree`: the module of the class.
* `CallableWrapper.generate`: describes a callable, writes the module and compiles it.
* `CallableWrapper.createType`: the class itself.
-/

namespace Facade.Wrapper

open Facade.Conversion Facade.Execution
open Facade.Describe (MethodInfo)
open Syntax (Expr Stmt)

/-! ## Options -/

/-- The names that are set for a class around a callable. -/
structure CallableNames where
  /-- The name of the class. -/
  typeName : String := defaultTypeName
  /-- The namespace of the module. -/
  namespaceName : String := defaultNamespaceName
  /-- The name of the method. -/
  methodName : String := defaultMethodName
  deriving DecidableEq, Repr, Inhabited

/-- How the class around a callable is shaped. A name that is computed wins over one that is set. -/
structure CallableOptions where
  /-- The names that are set. -/
  names : CallableNames := {}
  /-- Computes the name of the class. -/
  typeNameOf : Option (CallableNames → String) := none
  /-- Computes the namespace. -/
  namespaceNameOf : Option (CallableNames → String) := none
  /-- Computes the name of the method. -/
  methodNameOf : Option (CallableNames → String) := none
  /-- Where the arguments come from. -/
  rules : List Rule := []
  /-- The compiler to be used instead of a fresh one. -/
  compiler : Option String := none

namespace CallableOptions

/-- The name of the class. -/
def typeName (o : CallableOptions) : String :=
  (o.typeNameOf.map fun f => f o.names).getD o.names.typeName

/-- The namespace of the module. -/
def namespaceName (o : CallableOptions) : String :=
  (o.namespaceNameOf.map fun f => f o.names).getD o.names.namespaceName

/-- The name of the method. -/
def methodName (o : CallableOptions) : String :=
  (o.methodNameOf.map fun f => f o.names).getD o.names.methodName

end CallableOptions

/-- What turns callables into classes: a cache, and where compilers come from. -/
structure CallableWrapper where
  /-- The cache that callables and defaults go into. -/
  cache : Nat
  /-- Gives a compiler. -/
  compilerOf : Run String

/-! ## Source -/

/-- The import of the module of special forms under the name that bodies use. -/
def importTyping : Stmt := .imports [⟨"typing", some typingAlias⟩]

/-- The one statement of the method: the call, its result given back unless there is none; a result
whose class is stated is marked as being of it. -/
def forwardCall (p : Plan) (w : World) (m : ConvertedMethod) (call : Expr) : Stmt :=
  let call := if m.method.isAsync then .await call else call
  match m.method.returns with
  | none => .returns (some call)
  | some a =>
    if m.method.returnsValue then
      .returns (some (.call (.attribute (.name typingAlias) "cast")
        [Expr.str ((p.spell w (some a)).text .draft), call] []))
    else .expr call

/-- The module of a class around a callable that is cached under an identifier. -/
def callableTree (o : CallableOptions) (modules : List String) (p : Plan) (m : ConvertedMethod)
    (identifier : Uuid) : Run (List Stmt) := do
  let constructorParams := p.constructorParams (← get)
  let constructorBody ← p.constructorBody
  let w ← get
  let params ← p.methodParams m
  let method := Stmt.define m.method.isAsync o.methodName params (resultOf p w m.method.returns) []
    [forwardCall p w m (m.callOf (cachedValue identifier))]
  let body := [namespaceLine, .layout ""] ++ constructorOf constructorParams constructorBody ++
    p.propertyDefinitions w ++ [method]
  return header (modules.map importOf ++ [importTyping]) o.namespaceName ++
    [.class o.typeName [] [] [] body]

namespace CallableWrapper

/-- The program of a class around a callable with a description. -/
def program (cw : CallableWrapper) (f : Value) (method : MethodInfo) (o : CallableOptions)
    (compiler : String) : Run Program := do
  let plan : Plan :=
    { rules := o.rules, cache := some cw.cache, selfTypeName := some o.typeName }
  let (converted, plan) ← planning plan (Plan.convertMethod method)
  let identifier ← addValue cw.cache f
  let modules := ((← get).compiler compiler).moduleNames
  return .ofTree .draft (← callableTree o modules plan converted identifier)

/-- Generates, compiles and loads the module of a class around a callable. -/
def generate (cw : CallableWrapper) (f : Value) (o : CallableOptions) : Run GeneratedModule := do
  let method ← Describe.describeCallable f
  let compiler ← compilerFor o.compiler cw.compilerOf
  addTypingReference compiler
  Compiler.addReferences compiler method.annotations
  let program ← cw.program f method o compiler
  Run.log
    { component := "callable_wrapper"
      operation := "generate"
      level := "DEBUG"
      message := "rendered wrapper"
      extra := [("type_name", o.typeName), ("callable", method.name),
        ("lines", toString (countLines program.text))] }
  Compiler.compile compiler program (seeds cw.cache)

/-- The class around a callable. -/
def createType (cw : CallableWrapper) (f : Value) (o : CallableOptions) : Run Named := do
  (← cw.generate f o).singleType

end CallableWrapper

end Facade.Wrapper
