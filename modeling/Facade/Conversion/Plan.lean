import Facade.Conversion.Rule
import Facade.Syntax.Printer

/-!
# Conversion plans

A plan applies conversion rules across the methods of one generated class. Constructor parameters and
routed properties are shared by all methods; a name that comes twice keeps its first declaration.

* `Plan`, `Plan.convertMethod`, `Plan.addConstructorParameter`: the tables and what fills them.
* `ConvertedMethod`: a method and, per parameter, where its argument comes from.
* `methodParams`, `constructorParams`, `constructorBody`, `propertyDefinitions`: the source of what
  the tables hold.
-/

namespace Facade.Conversion

open Facade.Describe (ParameterInfo MethodInfo)
open Facade.Execution
open Syntax (Expr Stmt Param ParamKind)

/-! ## Names in generated code -/

/-- The global name of the value cache in generated modules. -/
def cacheGlobal : String := "_value_cache"

/-- The name under which generated bodies know the module of special forms, so that a parameter of
its own name cannot hide it. -/
def typingAlias : String := "__typeforge_typing__"

/-- The names that generated bodies rely on. -/
def reservedNames : List String := ["self", "super", cacheGlobal, typingAlias]

/-- The expression that fetches a cached value. -/
def cachedValue (u : Uuid) : Expr :=
  .call (.attribute (.name cacheGlobal) "get") [Expr.str u.render] []

/-- The field in which something of a name is kept. -/
def fieldOf (name : String) : String := "_" ++ name

/-! ## What a plan holds -/

/-- A parameter of the generated constructor. -/
structure ConstructorParameter where
  /-- Its name. -/
  name : String
  /-- Its annotation, if it has one. -/
  hint : Option Value := none
  deriving Repr, Inhabited

/-- A property of the generated class that is backed by a field. -/
structure RoutedProperty where
  /-- Its name. -/
  name : String
  /-- Its annotation, if it has one. -/
  hint : Option Value := none
  /-- The value it starts with, if there is one. -/
  default : Option Value := none
  deriving Repr, Inhabited

/-- A parameter of the forwarded call after conversion. -/
structure ConvertedParameter where
  /-- The parameter. -/
  parameter : ParameterInfo
  /-- Where its argument comes from. -/
  route : Route
  /-- The name it goes by there. -/
  name : String
  deriving Repr, Inhabited

/-- A method after conversion. -/
structure ConvertedMethod where
  /-- The method. -/
  method : MethodInfo
  /-- Its parameters. -/
  parameters : List ConvertedParameter
  deriving Repr, Inhabited

/-- The tables of one generated class. -/
structure Plan where
  /-- The rules, first one first. -/
  rules : List Rule := []
  /-- The cache for defaults that are no literals. -/
  cache : Option Nat := none
  /-- The name of the generated class, which stands for the type variable `T`. -/
  selfTypeName : Option String := none
  /-- The constructor's parameters. -/
  constructor : Table String ConstructorParameter := {}
  /-- The properties. -/
  properties : Table String RoutedProperty := {}
  deriving Inhabited

namespace ConvertedParameter

/-- The expression of the argument inside the generated method. -/
def expression (p : ConvertedParameter) : Expr :=
  match p.route with
  | .constructor => .attribute (.name "self") (fieldOf p.name)
  | .property => .attribute (.name "self") p.name
  | .method => .name p.name

/-- The argument as it is written in the forwarded call. -/
def argument (p : ConvertedParameter) : String :=
  match p.parameter.kind with
  | .varPositional => "*" ++ p.name
  | .varKeyword => "**" ++ p.name
  | .keywordOnly => p.parameter.name ++ "=" ++ p.expression.text .draft
  | _ => p.expression.text .draft

end ConvertedParameter

namespace ConvertedMethod

/-- The parameters that the generated method has. -/
def methodParameters (m : ConvertedMethod) : List ConvertedParameter :=
  m.parameters.filter fun p => p.route = .method

/-- The arguments of the forwarded call that are given by position. -/
def positionalArguments (m : ConvertedMethod) : List Expr :=
  m.parameters.filterMap fun p =>
    match p.parameter.kind with
    | .varPositional => some (.starred (.name p.name))
    | .varKeyword | .keywordOnly => none
    | _ => some p.expression

/-- The arguments of the forwarded call that are given by name. -/
def namedArguments (m : ConvertedMethod) : List (Option String × Expr) :=
  m.parameters.filterMap fun p =>
    match p.parameter.kind with
    | .varKeyword => some (none, .name p.name)
    | .keywordOnly => some (some p.parameter.name, p.expression)
    | _ => none

/-- The text of the arguments of the forwarded call. -/
def argumentsText (m : ConvertedMethod) : String :=
  ", ".intercalate (m.parameters.map ConvertedParameter.argument)

/-- The forwarded call of a function. -/
def callOf (m : ConvertedMethod) (f : Expr) : Expr :=
  .call f m.positionalArguments m.namedArguments

end ConvertedMethod

/-! ## Filling the tables -/

/-- Planning changes a plan. -/
abbrev Planning := Logged Plan

/-- A converted name must be a name. -/
def checkName (name : String) : Planning Unit := do
  if !Text.isName name then throw (.badParameterName name)

/-- A converted name must not be one that generated code relies on. -/
def checkNotReserved (name : String) : Planning Unit := do
  if reservedNames.contains name then throw (.reservedName name)

namespace Plan

/-- Adds a parameter to the constructor unless there is one of its name. -/
def addConstructorParameter (name : String) (hint : Option Value) : Planning Unit := do
  checkName name
  checkNotReserved name
  Logged.change fun p =>
    { p with constructor := p.constructor.setDefault name ⟨name, hint⟩ }

/-- Adds a property unless there is one of its name. -/
def addProperty (name : String) (hint default : Option Value) : Planning Unit :=
  Logged.change fun p =>
    { p with properties := p.properties.setDefault name ⟨name, hint, default⟩ }

/-- Puts a parameter that takes no surplus where its conversion says, and gives its name there. -/
def place (c : Destination) (p : ParameterInfo) : Planning String := do
  let name := c.nameFor p
  checkName name
  match c.route with
  | .method =>
    checkNotReserved name
    return name
  | .constructor =>
    addConstructorParameter name p.hint
    return name
  | .property =>
    addProperty (propertyName name) p.hint p.default
    return propertyName name

/-- Converts a parameter. One that takes a surplus is never offered to rules. -/
def convertParameter (method : String) (p : ParameterInfo) : Planning ConvertedParameter := do
  if p.kind.isVariadic then
    checkNotReserved p.name
    return ⟨p, .method, p.name⟩
  else
    let c := convert (← Logged.state).rules p
    let name ← place c p
    if c.route ≠ .method || name != p.name then
      Logged.note
        { component := "conversion"
          level := "DEBUG"
          message := "converted parameter"
          extra := [("method", method), ("parameter", p.name), ("route", c.route.word),
            ("name", name)] }
    return ⟨p, c.route, name⟩

/-- Converts the parameters of a method. -/
def convertMethod (m : MethodInfo) : Planning ConvertedMethod := do
  return ⟨m, ← m.params.mapM (convertParameter m.name)⟩

/-! ## Source -/

/-- The expression that an annotation is spelled as in the generated class. -/
def spell (p : Plan) (w : World) (a : Option Value) : Expr :=
  Hint.spell w p.selfTypeName (a.getD Standard.empty)

/-- The expression of a default: a literal, or a look-up of the value in the cache. -/
def defaultExpr (p : Plan) (v : Value) : Run Expr := do
  match v.literal? with
  | some e => return e
  | none =>
    match p.cache with
    | some c => return cachedValue (← addValue c v)
    | none => Run.refuse (.uncachedDefault (v.display (← get)))

/-- The receiver of a generated method. -/
def receiver (kind : ParamKind) : Param := { kind := kind, name := "self" }

/-- A parameter of a generated method. -/
def methodParam (p : Plan) (c : ConvertedParameter) : Run Param := do
  let hint := p.spell (← get) c.parameter.hint
  let default ← if c.parameter.kind.isVariadic then pure none
    else c.parameter.default.mapM p.defaultExpr
  return { kind := c.parameter.kind, name := c.name, hint := some hint,
           default := default }

/-- The parameters of a generated method. The receiver can be given by position only if another
parameter can. -/
def methodParams (p : Plan) (m : ConvertedMethod) : Run (List Param) := do
  let params ← m.methodParameters.mapM p.methodParam
  let positionalOnly := params.any fun q => q.kind = .positionalOnly
  return receiver (if positionalOnly then .positionalOnly else .positionalOrKeyword) :: params

/-- The parameters of the generated constructor. -/
def constructorParams (p : Plan) (w : World) : List Param :=
  receiver .positionalOrKeyword :: p.constructor.values.map fun c =>
    { kind := .positionalOrKeyword, name := c.name, hint := some (p.spell w c.hint) }

/-- A field of the generated class, seen from inside a method. -/
def selfField (name : String) : Expr := .attribute (.name "self") (fieldOf name)

/-- The statements that keep the constructor's arguments and give the properties their first
values. -/
def constructorBody (p : Plan) : Run (List Stmt) := do
  let fields := p.constructor.values.map fun c => Stmt.assign [selfField c.name] (.name c.name)
  let properties ← p.properties.values.mapM fun q => do
    let value ← match q.default with
      | some v => p.defaultExpr v
      | none => pure (.const .none)
    return Stmt.annAssign (selfField q.name) (p.spell (← get) q.hint) (some value) false
  return fields ++ properties

end Plan

/-- A property that passes reads and writes on to a place, with a blank line after each part. -/
def passThrough (name : String) (hint place : Expr) (writable : Bool) : List Stmt :=
  let self := Plan.receiver .positionalOrKeyword
  let value : Param :=
    { kind := .positionalOrKeyword, name := "value", hint := some hint }
  let getter := Stmt.define false name [self] (some hint) [.name "property"]
    [.returns (some place)]
  let setter := Stmt.define false name [self, value] (some (.const .none))
    [.attribute (.name name) "setter"] [.assign [place] (.name "value")]
  [getter, .layout ""] ++ if writable then [setter, .layout ""] else []

namespace Plan

/-- The definitions of the properties. -/
def propertyDefinitions (p : Plan) (w : World) : List Stmt :=
  p.properties.values.flatMap fun q =>
    passThrough q.name (p.spell w q.hint) (selfField q.name) true

end Plan

end Facade.Conversion
