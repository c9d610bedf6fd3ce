import Facade.Source.Writer
import Facade.Text.Glob
import Facade.Wrapper.Layout

/-!
# Classes around a class

The generated class owns one instance of a class, made when the wrapper is constructed, and offers
the selected methods and properties by passing them on to it. Hooks run after construction and
around each method; foreign fragments can be put into the constructor, around each call and into the
class body.

* `TypeOptions`: how the class is shaped.
* `selectMethods`, `selectProperties`: what is passed on.
* `TypeLayout`: what is chosen while the module of the class is written; `TypeLayout.tree`: the module.
* `TypeWrapper.generate`: selects members, writes the module and compiles it.
* `TypeWrapper.createType`: the class itself.
-/

namespace Facade.Wrapper

open Facade.Conversion Facade.Execution
open Facade.Describe (MethodInfo MethodKind PropertyInfo)
open Syntax (Expr Stmt Param)

/-! ## Options -/

/-- Whether a method is offered unless something else is asked for: public, concrete, without type
parameters, called on instances, and declared by the class itself. -/
def isPlainMethod (c : Named) (m : MethodInfo) : Bool :=
  !m.isAbstract && m.isPublic && m.kind = .ofInstance && !m.isGeneric && m.declaring.any (·.id = c.id)

/-- Functions that are called around what the generated class does. -/
structure Hooks where
  /-- Called with a new instance. -/
  construct : Option Value := none
  /-- Called with the instance and the method before each call. -/
  before : Option Value := none
  /-- Called with the instance and the method after each call. -/
  after : Option Value := none
  deriving Repr, Inhabited

/-- Foreign fragments of code. -/
structure Fragments where
  /-- Put at the end of the constructor. -/
  construct : Option (Named → String) := none
  /-- Put before each call. -/
  before : Option (MethodInfo → String) := none
  /-- Put after each call, where the name `result` has the outcome. -/
  after : Option (MethodInfo → String) := none
  /-- Put at the end of the class. -/
  body : Option (Named → String) := none
  deriving Inhabited

/-- How the class around a class is shaped. A name that is computed wins over one that is set. -/
structure TypeOptions where
  /-- Where the arguments come from. -/
  rules : List Rule := []
  /-- The name of the class. -/
  typeName : String := defaultTypeName
  /-- The namespace of the module. -/
  namespaceName : String := defaultNamespaceName
  /-- Computes the name of the class. -/
  typeNameOf : Option (Named → String) := none
  /-- Computes the namespace. -/
  namespaceNameOf : Option (Named → String) := none
  /-- The patterns of the methods that are passed on; without any, all are. -/
  includeMethods : List String := []
  /-- The patterns of the properties that are passed on; without any, none is. -/
  includeProperties : List String := []
  /-- Which methods can be passed on. -/
  includeMethod : Named → MethodInfo → Bool := isPlainMethod
  /-- Which of them are not. -/
  excludeMethod : MethodInfo → Bool := fun _ => false
  /-- The name of the generated method. -/
  methodNameOf : MethodInfo → String := fun m => m.name
  /-- The decorators of the class, if there are to be any. -/
  decorators : List Value := []
  /-- Makes the wrapped instance: called with what it was set up with and the class. -/
  factory : Value := .native .makeInstance
  /-- What the factory is set up with. -/
  factorySetup : Value := .none
  /-- Functions called around what the class does. -/
  hooks : Hooks := {}
  /-- Foreign fragments. -/
  fragments : Fragments := {}
  /-- Further parameters of the constructor. -/
  constructorParameters : List (String × Value) := []
  /-- Further modules to be imported. -/
  namespaces : List String := []
  /-- Further types and modules to be referenced. -/
  references : List Value := []
  /-- The class holds the text of its module. -/
  includeSource : Bool := true
  /-- The text is brought into canonical form. -/
  prettifySource : Bool := true
  /-- The base of the class. -/
  inherits : Option Value := none
  /-- Further bases. -/
  implements : List Value := []
  /-- The compiler to be used instead of a fresh one. -/
  compiler : Option String := none

namespace TypeOptions

/-- The name of the class around a class. -/
def nameFor (o : TypeOptions) (c : Named) : String :=
  (o.typeNameOf.map fun f => f c).getD o.typeName

/-- The namespace of the module of the class around a class. -/
def namespaceFor (o : TypeOptions) (c : Named) : String :=
  (o.namespaceNameOf.map fun f => f c).getD o.namespaceName

/-- All bases of the class. -/
def bases (o : TypeOptions) : List Value := o.inherits.toList ++ o.implements

end TypeOptions

/-- What turns classes into classes around them: a cache, and where compilers come from. -/
structure TypeWrapper where
  /-- The cache that hooks, factories and defaults go into. -/
  cache : Nat
  /-- Gives a compiler. -/
  compilerOf : Run String

/-! ## Selection -/

/-- Whether a method is passed on. -/
def isSelected (o : TypeOptions) (c : Named) (m : MethodInfo) : Bool :=
  o.includeMethod c m && !o.excludeMethod m &&
    (o.includeMethods.isEmpty || Text.Glob.matchesAny m.name o.includeMethods)

/-- The methods that are passed on, in the order of declaration. -/
def selectMethods (c : Named) (o : TypeOptions) : Run (List MethodInfo) :=
  return (← Describe.methodsOf c).filter (isSelected o c)

/-- The properties that are passed on. -/
def selectProperties (c : Named) (o : TypeOptions) : Run (List PropertyInfo) :=
  return (← Describe.propertiesOf c).filter fun p => Text.Glob.matchesAny p.name o.includeProperties

/-! ## Source -/

/-- The field that holds the wrapped instance. -/
def instanceName : String := "_instance"

/-- The wrapped instance, seen from inside a method. -/
def wrapped : Expr := .attribute (.name "self") instanceName

/-- The name in which a method finds the outcome of its call. -/
def resultName : String := "result"

/-- The expression of a class by its import path. -/
def pathExpr (v : Value) : Expr := Expr.dotted ((Hint.qualifiedName? v).getD "")

/-- The hooks as they are written: each is fetched from the cache. -/
structure HookExprs where
  /-- Called with a new instance. -/
  construct : Option Expr := none
  /-- Called before each call. -/
  before : Option Expr := none
  /-- Called after each call. -/
  after : Option Expr := none

/-- Puts hooks into the cache. -/
def cacheHooks (cache : Nat) (h : Hooks) : Run HookExprs := do
  let construct ← h.construct.mapM (cached cache)
  let before ← h.before.mapM (cached cache)
  let after ← h.after.mapM (cached cache)
  return ⟨construct, before, after⟩

/-- A decorator as it is written; absence is written out. -/
def decoratorExpr (cache : Nat) (v : Value) : Run Expr :=
  if v.isNone then return .const .none else cached cache v

/-- A foreign fragment as a statement. -/
def fragment (code label : String) : Stmt := .fragment (Source.fragmentLines code label)

/-- A call that is made for its effect. -/
def effect (f : Expr) (args : List Expr) : Stmt := .expr (.call f args [])

/-- What calls are made on: the instance, or what comes before the class among the bases. -/
def superInit : Stmt :=
  effect (.attribute (.call (.name "super") [] []) "__init__") []

/-- A property that is passed on. -/
def typeProperty (p : Plan) (w : World) (q : PropertyInfo) : List Stmt :=
  passThrough q.name (p.spell w q.hint) (.attribute wrapped q.name) q.writable

/-- The statement that keeps the place of the text of the module. -/
def placeholderStmt : Stmt :=
  .assign [.name Source.sourceAttribute] (Expr.str Source.sourceMarker)

/-- What is chosen while a method that passes its call on is written. -/
structure MethodLayout where
  /-- The method. -/
  method : ConvertedMethod
  /-- Its parameters. -/
  params : List Param
  /-- What is told to hooks about the method, if there are any. -/
  info : Option Expr
  /-- The annotation of its result. -/
  result : Option Expr

/-- What is chosen while a class around a class is written. -/
structure TypeLayout where
  /-- The decorators. -/
  decorators : List Expr
  /-- The hooks. -/
  hooks : HookExprs
  /-- What makes the wrapped instance. -/
  provider : Expr
  /-- The parameters of the constructor. -/
  constructorParams : List Param
  /-- The statements that fill the fields. -/
  fields : List Stmt
  /-- The properties. -/
  properties : List Stmt
  /-- The methods. -/
  methods : List MethodLayout

/-- Puts what a method needs into the cache. -/
def methodLayout (p : Plan) (cache : Nat) (hooks : HookExprs) (m : ConvertedMethod) :
    Run MethodLayout := do
  let params ← p.methodParams m
  let info ← if hooks.before.isSome || hooks.after.isSome then
      some <$> cached cache (.methodInfo (← Run.freshId) m.method.name)
    else pure none
  return ⟨m, params, info, resultOf p (← get) m.method.returns⟩

/-- Puts what a class needs into the cache. -/
def typeLayout (o : TypeOptions) (c : Named) (cache : Nat) (p : Plan)
    (methods : List ConvertedMethod) (properties : List PropertyInfo) : Run TypeLayout := do
  let decorators ← o.decorators.mapM (decoratorExpr cache)
  let hooks ← cacheHooks cache o.hooks
  let provider ← cached cache (.partialCall o.factory [o.factorySetup, .cls c] [])
  let constructorParams := p.constructorParams (← get)
  let fields ← p.constructorBody
  let w ← get
  let methods ← methods.mapM (methodLayout p cache hooks)
  return {
    decorators, hooks, provider, constructorParams, fields, methods
    properties := p.propertyDefinitions w ++ properties.flatMap (typeProperty p w) }

/-- A method that passes its call on, with a blank line after it. -/
def MethodLayout.statements (l : MethodLayout) (o : TypeOptions) (hooks : HookExprs) : List Stmt :=
  let method := l.method.method
  let hook (h : Option Expr) : List Stmt :=
    (h.map fun e => effect e (wrapped :: l.info.toList)).toList
  let code (f : Option (MethodInfo → String)) (label : String) : List Stmt :=
    (f.map fun g => fragment (g method) label).toList
  let call := l.method.callOf (.attribute wrapped method.name)
  let call := if method.isAsync then .await call else call
  let body := hook hooks.before ++ code o.fragments.before "Custom before method code" ++
    [.assign [.name resultName] call] ++ hook hooks.after ++
    code o.fragments.after "Custom after method code" ++
    (if method.returnsValue then [.returns (some (.name resultName))] else [])
  [.define method.isAsync (o.methodNameOf method) l.params l.result [] body, .layout ""]

namespace TypeLayout

/-- The constructor. -/
def constructor (l : TypeLayout) (o : TypeOptions) (c : Named) : List Stmt :=
  constructorOf l.constructorParams <|
    (if o.bases.isEmpty then [] else [superInit]) ++
      [.assign [wrapped] (.call l.provider [] [])] ++ l.fields ++
      (l.hooks.construct.map fun h => effect h [wrapped]).toList ++
      (o.fragments.construct.map fun f => fragment (f c) "Custom constructor code").toList

/-- The module of a class around a class. -/
def tree (l : TypeLayout) (o : TypeOptions) (c : Named) (modules : List String) : List Stmt :=
  let body :=
    [namespaceLine, .annAssign (.name instanceName) (pathExpr (.cls c)) none true, .layout ""] ++
    l.constructor o c ++ l.properties ++ l.methods.flatMap (fun m => m.statements o l.hooks) ++
    (o.fragments.body.map fun f => fragment (f c) "Custom code").toList ++
    (if o.includeSource then [placeholderStmt] else [])
  header ((modules ++ o.namespaces).eraseDups.map importOf) (o.namespaceFor c) ++
    [.class (o.nameFor c) (o.bases.map pathExpr) [] l.decorators body]

end TypeLayout

/-! ## Generation -/

namespace TypeWrapper

/-- References everything that the module of a class around a class names. -/
def addReferences (compiler : String) (c : Named) (o : TypeOptions) (methods : List MethodInfo)
    (properties : List PropertyInfo) : Run Unit := do
  addTypingReference compiler
  Compiler.addReference compiler (.cls c)
  methods.forM fun m => Compiler.addReferences compiler m.annotations
  Compiler.addReferences compiler (properties.filterMap PropertyInfo.hint)
  Compiler.addReferences compiler (o.constructorParameters.map Prod.snd)
  Compiler.addReferences compiler o.bases
  o.references.forM (Compiler.addReference compiler)

/-- Converts the methods in order, then adds the further parameters of the constructor. -/
def planAll (o : TypeOptions) (methods : List MethodInfo) : Planning (List ConvertedMethod) := do
  let converted ← methods.mapM Plan.convertMethod
  o.constructorParameters.forM fun q => Plan.addConstructorParameter q.1 (some q.2)
  return converted

/-- The program that becomes of a draft. -/
def settle (o : TypeOptions) (draft : Program) : Except Fault Program := do
  let settled ← if o.prettifySource then draft.prettify else pure draft
  return if o.includeSource then settled.embed else settled

/-- The program of a class around a class. -/
def program (tw : TypeWrapper) (c : Named) (o : TypeOptions) (compiler : String)
    (methods : List MethodInfo) (properties : List PropertyInfo) : Run Program := do
  let plan : Plan :=
    { rules := o.rules, cache := some tw.cache, selfTypeName := some (o.nameFor c) }
  let (converted, plan) ← planning plan (planAll o methods)
  let modules := ((← get).compiler compiler).moduleNames
  let layout ← typeLayout o c tw.cache plan converted properties
  lift (settle o (.ofTree .draft (layout.tree o c modules)))

/-- The class that a value to be wrapped is. -/
def classToWrap (v : Value) : Run Named := do
  match v with
  | .none => Run.refuse .nothingToWrap
  | .cls c => return c
  | v => Run.refuse (.notAClass (v.display (← get)))

/-- Adds a record of a generation to the log. -/
def record (level message : String) (c : Named) (o : TypeOptions)
    (extra : List (String × String)) : Run Unit :=
  Run.log
    { component := "type_wrapper"
      operation := "generate"
      level := level
      message := message
      extra := [("original", c.qualname), ("type_name", o.nameFor c)] ++ extra }

/-- Generates, compiles and loads the module of a class around a class. -/
def generate (tw : TypeWrapper) (v : Value) (o : TypeOptions) : Run GeneratedModule := do
  let c ← classToWrap v
  let methods ← selectMethods c o
  let properties ← selectProperties c o
  record "DEBUG" "selected members" c o
    [("methods", toString methods.length), ("properties", toString properties.length)]
  let compiler ← compilerFor o.compiler tw.compilerOf
  addReferences compiler c o methods properties
  let program ← tw.program c o compiler methods properties
  let g ← Compiler.compile compiler program (seeds tw.cache)
  record "INFO" "generated wrapper" c o
    [("module", g.name), ("methods", toString methods.length)]
  return g

/-- The class around a class. -/
def createType (tw : TypeWrapper) (v : Value) (o : TypeOptions) : Run Named := do
  (← tw.generate v o).singleType

end TypeWrapper

end Facade.Wrapper
