import Facade.Store.World

/-!
# Descriptions of a world

What a world is to hold can be described before there is one: modules, classes and annotations under
names of the description's own.

* `Ann`: an annotation as it is written.
* `FunctionSpec`, `MemberSpec`, `ClassSpec`, `ModuleSpec`: definitions.
* `CallableSpec`: something that can be called, or cannot.
* `CompilerSpec`: a compiler.

Values stand for themselves, except that an object known only by its name is a new one each time it
is described.
-/

namespace Facade.Scene

open Syntax (ParamKind)

/-- An annotation as it is written. -/
inductive Ann where
  /-- The value that means absence. -/
  | none
  /-- What a name of the description stands for. -/
  | named (id : String)
  /-- The annotation that stands for anything. -/
  | any
  /-- The marker of a missing annotation. -/
  | empty
  | ellipsis
  /-- A text. -/
  | text (s : String)
  /-- A reference to a name that is not defined yet. -/
  | forward (s : String)
  /-- Any value. -/
  | value (v : Value)
  /-- A list. -/
  | list (args : List Ann)
  | typeVar (name : String)
  /-- A base with arguments in brackets. -/
  | subscript (base : Ann) (args : List Ann)
  /-- A member of the module of special forms. -/
  | special (name : String)
  /-- A union made by the special form. -/
  | union (args : List Ann)
  /-- A union made by the operator. -/
  | pipe (args : List Ann)
  | literal (values : List Value)
  | annotated (args : List Ann) (metadata : List String)
  /-- A callable; without a list, any parameters are meant. The class can be that of the module of
  special forms or that of the module of abstract collections. -/
  | callable (params : Option (List Ann)) (returns : Ann) (isPlain : Bool)
  | newType (name module : String) (supertype : Ann)
  | typeAlias (name module : String) (value : Ann)
  deriving Repr, Inhabited

/-- A parameter. -/
structure ParamSpec where
  /-- Its name. -/
  name : String
  /-- Its annotation, if it has one. -/
  hint : Option Ann := none
  /-- What it accepts. -/
  kind : ParamKind := .positionalOrKeyword
  /-- Its default, if it has one. -/
  default : Option Value := none
  deriving Repr, Inhabited

/-- A function. -/
structure FunctionSpec where
  /-- Its name, if it has one of its own. -/
  name : Option String := none
  /-- Its parameters, without the receiver. -/
  params : List ParamSpec := []
  /-- The annotation of its result. -/
  returns : Option Ann := none
  /-- Calling it yields a coroutine. -/
  isAsync : Bool := false
  /-- It is an abstract method. -/
  isAbstract : Bool := false
  /-- The names of its type parameters. -/
  typeParams : List String := []
  /-- Its signature can be inspected. -/
  hasSignature : Bool := true
  /-- What it does. -/
  action : Action := .value .none
  deriving Repr, Inhabited

/-- The receiver of a method: the usual parameter, one of another name, or none. -/
inductive Receiver where
  | usual
  | named (name : String)
  | absent
  deriving DecidableEq, Repr, Inhabited

/-- A member of a class. -/
inductive MemberSpec where
  /-- An annotated attribute without a value. -/
  | annotated (name : String) (hint : Ann)
  /-- An attribute with a value. -/
  | attribute (name : String) (value : Value)
  /-- A property over an attribute. -/
  | property (name : String) (returns : Option Ann) (hasGetter hasSetter : Bool) (attr : String)
  | method (f : FunctionSpec) (receiver : Receiver)
  | staticMethod (f : FunctionSpec)
  | classMethod (f : FunctionSpec) (receiver : Receiver)
  deriving Repr, Inhabited

/-- A class. -/
structure ClassSpec where
  /-- Its name. -/
  name : String
  /-- The name that stands for it in the description. -/
  id : String
  /-- The module that declares it. -/
  module : String
  /-- Its name inside the module. -/
  qualname : String
  /-- Its bases. -/
  bases : List Ann := []
  /-- The names of its type variables, if it is generic. -/
  typeVars : List String := []
  /-- Abstract methods keep it from being instantiated. -/
  checksAbstract : Bool := false
  /-- Whether its instances are declared unchangeable, if anything is declared. -/
  frozen : Option Bool := none
  /-- Its module does not give it out. -/
  hidden : Bool := false
  /-- Its members, in order. -/
  members : List MemberSpec := []
  deriving Repr, Inhabited

/-- A definition. -/
inductive DefSpec where
  | hint (id : String) (a : Ann)
  | cls (c : ClassSpec)
  deriving Repr, Inhabited

/-- Where a module can be found. -/
inductive ModulePlace where
  /-- By everyone. -/
  | everywhere
  /-- Loaded into the context. -/
  | context
  /-- Given to the context as a reference. -/
  | contextReferences
  /-- Nowhere. -/
  | nowhere
  deriving DecidableEq, Repr, Inhabited

/-- A module. -/
structure ModuleSpec where
  /-- Its name. -/
  name : String
  /-- The name that stands for it in the description. -/
  key : String
  /-- What it says about its file, if it says anything. -/
  file : Option Value := none
  /-- The origin that its specification states. -/
  origin : Option String := none
  /-- The modules that it refers to. -/
  references : Option (List String) := none
  /-- Where it can be found. -/
  place : ModulePlace := .everywhere
  deriving Repr, Inhabited

/-- Something to be called. -/
inductive CallableSpec where
  /-- A function that sees the globals of a module. -/
  | function (f : FunctionSpec) (module : Option String)
  /-- A function without a name. -/
  | anonymous (f : FunctionSpec) (module : Option String)
  /-- A method of an object. -/
  | method (f : FunctionSpec) (receiver : Receiver) (module : Option String)
  /-- An object of a class of its own that can be called. -/
  | object (f : FunctionSpec) (receiver : Receiver) (module : Option String) (cls : String)
  /-- A callable with some of its arguments. -/
  | partialCall (f : CallableSpec) (args : List Value) (keywords : List (String × Value))
  /-- The function that tells the length of a container. -/
  | length
  | value (v : Value)
  /-- What a name of the description stands for. -/
  | named (id : String)
  deriving Repr, Inhabited

/-- A type or a module to be referenced. -/
inductive Target where
  | hint (a : Ann)
  | module (key : String)
  deriving Repr, Inhabited

/-- A compiler. -/
structure CompilerSpec where
  /-- Modules are written to the working directory before they are loaded. -/
  persist : Bool := false
  /-- The working directory. -/
  workingDir : String
  /-- The name of the next module. -/
  name : Option String := some "unit"
  /-- The version that is stamped on modules. -/
  version : String := "9.9"
  /-- Warnings count as errors. -/
  warningsAsErrors : Bool := false
  /-- What is referenced from the start. -/
  references : List Target := []
  deriving Repr, Inhabited

end Facade.Scene
