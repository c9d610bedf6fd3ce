import Facade.Failure
import Facade.Reference.Set
import Facade.Store.Value
import Facade.Syntax.Tree
import Facade.Table

/-!
# The world of a running program

* `Function`, `ClassInfo`, `ModuleInfo`, `InstanceInfo`: what the store holds, and `Object`.
* `ValueCache`, `Context`, `Resolver`, `Compiler`: caches, execution contexts, compilers.
* `Event`, `LogRecord`: what the world remembers of what happened.
* `World`: everything; `Run`: an operation that reads and changes it and may fail. A failed
  operation leaves the changes that it made before it failed.
-/

namespace Facade

open Syntax (ParamKind Stmt)

/-! ## Functions -/

/-- A parameter of a function. -/
structure Parameter where
  /-- Its name. -/
  name : String
  /-- What it accepts. -/
  kind : ParamKind := .positionalOrKeyword
  /-- Its annotation, if it has one. -/
  hint : Option Value := none
  /-- Its default, if it has one. -/
  default : Option Value := none
  deriving Repr, Inhabited

/-- What a scripted function does once it is called. -/
inductive Action where
  /-- Gives a value. -/
  | value (v : Value)
  /-- Gives an argument back. -/
  | arg (name : String)
  /-- Gives an attribute of the receiver. -/
  | get (attr : String)
  /-- Sets an attribute of the receiver to an argument. -/
  | set (attr param : String)
  /-- Adds an argument to an attribute of the receiver. -/
  | incr (attr param : String)
  /-- Raises. -/
  | raise (s : Scripted)
  deriving Repr, Inhabited

/-- What a function does. -/
inductive Body where
  /-- Records the call under a name, the receiver left out if there is one, and acts. -/
  | script (logName : String) (hasReceiver : Bool) (action : Action)
  /-- Runs statements. Private names are spelled with the name of a class, if one is given; names of
  the surrounding function have the values that they had at the definition. -/
  | code (body : List Stmt) (privateTo : Option String) (captured : Table String Value)
  deriving Repr, Inhabited

/-- A function. -/
structure Function where
  /-- Its name. -/
  name : String
  /-- Its name inside its module. -/
  qualname : String
  /-- Its parameters, the receiver included. -/
  params : List Parameter
  /-- The annotation of its result. -/
  returns : Option Value := none
  /-- Calling it yields a coroutine. -/
  isAsync : Bool := false
  /-- It is an abstract method. -/
  isAbstract : Bool := false
  /-- The names of its type parameters. -/
  typeParams : List String := []
  /-- Its signature can be inspected. -/
  hasSignature : Bool := true
  /-- The module whose globals it sees. -/
  globals : Option Nat := none
  /-- The class in whose body it was defined. -/
  home : Option Nat := none
  /-- What it does. -/
  body : Body
  deriving Repr, Inhabited

/-! ## Classes, instances, modules -/

/-- How a class can be subscripted. -/
inductive Subscripting where
  /-- Not at all. -/
  | refused
  /-- By anything. -/
  | anything
  /-- By as many arguments as it has type parameters. -/
  | params (count : Nat)
  deriving DecidableEq, Repr, Inhabited

/-- A class. -/
structure ClassInfo where
  /-- Its number and declared names. -/
  named : Named
  /-- Its short name. -/
  name : String
  /-- Its bases. -/
  bases : List Named := []
  /-- Its linearisation: itself, then its ancestors in order of precedence. -/
  linearisation : List Named := []
  /-- Its namespace. -/
  members : Table String Value := {}
  /-- How it can be subscripted. -/
  subscripting : Subscripting := .refused
  /-- Abstract methods keep it from being instantiated. -/
  checksAbstract : Bool := false
  /-- The names of its abstract methods. -/
  abstracts : List String := []
  /-- It belongs to the language and cannot be changed. -/
  builtin : Bool := false
  /-- No class can derive from it. -/
  final : Bool := false
  /-- The class that determines how its instances are laid out. -/
  layout : Nat := 0
  deriving Repr, Inhabited

/-- An instance of a class. -/
structure InstanceInfo where
  /-- Its class. -/
  cls : Named
  /-- Its attributes. -/
  attrs : Table String Value := {}
  deriving Repr, Inhabited

/-- A module. -/
structure ModuleInfo where
  /-- The name it was made under. -/
  name : String
  /-- Its globals. -/
  globals : Table String Value := {}
  /-- The origin that its specification states. -/
  origin : Option String := none
  /-- It has parts that can be imported. -/
  isPackage : Bool := false
  /-- The context through which it imports. -/
  context : Option Nat := none
  /-- What can be used in it without import, as it was when the module was made; none: as it is. -/
  builtins : Option (Table String Value) := none
  deriving Repr, Inhabited

/-- What the store holds. -/
inductive Object where
  | cls (c : ClassInfo)
  | instance (i : InstanceInfo)
  | function (f : Function)
  | module (m : ModuleInfo)
  /-- A number that only tells objects apart. -/
  | token
  deriving Repr, Inhabited

/-! ## Caches and contexts -/

/-- A cache of live values. Entries are never removed. -/
structure ValueCache where
  /-- The values by identifier. -/
  entries : Table Uuid Value := {}
  /-- Look-ups that found a value. -/
  hits : Nat := 0
  /-- Look-ups that did not. -/
  misses : Nat := 0
  deriving Repr, Inhabited

/-- The scope in which generated modules resolve names. -/
structure Context where
  /-- Its name, if it has one of its own. -/
  name : Option String
  /-- The modules loaded into it. -/
  modules : Table String Nat := {}
  /-- The modules it was given as references. -/
  references : Table String Nat := {}
  deriving Repr, Inhabited

/-! ## Compilers -/

/-- Gathers the references that a piece of source needs. -/
structure Resolver where
  /-- The context whose modules are found first, if there is one. -/
  context : Option Nat := none
  /-- The references so far. -/
  references : ReferenceSet := {}
  /-- The referenced modules by name. -/
  modules : Table String Nat := {}
  /-- The modules that have been visited. -/
  seen : List Nat := []
  deriving Repr, Inhabited

/-- Compiles source against a growing set of references. -/
structure Compiler where
  /-- Modules are written to the working directory before they are loaded. -/
  persist : Bool := true
  /-- Warnings count as errors. -/
  warningsAsErrors : Bool := false
  /-- The name of the next module; a random one is drawn if there is none. -/
  name : Option String := none
  /-- The directory of persisted modules. -/
  workingDir : String
  /-- The version that is stamped on modules. -/
  version : String
  /-- The context that modules are loaded into. -/
  context : Nat
  /-- What the modules are compiled against. -/
  resolver : Resolver := {}
  deriving Repr, Inhabited

/-! ## What is remembered -/

/-- Something that a scripted object recorded. -/
inductive Event where
  /-- A function was called with these arguments. -/
  | call (name : String) (args : List (String × Value))
  /-- A hook ran for an instance of a class, and around a method. -/
  | hook (tag cls : String) (method : Option String)
  /-- A class was decorated. -/
  | decorated (tag cls : String)
  /-- An instance of a class was made. -/
  | made (cls : String)
  deriving Repr, Inhabited

/-- A record of the log: where it was made, its level, and its text with context. -/
structure LogRecord where
  /-- The component that logged. -/
  component : String
  /-- The operation it was in. -/
  operation : String := ""
  /-- The severity's name. -/
  level : String
  /-- The message. -/
  message : String
  /-- Further facts. -/
  extra : List (String × String) := []
  deriving DecidableEq, Repr, Inhabited

/-! ## The world -/

/-- Everything that an operation can read or change. -/
structure World where
  /-- The store. -/
  objects : Array Object := #[]
  /-- The modules that can be imported by name. -/
  importable : Table String Nat := {}
  /-- The value caches. -/
  caches : Array ValueCache := #[]
  /-- The execution contexts. -/
  contexts : Array Context := #[]
  /-- The compilers, by what they are called. -/
  compilers : Table String Compiler := {}
  /-- The bits of the identifiers to be drawn first. -/
  queuedUuids : List Nat := []
  /-- How many identifiers have been drawn after those; their bits count up from one. -/
  drawnUuids : Nat := 0
  /-- How many random names have been drawn. -/
  drawnNames : Nat := 0
  /-- What scripted objects recorded, oldest first. -/
  events : List Event := []
  /-- The records of the log, oldest first. -/
  records : List LogRecord := []
  /-- The files that were written. -/
  files : Table String String := {}
  deriving Inhabited

/-- An operation on a state of its own that leaves records in the log and may be refused. What was
done before a refusal stays done. -/
abbrev Logged (σ : Type) := ExceptT Refusal (StateM (σ × List LogRecord))

namespace Logged

variable {σ α : Type}

/-- The state. -/
def state : Logged σ σ := do return (← get).1

/-- Changes the state. -/
def change (f : σ → σ) : Logged σ Unit := modify fun (s, log) => (f s, log)

/-- Adds a record to the log. -/
def note (r : LogRecord) : Logged σ Unit := modify fun (s, log) => (s, log ++ [r])

/-- The outcome, the state and the records of an operation. -/
def outcome (x : Logged σ α) (s : σ) : Except Refusal α × σ × List LogRecord :=
  x.run (s, [])

end Logged

/-- An operation on the world. -/
abbrev Run := ExceptT Failure (StateM World)

namespace Run

/-- Fails as the running program does. -/
def fault {α : Type} (f : Fault) : Run α := throw (.fault f)

/-- Refuses. -/
def refuse {α : Type} (r : Refusal) : Run α := throw (.refused r)

/-- Puts an object into the store and gives its number. -/
def allocate (o : Object) : Run Nat := do
  let w ← get
  set { w with objects := w.objects.push o }
  return w.objects.size

/-- The object with a number. -/
def object (id : Nat) : Run Object := do
  return ((← get).objects[id]?).getD .token

/-- Replaces an object. -/
def replace (id : Nat) (o : Object) : Run Unit :=
  modify fun w => { w with objects := w.objects.setIfInBounds id o }

/-- Records an event. -/
def record (e : Event) : Run Unit := modify fun w => { w with events := w.events ++ [e] }

/-- Adds a record to the log. -/
def log (r : LogRecord) : Run Unit := modify fun w => { w with records := w.records ++ [r] }

/-- Runs an operation on a state of its own: its outcome and the state afterwards. -/
def within {σ α : Type} (x : Logged σ α) (s : σ) : Run (Except Refusal α × σ) := do
  let (r, s, log) := x.outcome s
  modify fun w => { w with records := w.records ++ log }
  return (r, s)

/-- Turns a refusal into a failure. -/
def orRefuse {α : Type} : Except Refusal α → Run α
  | .ok x => return x
  | .error r => refuse r

/-- A fresh number. -/
def freshId : Run Nat := allocate .token

/-- A fresh identifier. -/
def freshUuid : Run Uuid := do
  let w ← get
  match w.queuedUuids with
  | n :: r =>
    set { w with queuedUuids := r }
    return .ofBits n
  | [] =>
    set { w with drawnUuids := w.drawnUuids + 1 }
    return .ofBits (w.drawnUuids + 1)

end Run

namespace World

/-- The class with a number. -/
def class? (w : World) (id : Nat) : Option ClassInfo :=
  match w.objects[id]? with
  | some (.cls c) => some c
  | _ => none

/-- The function with a number. -/
def function? (w : World) (id : Nat) : Option Function :=
  match w.objects[id]? with
  | some (.function f) => some f
  | _ => none

/-- The module with a number. -/
def module? (w : World) (id : Nat) : Option ModuleInfo :=
  match w.objects[id]? with
  | some (.module m) => some m
  | _ => none

/-- The instance with a number. -/
def instance? (w : World) (id : Nat) : Option InstanceInfo :=
  match w.objects[id]? with
  | some (.instance i) => some i
  | _ => none

/-- The linearisation of a class. -/
def linearisation (w : World) (id : Nat) : List Named :=
  ((w.class? id).map ClassInfo.linearisation).getD []

/-- A member that a class or one of its ancestors has, looked for along the linearisation. -/
def findMember? (w : World) (classes : List Named) (name : String) : Option Value :=
  classes.findSome? fun c => (w.class? c.id).bind fun i => i.members.get? name

end World

end Facade
