import Facade.Compiler.Program
import Facade.Describe.Members
import Facade.Reference.Resolver
import Facade.Execution.Eval

/-!
# Generated modules

* `GeneratedModule`: a module that was compiled and loaded.
* `GeneratedModule.exportedTypes`: the classes that it defines and gives out.
* `GeneratedModule.singleType`: the one class that it gives out.
-/

namespace Facade

open Facade.Execution

/-- A module that was compiled and loaded into a context. -/
structure GeneratedModule where
  /-- The name it was compiled under. -/
  name : String
  /-- The module. -/
  module : Nat
  /-- Its text. -/
  text : String
  /-- The context it was loaded into. -/
  context : Nat
  /-- The file it was written to, if it was. -/
  path : Option String := none
  /-- What the compiler had to say. -/
  diagnostics : List Diagnostic := []
  deriving Repr, Inhabited

/-- The name of a class inside its module, as the class states it. -/
def World.qualnameOf (w : World) (c : Named) : String :=
  (((w.class? c.id).bind fun i => classAttribute? w i "__qualname__").bind Value.toStr?).getD
    c.qualname

namespace GeneratedModule

/-- The global names of a module. -/
def globals (w : World) (m : Nat) : Table String Value :=
  ((w.module? m).map ModuleInfo.globals).getD {}

/-- The names that a module lists as public, with the values that there are for them. -/
def listed (names : Value) (globals : Table String Value) : Except Fault (List Value) := do
  let found ← (← names.elements?).mapM fun n =>
    if isKey n then .ok (n.toStr?.bind globals.get?) else .error .type
  return found.filterMap id

/-- The values that a module gives out: those it lists as public, else those of its public names. -/
def exports (globals : Table String Value) : Except Fault (List Value) :=
  match (globals.get? "__all__").filter fun v => !v.isNone with
  | some names => listed names globals
  | none => .ok ((globals.entries.filter fun e => Describe.MethodInfo.isPublicName e.1).map Prod.snd)

/-- Whether a class says that a module of the given name defines it. -/
def definedIn (w : World) (name : String) (c : Named) : Bool :=
  match (w.class? c.id).map fun info => classAttribute? w info "__module__" with
  | some (some v) => v.same (.str name)
  | _ => false

/-- The classes that a module defines and gives out, in the order in which it does. -/
def exportedTypes (g : GeneratedModule) (w : World) : Except Fault (List Named) := do
  return (← exports (globals w g.module)).filterMap fun
    | .cls c => if definedIn w g.name c then some c else none
    | _ => none

/-- The one class that a module gives out; none and several are refused. -/
def singleType (g : GeneratedModule) : Run Named := do
  let w ← get
  match ← lift (g.exportedTypes w) with
  | [c] => return c
  | cs => Run.refuse (.exports g.name (cs.map w.qualnameOf))

/-- What a module says about the namespace that it belongs to. -/
def namespaceOf (g : GeneratedModule) (w : World) : Value :=
  ((globals w g.module).get? "__namespace__").getD .none

end GeneratedModule

end Facade
