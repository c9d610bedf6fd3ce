import Facade.Scene.Build

/-!
# Using execution contexts

* `ContextStep`: what can be done with a context.
* `ContextStep.run`: does one thing with one of several contexts: what came out, and where those get
  a context from now on who are given none.
-/

namespace Facade.Scene

open Facade.Execution

/-- What can be done with a context. -/
inductive ContextStep where
  /-- Takes a module in. -/
  | register (key : String)
  /-- Makes modules importable. -/
  | references (keys : List String)
  /-- Looks a module up. -/
  | resolve (name : String)
  /-- Imports a name: members are asked for or not, so many levels up, seen from a package. -/
  | importName (name : String) (hasMembers : Bool) (level : Int) (package : Option String)
  /-- Sets where a context comes from. -/
  | useSource (source : ContextSource)
  /-- Asks for the context of one that has a source of its own, or none. -/
  | choose (own : Option ContextSource)
  /-- Asks for the text of the context. -/
  | display
  deriving Repr, Inhabited

/-- Does one thing with a context. -/
def ContextStep.run (s : Scene) (context : Nat) (usual : ContextSource) :
    ContextStep → Run (Value × ContextSource)
  | .register key => do
    registerModule context (← s.findModule key)
    return (.none, usual)
  | .references keys => do
    setReferences context (← keys.mapM s.findModule)
    return (.none, usual)
  | .resolve name => do
    return ((((← get).context context).resolve? name).elim .none .module, usual)
  | .importName name hasMembers level package => do
    let m ← lift (importThrough (← get) (some context) name hasMembers level package)
    return (.module m, usual)
  | .useSource source => return (.bool (source = .unnamed), source)
  | .choose own => do
    match ← chooseContext own usual with
    | some c => return (.str ((← get).context c).label, usual)
    | none => Run.fault .attribute
  | .display => do return (.str ((← get).context context).display, usual)

/-- Does one thing; a failure leaves the source as it is. -/
def ContextStep.attempt (s : Scene) (context : Nat) (usual : ContextSource) (x : ContextStep) :
    Run (Except Failure Value × ContextSource) :=
  tryCatch (do let (v, source) ← x.run s context usual; return (.ok v, source))
    fun e => return (.error e, usual)

/-- How a described module is called: by its key, or as one that everyone can import. -/
def keyOf (s : Scene) (w : World) (m : Nat) : String :=
  ((s.modules.entries.find? fun e => e.2 == m).map Prod.fst).getD ("real:" ++ w.moduleName m)

end Facade.Scene
