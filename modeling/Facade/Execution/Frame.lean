import Facade.Execution.Context
import Facade.Store.Operators
import Facade.Syntax.Tree

/-!
# Frames

* `Frame`: where statements run and which names they see.
* `boundNames`: the names that a function's body binds.
* `Frame.find`: the value of a name.
-/

namespace Facade.Execution

open Syntax (Expr Stmt mangle)

/-- The kinds of places where statements run. -/
inductive Scope where
  | module | cls | function
  deriving DecidableEq, Repr, Inhabited

/-- Where statements run. -/
structure Frame where
  /-- The kind of place. -/
  scope : Scope
  /-- The module whose globals are seen, if any. -/
  globals : Option Nat
  /-- The variables of the place itself; those of a module are its globals. -/
  vars : Table String Value := {}
  /-- The names that belong to a function. -/
  ownNames : List String := []
  /-- The variables of the surrounding function. -/
  captured : Table String Value := {}
  /-- The class whose private names are seen. -/
  privateTo : Option String := none
  /-- The class in whose body the running function was defined. -/
  home : Option Nat := none
  /-- The name of the running function's first parameter. -/
  receiver : Option String := none
  /-- What stands in front of names that are defined here. -/
  qualifier : String := ""
  /-- The functions that have been defined here. -/
  made : List Nat := []
  deriving Inhabited

/-- How a block of statements was left. -/
inductive Flow where
  | next
  | returned (v : Value)
  | broken
  | continued
  deriving Inhabited

/-! ## Bound names -/

mutual

/-- The names that an assignment to a target binds. -/
def targetNames : Expr → List String
  | .name n => [n]
  | .tuple es | .list es => targetsNames es
  | .starred e => targetNames e
  | _ => []

/-- The names that assignments to several targets bind. -/
def targetsNames : List Expr → List String
  | [] => []
  | e :: r => targetNames e ++ targetsNames r

end

/-- The name that an import binds. -/
def importedName (n : Syntax.ImportName) : String := n.boundAs.getD (Imports.topPart n.name)

mutual

/-- The names that a statement binds. -/
def boundNames : Stmt → List String
  | .assign targets _ => targetsNames targets
  | .annAssign target _ _ _ => targetNames target
  | .augAssign target _ _ => targetNames target
  | .delete targets => targetsNames targets
  | .imports names => names.map importedName
  | .importFrom _ names _ => names.map fun n => n.boundAs.getD n.name
  | .branch _ body orElse | .while _ body orElse => boundNamesOf body ++ boundNamesOf orElse
  | .for target _ body orElse => targetNames target ++ boundNamesOf body ++ boundNamesOf orElse
  | .define _ name _ _ _ _ => [name]
  | .class name _ _ _ _ => [name]
  | _ => []

/-- The names that several statements bind. -/
def boundNamesOf : List Stmt → List String
  | [] => []
  | s :: r => boundNames s ++ boundNamesOf r

/-- The names that a statement declares to belong to the module. -/
def globalNames : Stmt → List String
  | .global names => names
  | .branch _ body orElse | .while _ body orElse | .for _ _ body orElse =>
    globalNamesOf body ++ globalNamesOf orElse
  | _ => []

/-- The names that several statements declare to belong to the module. -/
def globalNamesOf : List Stmt → List String
  | [] => []
  | s :: r => globalNames s ++ globalNamesOf r

end

/-- The names that belong to a function with these parameters and this body. -/
def ownNamesOf (params : List String) (body : List Stmt) : List String :=
  let outside := globalNamesOf body
  params ++ (boundNamesOf body).filter fun n => !outside.contains n

/-! ## Looking names up -/

/-- What can be used without import. -/
def builtinsOf (w : World) : Table String Value :=
  (((w.importable.get? "builtins").bind w.module?).map ModuleInfo.globals).getD {}

/-- The value of a name in a module, or of one that can be used there without import. -/
def globalOf (w : World) (m : ModuleInfo) (name : String) : Option Value :=
  m.globals.get? name <|> (m.builtins.getD (builtinsOf w)).get? name

namespace Frame

/-- The value of a global name, or of one that can be used without import. -/
def findGlobal (fr : Frame) (w : World) (name : String) : Option Value :=
  match fr.globals.bind w.module? with
  | some m => globalOf w m name
  | none => (builtinsOf w).get? name

/-- The value of a name. -/
def find (fr : Frame) (w : World) (name : String) : Except Fault Value :=
  let elsewhere : Except Fault Value :=
    ((fr.captured.get? name) <|> fr.findGlobal w name).elim (.error .name) .ok
  match fr.scope with
  | .function =>
    if fr.ownNames.contains name then (fr.vars.get? name).elim (.error .unboundLocal) .ok
    else elsewhere
  | .cls => (fr.vars.get? name).elim elsewhere .ok
  | .module => elsewhere

/-- Gives a name a value. -/
def put (fr : Frame) (name : String) (v : Value) : Run Frame := do
  if fr.scope = .module || (fr.scope = .function && !fr.ownNames.contains name) then
    match fr.globals with
    | some m =>
      match (← get).module? m with
      | some info =>
        Run.replace m (.module { info with globals := info.globals.set name v })
        return fr
      | none => return fr
    | none => return fr
  else return { fr with vars := fr.vars.set name v }

/-- Takes a name's value away. -/
def remove (fr : Frame) (name : String) : Run Frame := do
  if fr.scope = .module then
    match fr.globals with
    | some m =>
      match (← get).module? m with
      | some info =>
        if info.globals.contains name then
          Run.replace m (.module { info with globals := info.globals.erase name })
          return fr
        else Run.fault .name
      | none => Run.fault .name
    | none => Run.fault .name
  else if fr.vars.contains name then return { fr with vars := fr.vars.erase name }
  else Run.fault (if fr.scope = .function then .unboundLocal else .name)

end Frame

end Facade.Execution
