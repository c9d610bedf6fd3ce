import Facade.Store.Standard

/-!
# Execution contexts

Generated modules are never importable by everyone: they live in a context, and what is loaded into
a context imports through it.

* `Context.resolve?`: the module that a context has under a name.
* `registerModule`, `setReferences`: what a context is given.
* `ContextSource`, `chooseContext`: the context of one that was given none.
* `Imports.load?`: the import system that all contexts share.
* `importThrough`: the import function of a context.
-/

namespace Facade

namespace Context

/-- The module that a context has under a name: one of its own, else one of its references. -/
def resolve? (c : Context) (name : String) : Option Nat :=
  c.modules.get? name <|> c.references.get? name

/-- Takes a module in, in place of an earlier one of its name. -/
def register (c : Context) (name : String) (module : Nat) : Context :=
  { c with modules := c.modules.set name module }

/-- Makes modules importable; the first module of a name stays. -/
def addReferences (c : Context) (modules : List (String × Nat)) : Context :=
  { c with references := modules.foldl (fun t m => t.setDefault m.1 m.2) c.references }

/-- The name of a context, or what stands for it. -/
def label (c : Context) : String := c.name.getD "anonymous"

/-- The text that shows a context: its name and the names of its own modules, sorted. -/
def display (c : Context) : String :=
  let names := c.modules.keys.mergeSort fun a b => a ≤ b
  "ExecutionContext(" ++ Text.quote c.label ++ ", modules=[" ++
    ", ".intercalate (names.map Text.quote) ++ "])"

theorem resolve?_register_self (c : Context) (name : String) (m : Nat) :
    (c.register name m).resolve? name = some m := by
  simp [resolve?, register]

theorem modules_addReferences (c : Context) (ms : List (String × Nat)) :
    (c.addReferences ms).modules = c.modules := rfl

end Context

namespace World

/-- The context with a number. -/
def context (w : World) (id : Nat) : Context := (w.contexts[id]?).getD { name := none }

/-- The world with another context under a number. -/
def setContext (w : World) (id : Nat) (c : Context) : World :=
  { w with contexts := w.contexts.setIfInBounds id c }

/-- The name of a module. -/
def moduleName (w : World) (id : Nat) : String :=
  match (w.module? id).bind fun m => (m.globals.get? "__name__").bind Value.toStr? with
  | some n => n
  | none => ((w.module? id).map ModuleInfo.name).getD ""

end World

namespace Execution

/-- Adds a context and gives its number. -/
def newContext (name : Option String) : Run Nat := do
  let w ← get
  set { w with contexts := w.contexts.push { name := name } }
  return w.contexts.size

/-- Records a module that was loaded into a context. -/
def registerModule (context module : Nat) : Run Unit := do
  let w ← get
  let c := w.context context
  let name := w.moduleName module
  set (w.setContext context (c.register name module))
  Run.log
    { component := "context"
      level := "DEBUG"
      message := "registered module"
      extra := [("context", c.label), ("module", name)] }

/-- Makes modules importable in a context. -/
def setReferences (context : Nat) (modules : List Nat) : Run Unit :=
  modify fun w =>
    w.setContext context
      ((w.context context).addReferences (modules.map fun m => (w.moduleName m, m)))

/-! ## Contexts of one's own -/

/-- Where those get a context who were given none. -/
inductive ContextSource where
  /-- A context without a name. -/
  | unnamed
  /-- A context of a name. -/
  | named (name : String)
  /-- No context at all. -/
  | nothing
  deriving DecidableEq, Repr, Inhabited

/-- Makes a context. -/
def ContextSource.make : ContextSource → Run (Option Nat)
  | .unnamed => some <$> newContext none
  | .named n => some <$> newContext (some n)
  | .nothing => pure none

/-- The context for one that was given none: its own source is asked first, the usual one after
it. -/
def chooseContext (own : Option ContextSource) (usual : ContextSource) : Run (Option Nat) := do
  match ← (own.getD usual).make with
  | some c => return some c
  | none => usual.make

/-! ## Importing -/

namespace Imports

/-- The module that a dotted name loads. -/
def load? (w : World) (name : String) : Except Fault Nat :=
  if name.isEmpty then .error .value
  else (w.importable.get? name).elim (.error .moduleNotFound) .ok

/-- The part of a dotted name before its first dot. -/
def topPart (name : String) : String := String.ofList (name.toList.takeWhile (· != '.'))

/-- What an absolute import gives: the module itself if members are asked for, else the package at
the front of its name. -/
def absolute? (w : World) (name : String) (hasMembers : Bool) : Except Fault Nat := do
  let module ← load? w name
  if hasMembers || !(name.toList.contains '.') then return module else load? w (topPart name)

/-- A dotted name without as many of its last parts. -/
def dropParts : Nat → List String → Option (List String)
  | 0, ps => some ps
  | n + 1, ps => if ps.length ≤ 1 then none else dropParts n ps.dropLast

/-- The absolute name of a relative one. -/
def absoluteName? (package : Option String) (name : String) (level : Nat) :
    Except Fault String :=
  match package with
  | none => .error .key
  | some "" => .error .import
  | some p =>
    match dropParts (level - 1) (Syntax.dottedParts p) with
    | some parts => .ok (".".intercalate (if name.isEmpty then parts else parts ++ [name]))
    | none => .error .import

/-- What a relative import gives. -/
def relative? (w : World) (package : Option String) (name : String) (hasMembers : Bool)
    (level : Nat) : Except Fault Nat := do
  let full ← absoluteName? package name level
  let module ← load? w full
  let front := topPart name
  if hasMembers || front = name then return module
  else load? w (String.ofList (full.toList.take (full.length - (name.length - front.length))))

end Imports

/-- Imports a name, through a context if one is given. A context answers for its own modules and
references unless a dotted name is imported for the sake of its first part. -/
def importThrough (w : World) (context : Option Nat) (name : String) (hasMembers : Bool)
    (level : Int) (package : Option String) : Except Fault Nat :=
  let own := if level = 0 && (hasMembers || !(name.toList.contains '.')) then
    context.bind fun c => (w.context c).resolve? name else none
  match own with
  | some m => .ok m
  | none =>
    if level < 0 then .error .value
    else if level = 0 then Imports.absolute? w name hasMembers
    else Imports.relative? w package name hasMembers level.toNat

end Execution

end Facade
