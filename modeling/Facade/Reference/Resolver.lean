import Facade.Reference.Required
import Facade.Execution.Context

/-!
# Resolving references

Which modules have to be importable so that a type can be named.

* `moduleLocation?`: the stable place of a module.
* `findModule?`, `moduleOf?`: the module that declares a type.
* `addModule`, `addType`, `addTypes`: reference a module and what it refers to itself, a type's
  module, the modules of every type that annotations consist of.
-/

namespace Facade.Resolver

/-- Resolving changes a resolver. -/
abbrev Resolving := Logged Resolver

/-- The attribute that lists the modules a module was compiled against. -/
def referencesAttribute : String := "__references__"

/-- The attribute of a generated class that holds its module. -/
def generatedModuleAttribute : String := "__generated_module__"

/-! ## Describing targets -/

/-- The text that names the target of a refusal. -/
def describe (w : World) (target : Value) : String :=
  match target with
  | .cls c => "type " ++ c.module ++ "." ++ c.qualname
  | .module m => "'" ++ w.moduleName m ++ "'"
  | .typeVar _ n => "'" ++ n ++ "'"
  | v =>
    match Hint.nameParts? v with
    | some p => "'" ++ Hint.lastPart p.2 ++ "'"
    | none => v.display w

/-- The refusal to reference a target for a reason. -/
def unresolved (w : World) (target : Value) (reason : String) : Refusal :=
  .unresolved (describe w target) reason

/-- Why a module without a place cannot be referenced. -/
def noOrigin : String := "the module has no stable on-disk origin"

/-- Why a type inside a function cannot be referenced. -/
def insideFunction : String := "it is defined inside a function and cannot be imported by name"

/-! ## Places -/

/-- The stable place of a module: its file, or its name if it is part of the interpreter. -/
def moduleLocation? (w : World) (m : Nat) : Option String :=
  match w.module? m with
  | none => none
  | some info =>
    let file := ((info.globals.get? "__file__").map fun v =>
      if v.truth then v.asText w else "").getD ""
    let name := w.moduleName m
    if !file.isEmpty then some file
    else
      match info.origin with
      | some "built-in" => some ("built-in:" ++ name)
      | some "frozen" => some ("frozen:" ++ name)
      | _ => if Standard.interpreterModules.contains name then some ("built-in:" ++ name) else none

/-- The stable place of a module; one without a place is refused. -/
def locate (w : World) (m : Nat) : Except Refusal String :=
  match moduleLocation? w m with
  | some location => .ok location
  | none => .error (unresolved w (.module m) noOrigin)

/-- The modules that a module refers to itself. -/
def declaredReferences (w : World) (m : Nat) : List Nat :=
  let members := match (w.module? m).bind fun info => info.globals.get? referencesAttribute with
    | some (.tuple vs) | some (.list vs) => vs
    | _ => []
  members.filterMap fun
    | .module n => some n
    | _ => none

/-! ## Modules of types -/

/-- The module of a name: one that is referenced already, one of the context, one that everyone can
import. -/
def findModule? (w : World) (r : Resolver) (name : String) : Option Nat :=
  r.modules.get? name <|> (r.context.bind fun c => (w.context c).resolve? name) <|>
    w.importable.get? name

/-- The module that a generated class belongs to. -/
def generatedModule? (w : World) : Value → Option Nat
  | .cls c =>
    match ((w.class? c.id).bind fun i => i.members.get? generatedModuleAttribute) with
    | some (.module m) => some m
    | _ => none
  | _ => none

/-- The module that declares a type. -/
def moduleOf? (w : World) (r : Resolver) (hint : Value) : Except Refusal Nat :=
  match generatedModule? w hint with
  | some m => .ok m
  | none =>
    let name := Hint.declaringModule? hint
    match (name.filter fun n => !n.isEmpty).bind (findModule? w r) with
    | some m => .ok m
    | none =>
      .error (unresolved w hint ("module '" ++ name.getD "None" ++ "' is not loaded"))

/-! ## Adding -/

/-- What may be refused, while resolving. -/
def orRefuse {α : Type} : Except Refusal α → Resolving α
  | .ok x => return x
  | .error r => throw r

/-- Adds a record to the log. -/
def record (message name location : String) : Resolving Unit :=
  Logged.note
    { component := "references"
      level := "DEBUG"
      message := message
      extra := [("module", name), ("location", location)] }

/-- References a module and, in depth, the modules that it refers to. A module that was visited before
is passed over; one without a place is refused; one whose place is taken brings in nothing more than
its name. -/
def addModuleFrom (w : World) : Nat → Nat → Resolving Unit
  | 0, _ => pure ()
  | fuel + 1, m => do
    let r ← Logged.state
    if r.seen.contains m then return ()
    Logged.change fun r => { r with seen := m :: r.seen }
    let location ← orRefuse (locate w m)
    let name := w.moduleName m
    let isNew := !r.references.hasLocation location
    Logged.change fun r =>
      { r with
        modules := r.modules.setDefault name m
        references := r.references.add ⟨name, location⟩ }
    if isNew then
      record "referenced module" name location
      (declaredReferences w m).forM (addModuleFrom w fuel)
    else record "location already referenced" name location

/-- References a module and, in depth, the modules that it refers to. -/
def addModule (w : World) (m : Nat) : Resolving Unit := addModuleFrom w (w.objects.size + 1) m

/-- References the module that declares a type. -/
def addType (w : World) (hint : Value) : Resolving Unit := do
  let m ← orRefuse (moduleOf? w (← Logged.state) hint)
  let qualname := ((Hint.nameParts? hint).map Prod.snd).getD ""
  if qualname.contains "<locals>" then throw (unresolved w hint insideFunction)
  tryCatch (addModule w m) fun e =>
    match e with
    | .unresolved _ reason => throw (unresolved w hint reason)
    | e => throw e

/-- References the modules of every type that annotations consist of. -/
def addTypes (w : World) (annotations : List Value) : Resolving Unit :=
  (Hint.requiredTypes annotations).forM (addType w)

end Facade.Resolver
