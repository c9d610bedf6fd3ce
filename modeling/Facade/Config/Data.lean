import Facade.Config.Settings
import Facade.Store.Display
import Facade.Store.Operators

/-!
# Settings from data

* `setting?`: what a value holds under a name. Whatever can be asked for membership may stand where a
  table is expected; only if it has the name as a member does it have to be a table.
* `withEntries`: facts with those that a value lists.
* `Settings.ofData`: the settings that a value describes.
-/

namespace Facade.Config

/-- What a value holds under a name, if it has that name. -/
def setting? (data : Value) (name : String) : Except Fault (Option Value) := do
  if ← data.holds? (.str name) then return some (← data.item? (.str name)) else return none

/-- What a value holds under a name, or a usual value. -/
def settingOr (data : Value) (name : String) (usual : Value) : Except Fault Value := do
  return (← setting? data name).getD usual

/-- A group of settings: what is read of the value under a name, or the usual settings. -/
def group {α : Type} (data : Value) (name : String) (usual : α) (f : Value → Except Fault α) :
    Except Fault α := do
  match ← setting? data name with
  | some v => f v
  | none => return usual

/-! ## Facts -/

/-- The pair that a value amounts to. -/
def pairOf (v : Value) : Except Fault (Value × Value) :=
  match v.elements? with
  | .ok [k, x] => if Hint.isHashable k then .ok (k, x) else .error .type
  | .ok _ => .error .value
  | .error f => .error f

/-- Facts with further ones, and why it stopped if one of them is no pair. -/
def withPairs (facts : List (Value × Value)) : List Value → List (Value × Value) × Option Fault
  | [] => (facts, none)
  | v :: r =>
    match pairOf v with
    | .ok e => withPairs (Value.insertEntry facts e.1 e.2) r
    | .error f => (facts, some f)

/-- Facts with those that a value lists: a table, or anything that yields pairs. -/
def withEntries (facts : List (Value × Value)) (v : Value) : List (Value × Value) × Option Fault :=
  match v with
  | .dict es => (es.foldl (fun acc e => Value.insertEntry acc e.1 e.2) facts, none)
  | v =>
    match v.elements? with
    | .ok vs => withPairs facts vs
    | .error f => (facts, some f)

/-! ## All settings -/

/-- The compiling settings that a value describes; directories lie inside `root`. -/
def Compiling.ofData (w : World) (root : Directory) (v : Value) : Except Fault Compiling := do
  let usual : Compiling := {}
  let persist ← settingOr v "persist" usual.persist
  let workingDir ← match ← setting? v workingDirKey with
    | some d => pure (some (root.below (← d.toStr?.elim (.error .type) .ok)))
    | none => pure none
  let warningsAsErrors ← settingOr v "warnings_as_errors" usual.warningsAsErrors
  let version := (← setting? v "version").map fun n => Value.str (n.asText w)
  return ⟨persist, workingDir, warningsAsErrors, version.getD usual.version⟩

/-- The names that a value describes. -/
def Naming.ofData (v : Value) : Except Fault Naming := do
  let usual : Naming := {}
  let typeName ← settingOr v typeNameKey usual.typeName
  let namespaceName ← settingOr v namespaceNameKey usual.namespaceName
  return ⟨typeName, namespaceName, ← settingOr v methodNameKey usual.methodName⟩

/-- The source settings that a value describes. -/
def Embedding.ofData (v : Value) : Except Fault Embedding := do
  let usual : Embedding := {}
  let kept ← settingOr v "include" usual.kept
  return ⟨kept, ← settingOr v "prettify" usual.prettify⟩

/-- The logging settings that a value describes. -/
def Logging.ofData (v : Value) : Except Fault Logging := do
  let usual : Logging := {}
  let level ← settingOr v "level" usual.level
  return ⟨level, ← group v "format" usual.format LogFormat.ofValue⟩

/-- The settings that a value describes; directories lie inside `root`. -/
def Settings.ofData (w : World) (root : Directory) (data : Value) : Except Fault Settings := do
  let compiling ← group data "compiler" {} (Compiling.ofData w root)
  let naming ← group data "naming" {} Naming.ofData
  let embedding ← group data "source" {} Embedding.ofData
  let logging ← group data "logging" {} Logging.ofData
  let metadata ← group data "metadata" [] fun v =>
    match withEntries [] v with
    | (facts, none) => .ok facts
    | (_, some f) => .error f
  return ⟨compiling, naming, embedding, logging, metadata⟩

end Facade.Config
