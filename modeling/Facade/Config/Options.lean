import Facade.Compiler.Host
import Facade.Config.Settings
import Facade.Log.Record

/-!
# What settings are for

* `Settings.callableOptions`, `Settings.typeOptions`: the options of wrappers that carry settings.
* `Settings.compiler`: a compiler with the settings.
* `Settings.handler`: how log records are handled.
-/

namespace Facade.Config

/-! ## Options of wrappers -/

/-- Values by name. -/
abbrev Given := List (String × Value)

/-- The value under a name, or a usual one. -/
def valueOr (given : Given) (name : String) (usual : Value) : Value :=
  ((Table.ofList given).get? name).getD usual

/-- Options by name: those that a wrapper does not have are refused. -/
def checkNames (known : List String) (given : Given) : Except Fault Unit :=
  if given.all fun g => known.contains g.1 then .ok () else .error .type

/-- The options of a wrapper for callables. -/
def callableOptionNames : List String :=
  [typeNameKey, namespaceNameKey, methodNameKey, "type_name_generator",
    "namespace_name_generator", "method_name_generator", "conversion_rules", "compiler"]

/-- The options of a wrapper for classes. -/
def typeOptionNames : List String :=
  ["conversion_rules", typeNameKey, namespaceNameKey, "include_methods", "include_properties",
    "exclude_method", "include_method", "method_name_generator", "type_decorators_generator",
    "type_name_generator", "namespace_name_generator", "factory", "on_constructor",
    "on_constructor_custom_code_generator", "on_before_method",
    "on_before_method_custom_code_generator", "on_after_method",
    "on_after_method_custom_code_generator", "custom_code_generator",
    "additional_constructor_parameters", "additional_namespaces", "additional_references",
    "include_source", "prettify_source", "inherits", "implements", "compiler"]

/-- The names for a callable: those given, otherwise those set. -/
def Settings.callableOptions (s : Settings) (given : Given) : Except Fault (List Value) := do
  checkNames callableOptionNames given
  return [valueOr given typeNameKey s.naming.typeName,
    valueOr given namespaceNameKey s.naming.namespaceName,
    valueOr given methodNameKey s.naming.methodName]

/-- The names for a class, whether source is kept and laid out anew, and the methods that are
included by name: those given, otherwise those set. -/
def Settings.typeOptions (s : Settings) (given : Given) : Except Fault (List Value) := do
  checkNames typeOptionNames given
  return [valueOr given typeNameKey s.naming.typeName,
    valueOr given namespaceNameKey s.naming.namespaceName,
    valueOr given "include_source" s.embedding.kept,
    valueOr given "prettify_source" s.embedding.prettify,
    valueOr given "include_methods" (.list [])]

/-! ## Compilers -/

/-- What a compiler with the settings works with: whether it writes modules, where, whether warnings
count, and the version. The hosting program is asked only if something is missing; then a version
that is empty counts as missing too. -/
def Settings.compiler (s : Settings) (mainFile : Option String) : Run (List Value) := do
  let c := s.compiling
  let (dir, version) ← match c.workingDir, c.version.isNone with
    | some d, false => pure (d.path, c.version)
    | d, _ => do
      let host ← Host.identify mainFile
      pure ((d.map Directory.path).getD host.workingDir,
        if c.version.truth then c.version else .str host.version)
  return [c.persist, .str dir, c.warningsAsErrors, version]

/-! ## Logging -/

/-- The levels that can be named, all in capitals. -/
def levelNumbers : List (String × Int) := Log.levels ++ [("WARN", 30), ("FATAL", 50)]

/-- The number of a level. Two more names in capitals stand for something, which is no level. -/
def levelNumber (v : Value) : Except Fault Int := do
  let s := Text.capitals (← v.toStr?.elim (.error .attribute) .ok)
  match (Table.mk levelNumbers).get? s with
  | some n => return n
  | none =>
    if s = "BASIC_FORMAT" then throw .value
    else if s = "_STYLES" then throw .type
    else throw .attribute

/-- What writes log records. -/
structure Handler where
  /-- The least level that it writes. -/
  level : Int
  /-- How it writes them. -/
  format : LogFormat
  deriving DecidableEq, Repr, Inhabited

/-- What writes the records of the settings' level. -/
def Settings.handler (s : Settings) : Except Fault Handler := do
  return ⟨← levelNumber s.logging.level, s.logging.format⟩

/-- The name of what turns records into text. -/
def Handler.formatterName (h : Handler) : String :=
  match h.format with
  | .text => "TextFormatter"
  | .json => "StructuredFormatter"

end Facade.Config
