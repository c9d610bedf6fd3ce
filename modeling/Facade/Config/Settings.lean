import Facade.Files.Path
import Facade.Store.Value
import Facade.Wrapper.Layout

/-!
# Settings

What is set once for many generated classes. Settings can come from files, so most of them hold
whatever value was written there; whether it makes sense is looked at separately.

* `Directory`: the directory of written modules.
* `Compiling`, `Naming`, `Embedding`, `Logging`: the groups of settings, with their usual values.
* `Settings`: all groups, and facts that the library only carries along.
-/

namespace Facade.Config

/-- A directory; one that is not tied to a file system cannot be looked at. -/
structure Directory where
  /-- Its path. -/
  path : String
  /-- It is tied to the file system. -/
  isOnDisk : Bool := true
  deriving DecidableEq, Repr, Inhabited

/-- A directory as a value. -/
def Directory.toValue (d : Directory) : Value :=
  if d.isOnDisk then .path d.path else .purePath d.path

/-- A directory inside another. -/
def Directory.below (d : Directory) (path : String) : Directory :=
  { d with path := Path.join d.path path }

/-- How modules are compiled. -/
structure Compiling where
  /-- Modules are written to the working directory before they are loaded. -/
  persist : Value := .bool true
  /-- The directory of written modules, if one is set. -/
  workingDir : Option Directory := none
  /-- Warnings count as errors. -/
  warningsAsErrors : Value := .bool false
  /-- The version that is stamped on modules. -/
  version : Value := .none
  deriving Repr, Inhabited

/-- The names of generated modules, classes and methods. -/
structure Naming where
  /-- The name of a class. -/
  typeName : Value := .str Wrapper.defaultTypeName
  /-- The namespace of a module. -/
  namespaceName : Value := .str Wrapper.defaultNamespaceName
  /-- The name of a method. -/
  methodName : Value := .str Wrapper.defaultMethodName
  deriving Repr, Inhabited

/-- What happens to source before it is compiled. -/
structure Embedding where
  /-- It is kept in the module. -/
  kept : Value := .bool true
  /-- It is laid out anew. -/
  prettify : Value := .bool true
  deriving Repr, Inhabited

/-- How log records are written. -/
inductive LogFormat where
  | text
  | json
  deriving DecidableEq, Repr, Inhabited

/-- The word for a format. -/
def LogFormat.word : LogFormat → String
  | .text => "text"
  | .json => "json"

/-- The format that a value names. -/
def LogFormat.ofValue (v : Value) : Except Fault LogFormat :=
  if v.same (.str LogFormat.text.word) then .ok .text
  else if v.same (.str LogFormat.json.word) then .ok .json
  else .error .value

/-- What is logged. -/
structure Logging where
  /-- The least level that is logged. -/
  level : Value := .str "WARNING"
  /-- How records are written. -/
  format : LogFormat := .text
  deriving Repr, Inhabited

/-- All settings. -/
structure Settings where
  /-- How modules are compiled. -/
  compiling : Compiling := {}
  /-- The names of what is generated. -/
  naming : Naming := {}
  /-- What happens to source. -/
  embedding : Embedding := {}
  /-- What is logged. -/
  logging : Logging := {}
  /-- Facts that are carried along, oldest first. -/
  metadata : List (Value × Value) := []
  deriving Repr, Inhabited

/-! ## Settings by name -/

/-- The name of the setting for the name of a class. -/
def typeNameKey : String := "type_name"

/-- The name of the setting for the namespace of a module. -/
def namespaceNameKey : String := "namespace_name"

/-- The name of the setting for the name of a method. -/
def methodNameKey : String := "method_name"

/-- The name of the setting for the working directory. -/
def workingDirKey : String := "working_dir"

/-- The names with the one under a key replaced, if there is such a key. -/
def Naming.set? (n : Naming) (key : String) (v : Value) : Option Naming :=
  if key = typeNameKey then some { n with typeName := v }
  else if key = namespaceNameKey then some { n with namespaceName := v }
  else if key = methodNameKey then some { n with methodName := v }
  else none

/-! ## Groups as lists of values -/

/-- How modules are compiled, as values. -/
def Compiling.values (c : Compiling) : List Value :=
  [c.persist, (c.workingDir.map Directory.toValue).getD .none, c.warningsAsErrors, c.version]

/-- The names, as values. -/
def Naming.values (n : Naming) : List Value := [n.typeName, n.namespaceName, n.methodName]

/-- What happens to source, as values. -/
def Embedding.values (e : Embedding) : List Value := [e.kept, e.prettify]

/-- What is logged, as values. -/
def Logging.values (l : Logging) : List Value := [l.level, .str l.format.word]

end Facade.Config
