import Facade.Config.Settings

/-!
# Merging settings

Settings for a directory come on top of those for the directories around it. Each group has a rule of
its own for what shows through from below.

* `Settings.merge`: the settings `base` with `top` on top.
-/

namespace Facade.Config

/-- What is set on top; what lies below where that is empty. -/
def orBelow (top base : Value) : Value := if top.truth then top else base

/-- What is set on top; what lies below where that is the usual value. -/
def unlessUsual (usual top base : Value) : Value := if top.same usual then base else top

/-- The path and the version show through where none is set. -/
def Compiling.merge (base top : Compiling) : Compiling :=
  { top with
    workingDir := top.workingDir <|> base.workingDir
    version := orBelow top.version base.version }

/-- Names show through where the usual ones are set. -/
def Naming.merge (base top : Naming) : Naming :=
  let usual : Naming := {}
  { typeName := unlessUsual usual.typeName top.typeName base.typeName
    namespaceName := unlessUsual usual.namespaceName top.namespaceName base.namespaceName
    methodName := unlessUsual usual.methodName top.methodName base.methodName }

/-- Facts on top of others; one that is stated again keeps its place. -/
def mergeFacts (base top : List (Value × Value)) : List (Value × Value) :=
  top.foldl (fun acc e => Value.insertEntry acc e.1 e.2) base

/-- The settings `base` with `top` on top. -/
def Settings.merge (base top : Settings) : Settings :=
  { compiling := base.compiling.merge top.compiling
    naming := base.naming.merge top.naming
    embedding := top.embedding
    logging := top.logging
    metadata := mergeFacts base.metadata top.metadata }

end Facade.Config
