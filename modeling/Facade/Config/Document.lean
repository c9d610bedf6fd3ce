import Facade.Config.Settings
import Facade.Store.Display
import Facade.Text.TitleCase

/-!
# Settings as a TOML document

* `Settings.toToml`: a section for each group. Texts are put between quotes as they are, so one with a
  quote, a backslash or a line end in it does not read back. Facts are left out.
-/

namespace Facade.Config

/-- A line that puts a text under a name. -/
def textLine (name value : String) : String := name ++ " = \"" ++ value ++ "\""

/-- A line that puts a truth value under a name. -/
def wordLine (w : World) (name : String) (v : Value) : String :=
  name ++ " = " ++ Text.lowerCase (v.asText w)

/-- The lines of a section, with the empty one behind it. -/
def sectionLines (name : String) (lines : List String) : List String :=
  ["[" ++ name ++ "]"] ++ lines ++ [""]

/-- The lines of the document. -/
def Settings.tomlLines (w : World) (s : Settings) : List String :=
  let c := s.compiling
  let version := if c.version.isNone then [] else [textLine "version" (c.version.asText w)]
  sectionLines "compiler"
      ([wordLine w "persist" c.persist] ++
        (c.workingDir.map fun d => textLine workingDirKey d.path).toList ++
        [wordLine w "warnings_as_errors" c.warningsAsErrors] ++ version) ++
    sectionLines "naming"
      [textLine typeNameKey (s.naming.typeName.asText w),
        textLine namespaceNameKey (s.naming.namespaceName.asText w),
        textLine methodNameKey (s.naming.methodName.asText w)] ++
    sectionLines "source"
      [wordLine w "include" s.embedding.kept, wordLine w "prettify" s.embedding.prettify] ++
    sectionLines "logging"
      [textLine "level" (s.logging.level.asText w), textLine "format" s.logging.format.word]

/-- The document. -/
def Settings.toToml (w : World) (s : Settings) : String := "\n".intercalate (s.tomlLines w)

end Facade.Config
