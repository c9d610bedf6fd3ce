import Facade.Config.Data
import Facade.Failure
import Facade.Files.Tree
import Facade.Toml.Reader

/-!
# Settings in files

Settings stand in a file of their own, or in a section of a file that describes a whole project.

* `documentOf`: the document that the bytes in a file are.
* `find`: the file that holds for a directory: the nearest one, on the way up.
* `load`: the settings in a file.
-/

namespace Facade.Config

/-- The names of files with settings, the preferred one first. -/
def fileNames : List String := ["typeforge.toml", ".typeforgerc.toml", "pyproject.toml"]

/-- The file that describes a whole project. -/
def projectFile : String := "pyproject.toml"

/-- The section of a project file that holds sections of tools. -/
def toolsKey : String := "tool"

/-- The section of the library. -/
def ownKey : String := "typeforge"

/-- Whether a document has a section for the library. -/
def hasSection (document : Value) : Except Fault Bool := do
  ((← setting? document toolsKey).getD (.dict [])).holds? (.str ownKey)

/-- The document that the bytes in a file are: a text first, and then a document. -/
def documentOf (content : ByteArray) : Except Fault Value := do
  let text ← (String.fromUTF8? content).elim (.error .unicodeDecode) .ok
  (Toml.parse? text).elim (.error .decode) .ok

/-- Bytes that are a text are a document if the text is one. -/
theorem documentOf_eq {content : ByteArray} (h : content.IsValidUTF8) :
    documentOf content = (Toml.parse? (String.fromUTF8 content h)).elim (.error .decode) .ok := by
  rw [documentOf, String.fromUTF8?, dif_pos h]
  rfl

theorem documentOf_toUTF8 (text : String) :
    documentOf text.toUTF8 = (Toml.parse? text).elim (.error .decode) .ok :=
  documentOf_eq text.isValidUTF8

/-- Bytes that are no text are no document either, and that is a fault of its own. -/
theorem documentOf_eq_error {content : ByteArray} (h : ¬ content.IsValidUTF8) :
    documentOf content = .error .unicodeDecode := by
  rw [documentOf, String.fromUTF8?, dif_neg h]
  rfl

/-- The document in a file. -/
def openDocument (t : Tree) (path : String) : Except Fault Value := do
  documentOf (← (t.read? path).elim (.error .isDirectory) .ok)

/-- Whether a project file has a section for the library. One that is no file or no document has none;
one that is not even a text is not expected. -/
def fileHasSection (t : Tree) (path : String) : Except Fault Bool :=
  match openDocument t path with
  | .ok document => hasSection document
  | .error .isDirectory | .error .decode => .ok false
  | .error e => .error e

/-- Whether a file of a given name holds settings. -/
def counts (t : Tree) (path name : String) : Except Fault Bool :=
  if !t.exists? path then .ok false
  else if name = projectFile then fileHasSection t path
  else .ok true

/-- The first file of a directory that holds settings. -/
def findIn (t : Tree) (dir : String) : List String → Except Fault (Option String)
  | [] => .ok none
  | name :: r => do
    if ← counts t (Path.join dir name) name then return some (Path.join dir name)
    else findIn t dir r

/-- The first of several directories' files that holds settings. -/
def findAmong (t : Tree) (names : List String) : List String → Except Fault (Option String)
  | [] => .ok none
  | dir :: r => do
    match ← findIn t dir names with
    | some path => return some path
    | none => findAmong t names r

/-- The file that holds for a directory, looked for on the way up; without names, by the usual
ones. -/
def find (t : Tree) (start : String) (names : List String) : Except Fault (Option String) :=
  findAmong t (if names.isEmpty then fileNames else names) (Path.ancestors (Path.resolve start))

/-- The settings in a file. -/
def load (w : World) (t : Tree) (path : String) : Except Failure Settings := do
  if !t.exists? path then throw (.refused (.missingConfig path))
  let document ← (openDocument t path).mapError .fault
  let root : Directory := { path := Path.parent path }
  let ofData (data : Value) : Except Failure Settings :=
    (Settings.ofData w root data).mapError .fault
  if Path.lastPart path = projectFile then
    if !(← (hasSection document).mapError .fault) then
      throw (.refused (.missingSection path))
    let tools ← (document.item? (.str toolsKey)).mapError .fault
    ofData (← (tools.item? (.str ownKey)).mapError .fault)
  else ofData document

end Facade.Config
