import Facade.Config.Settings
import Facade.Files.Tree
import Facade.Text.Quoted
import Facade.Text.TitleCase

/-!
# Checking settings

* `Complaint`: what can be wrong with settings, and `Complaint.message`.
* `Settings.complaints`: everything that is wrong. Settings of the wrong kind altogether cannot be
  checked.
-/

namespace Facade.Config

/-- What can be wrong with settings. -/
inductive Complaint where
  /-- A name that has to be an identifier is none. -/
  | notIdentifier (setting value : String)
  /-- A name is empty. -/
  | empty (setting : String)
  /-- The working directory is a file. -/
  | directoryIsFile (path : String)
  /-- There is no such level. -/
  | unknownLevel (level : String)
  deriving DecidableEq, Repr, Inhabited

/-- The text of a complaint. -/
def Complaint.message : Complaint → String
  | .notIdentifier setting value => setting ++ " must be an identifier: " ++ Text.quote value
  | .empty setting => setting ++ " must not be empty"
  | .directoryIsFile path => "Working directory is a file: " ++ path
  | .unknownLevel level => "Unknown log level: " ++ level

/-- The levels that can be set. -/
def knownLevels : List String := ["DEBUG", "INFO", "WARNING", "ERROR", "CRITICAL"]

/-- A value that has to be a text. -/
def textOf (v : Value) : Except Fault String := v.toStr?.elim (.error .attribute) .ok

/-- What is wrong with a name that has to be an identifier. -/
def identifierComplaints (setting : String) (v : Value) : Except Fault (List Complaint) := do
  let s ← textOf v
  return if Text.isIdentifier s then [] else [.notIdentifier setting s]

/-- What is wrong with a name that only has to be there. -/
def presenceComplaints (setting : String) (v : Value) : List Complaint :=
  if v.truth then [] else [.empty setting]

/-- What is wrong with a working directory. -/
def directoryComplaints (t : Tree) (d : Directory) : Except Fault (List Complaint) :=
  if !d.isOnDisk then .error .attribute
  else .ok (if t.isFile d.path then [.directoryIsFile d.path] else [])

/-- What is wrong with a level; it can be written in any case. -/
def levelComplaints (v : Value) : Except Fault (List Complaint) := do
  let s ← textOf v
  return if knownLevels.contains (Text.capitals s) then [] else [.unknownLevel s]

/-- Everything that is wrong with settings, in a fixed order. -/
def Settings.complaints (t : Tree) (s : Settings) : Except Fault (List Complaint) := do
  let types ← identifierComplaints typeNameKey s.naming.typeName
  let namespaces := presenceComplaints namespaceNameKey s.naming.namespaceName
  let methods ← identifierComplaints methodNameKey s.naming.methodName
  let directories ← s.compiling.workingDir.elim (.ok []) (directoryComplaints t)
  return types ++ namespaces ++ methods ++ directories ++ (← levelComplaints s.logging.level)

end Facade.Config
