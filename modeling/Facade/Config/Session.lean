import Facade.Config.Check
import Facade.Config.Document
import Facade.Config.Files
import Facade.Config.Merge
import Facade.Config.Options
import Facade.Execution.Eval

/-!
# Working with settings

* `Change`: what can be changed about settings, and `Settings.apply`.
* `Question`: what can be asked of settings, and `Settings.answer`.
* `Step`: what can be done with several settings that have names.
* `Session.step`: does one thing: its outcome and the settings afterwards.
-/

namespace Facade.Config

open Facade.Execution (lift)

/-! ## Changes -/

/-- A change of settings. -/
inductive Change where
  /-- Compiling settings by name; those without a value stay. -/
  | compiling (given : Given)
  /-- Names. -/
  | naming (given : Given)
  /-- Source settings by name; those without a value stay. -/
  | embedding (given : Given)
  /-- The level and the format of the log; those without a value stay. -/
  | logging (level format : Value)
  /-- Further facts. -/
  | metadata (facts : Value)
  deriving Repr, Inhabited

/-- The value under a name unless it is missing or absent. -/
def valueUnlessNone (given : Given) (name : String) (usual : Value) : Value :=
  let v := valueOr given name usual
  if v.isNone then usual else v

/-- The compiling settings with those given. -/
def Compiling.adjust (c : Compiling) (given : Given) : Except Fault Compiling := do
  checkNames ["persist", workingDirKey, "warnings_as_errors", "version"] given
  return {
    persist := valueUnlessNone given "persist" c.persist
    workingDir := match valueOr given workingDirKey .none with
      | .path p => some { path := p }
      | _ => c.workingDir
    warningsAsErrors := valueUnlessNone given "warnings_as_errors" c.warningsAsErrors
    version := valueUnlessNone given "version" c.version }

/-- The names with those given, one of the other; it stops at the first that does not exist. -/
def Naming.adjust (n : Naming) : Given → Naming × Option Refusal
  | [] => (n, none)
  | (k, v) :: r =>
    match n.set? k v with
    | some n => n.adjust r
    | none => (n, some (.unknownNaming k))

/-- The source settings with those given. -/
def Embedding.adjust (e : Embedding) (given : Given) : Except Fault Embedding := do
  checkNames ["include", "prettify"] given
  return ⟨valueUnlessNone given "include" e.kept, valueUnlessNone given "prettify" e.prettify⟩

/-- The logging settings with a level and a format. -/
def Logging.adjust (l : Logging) (level format : Value) : Except Fault Logging := do
  let format ← if format.isNone then pure l.format else LogFormat.ofValue format
  return ⟨if level.isNone then l.level else level, format⟩

/-- Settings after a change, and why it stopped. -/
def Settings.apply (s : Settings) : Change → Settings × Option Failure
  | .compiling given => settle (s.compiling.adjust given) fun c => { s with compiling := c }
  | .naming given =>
    let (n, stopped) := s.naming.adjust given
    ({ s with naming := n }, stopped.map .refused)
  | .embedding given => settle (s.embedding.adjust given) fun e => { s with embedding := e }
  | .logging level format =>
    settle (s.logging.adjust level format) fun l => { s with logging := l }
  | .metadata facts =>
    let (m, stopped) := withEntries s.metadata facts
    ({ s with metadata := m }, stopped.map .fault)
where
  /-- The settings with a group that was computed, or as they were. -/
  settle {α : Type} (r : Except Fault α) (f : α → Settings) : Settings × Option Failure :=
    match r with
    | .ok x => (f x, none)
    | .error e => (s, some (.fault e))

/-- Whether a change gives the settings back: all do, except that facts are added silently. -/
def Change.outcome : Change → Value
  | .metadata _ => .none
  | _ => .bool true

/-! ## Questions -/

/-- What can be asked of settings. -/
inductive Question where
  /-- What is wrong with them. -/
  | complaints
  /-- Their document. -/
  | toml
  /-- The names for a callable. -/
  | callableOptions (given : Given)
  /-- The options for a class. -/
  | typeOptions (given : Given)
  /-- The compiler with the settings. -/
  | compiler (mainFile : Option String)
  /-- How log records are handled. -/
  | handler
  deriving Repr, Inhabited

/-- The files of a world below a directory that is always there. -/
def treeOf (w : World) (root : String) : Tree := .ofTexts w.files [root]

/-- The answer to a question. -/
def Settings.answer (s : Settings) (root : String) (q : Question) : Run Value := do
  let w ← get
  match q with
  | .complaints =>
    let cs ← lift (s.complaints (treeOf w root))
    return .list (cs.map fun c => .str c.message)
  | .toml => return .str (s.toToml w)
  | .callableOptions given => return .list (← lift (s.callableOptions given))
  | .typeOptions given => return .list (← lift (s.typeOptions given))
  | .compiler mainFile => return .list (← s.compiler mainFile)
  | .handler =>
    let h ← lift s.handler
    return .list [.int h.level, .list [.list [.int h.level, .str h.formatterName]]]

/-! ## Settings with names -/

/-- What can be done with settings that have names. -/
inductive Step where
  /-- The usual settings. -/
  | fresh
  /-- The settings that data describe. -/
  | data (data : Value) (root : String)
  /-- The settings in a file; its content is written first, if it is given. -/
  | load (file : String) (content : Option String)
  /-- Settings written to a file and read back. -/
  | reload (source : String)
  /-- Settings on top of others. -/
  | merge (base top : String)
  /-- Changes compiling settings. A working directory among them is a path, inside the directory of the
  session or as it stands, and can be made a file first. -/
  | compiling (given : Given) (inside asFile : Bool)
  /-- Changes the settings. -/
  | change (c : Change)
  /-- Asks something. -/
  | ask (q : Question)
  deriving Repr, Inhabited

/-- Several settings by name, and the directory in which their files lie. -/
structure Session where
  /-- The directory. -/
  root : String
  /-- The settings. -/
  settings : Table String Settings := {}
  deriving Inhabited

namespace Session

/-- The settings of a name. -/
def find (s : Session) (name : String) : Run Settings :=
  lift ((s.settings.get? name).elim (.error .key) .ok)

/-- Writes a file. -/
def write (path content : String) : Run Unit :=
  modify fun w => { w with files := w.files.set path content }

/-- The settings in a file; its content is written first, if it is given. -/
def load (s : Session) (file : String) (content : Option String) : Run Settings := do
  let path := Path.join s.root file
  content.forM (write path)
  let w ← get
  match Config.load w (treeOf w s.root) path with
  | .ok settings => return settings
  | .error e => throw e

/-- The file through which settings are written and read back. -/
def exchangeFile : String := "re.toml"

/-- New settings for a name. -/
def make (s : Session) (name : String) (x : Run Settings) : Run (Value × Session) := do
  return (.none, { s with settings := s.settings.set name (← x) })

/-- Changes the settings of a name. -/
def change (s : Session) (name : String) (c : Change) : Run (Except Failure Value × Session) := do
  let (settings, stopped) := (← s.find name).apply c
  let s := { s with settings := s.settings.set name settings }
  return (stopped.elim (.ok c.outcome) .error, s)

/-- The path that a text stands for. -/
def place (s : Session) (inside : Bool) (v : Value) : Value :=
  match v.toStr? with
  | some p => .path (if inside then Path.join s.root p else Path.clean p)
  | none => v

/-- Does one thing with the settings of a name. -/
def run (s : Session) (name : String) : Step → Run (Except Failure Value × Session)
  | .fresh => ok <$> s.make name (return {})
  | .data data root => ok <$> s.make name do
    lift (Settings.ofData (← get) { path := Path.clean root, isOnDisk := false } data)
  | .load file content => ok <$> s.make name (s.load file content)
  | .reload source => ok <$> s.make name do
    s.load exchangeFile (some ((← s.find source).toToml (← get)))
  | .merge base top => ok <$> s.make name do
    return (← s.find base).merge (← s.find top)
  | .compiling given inside asFile => do
    let given := given.map fun g => if g.1 = workingDirKey then (g.1, s.place inside g.2) else g
    if let (true, .path p) := (asFile, valueOr given workingDirKey .none) then write p ""
    s.change name (.compiling given)
  | .change c => s.change name c
  | .ask q => do return ok (← (← s.find name).answer s.root q, s)
where
  /-- What came out without a failure. -/
  ok (p : Value × Session) : Except Failure Value × Session := (.ok p.1, p.2)

/-- Does one thing with the settings of a name. What failed to be made is not made; a change stays as
far as it got. -/
def step (s : Session) (name : String) (x : Step) : Run (Except Failure Value × Session) :=
  tryCatch (s.run name x) fun e => return (.error e, s)

end Session

end Facade.Config
