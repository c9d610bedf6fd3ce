import Facade.Compiler.Module
import Facade.Files.Path

/-!
# Compiling and loading

* `Compiler.addReference`, `Compiler.addReferences`: make a type or a module, or whatever annotations
  need, importable for what is compiled next.
* `Compiler.compile`: a program becomes a module in the compiler's context. A program with errors is
  refused before anything is written; a module that fails while it runs is refused before it is
  registered.
-/

namespace Facade

open Facade.Execution

namespace World

/-- The compiler that goes by a name. -/
def compiler (w : World) (id : String) : Compiler :=
  (w.compilers.get? id).getD { workingDir := ".", version := "", context := 0 }

/-- The world with another compiler under a name. -/
def setCompiler (w : World) (id : String) (c : Compiler) : World :=
  { w with compilers := w.compilers.set id c }

end World

namespace Compiler

/-! ## References -/

/-- Lets a compiler resolve; what was resolved before a refusal stays. -/
def resolving (id : String) (x : World → Resolver.Resolving Unit) : Run Unit := do
  let w ← get
  let (result, resolver) ← Run.within (x w) (w.compiler id).resolver
  modify fun w => w.setCompiler id { w.compiler id with resolver := resolver }
  Run.orRefuse result

/-- Makes a module, or the module that declares a type, importable. -/
def addReference (id : String) (target : Value) : Run Unit :=
  match target with
  | .module m => resolving id fun w => Resolver.addModule w m
  | v => resolving id fun w => Resolver.addType w v

/-- Makes every module importable that annotations need. -/
def addReferences (id : String) (annotations : List Value) : Run Unit :=
  resolving id fun w => Resolver.addTypes w annotations

/-- The modules that a compiler makes importable, by name. -/
def moduleNames (c : Compiler) : List String := c.resolver.modules.keys

/-- Adds a compiler under a name. What it references from the start is referenced one by one; after
a refusal there is no such compiler. -/
def new (id : String) (c : Compiler) (references : List Value) : Run Unit := do
  modify fun w => w.setCompiler id { c with resolver := { context := some c.context } }
  tryCatch (references.forM (addReference id)) fun e => do
    modify fun w => { w with compilers := w.compilers.erase id }
    throw e

/-! ## Names and files -/

/-- Gives the next modules of a compiler a name. -/
def rename (id name : String) : Run Unit :=
  modify fun w => w.setCompiler id { w.compiler id with name := some name }

/-- The front of names that are drawn. -/
def drawnFront : String := "typeforge_"

/-- A name that was not drawn before: twelve hexadecimal digits count the names. -/
def drawName : Run String := do
  let w ← get
  set { w with drawnNames := w.drawnNames + 1 }
  return drawnFront ++ String.ofList (Text.hexPadded 12 (w.drawnNames + 1))

/-- The name of the next module. -/
def nextName (c : Compiler) : Run String :=
  match c.name.filter fun n => !n.isEmpty with
  | some n => return n
  | none => drawName

/-- Whether a module can have a name. -/
def checkModuleName (name : String) : Except Refusal Unit :=
  if Text.isName name then .ok () else .error (.badModuleName name)

/-- The file that a module of a name is written to. -/
def fileOf (c : Compiler) (name : String) : Option String :=
  if c.persist then some (Path.join c.workingDir (name ++ ".py")) else none

/-- Makes a directory and all those that it lies in. -/
def makeDirectory (dir : String) : Run Unit := do
  let files := (← get).files
  if files.contains dir then Run.fault .fileExists
  if ((Path.ancestors dir).drop 1).any files.contains then Run.fault .notDirectory

/-- Writes a module's file. -/
def writeFile (c : Compiler) (path text : String) : Run Unit := do
  makeDirectory c.workingDir
  modify fun w => { w with files := w.files.set path text }

/-! ## Loading -/

/-- Adds a record of a compilation to the log. -/
def record (level message unit : String) (extra : List (String × String)) : Run Unit :=
  Run.log
    { component := "compiler"
      operation := "compile"
      level := level
      message := message
      extra := ("unit", unit) :: extra }

/-- What a program says. Warnings that are no errors are noted; a program with errors is refused. -/
def accept (c : Compiler) (name : String) (p : Program) :
    Run (List Diagnostic × List Syntax.Stmt) := do
  let (diagnostics, body) := p.diagnose c.warningsAsErrors
  for d in diagnostics do
    if !d.isError then record "WARNING" "compiler warning" name [("diagnostic", d.text)]
  let errors := diagnostics.filter Diagnostic.isError
  match errors, body with
  | [], some body => return (diagnostics, body)
  | errors, _ =>
    record "ERROR" "compilation failed" name [("errors", toString errors.length)]
    Run.refuse (.compilation errors p.text)

/-- The globals that a module starts with. -/
def initialGlobals (c : Compiler) (name : String) (path : Option String)
    (seeds : List (String × Value)) : Table String Value :=
  let own := [("__name__", Value.str name), ("__doc__", .none), ("__package__", .str "")] ++
    (path.map fun f => ("__file__", Value.str f)).toList ++
    [("__version__", .str c.version),
     (Resolver.referencesAttribute, .tuple (c.resolver.modules.values.map Value.module))]
  Table.ofList (own ++ seeds)

/-- The exceptions that loading does not hold back. -/
def uncaught : List String := ["BaseException", "SystemExit", "KeyboardInterrupt", "GeneratorExit"]

/-- Whether loading lets a failure through. -/
def passesThrough : Failure → Bool
  | .scripted s => uncaught.contains s.kind
  | _ => false

/-- The text of a failure inside the message of another. -/
def causeText (f : Failure) : String := f.message?.getD ""

/-- Runs the body of a module and registers the module. -/
def load (c : Compiler) (module : Nat) (text : String) (body : List Syntax.Stmt) : Run Unit := do
  setReferences c.context c.resolver.modules.values
  tryCatch (runModule module body) fun e => do
    if passesThrough e then throw e
    else Run.refuse (.moduleLoad ((← get).moduleName module) text e.className (causeText e))
  registerModule c.context module

/-- The part of a compilation that is timed: everything from reading to registration. -/
def build (c : Compiler) (name : String) (path : Option String) (p : Program)
    (seeds : List (String × Value)) : Run GeneratedModule := do
  let (diagnostics, body) ← accept c name p
  match path with
  | some f => writeFile c f p.text
  | none => pure ()
  let module ← Run.allocate (.module
    { name := name
      globals := initialGlobals c name path seeds
      origin := some (path.getD ("<typeforge:" ++ name ++ ">"))
      context := some c.context
      builtins := some (builtinsOf (← get)) })
  load c module p.text body
  return { name := name, module := module, text := p.text, context := c.context, path := path,
           diagnostics := diagnostics }

/-- Lets the classes that a module gives out know their module. -/
def stamp (g : GeneratedModule) : Run Unit := do
  for c in ← lift (g.exportedTypes (← get)) do
    setMember c.id Resolver.generatedModuleAttribute (.module g.module)

/-- Compiles a program and loads it into the compiler's context; the seeds are globals from the
start. -/
def compile (id : String) (p : Program) (seeds : List (String × Value)) : Run GeneratedModule := do
  let c := (← get).compiler id
  let name ← nextName c
  Run.orRefuse (checkModuleName name)
  let path := fileOf c name
  let finished : Run Unit :=
    record "DEBUG" "compile completed" name
      [("operation", "compile"), ("elapsed_ms", "#"),
       ("persist", if c.persist then "True" else "False"),
       ("references", toString c.resolver.references.size)]
  let g ← tryCatch (build c name path p seeds) fun e => do
    finished
    throw e
  finished
  stamp g
  record "INFO" "loaded generated module" name
    [("context", ((← get).context c.context).name.getD "None"), ("path", path.getD "memory")]
  return g

end Compiler

end Facade
