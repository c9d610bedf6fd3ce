import Facade.Compiler.Compile

/-!
# The hosting program

What a compiler does not set for itself comes from the program that hosts it.

* `Host`, `Host.identify`: the name and version of the hosting program.
* `Host.workingDir`: where modules are written unless another place is set.
* `CompilerSettings`, `CompilerSettings.toCompiler`: a compiler from what is set.
-/

namespace Facade

/-- The program that hosts a compiler. -/
structure Host where
  /-- Its name. -/
  name : String
  /-- Its version. -/
  version : String
  deriving DecidableEq, Repr, Inhabited

namespace Host

/-- The version of a program that states none. -/
def defaultVersion : String := "1.0.0"

/-- The directory of temporary files. -/
def temporaryDir : String := "<tempdir>"

/-- The hosting program: it is named after its main file; without one, by a fresh identifier. -/
def identify (mainFile : Option String) : Run Host := do
  match mainFile.filter fun f => !f.isEmpty with
  | some f => return ⟨Path.stem f, defaultVersion⟩
  | none => return ⟨(← Run.freshUuid).hex, defaultVersion⟩

/-- Where modules are written unless another place is set. -/
def workingDir (h : Host) : String :=
  Path.join (Path.join (Path.join temporaryDir "typeforge") h.name) h.version

end Host

/-- What can be set of a compiler. -/
structure CompilerSettings where
  /-- Modules are written to the working directory before they are loaded. -/
  persist : Bool := true
  /-- The directory of persisted modules. -/
  workingDir : Option String := none
  /-- Warnings count as errors. -/
  warningsAsErrors : Bool := false
  /-- The version that is stamped on modules. -/
  version : Option String := none
  deriving DecidableEq, Repr, Inhabited

/-- A text that is set to something. -/
def nonempty (s : Option String) : Option String := s.filter fun t => !t.isEmpty

/-- A compiler from what is set. The hosting program is asked only if something is missing; then what
is set to nothing counts as missing too. -/
def CompilerSettings.toCompiler (s : CompilerSettings) (mainFile : Option String)
    (context : Nat) : Run Compiler := do
  let (dir, version) ← match s.workingDir, s.version with
    | some d, some v => pure (d, v)
    | d, v => do
      let host ← Host.identify mainFile
      pure ((nonempty d).getD host.workingDir, (nonempty v).getD host.version)
  return {
    persist := s.persist
    warningsAsErrors := s.warningsAsErrors
    workingDir := Path.clean dir
    version := version
    context := context }

end Facade
