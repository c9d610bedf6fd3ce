import Facade.Store.Value
import Facade.Text.Quoted

/-!
# Failures

Why an operation fails.

* `Fault`: what the running program itself raises.
* `Refusal`: what the library refuses, with the facts that its message tells.
* `Failure`: any of these, or an exception that was scripted.
* `Failure.className`, `Failure.message`: the name of the exception and its text.
-/

namespace Facade

/-- What the running program itself raises. -/
inductive Fault where
  | type | attribute | name | unboundLocal | moduleNotFound | import | key | index | value
  | assertion | recursion | zeroDivision | malformed | indentation | fileExists | notDirectory
  | isDirectory | decode | unicodeDecode | unicodeEncode | runtime
  deriving DecidableEq, Repr, Inhabited

/-- The name of the exception of a fault. -/
def Fault.className : Fault → String
  | .type => "TypeError"
  | .attribute => "AttributeError"
  | .name => "NameError"
  | .unboundLocal => "UnboundLocalError"
  | .moduleNotFound => "ModuleNotFoundError"
  | .import => "ImportError"
  | .key => "KeyError"
  | .index => "IndexError"
  | .value => "ValueError"
  | .assertion => "AssertionError"
  | .recursion => "RecursionError"
  | .zeroDivision => "ZeroDivisionError"
  | .malformed => "SyntaxError"
  | .indentation => "IndentationError"
  | .fileExists => "FileExistsError"
  | .notDirectory => "NotADirectoryError"
  | .isDirectory => "IsADirectoryError"
  | .decode => "TOMLDecodeError"
  | .unicodeDecode => "UnicodeDecodeError"
  | .unicodeEncode => "UnicodeEncodeError"
  | .runtime => "RuntimeError"

/-! ## Diagnostics -/

/-- How grave a diagnostic is. -/
inductive Severity where
  | error | warning
  deriving DecidableEq, Repr, Inhabited

/-- One message about a source. -/
structure Diagnostic where
  /-- What kind of message it is. -/
  id : String
  /-- Its text. -/
  message : String
  /-- Its severity. -/
  severity : Severity := .error
  /-- The line it is about. -/
  line : Option Int := none
  /-- The column it is about. -/
  column : Option Int := none
  /-- A warning that counts as an error. -/
  warningAsError : Bool := false
  deriving DecidableEq, Repr, Inhabited

/-- Whether a diagnostic stops the compilation. -/
def Diagnostic.isError (d : Diagnostic) : Bool := d.severity = .error || d.warningAsError

/-- The text of a diagnostic with its place. -/
def Diagnostic.text (d : Diagnostic) : String :=
  let place := match d.line, d.column with
    | none, _ => ""
    | some l, some c => " (line " ++ toString l ++ ", column " ++ toString c ++ ")"
    | some l, none => " (line " ++ toString l ++ ")"
  d.id ++ ": " ++ d.message ++ place

/-! ## Refusals -/

/-- What the library refuses to do. -/
inductive Refusal where
  /-- The value, by its text, cannot be called. -/
  | notCallable (value : String)
  /-- The callable, by its text, has no signature. -/
  | noSignature (value : String)
  /-- A rule has no test. -/
  | ruleWithoutTest
  /-- A rule has no action. -/
  | ruleWithoutAction
  /-- There is no class to wrap. -/
  | nothingToWrap
  /-- The value to wrap, by its text, is no class. -/
  | notAClass (value : String)
  /-- A converted parameter's name is no name. -/
  | badParameterName (name : String)
  /-- A parameter's name is one that generated code relies on. -/
  | reservedName (name : String)
  /-- The name of a module is no name. -/
  | badModuleName (name : String)
  /-- A default, by its text, would have to be cached, and there is no cache. -/
  | uncachedDefault (value : String)
  /-- There is no such naming setting. -/
  | unknownNaming (setting : String)
  /-- There is no such configuration file. -/
  | missingConfig (path : String)
  /-- The project file has no section for the library. -/
  | missingSection (path : String)
  /-- Nothing is cached under the identifier, given by its text. -/
  | valueNotFound (identifier : String)
  /-- The module of a target cannot be referenced. -/
  | unresolved (target reason : String)
  /-- The source does not compile. -/
  | compilation (diagnostics : List Diagnostic) (source : String)
  /-- The module raised while it was loaded. -/
  | moduleLoad (name source causeClass causeText : String)
  /-- The module does not export exactly one class. -/
  | exports (name : String) (exported : List String)
  deriving DecidableEq, Repr, Inhabited

namespace Refusal

/-- The name of the exception of a refusal. -/
def className : Refusal → String
  | .notCallable _ | .ruleWithoutTest | .ruleWithoutAction | .nothingToWrap | .notAClass _
  | .unknownNaming _ => "TypeError"
  | .badParameterName _ | .reservedName _ | .badModuleName _ | .uncachedDefault _
  | .missingSection _ => "ValueError"
  | .missingConfig _ => "FileNotFoundError"
  | .noSignature _ => "TypeGenerationError"
  | .valueNotFound _ => "ValueNotFoundError"
  | .unresolved _ _ => "ReferenceResolutionError"
  | .compilation _ _ => "CompilationError"
  | .moduleLoad _ _ _ _ => "ModuleLoadError"
  | .exports _ _ => "ExportError"

/-- The text of a refusal. -/
def message : Refusal → String
  | .notCallable v => v ++ " is not callable"
  | .noSignature v => "Couldn't get signature information from " ++ v
  | .ruleWithoutTest => "ConversionRule requires a can_handle callable"
  | .ruleWithoutAction => "ConversionRule requires a handle callable"
  | .nothingToWrap => "original_type must not be None"
  | .notAClass v => "original_type must be a class, got " ++ v
  | .badParameterName n =>
    "Converted parameter name must be an identifier, got " ++ Text.quote n
  | .reservedName n =>
    "Parameter name " ++ Text.quote n ++
      " is reserved by generated code; rename it with a conversion rule"
  | .badModuleName n => "Generated module name must be an identifier, got " ++ Text.quote n
  | .uncachedDefault v => "Default " ++ v ++ " is not a literal and no value cache is set"
  | .unknownNaming s => "Unknown naming setting: " ++ s
  | .missingConfig p => "Config file not found: " ++ p
  | .missingSection p => "No [tool.typeforge] section in " ++ p
  | .valueNotFound i => "No cached value with identifier " ++ i
  | .unresolved t r => "Couldn't make a reference to " ++ t ++ ": " ++ r
  | .compilation ds source =>
    "Compilation failures!\n\n" ++ "\n".intercalate (ds.map Diagnostic.text) ++ "\n\nCode:\n\n" ++
      source
  | .moduleLoad n source c t =>
    "Loading generated module '" ++ n ++ "' failed: " ++ c ++ ": " ++ t ++ "\n\nCode:\n\n" ++
      source
  | .exports n es =>
    "Generated module '" ++ n ++ "' must export exactly one class (found: " ++
      (if es.isEmpty then "none" else ", ".intercalate es) ++ ")"

end Refusal

/-- Why an operation fails. -/
inductive Failure where
  /-- The running program raised. -/
  | fault (f : Fault)
  /-- A scripted exception was raised. -/
  | scripted (s : Scripted)
  /-- The library refused. -/
  | refused (r : Refusal)
  deriving DecidableEq, Repr, Inhabited

namespace Failure

/-- The name of the exception of a failure. -/
def className : Failure → String
  | .fault f => f.className
  | .scripted s => s.kind
  | .refused r => r.className

/-- The text of a scripted exception: one that reports a key quotes it. -/
def scriptedText (s : Scripted) : String :=
  if s.kind == "KeyError" then Text.quote s.text else s.text

/-- The text of a failure, where the library words it. -/
def message? : Failure → Option String
  | .fault _ => none
  | .scripted s => some (scriptedText s)
  | .refused r => some r.message

end Failure

end Facade
