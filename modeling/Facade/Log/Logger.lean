import Facade.Log.Record

/-!
# Loggers

* `Logger`: what records are made with: a component and a context.
* `effectiveLevel`, `isEnabled`: which records a logger lets through.
* `Logger.log?`, `Logger.timed?`: the record that is made, if one is.
* `Logger.withContext?`, `Logger.withOperation`, `Logger.withSession`: loggers with more context.
-/

namespace Facade.Log

/-- The logger that all others stand under. -/
def rootLogger : String := "typeforge"

/-- What records are made with. -/
structure Logger where
  /-- Its name. -/
  name : String
  /-- The context that its records get. -/
  context : LogContext
  deriving Repr, Inhabited

/-- The logger of a component. -/
def Logger.ofComponent (component : String) : Logger :=
  { name := rootLogger ++ "." ++ component, context := { component := component } }

/-! ## Levels -/

/-- The level that holds where none is set. -/
def unsetLevel : Int := 30

/-- The names that a name stands under, itself first. -/
def owners (name : String) : List String :=
  let parts := Syntax.dottedParts name
  (List.range parts.length).map fun k => ".".intercalate (parts.take (parts.length - k))

/-- The level that holds for a logger: the nearest one that is set. -/
def effectiveLevel (set : Table String Int) (name : String) : Int :=
  ((owners name).findSome? fun n => (set.get? n).filter (· != 0)).getD unsetLevel

/-- Whether records of a level are let through. -/
def isEnabled (set : Table String Int) (name : String) (level : Int) : Bool :=
  0 < level && effectiveLevel set name ≤ level

/-! ## More context -/

/-- Facts to be added: named values as texts. One name is taken. -/
def factsOf (w : World) (taken : List String) (facts : List (String × Value)) :
    Except Fault (List (String × String)) :=
  if facts.any fun f => taken.contains f.1 then .error .type
  else .ok (facts.map fun f => (f.1, f.2.asText w))

namespace Logger

/-- The logger with further facts. -/
def withContext? (l : Logger) (w : World) (facts : List (String × Value)) : Except Fault Logger :=
  return { l with context := l.context.withExtra (← factsOf w ["self"] facts) }

/-- The logger for an operation. -/
def withOperation (l : Logger) (operation : String) : Logger :=
  { l with context := { l.context with operation := operation } }

/-- The logger for a session. -/
def withSession (l : Logger) (session : String) : Logger :=
  { l with context := { l.context with session := session } }

/-! ## Records -/

/-- The record that a message makes, if it is let through. -/
def log? (l : Logger) (w : World) (set : Table String Int) (level : Int) (message : String)
    (facts : List (String × Value)) (exception : Option String) :
    Except Fault (Option Record) := do
  let facts ← factsOf w ["self", "msg", "level"] facts
  if isEnabled set l.name level then
    return some
      { logger := l.name, level := level, message := message, exception := exception,
        context := some (l.context.withExtra facts) }
  else return none

/-- A record without context, if it is let through. -/
def plain? (l : Logger) (set : Table String Int) (level : Int) (message : String)
    (exception : Option String) : Option Record :=
  if isEnabled set l.name level then
    some { logger := l.name, level := level, message := message, exception := exception }
  else none

/-- The fact that tells how long an operation took. -/
def elapsedName : String := "elapsed_ms"

/-- The record that an operation leaves at its end, if it is let through. -/
def timed? (l : Logger) (w : World) (set : Table String Int) (operation : String)
    (facts : List (String × Value)) : Except Fault (Option Record) := do
  let _ ← factsOf w ["operation", elapsedName] facts
  l.log? w set 10 (operation ++ " completed")
    ([("operation", .str operation), (elapsedName, .str "#")] ++ facts) none

end Logger

end Facade.Log
