import Facade.Log.Logger

/-!
# Using loggers

* `Derivation`: how a logger is made from another.
* `Use`: what can be done with a logger.
* `Session`: a logger and those derived from it, with the levels that are set.
* `Session.step`: does one thing: what came out, the record that was made, the session afterwards.
-/

namespace Facade.Log

/-- How a logger is made from another. -/
inductive Derivation where
  /-- With further facts. -/
  | context (facts : List (String × Value))
  /-- For an operation. -/
  | operation (name : String)
  /-- For a session. -/
  | session (name : String)
  deriving Repr, Inhabited

/-- The logger that is made from another. -/
def Logger.derive? (l : Logger) (w : World) : Derivation → Except Fault Logger
  | .context facts => l.withContext? w facts
  | .operation name => .ok (l.withOperation name)
  | .session name => .ok (l.withSession name)

/-- What can be done with a logger. -/
inductive Use where
  /-- Derives a logger and gives it a name. -/
  | derive (name : String) (how : Derivation)
  /-- Logs a message, with the text of an error that goes with it. -/
  | log (level : Int) (message : String) (facts : List (String × Value)) (error : Option String)
  /-- Logs a message without context. -/
  | plain (level : Int) (message : String) (error : Option String)
  /-- Asks whether a level is let through. -/
  | enabled (level : Int)
  /-- Times an operation, which may raise. -/
  | timed (operation : String) (facts : List (String × Value)) (raised : Option Scripted)
  /-- Asks whether two components have the same logger. -/
  | same (a b : String)
  deriving Repr, Inhabited

/-- How the text of an error is told: with the name of its class. -/
def errorText (s : String) : String := if s.isEmpty then "ValueError" else "ValueError: " ++ s

/-- What came out, and the record that was made. -/
structure Outcome where
  /-- The value, or the failure. -/
  value : Except Failure Value := .ok .none
  /-- The record, if one was let through. -/
  record : Option Record := none
  deriving Inhabited

/-- What logging came to: the value if it was not refused. -/
def Outcome.ofLog (value : Except Failure Value) : Except Fault (Option Record) → Outcome
  | .ok r => ⟨value, r⟩
  | .error f => ⟨.error (.fault f), none⟩

/-- A logger and those derived from it. -/
structure Session where
  /-- The levels that are set. -/
  levels : Table String Int
  /-- The logger. -/
  first : Logger
  /-- Those derived from it. -/
  derived : Table String Logger := {}
  deriving Inhabited

namespace Session

/-- A session with a component's logger; levels are set for it and for all loggers. -/
def start (component : String) (ownLevel rootLevel : Int) : Session :=
  let logger := Logger.ofComponent component
  { levels := Table.ofList [(rootLogger, rootLevel), (logger.name, ownLevel)], first := logger }

/-- Does one thing with a logger. -/
def step (s : Session) (w : World) (on : String) (u : Use) : Outcome × Session :=
  let l := (s.derived.get? on).getD s.first
  match u with
  | .derive name how =>
    match l.derive? w how with
    | .ok d => ({}, { s with derived := s.derived.set name d })
    | .error f => (⟨.error (.fault f), none⟩, s)
  | .log level message facts error =>
    (.ofLog (.ok .none) (l.log? w s.levels level message facts (error.map errorText)), s)
  | .plain level message error =>
    (⟨.ok .none, l.plain? s.levels level message (error.map errorText)⟩, s)
  | .enabled level => (⟨.ok (.bool (isEnabled s.levels l.name level)), none⟩, s)
  | .timed operation facts raised =>
    let value := raised.elim (.ok (.list [.str Logger.elapsedName])) fun e => .error (.scripted e)
    (.ofLog value (l.timed? w s.levels operation facts), s)
  | .same a b => (⟨.ok (.bool (a == b)), none⟩, s)

end Session

end Facade.Log
