import Facade.Scene.Build

/-!
# Using a generated class

* `Use`: what can be done with a class and its instances.
* `Session`: a class and the instances that were made of it.
* `Session.step`: does one thing: its outcome, what was recorded meanwhile, the session afterwards.
-/

namespace Facade.Scene

open Facade.Execution

/-- What can be done with a class and its instances. -/
inductive Use where
  /-- Makes an instance. -/
  | new (args : List Value) (keywords : Keywords)
  /-- Calls a method. -/
  | call (method : String) (args : List Value) (keywords : Keywords)
  /-- Reads attributes, one of the other. -/
  | get (names : List String)
  /-- Writes an attribute. -/
  | set (name : String) (value : Value)
  /-- Reads an attribute of the class. -/
  | classGet (name : String)
  /-- Lists the bases of the class. -/
  | bases
  deriving Repr, Inhabited

/-- Something done to an instance: the newest, unless a number is given. -/
structure UseStep where
  /-- What is done. -/
  use : Use
  /-- The number of the instance. -/
  target : Option Nat := none
  deriving Repr, Inhabited

/-- What came out. -/
structure Outcome where
  /-- The value. -/
  value : Value
  /-- The call yielded something that had to be run to its end. -/
  wasAsync : Bool := false
  deriving Repr, Inhabited

/-- A class and the instances that were made of it. -/
structure Session where
  /-- The class. -/
  cls : Named
  /-- The instances, oldest first. -/
  instances : List Value := []
  deriving Repr, Inhabited

namespace Session

/-- The instance that something is done to; before there is any, absence takes its place. -/
def receiver (s : Session) (target : Option Nat) : Run Value :=
  match target, s.instances with
  | _, [] => return .none
  | none, vs => return vs.getLast?.getD .none
  | some i, vs => lift (vs[i]?.elim (.error .index) .ok)

/-- Runs what a call has left to be run. -/
def finish (v : Value) : Run Outcome := do
  match v with
  | .coroutine _ _ => return { value := ← awaited depth v, wasAsync := true }
  | v => return { value := v }

/-- Arguments with objects of their own. -/
def freshenKeywords (ks : Keywords) : Run Keywords := ks.mapM fun k => return (k.1, ← freshen k.2)

/-- Does one thing. -/
def run (s : Session) (step : UseStep) : Run (Outcome × Session) := do
  match step.use with
  | .new args keywords =>
    let v ← call depth (.cls s.cls) (← freshenAll args) (← freshenKeywords keywords)
    return ({ value := v }, { s with instances := s.instances ++ [v] })
  | .call method args keywords =>
    let vs ← freshenAll args
    let ks ← freshenKeywords keywords
    let f ← getAttr depth (← s.receiver step.target) method
    return (← finish (← call depth f vs ks), s)
  | .get names =>
    let v ← names.foldlM (fun v n => getAttr depth v n) (← s.receiver step.target)
    return ({ value := v }, s)
  | .set name value =>
    setAttr depth (← s.receiver step.target) name (← freshen value)
    return ({ value := .none }, s)
  | .classGet name => return ({ value := ← getAttr depth (.cls s.cls) name }, s)
  | .bases =>
    let bases := ((← get).class? s.cls.id).map ClassInfo.bases
    return ({ value := .list ((bases.getD []).map fun c => .str c.path) }, s)

/-- Does one thing in a world: the outcome, what was recorded meanwhile, the session and the world
afterwards. -/
def step (s : Session) (u : UseStep) (w : World) :
    Except Failure Outcome × List Event × Session × World :=
  let (result, w') := (s.run u).run w
  let events := w'.events.drop w.events.length
  match result with
  | .ok (outcome, s') => (.ok outcome, events, s', w')
  | .error e => (.error e, events, s, w')

end Session

end Facade.Scene
