import Facade.Conversion.Plan
import Facade.Scene.Rules

/-!
# Using a conversion plan

* `PlanStep`: what can be done with a plan.
* `PlanStep.run`: does one thing: what came out, and the plan afterwards.
-/

namespace Facade.Scene

open Facade.Conversion Facade.Execution

/-- What can be done with a plan. -/
inductive PlanStep where
  /-- Converts a method. -/
  | method (f : FunctionSpec)
  /-- Adds a parameter of the constructor. -/
  | add (name : String) (hint : Option Ann)
  /-- Asks what becomes of a parameter. -/
  | convert (p : ParamSpec)
  /-- Writes the constructor and the properties. -/
  | render
  deriving Repr, Inhabited

/-- What came out. -/
inductive PlanOutcome where
  | done
  /-- A converted method, and its signature if that can be written. -/
  | method (m : ConvertedMethod) (signature : Except Failure String)
  | conversion (c : Destination)
  /-- The constructor's signature; its body and the properties. -/
  | source (signature body : String)

/-- The line between the constructor's body and the properties. -/
def divider : String := "# --"

/-- Writes the constructor and the properties of a plan. -/
def renderPlan (p : Plan) : Run PlanOutcome := do
  let body ← p.constructorBody
  let w ← get
  let all := body ++ [.layout divider] ++ p.propertyDefinitions w
  return .source (Syntax.paramsText .draft (p.constructorParams w)) (Syntax.render .draft all)

/-- A computation whose failure is part of what came out. -/
def outcomeOf {α : Type} (x : Run α) : Run (Except Failure α) :=
  tryCatch (Except.ok <$> x) fun e => return .error e

/-- Does one thing. -/
def PlanStep.run (s : Scene) (p : Plan) : PlanStep → Run (Except Failure PlanOutcome × Plan)
  | .method f => do
    let (result, p) ← Run.within (Plan.convertMethod (← f.describe s)) p
    match result with
    | .ok m =>
      let signature ← outcomeOf do return Syntax.paramsText .draft (← p.methodParams m)
      return (.ok (.method m signature), p)
    | .error r => return (.error (.refused r), p)
  | .add name hint => do
    let a ← hint.mapM (Ann.build s)
    let (result, p) ← Run.within (Plan.addConstructorParameter name (Describe.present a)) p
    return ((result.map fun _ => .done).mapError .refused, p)
  | .convert q => do
    return (.ok (.conversion (Conversion.convert p.rules (← q.describe s 0))), p)
  | .render => do return (← outcomeOf (renderPlan p), p)

end Facade.Scene
