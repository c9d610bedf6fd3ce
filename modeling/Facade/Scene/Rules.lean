import Facade.Conversion.Plan
import Facade.Scene.Build

/-!
# Described rules and methods

* `Selector`, `RuleSpec`: a conversion rule as it is described.
* `RuleSpec.build`: the rule; one whose test or action is left out is refused.
* `FunctionSpec.describe`: a described function, seen as a method whose arguments are to be
  converted.
-/

namespace Facade.Scene

open Facade.Conversion Facade.Execution
open Facade.Describe (MethodInfo ParameterInfo)
open Syntax (ParamKind)

/-- Which parameters a rule is for. -/
inductive Selector where
  | all
  /-- Those with one of the names. -/
  | names (names : List String)
  /-- Those with an annotation. -/
  | type (a : Ann)
  /-- Those whose names begin in the same way. -/
  | front (text : String)
  | kind (k : ParamKind)
  | position (n : Nat)
  /-- Those with a default, or those without. -/
  | hasDefault (b : Bool)
  deriving Repr, Inhabited

/-- A conversion rule. -/
structure RuleSpec where
  /-- Where parameters go. -/
  route : Route := .method
  /-- Their new name. -/
  renamedTo : Option String := none
  /-- What is put after their own names instead. -/
  ending : Option String := none
  /-- Which parameters the rule is for. -/
  selector : Selector := .all
  /-- There is a test. -/
  hasTest : Bool := true
  /-- There is an action. -/
  hasAction : Bool := true
  deriving Repr, Inhabited

/-- The test of a selector. -/
def Selector.build (s : Scene) : Selector → Run (ParameterInfo → Bool)
  | .all => return fun _ => true
  | .names ns => return (Rule.forNames ns {}).canHandle
  | .type a => do
    let v ← a.build s
    return (Rule.forType v {}).canHandle
  | .front t => return fun p => p.name.startsWith t
  | .kind k => return fun p => p.kind = k
  | .position n => return fun p => p.position = n
  | .hasDefault b => return fun p => p.default.isSome = b

/-- What becomes of a parameter. -/
def RuleSpec.action (r : RuleSpec) (p : ParameterInfo) : Destination :=
  ⟨r.route, (r.ending.map fun e => p.name ++ e) <|> r.renamedTo⟩

/-- The rule that is described. -/
def RuleSpec.build (s : Scene) (r : RuleSpec) : Run Rule := do
  let test ← if r.hasTest then some <$> r.selector.build s else pure none
  Run.orRefuse (Rule.ofParts? test (if r.hasAction then some r.action else none))

/-- A described parameter in its place. -/
def ParamSpec.describe (s : Scene) (p : ParamSpec) (position : Nat) : Run ParameterInfo := do
  let p ← p.build s
  return { name := p.name, hint := Describe.present p.hint, kind := p.kind,
           default := Describe.present p.default, position := position }

/-- A described function as a method to be converted. -/
def FunctionSpec.describe (s : Scene) (f : FunctionSpec) : Run MethodInfo := do
  let params ← f.params.mapIdxM fun i p => p.describe s i
  let returns ← f.returns.mapM (Ann.build s)
  return { name := f.name.getD "m", params := params, returns := Describe.present returns }

end Facade.Scene
