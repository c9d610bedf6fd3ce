import Facade.Describe.Members
import Facade.Text.TitleCase

/-!
# Conversion rules

Where the arguments of a forwarded call come from is decided parameter by parameter.

* `Route`, `Destination`: where a parameter goes, and the name it goes by there.
* `Rule`: a test of parameters and the conversion for those that pass it.
* `convert`: the conversion that the first matching rule chooses.
* `propertyName`: the name of the property that a parameter becomes.
-/

namespace Facade.Conversion

open Facade.Describe (ParameterInfo)

/-- Where the argument of a forwarded call comes from. -/
inductive Route where
  /-- A parameter of the generated method. -/
  | method
  /-- A parameter of the constructor, kept in a field. -/
  | constructor
  /-- A property that can be read and written. -/
  | property
  deriving DecidableEq, Repr, Inhabited

/-- The word for a route. -/
def Route.word : Route → String
  | .method => "method"
  | .constructor => "constructor"
  | .property => "property"

/-- Where a parameter goes, and the name it goes by there. -/
structure Destination where
  /-- Where it goes. -/
  route : Route := .method
  /-- Its new name, if it gets one. -/
  renamedTo : Option String := none
  deriving DecidableEq, Repr, Inhabited

/-- The name that a parameter goes by; an empty new name is none. -/
def Destination.nameFor (c : Destination) (p : ParameterInfo) : String :=
  match c.renamedTo with
  | some n => if n.isEmpty then p.name else n
  | none => p.name

/-- A test of parameters and the conversion for those that pass it. -/
structure Rule where
  /-- Which parameters the rule is for. -/
  canHandle : ParameterInfo → Bool
  /-- What becomes of them. -/
  handle : ParameterInfo → Destination
  deriving Inhabited

namespace Rule

/-- A rule needs both a test and an action. -/
def ofParts? (canHandle : Option (ParameterInfo → Bool))
    (handle : Option (ParameterInfo → Destination)) : Except Refusal Rule :=
  match canHandle, handle with
  | none, _ => .error .ruleWithoutTest
  | _, none => .error .ruleWithoutAction
  | some t, some a => .ok ⟨t, a⟩

/-- One conversion for the parameters with the given names. -/
def forNames (names : List String) (c : Destination) : Rule := ⟨fun p => names.contains p.name, fun _ => c⟩

/-- One conversion for the parameters with the given annotation. -/
def forType (hint : Value) (c : Destination) : Rule :=
  ⟨fun p => (p.hint.getD Standard.empty).same hint, fun _ => c⟩

end Rule

/-- The conversion that the first matching rule chooses; without one, a parameter stays a parameter of
the method. -/
def convert (rules : List Rule) (p : ParameterInfo) : Destination :=
  ((rules.find? fun r => r.canHandle p).map fun r => r.handle p).getD {}

theorem convert_nil (p : ParameterInfo) : convert [] p = {} := rfl

/-- **The first matching rule decides.** -/
theorem convert_cons (r : Rule) (rs : List Rule) (p : ParameterInfo) :
    convert (r :: rs) p = if r.canHandle p then r.handle p else convert rs p := by
  by_cases h : r.canHandle p <;> simp [convert, h]

/-- The name of the property that a parameter becomes: its name in title case; one that is in title
case already gets an ending so that the two differ. -/
def propertyName (name : String) : String :=
  let title := Text.titleCase name
  if title == name then title ++ "Prop" else title

theorem propertyName_ne (name : String) : propertyName name ≠ name := by
  unfold propertyName
  by_cases h : Text.titleCase name = name
  · simp only [h, beq_self_eq_true, if_true]
    intro hc
    have := congrArg String.length hc
    rw [String.length_append] at this
    simp at this
  · simp [h]

end Facade.Conversion
