import Facade.Describe.Hints

/-!
# Describing callables and classes

* `ParameterInfo`, `MethodInfo`, `PropertyInfo`: what is known of a parameter, a method, a property.
* `describeCallable`: the description of any value that can be called.
* `methodsOf`: the methods that a class declares itself, in the order of declaration.
* `propertiesOf`: the public properties and annotated attributes of a class and its ancestors; a
  derived class has the last word on a name, its first declaration gives the place.
-/

namespace Facade.Describe

open Facade.Execution
open Syntax (ParamKind)

/-- A parameter of a wrapped callable. -/
structure ParameterInfo where
  /-- Its name. -/
  name : String
  /-- Its annotation, if it has one. -/
  hint : Option Value := none
  /-- What it accepts. -/
  kind : ParamKind := .positionalOrKeyword
  /-- Its default, if it has one. -/
  default : Option Value := none
  /-- Its place in the parameter list. -/
  position : Nat := 0
  deriving Repr, Inhabited

/-- How a method receives its object. -/
inductive MethodKind where
  /-- As its first argument. -/
  | ofInstance
  /-- Not at all. -/
  | free
  /-- It receives the class instead. -/
  | ofClass
  deriving DecidableEq, Repr, Inhabited

/-- A wrapped callable, or a method that a class declares. -/
structure MethodInfo where
  /-- Its name. -/
  name : String
  /-- The parameters, the receiver left out. -/
  params : List ParameterInfo := []
  /-- The annotation of the result, if there is one. -/
  returns : Option Value := none
  /-- The class that declares it. -/
  declaring : Option Named := none
  /-- How it receives its object. -/
  kind : MethodKind := .ofInstance
  /-- Calling it yields a coroutine. -/
  isAsync : Bool := false
  /-- It is abstract. -/
  isAbstract : Bool := false
  /-- The names of its type parameters. -/
  typeParams : List String := []
  deriving Repr, Inhabited

/-- A property or an annotated attribute. -/
structure PropertyInfo where
  /-- Its name. -/
  name : String
  /-- Its annotation, if it has one. -/
  hint : Option Value := none
  /-- It can be written. -/
  writable : Bool := true
  /-- The class that declares it. -/
  declaring : Named
  deriving Repr, Inhabited

namespace MethodInfo

/-- Whether a name is public. -/
def isPublicName (name : String) : Bool := !name.startsWith "_"

/-- Whether the method is public. -/
def isPublic (m : MethodInfo) : Bool := isPublicName m.name

/-- Whether the method has type parameters of its own. -/
def isGeneric (m : MethodInfo) : Bool := !m.typeParams.isEmpty

/-- Whether the method returns something. -/
def returnsValue (m : MethodInfo) : Bool := !(m.returns.any Hint.isNoValue)

/-- The annotations of the parameters and of the result that are present. -/
def annotations (m : MethodInfo) : List Value :=
  m.params.filterMap ParameterInfo.hint ++ m.returns.toList

end MethodInfo

/-- An annotation or a default unless it is the marker of a missing one. -/
def present (v : Option Value) : Option Value := v.filter fun x => !(x.same Standard.empty)

/-- Describes a parameter list; a hint takes the place of an annotation. -/
def describeParams (hints : Table String Value) (ps : List Parameter) : List ParameterInfo :=
  ps.mapIdx fun i p =>
    { name := p.name
      hint := present (hints.get? p.name <|> p.hint)
      kind := p.kind
      default := present p.default
      position := i }

/-! ## Callables -/

/-- The function or class whose annotations describe a callable. -/
def annotatedTarget (w : World) : Value → Value
  | .partialCall f _ _ => annotatedTarget w f
  | .bound _ f => f
  | .instance id => (callMember? w (.instance id)).getD .none
  | v => v

/-- Whether calling a value yields a coroutine. -/
def isAsync (w : World) (v : Value) : Bool :=
  match annotatedTarget w v with
  | .function f => ((w.function? f).map Function.isAsync).getD false
  | _ => false

/-- The name that a callable goes by: its own, else that of its class. -/
def callableName (w : World) (v : Value) : String :=
  let own := match v with
    | .function f => (w.function? f).map Function.name
    | .bound _ (.function f) => (w.function? f).map Function.name
    | .cls c => some (w.className c)
    | .newType n | .typeAlias n => some (Hint.lastPart n.qualname)
    | .native .len => some "len"
    | .instance id =>
      ((w.instance? id).bind fun i => i.attrs.get? "__name__").bind Value.toStr?
    | v => (Hint.nameParts? v).map fun (p : String × String) => Hint.lastPart p.2
  match own.filter fun n => !n.isEmpty with
  | some n => n
  | none => w.kindName v

/-- Describes a value that can be called. One that cannot, and one without a signature, is
refused. -/
def describeCallable (v : Value) : Run MethodInfo := do
  let w ← get
  if !isCallable w v then Run.refuse (.notCallable (v.display w))
  match signature? w depth v with
  | none => Run.refuse (.noSignature (v.display w))
  | some s =>
    let hints ← typeHints (annotatedTarget w v)
    return {
      name := callableName w v
      params := describeParams hints s.params
      returns := present (hints.get? "return" <|> s.returns)
      isAsync := isAsync w v }

/-! ## Methods of a class -/

/-- The kind of method that a member of a class is, and its function. -/
def methodOf? : Value → Option (MethodKind × Nat)
  | .staticMethod (.function f) => some (.free, f)
  | .classMethod (.function f) => some (.ofClass, f)
  | .function f => some (.ofInstance, f)
  | _ => none

/-- A parameter list without the receiver of a method. -/
def withoutReceiver (kind : MethodKind) (ps : List Parameter) : List Parameter :=
  match kind, ps with
  | .free, ps => ps
  | _, [] => []
  | _, p :: r => if p.kind.isVariadic then p :: r else r

/-- Describes a member of a class if it is a method with a signature. -/
def describeMember (owner : Named) (name : String) (member : Value) : Run (Option MethodInfo) := do
  let w ← get
  match methodOf? member with
  | none => return none
  | some (kind, f) =>
    match w.function? f with
    | none => return none
    | some info =>
      if !info.hasSignature then return none
      let hints ← typeHints (.function f)
      return some {
        name := name
        params := describeParams hints (withoutReceiver kind info.params)
        returns := present (hints.get? "return" <|> info.returns)
        declaring := some owner
        kind := kind
        isAsync := info.isAsync
        isAbstract := info.isAbstract
        typeParams := info.typeParams }

/-- The namespace of a class. -/
def namespaceOf (w : World) (c : Named) : List (String × Value) :=
  ((w.class? c.id).map fun i => i.members.entries).getD []

/-- The methods that a class declares itself, in the order of declaration. -/
def methodsOf (c : Named) : Run (List MethodInfo) := do
  return (← (namespaceOf (← get) c).mapM fun e => describeMember c e.1 e.2).filterMap id

/-! ## Properties of a class -/

/-- Whether a class or one of its ancestors was made unchangeable. -/
def isFrozen (w : World) (c : Named) : Bool :=
  match w.findMember? (w.linearisation c.id) "__dataclass_params__" with
  | some (.instance id) =>
    (((w.instance? id).bind fun i => i.attrs.get? "frozen").map Value.truth).getD false
  | _ => false

/-- Whether an annotation declares a variable of the class. -/
def isClassVariable : Value → Bool
  | .generic _ (.special "ClassVar") _ => true
  | _ => false

/-- The annotated attributes that a class declares, with its hints. -/
def attributesOf (c : ClassInfo) (hints : Table String Value) (writable : Bool) :
    List PropertyInfo :=
  (classAnnotations c).filterMap fun (name, raw) =>
    let hint := (hints.get? name).getD raw
    if MethodInfo.isPublicName name && !isClassVariable hint then
      some { name := name, hint := present (some hint), writable := writable,
             declaring := c.named }
    else none

/-- The properties that a class declares. -/
def ownProperties (c : ClassInfo) : Run (List PropertyInfo) := do
  let found ← c.members.entries.mapM fun e => do
    match e.2 with
    | .property getter setter =>
      if MethodInfo.isPublicName e.1 then
        let hint ← match getter with
          | some g => do pure ((← typeHints g).get? "return")
          | none => pure none
        return some
          { name := e.1, hint := present hint, writable := setter.isSome,
            declaring := c.named : PropertyInfo }
      else return none
    | _ => return none
  return found.filterMap id

/-- The public properties and annotated attributes of a class and its ancestors. -/
def propertiesOf (c : Named) : Run (List PropertyInfo) := do
  let w ← get
  let writable := !isFrozen w c
  let ancestors := (w.linearisation c.id).reverse.filter fun a => a.id != Standard.object.id
  let found ← ancestors.mapM fun a => do
    match w.class? a.id with
    | some info =>
      let hints ← typeHints (.cls a)
      return attributesOf info hints writable ++ (← ownProperties info)
    | none => return []
  return (Table.ofList (found.flatten.map fun p => (p.name, p))).values

end Facade.Describe
