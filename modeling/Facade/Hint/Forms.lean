import Facade.Store.Standard
import Facade.Syntax.Reader

/-!
# Building annotations

What subscripting a class or a special form makes, and what the union operator makes.

* `typeArguments?`: the origin and the arguments of an annotation.
* `forwardRef`: the reference that a text stands for.
* `subscript`: an annotation from its base and what stands in the brackets.
* `unite`: the union of two annotations by the operator `|`.
-/

namespace Facade.Hint

/-! ## Taking annotations apart -/

/-- The class of callables. -/
def callableClass : Named := Standard.namedIn "collections.abc" "Callable"

/-- Whether a value can stand for all parameters of a callable. -/
def isParameterList : Value → Bool
  | .ellipsis | .tuple _ | .list _ => true
  | _ => false

/-- Whether the first of two arguments of a callable can stand for all its parameters. -/
def firstIsParameterList : List Value → Bool
  | [p, _] => isParameterList p
  | _ => false

/-- The arguments of a callable in two groups: the parameters as one list, then the result. -/
def callableGroups {α : Type} (grouped : Bool) (group : List α → α) (args : List α) : List α :=
  if grouped then args
  else match args.getLast? with
    | some r => [group args.dropLast, r]
    | none => [group []]

/-- The arguments of a callable's annotation: the parameters as one list, then the result. -/
def callableArgs (args : List Value) : List Value :=
  callableGroups (firstIsParameterList args) Value.list args

/-- What an annotation was made from, if it has arguments or stands for a class. -/
def origin? : Value → Option Value
  | .special n => (Standard.aliasClass? n).map Value.cls
  | .generic _ o _ => some o
  | .pipe _ => some (.special "Union")
  | .annotated _ _ => some (.cls (Standard.named "Annotated"))
  | .cls c => if c.id = Standard.generic.id then some (.cls c) else none
  | _ => none

/-- The arguments of an annotation. -/
def args : Value → List Value
  | .generic _ o as =>
    match o with
    | .cls c => if c.id = callableClass.id then callableArgs as else as
    | _ => as
  | .pipe as => as
  | .annotated o ms => o :: ms
  | _ => []

/-! ## Arguments -/

/-- The reference that a text stands for; the text must be an expression. -/
def forwardRef (s : String) : Except Fault Value :=
  let source := match s.toList with
    | '*' :: _ => "(" ++ s ++ ",)[0]"
    | _ => s
  match Syntax.readExpr source with
  | .ok _ => .ok (.forward s)
  | .error _ => .error .malformed

/-- Absence becomes its class, a text a reference. -/
def convert : Value → Except Fault Value
  | .none => .ok (.cls Standard.noneType)
  | .str s => forwardRef s
  | .subStr s => forwardRef s
  | v => .ok v

/-- Checks an argument of a special form. Class variables and final names are refused as
arguments unless `inner`, as are bare forms that need arguments. -/
def check (inner : Bool) (v : Value) : Except Fault Value := do
  let v ← convert v
  match v with
  | .generic _ (.special "ClassVar") _ => if inner then .ok v else .error .type
  | .generic _ (.special "Final") _ => if inner then .ok v else .error .type
  | .generic _ (.cls c) _ => if c.id = Standard.generic.id then .error .type else .ok v
  | .special n =>
    if Standard.plainForms.contains n then .ok v
    else if inner && (n == "ClassVar" || n == "Final") then .ok v
    else if Standard.forms.contains n then .error .type
    else .ok v
  | .cls c =>
    if c.id = Standard.generic.id || c.id = (Standard.named "Protocol").id then .error .type
    else .ok v
  | .tuple _ => .error .type
  | v => .ok v

/-- Whether a value can be a member of a set. -/
def isHashable : Value → Bool
  | .list _ | .dict _ => false
  | _ => true

/-! ## Unions -/

/-- The members of a union that is an argument of a union. -/
def unionMembers : Value → List Value
  | .generic _ (.special "Union") as => as
  | .pipe as => as
  | v => [v]

/-- The union of checked arguments: flat, without repetitions; of one member it is that member. -/
def makeUnion (vs : List Value) : Value :=
  match Value.dedupe (vs.flatMap unionMembers) with
  | [v] => v
  | vs => .generic (.special "Union") (.special "Union") vs

/-- The union of arguments. -/
def union (vs : List Value) : Except Fault Value := do
  if vs.isEmpty then throw .type
  return makeUnion (← vs.mapM (check false))

/-- A value that the operator `|` takes to be a type by itself. -/
def isUnionable : Value → Bool
  | .none | .cls _ | .generic .plain _ _ | .pipe _ => true
  | _ => false

/-- A value that brings its own union operator. -/
def bringsUnion : Value → Bool
  | .special _ | .generic (.special _) _ _ | .annotated _ _ | .typeVar _ _ | .newType _
  | .typeAlias _ | .forward _ => true
  | _ => false

/-- The members of a union made with the operator `|`. -/
def pipeMembers : Value → List Value
  | .pipe as => as
  | .none => [.cls Standard.noneType]
  | v => [v]

/-- The union of two annotations by the operator `|`. -/
def unite (a b : Value) : Except Fault Value :=
  if bringsUnion a || bringsUnion b then union [a, b]
  else if isUnionable a && isUnionable b then
    match a, b with
    | .none, .none => .error .type
    | a, b =>
      match Value.dedupe (pipeMembers a ++ pipeMembers b) with
      | [v] => .ok v
      | vs => .ok (.pipe vs)
  else .error .type

/-! ## Type variables -/

mutual

/-- The type variables of an annotation, in order of appearance. -/
def typeVars : Value → List Value
  | .typeVar i n => [.typeVar i n]
  | .generic _ _ as => typeVarsOf as
  | .pipe as => typeVarsOf as
  | .annotated o _ => typeVars o
  | .list vs => typeVarsOf vs
  | _ => []

/-- The type variables of several annotations. -/
def typeVarsOf : List Value → List Value
  | [] => []
  | v :: r => typeVars v ++ typeVarsOf r

end

mutual

/-- An annotation with values put in for its type variables. -/
def substitute (sub : List (Value × Value)) : Value → Value
  | .typeVar i n => (Value.lookup? sub (.typeVar i n)).getD (.typeVar i n)
  | .generic f o as =>
    match o with
    | .special "Union" => makeUnion (substituteAll sub as)
    | o => .generic f o (substituteAll sub as)
  | .pipe as => .pipe (substituteAll sub as)
  | .annotated o ms => .annotated (substitute sub o) ms
  | .list vs => .list (substituteAll sub vs)
  | v => v

/-- Several annotations with values put in for their type variables. -/
def substituteAll (sub : List (Value × Value)) : List Value → List Value
  | [] => []
  | v :: r => substitute sub v :: substituteAll sub r

end

/-! ## Subscripts -/

/-- What stands in the brackets, as a list. -/
def indexList : Value → List Value
  | .tuple vs => vs
  | v => [v]

/-- The literals of literal forms that are arguments of one. -/
def literalMembers : Value → List Value
  | .generic _ (.special "Literal") as => as
  | v => [v]

/-- The literals without repetitions of value and class. -/
def dedupeLiterals (vs : List Value) : List Value :=
  if vs.all isHashable then
    vs.foldl (fun acc v =>
      if acc.any fun u => u.literalTag == v.literalTag && u.same v then acc else acc ++ [v]) []
  else vs

/-- A special alias with arguments. -/
def subscriptAlias (name : String) (c : Named) (count : Option Nat) (index : Value) :
    Except Fault Value := do
  let make (as : List Value) : Value := .generic (.special name) (.cls c) as
  if name == "Callable" then
    match index with
    | .tuple [ps, r] =>
      let r ← check false r
      match ps with
      | .ellipsis => return make [.ellipsis, r]
      | .list vs => return make ((← vs.mapM convert) ++ [r])
      | .tuple vs => return make ((← vs.mapM convert) ++ [r])
      | v => return make [← convert v, r]
    | _ => throw .type
  else if name == "Tuple" then
    match index with
    | .tuple [] => return make []
    | _ =>
      let vs := indexList index
      match vs.getLast? with
      | some .ellipsis =>
        if vs.length ≥ 2 then return make ((← vs.dropLast.mapM (check false)) ++ [.ellipsis])
        else return make (← vs.mapM (check false))
      | _ => return make (← vs.mapM (check false))
  else
    let vs ← (indexList index).mapM (check false)
    if count.all (· = vs.length) then return make vs else throw .type

/-- A special form with arguments. -/
def subscriptForm (name : String) (index : Value) : Except Fault Value := do
  let make (as : List Value) : Value := .generic (.special name) (.special name) as
  match name with
  | "Union" => union (indexList index)
  | "Optional" =>
    let v ← check false index
    return makeUnion [v, .cls Standard.noneType]
  | "Literal" => return make (dedupeLiterals ((indexList index).flatMap literalMembers))
  | "ClassVar" | "Final" | "TypeGuard" => return make [← check false index]
  | "Required" | "NotRequired" => return make [← check true index]
  | _ => throw .type

/-- Whether a value says which module its class comes from. The plain data of the language does not. -/
def namesModule : Value → Bool
  | .none | .ellipsis | .bool _ | .int _ | .float _ | .complex _ _ | .bytes _ | .moment _ | .tuple _
  | .list _ | .dict _ => false
  | _ => true

/-- An annotation from its base and what stands in the brackets. -/
def subscript (w : World) (base index : Value) : Except Fault Value := do
  match base with
  | .cls c =>
    if c.id = (Standard.named "Annotated").id then
      match index with
      | .tuple (v :: m :: ms) =>
        match ← check true v with
        | .annotated o ms' => return .annotated o (ms' ++ m :: ms)
        | v => if namesModule v then return .annotated v (m :: ms) else throw .attribute
      | _ => throw .type
    else if c.id = callableClass.id then
      match index with
      | .tuple [.list vs, r] => return .generic .plain base (vs ++ [r])
      | .tuple [.tuple vs, r] => return .generic .plain base (vs ++ [r])
      | .tuple [.ellipsis, r] => return .generic .plain base [.ellipsis, r]
      | _ => throw .type
    else if c.id = Standard.generic.id then
      return .generic (.special "") base (indexList index)
    else
      match (w.class? c.id).map ClassInfo.subscripting with
      | some .anything => return .generic .plain base (indexList index)
      | some (.params n) =>
        let vs ← (indexList index).mapM convert
        if 0 < n && vs.length = n then return .generic (.special "") base vs else throw .type
      | _ => throw .type
  | .typeAlias _ =>
    return .generic (.special "") base (← (indexList index).mapM (check false))
  | .special n =>
    match Standard.aliasClass? n with
    | some c =>
      subscriptAlias n c (((Standard.aliases.find? fun a => a.1 == n).map fun a => a.2.2).getD none)
        index
    | none => subscriptForm n index
  | .generic f o as =>
    let vars := Value.dedupe (typeVarsOf as)
    let vs := indexList index
    if vars.isEmpty || vars.length ≠ vs.length then throw .type
    let vs ← match f with
      | .plain => pure vs
      | .special _ => vs.mapM (check false)
    return substitute (vars.zip vs) (.generic f o as)
  | _ => throw .type

end Facade.Hint
