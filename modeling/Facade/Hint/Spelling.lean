import Facade.Hint.Forms
import Facade.Store.Display
import Facade.Syntax.Literal
import Facade.Syntax.Printer

/-!
# Spelling annotations

An annotation is spelled as an expression that, evaluated where the modules are imported that
declare its parts, gives the annotation again.

* `isNoValue`, `declared?`, `typeArguments`: what an annotation is and consists of.
* `qualifiedName?`: the import path of a class, an alias or a special form.
* `spell`: the expression; `friendlyName`: its text.
-/

namespace Facade.Hint

open Syntax (Expr)

/-! ## Parts of an annotation -/

/-- Whether an annotation says that nothing is returned. -/
def isNoValue : Value → Bool
  | .none => true
  | .cls c => c.id = Standard.noneType.id
  | _ => false

/-- The class, new type or alias that an annotation is, if it is one of these. -/
def declared? : Value → Option Named
  | .cls c | .newType c | .typeAlias c => some c
  | _ => none

/-- The module that has to be imported to name an annotation, if there is one. -/
def declaringModule? (a : Value) : Option String := (declared? a).map Named.module

/-- The members of a list that stands for several arguments. -/
def listMembers : Value → List Value
  | .list vs | .tuple vs => vs
  | v => [v]

/-- The arguments of an annotation; those that are lists are replaced by their members. -/
def typeArguments (a : Value) : List Value := (args a).flatMap listMembers

/-! ## Names -/

/-- The last part of a dotted name. -/
def lastPart (s : String) : String := ((Syntax.dottedParts s).getLast?).getD s

/-- Whether a union is that of one member with absence. -/
def isOptional (as : List Value) : Bool :=
  as.length = 2 && as.any isNoValue

/-- The module and the name under which a value goes, if it has a name. -/
def nameParts? : Value → Option (String × String)
  | .cls c | .newType c | .typeAlias c => some (c.module, c.qualname)
  | .special n => some ("typing", n)
  | .generic .plain o _ => nameParts? o
  | .generic (.special "") o _ =>
    (nameParts? o).map fun p => (p.1, lastPart p.2)
  | .generic (.special n) _ as =>
    some ("typing", if n == "Union" && isOptional as then "Optional" else n)
  | .annotated o _ => (nameParts? o).map fun p => (p.1, "Annotated")
  | _ => none

/-- The import path of a value that has a name; built-in ones stand alone. -/
def qualifiedName? (v : Value) : Option String :=
  (nameParts? v).map fun p => if p.1 == "builtins" then p.2 else p.1 ++ "." ++ p.2

/-! ## Spelling -/

/-- A subscript; several arguments stand side by side. -/
def subscripted (base : Expr) : List Expr → Expr
  | [] => base
  | [e] => .subscript base e
  | es => .subscript base (.tuple es)

/-- The expression that the display of a value reads as, if it reads as one. -/
def displayExpr (text : String) : Expr :=
  match Syntax.readExpr text with
  | .ok e => .spelled text e
  | .error _ => .verbatim text

/-- The expression of a plain value. -/
def valueExpr (w : World) (v : Value) : Expr := v.literal?.getD (displayExpr (v.display w))

/-- The expression of a literal form. A value that is no literal is left to its display. -/
def literalForm (w : World) (as : List Value) : Expr :=
  if as.isEmpty then .verbatim "typing.Literal[]"
  else subscripted (Expr.dotted "typing.Literal") (as.map (valueExpr w))

mutual

/-- The expression that an annotation is spelled as. A type variable named `T` stands for the class
named `self`, if one is given, and every other type variable for anything. -/
def spell (w : World) (self : Option String) : Value → Expr
  | .none => .const .none
  | .ellipsis => .const .ellipsis
  | .str s | .subStr s => .str s
  | .typeVar _ n =>
    match self with
    | some t => if n == "T" && !t.isEmpty then .str t else Expr.dotted "typing.Any"
    | none => Expr.dotted "typing.Any"
  | .list vs => .list (spellAll w self vs)
  | .generic _ (.special "Literal") as => literalForm w as
  | .generic _ o as =>
    let base := Expr.dotted ((qualifiedName? o).getD "")
    let es := spellAll w self as
    match o with
    | .cls c =>
      if c.id = callableClass.id then
        subscripted base (callableGroups (firstIsParameterList as) Expr.list es)
      else subscripted base es
    | _ => subscripted base es
  | .pipe as => subscripted (Expr.dotted "typing.Union") (spellAll w self as)
  | .annotated o _ => spell w self o
  | .cls c =>
    if c.id = (Standard.named "_empty").id || c.id = (Standard.named "Any").id then
      Expr.dotted "typing.Any"
    else if c.id = Standard.noneType.id then .const .none
    else Expr.dotted c.path
  | .newType n | .typeAlias n => Expr.dotted n.path
  | .special n =>
    Expr.dotted ((Standard.aliasClass? n).elim ("typing." ++ n) Named.path)
  | .forward s => .call (.name "ForwardRef") [.str s] []
  | v => valueExpr w v

/-- The expressions of several annotations. -/
def spellAll (w : World) (self : Option String) : List Value → List Expr
  | [] => []
  | v :: r => spell w self v :: spellAll w self r

end

/-- The text of an annotation. -/
def friendlyName (w : World) (self : Option String) (a : Value) : String :=
  (spell w self a).text .draft

end Facade.Hint
