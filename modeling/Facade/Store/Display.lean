import Facade.Number.Shortest
import Facade.Store.Standard
import Facade.Text.Quoted

/-!
# The text of values

* `Value.display`: the text that shows a value to a programmer; addresses are left out.
* `Value.asText`: the text that a value turns into: itself for a text.
-/

namespace Facade

/-- What stands for the address of an object. -/
def atAddress : String := " at 0x#>"

mutual

/-- The text that shows a value. -/
def Value.display (w : World) : Value → String
  | .none => "None"
  | .ellipsis => "Ellipsis"
  | .bool b => if b then "True" else "False"
  | .int i | .subInt i => toString i
  | .float x => FloatStyle.alone.render x
  | .complex re im => renderComplex re im
  | .str s | .subStr s => Text.quote s
  | .bytes bs => Text.quoteBytes bs
  | .uuid u => "UUID(" ++ Text.quote u.render ++ ")"
  | .path s => "PosixPath(" ++ Text.quote s ++ ")"
  | .purePath s => "PurePosixPath(" ++ Text.quote s ++ ")"
  | .moment m => m.display
  | .opaqueObj _ name => "<" ++ name ++ ">"
  | .tuple [v] => "(" ++ v.display w ++ ",)"
  | .tuple vs => "(" ++ ", ".intercalate (Value.displayAll w vs) ++ ")"
  | .list vs => "[" ++ ", ".intercalate (Value.displayAll w vs) ++ "]"
  | .dict es => "\x7b" ++ ", ".intercalate (Value.displayEntries w es) ++ "\x7d"
  | .cls c => "<class '" ++ c.path ++ "'>"
  | .newType n => n.path
  | .typeAlias n => n.qualname
  | .typeVar _ n => "~" ++ n
  | .special n => "typing." ++ n
  | .generic f o as =>
    let base := match f, o with
      | .special "", .cls c => c.path
      | .special "", .typeAlias n => n.qualname
      | .special n, _ => "typing." ++ n
      | .plain, .cls c => c.path
      | .plain, o => o.display w
    base ++ "[" ++ ", ".intercalate (Value.displayArgs w as) ++ "]"
  | .pipe as => " | ".intercalate (Value.displayArgs w as)
  | .annotated o ms =>
    "typing.Annotated[" ++ ", ".intercalate (Value.displayArg w o :: Value.displayAll w ms) ++ "]"
  | .forward s => "ForwardRef(" ++ Text.quote s ++ ")"
  | .instance id =>
    match w.instance? id with
    | some i =>
      if (w.linearisation i.cls.id).any (fun c => c.qualname == "Opaque" && c.module == "__main__")
      then "<" ++ w.opaqueName (.instance id) ++ ">"
      else "<" ++ i.cls.path ++ " object" ++ atAddress
    | Option.none => "<object" ++ atAddress
  | .function id =>
    "<function " ++ ((w.function? id).map Function.qualname).getD "" ++ atAddress
  | .module id => "<module " ++ Text.quote (((w.module? id).map ModuleInfo.name).getD "") ++ ">"
  | .bound s f =>
    let name := match f with
      | .function id => ((w.function? id).map Function.qualname).getD ""
      | _ => ""
    "<bound method " ++ name ++ " of " ++ s.display w ++ ">"
  | .partialCall f as ks =>
    "functools.partial(" ++ ", ".intercalate
      (f.display w :: (Value.displayAll w as ++ Value.displayNamed w ks)) ++ ")"
  | .property _ _ => "<property object" ++ atAddress
  | .staticMethod f => "<staticmethod(" ++ f.display w ++ ")>"
  | .classMethod f => "<classmethod(" ++ f.display w ++ ")>"
  | .native .len => "<built-in function len>"
  | .native _ => "<function" ++ atAddress
  | .superOf _ _ => "<super object" ++ atAddress
  | .coroutine _ _ => "<coroutine object" ++ atAddress
  | .cache _ => "<ValueCache object" ++ atAddress
  | .methodInfo _ _ => "<MethodInfo object" ++ atAddress
termination_by v => (sizeOf v, 0)

/-- The texts of several values. -/
def Value.displayAll (w : World) : List Value → List String
  | [] => []
  | v :: r => v.display w :: Value.displayAll w r
termination_by vs => (sizeOf vs, 0)

/-- The texts of entries of a table. -/
def Value.displayEntries (w : World) : List (Value × Value) → List String
  | [] => []
  | (k, v) :: r => (k.display w ++ ": " ++ v.display w) :: Value.displayEntries w r
termination_by es => (sizeOf es, 0)

/-- The texts of named values. -/
def Value.displayNamed (w : World) : List (String × Value) → List String
  | [] => []
  | (k, v) :: r => (k ++ "=" ++ v.display w) :: Value.displayNamed w r
termination_by vs => (sizeOf vs, 0)

/-- The text of an annotation's argument: classes by their path. -/
def Value.displayArg (w : World) : Value → String
  | .cls c => if c.id = Standard.noneType.id then "NoneType" else c.path
  | .ellipsis => "..."
  | v => v.display w
termination_by v => (sizeOf v, 1)

/-- The texts of an annotation's arguments. -/
def Value.displayArgs (w : World) : List Value → List String
  | [] => []
  | v :: r => v.displayArg w :: Value.displayArgs w r
termination_by vs => (sizeOf vs, 0)

end

/-- The text that a value turns into. -/
def Value.asText (w : World) : Value → String
  | .str s | .subStr s => s
  | .uuid u => u.render
  | .path s | .purePath s => s
  | .moment m => m.text
  | v => v.display w

end Facade
