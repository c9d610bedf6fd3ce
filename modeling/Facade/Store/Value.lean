import Facade.Moment
import Facade.Number.Binary64
import Facade.Uuid

/-!
# Values

What a variable of a running program can hold. Objects that change, and definitions, live in the
store and are held here by their number; everything else is a value outright.

* `Named`: the number of a class or alias together with the names it was declared under.
* `Native`: the functions that the library itself provides.
* `Value`: the values, and `Value.same`, equality as the program sees it.
-/

namespace Facade

/-- A class or alias: its number and where it was declared. -/
structure Named where
  /-- Its number in the store. -/
  id : Nat
  /-- The module that declares it. -/
  module : String
  /-- Its name inside that module. -/
  qualname : String
  deriving DecidableEq, Repr, Inhabited

/-- How an alias with arguments was made. -/
inductive Family where
  /-- By subscripting a class. -/
  | plain
  /-- Through the module of special forms, under a name of its own unless that is empty. -/
  | special (name : String)
  deriving DecidableEq, Repr, Inhabited

/-- An exception that is scripted to be raised: its class and its text. -/
structure Scripted where
  /-- The class of the exception. -/
  kind : String
  /-- What it is made from. -/
  text : String
  deriving DecidableEq, Repr, Inhabited

/-- The functions that the library provides. -/
inductive Native where
  /-- The length of a container. -/
  | len
  /-- The second argument, whatever the first. -/
  | cast
  /-- Whether an object is an instance of a class. -/
  | isInstance
  /-- The value under an identifier of a cache. -/
  | cacheGet (cache : Nat)
  /-- The import function of a context. -/
  | importer (context : Nat)
  /-- The constructor that every class inherits. -/
  | objectInit
  /-- The function that makes forward references. -/
  | forwardRef
  /-- The setter decorator of a property. -/
  | propertySetter
  /-- Makes an instance of a class: its second argument, called without arguments. -/
  | makeInstance
  /-- As `makeInstance`, recorded, with the attributes of its first argument set afterwards; it may
  fail as scripted. -/
  | recordedFactory (failure : Option Scripted)
  /-- A hook that records itself under a tag; it may fail as scripted. -/
  | hook (tag : String) (failure : Option Scripted)
  /-- A decorator that records itself under a tag. -/
  | decorator (tag : String)
  deriving DecidableEq, Repr, Inhabited

/-- A value. -/
inductive Value where
  | none
  | ellipsis
  | bool (b : Bool)
  | int (i : Int)
  | float (x : Binary64)
  | complex (re im : Binary64)
  | str (s : String)
  | bytes (bs : List UInt8)
  | uuid (u : Uuid)
  | path (s : String)
  /-- A path that is not tied to a file system. -/
  | purePath (s : String)
  | moment (m : Moment)
  /-- An integer of a derived class. -/
  | subInt (i : Int)
  /-- A text of a derived class. -/
  | subStr (s : String)
  /-- An object of which only its name is known. -/
  | opaqueObj (id : Nat) (name : String)
  | tuple (items : List Value)
  | list (items : List Value)
  | dict (items : List (Value × Value))
  | cls (c : Named)
  | newType (n : Named)
  | typeAlias (n : Named)
  | typeVar (id : Nat) (name : String)
  /-- A special form, or a special alias without arguments. -/
  | special (name : String)
  /-- An alias with arguments. -/
  | generic (family : Family) (origin : Value) (args : List Value)
  /-- A union made with the operator `|`. -/
  | pipe (args : List Value)
  | annotated (origin : Value) (metadata : List Value)
  | forward (text : String)
  | instance (id : Nat)
  | function (id : Nat)
  | module (id : Nat)
  | bound (self f : Value)
  | partialCall (f : Value) (args : List Value) (keywords : List (String × Value))
  | property (getter setter : Option Value)
  | staticMethod (f : Value)
  | classMethod (f : Value)
  | native (n : Native)
  /-- The view of an object through the classes after one of its own. -/
  | superOf (after : Nat) (self : Value)
  /-- A call that has been made but not run. -/
  | coroutine (f : Nat) (args : List (String × Value))
  /-- A value cache, by its number. -/
  | cache (id : Nat)
  /-- The description of a method that hooks receive: its name. -/
  | methodInfo (id : Nat) (name : String)
  deriving Repr, Inhabited

namespace Value

/-! ## Equality -/

/-- The integer that a number amounts to, if it is one. -/
def toInt? : Value → Option Int
  | .bool b => some (if b then 1 else 0)
  | .int i => some i
  | .subInt i => some i
  | .float x => x.toInt?
  | .complex re im => if im.isZero then re.toInt? else Option.none
  | _ => Option.none

/-- The text that a value is. -/
def toStr? : Value → Option String
  | .str s => some s
  | .subStr s => some s
  | _ => Option.none

/-- A list without one member that satisfies a test, if there is one. -/
def removeFirst {α : Type} (p : α → Bool) : List α → Option (List α)
  | [] => Option.none
  | x :: r => if p x then some r else (removeFirst p r).map (x :: ·)

/-- Whether two lists have the same members by a test, repetitions counted. -/
def sameMembers {α β : Type} (p : α → β → Bool) : List α → List β → Bool
  | [], ys => ys.isEmpty
  | x :: xs, ys =>
    match removeFirst (p x) ys with
    | some ys => sameMembers p xs ys
    | Option.none => false

/-- Equality of numbers across their classes. -/
def sameNumber (a b : Value) : Option Bool :=
  match a.toInt?, b.toInt? with
  | some i, some j => some (i == j)
  | _, _ =>
    match a, b with
    | .float x, .float y => some (x.numEq y)
    | .complex x y, .complex z w => some (x.numEq z && y.numEq w)
    | .float x, .complex z w => some (x.numEq z && w.isZero)
    | .complex z w, .float x => some (x.numEq z && w.isZero)
    | _, _ => Option.none

/-- The tag of a literal's class, which equality of literal forms compares as well. -/
def literalTag : Value → Nat
  | .bool _ => 1
  | .int _ => 2
  | .float _ => 3
  | .complex _ _ => 4
  | .str _ => 5
  | .subInt _ => 6
  | .subStr _ => 7
  | _ => 0

mutual

/-- Equality as the program sees it: numbers by value, containers by content, unions and literal
forms as sets, everything else by identity. -/
def same : Value → Value → Bool
  | .none, .none => true
  | .ellipsis, .ellipsis => true
  | .bytes a, .bytes b => a == b
  | .uuid a, .uuid b => a == b
  | .path a, .path b => a == b
  | .purePath a, .purePath b => a == b
  | .moment a, .moment b => a == b
  | .opaqueObj a _, .opaqueObj b _ => a == b
  | .tuple a, .tuple b => sameList a b
  | .list a, .list b => sameList a b
  | .dict a, .dict b => a.length == b.length && sameEntries a b
  | .cls a, .cls b => a.id == b.id
  | .newType a, .newType b => a.id == b.id
  | .typeAlias a, .typeAlias b => a.id == b.id
  | .typeVar a _, .typeVar b _ => a == b
  | .special a, .special b => a == b
  | .generic f (.special "Union") a, .generic g (.special "Union") b =>
    f == f && g == g && a.length == b.length && sameSet a b
  | .generic _ (.special "Union") a, .pipe b => a.length == b.length && sameSet a b
  | .pipe a, .generic _ (.special "Union") b => a.length == b.length && sameSet a b
  | .pipe a, .pipe b => a.length == b.length && sameSet a b
  | .generic _ (.special "Literal") a, .generic _ (.special "Literal") b =>
    a.length == b.length && sameLiterals a b
  | .generic .plain o a, .generic .plain p b => same o p && sameList a b
  | .generic (.special _) o a, .generic (.special _) p b => same o p && sameList a b
  | .annotated o a, .annotated p b => same o p && sameList a b
  | .forward a, .forward b => a == b
  | .instance a, .instance b => a == b
  | .function a, .function b => a == b
  | .module a, .module b => a == b
  | .bound s f, .bound t g => same s t && same f g
  | .native a, .native b => a == b
  | .cache a, .cache b => a == b
  | .methodInfo a _, .methodInfo b _ => a == b
  | a, b =>
    match a.toStr?, b.toStr? with
    | some s, some t => s == t
    | _, _ => (sameNumber a b).getD false
termination_by v => sizeOf v

/-- Equality of lists, member by member. -/
def sameList : List Value → List Value → Bool
  | [], [] => true
  | a :: r, b :: s => same a b && sameList r s
  | _, _ => false
termination_by vs => sizeOf vs

/-- Whether every member of the first list equals one of the second. -/
def sameSet : List Value → List Value → Bool
  | [], _ => true
  | a :: r, bs => bs.any (fun b => same a b) && sameSet r bs
termination_by vs => sizeOf vs

/-- Whether every literal of the first list is one of the second, of the same class. -/
def sameLiterals : List Value → List Value → Bool
  | [], _ => true
  | a :: r, bs => bs.any (fun b => a.literalTag == b.literalTag && same a b) && sameLiterals r bs
termination_by vs => sizeOf vs

/-- Whether every entry of the first table is one of the second. -/
def sameEntries : List (Value × Value) → List (Value × Value) → Bool
  | [], _ => true
  | (k, v) :: r, bs => bs.any (fun e => same k e.1 && same v e.2) && sameEntries r bs
termination_by es => sizeOf es

end

/-- Whether a list holds a value equal to the given one. -/
def memberOf (v : Value) (vs : List Value) : Bool := vs.any fun w => v.same w

/-- The values without later repetitions. -/
def dedupe (vs : List Value) : List Value :=
  vs.foldl (fun acc v => if v.memberOf acc then acc else acc ++ [v]) []

/-! ## Tables -/

/-- The value under a key of a table. -/
def lookup? (items : List (Value × Value)) (k : Value) : Option Value :=
  (items.find? fun e => e.1.same k).map Prod.snd

/-- Writes an entry of a table; an equal key keeps its place and its spelling. -/
def insertEntry (items : List (Value × Value)) (k v : Value) : List (Value × Value) :=
  if items.any fun e => e.1.same k then
    items.map fun e => if e.1.same k then (e.1, v) else e
  else items ++ [(k, v)]

/-- The table that a list of entries makes. -/
def dictOf (items : List (Value × Value)) : Value :=
  .dict (items.foldl (fun acc e => insertEntry acc e.1 e.2) [])

/-- The table of a list of named values. -/
def dictOfNames (items : List (String × Value)) : Value :=
  .dict (items.map fun e => (.str e.1, e.2))

/-- Whether a value is the one that means absence. -/
def isNone : Value → Bool
  | .none => true
  | _ => false

/-- The truth value of a value. -/
def truth : Value → Bool
  | .none => false
  | .bool b => b
  | .int i | .subInt i => i != 0
  | .float x => !x.isZero
  | .complex re im => !(re.isZero && im.isZero)
  | .str s | .subStr s => !s.isEmpty
  | .bytes bs => !bs.isEmpty
  | .tuple vs | .list vs => !vs.isEmpty
  | .dict es => !es.isEmpty
  | _ => true

end Value

end Facade
