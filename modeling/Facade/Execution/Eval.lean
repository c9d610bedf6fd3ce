import Facade.Hint.Spelling
import Facade.Execution.Binding
import Facade.Execution.Cache
import Facade.Execution.Classes
import Facade.Execution.Frame

/-!
# Running statements

An interpreter for source trees. The first argument of each function bounds how deeply calls and
expressions may nest; running out of it is a fault of its own, `Fault.recursion`.

* `getAttr`, `setAttr`: reading and writing attributes; methods are bound and properties are run.
* `call`, `construct`: calling functions and making instances.
* `eval`, `exec`: the value of an expression, the effect of a statement.
* `depth`: the bound that programs run with.
-/

namespace Facade.Execution

open Syntax (Expr Stmt mangle)

/-- How deeply calls and expressions may nest. -/
def depth : Nat := 3000

/-! ## Pieces -/

/-- Turns a fault into a failure. -/
def lift {α : Type} : Except Fault α → Run α
  | .ok x => return x
  | .error f => Run.fault f

/-- The value of a literal. -/
def constantValue : Syntax.Constant → Value
  | .none => .none
  | .true => .bool true
  | .false => .bool false
  | .ellipsis => .ellipsis
  | .int n => .int n
  | .float x => .float x
  | .imaginary x => .complex (.ofInt 0) x
  | .str s | .marked s => .str s
  | .bytes bs => .bytes bs

/-- A member of a class as seen through an instance: functions take the instance along. -/
def bindMember (self : Value) (cls : Named) : Value → Value
  | .function f => .bound self (.function f)
  | .native .objectInit => .bound self (.native .objectInit)
  | .classMethod f => .bound (.cls cls) f
  | .staticMethod f => f
  | v => v

/-- A member of a class as seen through the class. -/
def classMember (cls : Named) : Value → Value
  | .classMethod f => .bound (.cls cls) f
  | .staticMethod f => f
  | v => v

/-- The attributes that every class has. -/
def classAttribute? (w : World) (c : ClassInfo) (name : String) : Option Value :=
  match name with
  | "__name__" => some (.str c.name)
  | "__qualname__" => some (.str c.named.qualname)
  | "__bases__" => some (.tuple (c.bases.map Value.cls))
  | "__mro__" => some (.tuple (c.linearisation.map Value.cls))
  | "__dict__" => some (Value.dictOfNames c.members.entries)
  | "__module__" => some ((c.members.get? "__module__").getD (.str c.named.module))
  | "__class__" => some (.cls Standard.type)
  | "__annotations__" =>
    if c.builtin then none else some ((c.members.get? "__annotations__").getD (.dict []))
  | "__doc__" => some ((c.members.get? "__doc__").getD .none)
  | "__abstractmethods__" =>
    if c.checksAbstract then some (.tuple (c.abstracts.map Value.str)) else none
  | _ =>
    ((w.findMember? c.linearisation name)).map (classMember c.named)

/-- The attributes of a function. -/
def functionAttribute? (w : World) (f : Function) (name : String) : Option Value :=
  match name with
  | "__name__" => some (.str f.name)
  | "__qualname__" => some (.str f.qualname)
  | "__module__" => some ((f.globals.map fun m => Value.str (w.moduleName m)).getD .none)
  | "__doc__" => some .none
  | "__annotations__" =>
    let own := f.params.filterMap fun p => p.hint.map fun a => (p.name, a)
    some (Value.dictOfNames (own ++ (f.returns.map fun a => ("return", a)).toList))
  | "__isabstractmethod__" => if f.isAbstract then some (.bool true) else none
  | _ => none

/-- The attributes of values that are neither instances, classes nor modules. -/
def plainAttribute? (w : World) (v : Value) (name : String) : Option Value :=
  if name == "__class__" then some (.cls (classOf w v))
  else
    match v with
    | .function f => (w.function? f).bind fun info => functionAttribute? w info name
    | .bound s f =>
      if name == "__self__" then some s
      else if name == "__func__" then some f
      else match f with
        | .function f => (w.function? f).bind fun info => functionAttribute? w info name
        | _ => none
    | .property getter setter =>
      match name with
      | "setter" => some (.bound v (.native .propertySetter))
      | "fget" => some (getter.getD .none)
      | "fset" => some (setter.getD .none)
      | _ => none
    | .cache id => if name == "get" then some (.native (.cacheGet id)) else none
    | .methodInfo _ n => if name == "name" then some (.str n) else none
    | .opaqueObj _ n => if name == "name" then some (.str n) else none
    | .partialCall f as ks =>
      match name with
      | "func" => some f
      | "args" => some (.tuple as)
      | "keywords" => some (Value.dictOfNames ks)
      | _ => none
    | .newType n | .typeAlias n =>
      match name with
      | "__name__" => some (.str (Hint.lastPart n.qualname))
      | "__module__" => some (.str n.module)
      | "__qualname__" => some (.str n.qualname)
      | _ => none
    | .special n =>
      if name == "__name__" || name == "__qualname__" then some (.str n) else none
    | .native .len =>
      if name == "__name__" || name == "__qualname__" then some (.str "len") else none
    | _ => none

/-- Puts arguments by name into others, replacing those of the same name. -/
def overrideKeywords (ks js : Keywords) : Keywords :=
  ((Table.mk ks).union (Table.mk js)).entries

/-- Adds arguments by name; a name given twice is a fault. -/
def addKeywords (ks js : Keywords) : Except Fault Keywords :=
  js.foldlM (fun acc j =>
    if acc.any fun k => k.1 == j.1 then .error .type else .ok (acc ++ [j])) ks

/-- The arguments by name that a table stands for. -/
def keywordsOf : Value → Except Fault Keywords
  | .dict es => es.mapM fun e =>
    match e.1.toStr? with
    | some s => .ok (s, e.2)
    | none => .error .type
  | _ => .error .type

/-- Whether a class derives from another. -/
def derivesFrom (w : World) (c d : Named) : Bool :=
  (w.linearisation c.id).any fun a => a.id == d.id

/-- Whether a class is one of exceptions. -/
def isException (w : World) (c : Named) : Bool := derivesFrom w c (Standard.named "BaseException")

/-- The exception that raising a value raises. -/
def raised? (w : World) : Value → Option Scripted
  | .cls c => if isException w c then some ⟨w.className c, ""⟩ else none
  | .instance id => do
    let i ← w.instance? id
    if isException w i.cls then
      let text := match i.attrs.get? "args" with
        | some (.tuple [v]) => v.asText w
        | some (.tuple []) => ""
        | some v => v.display w
        | none => ""
      return ⟨w.className i.cls, text⟩
    else none
  | _ => none

/-- The instances of the classes of the language that are made without running a program. -/
def makePlain? (w : World) (c : Named) (args : List Value) : Option (Except Fault Value) :=
  if c.module != "builtins" && c.qualname != "ForwardRef" then none
  else
    match c.qualname, args with
    | "type", [v] => some (.ok (.cls (classOf w v)))
    | "property", [] => some (.ok (.property none none))
    | "property", [f] => some (.ok (.property (if f.isNone then none else some f) none))
    | "property", [f, g] =>
      some (.ok (.property (if f.isNone then none else some f) (if g.isNone then none else some g)))
    | "staticmethod", [f] => some (.ok (.staticMethod f))
    | "classmethod", [f] => some (.ok (.classMethod f))
    | "super", [.cls d, v] => some (.ok (.superOf d.id v))
    | "ForwardRef", [.str s] => some (Hint.forwardRef s)
    | "str", [] => some (.ok (.str ""))
    | "str", [v] => some (.ok (.str (v.asText w)))
    | "int", [] => some (.ok (.int 0))
    | "int", [v] => some ((v.asInt?.map Value.int).elim (.error .type) .ok)
    | "float", [] => some (.ok (.float (.ofInt 0)))
    | "float", [v] => some ((v.toFloat?.map Value.float).elim (.error .type) .ok)
    | "bool", [] => some (.ok (.bool false))
    | "bool", [v] => some (.ok (.bool v.truth))
    | "list", [] => some (.ok (.list []))
    | "list", [v] => some (v.elements?.map Value.list)
    | "tuple", [] => some (.ok (.tuple []))
    | "tuple", [v] => some (v.elements?.map Value.tuple)
    | "dict", [] => some (.ok (.dict []))
    | _, _ => none

/-- Runs statements one after the other until one leaves the block. -/
def runBlock (step : Frame → Stmt → Run (Frame × Flow)) (fr : Frame) :
    List Stmt → Run (Frame × Flow)
  | [] => return (fr, .next)
  | s :: r => do
    match ← step fr s with
    | (fr, .next) => runBlock step fr r
    | left => return left

/-- The module whose name a class defined in a frame carries. -/
def Frame.moduleName (fr : Frame) (w : World) : String :=
  ((fr.findGlobal w "__name__").bind Value.toStr?).getD "builtins"

/-- The frame in which the body of a function runs. -/
def Frame.ofCall (f : Function) (body : List Stmt) (privateTo : Option String)
    (captured : Table String Value) (args : List (String × Value)) : Frame :=
  { scope := .function
    globals := f.globals
    vars := ⟨args⟩
    ownNames := (ownNamesOf (args.map Prod.fst) body).map (mangle privateTo)
    captured := captured
    privateTo := privateTo
    home := f.home
    receiver := (args.map Prod.fst).head?
    qualifier := f.qualname ++ ".<locals>." }

/-- Whether instances of a class can become instances of another one. -/
def isCompatible (w : World) (c d : Named) : Bool :=
  match w.class? c.id, w.class? d.id with
  | some i, some j => !i.builtin && !j.builtin && i.layout = j.layout
  | _, _ => false

/-- Writes an attribute into an instance itself. Its class, its table of attributes and the list of
those that refer to it are no entries of the table. -/
def writeField (w : World) (id : Nat) (i : InstanceInfo) (name : String) (x : Value) : Run Unit :=
  match name, x with
  | "__class__", .cls c =>
    if isCompatible w i.cls c then Run.replace id (.instance { i with cls := c })
    else Run.fault .type
  | "__class__", _ => Run.fault .type
  | "__dict__", v => do
    let attrs ← lift ((keywordsOf v).map Table.mk)
    Run.replace id (.instance { i with attrs := attrs })
  | "__weakref__", _ => Run.fault .attribute
  | name, x => Run.replace id (.instance { i with attrs := i.attrs.set name x })

/-! ## The interpreter -/

mutual

/-- Reads an attribute. -/
def getAttr : Nat → Value → String → Run Value
  | 0, _, _ => Run.fault .recursion
  | fuel + 1, v, name => do
    let w ← get
    match v with
    | .instance id =>
      let some i := w.instance? id | Run.fault .attribute
      let found := w.findMember? (w.linearisation i.cls.id) name
      match found with
      | some (.property getter _) =>
        match getter with
        | some g => call fuel g [v] []
        | none => Run.fault .attribute
      | _ =>
        match i.attrs.get? name, found with
        | some x, _ => return x
        | none, some m => return bindMember v i.cls m
        | none, none =>
          match name with
          | "__class__" => return .cls i.cls
          | "__dict__" => return Value.dictOfNames i.attrs.entries
          | "__module__" => return .str i.cls.module
          | _ => Run.fault .attribute
    | .cls c =>
      let some info := w.class? c.id | Run.fault .attribute
      lift ((classAttribute? w info name).elim (.error .attribute) .ok)
    | .module m =>
      let some info := w.module? m | Run.fault .attribute
      match info.globals.get? name with
      | some x => return x
      | none =>
        if name == "__dict__" then return Value.dictOfNames info.globals.entries
        else Run.fault .attribute
    | .superOf after self =>
      let cls := match self with
        | .cls c => c
        | self => classOf w self
      let later := ((w.linearisation cls.id).dropWhile fun c => c.id != after).drop 1
      match w.findMember? later name with
      | some (.property (some g) _) => call fuel g [self] []
      | some m => return bindMember self cls m
      | none => Run.fault .attribute
    | v => lift ((plainAttribute? w v name).elim (.error .attribute) .ok)

/-- Writes an attribute. -/
def setAttr : Nat → Value → String → Value → Run Unit
  | 0, _, _, _ => Run.fault .recursion
  | fuel + 1, v, name, x => do
    let w ← get
    match v with
    | .instance id =>
      let some i := w.instance? id | Run.fault .attribute
      match w.findMember? (w.linearisation i.cls.id) name with
      | some (.property _ setter) =>
        match setter with
        | some s => discard (call fuel s [v, x] [])
        | none => Run.fault .attribute
      | _ => writeField w id i name x
    | .cls c => setMember c.id name x
    | .module m =>
      let some info := w.module? m | Run.fault .attribute
      Run.replace m (.module { info with globals := info.globals.set name x })
    | .function _ => pure ()
    | _ => Run.fault .attribute

/-- Calls a value. -/
def call : Nat → Value → List Value → Keywords → Run Value
  | 0, _, _, _ => Run.fault .recursion
  | fuel + 1, f, args, kw => do
    let w ← get
    match f with
    | .function id =>
      let some info := w.function? id | Run.fault .type
      let bound ← lift (bindArguments info.params args kw)
      if info.isAsync then return .coroutine id bound else runFunction fuel info bound
    | .bound self g =>
      match g, self, args with
      | .native .propertySetter, .property getter _, [s] => return .property getter (some s)
      | g, self, args => call fuel g (self :: args) kw
    | .partialCall g as ks => call fuel g (as ++ args) (overrideKeywords ks kw)
    | .cls c => construct fuel c args kw
    | .generic _ (.cls c) _ => construct fuel c args kw
    | .native n => callNative fuel n args kw
    | .newType _ =>
      match args, kw with
      | [x], [] => return x
      | [], [("x", x)] => return x
      | _, _ => Run.fault .type
    | .staticMethod g => call fuel g args kw
    | .instance id =>
      let some i := w.instance? id | Run.fault .type
      match w.findMember? (w.linearisation i.cls.id) "__call__" with
      | some m => call fuel (bindMember f i.cls m) args kw
      | none => Run.fault .type
    | _ => Run.fault .type

/-- Calls a function that the library provides. -/
def callNative : Nat → Native → List Value → Keywords → Run Value
  | 0, _, _, _ => Run.fault .recursion
  | fuel + 1, n, args, kw => do
    let w ← get
    match n, args, kw with
    | .len, [v], [] =>
      match v with
      | .str s | .subStr s => return .int s.length
      | .bytes bs => return .int bs.length
      | .tuple vs | .list vs => return .int vs.length
      | .dict es => return .int es.length
      | .instance id =>
        let some i := w.instance? id | Run.fault .type
        match w.findMember? (w.linearisation i.cls.id) "__len__" with
        | some m =>
          match ← call fuel (bindMember v i.cls m) [] [] with
          | .int k => if k < 0 then Run.fault .value else return .int k
          | .bool b => return .int (if b then 1 else 0)
          | _ => Run.fault .type
        | none => Run.fault .type
      | _ => Run.fault .type
    | .cast, args, kw =>
      match args ++ kw.map Prod.snd with
      | [_, v] => return v
      | _ => Run.fault .type
    | .isInstance, [v, .cls c], [] => return .bool (derivesFrom w (classOf w v) c)
    | .cacheGet c, [identifier], [] => findValue c identifier
    | .cacheGet c, [], [("identifier", identifier)] => findValue c identifier
    | .objectInit, [_], [] => return .none
    | .propertySetter, [.property getter _, s], [] => return .property getter (some s)
    | .makeInstance, [_, cls], [] => call fuel cls [] []
    | .recordedFactory failure, [attrs, cls], [] =>
      match cls with
      | .cls c => Run.record (.made (w.className c))
      | _ => pure ()
      match failure with
      | some s => throw (.scripted s)
      | none =>
        let v ← call fuel cls [] []
        match attrs with
        | .dict es => es.forM fun e => setAttr fuel v ((e.1.toStr?).getD "") e.2
        | _ => pure ()
        return v
    | .hook tag failure, v :: rest, [] =>
      let method := match rest with
        | .methodInfo _ n :: _ => some n
        | _ => none
      Run.record (.hook tag (w.className (classOf w v)) method)
      match failure with
      | some s => throw (.scripted s)
      | none => return .none
    | .decorator tag, [v], [] =>
      match v with
      | .cls c => Run.record (.decorated tag (w.className c))
      | _ => pure ()
      return v
    | _, _, _ => Run.fault .type

/-- Makes an instance of a class. -/
def construct : Nat → Named → List Value → Keywords → Run Value
  | 0, _, _, _ => Run.fault .recursion
  | fuel + 1, c, args, kw => do
    let w ← get
    let some info := w.class? c.id | Run.fault .type
    match if kw.isEmpty then makePlain? w c args else none with
    | some r => lift r
    | none =>
      if info.checksAbstract && !info.abstracts.isEmpty then Run.fault .type
      if isException w c then
        return .instance (← Run.allocate (.instance ⟨c, Table.ofList [("args", .tuple args)]⟩))
      if info.builtin && c.id ≠ Standard.object.id then Run.fault .type
      let self : Value := .instance (← Run.allocate (.instance ⟨c, {}⟩))
      match w.findMember? info.linearisation "__init__" with
      | some (.native .objectInit) =>
        if (args.isEmpty && kw.isEmpty) || info.layout ≠ 0 then return self else Run.fault .type
      | some m =>
        match ← call fuel (bindMember self c m) args kw with
        | .none => return self
        | _ => Run.fault .type
      | none => return self

/-- Runs a function whose parameters are bound. -/
def runFunction : Nat → Function → List (String × Value) → Run Value
  | 0, _, _ => Run.fault .recursion
  | fuel + 1, f, bound => do
    match f.body with
    | .script logName hasReceiver action =>
      Run.record (.call logName (if hasReceiver then bound.drop 1 else bound))
      let self : Run Value := match hasReceiver, bound with
        | true, b :: _ => pure b.2
        | _, _ => Run.fault .name
      let arg (n : String) : Run Value :=
        lift ((bound.find? fun b => b.1 == n).elim (.error .name) fun b => .ok b.2)
      match action with
      | .value v => return v
      | .arg n => arg n
      | .get a => getAttr fuel (← self) a
      | .set a n =>
        let v ← arg n
        setAttr fuel (← self) a v
        return .none
      | .incr a n =>
        let s ← self
        let old ← getAttr fuel s a
        let v ← lift (Value.binary? .add old (← arg n))
        setAttr fuel s a v
        return .none
      | .raise s => throw (.scripted s)
    | .code body privateTo captured =>
      match ← runBlock (exec fuel) (Frame.ofCall f body privateTo captured bound) body with
      | (_, .returned v) => return v
      | _ => return .none

/-- The outcome of what a call has left to be run. -/
def awaited : Nat → Value → Run Value
  | 0, _ => Run.fault .recursion
  | fuel + 1, v => do
    match v with
    | .coroutine f bound =>
      let some info := (← get).function? f | Run.fault .type
      runFunction fuel info bound
    | _ => Run.fault .type

/-- The value of an expression. -/
def eval : Nat → Frame → Expr → Run Value
  | 0, _, _ => Run.fault .recursion
  | fuel + 1, fr, e => do
    match e with
    | .name n => lift (fr.find (← get) (mangle fr.privateTo n))
    | .const c => return constantValue c
    | .attribute e n => getAttr fuel (← eval fuel fr e) (mangle fr.privateTo n)
    | .call f args kws =>
      let g ← eval fuel fr f
      match g, args, kws with
      | .cls c, [], [] =>
        if c.id = (Standard.named "super").id then
          match fr.home, fr.receiver.bind fr.vars.get? with
          | some h, some self => return .superOf h self
          | _, _ => Run.fault .runtime
        else call fuel g [] []
      | g, args, kws =>
        let vs ← evalItems fuel fr args
        let ks ← evalKeywords fuel fr kws
        call fuel g vs ks
    | .subscript e i =>
      let v ← eval fuel fr e
      let k ← eval fuel fr i
      match v with
      | .tuple _ | .list _ | .str _ | .subStr _ | .dict _ => lift (v.item? k)
      | v => lift (Hint.subscript (← get) v k)
    | .tuple es => return .tuple (← evalItems fuel fr es)
    | .list es => return .list (← evalItems fuel fr es)
    | .dict items => return Value.dictOf (← evalEntries fuel fr items)
    | .unary op e => lift (Value.unary? op (← eval fuel fr e))
    | .binary op l r =>
      let a ← eval fuel fr l
      let b ← eval fuel fr r
      lift (Value.binary? op a b)
    | .bool op es => evalBool fuel fr op es
    | .compare l rest => evalCompare fuel fr (← eval fuel fr l) rest
    | .conditional body test orElse =>
      if (← eval fuel fr test).truth then eval fuel fr body else eval fuel fr orElse
    | .await e => awaited fuel (← eval fuel fr e)
    | .spelled _ e => eval fuel fr e
    | .starred _ | .verbatim _ => Run.fault .malformed
    | .set _ | .slice _ _ _ => Run.fault .type

/-- The values of the members of a list; a starred one yields all its elements. -/
def evalItems : Nat → Frame → List Expr → Run (List Value)
  | 0, _, _ => Run.fault .recursion
  | fuel + 1, fr, es => do
    let parts ← es.mapM fun e =>
      match e with
      | .starred e => do lift (← eval fuel fr e).elements?
      | e => do return [← eval fuel fr e]
    return parts.flatten

/-- The values of arguments by name. -/
def evalKeywords : Nat → Frame → List (Option String × Expr) → Run Keywords
  | 0, _, _ => Run.fault .recursion
  | fuel + 1, fr, kws =>
    kws.foldlM (fun (acc : Keywords) k => do
      let v ← eval fuel fr k.2
      match k.1 with
      | some n => lift (addKeywords acc [(n, v)])
      | none => lift (keywordsOf v >>= addKeywords acc)) []

/-- The entries of a table. -/
def evalEntries : Nat → Frame → List (Option Expr × Expr) → Run (List (Value × Value))
  | 0, _, _ => Run.fault .recursion
  | fuel + 1, fr, items => do
    let parts ← items.mapM fun item =>
      match item.1 with
      | some k => do
        let k ← eval fuel fr k
        let v ← eval fuel fr item.2
        if isKey k then return [(k, v)] else Run.fault .type
      | none => do
        match ← eval fuel fr item.2 with
        | .dict es => return es
        | _ => Run.fault .type
    return parts.flatten

/-- The value of joined conditions: the first one that decides. -/
def evalBool : Nat → Frame → Syntax.BoolOp → List Expr → Run Value
  | 0, _, _, _ => Run.fault .recursion
  | fuel + 1, fr, op, es => do
    match es with
    | [] => return .none
    | [e] => eval fuel fr e
    | e :: r =>
      let v ← eval fuel fr e
      if v.truth = (op == .or) then return v else evalBool fuel fr op r

/-- The value of a chain of comparisons. -/
def evalCompare : Nat → Frame → Value → List (Syntax.CompareOp × Expr) → Run Value
  | 0, _, _, _ => Run.fault .recursion
  | fuel + 1, fr, a, rest => do
    match rest with
    | [] => return .bool true
    | (op, e) :: r =>
      let b ← eval fuel fr e
      if ← lift (Value.compare? op a b) then
        if r.isEmpty then return .bool true else evalCompare fuel fr b r
      else return .bool false

/-- Assigns a value to a target. -/
def assign : Nat → Frame → Expr → Value → Run Frame
  | 0, _, _, _ => Run.fault .recursion
  | fuel + 1, fr, target, v => do
    match target with
    | .name n => fr.put (mangle fr.privateTo n) v
    | .attribute e n =>
      setAttr fuel (← eval fuel fr e) (mangle fr.privateTo n) v
      return fr
    | .tuple es | .list es =>
      let vs ← lift v.elements?
      if vs.length ≠ es.length then Run.fault .value
      (es.zip vs).foldlM (fun fr (e, v) => assign fuel fr e v) fr
    | _ => Run.fault .type

/-- Records the annotation of a name. -/
def annotate : Nat → Frame → Expr → Expr → Run Frame
  | 0, _, _, _ => Run.fault .recursion
  | fuel + 1, fr, target, hint => do
    if fr.scope = .function then return fr
    let a ← eval fuel fr hint
    match target with
    | .name n =>
      let old := match fr.find (← get) "__annotations__" with
        | .ok (.dict es) => es
        | _ => []
      fr.put "__annotations__" (.dict (Value.insertEntry old (.str (mangle fr.privateTo n)) a))
    | _ => return fr

/-- Runs a statement. -/
def exec : Nat → Frame → Stmt → Run (Frame × Flow)
  | 0, _, _ => Run.fault .recursion
  | fuel + 1, fr, s => do
    match s with
    | .expr e =>
      let _ ← eval fuel fr e
      return (fr, .next)
    | .assign targets value =>
      let v ← eval fuel fr value
      let fr ← targets.foldlM (fun fr t => assign fuel fr t v) fr
      return (fr, .next)
    | .annAssign target hint value simple =>
      let fr ← match value with
        | some e => do assign fuel fr target (← eval fuel fr e)
        | none => pure fr
      if simple then return (← annotate fuel fr target hint, .next)
      else
        if fr.scope ≠ .function then
          let _ ← eval fuel fr hint
        return (fr, .next)
    | .augAssign target op value =>
      match target with
      | .attribute e n =>
        let o ← eval fuel fr e
        let old ← getAttr fuel o (mangle fr.privateTo n)
        let v ← lift (Value.binary? op old (← eval fuel fr value))
        setAttr fuel o (mangle fr.privateTo n) v
        return (fr, .next)
      | target =>
        let old ← eval fuel fr target
        let v ← lift (Value.binary? op old (← eval fuel fr value))
        return (← assign fuel fr target v, .next)
    | .returns value =>
      match value with
      | some e => return (fr, .returned (← eval fuel fr e))
      | none => return (fr, .returned .none)
    | .raise exception _ =>
      match exception with
      | some e =>
        let v ← eval fuel fr e
        match raised? (← get) v with
        | some s => throw (.scripted s)
        | none => Run.fault .type
      | none => Run.fault .runtime
    | .assert test _ =>
      if (← eval fuel fr test).truth then return (fr, .next) else Run.fault .assertion
    | .delete targets =>
      let fr ← targets.foldlM (fun fr t =>
        match t with
        | .name n => fr.remove (mangle fr.privateTo n)
        | _ => Run.fault .type) fr
      return (fr, .next)
    | .pass | .global _ | .nonlocal _ | .layout _ => return (fr, .next)
    | .break => return (fr, .broken)
    | .continue => return (fr, .continued)
    | .imports names =>
      let fr ← names.foldlM (importName fuel) fr
      return (fr, .next)
    | .importFrom module names level =>
      let context := (fr.globals.bind (← get).module?).bind ModuleInfo.context
      let package := ((fr.findGlobal (← get) "__package__").bind Value.toStr?)
      let m ← lift (importThrough (← get) context (module.getD "") true level package)
      let fr ← names.foldlM (fun fr n => do
        let w ← get
        match ((w.module? m).bind fun i => i.globals.get? n.name) <|>
            ((w.importable.get? (w.moduleName m ++ "." ++ n.name)).map Value.module) with
        | some v => fr.put (mangle fr.privateTo (n.boundAs.getD n.name)) v
        | none => Run.fault .import) fr
      return (fr, .next)
    | .branch test body orElse =>
      if (← eval fuel fr test).truth then runBlock (exec fuel) fr body
      else runBlock (exec fuel) fr orElse
    | .while test body orElse => loop fuel fr test body orElse
    | .for target iterable body orElse =>
      let vs ← lift (← eval fuel fr iterable).elements?
      forEach fuel fr target vs body orElse
    | .define isAsync name params result decorators body =>
      define fuel fr isAsync name params result decorators body
    | .class name bases keywords decorators body =>
      defineClass fuel fr name bases keywords decorators body
    | .fragment _ => Run.fault .malformed

/-- Repeats a block while a condition holds. -/
def loop : Nat → Frame → Expr → List Stmt → List Stmt → Run (Frame × Flow)
  | 0, _, _, _, _ => Run.fault .recursion
  | fuel + 1, fr, test, body, orElse => do
    if (← eval fuel fr test).truth then
      match ← runBlock (exec fuel) fr body with
      | (fr, .broken) => return (fr, .next)
      | (fr, .returned v) => return (fr, .returned v)
      | (fr, _) => loop fuel fr test body orElse
    else runBlock (exec fuel) fr orElse

/-- Runs a block for each of several values. -/
def forEach : Nat → Frame → Expr → List Value → List Stmt → List Stmt → Run (Frame × Flow)
  | 0, _, _, _, _, _ => Run.fault .recursion
  | fuel + 1, fr, target, vs, body, orElse => do
    match vs with
    | [] => runBlock (exec fuel) fr orElse
    | v :: r =>
      let fr ← assign fuel fr target v
      match ← runBlock (exec fuel) fr body with
      | (fr, .broken) => return (fr, .next)
      | (fr, .returned v) => return (fr, .returned v)
      | (fr, _) => forEach fuel fr target r body orElse

/-- Imports one module. -/
def importName : Nat → Frame → Syntax.ImportName → Run Frame
  | 0, _, _ => Run.fault .recursion
  | fuel + 1, fr, n => do
    let w ← get
    let context := (fr.globals.bind w.module?).bind ModuleInfo.context
    let m ← lift (importThrough w context n.name false 0 none)
    match n.boundAs with
    | none => fr.put (mangle fr.privateTo (Imports.topPart n.name)) (.module m)
    | some b =>
      let v ← ((Syntax.dottedParts n.name).drop 1).foldlM (fun v part => getAttr fuel v part)
        (Value.module m)
      fr.put (mangle fr.privateTo b) v

/-- Defines a function. -/
def define : Nat → Frame → Bool → String → List Syntax.Param → Option Expr → List Expr →
    List Stmt → Run (Frame × Flow)
  | 0, _, _, _, _, _, _, _ => Run.fault .recursion
  | fuel + 1, fr, isAsync, name, params, result, decorators, body => do
    let ds ← decorators.mapM (eval fuel fr)
    let defaults ← params.mapM fun p => p.default.mapM (eval fuel fr)
    let annotationOf (p : Syntax.Param) : Run (String × Option Value) := do
      return (p.name, ← p.hint.mapM (eval fuel fr))
    let ofKind (k : Syntax.ParamKind) : List Syntax.Param := params.filter fun p => p.kind = k
    let evaluated ← ([Syntax.ParamKind.positionalOrKeyword, .positionalOnly, .varPositional,
      .keywordOnly, .varKeyword].flatMap ofKind).mapM annotationOf
    let returns ← result.mapM (eval fuel fr)
    let parameters := (params.zip defaults).map fun (p, d) =>
      { name := mangle fr.privateTo p.name
        kind := p.kind
        hint := (evaluated.find? fun e => e.1 == p.name).bind Prod.snd
        default := d : Parameter }
    let captured := if fr.scope = .function then fr.captured.union fr.vars else fr.captured
    let id ← Run.allocate (.function
      { name := name
        qualname := fr.qualifier ++ name
        params := parameters
        returns := returns
        isAsync := isAsync
        globals := fr.globals
        body := .code body fr.privateTo captured })
    let v ← ds.foldrM (fun d v => call fuel d [v] []) (Value.function id)
    let fr := { fr with made := fr.made ++ [id] }
    return (← fr.put (mangle fr.privateTo name) v, .next)

/-- Defines a class. -/
def defineClass : Nat → Frame → String → List Expr → List (Option String × Expr) → List Expr →
    List Stmt → Run (Frame × Flow)
  | 0, _, _, _, _, _, _ => Run.fault .recursion
  | fuel + 1, fr, name, bases, keywords, decorators, body => do
    let ds ← decorators.mapM (eval fuel fr)
    let bs ← evalItems fuel fr bases
    let ks ← evalKeywords fuel fr keywords
    if ks.any fun k => k.1 != "metaclass" then Run.fault .type
    let inner : Frame :=
      { scope := .cls
        globals := fr.globals
        captured := if fr.scope = .function then fr.captured.union fr.vars else fr.captured
        privateTo := some name
        qualifier := fr.qualifier ++ name ++ "." }
    let (inner, _) ← runBlock (exec fuel) inner body
    let text (key fallback : String) : String :=
      ((inner.vars.get? key).bind Value.toStr?).getD fallback
    let c ← makeClass
      { name := name
        qualname := text "__qualname__" (fr.qualifier ++ name)
        module := text "__module__" (fr.moduleName (← get))
        bases := bs
        members := inner.vars }
    settle c.id inner.made
    let v ← ds.foldrM (fun d v => call fuel d [v] []) (Value.cls c)
    return (← fr.put (mangle fr.privateTo name) v, .next)

end

/-- Runs the body of a module. -/
def runModule (module : Nat) (body : List Stmt) : Run Unit := do
  let _ ← runBlock (exec depth) { scope := .module, globals := some module } body
  return ()

end Facade.Execution
