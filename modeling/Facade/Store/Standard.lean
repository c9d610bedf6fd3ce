import Facade.Store.World

/-!
# The standard library

The classes and modules that every world starts with.

* `Standard.classes`: the classes, each at a fixed number.
* `Standard.named`: the class of a given module and name.
* `Standard.world`: the world before anything has been defined.
* `classOf`: the class of a value.
-/

namespace Facade.Standard

/-- A class of the standard library. -/
structure ClassSpec where
  /-- The module that declares it. -/
  module : String
  /-- Its name. -/
  name : String
  /-- The names of its ancestors, nearest first, the root class left out. -/
  ancestors : List String := []
  /-- It can be subscripted by anything. -/
  generic : Bool := false
  /-- No class can derive from it. -/
  final : Bool := false
  /-- Its instances have a layout of their own. -/
  ownLayout : Bool := false
  /-- Abstract methods keep it from being instantiated. -/
  checksAbstract : Bool := false

/-- The standard classes. -/
def classes : List ClassSpec :=
  let b := "builtins"
  let abc := "collections.abc"
  let exc (name : String) (ancestors : List String) : ClassSpec :=
    { module := b, name := name, ancestors := ancestors ++ ["BaseException"], ownLayout := false }
  let abstractClass (name : String) (ancestors : List String) (generic : Bool) : ClassSpec :=
    { module := abc, name := name, ancestors := ancestors, generic := generic,
      checksAbstract := true }
  [ { module := b, name := "object" },
    { module := b, name := "type", generic := true, ownLayout := true },
    { module := b, name := "int", ownLayout := true },
    { module := b, name := "bool", ancestors := ["int"], final := true },
    { module := b, name := "float", ownLayout := true },
    { module := b, name := "complex", ownLayout := true },
    { module := b, name := "str", ownLayout := true },
    { module := b, name := "bytes", ownLayout := true },
    { module := b, name := "list", generic := true, ownLayout := true },
    { module := b, name := "dict", generic := true, ownLayout := true },
    { module := b, name := "set", generic := true, ownLayout := true },
    { module := b, name := "frozenset", generic := true, ownLayout := true },
    { module := b, name := "tuple", generic := true, ownLayout := true },
    { module := b, name := "range", final := true, ownLayout := true },
    { module := b, name := "NoneType", final := true },
    { module := b, name := "ellipsis", final := true },
    { module := b, name := "function", final := true, ownLayout := true },
    { module := b, name := "method", final := true, ownLayout := true },
    { module := b, name := "builtin_function_or_method", final := true, ownLayout := true },
    { module := b, name := "coroutine", final := true, ownLayout := true },
    { module := b, name := "module", ownLayout := true },
    { module := b, name := "property", ownLayout := true },
    { module := b, name := "staticmethod", ownLayout := true },
    { module := b, name := "classmethod", ownLayout := true },
    { module := b, name := "super", ownLayout := true },
    { module := b, name := "BaseException", ownLayout := true },
    exc "Exception" [],
    exc "ValueError" ["Exception"],
    exc "TypeError" ["Exception"],
    exc "LookupError" ["Exception"],
    exc "KeyError" ["LookupError", "Exception"],
    exc "IndexError" ["LookupError", "Exception"],
    exc "AttributeError" ["Exception"],
    exc "NameError" ["Exception"],
    exc "UnboundLocalError" ["NameError", "Exception"],
    exc "RuntimeError" ["Exception"],
    exc "RecursionError" ["RuntimeError", "Exception"],
    exc "NotImplementedError" ["RuntimeError", "Exception"],
    exc "AssertionError" ["Exception"],
    exc "ImportError" ["Exception"],
    exc "ModuleNotFoundError" ["ImportError", "Exception"],
    exc "OSError" ["Exception"],
    exc "FileNotFoundError" ["OSError", "Exception"],
    exc "ArithmeticError" ["Exception"],
    exc "ZeroDivisionError" ["ArithmeticError", "Exception"],
    exc "OverflowError" ["ArithmeticError", "Exception"],
    exc "StopIteration" ["Exception"],
    exc "SyntaxError" ["Exception"],
    exc "IndentationError" ["SyntaxError", "Exception"],
    exc "UnicodeError" ["ValueError", "Exception"],
    exc "UnicodeEncodeError" ["UnicodeError", "ValueError", "Exception"],
    exc "PermissionError" ["OSError", "Exception"],
    exc "TimeoutError" ["OSError", "Exception"],
    exc "ConnectionError" ["OSError", "Exception"],
    exc "MemoryError" ["Exception"],
    exc "Warning" ["Exception"],
    exc "SystemExit" [],
    exc "KeyboardInterrupt" [],
    { module := "decimal", name := "Decimal", ownLayout := true },
    { module := "pathlib", name := "PurePath" },
    { module := "pathlib", name := "PurePosixPath", ancestors := ["PurePath"] },
    { module := "pathlib", name := "Path", ancestors := ["PurePath"] },
    { module := "pathlib", name := "PosixPath", ancestors := ["Path", "PurePosixPath", "PurePath"] },
    { module := "uuid", name := "UUID" },
    { module := "datetime", name := "date", ownLayout := true },
    { module := "datetime", name := "datetime", ancestors := ["date"], ownLayout := true },
    { module := "datetime", name := "time", ownLayout := true },
    { module := "datetime", name := "timedelta", ownLayout := true },
    { module := "collections", name := "deque", generic := true, ownLayout := true },
    { module := "collections", name := "OrderedDict", ancestors := ["dict"], generic := true,
      ownLayout := true },
    { module := "collections", name := "defaultdict", ancestors := ["dict"], generic := true,
      ownLayout := true },
    { module := "collections", name := "Counter", ancestors := ["dict"], generic := true },
    { module := "collections", name := "ChainMap", generic := true, checksAbstract := true },
    abstractClass "Hashable" [] false,
    abstractClass "Sized" [] false,
    abstractClass "Awaitable" [] true,
    abstractClass "Coroutine" ["Awaitable"] true,
    abstractClass "AsyncIterable" [] true,
    abstractClass "AsyncIterator" ["AsyncIterable"] true,
    abstractClass "AsyncGenerator" ["AsyncIterator", "AsyncIterable"] true,
    abstractClass "Iterable" [] true,
    abstractClass "Iterator" ["Iterable"] true,
    abstractClass "Generator" ["Iterator", "Iterable"] true,
    abstractClass "Reversible" ["Iterable"] true,
    abstractClass "Container" [] true,
    abstractClass "Collection" ["Sized", "Iterable", "Container"] true,
    abstractClass "Callable" [] true,
    abstractClass "Set" ["Collection", "Sized", "Iterable", "Container"] true,
    abstractClass "MutableSet" ["Set", "Collection", "Sized", "Iterable", "Container"] true,
    abstractClass "Mapping" ["Collection", "Sized", "Iterable", "Container"] true,
    abstractClass "MutableMapping" ["Mapping", "Collection", "Sized", "Iterable", "Container"] true,
    abstractClass "Sequence"
      ["Reversible", "Collection", "Sized", "Iterable", "Container"] true,
    abstractClass "MutableSequence"
      ["Sequence", "Reversible", "Collection", "Sized", "Iterable", "Container"] true,
    abstractClass "ByteString"
      ["Sequence", "Reversible", "Collection", "Sized", "Iterable", "Container"] false,
    abstractClass "MappingView" ["Sized"] true,
    abstractClass "KeysView" ["MappingView", "Set", "Collection", "Sized", "Iterable",
      "Container"] true,
    abstractClass "ItemsView" ["MappingView", "Set", "Collection", "Sized", "Iterable",
      "Container"] true,
    abstractClass "ValuesView" ["MappingView", "Collection", "Sized", "Iterable",
      "Container"] true,
    { module := "contextlib", name := "AbstractContextManager", generic := true,
      checksAbstract := true },
    { module := "contextlib", name := "AbstractAsyncContextManager", generic := true,
      checksAbstract := true },
    { module := "re", name := "Pattern", generic := true, ownLayout := true },
    { module := "re", name := "Match", generic := true, ownLayout := true },
    { module := "abc", name := "ABC", checksAbstract := true },
    { module := "inspect", name := "_empty" },
    { module := "typing", name := "Any" },
    { module := "typing", name := "Annotated" },
    { module := "typing", name := "Generic" },
    { module := "typing", name := "Protocol", ancestors := ["Generic"], checksAbstract := true },
    { module := "typing", name := "NewType" },
    { module := "typing", name := "TypeVar" },
    { module := "typing", name := "ForwardRef" },
    { module := "typing", name := "_GenericAlias" },
    { module := "typing", name := "_SpecialForm" },
    { module := "typing_extensions", name := "TypeAliasType" },
    { module := "types", name := "GenericAlias" },
    { module := "types", name := "UnionType", final := true },
    { module := "functools", name := "partial", generic := true, ownLayout := true },
    { module := "typeforge.introspect", name := "MethodInfo" },
    { module := "typeforge.value_cache", name := "ValueCache" },
    { module := "__main__", name := "Opaque" },
    { module := "__main__", name := "SubInt", ancestors := ["int"] },
    { module := "__main__", name := "SubStr", ancestors := ["str"] } ]

/-- The standard class of a name; several modules may declare the same name. -/
def namedIn (module name : String) : Named :=
  ⟨(classes.findIdx? fun c => c.module == module && c.name == name).getD 0, module, name⟩

/-- The standard class of a name that only one module declares. -/
def named (name : String) : Named :=
  match classes.findIdx? fun c => c.name == name with
  | some i => ⟨i, ((classes[i]?).map ClassSpec.module).getD "builtins", name⟩
  | none => ⟨0, "builtins", "object"⟩

/-- The root class. -/
def object : Named := ⟨0, "builtins", "object"⟩

/-- The class of classes. -/
def type : Named := ⟨1, "builtins", "type"⟩

/-- The class of the value that means absence. -/
def noneType : Named := named "NoneType"

/-- The marker of a missing annotation or default. -/
def empty : Value := .cls (named "_empty")

/-- The annotation that stands for anything. -/
def any : Value := .cls (named "Any")

/-- The class that generic classes derive from. -/
def generic : Named := named "Generic"

/-! ## Special forms -/

/-- The special aliases without arguments: their names, the classes they stand for, and how many
arguments they take, if the number is fixed. -/
def aliases : List (String × String × Option Nat) :=
  [("List", "list", some 1), ("Dict", "dict", some 2), ("Set", "set", some 1),
   ("FrozenSet", "frozenset", some 1), ("Tuple", "tuple", none), ("Type", "type", some 1),
   ("Deque", "deque", some 1), ("DefaultDict", "defaultdict", some 2),
   ("OrderedDict", "OrderedDict", some 2), ("Counter", "Counter", some 1),
   ("ChainMap", "ChainMap", some 2), ("Callable", "Callable", none),
   ("Hashable", "Hashable", some 0), ("Sized", "Sized", some 0),
   ("Awaitable", "Awaitable", some 1), ("Coroutine", "Coroutine", some 3),
   ("AsyncIterable", "AsyncIterable", some 1), ("AsyncIterator", "AsyncIterator", some 1),
   ("AsyncGenerator", "AsyncGenerator", some 2), ("Iterable", "Iterable", some 1),
   ("Iterator", "Iterator", some 1), ("Generator", "Generator", some 3),
   ("Reversible", "Reversible", some 1), ("Container", "Container", some 1),
   ("Collection", "Collection", some 1), ("AbstractSet", "Set", some 1),
   ("MutableSet", "MutableSet", some 1), ("Mapping", "Mapping", some 2),
   ("MutableMapping", "MutableMapping", some 2), ("Sequence", "Sequence", some 1),
   ("MutableSequence", "MutableSequence", some 1), ("ByteString", "ByteString", some 0),
   ("MappingView", "MappingView", some 1), ("KeysView", "KeysView", some 1),
   ("ItemsView", "ItemsView", some 2), ("ValuesView", "ValuesView", some 1),
   ("ContextManager", "AbstractContextManager", some 1),
   ("AsyncContextManager", "AbstractAsyncContextManager", some 1),
   ("Pattern", "Pattern", some 1), ("Match", "Match", some 1)]

/-- The class that a special alias stands for. -/
def aliasClass? (name : String) : Option Named :=
  (aliases.find? fun a => a.1 == name).map fun a =>
    if a.1 == "Set" || a.1 == "FrozenSet" then named a.2.1
    else if a.2.1 == "Set" || a.2.1 == "Callable" then namedIn "collections.abc" a.2.1
    else named a.2.1

/-- The special forms that are no aliases. -/
def forms : List String :=
  ["Union", "Optional", "Literal", "ClassVar", "Final", "Self", "NoReturn", "Never",
   "LiteralString", "TypeAlias", "TypeGuard", "Required", "NotRequired", "Concatenate", "Unpack"]

/-- The special forms that can stand as arguments on their own. -/
def plainForms : List String := ["LiteralString", "NoReturn", "Never", "Self", "TypeAlias"]

/-! ## Modules -/

/-- A module of the standard library: its name, the file below the library's directory, and whether
it is a package. A module without a file is part of the interpreter. -/
structure ModuleSpec where
  /-- Its name. -/
  name : String
  /-- Its file below the library's directory. -/
  file : Option String := none
  /-- It is a package. -/
  isPackage : Bool := false

/-- A module in a file of its own. -/
def fileModule (name : String) : ModuleSpec :=
  { name := name, file := some (name.replace "." "/" ++ ".py") }

/-- A module in a directory. -/
def packageModule (name : String) : ModuleSpec :=
  { name := name, file := some (name.replace "." "/" ++ "/__init__.py"), isPackage := true }

/-- The standard modules that are loaded from the start or can be imported. -/
def modules : List ModuleSpec :=
  [ { name := "builtins" }, { name := "sys" }, fileModule "typing", fileModule "types",
    fileModule "decimal", fileModule "pathlib", fileModule "uuid", fileModule "datetime",
    packageModule "collections",
    { name := "collections.abc", file := some "collections/abc.py" },
    fileModule "inspect", fileModule "functools", fileModule "contextlib", packageModule "re",
    fileModule "abc", packageModule "json", fileModule "os",
    fileModule "posixpath", fileModule "enum",
    fileModule "dataclasses", packageModule "asyncio", { name := "itertools" },
    { name := "math" }, { name := "time" }, fileModule "random", fileModule "string",
    fileModule "copy", fileModule "operator", fileModule "io", fileModule "textwrap",
    fileModule "warnings", fileModule "threading", packageModule "logging", fileModule "keyword",
    fileModule "secrets", fileModule "tempfile", fileModule "linecache", packageModule "importlib",
    fileModule "ast", fileModule "numbers", fileModule "fractions", fileModule "statistics",
    fileModule "hashlib", fileModule "base64", fileModule "heapq", fileModule "bisect",
    fileModule "weakref", fileModule "shutil", fileModule "glob", fileModule "fnmatch",
    fileModule "subprocess", fileModule "socket", fileModule "struct", fileModule "pickle",
    fileModule "csv", fileModule "pprint", fileModule "traceback", fileModule "argparse",
    packageModule "tomllib", packageModule "unittest", packageModule "email", packageModule "http",
    packageModule "urllib", packageModule "xml", packageModule "html", packageModule "sqlite3",
    packageModule "concurrent", packageModule "multiprocessing", fileModule "locale",
    fileModule "calendar", fileModule "zipfile", fileModule "tarfile", fileModule "gzip",
    fileModule "platform", fileModule "getpass", fileModule "queue", fileModule "sched",
    fileModule "signal", fileModule "ssl", fileModule "stat", fileModule "timeit",
    fileModule "token", fileModule "tokenize", fileModule "zoneinfo", fileModule "array",
    { name := "gc" }, { name := "errno" }, { name := "marshal" }, { name := "atexit" },
    fileModule "json.decoder", fileModule "json.encoder", fileModule "importlib.util",
    fileModule "importlib.machinery", packageModule "importlib.metadata",
    fileModule "logging.handlers", fileModule "logging.config", packageModule "concurrent.futures",
    fileModule "urllib.parse", fileModule "urllib.request", fileModule "urllib.error",
    fileModule "email.message", fileModule "html.parser", fileModule "http.client",
    fileModule "http.server", packageModule "xml.etree", fileModule "xml.etree.ElementTree",
    fileModule "unittest.mock", fileModule "asyncio.tasks", fileModule "asyncio.events" ]

/-- The modules that are part of the interpreter. -/
def interpreterModules : List String :=
  ["_abc", "_ast", "_codecs", "_collections", "_functools", "_imp", "_io", "_locale",
   "_operator", "_signal", "_sre", "_stat", "_string", "_symtable", "_thread", "_tracemalloc",
   "_typing", "_warnings", "_weakref", "atexit", "builtins", "errno", "faulthandler", "gc",
   "itertools", "marshal", "posix", "pwd", "sys", "time", "xxsubtype"]

/-- Where the standard library lives. -/
def libraryDir : String := "<stdlib>"

/-! ## The first world -/

/-- The abstract members of the standard classes that have some. -/
def abstractMembers : List (String × List String) :=
  [("Hashable", ["__hash__"]), ("Sized", ["__len__"]), ("Awaitable", ["__await__"]),
   ("Coroutine", ["__await__", "send", "throw"]), ("AsyncIterable", ["__aiter__"]),
   ("AsyncIterator", ["__anext__"]), ("AsyncGenerator", ["asend", "athrow"]),
   ("Iterable", ["__iter__"]), ("Iterator", ["__next__"]), ("Generator", ["send", "throw"]),
   ("Reversible", ["__iter__", "__reversed__"]), ("Container", ["__contains__"]),
   ("Collection", ["__contains__", "__iter__", "__len__"]), ("Callable", ["__call__"]),
   ("Set", ["__contains__", "__iter__", "__len__"]),
   ("MutableSet", ["__contains__", "__iter__", "__len__", "add", "discard"]),
   ("Mapping", ["__getitem__", "__iter__", "__len__"]),
   ("MutableMapping", ["__delitem__", "__getitem__", "__iter__", "__len__", "__setitem__"]),
   ("Sequence", ["__getitem__", "__len__"]),
   ("MutableSequence", ["__delitem__", "__getitem__", "__len__", "__setitem__", "insert"]),
   ("ByteString", ["__getitem__", "__len__"]),
   ("AbstractContextManager", ["__exit__"]), ("AbstractAsyncContextManager", ["__aexit__"])]

/-- The abstract members of a standard class. -/
def abstractsOf (c : ClassSpec) : List String :=
  if c.checksAbstract then
    ((abstractMembers.find? fun e => e.1 == c.name).map Prod.snd).getD []
  else []

/-- The description of a standard class. -/
def classInfo (i : Nat) (c : ClassSpec) : ClassInfo :=
  let self : Named := ⟨i, c.module, c.name⟩
  let lookupNamed (n : String) : Named :=
    if c.module == "collections.abc" then namedIn "collections.abc" n else named n
  let ancestors := c.ancestors.map lookupNamed
  let root := if i = 0 then [] else [object]
  let members : Table String Value :=
    if i = 0 then Table.ofList [("__init__", .native .objectInit), ("__doc__", .none)]
    else Table.ofList [("__doc__", .none)]
  let layoutOwner := if c.ownLayout then i
    else ((c.ancestors.findSome? fun a =>
      (classes.find? fun d => d.name == a && d.ownLayout).map fun d => (named d.name).id)).getD 0
  { named := self
    name := c.name
    bases := (ancestors.take 1) ++ (if ancestors.isEmpty then root else [])
    linearisation := self :: (ancestors ++ root)
    members := members
    subscripting := if c.generic then .anything else .refused
    checksAbstract := c.checksAbstract
    abstracts := abstractsOf c
    builtin := true
    final := c.final
    layout := layoutOwner }

/-- The functions that can be used without import. -/
def builtinFunctions : List (String × Value) :=
  [("len", .native .len), ("isinstance", .native .isInstance), ("Ellipsis", .ellipsis),
   ("__name__", .str "builtins")]

/-- The members of a standard module. -/
def members (name : String) : Table String Value :=
  let classMembers := (classes.filter fun c => c.module == name).map fun c =>
    (c.name, Value.cls (namedIn c.module c.name))
  let more := match name with
    | "builtins" => builtinFunctions
    | "typing" =>
      aliases.map (fun a => (a.1, Value.special a.1)) ++
        forms.map (fun f => (f, Value.special f)) ++
        [("cast", .native .cast), ("Text", .cls (named "str"))]
    | "types" => [("NoneType", .cls noneType)]
    | _ => []
  let hidden := ["ellipsis", "function", "method", "builtin_function_or_method", "coroutine",
    "module", "NoneType"]
  let classMembers := if name == "builtins" then
    classMembers.filter fun c => !hidden.contains c.1 else classMembers
  Table.ofList (classMembers ++ more ++ [("__name__", .str name)])

/-- The description of a standard module. -/
def moduleInfo (m : ModuleSpec) : ModuleInfo :=
  let globals := members m.name
  let globals := match m.file with
    | some f => globals.set "__file__" (.str (libraryDir ++ "/" ++ f))
    | none => globals
  { name := m.name
    globals := globals
    origin := match m.file with
      | some f => some (libraryDir ++ "/" ++ f)
      | none => some "built-in"
    isPackage := m.isPackage }

/-- The module that a dotted name is the last part of, and that part. -/
def splitLast (name : String) : String × String :=
  let parts := Syntax.dottedParts name
  (".".intercalate parts.dropLast, parts.getLast?.getD "")

/-- Makes a module a member of its package. -/
def link (importable : Table String Nat) (objects : Array Object) (name : String) :
    Array Object :=
  let (parent, last) := splitLast name
  match importable.get? parent, importable.get? name with
  | some p, some c =>
    match objects[p]? with
    | some (.module m) =>
      objects.setIfInBounds p (.module { m with globals := m.globals.set last (.module c) })
    | _ => objects
  | _, _ => objects

/-- The world before anything has been defined. -/
def world : World :=
  let classObjects := classes.mapIdx fun i c => Object.cls (classInfo i c)
  let moduleObjects := modules.map fun m => Object.module (moduleInfo m)
  let names := modules.mapIdx fun i m => (m.name, classes.length + i)
  let others := [("os.path", "posixpath")].filterMap fun (other, name) =>
    (names.find? fun e => e.1 == name).map fun e => (other, e.2)
  let importable : Table String Nat := ⟨names ++ others⟩
  { objects := importable.keys.foldl (link importable) (classObjects ++ moduleObjects).toArray
    importable := importable }

end Facade.Standard

namespace Facade

/-- The class of a value. -/
def classOf (w : World) : Value → Named
  | .none => Standard.noneType
  | .ellipsis => Standard.named "ellipsis"
  | .bool _ => Standard.named "bool"
  | .int _ => Standard.named "int"
  | .float _ => Standard.named "float"
  | .complex _ _ => Standard.named "complex"
  | .str _ => Standard.named "str"
  | .bytes _ => Standard.named "bytes"
  | .uuid _ => Standard.named "UUID"
  | .path _ => Standard.named "PosixPath"
  | .purePath _ => Standard.named "PurePosixPath"
  | .moment m => Standard.namedIn "datetime" m.className
  | .subInt _ => Standard.named "SubInt"
  | .subStr _ => Standard.named "SubStr"
  | .opaqueObj _ _ => Standard.named "Opaque"
  | .tuple _ => Standard.named "tuple"
  | .list _ => Standard.named "list"
  | .dict _ => Standard.named "dict"
  | .cls _ => Standard.type
  | .newType _ => Standard.named "NewType"
  | .typeAlias _ => Standard.named "TypeAliasType"
  | .typeVar _ _ => Standard.named "TypeVar"
  | .special _ => Standard.named "_SpecialForm"
  | .generic .plain _ _ => Standard.named "GenericAlias"
  | .generic (.special _) _ _ => Standard.named "_GenericAlias"
  | .pipe _ => Standard.named "UnionType"
  | .annotated _ _ => Standard.named "_GenericAlias"
  | .forward _ => Standard.named "ForwardRef"
  | .instance id => ((w.instance? id).map InstanceInfo.cls).getD Standard.object
  | .function _ => Standard.named "function"
  | .module _ => Standard.named "module"
  | .bound _ _ => Standard.named "method"
  | .partialCall _ _ _ => Standard.named "partial"
  | .property _ _ => Standard.named "property"
  | .staticMethod _ => Standard.named "staticmethod"
  | .classMethod _ => Standard.named "classmethod"
  | .native (.hook _ _) | .native (.decorator _) => Standard.named "function"
  | .native _ => Standard.named "builtin_function_or_method"
  | .superOf _ _ => Standard.named "super"
  | .coroutine _ _ => Standard.named "coroutine"
  | .cache _ => Standard.named "ValueCache"
  | .methodInfo _ _ => Standard.named "MethodInfo"

/-- The name of an object of which nothing else is known. -/
def World.opaqueName (w : World) : Value → String
  | .opaqueObj _ name => name
  | .instance id =>
    (((w.instance? id).bind fun i => i.attrs.get? "name").bind Value.toStr?).getD ""
  | _ => ""

/-- The short name of a class. -/
def World.className (w : World) (c : Named) : String :=
  ((w.class? c.id).map ClassInfo.name).getD c.qualname

/-- The import path of a declared name; built-in ones stand alone. -/
def Named.path (n : Named) : String :=
  if n.module == "builtins" then n.qualname else n.module ++ "." ++ n.qualname

end Facade
