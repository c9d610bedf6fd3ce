import Facade.Execution.Eval

/-!
# Signatures

* `isCallable`: whether a value can be called.
* `signature?`: the parameters that calling a value takes, and the annotation of its result.
* `bindPart?`: the parameters that a partial call fills.
* `partialSignature?`: the signature that is left by a partial call.
-/

namespace Facade.Describe

open Syntax (ParamKind)

/-- The parameters of a callable and the annotation of its result. -/
structure Signature where
  /-- The parameters. -/
  params : List Parameter := []
  /-- The annotation of the result, if there is one. -/
  returns : Option Value := none
  deriving Repr, Inhabited

/-- The member of a value's class through which the value is called. -/
def callMember? (w : World) (v : Value) : Option Value :=
  w.findMember? (w.linearisation (classOf w v).id) "__call__"

/-- Whether a value can be called. -/
def isCallable (w : World) (v : Value) : Bool :=
  match v with
  | .function _ | .bound _ _ | .partialCall _ _ _ | .cls _ | .newType _ | .native _
  | .staticMethod _ | .generic _ _ _ | .special _ | .typeAlias _ => true
  | .instance _ => (callMember? w v).isSome
  | _ => false

/-! ## Partial calls -/

/-- The parameters that arguments by position fill, and the parameters that are left. Too many
arguments, and one that is given by name as well, are refused. -/
def fillPositions (kw : Keywords) :
    List Parameter → List Value → Option (List (String × Value) × List Parameter)
  | ps, [] => some ([], ps)
  | [], _ :: _ => none
  | p :: ps, v :: vs =>
    match p.kind with
    | .keywordOnly | .varKeyword => none
    | .varPositional => some ([(p.name, .tuple (v :: vs))], ps)
    | .positionalOrKeyword =>
      if kw.any fun k => k.1 == p.name then none
      else (fillPositions kw ps vs).map fun r => ((p.name, v) :: r.1, r.2)
    | .positionalOnly => (fillPositions kw ps vs).map fun r => ((p.name, v) :: r.1, r.2)

/-- The parameters that arguments by name fill. -/
def fillNames (kw : Keywords) (ps : List Parameter) : Option (List (String × Value)) :=
  let named := ps.filter fun p => !p.kind.isVariadic
  if named.any fun p => p.kind = .positionalOnly && kw.any fun k => k.1 == p.name then none
  else
    let filled := named.filterMap fun p => kw.find? fun k => k.1 == p.name
    let left := kw.filter fun k => !(named.any fun p => p.name == k.1)
    if left.isEmpty then some filled
    else match ps.find? fun p => p.kind = .varKeyword with
      | some p => some (filled ++ [(p.name, Value.dictOfNames left)])
      | none => none

/-- The parameters that a partial call fills. -/
def bindPart? (ps : List Parameter) (args : List Value) (kw : Keywords) :
    Option (List (String × Value)) := do
  let (filled, left) ← fillPositions kw ps args
  return filled ++ (← fillNames kw left)

/-- What a partial call leaves of a parameter list: in order, and moved to the end. -/
structure Remainder where
  /-- The parameters that keep their place. -/
  kept : List Parameter := []
  /-- The parameters that can be given by name only from now on, and those that follow them. -/
  moved : List Parameter := []
  /-- Whether parameters are moved from here on. -/
  moving : Bool := false

/-- Takes one parameter over. What is filled by position goes away; what is filled by name keeps the
value as its default, and it and everything after it can be given by name only. -/
def Remainder.take (bound : List (String × Value)) (kw : Keywords) (r : Remainder)
    (p : Parameter) : Remainder :=
  let given := (bound.find? fun b => b.1 == p.name).map Prod.snd
  let keep (r : Remainder) (p : Parameter) : Remainder :=
    if r.moving then { r with moved := r.moved ++ [p] } else { r with kept := r.kept ++ [p] }
  match p.kind, given with
  | .positionalOnly, some _ => r
  | .positionalOnly, none => keep r p
  | .positionalOrKeyword, some v =>
    if kw.any fun k => k.1 == p.name then
      keep { r with moving := true } { p with kind := .keywordOnly, default := some v }
    else r
  | .positionalOrKeyword, none =>
    keep r (if r.moving then { p with kind := .keywordOnly } else p)
  | .keywordOnly, given => keep r { p with default := given <|> p.default }
  | .varPositional, _ => if r.moving then r else keep r p
  | .varKeyword, _ => keep r p

/-- The signature that is left by a partial call; there may be none. -/
def partialSignature? (s : Signature) (args : List Value) (kw : Keywords) : Option Signature := do
  let bound ← bindPart? s.params args kw
  let r := s.params.foldl (Remainder.take bound kw) {}
  return { s with params := r.kept ++ r.moved }

/-! ## Signatures -/

/-- A signature without its first parameter, which an instance fills. -/
def dropReceiver? (s : Signature) : Option Signature :=
  match s.params with
  | [] => none
  | p :: r =>
    match p.kind with
    | .varPositional => some s
    | .keywordOnly | .varKeyword => none
    | _ => some { s with params := r }

/-- The signatures of the standard classes that have one. -/
def standardSignature? (c : Named) : Option Signature :=
  let positional (n : String) (d : Value) : Parameter :=
    { name := n, kind := .positionalOnly, default := some d }
  let named (n : String) (d : Value) : Parameter := { name := n, default := some d }
  match c.path with
  | "object" => some {}
  | "float" => some ⟨[positional "x" (.int 0)], none⟩
  | "complex" => some ⟨[named "real" (.int 0), named "imag" (.int 0)], none⟩
  | "list" | "tuple" => some ⟨[positional "iterable" (.tuple [])], none⟩
  | "decimal.Decimal" => some ⟨[named "value" (.str "0"), named "context" .none], none⟩
  | "pathlib.Path" =>
    some ⟨[{ name := "args", kind := .varPositional }, { name := "kwargs", kind := .varKeyword }],
      none⟩
  | _ => if c.module == "collections.abc" then some {} else none

/-- The signature of a value that can be called; some have none. -/
def signature? (w : World) : Nat → Value → Option Signature
  | 0, _ => none
  | fuel + 1, v =>
    match v with
    | .function f => do
      let info ← w.function? f
      if info.hasSignature then return ⟨info.params, info.returns⟩ else none
    | .bound _ f => (signature? w fuel f).bind dropReceiver?
    | .staticMethod f => signature? w fuel f
    | .partialCall f args kw => do
      let s ← signature? w fuel f
      partialSignature? s args kw
    | .native .len => some ⟨[{ name := "obj", kind := .positionalOnly }], none⟩
    | .instance _ => do
      let m ← callMember? w v
      let s ← signature? w fuel m
      match m with
      | .staticMethod _ => return s
      | _ => dropReceiver? s
    | .cls c => do
      let info ← w.class? c.id
      match info.linearisation.findSome? fun a =>
          (w.class? a.id).bind fun i => i.members.get? "__init__" with
      | some (.function f) => (signature? w fuel (.function f)).bind dropReceiver?
      | _ =>
        if info.builtin then standardSignature? c
        else if info.layout = 0 then some {} else none
    | _ => none

end Facade.Describe
