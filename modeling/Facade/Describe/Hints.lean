import Facade.Describe.Signature

/-!
# Hints

Annotations in which every text has been replaced by the type that it stands for.

* `resolve`: evaluates all texts inside an annotation.
* `strip`: an annotation without metadata.
* `typeHints`: the hints of a function or a class. If one of them names something unknown there are
  none at all; a text that is no expression is a fault.
-/

namespace Facade.Describe

open Facade.Execution

/-- A text among the arguments of a class's alias becomes a reference. -/
def asReference (v : Value) : Except Fault Value :=
  match v with
  | .str s | .subStr s => Hint.forwardRef s
  | v => .ok v

/-- The parts of an annotation in which texts are looked for. -/
def partsOf : Value → List Value
  | .generic _ _ as | .pipe as => as
  | .annotated o _ => [o]
  | _ => []

/-- An annotation with other parts. -/
def withParts (v : Value) (ps : List Value) : Except Fault Value :=
  match v with
  | .generic _ (.special "Union") _ => Hint.union ps
  | .generic f o _ => .ok (.generic f o ps)
  | .pipe _ =>
    match ps with
    | [] => .error .type
    | p :: r => r.foldlM Hint.unite p
  | .annotated _ ms =>
    match ps with
    | [.annotated o ns] => .ok (.annotated o (ns ++ ms))
    | [p] => .ok (.annotated p ms)
    | _ => .error .type
  | v => .ok v

/-- Evaluates a text, and then what stands inside the type that the text stands for. -/
def refer (inside : List String → Value → Run Value) (fr : Frame) (seen : List String) (s : String)
    (inClass : Bool) : Run Value := do
  let source := match s.toList with
    | '*' :: _ => "(" ++ s ++ ",)[0]"
    | _ => s
  match Syntax.readExpr source with
  | .error _ => Run.fault .malformed
  | .ok e =>
    let t ← lift (Hint.check inClass (← eval depth fr e))
    inside (s :: seen) t

/-- Evaluates all texts inside an annotation. Texts in `seen` are being evaluated and stay. -/
def resolve : Nat → Frame → List String → Value → Run Value
  | 0, _, _, _ => Run.fault .recursion
  | fuel + 1, fr, seen, v => do
    match v with
    | .forward s =>
      if seen.contains s then return v
      else refer (resolve fuel fr) fr seen s false
    | v =>
      let parts ← match v with
        | .generic .plain _ as => lift (as.mapM asReference)
        | v => pure (partsOf v)
      let resolved ← parts.mapM (resolve fuel fr seen)
      if Value.sameList resolved parts then
        match v with
        | .generic .plain o _ => return .generic .plain o parts
        | v => return v
      else lift (withParts v resolved)

/-- Evaluates an annotation that may be a text itself. -/
def resolveAnnotation (fr : Frame) (inClass : Bool) (v : Value) : Run Value :=
  let source (s : String) : Run Value := do
    match ← lift (Hint.forwardRef s) with
    | .forward s => refer (resolve depth fr) fr [] s inClass
    | v => return v
  match v with
  | .none => return .cls Standard.noneType
  | .str s | .subStr s => source s
  | v => resolve depth fr [] v

/-- An annotation without metadata. -/
def strip : Nat → Value → Except Fault Value
  | 0, v => .ok v
  | fuel + 1, v => do
    match v with
    | .annotated o _ => strip fuel o
    | .generic _ (.special "Required") [a] => strip fuel a
    | .generic _ (.special "NotRequired") [a] => strip fuel a
    | v =>
      let parts := partsOf v
      let stripped ← parts.mapM (strip fuel)
      if Value.sameList stripped parts then return v else withParts v stripped

/-- The annotations of a function: those of its parameters, then that of its result. -/
def functionAnnotations (f : Function) : List (String × Value) :=
  let own := f.params.filterMap fun p => p.hint.map fun a => (p.name, a)
  own ++ (f.returns.map fun a => ("return", a)).toList

/-- The annotations that a class declares itself. -/
def classAnnotations (c : ClassInfo) : List (String × Value) :=
  match c.members.get? "__annotations__" with
  | some (.dict es) => es.filterMap fun e => e.1.toStr?.map fun k => (k, e.2)
  | _ => []

/-- The frame in which the texts of a class's annotations are evaluated: the members of its module,
if that can be imported, before its own. -/
def classFrame (w : World) (c : ClassInfo) : Frame :=
  let globals := ((w.importable.get? c.named.module).bind w.module?).map ModuleInfo.globals
  { scope := .cls, globals := none, vars := c.members.union (globals.getD {}) }

/-- Evaluates annotations one after the other. -/
def resolveAll (fr : Frame) (inClass : Bool) (as : List (String × Value)) :
    Run (List (String × Value)) :=
  as.mapM fun a => do return (a.1, ← resolveAnnotation fr inClass a.2)

/-- The hints of a function or a class; an unknown name is a fault. -/
def hintsOrFault (v : Value) : Run (List (String × Value)) := do
  let w ← get
  match v with
  | .function f =>
    match w.function? f with
    | some info =>
      resolveAll { scope := .cls, globals := info.globals } false (functionAnnotations info)
    | none => return []
  | .cls c =>
    let found ← (w.linearisation c.id).reverse.mapM fun a =>
      match w.class? a.id with
      | some info => resolveAll (classFrame w info) true (classAnnotations info)
      | none => return []
    return (Table.ofList found.flatten).entries
  | _ => return []

/-- Whether a failure to evaluate an annotation means that there are no hints. -/
def isUnresolved : Failure → Bool
  | .fault .name | .fault .unboundLocal | .fault .type | .fault .attribute => true
  | .scripted s => ["NameError", "UnboundLocalError", "TypeError", "AttributeError"].contains s.kind
  | _ => false

/-- The hints of a function or a class, by name. -/
def typeHints (v : Value) : Run (Table String Value) := do
  tryCatch
    (do
      let hints ← hintsOrFault v
      let stripped ← hints.mapM fun h => do return (h.1, ← lift (strip depth h.2))
      return ⟨stripped⟩)
    (fun e => if isUnresolved e then return {} else throw e)

end Facade.Describe
