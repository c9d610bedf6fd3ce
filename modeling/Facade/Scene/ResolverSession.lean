import Facade.Reference.Resolver
import Facade.Scene.Build

/-!
# Using a resolver

* `ResolverStep`: what can be done with a resolver.
* `ResolverStep.run`: does one thing: what came out, and the resolver afterwards.
-/

namespace Facade.Scene

open Facade.Execution

/-- What can be done with a resolver. -/
inductive ResolverStep where
  /-- Adds what annotations need. -/
  | types (as : List Ann)
  /-- Adds what an annotation needs. -/
  | type (a : Ann)
  /-- Adds a module. -/
  | module (key : String)
  /-- Marks a class as generated into a module. -/
  | stamp (cls key : String)
  /-- Asks where a module lies. -/
  | locate (key : String)
  /-- Asks for the module of an annotation. -/
  | moduleOf (a : Ann)
  deriving Repr, Inhabited

/-- Does one thing that may be refused half-way. -/
def resolving (r : Resolver) (x : World → Resolver.Resolving Unit) :
    Run (Except Failure Value × Resolver) := do
  let (result, r) ← Run.within (x (← get)) r
  return (result.map (fun _ => .none) |>.mapError .refused, r)

/-- Does one thing. -/
def ResolverStep.run (s : Scene) (r : Resolver) : ResolverStep → Run (Except Failure Value × Resolver)
  | .types as => do
    let vs ← as.mapM (Ann.build s)
    resolving r fun w => Resolver.addTypes w vs
  | .type a => do
    let v ← a.build s
    resolving r fun w => Resolver.addType w v
  | .module key => do
    let m ← s.findModule key
    resolving r fun w => Resolver.addModule w m
  | .stamp cls key => do
    let m ← s.findModule key
    setAttr depth (← s.find cls) Resolver.generatedModuleAttribute (.module m)
    return (.ok .none, r)
  | .locate key => do
    let m ← s.findModule key
    return (.ok (.str (← Run.orRefuse (Resolver.locate (← get) m))), r)
  | .moduleOf a => do
    let v ← a.build s
    let w ← get
    return (.ok (.str (w.moduleName (← Run.orRefuse (Resolver.moduleOf? w r v)))), r)

/-- Does one thing; a failure leaves the resolver as far as it got. -/
def ResolverStep.attempt (s : Scene) (r : Resolver) (x : ResolverStep) :
    Run (Except Failure Value × Resolver) :=
  tryCatch (x.run s r) fun e => return (.error e, r)

end Facade.Scene
