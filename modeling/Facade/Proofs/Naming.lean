import Facade.Proofs.Answers

/-!
# What a compiled module can name

Behind the imports of what the compiler references, the path of a class that was added is an expression that
gives the class, unless its module has to share its name.

* `Fresh`: a compiler and a context to begin with; `answersWith_runAll`: what the context answers with
  follows from the history.
* `leads_builtin`: a class of the language is seen without its module.
* `path_yields`: the path of a class evaluates to the class; `disputed_path_fails`: not if two modules have
  its name.
-/

namespace Facade

open Execution Run
open Syntax (Expr Stmt dottedParts)

variable {w w' v : World} {m : Nat} {n id : String} {info : ModuleInfo} {g : GeneratedModule}
  {seeds : List (String × Value)} {t : Named}

/-! ## A history from its start -/

/-- A compiler that has resolved nothing, with a context that has nothing. -/
structure Fresh (id : String) (w : World) : Prop where
  exists_ : (w.compiler id).context < w.contexts.size
  modules : (w.context (w.compiler id).context).modules = {}
  references : (w.context (w.compiler id).context).references = {}
  resolver : (w.compiler id).resolver.modules = {}

/-- **What the context of a compiler answers with follows from the history.** -/
theorem answersWith_runAll {os : List Operation} (hnew : Fresh id w)
    (h : HasName (w.compiler id).context n m os w) : AnswersWith id n m (runAll os w) := by
  have hkeeps := keeps_runAll os w
  refine ⟨?_, resolvesModules_runAll os fun j hj => ?_, fun j hj => ?_⟩
  · rw [hkeeps.contextOf, hkeeps.size]
    exact hnew.exists_
  · rw [hnew.resolver] at hj
    cases hj
  · rw [hkeeps.contextOf] at hj
    refine resolve?_runAll os hnew.exists_ ?_ ?_ h hj
    · rw [hnew.modules]; rfl
    · rw [hnew.references]; rfl

/-! ## Classes of the language -/

/-- A class of the language can be seen in the modules of a compiler: the first part of its name is
declared there, and neither a module that is imported nor a global from the start goes by it. -/
structure Seen (id : String) (seeds : List (String × Value)) (t : Named) (m : Nat) (w : World) : Prop where
  language : w.importable.get? "builtins" = some m
  declared : ∀ x ∈ (dottedParts t.qualname).head?,
    ((w.module? m).bind fun i => i.globals.get? x).isSome = true
  notImported : ∀ x ∈ (dottedParts t.qualname).head?,
    ∀ k ∈ (w.compiler id).moduleNames, Imports.topPart k ≠ x
  notGlobal : ∀ x ∈ (dottedParts t.qualname).head?,
    ∀ name path, (Compiler.initialGlobals (w.compiler id) name path seeds).get? x = none

/-- **A class of the language is seen without its module.** -/
theorem leads_builtin {globals : Table String Value} {k : Nat} (hs : Seen id seeds t m w)
    (hstarts : Compiler.Starts (w.compiler id) seeds g w v info)
    (hheld : Held w w' k { info with globals := globals })
    (hsame : ∀ x, (∀ j ∈ (w.compiler id).moduleNames, Imports.topPart j ≠ x) →
      globals.get? x = info.globals.get? x)
    (hreach : Reaches w' (moduleFrame k) (.module m) (dottedParts t.qualname) (.cls t)) :
    Leads w' (moduleFrame k) t.qualname (.cls t) := by
  cases hparts : dottedParts t.qualname with
  | nil => rw [hparts] at hreach; cases hreach
  | cons x names =>
    rw [hparts] at hreach
    cases hreach with
    | step hoffer hrest =>
      rename_i u
      have hx : x ∈ (dottedParts t.qualname).head? := by rw [hparts]; rfl
      obtain ⟨y, hy⟩ := Option.isSome_iff_exists.mp (hs.declared x hx)
      obtain ⟨i, hi, hget⟩ := Option.bind_eq_some_iff.mp hy
      -- What the module of the language offers is what is seen without it.
      have hmodule : w'.module? m = some i := hheld.extends_.module? hi
      have hu : u = y := by
        have := (hoffer 0).symm.trans (getAttr_module x hmodule hget)
        simpa using this
      have hbuiltins : builtinsOf w = i.globals := by
        rw [builtinsOf, hs.language, Option.bind_some, hi]
        rfl
      have hglobal : globals.get? x = none := by
        rw [hsame x (hs.notImported x hx), hstarts.globals, hs.notGlobal x hx]
      refine ⟨x, names, u, hparts, ?_, hrest⟩
      have hfind : (moduleFrame k).findGlobal w' x = some u := by
        have hseen : globalOf w' { info with globals := globals } x = some u := by
          rw [globalOf, hglobal, hstarts.builtins, Option.getD_some, hbuiltins, hget, hu]
          rfl
        rw [Frame.findGlobal, moduleFrame, Option.bind_some, hheld.module]
        exact hseen
      show (moduleFrame k).find w' x = .ok u
      rw [Frame.find, hfind]
      rfl

/-! ## Paths -/

/-- A class has a place where it can be named after it was added: it is one of the language and seen, or its
module was resolved, and the history and what the compiler references leave the name to the module. -/
inductive Placed (id : String) (seeds : List (String × Value)) (t : Named) (m : Nat)
    (os₀ os : List Operation) (w w₁ : World) : Prop
  | language (hb : t.module = "builtins") (hs : Seen id seeds t m (runAll os w₁))
  | declared (hb : t.module ≠ "builtins") (hdot : '.' ∉ t.module.toList)
    (hres : (w₁.compiler id).resolver.modules.get? t.module = some m)
    (hname : HasName (w.compiler id).context t.module m (os₀ ++ .add id (.cls t) :: os) w)
    (hu : Undisputed id t.module m (runAll os w₁))

/-- The statements that import modules by their names. -/
def importsOf (names : List String) : List Stmt :=
  (names.map fun k => ({ name := k } : Syntax.ImportName)).map fun i => .imports [i]

/-- **The path of a class that was added evaluates to the class** in every module that the compiler
compiles later, behind the imports of what the compiler references: whatever has happened before the
addition and after it, provided that the class has a place. -/
theorem path_yields {os₀ os : List Operation} {w₁ : World} {p : Program} {rest : List Stmt}
    (hnew : Fresh id w)
    (hadd : (Compiler.addReference id (.cls t)).outcome (runAll os₀ w) = (.ok ⟨⟩, w₁))
    (hplace : Placed id seeds t m os₀ os w w₁)
    (hk : p.known = some (importsOf ((runAll os w₁).compiler id).moduleNames ++ rest))
    (hc : (Compiler.compile id p seeds).outcome (runAll os w₁) = (.ok g, w')) :
    ∃ info v fr w₂ x w₃, Compiler.Starts ((runAll os w₁).compiler id) seeds g (runAll os w₁) v info ∧
      (runBlock (exec depth) (moduleFrame g.module)
        (importsOf ((runAll os w₁).compiler id).moduleNames)).outcome v = (.ok (fr, .next), w₂) ∧
      (runBlock (exec depth) fr rest).outcome w₂ = (.ok x, w₃) ∧
      (Reaches w₂ fr (.module m) (dottedParts t.qualname) (.cls t) →
        Yields w₂ fr (Expr.dotted t.path) (.cls t)) := by
  obtain ⟨-, info, v, w₃, -, -, hstarts, hrun, -⟩ := Compiler.compile_eq_ok hk hc
  unfold runModule at hrun
  obtain ⟨⟨fr', flow⟩, w₄, hblock, hend⟩ := bind_eq_ok hrun
  obtain ⟨fr, f, w₂, himports, hrest⟩ := runBlock_append_eq_ok _ hblock
  have hplain : ∀ i ∈ ((runAll os w₁).compiler id).moduleNames.map
      fun k => ({ name := k } : Syntax.ImportName),
      i.boundAs = none ∨ dottedParts i.name = [i.name] := by
    intro i hi
    obtain ⟨k, -, rfl⟩ := List.mem_map.mp hi
    exact .inl rfl
  obtain ⟨rfl, rfl, globals, hheld, -, hsame, hbound⟩ :=
    runBlock_imports _ hplain hstarts.held himports
  refine ⟨info, v, _, w₂, _, _, hstarts, himports, hrest rfl, fun hreach => ?_⟩
  cases hplace with
  | language hb hs =>
    have hpath : t.path = t.qualname := by simp [Named.path, hb]
    rw [hpath]
    refine yields_dotted (leads_builtin hs hstarts hheld (fun x hx => hsame x fun hmem => ?_) hreach)
    obtain ⟨i, hi, htop⟩ := List.mem_map.mp hmem
    obtain ⟨k, hk, rfl⟩ := List.mem_map.mp hi
    exact hx k hk htop
  | declared hb hdot hres hname hu =>
    -- What the context answers with follows from the history.
    have hhistory : runAll (os₀ ++ .add id (.cls t) :: os) w = runAll os w₁ := by
      have hrun : ((Operation.add id (.cls t)).run.outcome (runAll os₀ w)).2 = w₁ :=
        congrArg (·.2) hadd
      rw [runAll_append, ← hrun]
      rfl
    have ha : AnswersWith id t.module m (runAll os w₁) := hhistory ▸ answersWith_runAll hnew hname
    have hres' := ((keeps_runAll os w₁).resolvers id).modules _ _ hres
    -- The name of the class's module is among the imported ones, and each of these gives the module.
    have hmem : t.module ∈ ((runAll os w₁).compiler id).moduleNames :=
      (Table.contains_iff _ _).mp (by simp [Table.contains, hres'])
    obtain ⟨i, hi, htop, j, hj, hget⟩ := hbound t.module
      (List.mem_map.mpr ⟨_, List.mem_map_of_mem hmem, topPart_of_no_dot hdot⟩)
    obtain ⟨k, hk', rfl⟩ := List.mem_map.mp hi
    obtain rfl := importThrough_undisputed ha hu hdot hres' hstarts hk' htop hj
    have hfind : (moduleFrame g.module).find w₂ t.module = .ok (.module j) := by
      simp [moduleFrame, Frame.find, Frame.findGlobal, hheld.module, globalOf, hget]
    have hpath : t.path = t.module ++ "." ++ t.qualname := by simp [Named.path, hb]
    exact yields_dotted
      ⟨t.module, _, .module j, by rw [hpath, dottedParts_append hdot], hfind, hreach⟩

/-! ## One module of a name, and two -/

/-- A module that defines a class, and has a place. -/
def moduleA : Operation :=
  .compile "unit" (.ofTree .draft
    [.assign [.name "__file__"] (.str "unit.py"), .class "A" [] [] [] [.pass]]) []

/-- A module of the same name that defines another class. -/
def moduleB : Operation :=
  .compile "unit" (.ofTree .draft [.class "B" [] [] [] [.pass]]) []

/-- A program that imports `unit` and names the class. -/
def namingProgram : Program :=
  .ofTree .draft (importsOf ["unit"] ++ [.expr (Expr.dotted unitType.path)])

/-- What a module that could not be loaded raised; none if loading succeeded or was refused. -/
def loadCause? {α : Type} : Except Failure α → Option String
  | .error (.refused (.moduleLoad _ _ cause _)) => some cause
  | _ => none

theorem eq_error_of_loadCause? {α : Type} {x : Except Failure α × World} {cause : String}
    (h : loadCause? x.1 = some cause) : ∃ name source text w',
      x = (.error (.refused (.moduleLoad name source cause text)), w') := by
  obtain ⟨r, w'⟩ := x
  unfold loadCause? at h
  split at h
  · rename_i name source c text hr
    obtain rfl : c = cause := Option.some.inj h
    exact ⟨name, source, text, w', by rw [show r = _ from hr]⟩
  · cases h

/-- The world in which the first module was added after a history. -/
def withUnit (os : List Operation) : World :=
  ((Compiler.addReference "unit" (.module 1)).outcome (runAll os unitWorld)).2

/-- That world once the next module has got another name. -/
def laterWith (os : List Operation) : World := runAll [.rename "unit" "last"] (withUnit os)

/-- After one module and after two, the first declares the class, and adding it makes its name the
only one. -/
theorem found_unit {os : List Operation} (h : os ∈ [[moduleA], [moduleA, moduleB]]) :
    Resolver.moduleOf? (runAll os unitWorld) ((runAll os unitWorld).compiler "unit").resolver
        (.cls unitType) = .ok 1 ∧
      ((Compiler.addReference "unit" (.module 1)).outcome (runAll os unitWorld)).1.isOk = true ∧
      ((laterWith os).compiler "unit").moduleNames = ["unit"] := by
  have hall : ∀ os ∈ [[moduleA], [moduleA, moduleB]],
      Resolver.moduleOf? (runAll os unitWorld) ((runAll os unitWorld).compiler "unit").resolver
          (.cls unitType) = .ok 1 ∧
        ((Compiler.addReference "unit" (.module 1)).outcome (runAll os unitWorld)).1.isOk = true ∧
        ((laterWith os).compiler "unit").moduleNames = ["unit"] := by
    decide +kernel
  exact hall os h

theorem addReference_unitType {os : List Operation} (h : os ∈ [[moduleA], [moduleA, moduleB]]) :
    (Compiler.addReference "unit" (.cls unitType)).outcome (runAll os unitWorld) =
      (.ok ⟨⟩, withUnit os) := by
  have hq : unitType.qualname.contains "<locals>" = false := by
    simp only [unitType, String.contains_string_eq_false_iff]
    decide
  refine addReference_cls (found_unit h).1 hq ?_
  obtain ⟨⟨⟩, w', hrun⟩ := eq_ok_of_isOk (found_unit h).2.1
  rw [withUnit, hrun]

/-- A single module is what the compiler loads, resolves and references under the name. -/
theorem single_unit :
    (moduleA.loaded? 0 unitWorld).map (fun e => (e.2, e.1.module)) = some ("unit", 1) ∧
    ((withUnit [moduleA]).compiler "unit").resolver.modules.get? unitType.module = some 1 ∧
    (laterWith [moduleA]).moduleName 1 = unitType.module ∧
    ((laterWith [moduleA]).compiler "unit").resolver.modules.values = [1] ∧
    ((Compiler.compile "unit" namingProgram []).outcome (laterWith [moduleA])).1.isOk = true := by
  decide +kernel

/-- The module is the only one that comes to have the name. -/
theorem hasName_unit : HasName 0 unitType.module 1
    ([moduleA] ++ .add "unit" (.cls unitType) :: [.rename "unit" "last"]) unitWorld := by
  obtain ⟨e, he, hnamed⟩ := Option.map_eq_some_iff.mp single_unit.1
  obtain ⟨hn, hm⟩ := Prod.mk.inj hnamed
  have henters : moduleA.Enters 0 unitType.module 1 unitWorld := by
    have := Operation.enters_of_loaded? he
    rwa [hn, hm] at this
  exact .inr ⟨[], moduleA, [.add "unit" (.cls unitType), .rename "unit" "last"], rfl, henters,
    nofun, nofun, trivial⟩

theorem placed_unit : Placed "unit" [] unitType 1 [moduleA] [.rename "unit" "last"] unitWorld
    (withUnit [moduleA]) := by
  obtain ⟨-, hres, hnamed, hvalues, -⟩ := single_unit
  refine .declared (by decide) (by decide) hres hasName_unit ⟨hnamed, fun j hj _ => ?_, fun k hk hne => ?_⟩
  · rw [← laterWith, hvalues, List.mem_singleton] at hj
    exact hj
  · rw [← laterWith, (found_unit List.mem_cons_self).2.2, List.mem_singleton] at hk
    exact absurd hk hne

/-- With one module of the name, its class can be named. -/
theorem path_yields_unit : ∃ g w', (Compiler.compile "unit" namingProgram []).outcome
      (laterWith [moduleA]) = (.ok g, w') ∧
    ∃ info v fr w₂ x w₃, Compiler.Starts ((laterWith [moduleA]).compiler "unit") [] g
        (laterWith [moduleA]) v info ∧
      (runBlock (exec depth) (moduleFrame g.module) (importsOf ["unit"])).outcome v =
        (.ok (fr, .next), w₂) ∧
      (runBlock (exec depth) fr [.expr (Expr.dotted unitType.path)]).outcome w₂ = (.ok x, w₃) ∧
      (Reaches w₂ fr (.module 1) (dottedParts unitType.qualname) (.cls unitType) →
        Yields w₂ fr (Expr.dotted unitType.path) (.cls unitType)) := by
  have hunit : [moduleA] ∈ [[moduleA], [moduleA, moduleB]] := List.mem_cons_self
  obtain ⟨g, w', hc⟩ := eq_ok_of_isOk single_unit.2.2.2.2
  have hk : namingProgram.known = some (importsOf ((laterWith [moduleA]).compiler "unit").moduleNames ++
      [.expr (Expr.dotted unitType.path)]) := by
    have hlegible : Stmt.areLegible (importsOf ["unit"] ++ [.expr (Expr.dotted unitType.path)]) = true :=
      by decide
    rw [(found_unit hunit).2.2, namingProgram, Program.ofTree]
    dsimp only
    rw [if_pos hlegible]
  have h := path_yields ⟨by decide, rfl, rfl, rfl⟩ (addReference_unitType hunit) placed_unit hk hc
  rw [← laterWith, (found_unit hunit).2.2] at h
  exact ⟨g, w', hc, h⟩

/-- **With two modules of the name, the class of the first cannot be named** although it was added:
the context gives the second. -/
theorem disputed_path_fails : ∃ name source text w₂,
    Resolver.moduleOf? (runAll [moduleA, moduleB] unitWorld)
      ((runAll [moduleA, moduleB] unitWorld).compiler "unit").resolver (.cls unitType) = .ok 1 ∧
    (Compiler.addReference "unit" (.cls unitType)).outcome (runAll [moduleA, moduleB] unitWorld) =
      (.ok ⟨⟩, withUnit [moduleA, moduleB]) ∧
    ((withUnit [moduleA, moduleB]).compiler "unit").moduleNames = ["unit"] ∧
    ((GeneratedModule.globals (withUnit [moduleA, moduleB]) 1).get? unitType.qualname).bind
      Hint.declared? = some unitType ∧
    (Compiler.compile "unit" namingProgram []).outcome
      (laterWith [moduleA, moduleB]) =
      (.error (.refused (.moduleLoad name source "AttributeError" text)), w₂) := by
  have hunit : [moduleA, moduleB] ∈ [[moduleA], [moduleA, moduleB]] := by simp
  have hfails : ((withUnit [moduleA, moduleB]).compiler "unit").moduleNames = ["unit"] ∧
      ((GeneratedModule.globals (withUnit [moduleA, moduleB]) 1).get? unitType.qualname).bind
        Hint.declared? = some unitType ∧
      loadCause? ((Compiler.compile "unit" namingProgram []).outcome
        (laterWith [moduleA, moduleB])).1 = some "AttributeError" := by
    decide +kernel
  obtain ⟨name, source, text, w₂, hload⟩ := eq_error_of_loadCause? hfails.2.2
  exact ⟨name, source, text, w₂, (found_unit hunit).1, addReference_unitType hunit, hfails.1,
    hfails.2.1, hload⟩

end Facade
