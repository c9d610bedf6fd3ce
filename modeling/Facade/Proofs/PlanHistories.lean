import Facade.Proofs.Planning
import Facade.Proofs.Tables
import Mathlib.Data.List.Induction
import Mathlib.Data.List.TakeWhile

/-!
# Histories of a plan

Methods are converted one after the other, parameters of the constructor are asked for, and some of it
is refused halfway. Whatever a converted method mentions of the generated class is there when the
class is written at the end.

* `PlanOperation`, `planHistory`: what can be done with a plan, and what comes of it in turn.
* `admits`, `taken`: the parameters of a method that a plan takes in before it refuses one.
* `constructorDeclared`, `propertiesDeclared`: what an operation declares, refused or not.
* `tables_planHistory`: after a history, the tables hold the first declaration of each name.
* `BackedField`, `BackedProperty`: what is written for a field, and for a property.
* `backed_history`: everything that is mentioned is backed.
-/

namespace Facade

/-! ## Tables that keep what comes first -/

namespace Table

variable {κ α : Type} [DecidableEq κ] (key : α → κ)

/-- A table after values have come in, each under its key unless the key is taken. -/
def keepFirst (t : Table κ α) (xs : List α) : Table κ α :=
  xs.foldl (fun t x => t.setDefault (key x) x) t

theorem keepFirst_append (t : Table κ α) (xs ys : List α) :
    t.keepFirst key (xs ++ ys) = (t.keepFirst key xs).keepFirst key ys := List.foldl_append

/-- What is there stays where it is. -/
theorem prefix_keepFirst (xs : List α) :
    ∀ t : Table κ α, t.entries <+: (t.keepFirst key xs).entries := by
  induction xs with
  | nil => exact fun t => List.prefix_rfl
  | cons x xs ih =>
    intro t
    refine List.IsPrefix.trans ?_ (ih (t.setDefault (key x) x))
    unfold setDefault
    split
    · exact List.prefix_rfl
    · exact List.prefix_append _ _

/-- What comes first under a key stays there. -/
theorem get?_keepFirst (k : κ) (xs : List α) : ∀ t : Table κ α,
    (t.keepFirst key xs).get? k = (t.get? k <|> xs.find? fun x => key x = k) := by
  induction xs with
  | nil => simp [keepFirst]
  | cons x xs ih =>
    intro t
    have hstep : (t.setDefault (key x) x).get? k =
        (t.get? k <|> if key x = k then some x else none) := by
      rw [get?_setDefault, contains]
      cases hk : t.get? k <;> by_cases hx : key x = k <;> simp_all
    show ((t.setDefault (key x) x).keepFirst key xs).get? k = _
    rw [ih, hstep, List.find?_cons]
    cases t.get? k <;> by_cases hx : key x = k <;> simp [hx]

theorem mem_keys_keepFirst {k : κ} {xs : List α} {t : Table κ α} :
    k ∈ (t.keepFirst key xs).keys ↔ k ∈ t.keys ∨ ∃ x ∈ xs, key x = k := by
  rw [← not_iff_not, ← get?_eq_none_iff, get?_keepFirst, not_or, ← get?_eq_none_iff]
  cases t.get? k <;> simp

/-- The keys stand in the order in which they first came. -/
theorem keys_keepFirst (xs : List α) : (keepFirst key {} xs).keys = (xs.map key).eraseDups :=
  keys_foldl (fun t x => keys_setDefault t (key x) x) xs

end Table

namespace Conversion

open Logged
open Facade.Describe (ParameterInfo MethodInfo)
open Facade.Execution
open Syntax (Expr Stmt Param)

theorem Keyed.keepFirst {α : Type} {name : α → String} (xs : List α) :
    ∀ {t : Table String α}, Keyed name t → Keyed name (t.keepFirst name xs) := by
  induction xs with
  | nil => exact fun h => h
  | cons x xs ih => exact fun h => ih (h.setDefault x)

/-! ## Operations -/

/-- What can be done with a plan. -/
inductive PlanOperation where
  /-- Converts a method. -/
  | convert (m : MethodInfo)
  /-- Asks for a parameter of the constructor. -/
  | require (name : String) (hint : Option Value)

namespace PlanOperation

/-- Does something with a plan. -/
def perform : PlanOperation → Planning (Option ConvertedMethod)
  | .convert m => do return some (← Plan.convertMethod m)
  | .require name hint => do
    Plan.addConstructorParameter name hint
    return none

end PlanOperation

/-- What comes of one operation after the other, whatever is refused, and the plan afterwards. -/
def planHistory : List PlanOperation → Plan → List (Except Refusal (Option ConvertedMethod)) × Plan
  | [], p => ([], p)
  | op :: ops, p =>
    let (r, p₁, _) := op.perform.outcome p
    let (rs, p₂) := planHistory ops p₁
    (r :: rs, p₂)

/-- The methods that were converted. -/
def convertedMethods (rs : List (Except Refusal (Option ConvertedMethod))) : List ConvertedMethod :=
  rs.filterMap fun
    | .ok (some m) => some m
    | _ => none

/-! ## What an operation declares -/

/-- Whether the name of a constructor parameter is accepted. -/
def admitsName (name : String) : Bool := Text.isName name && !reservedNames.contains name

/-- Whether the name that a conversion gives a parameter is accepted. -/
def admitsPlace (c : Destination) (q : ParameterInfo) : Bool :=
  if c.route = .property then Text.isName (c.nameFor q) else admitsName (c.nameFor q)

/-- Whether a parameter is accepted by rules. -/
def admits (rules : List Rule) (p : ParameterInfo) : Bool :=
  if p.kind.isVariadic then !reservedNames.contains p.name
  else admitsPlace (convert rules p) p

/-- What becomes of the parameters of a method before the first that is refused. -/
def taken (rules : List Rule) (m : MethodInfo) : List ConvertedParameter :=
  (m.params.takeWhile (admits rules)).map (convertedOf rules)

/-- The constructor parameter that a converted parameter declares. -/
def fieldDeclared? (c : ConvertedParameter) : Option ConstructorParameter :=
  if c.route = .constructor then some ⟨c.name, c.parameter.hint⟩ else none

/-- The property that a converted parameter declares. -/
def propertyDeclared? (c : ConvertedParameter) : Option RoutedProperty :=
  if c.route = .property then some (propertyOf c) else none

/-- The constructor parameters that an operation declares, even if it is refused in the end. -/
def constructorDeclared (rules : List Rule) : PlanOperation → List ConstructorParameter
  | .convert m => (taken rules m).filterMap fieldDeclared?
  | .require name hint => if admitsName name then [⟨name, hint⟩] else []

/-- The properties that an operation declares, even if it is refused in the end. -/
def propertiesDeclared (rules : List Rule) : PlanOperation → List RoutedProperty
  | .convert m => (taken rules m).filterMap propertyDeclared?
  | .require _ _ => []

/-- A plan after constructor parameters and properties have been declared. -/
def Plan.declare (p : Plan) (cs : List ConstructorParameter) (qs : List RoutedProperty) : Plan :=
  { p with
    constructor := p.constructor.keepFirst ConstructorParameter.name cs
    properties := p.properties.keepFirst RoutedProperty.name qs }

theorem Plan.declare_declare (p : Plan) (cs cs' : List ConstructorParameter)
    (qs qs' : List RoutedProperty) :
    (p.declare cs qs).declare cs' qs' = p.declare (cs ++ cs') (qs ++ qs') := by
  simp only [Plan.declare, Table.keepFirst_append]

theorem adopt_eq_declare (p : Plan) (c : ConvertedParameter) :
    p.adopt c = p.declare (fieldDeclared? c).toList (propertyDeclared? c).toList := by
  unfold Plan.adopt fieldDeclared? propertyDeclared?
  cases c.route <;> rfl

/-- Converted parameters are taken in as what they declare. -/
theorem foldl_adopt (cs : List ConvertedParameter) : ∀ p : Plan,
    cs.foldl Plan.adopt p =
      p.declare (cs.filterMap fieldDeclared?) (cs.filterMap propertyDeclared?) := by
  induction cs with
  | nil => exact fun p => rfl
  | cons c cs ih =>
    intro p
    have hcons {α β : Type} (f : α → Option β) (a : α) (l : List α) :
        (a :: l).filterMap f = (f a).toList ++ l.filterMap f := by
      cases h : f a <;> simp [h]
    rw [List.foldl_cons, ih, adopt_eq_declare, Plan.declare_declare, hcons, hcons]

theorem run_checkName (name : String) (l : Plan × List LogRecord) : (checkName name).run l =
    (if Text.isName name then .ok () else .error (.badParameterName name), l) := by
  unfold checkName
  cases Text.isName name <;> rfl

theorem run_checkNotReserved (name : String) (l : Plan × List LogRecord) :
    (checkNotReserved name).run l =
      (if reservedNames.contains name then .error (.reservedName name) else .ok (), l) := by
  unfold checkNotReserved
  cases reservedNames.contains name <;> rfl

theorem run_addConstructorParameter (name : String) (hint : Option Value) (p : Plan)
    (log : List LogRecord) :
    ∃ r, (Plan.addConstructorParameter name hint).run (p, log) =
      (r, if admitsName name then p.declare [⟨name, hint⟩] [] else p, log) ∧
        r.isOk = admitsName name := by
  unfold Plan.addConstructorParameter admitsName
  rw [run_bind, run_checkName]
  cases Text.isName name with
  | false => exact ⟨_, rfl, rfl⟩
  | true =>
    simp only [if_true]
    rw [run_bind, run_checkNotReserved]
    cases reservedNames.contains name with
    | true => exact ⟨_, rfl, rfl⟩
    | false => exact ⟨_, rfl, rfl⟩

theorem run_place (c : Destination) (q : ParameterInfo) (p : Plan) (log : List LogRecord) :
    (∃ name, admitsPlace c q = true ∧
      (Plan.place c q).run (p, log) = (.ok name, p.adopt ⟨q, c.route, name⟩, log)) ∨
    (∃ e, admitsPlace c q = false ∧ (Plan.place c q).run (p, log) = (.error e, p, log)) := by
  unfold Plan.place admitsPlace
  rw [run_bind, run_checkName]
  cases hn : Text.isName (c.nameFor q) with
  | false => exact .inr ⟨_, by simp [admitsName, hn], rfl⟩
  | true =>
    simp only [if_true]
    cases hr : c.route with
    | property => exact .inl ⟨_, rfl, rfl⟩
    | method =>
      dsimp only
      rw [run_bind, run_checkNotReserved]
      cases hres : reservedNames.contains (c.nameFor q) with
      | true => exact .inr ⟨_, by simp only [admitsName, hn, hres]; rfl, rfl⟩
      | false => exact .inl ⟨_, by simp only [admitsName, hn, hres]; rfl, rfl⟩
    | constructor =>
      dsimp only
      obtain ⟨r, hrun, hok⟩ := run_addConstructorParameter (c.nameFor q) q.hint p log
      rw [run_bind, hrun]
      cases r with
      | error e =>
        have hadmits : admitsName (c.nameFor q) = false := hok.symm
        exact .inr ⟨e, by simp [hadmits], by rw [hadmits]; rfl⟩
      | ok _ =>
        have hadmits : admitsName (c.nameFor q) = true := hok.symm
        exact .inl ⟨c.nameFor q, by simp [hadmits], by rw [hadmits]; rfl⟩

/-- A parameter that is accepted is taken in; for one that is not, the plan stays as it is. -/
theorem run_convertParameter (method : String) (q : ParameterInfo) (p : Plan) (log : List LogRecord) :
    ∃ r log', (Plan.convertParameter method q).run (p, log) =
      (r, if admits p.rules q then p.adopt (convertedOf p.rules q) else p, log') ∧
        r.isOk = admits p.rules q := by
  unfold admits
  cases hv : q.kind.isVariadic with
  | true =>
    have hadopt : p.adopt (convertedOf p.rules q) = p := by rw [convertedOf, if_pos hv]; rfl
    rw [hadopt, ite_self, Plan.convertParameter, if_pos hv, run_bind, run_checkNotReserved]
    cases reservedNames.contains q.name <;> exact ⟨_, _, rfl, rfl⟩
  | false =>
    have hnot : ¬ q.kind.isVariadic = true := by simp [hv]
    simp only [Bool.false_eq_true, if_false]
    rw [Plan.convertParameter, if_neg hnot, run_bind]
    show ∃ r log', ((Plan.place (convert p.rules q) q >>= _).run (p, log)) = _ ∧ _
    rw [run_bind]
    rcases run_place (convert p.rules q) q p log with ⟨name, hadmits, hrun⟩ | ⟨e, hadmits, hrun⟩
    · have hgives : (Plan.place (convert p.rules q) q).Gives p name _ := ⟨log, log, hrun⟩
      have hname : convertedOf p.rules q = ⟨q, (convert p.rules q).route, name⟩ := by
        rw [convertedOf, if_neg hnot, (place_gives hgives).1]
      rw [hrun, hadmits, if_pos rfl, hname]
      dsimp only
      split <;> exact ⟨_, _, rfl, rfl⟩
    · rw [hrun, hadmits]
      exact ⟨_, _, rfl, rfl⟩

/-- **Whether or not a method is converted in the end**, its parameters before the first that is
refused are taken in. -/
theorem state_convertMethod (m : MethodInfo) (p : Plan) (log : List LogRecord) :
    ((Plan.convertMethod m).run (p, log)).2.1 = (taken p.rules m).foldl Plan.adopt p := by
  have all (qs : List ParameterInfo) : ∀ (p : Plan) (log : List LogRecord),
      ((qs.mapM (Plan.convertParameter m.name)).run (p, log)).2.1 =
        ((qs.takeWhile (admits p.rules)).map (convertedOf p.rules)).foldl Plan.adopt p := by
    induction qs with
    | nil => exact fun p log => rfl
    | cons q qs ih =>
      intro p log
      obtain ⟨r, log', hrun, hok⟩ := run_convertParameter m.name q p log
      rw [List.mapM_cons, run_bind, hrun]
      cases r with
      | error e =>
        have hq : admits p.rules q = false := hok.symm
        simp [hq]
      | ok c =>
        have hq : admits p.rules q = true := hok.symm
        have hrules := (rules_adopt p (convertedOf p.rules q)).1
        have hrest := ih (p.adopt (convertedOf p.rules q)) log'
        rw [hrules] at hrest
        rw [List.takeWhile_cons_of_pos hq, List.map_cons, List.foldl_cons, ← hrest]
        simp only [hq, if_true]
        rw [run_bind]
        rcases (qs.mapM (Plan.convertParameter m.name)).run (p.adopt (convertedOf p.rules q), log')
          with ⟨r, l⟩
        cases r <;> rfl
  unfold Plan.convertMethod
  rw [run_bind, taken, ← all]
  rcases (m.params.mapM (Plan.convertParameter m.name)).run (p, log) with ⟨r, l⟩
  cases r <;> rfl

/-- **What an operation makes of a plan**, whether or not it is refused in the end. -/
theorem state_perform (op : PlanOperation) (p : Plan) :
    (op.perform.outcome p).2.1 =
      p.declare (constructorDeclared p.rules op) (propertiesDeclared p.rules op) := by
  cases op with
  | convert m =>
    have hstate := state_convertMethod m p []
    rw [foldl_adopt] at hstate
    unfold outcome PlanOperation.perform
    rw [run_bind]
    rcases h : (Plan.convertMethod m).run (p, []) with ⟨r, l⟩
    rw [h] at hstate
    cases r <;> exact hstate
  | require name hint =>
    obtain ⟨r, hrun, hok⟩ := run_addConstructorParameter name hint p []
    unfold outcome PlanOperation.perform
    rw [run_bind, hrun]
    cases r with
    | error e =>
      have hn : admitsName name = false := hok.symm
      simp only [constructorDeclared, propertiesDeclared, hn]
      rfl
    | ok _ =>
      have hn : admitsName name = true := hok.symm
      simp only [constructorDeclared, propertiesDeclared, hn]
      rfl

/-- **What a history makes of a plan.** -/
theorem tables_planHistory (ops : List PlanOperation) : ∀ p : Plan, (planHistory ops p).2 =
    p.declare (ops.flatMap (constructorDeclared p.rules)) (ops.flatMap (propertiesDeclared p.rules)) := by
  induction ops with
  | nil => exact fun p => rfl
  | cons op ops ih =>
    intro p
    have hcons : (planHistory (op :: ops) p).2 = (planHistory ops (op.perform.outcome p).2.1).2 := rfl
    rw [hcons, ih, state_perform, Plan.declare_declare, List.flatMap_cons, List.flatMap_cons]
    rfl

/-! ## What a class is written from -/

/-- A plan has what a converted parameter needs. -/
structure Provides (p : Plan) (c : ConvertedParameter) : Prop where
  checked : c.Checked
  field : c.route = .constructor → c.name ∈ p.constructor.keys
  property : c.route = .property → c.name ∈ p.properties.keys

theorem Provides.declare {p : Plan} {c : ConvertedParameter} (h : Provides p c)
    (cs : List ConstructorParameter) (qs : List RoutedProperty) : Provides (p.declare cs qs) c :=
  ⟨h.checked, fun hr => (Table.mem_keys_keepFirst _).mpr (.inl (h.field hr)),
    fun hr => (Table.mem_keys_keepFirst _).mpr (.inl (h.property hr))⟩

/-- A plan has what the parameters of a method need that it has just converted. -/
theorem provides_of_gives {m : MethodInfo} {p p' : Plan} {c : ConvertedMethod}
    (h : (Plan.convertMethod m).Gives p c p') : ∀ q ∈ c.parameters, Provides p' q := by
  obtain ⟨-, rfl, hchecked⟩ := convertMethod_gives h
  intro q hq
  rw [foldl_adopt]
  refine ⟨hchecked q hq, fun hr => ?_, fun hr => ?_⟩
  · exact (Table.mem_keys_keepFirst _).mpr
      (.inr ⟨_, List.mem_filterMap.mpr ⟨q, hq, if_pos hr⟩, rfl⟩)
  · exact (Table.mem_keys_keepFirst _).mpr
      (.inr ⟨_, List.mem_filterMap.mpr ⟨q, hq, if_pos hr⟩, rfl⟩)

theorem provides_of_perform {op : PlanOperation} {p p' : Plan} {m : ConvertedMethod}
    (h : op.perform.Gives p (some m) p') : ∀ c ∈ m.parameters, Provides p' c := by
  cases op with
  | convert m' =>
    obtain ⟨c, p₁, hc, h⟩ := gives_bind h
    obtain ⟨hm, rfl⟩ := gives_pure h
    obtain rfl := Option.some.inj hm
    exact provides_of_gives hc
  | require name hint =>
    obtain ⟨_, p₁, -, h⟩ := gives_bind h
    cases (gives_pure h).1

theorem mem_convertedMethods {rs : List (Except Refusal (Option ConvertedMethod))}
    {m : ConvertedMethod} : m ∈ convertedMethods rs ↔ .ok (some m) ∈ rs := by
  rw [convertedMethods, List.mem_filterMap]
  constructor
  · rintro ⟨r, hr, hm⟩
    split at hm
    · rwa [← Option.some.inj hm]
    · cases hm
  · exact fun h => ⟨_, h, rfl⟩

/-- **After a history, a plan has what every converted method needs**, however early it was
converted. -/
theorem provides_planHistory (ops : List PlanOperation) : ∀ (p : Plan) {m : ConvertedMethod},
    m ∈ convertedMethods (planHistory ops p).1 →
      ∀ c ∈ m.parameters, Provides (planHistory ops p).2 c := by
  induction ops with
  | nil => simp [planHistory, convertedMethods]
  | cons op ops ih =>
    intro p m hm c hc
    have hrest : (planHistory (op :: ops) p).2 = (planHistory ops (op.perform.outcome p).2.1).2 := rfl
    have hsplit : m ∈ convertedMethods [(op.perform.outcome p).1] ∨
        m ∈ convertedMethods (planHistory ops (op.perform.outcome p).2.1).1 := by
      rw [← List.mem_append, convertedMethods, convertedMethods, ← List.filterMap_append]
      exact hm
    rcases hsplit with hm | hm
    · rw [hrest, tables_planHistory]
      refine Provides.declare ?_ _ _
      have hr := List.mem_singleton.mp (mem_convertedMethods.mp hm)
      exact provides_of_perform ⟨[], _, Prod.ext hr.symm rfl⟩ c hc
    · exact ih _ hm c hc

/-! ## What is written -/

/-- The attribute that an expression reads of the receiver, if it reads one. -/
def receiverAttribute? : Expr → Option String
  | .attribute (.name "self") a => some a
  | _ => none

/-- The attributes of the receiver that the arguments of a forwarded call mention. -/
def ConvertedMethod.mentions (m : ConvertedMethod) : List String :=
  (m.positionalArguments ++ m.namedArguments.map Prod.snd).filterMap receiverAttribute?

/-- What the arguments mention is a field of the constructor's or a property. -/
theorem mem_mentions {m : ConvertedMethod} {a : String} (h : a ∈ m.mentions) :
    ∃ c ∈ m.parameters,
      (c.route = .constructor ∧ a = fieldOf c.name) ∨ (c.route = .property ∧ a = c.name) := by
  have hexpression {c : ConvertedParameter} (h : receiverAttribute? c.expression = some a) :
      (c.route = .constructor ∧ a = fieldOf c.name) ∨ (c.route = .property ∧ a = c.name) := by
    unfold ConvertedParameter.expression at h
    cases hr : c.route <;> rw [hr] at h
    · cases h
    · exact .inl ⟨rfl, (Option.some.inj h).symm⟩
    · exact .inr ⟨rfl, (Option.some.inj h).symm⟩
  obtain ⟨e, he, ha⟩ := List.mem_filterMap.mp h
  rcases List.mem_append.mp he with he | he
  · obtain ⟨c, hc, he⟩ := List.mem_filterMap.mp he
    refine ⟨c, hc, hexpression ?_⟩
    split at he
    · rw [← Option.some.inj he] at ha
      cases ha
    · cases he
    · cases he
    · rwa [Option.some.inj he]
  · obtain ⟨⟨n, e⟩, hn, rfl⟩ := List.mem_map.mp he
    obtain ⟨c, hc, he⟩ := List.mem_filterMap.mp hn
    refine ⟨c, hc, hexpression ?_⟩
    split at he
    · obtain ⟨-, rfl⟩ := Prod.mk.inj (Option.some.inj he)
      cases ha
    · obtain ⟨-, rfl⟩ := Prod.mk.inj (Option.some.inj he)
      exact ha
    · cases he

/-- The name that a statement defines, if it defines one. -/
def definedName? : Stmt → Option String
  | .define _ name _ _ _ _ => some name
  | _ => none

theorem definedName?_passThrough {name : String} {hint place : Expr} {writable : Bool} {s : Stmt}
    (h : s ∈ passThrough name hint place writable) :
    definedName? s = none ∨ definedName? s = some name := by
  unfold passThrough at h
  cases writable <;> simp at h <;> rcases h with rfl | rfl | rfl | rfl <;> simp [definedName?]

/-- A field that the constructor fills from a parameter that it has exactly once. -/
structure BackedField (p : Plan) (name : String) : Prop where
  listed : ∀ w, ((p.constructorParams w).map Param.name).count name = 1
  assigned : ∀ w body w', p.constructorBody.outcome w = (.ok body, w') →
    Stmt.assign [Plan.selfField name] (.name name) ∈ body

/-- A property that is written exactly once, around a field that the constructor fills. -/
structure BackedProperty (p : Plan) (name : String) : Prop where
  written : ∀ w, ∃ before hint after, p.propertyDefinitions w =
    before ++ passThrough name hint (Plan.selfField name) true ++ after ∧
      ∀ s ∈ before ++ after, definedName? s ≠ some name
  assigned : ∀ w body w', p.constructorBody.outcome w = (.ok body, w') →
    ∃ hint value, Stmt.annAssign (Plan.selfField name) hint (some value) false ∈ body

section Written

variable {p : Plan} {name : String}

/-- The body of the constructor fills a field for every parameter and every property. -/
theorem constructorBody_cases {w w' : World} {body : List Stmt}
    (h : p.constructorBody.outcome w = (.ok body, w')) : ∃ firsts,
      body = (p.constructor.values.map fun c =>
        Stmt.assign [Plan.selfField c.name] (.name c.name)) ++ firsts ∧
      List.Forall₂ (fun q s => ∃ hint value,
        s = Stmt.annAssign (Plan.selfField q.name) hint (some value) false) p.properties.values firsts := by
  unfold Plan.constructorBody at h
  obtain ⟨firsts, w₁, hfirsts, h⟩ := Run.bind_eq_ok h
  rw [Run.outcome_pure, Prod.mk.injEq, Except.ok.injEq] at h
  refine ⟨firsts, h.1.symm, Run.forall₂_of_mapM (fun q w s w' hs => ?_) _ hfirsts⟩
  have hvalue {x : Run Expr} (hs : (x >>= fun value => do
      return Stmt.annAssign (Plan.selfField q.name) (p.spell (← get) q.hint) (some value)
        false).outcome w = (.ok s, w')) :
      ∃ hint value, s = Stmt.annAssign (Plan.selfField q.name) hint (some value) false := by
    obtain ⟨e, w₂, -, hs⟩ := Run.bind_eq_ok hs
    rw [Run.outcome_get_bind, Run.outcome_pure, Prod.mk.injEq, Except.ok.injEq] at hs
    exact ⟨_, e, hs.1.symm⟩
  split at hs <;> exact hvalue hs

/-- A parameter of the constructor backs a field. -/
theorem backedField (hp : p.Keyed) (hmem : name ∈ p.constructor.keys) (hself : name ≠ "self") :
    BackedField p name where
  listed w := by
    have hnames : (p.constructorParams w).map Param.name = "self" :: p.constructor.keys := by
      rw [← hp.constructor.map_values]
      simp [Plan.constructorParams, Plan.receiver, Function.comp_def]
    rw [hnames, List.count_cons_of_ne (Ne.symm hself), List.count_eq_one_of_mem hp.constructor.nodup hmem]
  assigned w body w' h := by
    obtain ⟨firsts, rfl, -⟩ := constructorBody_cases h
    rw [← hp.constructor.map_values] at hmem
    obtain ⟨c, hc, rfl⟩ := List.mem_map.mp hmem
    exact List.mem_append_left _ (List.mem_map_of_mem hc)

/-- A routed property is backed. -/
theorem backedProperty (hp : p.Keyed) (hmem : name ∈ p.properties.keys) : BackedProperty p name where
  written w := by
    rw [← hp.properties.map_values] at hmem
    obtain ⟨q, hq, rfl⟩ := List.mem_map.mp hmem
    obtain ⟨before, after, hsplit⟩ := List.append_of_mem hq
    have hother : ∀ r ∈ before ++ after, r.name ≠ q.name := by
      have hnodup := hp.properties.nodup
      rw [← hp.properties.map_values, hsplit, List.map_append, List.map_cons, List.nodup_middle,
        List.nodup_cons, ← List.map_append] at hnodup
      exact fun r hr he => hnodup.1 (he ▸ List.mem_map_of_mem hr)
    let written (l : List RoutedProperty) : List Stmt := l.flatMap fun r =>
      passThrough r.name (p.spell w r.hint) (Plan.selfField r.name) true
    refine ⟨written before, p.spell w q.hint, written after, ?_, fun s hs => ?_⟩
    · rw [Plan.propertyDefinitions, hsplit, List.flatMap_append, List.flatMap_cons,
        ← List.append_assoc]
    · rw [← List.flatMap_append] at hs
      obtain ⟨r, hr, hs⟩ := List.mem_flatMap.mp hs
      rcases definedName?_passThrough hs with h | h <;> rw [h]
      · simp
      · simpa using hother r hr
  assigned w body w' h := by
    obtain ⟨firsts, rfl, hfirsts⟩ := constructorBody_cases h
    rw [← hp.properties.map_values] at hmem
    obtain ⟨q, hq, rfl⟩ := List.mem_map.mp hmem
    obtain ⟨s, hs, hint, value, rfl⟩ := Run.exists_of_forall₂ hfirsts hq
    exact ⟨hint, value, List.mem_append_right _ hs⟩

/-- A cache that is there and has room for some more values. -/
structure Room (c k : Nat) (w : World) : Prop where
  there : c < w.caches.size
  room : (w.cache c).entries.size + k ≤ 2 ^ 122

theorem Room.mono {c k l : Nat} {w : World} (h : Room c l w) (hk : k ≤ l) : Room c k w :=
  ⟨h.there, by have := h.room; omega⟩

theorem Room.add {c k : Nat} {w w' : World} {v : Value} {u : Uuid} (h : Room c (k + 1) w)
    (ha : Added c v u w w') : Room c k w' where
  there := ha.size ▸ h.there
  room := by
    have := h.room
    rw [Table.size, ha.entries, Table.entries_set_of_get?_eq_none v ha.fresh, List.length_append,
      List.length_singleton]
    simp only [Table.size] at this
    omega

/-- A plan whose constructor can be written: its defaults are literals, or there is a cache with room
for them. -/
def Plan.Writable (p : Plan) (w : World) : Prop :=
  (∀ q ∈ p.properties.values, ∀ v ∈ q.default, v.literal?.isSome = true) ∨
    ∃ c, p.cache = some c ∧ Room c p.properties.values.length w

theorem defaultExpr_of_literal {w : World} (p : Plan) {v : Value} {e : Expr} (h : v.literal? = some e) :
    (p.defaultExpr v).outcome w = (.ok e, w) := by
  unfold Plan.defaultExpr
  rw [h]
  rfl

theorem defaultExpr_succeeds {c k : Nat} {w : World} (hp : p.cache = some c)
    (hr : Room c (k + 1) w) (v : Value) :
    ∃ e w', (p.defaultExpr v).outcome w = (.ok e, w') ∧ Room c k w' := by
  cases hl : v.literal? with
  | some e => exact ⟨e, w, defaultExpr_of_literal p hl, hr.mono (by omega)⟩
  | none =>
    obtain ⟨u, w', hu, hadded⟩ := addValue_spec hr.there (by have := hr.room; omega) v
    refine ⟨cachedValue u, w', ?_, hr.add hadded⟩
    unfold Plan.defaultExpr
    rw [hl, hp]
    show (addValue c v >>= fun u => pure (cachedValue u)).outcome w = _
    rw [Run.outcome_bind_of_ok hu]
    rfl

theorem constructorBody_succeeds {w : World} (h : p.Writable w) :
    ∃ body w', p.constructorBody.outcome w = (.ok body, w') := by
  have done {x : Run (List Stmt)} {fields : List Stmt} (hx : ∃ firsts w', x.outcome w = (.ok firsts, w')) :
      ∃ body w', (x >>= fun firsts => return fields ++ firsts : Run (List Stmt)).outcome w =
        (.ok body, w') := by
    obtain ⟨firsts, w', hx⟩ := hx
    exact ⟨_, w', by rw [Run.outcome_bind_of_ok hx]; rfl⟩
  have first (hint : World → Expr) (target : Expr) {x : Run Expr} {v v' : World} {e : Expr}
      (hx : x.outcome v = (.ok e, v')) : ∃ s, (x >>= fun value => do
        return Stmt.annAssign target (hint (← get)) (some value) false : Run Stmt).outcome v =
          (.ok s, v') := by
    refine ⟨Stmt.annAssign target (hint v') (some e) false, ?_⟩
    rw [Run.outcome_bind_of_ok hx]
    rfl
  unfold Plan.constructorBody
  refine done ?_
  rcases h with hliteral | ⟨c, hcache, hroom⟩
  · refine Run.mapM_succeeds (R := fun _ _ => True) _ (fun q hq k v _ => ?_) trivial
    split
    · rename_i x hx
      obtain ⟨e, he⟩ := Option.isSome_iff_exists.mp (hliteral q hq x hx)
      obtain ⟨s, hs⟩ := first (fun w => p.spell w q.hint)
        (Plan.selfField q.name) (defaultExpr_of_literal (w := v) p he)
      exact ⟨s, v, hs, trivial⟩
    · obtain ⟨s, hs⟩ := first (fun w => p.spell w q.hint)
        (Plan.selfField q.name) (Run.outcome_pure (.const .none) v)
      exact ⟨s, v, hs, trivial⟩
  · refine Run.mapM_succeeds (R := Room c) _ (fun q hq k v hv => ?_) hroom
    split
    · rename_i x hx
      obtain ⟨e, v', he, hv'⟩ := defaultExpr_succeeds hcache hv x
      obtain ⟨s, hs⟩ := first (fun w => p.spell w q.hint)
        (Plan.selfField q.name) he
      exact ⟨s, v', hs, hv'⟩
    · obtain ⟨s, hs⟩ := first (fun w => p.spell w q.hint)
        (Plan.selfField q.name) (Run.outcome_pure (.const .none) v)
      exact ⟨s, v, hs, hv.mono (by omega)⟩

end Written

/-! ## After a history -/

/-- A table that holds the first declaration of each name, in the order of the names. -/
structure HoldsFirst {α : Type} (name : α → String) (declared : List α) (t : Table String α) :
    Prop where
  keys : t.keys = (declared.map name).eraseDups
  values : ∀ n, t.get? n = declared.find? fun x => name x = n

theorem holdsFirst_keepFirst {α : Type} (name : α → String) (declared : List α) :
    HoldsFirst name declared (Table.keepFirst name {} declared) :=
  ⟨Table.keys_keepFirst name declared, fun n => by simp [Table.get?_keepFirst]⟩

/-- The names of declared constructor parameters are free. -/
theorem not_reserved_of_declared {rules : List Rule} {op : PlanOperation} {q : ConstructorParameter}
    (h : q ∈ constructorDeclared rules op) : q.name ∉ reservedNames := by
  have hname {n : String} (h : admitsName n = true) : n ∉ reservedNames := by
    simpa using (Bool.and_eq_true_iff.mp h).2
  cases op with
  | convert m =>
    obtain ⟨c, hc, hq⟩ := List.mem_filterMap.mp h
    obtain ⟨r, hr, rfl⟩ := List.mem_map.mp hc
    have hadmits := List.mem_takeWhile_imp hr
    unfold fieldDeclared? at hq
    split at hq
    · rename_i hroute
      obtain rfl := Option.some.inj hq
      unfold admits admitsPlace at hadmits
      unfold convertedOf at hroute ⊢
      split at hadmits
      · rename_i hv
        rw [if_pos hv] at hroute
        cases hroute
      · rename_i hv
        rw [if_neg hv] at hroute ⊢
        have hnot : ¬ (convert rules r).route = .property := by
          dsimp only at hroute
          simp [hroute]
        rw [if_neg hnot] at hadmits
        dsimp only
        rw [if_neg hnot]
        exact hname hadmits
    · cases hq
  | require n hint =>
    simp only [constructorDeclared] at h
    split at h
    · rename_i hn
      rw [List.mem_singleton.mp h]
      exact hname hn
    · cases h

/-- **Nothing that converted methods mention dangles.** After any history of a new plan, refusals
included:
* an argument of a converted method, however early it was converted, mentions only fields that the
  constructor fills from a parameter of its own and properties that are written once;
* no parameter of a converted method or of the constructor has a name that generated code relies on;
* the tables hold the first declaration of each name in order, and whatever happens next only adds to
  them;
* the constructor can be written wherever its defaults can. -/
theorem backed_history (rules : List Rule) (cache : Option Nat) (selfTypeName : Option String)
    (ops : List PlanOperation) :
    let new : Plan := { rules := rules, cache := cache, selfTypeName := selfTypeName }
    let done := planHistory ops new
    (∀ m ∈ convertedMethods done.1, ∀ a ∈ m.mentions,
      (∃ name, a = fieldOf name ∧ BackedField done.2 name) ∨ BackedProperty done.2 a) ∧
    (∀ m ∈ convertedMethods done.1, ∀ c ∈ m.methodParameters, c.name ∉ reservedNames) ∧
    (∀ q ∈ done.2.constructor.values, q.name ∉ reservedNames) ∧
    HoldsFirst ConstructorParameter.name (ops.flatMap (constructorDeclared rules))
      done.2.constructor ∧
    HoldsFirst RoutedProperty.name (ops.flatMap (propertiesDeclared rules)) done.2.properties ∧
    (∀ more, done.2.constructor.entries <+: (planHistory (ops ++ more) new).2.constructor.entries ∧
      done.2.properties.entries <+: (planHistory (ops ++ more) new).2.properties.entries) ∧
    ∀ w, done.2.Writable w → ∃ body w', done.2.constructorBody.outcome w = (.ok body, w') := by
  intro new done
  have htables : done.2 = new.declare (ops.flatMap (constructorDeclared rules))
      (ops.flatMap (propertiesDeclared rules)) := tables_planHistory ops new
  have hkeyed : done.2.Keyed := by
    rw [htables]
    exact ⟨Keyed.keepFirst _ (keyed_empty _), Keyed.keepFirst _ (keyed_empty _)⟩
  have hprovides {m : ConvertedMethod} (hm : m ∈ convertedMethods done.1) :
      ∀ c ∈ m.parameters, Provides done.2 c := provides_planHistory ops new hm
  refine ⟨fun m hm a ha => ?_, fun m hm c hc => ?_, fun q hq => ?_, ?_, ?_, fun more => ?_,
    fun w hw => constructorBody_succeeds hw⟩
  · obtain ⟨c, hc, ⟨hroute, rfl⟩ | ⟨hroute, rfl⟩⟩ := mem_mentions ha
    · have hp := hprovides hm c hc
      refine .inl ⟨c.name, rfl, backedField hkeyed (hp.field hroute) ?_⟩
      have := hp.checked.notReserved (by simp [hroute])
      rintro hself
      exact this (hself ▸ by simp [reservedNames])
    · exact .inr (backedProperty hkeyed ((hprovides hm c hc).property hroute))
  · obtain ⟨hc, hroute⟩ := List.mem_filter.mp hc
    have hroute : c.route = .method := by simpa using hroute
    exact (hprovides hm c hc).checked.notReserved (by simp [hroute])
  · have hname : q.name ∈ done.2.constructor.keys := by
      rw [← hkeyed.constructor.map_values]
      exact List.mem_map_of_mem hq
    rw [htables] at hname
    rcases (Table.mem_keys_keepFirst _).mp hname with h | ⟨q', hq', he⟩
    · cases h
    · obtain ⟨op, -, hq'⟩ := List.mem_flatMap.mp hq'
      exact he ▸ not_reserved_of_declared hq'
  · rw [htables]
    exact holdsFirst_keepFirst _ _
  · rw [htables]
    exact holdsFirst_keepFirst _ _
  · have hmore : (planHistory (ops ++ more) new).2 =
        done.2.declare (more.flatMap (constructorDeclared rules))
          (more.flatMap (propertiesDeclared rules)) := by
      rw [tables_planHistory, htables, Plan.declare_declare, List.flatMap_append, List.flatMap_append]
    rw [hmore]
    exact ⟨Table.prefix_keepFirst _ _ _, Table.prefix_keepFirst _ _ _⟩

end Conversion

end Facade
