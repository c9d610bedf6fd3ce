import Facade.Proofs.Defaults
import Facade.Wrapper.Layout

/-!
# What planning decides

* `convertedOf`, `Plan.adopt`: what becomes of a parameter, and of the plan.
* `convertMethod_gives`: converting a method adopts its parameters one after the other.
* `Plan.Keyed`: every table of a plan lists each name once, under that name.
* `planning_eq_ok`: planning inside a larger run.
-/

namespace Facade

namespace Conversion

open Logged Describe
open Facade.Describe (ParameterInfo MethodInfo)

/-! ## What becomes of a parameter -/

/-- What becomes of a parameter by rules. -/
def convertedOf (rules : List Rule) (p : ParameterInfo) : ConvertedParameter :=
  if p.kind.isVariadic then ⟨p, .method, p.name⟩
  else
    let c := convert rules p
    ⟨p, c.route, if c.route = .property then propertyName (c.nameFor p) else c.nameFor p⟩

/-- The plan after it has taken a converted parameter in. -/
def Plan.adopt (plan : Plan) (c : ConvertedParameter) : Plan :=
  match c.route with
  | .method => plan
  | .constructor =>
    { plan with constructor := plan.constructor.setDefault c.name ⟨c.name, c.parameter.hint⟩ }
  | .property =>
    let q : RoutedProperty := ⟨c.name, c.parameter.hint, c.parameter.default⟩
    { plan with properties := plan.properties.setDefault c.name q }

/-- A converted parameter that has passed the checks on its name. -/
structure ConvertedParameter.Checked (c : ConvertedParameter) : Prop where
  isName : c.parameter.kind.isVariadic = false → c.route ≠ .property → Text.isName c.name = true
  notReserved : c.route ≠ .property → c.name ∉ reservedNames

theorem gives_checkName {name : String} {plan plan' : Plan} {u : Unit}
    (h : (checkName name).Gives plan u plan') : Text.isName name = true ∧ plan' = plan := by
  unfold checkName at h
  split at h
  · exact (gives_throw h).elim
  · rename_i hn
    exact ⟨by simpa using hn, (gives_pure h).2⟩

theorem gives_checkNotReserved {name : String} {plan plan' : Plan} {u : Unit}
    (h : (checkNotReserved name).Gives plan u plan') : name ∉ reservedNames ∧ plan' = plan := by
  unfold checkNotReserved at h
  split at h
  · exact (gives_throw h).elim
  · rename_i hn
    exact ⟨by simpa using hn, (gives_pure h).2⟩

theorem gives_addConstructorParameter {name : String} {hint : Option Value} {plan plan' : Plan}
    {u : Unit} (h : (Plan.addConstructorParameter name hint).Gives plan u plan') :
    Text.isName name = true ∧ name ∉ reservedNames ∧
      plan' = { plan with constructor := plan.constructor.setDefault name ⟨name, hint⟩ } := by
  unfold Plan.addConstructorParameter at h
  obtain ⟨_, p₁, hname, h₁⟩ := gives_bind h
  obtain ⟨hvalid, rfl⟩ := gives_checkName hname
  obtain ⟨_, p₂, hres, h₂⟩ := gives_bind h₁
  obtain ⟨hfree, rfl⟩ := gives_checkNotReserved hres
  exact ⟨hvalid, hfree, gives_change h₂⟩

theorem place_gives {c : Destination} {p : ParameterInfo} {plan plan' : Plan} {name : String}
    (h : (Plan.place c p).Gives plan name plan') :
    name = (if c.route = .property then propertyName (c.nameFor p) else c.nameFor p) ∧
      plan' = plan.adopt ⟨p, c.route, name⟩ ∧
      (c.route ≠ .property → Text.isName name = true ∧ name ∉ reservedNames) := by
  unfold Plan.place at h
  obtain ⟨_, p₁, hname, h₁⟩ := gives_bind h
  obtain ⟨hvalid, rfl⟩ := gives_checkName hname
  cases hr : c.route with
  | method =>
    rw [hr] at h₁
    obtain ⟨_, p₂, hres, h₂⟩ := gives_bind h₁
    obtain ⟨hfree, rfl⟩ := gives_checkNotReserved hres
    obtain ⟨rfl, rfl⟩ := gives_pure h₂
    exact ⟨rfl, rfl, fun _ => ⟨hvalid, hfree⟩⟩
  | constructor =>
    rw [hr] at h₁
    obtain ⟨_, p₂, hadd, h₂⟩ := gives_bind h₁
    obtain ⟨-, hfree, hp₂⟩ := gives_addConstructorParameter hadd
    obtain ⟨rfl, rfl⟩ := gives_pure h₂
    exact ⟨rfl, hp₂, fun _ => ⟨hvalid, hfree⟩⟩
  | property =>
    rw [hr] at h₁
    obtain ⟨_, p₂, hadd, h₂⟩ := gives_bind h₁
    have hp₂ := gives_change (s := p₁) hadd
    obtain ⟨rfl, rfl⟩ := gives_pure h₂
    refine ⟨rfl, hp₂.trans ?_, fun hne => absurd rfl hne⟩
    rfl

theorem convertParameter_gives {method : String} {p : ParameterInfo} {plan plan' : Plan}
    {c : ConvertedParameter} (h : (Plan.convertParameter method p).Gives plan c plan') :
    c = convertedOf plan.rules p ∧ plan' = plan.adopt c ∧ c.Checked := by
  unfold Plan.convertParameter at h
  split at h
  · rename_i hv
    obtain ⟨_, p₁, hres, h₁⟩ := gives_bind h
    obtain ⟨hfree, rfl⟩ := gives_checkNotReserved hres
    obtain ⟨rfl, rfl⟩ := gives_pure h₁
    exact ⟨by rw [convertedOf, if_pos hv], rfl, by simp [hv], fun _ => hfree⟩
  · rename_i hv
    obtain ⟨q, p₀, hstate, h₀⟩ := gives_bind h
    obtain ⟨hq, hp₀⟩ := gives_state hstate
    subst hq hp₀
    obtain ⟨name, p₁, hplace, h₁⟩ := gives_bind h₀
    obtain ⟨hname, hadopt, hchecked⟩ := place_gives hplace
    have done {p₂ : Plan} {d : ConvertedParameter}
        (h : (pure ⟨p, (convert p₀.rules p).route, name⟩ : Planning ConvertedParameter).Gives p₂ d
          plan') (hp₂ : p₂ = p₁) :
        d = convertedOf p₀.rules p ∧ plan' = p₀.adopt d ∧ d.Checked := by
      obtain ⟨rfl, rfl⟩ := gives_pure h
      rw [hp₂]
      exact ⟨by rw [convertedOf, if_neg hv, hname], hadopt, fun _ hne => (hchecked hne).1,
        fun hne => (hchecked hne).2⟩
    dsimp only at h₁
    split at h₁
    · obtain ⟨_, p₂, hnote, h₂⟩ := gives_bind h₁
      exact done h₂ (gives_note hnote)
    · exact done h₁ rfl

theorem parameter_convertedOf (rules : List Rule) (p : ParameterInfo) :
    (convertedOf rules p).parameter = p := by
  unfold convertedOf
  split <;> rfl

theorem rules_adopt (plan : Plan) (c : ConvertedParameter) :
    (plan.adopt c).rules = plan.rules ∧ (plan.adopt c).cache = plan.cache ∧
      (plan.adopt c).selfTypeName = plan.selfTypeName := by
  unfold Plan.adopt
  split <;> exact ⟨rfl, rfl, rfl⟩

theorem rules_foldl_adopt (cs : List ConvertedParameter) : ∀ plan : Plan,
    (cs.foldl Plan.adopt plan).rules = plan.rules ∧ (cs.foldl Plan.adopt plan).cache = plan.cache ∧
      (cs.foldl Plan.adopt plan).selfTypeName = plan.selfTypeName := by
  induction cs with
  | nil => exact fun plan => ⟨rfl, rfl, rfl⟩
  | cons c cs ih =>
    intro plan
    obtain ⟨hrules, hcache, hself⟩ := ih (plan.adopt c)
    obtain ⟨hrules', hcache', hself'⟩ := rules_adopt plan c
    exact ⟨hrules.trans hrules', hcache.trans hcache', hself.trans hself'⟩

/-- **Converting a method adopts its parameters one after the other.** -/
theorem convertMethod_gives {m : MethodInfo} {plan plan' : Plan} {c : ConvertedMethod}
    (h : (Plan.convertMethod m).Gives plan c plan') :
    c = ⟨m, m.params.map (convertedOf plan.rules)⟩ ∧ plan' = c.parameters.foldl Plan.adopt plan ∧
      ∀ p ∈ c.parameters, p.Checked := by
  unfold Plan.convertMethod at h
  obtain ⟨cs, p₁, hcs, h₁⟩ := gives_bind h
  obtain ⟨rfl, rfl⟩ := gives_pure h₁
  obtain ⟨rfl, hp₁, hchecked⟩ := gives_mapM (I := fun p => p.rules = plan.rules)
    (Q := ConvertedParameter.Checked) (g := convertedOf plan.rules) (t := Plan.adopt) m.params
    (fun p s c s' hs hc => by
      obtain ⟨rfl, rfl, hchecked⟩ := convertParameter_gives hc
      rw [hs]
      exact ⟨rfl, rfl, hs ▸ hchecked, (rules_adopt s _).1.trans hs⟩) rfl hcs
  exact ⟨rfl, hp₁, hchecked⟩

/-! ## Tables -/

/-- A table that lists each name once, under that name. -/
structure Keyed {α : Type} (name : α → String) (t : Table String α) : Prop where
  names : ∀ e ∈ t.entries, name e.2 = e.1
  nodup : t.keys.Nodup

theorem keyed_empty {α : Type} (name : α → String) : Keyed name ({} : Table String α) :=
  ⟨by simp, by simp⟩

theorem Keyed.map_values {α : Type} {name : α → String} {t : Table String α} (h : Keyed name t) :
    t.values.map name = t.keys := by
  unfold Table.values Table.keys
  rw [List.map_map]
  exact List.map_congr_left h.names

theorem Keyed.setDefault {α : Type} {name : α → String} {t : Table String α} (h : Keyed name t)
    (x : α) : Keyed name (t.setDefault (name x) x) := by
  constructor
  · intro e he
    unfold Table.setDefault at he
    split at he
    · exact h.names e he
    · rcases List.mem_append.mp he with he | he
      · exact h.names e he
      · rw [List.mem_singleton] at he
        rw [he]
  · rw [Table.keys_setDefault]
    split
    · exact h.nodup
    · rename_i hn
      exact List.nodup_append.mpr ⟨h.nodup, by simp, fun a ha b hb => by
        rw [List.mem_singleton] at hb
        rintro rfl
        exact hn (hb ▸ ha)⟩

/-- A plan whose tables list each name once, under that name. -/
structure Plan.Keyed (p : Plan) : Prop where
  constructor : Conversion.Keyed ConstructorParameter.name p.constructor
  properties : Conversion.Keyed RoutedProperty.name p.properties

theorem Plan.Keyed.adopt {p : Plan} (h : p.Keyed) (c : ConvertedParameter) : (p.adopt c).Keyed := by
  unfold Plan.adopt
  split
  · exact h
  · exact ⟨h.constructor.setDefault ⟨c.name, c.parameter.hint⟩, h.properties⟩
  · exact ⟨h.constructor,
      h.properties.setDefault ⟨c.name, c.parameter.hint, c.parameter.default⟩⟩

theorem Plan.Keyed.foldl {cs : List ConvertedParameter} : ∀ {p : Plan}, p.Keyed →
    (cs.foldl Plan.adopt p).Keyed := by
  induction cs with
  | nil => exact fun h => h
  | cons c cs ih => exact fun h => ih (h.adopt c)

theorem mem_keys_setDefault {α : Type} {t : Table String α} {k k' : String} {x : α} :
    k' ∈ (t.setDefault k x).keys ↔ k' ∈ t.keys ∨ k' = k := by
  rw [Table.keys_setDefault]
  split <;> simp_all

/-- The constructor has a parameter for everything that is routed to it. -/
theorem mem_constructor_foldl {n : String} (cs : List ConvertedParameter) : ∀ {p : Plan},
    n ∈ (cs.foldl Plan.adopt p).constructor.keys ↔
      n ∈ p.constructor.keys ∨ ∃ c ∈ cs, c.route = .constructor ∧ c.name = n := by
  induction cs with
  | nil => simp
  | cons c cs ih =>
    intro p
    rw [List.foldl_cons, ih]
    have hstep : n ∈ (p.adopt c).constructor.keys ↔
        n ∈ p.constructor.keys ∨ (c.route = .constructor ∧ c.name = n) := by
      unfold Plan.adopt
      cases hr : c.route <;> simp [mem_keys_setDefault, eq_comm]
    rw [hstep, or_assoc]
    simp

theorem mem_values_setDefault {α : Type} {t : Table String α} {k : String} {x y : α}
    (h : y ∈ (t.setDefault k x).values) : y ∈ t.values ∨ y = x := by
  unfold Table.setDefault Table.values at h
  split at h
  · exact .inl h
  · rw [List.map_append, List.mem_append] at h
    exact h.imp_right fun h => by simpa using h

/-- What the constructor has comes from what is routed to it. -/
theorem mem_constructor_values {q : ConstructorParameter} (cs : List ConvertedParameter) :
    ∀ {p : Plan}, q ∈ (cs.foldl Plan.adopt p).constructor.values →
      q ∈ p.constructor.values ∨ ∃ c ∈ cs, q = ⟨c.name, c.parameter.hint⟩ := by
  induction cs with
  | nil => exact fun h => .inl h
  | cons c cs ih =>
    intro p h
    rcases ih h with h | ⟨d, hd, he⟩
    · unfold Plan.adopt at h
      cases hr : c.route with
      | method | property => rw [hr] at h; exact .inl h
      | constructor =>
        rw [hr] at h
        exact (mem_values_setDefault h).imp_right fun he => ⟨c, List.mem_cons_self, he⟩
    · exact .inr ⟨d, List.mem_cons_of_mem c hd, he⟩

/-- The property of a converted parameter. -/
def propertyOf (c : ConvertedParameter) : RoutedProperty :=
  ⟨c.name, c.parameter.hint, c.parameter.default⟩

/-- What the properties are comes from what is routed to them. -/
theorem mem_properties_values {q : RoutedProperty} (cs : List ConvertedParameter) :
    ∀ {p : Plan}, q ∈ (cs.foldl Plan.adopt p).properties.values →
      q ∈ p.properties.values ∨ ∃ c ∈ cs, c.route = .property ∧ q = propertyOf c := by
  induction cs with
  | nil => exact fun h => .inl h
  | cons c cs ih =>
    intro p h
    rcases ih h with h | ⟨d, hd, he⟩
    · unfold Plan.adopt at h
      cases hr : c.route with
      | method | constructor => rw [hr] at h; exact .inl h
      | property =>
        rw [hr] at h
        exact (mem_values_setDefault h).imp_right fun he => ⟨c, List.mem_cons_self, hr, he⟩
    · exact .inr ⟨d, List.mem_cons_of_mem c hd, he⟩

/-- **The first declaration of a property stays.** -/
theorem get?_properties_foldl {n : String} (cs : List ConvertedParameter) : ∀ {p : Plan},
    (cs.foldl Plan.adopt p).properties.get? n =
      (p.properties.get? n <|>
        (cs.find? fun c => c.route = .property && c.name == n).map propertyOf) := by
  induction cs with
  | nil => simp
  | cons c cs ih =>
    intro p
    rw [List.foldl_cons, ih, List.find?_cons]
    have hstep : (p.adopt c).properties.get? n =
        (p.properties.get? n <|>
          if c.route = .property && c.name == n then some (propertyOf c) else none) := by
      unfold Plan.adopt
      cases hr : c.route with
      | method | constructor => simp
      | property =>
        simp only [Table.get?_setDefault, propertyOf, Table.contains]
        cases hn : p.properties.get? n <;> by_cases hc : c.name = n <;> simp_all
    rw [hstep]
    cases p.properties.get? n with
    | some q => simp
    | none =>
      by_cases hc : (c.route = .property && c.name == n) = true
      · simp [hc]
      · simp [hc]

/-! ## Planning inside a larger run -/

open Run Wrapper in
theorem planning_eq_ok {α : Type} {p p' : Plan} {x : Planning α} {a : α} {w w' : World}
    (h : (planning p x).outcome w = (.ok (a, p'), w')) :
    x.Gives p a p' ∧ ∃ records, w' = { w with records := records } := by
  unfold planning at h
  rw [outcome_bind, outcome_within, after_ok] at h
  rcases hx : x.outcome p with ⟨r, q, log⟩
  rw [hx] at h
  dsimp only at h
  obtain ⟨b, w₁, hb, hdone⟩ := bind_eq_ok h
  obtain ⟨rfl, rfl⟩ := orRefuse_eq_ok hb
  rw [outcome_pure, Prod.mk.injEq, Except.ok.injEq, Prod.mk.injEq] at hdone
  obtain ⟨⟨rfl, rfl⟩, rfl⟩ := hdone
  exact ⟨⟨[], log, hx⟩, _, rfl⟩

end Conversion

end Facade
