import Facade.Proofs.Describing
import Facade.Proofs.Tables

/-!
# Which properties a class has

Every class of a linearisation lists the annotated attributes and the properties that it declares
itself. Of all that are listed under a name, the most derived class has the last word, with its property
rather than with its attribute; a class that declares a variable of the class has no word.

* `publicProperties`, `ownProperties_eq`: the properties that a class declares.
* `Lists`: what a class lists.
* `lastNamed`, `Overrides`: the last word of the most derived class.
* `propertiesOf_overrides`: the properties of a class are what its linearisation says.
* `classVariable_passed_over`: a variable of the class does not hide an attribute of an ancestor.
-/

namespace Facade.Describe

open Execution Run
open MethodInfo (isPublicName)

variable {w w' : World} {c a : Named} {info : ClassInfo} {ps : List PropertyInfo}

/-! ## The properties of one class -/

/-- The public properties that a class declares itself: their names, getters and setters. -/
def publicProperties (c : ClassInfo) : List (String × Option Value × Option Value) :=
  c.members.entries.filterMap fun e =>
    match e.2 with
    | .property getter setter => if isPublicName e.1 then some (e.1, getter, setter) else none
    | _ => none

/-- The annotation of the result of a getter, if there is one. -/
def resultHint : Option Value → Run (Option Value)
  | some g => return (← typeHints g).get? "return"
  | none => return none

/-- Describes a property. -/
def describeProperty (c : ClassInfo) (q : String × Option Value × Option Value) : Run PropertyInfo :=
  return { name := q.1, hint := present (← resultHint q.2.1), writable := q.2.2.isSome,
           declaring := c.named }

/-- Operations on some members of a list are operations on the list of those. -/
theorem filterMap_mapM {α β γ : Type} {f : α → Run (Option β)} {g : α → Option γ} {k : γ → Run β}
    (h : ∀ x, f x = match g x with | some y => some <$> k y | none => pure none) (l : List α) :
    (do return (← l.mapM f).filterMap id : Run (List β)) = (l.filterMap g).mapM k := by
  induction l with
  | nil => simp
  | cons x l ih =>
    rw [List.mapM_cons, h x]
    cases hg : g x with
    | none => simpa [List.filterMap_cons_none hg] using ih
    | some y =>
      rw [List.filterMap_cons_some hg, List.mapM_cons, ← ih]
      simp

theorem ownProperties_eq (c : ClassInfo) :
    ownProperties c = (publicProperties c).mapM (describeProperty c) := by
  unfold ownProperties publicProperties
  refine filterMap_mapM (fun e => ?_) c.members.entries
  obtain ⟨name, member⟩ := e
  cases member with
  | property getter setter =>
    dsimp only
    by_cases hpublic : isPublicName name = true
    · rw [if_pos hpublic, if_pos hpublic]
      cases getter <;> simp [describeProperty, resultHint]
    · rw [if_neg hpublic, if_neg hpublic]
  | _ => rfl

/-- What is known of a property that a class declares. The annotation of its getter's result is worked
out in some world that the given one evolves to. -/
structure PropertyEntry (w : World) (c : ClassInfo) (q : String × Option Value × Option Value)
    (p : PropertyInfo) : Prop where
  name : p.name = q.1
  writable : p.writable = q.2.2.isSome
  declaring : p.declaring = c.named
  hint : match q.2.1 with
    | some g => ∃ hints u u', w.Evolves u ∧ (typeHints g).outcome u = (.ok hints, u') ∧
        p.hint = present (hints.get? "return")
    | none => p.hint = none

theorem describeProperty_gives {q : String × Option Value × Option Value} {p : PropertyInfo}
    {u u' : World} (hu : w.Evolves u) (h : (describeProperty info q).outcome u = (.ok p, u')) :
    PropertyEntry w info q p ∧ u.Evolves u' := by
  obtain ⟨name, getter, setter⟩ := q
  obtain ⟨hint, u₁, hhint, hdone⟩ := bind_eq_ok h
  rw [outcome_pure, Prod.mk.injEq, Except.ok.injEq] at hdone
  obtain ⟨rfl, rfl⟩ := hdone
  cases getter with
  | none =>
    rw [resultHint, outcome_pure, Prod.mk.injEq, Except.ok.injEq] at hhint
    obtain ⟨rfl, rfl⟩ := hhint
    exact ⟨⟨rfl, rfl, rfl, rfl⟩, .refl _⟩
  | some g =>
    obtain ⟨hints, u₂, hhints, hdone⟩ := bind_eq_ok hhint
    rw [outcome_pure, Prod.mk.injEq, Except.ok.injEq] at hdone
    obtain ⟨rfl, rfl⟩ := hdone
    exact ⟨⟨rfl, rfl, rfl, hints, u, _, hu, hhints, rfl⟩, (growsAt_typeHints g).evolves hhints⟩

/-! ## What a class lists -/

/-- What a class lists: its annotated attributes that are no variables of the class, by hints that are
worked out in some world that the given one evolves to, and then its properties. -/
inductive Lists (w : World) (writable : Bool) (a : Named) : List PropertyInfo → Prop
  | nothing (h : w.class? a.id = none) : Lists w writable a []
  | members {c : ClassInfo} {hints : Table String Value} {u u' : World} {own : List PropertyInfo}
    (known : w.class? a.id = some c) (evolves : w.Evolves u)
    (evaluated : (typeHints (.cls a)).outcome u = (.ok hints, u'))
    (properties : List.Forall₂ (PropertyEntry w c) (publicProperties c) own) :
    Lists w writable a (attributesOf c hints writable ++ own)

/-- The last entry of a list under a name. -/
def lastNamed (n : String) (l : List PropertyInfo) : Option PropertyInfo :=
  l.reverse.find? fun p => p.name = n

/-- The classes that a class inherits from and the class itself, the most derived one first. -/
def ancestors (w : World) (c : Named) : List Named :=
  (w.linearisation c.id).filter fun a => a.id != Standard.object.id

/-- **Derived classes have the last word.** Of what the classes of a linearisation list, the most derived
class that lists a name decides about it; names come in the order in which they are listed first, from
the least derived class on. -/
structure Overrides (lists : List (List PropertyInfo)) (ps : List PropertyInfo) : Prop where
  /-- Each name comes once. -/
  nodup : (ps.map PropertyInfo.name).Nodup
  order : ps.map PropertyInfo.name = (lists.reverse.flatten.map PropertyInfo.name).eraseDups
  entry : ∀ p, p ∈ ps ↔ lists.findSome? (lastNamed p.name) = some p

theorem overrides_ofList (lists : List (List PropertyInfo)) :
    Overrides lists (Table.ofList (lists.reverse.flatten.map fun p => (p.name, p))).values := by
  set es := lists.reverse.flatten.map fun p => (p.name, p) with hes
  have hkeyed : ∀ e ∈ (Table.ofList es).entries, e.2.name = e.1 := by
    intro e he
    have hget := (Table.get?_eq_some_iff (Table.nodup_keys_ofList es)).mpr he
    rw [Table.get?_ofList] at hget
    obtain ⟨d, hd, hde⟩ := Option.map_eq_some_iff.mp hget
    obtain ⟨p, -, rfl⟩ := List.mem_map.mp (List.mem_reverse.mp (List.mem_of_find?_eq_some hd))
    have hfound := List.find?_some hd
    rw [← hde]
    simpa using hfound
  have hnames : (Table.ofList es).values.map PropertyInfo.name = (Table.ofList es).keys := by
    rw [Table.values, Table.keys, List.map_map]
    exact List.map_congr_left hkeyed
  have hkeys : (Table.ofList es).keys = (lists.reverse.flatten.map PropertyInfo.name).eraseDups := by
    rw [Table.keys_ofList, hes, List.map_map]
    rfl
  refine ⟨hnames ▸ Table.nodup_keys_ofList es, hnames.trans hkeys, fun p => ?_⟩
  have hlast : (es.reverse.find? fun e => e.1 = p.name).map Prod.snd =
      lists.findSome? (lastNamed p.name) := by
    rw [hes, ← List.map_reverse, List.find?_map, Option.map_map, List.reverse_flatten,
      List.map_reverse, List.reverse_reverse, List.find?_flatten, List.findSome?_map]
    exact congrFun Option.map_id _
  rw [← hlast, ← Table.get?_ofList, Table.get?_eq_some_iff (Table.nodup_keys_ofList es)]
  constructor
  · intro hp
    obtain ⟨e, he, rfl⟩ := List.mem_map.mp hp
    rw [hkeyed e he]
    exact he
  · exact fun h => List.mem_map_of_mem (f := Prod.snd) h

/-! ## What a class and its ancestors list -/

/-- What one class contributes to the properties of another. -/
def listed (w : World) (writable : Bool) (a : Named) : Run (List PropertyInfo) := do
  match w.class? a.id with
  | some info =>
    let hints ← typeHints (.cls a)
    return attributesOf info hints writable ++ (← ownProperties info)
  | none => return []

theorem propertiesOf_eq (c : Named) : propertiesOf c = do
    let w ← get
    let lists ← (ancestors w c).reverse.mapM (listed w (!isFrozen w c))
    return (Table.ofList (lists.flatten.map fun p => (p.name, p))).values := by
  have h (w : World) : (ancestors w c).reverse =
      (w.linearisation c.id).reverse.filter fun a => a.id != Standard.object.id :=
    List.filter_reverse.symm
  simp only [h]
  rfl

theorem growsAt_listed (writable : Bool) (u : World) : (listed w writable a).GrowsAt u := by
  unfold listed
  split
  · exact (growsAt_typeHints _).bind fun _ _ => (growsAt_ownProperties _).bind fun _ _ => growsAt_pure _
  · exact growsAt_pure _

theorem listed_gives {writable : Bool} {l : List PropertyInfo} {u u' : World} (hu : w.Evolves u)
    (h : (listed w writable a).outcome u = (.ok l, u')) : Lists w writable a l ∧ u.Evolves u' := by
  refine ⟨?_, (growsAt_listed writable u).evolves h⟩
  unfold listed at h
  split at h
  · rename_i info hinfo
    obtain ⟨hints, u₁, hhints, h⟩ := bind_eq_ok h
    obtain ⟨own, u₂, hown, h⟩ := bind_eq_ok h
    rw [outcome_pure, Prod.mk.injEq, Except.ok.injEq] at h
    obtain ⟨rfl, rfl⟩ := h
    rw [ownProperties_eq] at hown
    have hu₁ := (growsAt_typeHints (.cls a)).evolves hhints
    have hall := (mapM_gives (S := World.Evolves) (R := fun _ => PropertyEntry w info) .refl
      (fun h h' => h.trans h') (fun _ h => h) _
      (fun q _ v p v' hv hp => describeProperty_gives ((hu.trans hu₁).trans hv) hp) hown).1
    exact .members hinfo hu hhints hall
  · rename_i hinfo
    rw [outcome_pure, Prod.mk.injEq, Except.ok.injEq] at h
    obtain ⟨rfl, rfl⟩ := h
    exact .nothing hinfo

/-! ## Failures -/

/-- In all worlds that a world evolves to, an operation fails only with what working out some hints
fails with. -/
def FailsAsHints {α : Type} (w : World) (x : Run α) : Prop :=
  ∀ u e u', w.Evolves u → x.outcome u = (.error e, u') →
    ∃ v t t', w.Evolves t ∧ (typeHints v).outcome t = (.error e, t')

section Failing

variable {α β : Type} {x : Run α} {f : α → Run β}

theorem failsAsHints_pure (b : β) : FailsAsHints w (pure b) := by
  intro u e u' _ h
  cases h

theorem failsAsHints_typeHints (v : Value) : FailsAsHints w (typeHints v) :=
  fun u _ u' hu h => ⟨v, u, u', hu, h⟩

theorem FailsAsHints.bind (h : FailsAsHints w x) (hx : ∀ u, x.GrowsAt u)
    (hf : ∀ a, FailsAsHints w (f a)) : FailsAsHints w (x >>= f) := by
  intro u e u' hu hfail
  rw [outcome_bind] at hfail
  rcases ha : x.outcome u with ⟨e' | a, u₁⟩
  · rw [ha, after_error, Prod.mk.injEq, Except.error.injEq] at hfail
    obtain ⟨rfl, rfl⟩ := hfail
    exact h u e' u₁ hu ha
  · rw [ha, after_ok] at hfail
    exact hf a u₁ e u' (hu.trans ((hx u).evolves ha)) hfail

theorem failsAsHints_mapM (hf : ∀ a, FailsAsHints w (f a)) (hg : ∀ a u, (f a).GrowsAt u)
    (l : List α) : FailsAsHints w (l.mapM f) := by
  induction l with
  | nil => exact failsAsHints_pure []
  | cons a l ih =>
    rw [List.mapM_cons]
    exact (hf a).bind (hg a) fun b => ih.bind (growsAt_mapM l hg) fun bs => failsAsHints_pure _

end Failing

theorem growsAt_describeProperty (q : String × Option Value × Option Value) (u : World) :
    (describeProperty info q).GrowsAt u := by
  obtain ⟨name, _ | g, setter⟩ := q
  · exact growsAt_pure _
  · exact ((growsAt_typeHints g).bind fun _ _ => growsAt_pure _).bind fun _ _ => growsAt_pure _

theorem failsAsHints_listed (writable : Bool) (a : Named) : FailsAsHints w (listed w writable a) := by
  have hproperty (info : ClassInfo) (q : String × Option Value × Option Value) :
      FailsAsHints w (describeProperty info q) := by
    obtain ⟨name, _ | g, setter⟩ := q
    · exact failsAsHints_pure _
    · refine FailsAsHints.bind ?_ (fun u => ?_) fun _ => failsAsHints_pure _
      · exact (failsAsHints_typeHints g).bind (fun _ => growsAt_typeHints g) fun _ => failsAsHints_pure _
      · exact (growsAt_typeHints g).bind fun _ _ => growsAt_pure _
  unfold listed
  split
  · rename_i info _
    refine (failsAsHints_typeHints _).bind (fun _ => growsAt_typeHints _) fun hints => ?_
    refine FailsAsHints.bind ?_ (fun _ => growsAt_ownProperties _) fun _ => failsAsHints_pure _
    rw [ownProperties_eq]
    exact failsAsHints_mapM (hproperty info) growsAt_describeProperty _
  · exact failsAsHints_pure _

/-! ## The properties of a class -/

/-- Properties that have been found are what the classes of the linearisation list. -/
theorem propertiesOf_eq_ok (h : (propertiesOf c).outcome w = (.ok ps, w')) :
    ∃ lists, List.Forall₂ (Lists w (!isFrozen w c)) (ancestors w c) lists ∧ Overrides lists ps := by
  rw [propertiesOf_eq, outcome_get_bind] at h
  obtain ⟨found, w₁, hfound, h⟩ := bind_eq_ok h
  rw [outcome_pure, Prod.mk.injEq, Except.ok.injEq] at h
  obtain ⟨rfl, rfl⟩ := h
  have hlists := (mapM_gives (S := World.Evolves) (R := fun _ => Lists w (!isFrozen w c)) .refl
    (fun h h' => h.trans h') (fun _ h => h) _ (fun a _ u l u' hu hl => listed_gives hu hl) hfound).1
  refine ⟨found.reverse, ?_, ?_⟩
  · rw [← List.reverse_reverse (ancestors w c)]
    exact List.rel_reverse hlists
  · have hover := overrides_ofList found.reverse
    rwa [List.reverse_reverse] at hover

/-- **The properties of a class are what its linearisation says,** the class itself first. They cannot be
had only if some annotation cannot be worked out. -/
theorem propertiesOf_overrides (c : Named) (w : World) :
    (∃ ps w' lists, (propertiesOf c).outcome w = (.ok ps, w') ∧
      List.Forall₂ (Lists w (!isFrozen w c)) (ancestors w c) lists ∧ Overrides lists ps) ∨
    ∃ e w' v u u', (propertiesOf c).outcome w = (.error e, w') ∧ w.Evolves u ∧
      (typeHints v).outcome u = (.error e, u') := by
  rcases h : (propertiesOf c).outcome w with ⟨e | ps, w'⟩
  · refine .inr ⟨e, w', ?_⟩
    rw [propertiesOf_eq, outcome_get_bind] at h
    have hlists : FailsAsHints w ((ancestors w c).reverse.mapM (listed w (!isFrozen w c))) :=
      failsAsHints_mapM (failsAsHints_listed _) (fun a => growsAt_listed _) _
    obtain ⟨v, u, u', hu, hv⟩ := hlists.bind (growsAt_mapM _ fun a => growsAt_listed _)
      (fun _ => failsAsHints_pure _) w e w' (.refl w) h
    exact ⟨v, u, u', rfl, hu, hv⟩
  · obtain ⟨lists, hlists, hover⟩ := propertiesOf_eq_ok h
    exact .inl ⟨ps, w', lists, rfl, hlists, hover⟩

/-! ## Variables of the class -/

/-- A class with an attribute. -/
def lamp : Named := ⟨1, "tools", "Lamp"⟩

/-- A class derived from it, which has a variable of the class under the name. -/
def signal : Named := ⟨2, "tools", "Signal"⟩

/-- The annotation of a variable of the class. -/
def classVariable : Value := .generic (.special "") (.special "ClassVar") [.cls Standard.object]

/-- A class of its own that annotates one name. -/
def annotating (c : Named) (ancestors : List Named) (hint : Value) : ClassInfo :=
  { named := c, name := c.qualname, bases := ancestors.take 1, linearisation := c :: ancestors,
    members := ⟨[("__annotations__", .dict [(.str "level", hint)])]⟩ }

/-- A world with the two classes. -/
def lampWorld : World :=
  { objects := #[
      .cls { named := Standard.object, name := "object", linearisation := [Standard.object],
             builtin := true },
      .cls (annotating lamp [Standard.object] (.cls Standard.object)),
      .cls (annotating signal [lamp, Standard.object] classVariable)] }

/-- **A variable of the class is passed over,** and with it the class that declares it: the name is
listed as the ancestor has it. -/
theorem classVariable_passed_over : isClassVariable classVariable = true ∧
    (lampWorld.class? signal.id).map classAnnotations = some [("level", classVariable)] ∧
    (lampWorld.linearisation signal.id).head? = some signal ∧
    ((propertiesOf signal).outcome lampWorld).1.toOption.map (List.map fun p => (p.name, p.declaring)) =
      some [("level", lamp)] :=
  ⟨rfl, rfl, rfl, by with_unfolding_all rfl⟩

end Facade.Describe
