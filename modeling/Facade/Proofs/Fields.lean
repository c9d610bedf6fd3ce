import Facade.Proofs.CallableCalls

/-!
# Fields of objects

* `World.field?`, `World.member?`: what an object has in a field of its own, and what its class has for it.
* `Alters`: fields of an object are written, and everything that its class has for it stays.
* `Sets`: nothing is done to modules either.
* `sets_of_setAttr`: writing an attribute that is no property writes a field.
* `Knows`: a frame of a method, which reads and assigns the fields of its object.
-/

namespace Facade

open Run Execution
open Syntax (Expr Stmt mangle)

/-- What an object has in a field. -/
def World.field? (w : World) (x : Nat) (s : String) : Option Value :=
  (w.instance? x).bind fun i => i.attrs.get? s

/-- What the class of an object has under a name. -/
def World.member? (w : World) (x : Nat) (s : String) : Option Value :=
  (w.instance? x).bind fun i => w.findMember? (w.linearisation i.cls.id) s

/-- The latest value of a name. -/
def lastValue (es : List (String × Value)) (s : String) : Option Value := Describe.given es.reverse s

theorem Run.discard_eq_ok {α : Type} {y : Run α} {w w' : World} (h : (discard y).outcome w = (.ok ⟨⟩, w')) :
    ∃ a, y.outcome w = (.ok a, w') := by
  change ((Functor.map _ y).outcome w) = _ at h
  rw [outcome_map] at h
  rcases hy : y.outcome w with ⟨r, w₁⟩
  rw [hy] at h
  cases r with
  | error e => cases h
  | ok a => exact ⟨a, by rw [(Prod.mk.inj h).2]⟩

variable {w w' w'' : World} {x n : Nat} {s t : String} {v u : Value} {es es' : List (String × Value)}

theorem lastValue_append (es es' : List (String × Value)) (s : String) :
    lastValue (es ++ es') s = (lastValue es' s <|> lastValue es s) := by
  rw [lastValue, List.reverse_append, Describe.given_append]
  rfl

theorem lastValue_singleton (t : String) (v : Value) (s : String) :
    lastValue [(t, v)] s = if t = s then some v else none := by
  rw [lastValue, List.reverse_singleton, Describe.given_cons]
  rfl

/-- Where each name is given once, its value is the latest one. -/
theorem lastValue_of_mem (hn : (es.map Prod.fst).Nodup) {e : String × Value} (he : e ∈ es) :
    lastValue es e.1 = some e.2 := by
  refine Describe.given_of_mem ?_ (List.mem_reverse.mpr he)
  rw [List.map_reverse]
  exact List.nodup_reverse.mpr hn

namespace Execution

/-- An object stands where all its classes are. -/
def Standing (w : World) (x : Nat) : Prop :=
  ∃ i c, w.instance? x = some i ∧ w.class? i.cls.id = some c ∧
    ∀ k ∈ c.linearisation, ∃ d, w.class? k.id = some d

theorem Standing.instance (h : Standing w x) : ∃ i, w.instance? x = some i := by
  obtain ⟨i, c, hi, -⟩ := h
  exact ⟨i, hi⟩

/-- Fields of an object are written, one after the other; the object keeps its class, and the class what it
has for the object. -/
structure Alters (x : Nat) (es : List (String × Value)) (w w' : World) : Prop where
  class_ : ∀ i, w.instance? x = some i → ∃ j, w'.instance? x = some j ∧ j.cls = i.cls
  fields : ∀ s, w'.field? x s = (lastValue es s <|> w.field? x s)
  members : ∀ s, w'.member? x s = w.member? x s
  grows : w.Grows w'

namespace Alters

protected theorem refl (x : Nat) (w : World) : Alters x [] w w :=
  ⟨fun i h => ⟨i, h, rfl⟩, fun _ => rfl, fun _ => rfl, .refl w⟩

protected theorem trans (h : Alters x es w w') (h' : Alters x es' w' w'') :
    Alters x (es ++ es') w w'' where
  class_ i hi := by
    obtain ⟨j, hj, hcls⟩ := h.class_ i hi
    obtain ⟨k, hk, hcls'⟩ := h'.class_ j hj
    exact ⟨k, hk, hcls'.trans hcls⟩
  fields s := by
    rw [h'.fields, h.fields, lastValue_append]
    cases lastValue es' s <;> rfl
  members s := (h'.members s).trans (h.members s)
  grows := h.grows.trans h'.grows

theorem standing (h : Alters x es w w') (hs : Standing w x) : Standing w' x := by
  obtain ⟨i, c, hi, hc, hall⟩ := hs
  obtain ⟨j, hj, hcls⟩ := h.class_ i hi
  obtain ⟨ms, hms, -⟩ := h.grows.class? hc
  refine ⟨j, _, hj, hcls ▸ hms, fun k hk => ?_⟩
  obtain ⟨d, hd⟩ := hall k hk
  obtain ⟨ds, hds, -⟩ := h.grows.class? hd
  exact ⟨_, hds⟩

end Alters

/-- Fields of an object are written, and modules stay as they are. -/
structure Sets (x : Nat) (es : List (String × Value)) (w w' : World) : Prop extends Alters x es w w' where
  modules : ∀ m i, w.module? m = some i → w'.module? m = some i

namespace Sets

protected theorem refl (x : Nat) (w : World) : Sets x [] w w := ⟨.refl x w, fun _ _ h => h⟩

protected theorem trans (h : Sets x es w w') (h' : Sets x es' w' w'') : Sets x (es ++ es') w w'' :=
  ⟨h.toAlters.trans h'.toAlters, fun m i hi => h'.modules m i (h.modules m i hi)⟩

end Sets

/-- What is found along classes that are there is found where they are the same. -/
theorem findMember?_congr {ks : List Named} (h : ∀ k ∈ ks, w'.class? k.id = w.class? k.id) (s : String) :
    w'.findMember? ks s = w.findMember? ks s := by
  unfold World.findMember?
  induction ks with
  | nil => rfl
  | cons k ks ih =>
    rw [List.findSome?_cons, List.findSome?_cons, h k List.mem_cons_self,
      ih fun k hk => h k (List.mem_cons_of_mem _ hk)]

/-- Adding to a world writes no fields. -/
theorem sets_of_extends (hs : Standing w x) (h : w.Extends w') : Sets x [] w w' := by
  refine ⟨?_, fun m i hi => h.module? hi⟩
  obtain ⟨i, c, hi, hc, hall⟩ := hs
  have hi' := h.instance? hi
  refine ⟨fun j hj => ⟨j, h.instance? hj, rfl⟩, fun s => ?_, fun s => ?_, h.grows⟩
  · rw [World.field?, World.field?, hi', hi]
    rfl
  · have hlin : w'.linearisation i.cls.id = w.linearisation i.cls.id := h.grows.linearisation hc
    rw [World.member?, World.member?, hi', hi, Option.bind_some, Option.bind_some, hlin]
    refine findMember?_congr (fun k hk => ?_) s
    rw [World.linearisation, hc, Option.map_some, Option.getD_some] at hk
    obtain ⟨d, hd⟩ := hall k hk
    rw [hd, h.class? hd]

/-! ## Reading and writing -/

/-- The class of an object has no property under a name. -/
def IsField (w : World) (x : Nat) (s : String) : Prop :=
  ∀ g t, w.member? x s ≠ some (.property g t)

theorem Alters.isField (h : Alters x es w w') (hs : IsField w x s) : IsField w' x s := by
  intro g t
  rw [h.members]
  exact hs g t

/-- The names under which an object keeps something else than a field. -/
def specialFields : List String := ["__class__", "__dict__", "__weakref__"]

theorem field?_eq_some (h : w.field? x s = some v) :
    ∃ i, w.instance? x = some i ∧ i.attrs.get? s = some v := Option.bind_eq_some_iff.mp h

/-- What an object has in a field is read from it. -/
theorem getAttr_field (hs : IsField w x s) (h : w.field? x s = some v) (n : Nat) :
    (getAttr (n + 1) (.instance x) s).outcome w = (.ok v, w) := by
  obtain ⟨i, hi, hv⟩ := field?_eq_some h
  refine getAttr_instance s hi (fun g t hm => hs g t ?_) hv
  rw [World.member?, hi]
  exact hm

theorem instance?_lt {i : InstanceInfo} (hi : w.instance? x = some i) : x < w.objects.size := by
  unfold World.instance? at hi
  by_contra hge
  rw [Array.getElem?_eq_none (by omega)] at hi
  cases hi

/-- Another instance in place of one that is there leaves what stands elsewhere. -/
theorem getElem?_replace {i : InstanceInfo} (hi : w.instance? x = some i) (j : InstanceInfo) (k : Nat) :
    (w.objects.setIfInBounds x (.instance j))[k]? = w.objects[k]? ∨
      w.objects[k]? = some (.instance i) ∧
        (w.objects.setIfInBounds x (.instance j))[k]? = some (.instance j) := by
  by_cases hk : x = k
  · subst hk
    refine .inr ⟨?_, by rw [Array.getElem?_setIfInBounds_self, if_pos (instance?_lt hi)]⟩
    unfold World.instance? at hi
    split at hi
    · rename_i ho
      rw [ho, Option.some.inj hi]
    · cases hi
  · exact .inl (Array.getElem?_setIfInBounds_ne hk)

theorem class?_replace {i : InstanceInfo} (hi : w.instance? x = some i) (j : InstanceInfo) (k : Nat) :
    World.class? { w with objects := w.objects.setIfInBounds x (.instance j) } k = w.class? k := by
  unfold World.class?
  obtain h | ⟨ho, h⟩ := getElem?_replace hi j k
  · rw [h]
  · rw [ho, h]

theorem module?_replace {i : InstanceInfo} (hi : w.instance? x = some i) (j : InstanceInfo) (m : Nat) :
    World.module? { w with objects := w.objects.setIfInBounds x (.instance j) } m = w.module? m := by
  unfold World.module?
  obtain h | ⟨ho, h⟩ := getElem?_replace hi j m
  · rw [h]
  · rw [ho, h]

theorem instance?_replace {i : InstanceInfo} (hi : w.instance? x = some i) (j : InstanceInfo) :
    World.instance? { w with objects := w.objects.setIfInBounds x (.instance j) } x = some j := by
  unfold World.instance?
  dsimp only
  rw [Array.getElem?_setIfInBounds, if_pos rfl, if_pos (instance?_lt hi)]

/-- Writing a field. -/
theorem writeField_sets {i : InstanceInfo} (hi : w.instance? x = some i) (hs : s ∉ specialFields)
    (v : Value) : ∃ w', (writeField w x i s v).outcome w = (.ok ⟨⟩, w') ∧ Sets x [(s, v)] w w' := by
  have hreplace : writeField w x i s v = Run.replace x (.instance { i with attrs := i.attrs.set s v }) := by
    simp only [specialFields, List.mem_cons, List.not_mem_nil, or_false, not_or] at hs
    unfold writeField
    split <;> simp_all
  refine ⟨_, by rw [hreplace, Run.replace, outcome_modify], ?_, fun m j hj => ?_⟩
  · have hinstance := instance?_replace hi { i with attrs := i.attrs.set s v }
    refine ⟨fun j hj => ⟨_, hinstance, ?_⟩, fun t => ?_, fun t => ?_, .replace_instance hi _⟩
    · rw [hi] at hj
      rw [← Option.some.inj hj]
    · rw [World.field?, World.field?, hinstance, hi, lastValue_singleton, Option.bind_some, Option.bind_some,
        Table.get?_set]
      split <;> simp_all
    · rw [World.member?, World.member?, hinstance, hi, Option.bind_some, Option.bind_some,
        World.linearisation, World.linearisation, class?_replace hi,
        findMember?_congr fun k _ => class?_replace hi _ k.id]
  · exact (module?_replace hi _ m).trans hj

/-- **Writing an attribute that is no property writes a field.** -/
theorem sets_of_setAttr {i : InstanceInfo} (hi : w.instance? x = some i) (hs : IsField w x s)
    (hspecial : s ∉ specialFields) (h : (setAttr n (.instance x) s v).outcome w = (.ok ⟨⟩, w')) :
    Sets x [(s, v)] w w' := by
  obtain _ | n := n
  · simp [setAttr] at h
  obtain ⟨w₁, hw₁, hsets⟩ := writeField_sets hi hspecial v
  rw [setAttr_field s v hi fun g t hm => hs g t (by rw [World.member?, hi]; exact hm), hw₁,
    Prod.mk.injEq] at h
  exact h.2 ▸ hsets

/-! ## Frames of methods -/

variable {cls f : String} {fr fr' : Frame} {flow : Flow}

/-- A frame of a method of a class, which knows its object. -/
structure Knows (cls : String) (x : Nat) (fr : Frame) : Prop where
  scope : fr.scope = .function
  privateTo : fr.privateTo = some cls
  receiver : ∀ w, fr.find w "self" = .ok (.instance x)

theorem mangle_self (cls : Option String) : mangle cls "self" = "self" :=
  Syntax.mangle_of_not_isPrivate cls (by decide)

namespace Knows

theorem eval_self (h : Knows cls x fr) (n : Nat) :
    (eval (n + 1) fr (.name "self")).outcome w = (.ok (.instance x), w) := by
  rw [eval_name, mangle_self, h.receiver, outcome_lift_ok]

/-- A field of the object is read. -/
theorem eval_field (h : Knows cls x fr) (hs : IsField w x (mangle (some cls) f))
    (hv : w.field? x (mangle (some cls) f) = some v) (n : Nat) :
    (eval (n + 2) fr (.attribute (.name "self") f)).outcome w = (.ok v, w) := by
  rw [eval_attribute, outcome_bind_of_ok (h.eval_self n), h.privateTo, getAttr_field hs hv]

/-- A field of the object is assigned. -/
theorem assign_field (h : Knows cls x fr) (n : Nat) :
    (assign (n + 2) fr (.attribute (.name "self") f) v).outcome w =
      (setAttr (n + 1) (.instance x) (mangle (some cls) f) v >>= fun _ => pure fr).outcome w := by
  conv_lhs => unfold assign
  dsimp only
  rw [outcome_bind_of_ok (h.eval_self n), h.privateTo]

/-- An assignment to a field that succeeds writes the value to it. -/
theorem assign_field_eq_ok (h : Knows cls x fr)
    (ha : (assign n fr (.attribute (.name "self") f) v).outcome w = (.ok fr', w')) :
    fr' = fr ∧ ∃ j, (setAttr j (.instance x) (mangle (some cls) f) v).outcome w = (.ok ⟨⟩, w') := by
  obtain _ | _ | n := n
  · simp [assign] at ha
  · simp [assign, eval, outcome_bind] at ha
  · rw [h.assign_field] at ha
    obtain ⟨⟨⟩, w₁, hset, hdone⟩ := bind_eq_ok ha
    rw [outcome_pure, Prod.mk.injEq, Except.ok.injEq] at hdone
    obtain ⟨rfl, rfl⟩ := hdone
    exact ⟨rfl, _, hset⟩

theorem exec_assign_eq_ok (h : Knows cls x fr) {e : Expr}
    (hx : (exec n fr (.assign [.attribute (.name "self") f] e)).outcome w = (.ok (fr', flow), w')) :
    fr' = fr ∧ flow = .next ∧ ∃ k v w₁, (eval k fr e).outcome w = (.ok v, w₁) ∧
      ∃ j, (setAttr j (.instance x) (mangle (some cls) f) v).outcome w₁ = (.ok ⟨⟩, w') := by
  obtain _ | n := n
  · simp [exec] at hx
  rw [exec] at hx
  obtain ⟨v, w₁, hv, hx⟩ := bind_eq_ok hx
  obtain ⟨fr₁, w₂, hfold, hx⟩ := bind_eq_ok hx
  rw [List.foldlM_cons] at hfold
  obtain ⟨fr₂, w₃, hassign, hfold⟩ := bind_eq_ok hfold
  rw [List.foldlM_nil, outcome_pure, Prod.mk.injEq, Except.ok.injEq] at hfold
  rw [outcome_pure, Prod.mk.injEq, Except.ok.injEq, Prod.mk.injEq] at hx
  obtain ⟨rfl, rfl⟩ := hfold
  obtain ⟨⟨rfl, rfl⟩, rfl⟩ := hx
  obtain ⟨rfl, hset⟩ := h.assign_field_eq_ok hassign
  exact ⟨rfl, rfl, _, v, w₁, hv, hset⟩

/-- So does one with an annotation, which a method does not evaluate. -/
theorem exec_annAssign_eq_ok (h : Knows cls x fr) {e hint : Expr}
    (hx : (exec n fr (.annAssign (.attribute (.name "self") f) hint (some e) false)).outcome w =
      (.ok (fr', flow), w')) :
    fr' = fr ∧ flow = .next ∧ ∃ k v w₁, (eval k fr e).outcome w = (.ok v, w₁) ∧
      ∃ j, (setAttr j (.instance x) (mangle (some cls) f) v).outcome w₁ = (.ok ⟨⟩, w') := by
  obtain _ | n := n
  · simp [exec] at hx
  rw [exec] at hx
  dsimp only at hx
  obtain ⟨v, w₁, hv, hrest⟩ := bind_eq_ok hx
  obtain ⟨fr₁, w₂, hassign, hdone⟩ := bind_eq_ok hrest
  obtain ⟨rfl, hset⟩ := h.assign_field_eq_ok hassign
  rw [if_neg (by simp), if_neg (by rw [h.scope]; simp), outcome_pure, Prod.mk.injEq, Except.ok.injEq,
    Prod.mk.injEq] at hdone
  obtain ⟨⟨rfl, rfl⟩, rfl⟩ := hdone
  exact ⟨rfl, rfl, _, v, w₁, hv, hset⟩

end Knows

end Execution

end Facade
