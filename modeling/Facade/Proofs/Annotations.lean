import Facade.Hint.Spelling
import Facade.Syntax.Literal
import Mathlib.Tactic.Common

/-!
# Annotations and their normal forms

* `Annotation`: what can be built from classes, aliases, texts and special forms, to any depth.
* `normal`: the form that a spelling can keep. Type variables and the marker of a missing annotation
  stand for anything, metadata is dropped, a special alias gives way to its class, the class of
  absence to absence, a reference to its text.
* `isSpellable`: annotations of which the spelling keeps everything else.
* `argument_normal`: the normal form of an argument of a special form is one again.
-/

namespace Facade.Hint

/-! ## Arguments of special forms -/

/-- What stands for a value among the arguments of a special form. -/
def strict : Value → Value
  | .none => .cls Standard.noneType
  | v => v

/-- A value that special forms take as an argument as it is, and that a union does not take
apart. -/
structure Member (v : Value) : Prop where
  checked : check false v = .ok v
  single : unionMembers v = [v]

/-- A value that special forms take as an argument as it is, and whose members they do. -/
structure Argument (v : Value) : Prop where
  checked : check false v = .ok v
  members : ∀ u ∈ unionMembers v, Member u

variable {u v a : Value} {vs as : List Value} {w : World}

theorem Member.argument (h : Member v) : Argument v :=
  ⟨h.checked, fun u hu => by
    rw [h.single, List.mem_singleton] at hu
    rwa [hu]⟩

theorem mem_dedupe {vs : List Value} (h : v ∈ Value.dedupe vs) : v ∈ vs := by
  have fold (vs : List Value) : ∀ acc : List Value,
      v ∈ vs.foldl (fun acc v => if v.memberOf acc then acc else acc ++ [v]) acc →
        v ∈ acc ∨ v ∈ vs := by
    induction vs with
    | nil => exact fun acc h => .inl h
    | cons x xs ih =>
      intro acc h
      rw [List.foldl_cons] at h
      rcases ih _ h with h | h
      · split at h
        · exact .inl h
        · rw [List.mem_append, List.mem_singleton] at h
          exact h.imp_right fun he => by simp [he]
      · exact .inr (List.mem_cons_of_mem x h)
  simpa using fold vs [] h

/-- The union of arguments is an argument. -/
theorem argument_makeUnion (h : ∀ v ∈ vs, Argument v) : Argument (makeUnion vs) := by
  have hall : ∀ u ∈ Value.dedupe (vs.flatMap unionMembers), Member u := by
    intro u hu
    obtain ⟨v, hv, hu⟩ := List.mem_flatMap.mp (mem_dedupe hu)
    exact (h v hv).members u hu
  unfold makeUnion
  split
  · rename_i u hu
    exact (hall u (by simp [hu])).argument
  · exact ⟨rfl, hall⟩

/-- Absence is made explicit before an argument is checked. -/
theorem check_of_strict (h : check false (strict v) = .ok (strict v)) :
    check false v = .ok (strict v) := by
  cases v <;> exact h

theorem mapM_check_strict (h : ∀ v ∈ vs, Argument (strict v)) :
    vs.mapM (check false) = .ok (vs.map strict) := by
  induction vs with
  | nil => rfl
  | cons v vs ih =>
    rw [List.mapM_cons, check_of_strict (h v List.mem_cons_self).checked,
      ih fun u hu => h u (List.mem_cons_of_mem v hu)]
    rfl

/-! ## Normal forms -/

mutual

/-- The form of an annotation that a spelling can keep. -/
def normal : Value → Value
  | .cls c =>
    if c.id = (Standard.named "_empty").id || c.id = (Standard.named "Any").id then Standard.any
    else if c.id = Standard.noneType.id then .none
    else .cls c
  | .typeVar _ _ => Standard.any
  | .forward s => .str s
  | .special n => (Standard.aliasClass? n).elim (.special n) Value.cls
  | .generic f o as =>
    match o with
    | .special "Union" => makeUnion ((normalAll as).map strict)
    | .special "Literal" => .generic (.special "Literal") o (dedupeLiterals as)
    | .special n => .generic (.special n) o ((normalAll as).map strict)
    | .typeAlias _ => .generic (.special "") o ((normalAll as).map strict)
    | o =>
      if f = .special "" then .generic f o ((normalAll as).map strict)
      else .generic .plain o (normalAll as)
  | .pipe as => makeUnion ((normalAll as).map strict)
  | .annotated o _ => normal o
  | v => v

/-- The forms of several annotations that a spelling can keep. -/
def normalAll : List Value → List Value
  | [] => []
  | a :: as => normal a :: normalAll as

end

attribute [local simp] normal normalAll

theorem normalAll_eq (as : List Value) : normalAll as = as.map normal := by
  induction as with
  | nil => simp
  | cons a as ih => simp [ih]

/-! ## Annotations -/

/-- A class that can be subscripted by anything. -/
def TakesAnything (w : World) (c : Named) : Prop :=
  (w.class? c.id).map ClassInfo.subscripting = some .anything

/-- A value that a special form has accepted as an argument; `inner` as for `check`. -/
def Accepted (inner : Bool) (a : Value) : Prop := ∃ raw, check inner raw = .ok a

/-- A class that has a spelling of its own: none of the marker of a missing annotation, the class of
anything and the class of absence. -/
structure IsSpelledByName (c : Named) : Prop where
  notEmpty : c.id ≠ (Standard.named "_empty").id
  notAny : c.id ≠ (Standard.named "Any").id
  notNone : c.id ≠ Standard.noneType.id

instance (c : Named) : Decidable (IsSpelledByName c) :=
  decidable_of_iff (c.id ≠ (Standard.named "_empty").id ∧ c.id ≠ (Standard.named "Any").id ∧
    c.id ≠ Standard.noneType.id) ⟨fun h => ⟨h.1, h.2.1, h.2.2⟩, fun h => ⟨h.1, h.2, h.3⟩⟩

/-- A class that subscripts treat like any other. -/
structure Ordinary (c : Named) : Prop extends IsSpelledByName c where
  notAnnotated : c.id ≠ (Standard.named "Annotated").id
  notCallable : c.id ≠ callableClass.id
  notGeneric : c.id ≠ Standard.generic.id

/-- A value that source text can hold and that is no complex number. -/
structure IsLiteral (v : Value) : Prop where
  literal : v.isLiteral = true
  notComplex : ∀ re im, v ≠ .complex re im

/-- What can be built from classes, aliases, texts and special forms, to any depth. -/
inductive Annotation (w : World) : Value → Prop where
  | none : Annotation w .none
  | ellipsis : Annotation w .ellipsis
  | str (s : String) : Annotation w (.str s)
  | forward (s : String) : Annotation w (.forward s)
  | typeVar (i : Nat) (n : String) : Annotation w (.typeVar i n)
  | cls (c : Named) : Annotation w (.cls c)
  | newType (n : Named) : Annotation w (.newType n)
  | typeAlias (n : Named) : Annotation w (.typeAlias n)
  /-- A special alias without arguments. -/
  | bare {n : String} {c : Named} (h : Standard.aliasClass? n = some c) : Annotation w (.special n)
  /-- A class that takes anything, or a special alias of one, with arguments. -/
  | container {f : Family} {c : Named} {as : List Value} (hc : Ordinary c) (ht : TakesAnything w c)
      (hf : f ≠ .special "") (has : ∀ a ∈ as, Annotation w a) : Annotation w (.generic f (.cls c) as)
  /-- A class with type parameters of its own. -/
  | parametric {c : Named} {as : List Value} (hc : Ordinary c)
      (hn : (w.class? c.id).map ClassInfo.subscripting = some (.params as.length))
      (hconv : ∀ a ∈ as, ∃ raw, convert raw = .ok a) (has : ∀ a ∈ as, Annotation w a) :
      Annotation w (.generic (.special "") (.cls c) as)
  /-- The class of callables, or its special alias, with parameters and a result. -/
  | callable {f : Family} {ps : List Value} {r : Value} (hf : f ≠ .special "")
      (hps : ∀ p ∈ ps, Annotation w p) (hr : Annotation w r) :
      Annotation w (.generic f (.cls callableClass) (ps ++ [r]))
  /-- A type alias with arguments. -/
  | applied {n : Named} {as : List Value} (hin : ∀ a ∈ as, Accepted false a)
      (has : ∀ a ∈ as, Annotation w a) : Annotation w (.generic (.special "") (.typeAlias n) as)
  | union {f : Family} {as : List Value} (hin : ∀ a ∈ as, Accepted false a)
      (has : ∀ a ∈ as, Annotation w a) : Annotation w (.generic f (.special "Union") as)
  /-- A union made with the operator `|`. -/
  | pipe {as : List Value} (hin : ∀ a ∈ as, Accepted false a) (has : ∀ a ∈ as, Annotation w a) :
      Annotation w (.pipe as)
  | literal {f : Family} {as : List Value} (has : ∀ a ∈ as, IsLiteral a) :
      Annotation w (.generic f (.special "Literal") as)
  | classVar {f : Family} {a : Value} (hin : Accepted false a) (ha : Annotation w a) :
      Annotation w (.generic f (.special "ClassVar") [a])
  | annotated {o : Value} {ms : List Value} (hin : Accepted true o) (ho : Annotation w o) :
      Annotation w (.annotated o ms)

/-! ## Annotations that can be spelled -/

/-- Whether an annotation is one of class variables, metadata aside. -/
def isClassVar : Value → Bool
  | .generic _ (.special "ClassVar") _ => true
  | .annotated o _ => isClassVar o
  | _ => false

/-- Whether what has arguments takes them unchecked. -/
def isUnchecked : Value → Bool
  | .cls _ => true
  | _ => false

mutual

/-- Whether the spelling of an annotation keeps its form: it has no references, no empty list of
arguments, and no class variable in a place where special forms refuse one. -/
def isSpellable : Value → Bool
  | .forward _ => false
  | .generic _ o as =>
    !as.isEmpty && areSpellable as && (isUnchecked o || as.all fun a => !isClassVar a)
  | .pipe as => !as.isEmpty && areSpellable as && as.all fun a => !isClassVar a
  | .annotated o _ => isSpellable o
  | _ => true

/-- Whether the spellings of several annotations keep their forms. -/
def areSpellable : List Value → Bool
  | [] => true
  | a :: as => isSpellable a && areSpellable as

end

attribute [local simp] isSpellable areSpellable

theorem areSpellable_iff : areSpellable as = true ↔ ∀ a ∈ as, isSpellable a = true := by
  induction as with
  | nil => simp
  | cons a as ih => rw [areSpellable, Bool.and_eq_true, ih, List.forall_mem_cons]

theorem isSpellable_generic {f : Family} {o : Value} (h : isSpellable (.generic f o as) = true) :
    as ≠ [] ∧ (∀ a ∈ as, isSpellable a = true) ∧
      (isUnchecked o = false → isSpellable (.pipe as) = true) := by
  simp only [isSpellable, Bool.and_eq_true, areSpellable_iff, Bool.or_eq_true, Bool.not_eq_true',
    List.isEmpty_eq_false_iff] at h ⊢
  exact ⟨h.1.1, h.1.2, fun ho => ⟨h.1, h.2.resolve_left (by simp [ho])⟩⟩

theorem isSpellable_pipe (h : isSpellable (.pipe as) = true) :
    as ≠ [] ∧ (∀ a ∈ as, isSpellable a = true) ∧ ∀ a ∈ as, isClassVar a = false := by
  simpa only [isSpellable, Bool.and_eq_true, areSpellable_iff, List.all_eq_true, Bool.not_eq_true',
    List.isEmpty_eq_false_iff, and_assoc] using h

/-! ## Arguments in normal form -/

theorem forwardRef_eq_ok {s : String} (h : forwardRef s = .ok v) : v = .forward s := by
  unfold forwardRef at h
  dsimp only at h
  split at h
  · exact (Except.ok.inj h).symm
  · cases h

/-- Whether a value is a text. -/
def isText : Value → Bool
  | .str _ | .subStr _ => true
  | _ => false

/-- What has been made an argument is no text and stays as it is. -/
theorem convert_eq_ok {raw : Value} (h : convert raw = .ok a) :
    convert a = .ok a ∧ isText a = false := by
  cases raw with
  | str s | subStr s =>
    rw [forwardRef_eq_ok h]
    exact ⟨rfl, rfl⟩
  | _ =>
    obtain rfl := Except.ok.inj h
    exact ⟨rfl, rfl⟩

theorem check_eq_ok {inner : Bool} {raw : Value} (h : check inner raw = .ok a) :
    check inner a = .ok a ∧ isText a = false := by
  unfold check at h
  rcases hc : convert raw with e | v <;> rw [hc] at h
  · cases h
  obtain ⟨hv, hs⟩ := convert_eq_ok hc
  have hva : v = a := by
    dsimp only [bind, Except.bind] at h
    split at h <;> (try split at h) <;> (try split at h) <;> (try split at h) <;>
      first | exact Except.ok.inj h | cases h
  subst hva
  refine ⟨?_, hs⟩
  unfold check
  rw [hv]
  exact h

/-- A class that special forms take as an argument. -/
def IsPlainClass (c : Named) : Prop :=
  c.id ≠ Standard.generic.id ∧ c.id ≠ (Standard.named "Protocol").id

instance (c : Named) : Decidable (IsPlainClass c) := inferInstanceAs (Decidable (_ ∧ _))

theorem member_cls {c : Named} (h : IsPlainClass c) : Member (.cls c) := by
  refine ⟨?_, rfl⟩
  show (if c.id = _ || c.id = _ then Except.error Fault.type else .ok (Value.cls c)) = .ok (.cls c)
  rw [if_neg (by simp [h.1, h.2])]

theorem isPlainClass_of_check {inner : Bool} {c : Named} (h : check inner (.cls c) = .ok (.cls c)) :
    IsPlainClass c := by
  have h : (if c.id = Standard.generic.id || c.id = (Standard.named "Protocol").id then
      Except.error Fault.type else .ok (Value.cls c)) = .ok (.cls c) := h
  split at h
  · cases h
  · rename_i hne
    simpa [IsPlainClass] using hne

theorem isPlainClass_any : IsPlainClass (Standard.named "Any") := by decide

theorem isPlainClass_noneType : IsPlainClass Standard.noneType := by decide

theorem aliasClass_spec {n : String} {c : Named} (h : Standard.aliasClass? n = some c) :
    IsPlainClass c ∧ IsSpelledByName c := by
  have hall : ∀ a ∈ Standard.aliases, ∀ c ∈ Standard.aliasClass? a.1,
      IsPlainClass c ∧ IsSpelledByName c := by
    decide +kernel
  obtain ⟨a, ha, -⟩ := Option.map_eq_some_iff.mp h
  have hn : a.1 = n := by simpa using List.find?_some ha
  exact hall a (List.mem_of_find?_eq_some ha) c (hn ▸ h)

theorem aliasClass?_of_mem_forms (h : n ∈ Standard.forms) : Standard.aliasClass? n = none := by
  have hall : ∀ n ∈ Standard.forms, Standard.aliasClass? n = none := by decide
  exact hall n h

theorem callableClass_ne_generic : callableClass.id ≠ Standard.generic.id := by decide

theorem member_generic {f : Family} {c : Named} (h : c.id ≠ Standard.generic.id) :
    Member (.generic f (.cls c) as) := by
  refine ⟨?_, rfl⟩
  show (if c.id = _ then Except.error Fault.type else .ok (Value.generic f (.cls c) as)) = _
  rw [if_neg h]

theorem Argument.strict_eq (h : Argument v) : strict v = v := by
  cases v with
  | none => cases h.checked
  | _ => rfl

theorem Argument.ne_tuple (h : Argument v) (us : List Value) : v ≠ .tuple us := by
  rintro rfl
  cases h.checked

/-- The union of normal forms that are arguments is one. -/
theorem argument_normalAll (h : ∀ a ∈ as, Argument (strict (normal a))) :
    Argument (makeUnion ((normalAll as).map strict)) := by
  refine argument_makeUnion fun v hv => ?_
  rw [normalAll_eq, List.map_map] at hv
  obtain ⟨a, ha, rfl⟩ := List.mem_map.mp hv
  exact h a ha

/-- **The normal form of an argument of a special form is one again,** if it can be spelled. -/
theorem argument_normal {inner : Bool} (ha : Annotation w a) (hs : isSpellable a = true)
    (hv : isClassVar a = false) (hin : check inner a = .ok a) : Argument (strict (normal a)) := by
  induction ha generalizing inner with
  | none => exact (member_cls isPlainClass_noneType).argument
  | ellipsis | newType | typeAlias => exact (Member.mk rfl rfl).argument
  | str s => cases (check_eq_ok hin).2
  | forward => cases hs
  | typeVar => exact (member_cls isPlainClass_any).argument
  | cls c =>
    have hc := isPlainClass_of_check hin
    unfold normal
    split
    · exact (member_cls isPlainClass_any).argument
    · split
      · exact (member_cls isPlainClass_noneType).argument
      · exact (member_cls hc).argument
  | bare h =>
    rw [normal, h]
    exact (member_cls (aliasClass_spec h).1).argument
  | container hc _ hf _ _ =>
    unfold normal
    dsimp only
    rw [if_neg hf]
    exact (member_generic hc.notGeneric).argument
  | parametric hc _ _ _ _ =>
    unfold normal
    exact (member_generic hc.notGeneric).argument
  | callable hf _ _ _ _ =>
    unfold normal
    dsimp only
    rw [if_neg hf]
    exact (member_generic callableClass_ne_generic).argument
  | applied | literal => exact (Member.mk rfl rfl).argument
  | union hin' _ ih | pipe hin' _ ih =>
    obtain ⟨-, hs, hv⟩ := isSpellable_pipe hs
    have hunion := argument_normalAll fun a ha => by
      obtain ⟨raw, hraw⟩ := hin' a ha
      exact ih a ha (hs a ha) (hv a ha) (check_eq_ok hraw).1
    exact hunion.strict_eq.symm ▸ hunion
  | classVar => cases hv
  | annotated hin' _ ih =>
    obtain ⟨raw, hraw⟩ := hin'
    exact ih hs hv (check_eq_ok hraw).1

/-- The normal forms of what special forms have accepted are arguments again. -/
theorem arguments_normal (hin : ∀ a ∈ as, Accepted false a) (has : ∀ a ∈ as, Annotation w a)
    (hs : isSpellable (.pipe as) = true) : ∀ a ∈ as, Argument (strict (normal a)) := by
  obtain ⟨-, hs, hv⟩ := isSpellable_pipe hs
  intro a ha
  obtain ⟨raw, hraw⟩ := hin a ha
  exact argument_normal (has a ha) (hs a ha) (hv a ha) (check_eq_ok hraw).1

/-- The normal form of an annotation is no tuple, and no text unless the annotation is one. -/
theorem normal_shape (ha : Annotation w a) (hs : isSpellable a = true) :
    (∀ us, normal a ≠ .tuple us) ∧ (isText a = false → isText (normal a) = false) := by
  have hunion {as : List Value} (hin : ∀ a ∈ as, Accepted false a) (has : ∀ a ∈ as, Annotation w a)
      (hs : isSpellable (.pipe as) = true) :
      (∀ us, makeUnion ((normalAll as).map strict) ≠ .tuple us) ∧
        isText (makeUnion ((normalAll as).map strict)) = false := by
    have h := argument_normalAll (arguments_normal hin has hs)
    exact ⟨h.ne_tuple, (check_eq_ok h.checked).2⟩
  induction ha with
  | none | ellipsis | str | newType | typeAlias | typeVar | literal | parametric | applied =>
    exact ⟨nofun, fun h => h⟩
  | forward => cases hs
  | cls c =>
    unfold normal
    split
    · exact ⟨nofun, fun _ => rfl⟩
    · split <;> exact ⟨nofun, fun _ => rfl⟩
  | bare h =>
    rw [normal, h]
    exact ⟨nofun, fun _ => rfl⟩
  | container _ _ hf _ _ | callable hf _ _ _ _ =>
    unfold normal
    dsimp only
    rw [if_neg hf]
    exact ⟨nofun, fun _ => rfl⟩
  | union hin has _ | pipe hin has _ =>
    obtain ⟨h, h'⟩ := hunion hin has hs
    exact ⟨h, fun _ => h'⟩
  | classVar => exact ⟨nofun, fun _ => rfl⟩
  | annotated hin _ ih =>
    obtain ⟨raw, hraw⟩ := hin
    exact ⟨(ih hs).1, fun _ => (ih hs).2 (check_eq_ok hraw).2⟩

end Facade.Hint
