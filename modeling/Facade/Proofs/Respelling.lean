import Facade.Proofs.Annotations
import Facade.Proofs.AnnotationTexts
import Facade.Proofs.Rereading
import Facade.Proofs.Yielding

/-!
# Spellings that evaluate back

Where the module of special forms and the modules of an annotation are at hand, the text of the
annotation evaluates to its normal form. The text is read as the spelling, except that it no longer says
how a number was written.

* `HoldsTyping`, `Nameable`: the names that a spelling needs.
* `subscript_container`, `subscript_union` and others: what subscripts make.
* `yields_spell`: what is read from the text evaluates to the normal form.
* `Annotation.isWritable`: the text is read.
* `friendlyName_yields`: both.
-/

namespace Facade.Hint

open Execution Run
open Syntax (Expr)

variable {w : World} {fr : Frame} {a u v : Value} {as vs : List Value} {f : Family}

/-! ## Names -/

/-- The module of special forms can be seen, with the names that spellings use. -/
structure HoldsTyping (w : World) (fr : Frame) : Prop where
  any : Leads w fr "typing.Any" Standard.any
  form : ∀ n ∈ ["Union", "Literal", "ClassVar"], Leads w fr ("typing." ++ n) (.special n)

/-- A path is a dotted name that leads to a value. -/
structure PathTo (w : World) (fr : Frame) (path : String) (v : Value) : Prop where
  isDotted : Syntax.isDottedName path = true
  leads : Leads w fr path v

/-- The path of a declared type leads to it. Missing annotations and absence have spellings of their
own. -/
def Nameable (w : World) (fr : Frame) : Value → Prop
  | .cls c => IsSpelledByName c → PathTo w fr c.path (.cls c)
  | .newType n => PathTo w fr n.path (.newType n)
  | .typeAlias n => PathTo w fr n.path (.typeAlias n)
  | _ => True

/-! ## What subscripts make -/

theorem subscript_container {c : Named} (hc : Ordinary c) (ht : TakesAnything w c)
    (hne : vs ≠ []) (htuple : ∀ v ∈ vs, ∀ us, v ≠ .tuple us) :
    subscript w (.cls c) (indexOf vs) = .ok (.generic .plain (.cls c) vs) := by
  unfold subscript
  dsimp only
  rw [if_neg hc.notAnnotated, if_neg hc.notCallable, if_neg hc.notGeneric, ht,
    indexList_indexOf hne htuple]
  rfl

theorem subscript_parametric {c : Named} (hc : Ordinary c)
    (hn : (w.class? c.id).map ClassInfo.subscripting = some (.params vs.length))
    (hne : vs ≠ []) (htuple : ∀ v ∈ vs, ∀ us, v ≠ .tuple us)
    (htext : ∀ v ∈ vs, isText v = false) :
    subscript w (.cls c) (indexOf vs) = .ok (.generic (.special "") (.cls c) (vs.map strict)) := by
  have hconvert : vs.mapM convert = .ok (vs.map strict) := by
    clear hn hne htuple
    induction vs with
    | nil => rfl
    | cons v vs ih =>
      have hv : convert v = .ok (strict v) := by
        have := htext v List.mem_cons_self
        cases v <;> first | rfl | cases this
      rw [List.mapM_cons, hv, ih fun u hu => htext u (List.mem_cons_of_mem v hu)]
      rfl
  unfold subscript
  dsimp only
  rw [if_neg hc.notAnnotated, if_neg hc.notCallable, if_neg hc.notGeneric, hn,
    indexList_indexOf hne htuple, hconvert]
  have hpos : 0 < vs.length := List.length_pos_iff.mpr hne
  simp [bind, Except.bind, hpos]
  rfl

theorem subscript_applied {n : Named} (hne : vs ≠ []) (htuple : ∀ v ∈ vs, ∀ us, v ≠ .tuple us)
    (harg : ∀ v ∈ vs, Argument (strict v)) :
    subscript w (.typeAlias n) (indexOf vs) =
      .ok (.generic (.special "") (.typeAlias n) (vs.map strict)) := by
  unfold subscript
  dsimp only
  rw [indexList_indexOf hne htuple, mapM_check_strict harg]
  rfl

theorem subscript_union (hne : vs ≠ []) (htuple : ∀ v ∈ vs, ∀ us, v ≠ .tuple us)
    (harg : ∀ v ∈ vs, Argument (strict v)) :
    subscript w (.special "Union") (indexOf vs) = .ok (makeUnion (vs.map strict)) := by
  have halias := aliasClass?_of_mem_forms (n := "Union") (by simp [Standard.forms])
  have hempty : vs.isEmpty = false := by simpa using hne
  unfold subscript
  dsimp only
  rw [halias]
  show union (indexList (indexOf vs)) = _
  unfold union
  rw [indexList_indexOf hne htuple, hempty, mapM_check_strict harg]
  rfl

theorem subscript_classVar (harg : Argument (strict v)) :
    subscript w (.special "ClassVar") (indexOf [v]) =
      .ok (.generic (.special "ClassVar") (.special "ClassVar") [strict v]) := by
  have halias := aliasClass?_of_mem_forms (n := "ClassVar") (by simp [Standard.forms])
  unfold subscript
  dsimp only
  rw [halias]
  show (do return Value.generic _ _ [← check false (indexOf [v])]) = _
  rw [indexOf, check_of_strict harg.checked]
  rfl

theorem subscript_literal (hne : vs ≠ []) (hl : ∀ v ∈ vs, IsLiteral v) :
    subscript w (.special "Literal") (indexOf vs) =
      .ok (.generic (.special "Literal") (.special "Literal") (dedupeLiterals vs)) := by
  have halias := aliasClass?_of_mem_forms (n := "Literal") (by simp [Standard.forms])
  have hshape : ∀ v ∈ vs, (∀ us, v ≠ .tuple us) ∧ literalMembers v = [v] := by
    intro v hv
    have := (hl v hv).literal
    cases v <;> first | exact absurd this Bool.false_ne_true | exact ⟨nofun, rfl⟩
  have hmembers : vs.flatMap literalMembers = vs := by
    clear hne
    induction vs with
    | nil => rfl
    | cons v vs ih =>
      rw [List.flatMap_cons, (hshape v List.mem_cons_self).2,
        ih (fun u hu => hl u (List.mem_cons_of_mem v hu))
          (fun u hu => hshape u (List.mem_cons_of_mem v hu))]
      rfl
  unfold subscript
  dsimp only
  rw [halias]
  show Except.ok (Value.generic _ _ (dedupeLiterals ((indexList (indexOf vs)).flatMap literalMembers))) = _
  rw [indexList_indexOf hne fun v hv => (hshape v hv).1, hmembers]

theorem callableClass_ne_annotated : callableClass.id ≠ (Standard.named "Annotated").id := by decide

theorem subscript_callable (ps : List Value) (r : Value) :
    subscript w (.cls callableClass) (.tuple [.list ps, r]) =
      .ok (.generic .plain (.cls callableClass) (ps ++ [r])) := by
  unfold subscript
  dsimp only
  rw [if_neg callableClass_ne_annotated, if_pos rfl]
  rfl

theorem subscript_callable_ellipsis (r : Value) :
    subscript w (.cls callableClass) (.tuple [.ellipsis, r]) =
      .ok (.generic .plain (.cls callableClass) [.ellipsis, r]) := by
  unfold subscript
  dsimp only
  rw [if_neg callableClass_ne_annotated, if_pos rfl]
  rfl

/-! ## Spellings -/

theorem Annotation.isSingle (ha : Annotation w a) : IsSingle a := by
  cases ha <;> exact ⟨nofun, nofun⟩

theorem isConstant_unspelled (e : Expr) : isConstant e.unspelled = isConstant e := by
  induction e using literalValue.induct with
  | case4 t e ih => exact ih
  | case5 e _ _ _ h =>
    cases e with
    | spelled t e => exact absurd rfl (h t e)
    | _ => rfl
  | _ => rfl

theorem yields_literal (h : IsLiteral v) : Yields w fr (valueExpr w v).unspelled v := by
  obtain ⟨e, he⟩ := Option.isSome_iff_exists.mp h.literal
  rw [valueExpr, he]
  refine yields_isConstant _ ((isConstant_unspelled e).trans (isConstant_literal? he)) ?_
  exact (literalValue_unspelled e).trans (literalValue_literal? he h.notComplex)

theorem yields_literals (h : ∀ v ∈ vs, IsLiteral v) :
    List.Forall₂ (Yields w fr) ((vs.map (valueExpr w)).map Expr.unspelled) vs := by
  rw [List.map_map]
  exact List.forall₂_map_left_iff.mpr (List.forall₂_same.mpr fun v hv => yields_literal (h v hv))

theorem spellAll_eq (self : Option String) (as : List Value) :
    spellAll w self as = as.map (spell w self) := by
  induction as with
  | nil => rw [spellAll, List.map_nil]
  | cons a as ih => rw [spellAll, ih, List.map_cons]

theorem yields_spellAll (h : ∀ a ∈ as, Yields w fr (spell w none a).unspelled (normal a)) :
    List.Forall₂ (Yields w fr) ((spellAll w none as).map Expr.unspelled) (normalAll as) := by
  rw [spellAll_eq, normalAll_eq]
  induction as with
  | nil => exact .nil
  | cons a as ih =>
    exact .cons (h a List.mem_cons_self) (ih fun b hb => h b (List.mem_cons_of_mem a hb))

theorem unspelled_dotted (path : String) : (Expr.dotted path).unspelled = Expr.dotted path := by
  have attributes (ns : List String) : ∀ e : Expr, e.unspelled = e →
      (ns.foldl Expr.attribute e).unspelled = ns.foldl Expr.attribute e := by
    induction ns with
    | nil => exact fun e he => he
    | cons n ns ih => exact fun e he => ih _ rfl
  unfold Expr.dotted
  split
  · rfl
  · exact attributes _ _ rfl

theorem PathTo.yields {path : String} (h : PathTo w fr path v) :
    Yields w fr (Expr.dotted path).unspelled v := by
  rw [unspelled_dotted]
  exact yields_dotted h.leads

theorem HoldsTyping.yields_any (ht : HoldsTyping w fr) :
    Yields w fr (Expr.dotted "typing.Any").unspelled Standard.any := by
  rw [unspelled_dotted]
  exact yields_dotted ht.any

theorem qualifiedName?_special (n : String) :
    (qualifiedName? (.special n)).getD "" = "typing." ++ n := by
  have hpath : (qualifiedName? (.special n)).getD "" = "typing" ++ "." ++ n := rfl
  rw [hpath, show "typing" ++ "." = "typing." by decide]

/-- The name of a special form, as a spelling writes it. -/
theorem HoldsTyping.base {n : String} (ht : HoldsTyping w fr)
    (hn : n ∈ ["Union", "Literal", "ClassVar"]) :
    Yields w fr (Expr.dotted ((qualifiedName? (.special n)).getD "")) (.special n) := by
  rw [qualifiedName?_special]
  exact yields_dotted (ht.form n hn)

theorem mem_normalAll {P : Value → Prop} (h : ∀ a ∈ as, P (normal a)) : ∀ v ∈ normalAll as, P v := by
  intro v hv
  rw [normalAll_eq] at hv
  obtain ⟨a, ha, rfl⟩ := List.mem_map.mp hv
  exact h a ha

/-- What stands in the brackets of a spelling, and what it makes of the base. -/
theorem yields_arguments {path : String} (hbase : Yields w fr (Expr.dotted path) u)
    (hu : hasItems u = false) (hne : as ≠ [])
    (has : ∀ a ∈ as, Yields w fr (spell w none a).unspelled (normal a))
    (hv : subscript w u (indexOf (normalAll as)) = .ok v) :
    Yields w fr (subscripted (Expr.dotted path) (spellAll w none as)).unspelled v := by
  rw [Syntax.unspelled_subscripted (unspelled_dotted path)]
  refine hbase.subscripted (yields_spellAll has) ?_ hu hv
  rw [spellAll_eq]
  simpa using hne

theorem normalAll_ne_nil (h : as ≠ []) : normalAll as ≠ [] := by
  rw [normalAll_eq]
  simpa using h

/-! ### Callables -/

theorem isSpelledByName_callableClass : IsSpelledByName callableClass := by decide

theorem normal_callable {ps : List Value} {r : Value} (hf : f ≠ .special "") :
    normal (.generic f (.cls callableClass) (ps ++ [r])) =
      .generic .plain (.cls callableClass) (normalAll ps ++ [normal r]) := by
  have h : normal (.generic f (.cls callableClass) (ps ++ [r])) =
      .generic .plain (.cls callableClass) (normalAll (ps ++ [r])) := by
    simp only [normal]
    rw [if_neg hf]
  rw [h, normalAll_eq, normalAll_eq, List.map_append, List.map_singleton]

/-- The parameters of a callable are spelled as one list, unless they are left open. -/
theorem spell_callable {ps : List Value} (hps : ∀ p ∈ ps, Annotation w p) (f : Family) (r : Value) :
    (ps = [.ellipsis] ∧ spell w none (.generic f (.cls callableClass) (ps ++ [r])) =
        subscripted (Expr.dotted callableClass.path) [.const .ellipsis, spell w none r]) ∨
      spell w none (.generic f (.cls callableClass) (ps ++ [r])) =
        subscripted (Expr.dotted callableClass.path)
          [.list (spellAll w none ps), spell w none r] := by
  have hspell : spell w none (.generic f (.cls callableClass) (ps ++ [r])) =
      subscripted (Expr.dotted callableClass.path) (callableGroups
        (firstIsParameterList (ps ++ [r])) Expr.list (spellAll w none (ps ++ [r]))) := by
    simp only [spell, if_true]
    rfl
  have hall : spellAll w none (ps ++ [r]) = spellAll w none ps ++ [spell w none r] := by
    rw [spellAll_eq, spellAll_eq, List.map_append, List.map_singleton]
  rw [hspell, hall]
  by_cases hp : firstIsParameterList (ps ++ [r]) = true
  · refine .inl ?_
    obtain ⟨p, rfl⟩ : ∃ p, ps = [p] := by
      match ps, hp with
      | [p], _ => exact ⟨p, rfl⟩
      | [], hp => cases hp
      | _ :: _ :: ps, hp => cases ps <;> cases hp
    have hp' : isParameterList p = true := hp
    obtain rfl : p = .ellipsis := by
      have := hps p (by simp)
      cases this <;> first | rfl | cases hp'
    exact ⟨rfl, by rw [callableGroups, if_pos hp]; rfl⟩
  · refine .inr ?_
    rw [callableGroups, if_neg hp, List.getLast?_concat, List.dropLast_concat]

/-! ### All annotations -/

/-- A spelling, without what it says about how numbers are written, evaluates to the normal form of its
annotation. -/
theorem yields_spell (ht : HoldsTyping w fr) (ha : Annotation w a) (hs : isSpellable a = true)
    (hn : ∀ d ∈ walk a, Nameable w fr d) : Yields w fr (spell w none a).unspelled (normal a) := by
  have hargs {as : List Value} (has : ∀ a ∈ as, Annotation w a)
      (ih : ∀ a ∈ as, isSpellable a = true → (∀ d ∈ walk a, Nameable w fr d) →
        Yields w fr (spell w none a).unspelled (normal a)) (hs : ∀ a ∈ as, isSpellable a = true)
      {f : Family} {o : Value} (hn : ∀ d ∈ walk (.generic f o as), Nameable w fr d) :
      ∀ a ∈ as, Yields w fr (spell w none a).unspelled (normal a) :=
    fun a ha => ih a ha (hs a ha) fun d hd => hn d (mem_walk_generic (has a ha).isSingle ha hd)
  induction ha with
  | none | ellipsis | str => exact yields_const _
  | forward => cases hs
  | typeVar => exact ht.yields_any
  | cls c =>
    have hc := hn (.cls c) (by simp [walk])
    unfold spell normal
    split
    · exact ht.yields_any
    · rename_i hne
      split
      · exact yields_const _
      · rename_i hne'
        simp only [Bool.or_eq_true, decide_eq_true_eq, not_or] at hne
        exact (hc ⟨hne.1, hne.2, hne'⟩).yields
  | newType n => exact PathTo.yields (hn (.newType n) (by simp [walk]))
  | typeAlias n => exact PathTo.yields (hn (.typeAlias n) (by simp [walk]))
  | @bare n c h =>
    have hc := hn (.cls c) (by simp [walk, h])
    have hspell : spell w none (.special n) = Expr.dotted c.path := by
      simp only [spell, h, Option.elim]
    have hnormal : normal (.special n) = .cls c := by simp only [normal, h, Option.elim]
    rw [hspell, hnormal]
    exact (hc (aliasClass_spec h).2).yields
  | @container f c as hc htk hf has ih =>
    obtain ⟨hne, hs, -⟩ := isSpellable_generic hs
    have hspell : spell w none (.generic f (.cls c) as) =
        subscripted (Expr.dotted c.path) (spellAll w none as) := by
      simp only [spell]
      rw [if_neg hc.notCallable]
      rfl
    have hnormal : normal (.generic f (.cls c) as) = .generic .plain (.cls c) (normalAll as) := by
      simp only [normal]
      rw [if_neg hf]
    rw [hspell, hnormal]
    have hbase := hn (.cls c) (mem_walk_origin (by simp [walk])) hc.toIsSpelledByName
    refine yields_arguments (yields_dotted hbase.leads) rfl hne (hargs has ih hs hn) ?_
    exact subscript_container hc htk (normalAll_ne_nil hne)
      (mem_normalAll fun a ha => (normal_shape (has a ha) (hs a ha)).1)
  | @parametric c as hc hp hconv has ih =>
    obtain ⟨hne, hs, -⟩ := isSpellable_generic hs
    have hspell : spell w none (.generic (.special "") (.cls c) as) =
        subscripted (Expr.dotted c.path) (spellAll w none as) := by
      simp only [spell]
      rw [if_neg hc.notCallable]
      rfl
    have hnormal : normal (.generic (.special "") (.cls c) as) =
        .generic (.special "") (.cls c) ((normalAll as).map strict) := by
      simp only [normal, if_true]
    rw [hspell, hnormal]
    have hbase := hn (.cls c) (mem_walk_origin (by simp [walk])) hc.toIsSpelledByName
    refine yields_arguments (yields_dotted hbase.leads) rfl hne (hargs has ih hs hn) ?_
    refine subscript_parametric hc (by rwa [normalAll_eq, List.length_map]) (normalAll_ne_nil hne)
      (mem_normalAll fun a ha => (normal_shape (has a ha) (hs a ha)).1)
      (mem_normalAll fun a ha => ?_)
    obtain ⟨raw, hraw⟩ := hconv a ha
    exact (normal_shape (has a ha) (hs a ha)).2 (convert_eq_ok hraw).2
  | @callable f ps r hf hps hr ihps ihr =>
    obtain ⟨-, hs, -⟩ := isSpellable_generic hs
    have hr' : Yields w fr (spell w none r).unspelled (normal r) :=
      ihr (hs r (by simp)) fun d hd => hn d (mem_walk_generic hr.isSingle (by simp) hd)
    have hps' : ∀ p ∈ ps, Yields w fr (spell w none p).unspelled (normal p) := fun p hp =>
      ihps p hp (hs p (List.mem_append_left _ hp)) fun d hd =>
        hn d (mem_walk_generic (hps p hp).isSingle (List.mem_append_left _ hp) hd)
    rw [normal_callable hf]
    have hbase : Yields w fr (Expr.dotted callableClass.path) (.cls callableClass) :=
      yields_dotted (hn (.cls callableClass) (mem_walk_origin (by simp [walk]))
        isSpelledByName_callableClass).leads
    rcases spell_callable hps f r with ⟨rfl, hspell⟩ | hspell
    · rw [hspell, Syntax.unspelled_subscripted (unspelled_dotted _)]
      exact hbase.subscripted (.cons (yields_const .ellipsis) (.cons hr' .nil)) (by simp) rfl
        (subscript_callable_ellipsis _)
    · have hlist : Yields w fr (Expr.list (spellAll w none ps)).unspelled (.list (normalAll ps)) := by
        rw [Syntax.unspelled_list]
        exact .list (yields_spellAll hps')
      rw [hspell, Syntax.unspelled_subscripted (unspelled_dotted _)]
      exact hbase.subscripted (.cons hlist (.cons hr' .nil)) (by simp) rfl (subscript_callable _ _)
  | @applied n as hin has ih =>
    obtain ⟨hne, hs, hpipe⟩ := isSpellable_generic hs
    have hbase : PathTo w fr n.path (.typeAlias n) :=
      hn (.typeAlias n) (mem_walk_origin (by simp [walk]))
    refine yields_arguments (yields_dotted hbase.leads) rfl hne (hargs has ih hs hn) ?_
    exact subscript_applied (normalAll_ne_nil hne)
      (mem_normalAll fun a ha => (normal_shape (has a ha) (hs a ha)).1)
      (mem_normalAll (arguments_normal hin has (hpipe rfl)))
  | @union f as hin has ih =>
    obtain ⟨hne, hs, hpipe⟩ := isSpellable_generic hs
    refine yields_arguments (ht.base (n := "Union") (by simp)) rfl hne
      (hargs has ih hs hn) ?_
    exact subscript_union (normalAll_ne_nil hne)
      (mem_normalAll fun a ha => (normal_shape (has a ha) (hs a ha)).1)
      (mem_normalAll (arguments_normal hin has (hpipe rfl)))
  | @pipe as hin has ih =>
    obtain ⟨hne, hs', hv⟩ := isSpellable_pipe hs
    have hmembers : ∀ a ∈ as, Yields w fr (spell w none a).unspelled (normal a) := fun a ha =>
      ih a ha (hs' a ha) fun d hd => hn d (mem_walkArgs (has a ha).isSingle ha hd)
    refine yields_arguments (yields_dotted (ht.form "Union" (by simp))) rfl hne hmembers ?_
    exact subscript_union (normalAll_ne_nil hne)
      (mem_normalAll fun a ha => (normal_shape (has a ha) (hs' a ha)).1)
      (mem_normalAll (arguments_normal hin has hs))
  | @literal f as has =>
    obtain ⟨hne, -, -⟩ := isSpellable_generic hs
    have hspell : spell w none (.generic f (.special "Literal") as) =
        subscripted (Expr.dotted "typing.Literal") (as.map (valueExpr w)) := by
      simp only [spell, literalForm, List.isEmpty_eq_false_iff.mpr hne]
      rfl
    rw [hspell, Syntax.unspelled_subscripted (unspelled_dotted _)]
    exact (yields_dotted (ht.form "Literal" (by simp))).subscripted (yields_literals has)
      (by simpa using hne) rfl (subscript_literal hne has)
  | @classVar f a hin ha ih =>
    obtain ⟨hne, hs, hpipe⟩ := isSpellable_generic hs
    have hone {P : Value → Prop} (h : P a) : ∀ b ∈ [a], P b := by simpa using h
    refine yields_arguments (ht.base (n := "ClassVar") (by simp)) rfl hne
      (hargs (hone ha) (hone ih) hs hn) ?_
    exact subscript_classVar
      (arguments_normal (hone hin) (hone ha) (hpipe rfl) a (by simp))
  | annotated hin ho ih => exact ih hs fun d hd => hn d (List.mem_append_left _ hd)

/-! ### Texts -/

theorem areWritable_iff : areWritable as = true ↔ ∀ a ∈ as, isWritable a = true := by
  induction as with
  | nil => simp [areWritable]
  | cons a as ih => rw [areWritable, Bool.and_eq_true, ih, List.forall_mem_cons]

/-- Something with arguments is written as the name of its origin and the arguments. -/
theorem isWritable_generic {o : Value} (ho : Syntax.isDottedName ((qualifiedName? o).getD "") = true)
    (hne : o ≠ .special "Literal") (has : ∀ a ∈ as, isWritable a = true) :
    isWritable (.generic f o as) = true := by
  rw [isWritable.eq_9 _ _ _ hne, ho, areWritable_iff.mpr has]
  rfl

/-- **An annotation is made of names and literals.** -/
theorem Annotation.isWritable (ha : Annotation w a) (hs : isSpellable a = true)
    (hn : ∀ d ∈ walk a, Nameable w fr d) : isWritable a = true := by
  have hargs {as : List Value} (has : ∀ a ∈ as, Annotation w a)
      (ih : ∀ a ∈ as, isSpellable a = true → (∀ d ∈ walk a, Nameable w fr d) →
        Hint.isWritable a = true) (hs : ∀ a ∈ as, isSpellable a = true)
      {f : Family} {o : Value} (hn : ∀ d ∈ walk (.generic f o as), Nameable w fr d) :
      ∀ a ∈ as, Hint.isWritable a = true :=
    fun a ha => ih a ha (hs a ha) fun d hd => hn d (mem_walk_generic (has a ha).isSingle ha hd)
  induction ha with
  | none | ellipsis | str | forward | typeVar => rw [Hint.isWritable]
  | cls c =>
    have hc := hn (.cls c) (by simp [walk])
    rw [Hint.isWritable]
    by_cases hnamed : IsSpelledByName c
    · rw [(hc hnamed).isDotted, Bool.or_true]
    · have hstandard : c.id = (Standard.named "_empty").id ∨ c.id = (Standard.named "Any").id ∨
          c.id = Standard.noneType.id := by
        by_contra hnot
        simp only [not_or] at hnot
        exact hnamed ⟨hnot.1, hnot.2.1, hnot.2.2⟩
      rcases hstandard with h | h | h <;> simp [h]
  | newType n =>
    have hc : PathTo w fr n.path (.newType n) := hn (.newType n) (by simp [walk])
    rw [Hint.isWritable, hc.isDotted]
  | typeAlias n =>
    have hc : PathTo w fr n.path (.typeAlias n) := hn (.typeAlias n) (by simp [walk])
    rw [Hint.isWritable, hc.isDotted]
  | @bare n c h =>
    have hc := hn (.cls c) (by simp [walk, h])
    rw [Hint.isWritable, h]
    exact (hc (aliasClass_spec h).2).isDotted
  | @container f c as hc htk hf has ih =>
    obtain ⟨-, hs, -⟩ := isSpellable_generic hs
    have hbase := hn (.cls c) (mem_walk_origin (by simp [walk])) hc.toIsSpelledByName
    exact isWritable_generic hbase.isDotted (by simp) (hargs has ih hs hn)
  | @parametric c as hc hp hconv has ih =>
    obtain ⟨-, hs, -⟩ := isSpellable_generic hs
    have hbase := hn (.cls c) (mem_walk_origin (by simp [walk])) hc.toIsSpelledByName
    exact isWritable_generic hbase.isDotted (by simp) (hargs has ih hs hn)
  | @callable f ps r hf hps hr ihps ihr =>
    obtain ⟨-, hs, -⟩ := isSpellable_generic hs
    have hbase := hn (.cls callableClass) (mem_walk_origin (by simp [walk]))
      isSpelledByName_callableClass
    refine isWritable_generic hbase.isDotted (by simp) fun a ha => ?_
    rcases List.mem_append.mp ha with hp | hr'
    · exact ihps a hp (hs a ha) fun d hd => hn d (mem_walk_generic (hps a hp).isSingle ha hd)
    · obtain rfl := List.mem_singleton.mp hr'
      exact ihr (hs a ha) fun d hd => hn d (mem_walk_generic hr.isSingle ha hd)
  | @applied n as hin has ih =>
    obtain ⟨-, hs, -⟩ := isSpellable_generic hs
    have hbase : PathTo w fr n.path (.typeAlias n) :=
      hn (.typeAlias n) (mem_walk_origin (by simp [walk]))
    exact isWritable_generic hbase.isDotted (by simp) (hargs has ih hs hn)
  | @union f as hin has ih =>
    obtain ⟨-, hs, -⟩ := isSpellable_generic hs
    refine isWritable_generic ?_ (by simp) (hargs has ih hs hn)
    rw [qualifiedName?_special]
    decide
  | @pipe as hin has ih =>
    obtain ⟨-, hs, -⟩ := isSpellable_pipe hs
    rw [Hint.isWritable]
    exact areWritable_iff.mpr fun a ha =>
      ih a ha (hs a ha) fun d hd => hn d (mem_walkArgs (has a ha).isSingle ha hd)
  | @literal f as has =>
    obtain ⟨hne, -, -⟩ := isSpellable_generic hs
    rw [Hint.isWritable, List.isEmpty_eq_false_iff.mpr hne, List.all_eq_true.mpr fun v hv => (has v hv).literal]
    rfl
  | @classVar f a hin ha ih =>
    obtain ⟨-, hs, -⟩ := isSpellable_generic hs
    have hone {P : Value → Prop} (h : P a) : ∀ b ∈ [a], P b := by simpa using h
    refine isWritable_generic ?_ (by simp) (hargs (hone ha) (hone ih) hs hn)
    rw [qualifiedName?_special]
    decide
  | annotated hin ho ih =>
    rw [Hint.isWritable]
    exact ih hs fun d hd => hn d (List.mem_append_left _ hd)

/-- **The text of an annotation evaluates to the normal form of the annotation.** -/
theorem friendlyName_yields (ht : HoldsTyping w fr) (ha : Annotation w a) (hs : isSpellable a = true)
    (hn : ∀ d ∈ walk a, Nameable w fr d) :
    ∃ e, Syntax.readExpr (friendlyName w none a) = .ok e ∧ e.isSound false = true ∧
      Yields w fr e (normal a) := by
  have hwritten : Syntax.IsWritten (spell w none a) := isWritten_spell a (ha.isWritable hs hn)
  exact ⟨_, hwritten.reads.readExpr, hwritten.sound, yields_spell ht ha hs hn⟩

/-! ## Texts that evaluate to something else -/

/-- The text of a reference is a call of a name that no import binds. -/
theorem friendlyName_forward (hf : fr.find w (Syntax.mangle fr.privateTo "ForwardRef") = .error .name)
    (s : String) : ∃ e, Syntax.readExpr (friendlyName w none (.forward s)) = .ok e ∧
      ∀ v, ¬ Yields w fr e v := by
  refine ⟨.call (.name "ForwardRef") [.str s] [], (isWritten_forward s).reads.readExpr, ?_⟩
  rintro v ⟨k, hk⟩
  have hname : (eval (k + 1) fr (.name "ForwardRef")).outcome w = (.error (.fault .name), w) := by
    rw [eval_name, hf, outcome_lift_error]
  have hcall : (eval (k + 2) fr (.call (.name "ForwardRef") [.str s] [])).outcome w =
      (.error (.fault .name), w) := by
    conv_lhs => unfold eval
    exact outcome_bind_of_error hname
  cases (hk (k + 2) (by omega)).symm.trans hcall

/-- The text of a container without arguments is the name of its class. -/
theorem friendlyName_container_nil {c : Named} (hc : Ordinary c) (hn : PathTo w fr c.path (.cls c)) :
    ∃ e, Syntax.readExpr (friendlyName w none (.generic f (.cls c) [])) = .ok e ∧
      Yields w fr e (.cls c) := by
  have hspell : spell w none (.generic f (.cls c) []) = Expr.dotted c.path := by
    simp only [spell]
    rw [if_neg hc.notCallable]
    rfl
  refine ⟨_, ?_, hn.yields⟩
  rw [friendlyName, hspell]
  exact (isWritten_dotted hn.isDotted).reads.readExpr

/-! ## A small world -/

/-- A class that takes anything. -/
def smallClass : Named := ⟨0, "builtins", "tuple"⟩

/-- A world with one class and the module of special forms. -/
def smallWorld : World where
  objects := #[.cls { named := smallClass, name := "tuple", subscripting := .anything },
    .module {
      name := "typing"
      globals := ⟨[("Any", Standard.any), ("Union", .special "Union"),
        ("Literal", .special "Literal"), ("ClassVar", .special "ClassVar")]⟩ }]

/-- A place where the class and the module can be seen. -/
def smallFrame : Frame where
  scope := .cls
  globals := .none
  vars := ⟨[("typing", .module 1), ("tuple", .cls smallClass)]⟩

theorem leads_small {n : String} {v : Value} (hn : Syntax.dottedParts ("typing." ++ n) = ["typing", n])
    (hv : ∃ info, smallWorld.module? 1 = some info ∧ info.globals.get? n = some v) :
    Leads smallWorld smallFrame ("typing." ++ n) v := by
  obtain ⟨info, hi, hv⟩ := hv
  exact ⟨"typing", [n], .module 1, hn, rfl, .step (offers_module hi hv) (.here v)⟩

theorem holdsTyping_small : HoldsTyping smallWorld smallFrame where
  any := leads_small (n := "Any") (by decide) ⟨_, rfl, rfl⟩
  form n hn := by
    simp only [List.mem_cons, List.not_mem_nil, or_false] at hn
    rcases hn with rfl | rfl | rfl <;> exact leads_small (by decide) ⟨_, rfl, rfl⟩

theorem nameable_small : Nameable smallWorld smallFrame (.cls smallClass) :=
  fun _ => ⟨by decide, "tuple", [], .cls smallClass, by decide, rfl, .here _⟩

theorem ordinary_small : Ordinary smallClass where
  notEmpty := by decide
  notAny := by decide
  notNone := by decide
  notAnnotated := by decide
  notCallable := by decide
  notGeneric := by decide

theorem annotation_small {f : Family} (hf : f ≠ .special "") (has : ∀ a ∈ as, Annotation smallWorld a) :
    Annotation smallWorld (.generic f (.cls smallClass) as) :=
  .container ordinary_small rfl hf has

/-- The text is `typing.Union[tuple[typing.Any, 'x'], None]`. -/
theorem friendlyName_yields_optional :
    let pair : Value := .generic .plain (.cls smallClass) [.typeVar 0 "T", .str "x"]
    let optional : Value := .generic (.special "Union") (.special "Union") [pair, .cls Standard.noneType]
    ∃ e, Syntax.readExpr (friendlyName smallWorld none (.annotated optional [.int 1])) = .ok e ∧
      e.isSound false = true ∧
      Yields smallWorld smallFrame e (normal (.annotated optional [.int 1])) := by
  intro pair optional
  have hin : ∀ u ∈ [pair, .cls Standard.noneType], Accepted false u := by
    rintro u hu
    rcases List.mem_pair.mp hu with rfl | rfl
    · exact ⟨pair, (member_generic ordinary_small.notGeneric).checked⟩
    · exact ⟨_, (member_cls isPlainClass_noneType).checked⟩
  have ha : ∀ u ∈ [pair, .cls Standard.noneType], Annotation smallWorld u := by
    rintro u hu
    rcases List.mem_pair.mp hu with rfl | rfl
    · exact annotation_small (by simp) (by simp [ Annotation.typeVar, Annotation.str])
    · exact .cls _
  refine friendlyName_yields holdsTyping_small (.annotated ⟨optional, rfl⟩ (.union hin ha)) (by decide) ?_
  have hwalk : walk (.annotated optional [.int 1]) = [.cls smallClass, .cls Standard.noneType] := by
    have halias := aliasClass?_of_mem_forms (n := "Union") (by simp [Standard.forms])
    simp [walk, walkArgs, groupsParameters, optional, pair, halias, ordinary_small.notCallable]
  rw [hwalk]
  rintro d hd
  rcases List.mem_pair.mp hd with rfl | rfl
  · exact nameable_small
  · exact fun h => absurd rfl h.notNone

/-- **Not every annotation evaluates back:** a reference has no value, and a container without
arguments becomes its class. -/
theorem friendlyName_loses :
    ( Annotation smallWorld (.forward "X") ∧
      ∃ e, Syntax.readExpr (friendlyName smallWorld none (.forward "X")) = .ok e ∧
        ∀ v, ¬ Yields smallWorld smallFrame e v) ∧
    ( Annotation smallWorld (.generic .plain (.cls smallClass) []) ∧
      ∃ e, Syntax.readExpr (friendlyName smallWorld none (.generic .plain (.cls smallClass) [])) = .ok e ∧
        ¬ Yields smallWorld smallFrame e (normal (.generic .plain (.cls smallClass) []))) := by
  refine ⟨⟨.forward "X", friendlyName_forward rfl "X"⟩, annotation_small (by simp) (by simp), ?_⟩
  obtain ⟨e, hread, hclass⟩ := friendlyName_container_nil (f := .plain) ordinary_small
    (nameable_small ordinary_small.toIsSpelledByName)
  refine ⟨e, hread, fun h => ?_⟩
  cases h.unique hclass

end Facade.Hint
