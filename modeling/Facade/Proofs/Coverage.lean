import Facade.Proofs.Resolving
import Facade.Proofs.SpelledTypes

/-!
# Names that a spelling needs

Each name in the spelling of an annotation belongs to the module of special forms, or to a module that
is referenced once the annotation has been added, or to a class that needs no module.

* `Expr.path?`, `CoveredBy`: the names that an expression shows, and what can be said of all of them.
* `Composed`: the annotations built from classes, aliases, unions, literals and the like.
* `coveredBy_spell`: a spelling shows only special forms and the declared types of a walk.
* `Recorded`: a resolver that recorded what it visited; `recorded_addTypes`: success keeps it so.
* `covered_addTypes`: after an annotation has been added, its spelling can be imported.
-/

namespace Facade

/-! ## Names in expressions -/

namespace Syntax

/-- The dotted name that an expression is, if it is one. -/
def Expr.path? : Expr → Option String
  | .name n => some n
  | .attribute e a => e.path?.map fun s => s ++ "." ++ a
  | _ => none

theorem splitDots_cases (cs : List Char) :
    ∃ p ps, splitDots cs = p :: ps ∧ p ++ ps.flatMap ('.' :: ·) = cs := by
  induction cs with
  | nil => exact ⟨[], [], rfl, rfl⟩
  | cons c cs ih =>
    obtain ⟨p, ps, hsplit, hjoin⟩ := ih
    by_cases hc : c = '.'
    · subst hc
      exact ⟨[], p :: ps, by rw [splitDots, if_pos rfl, hsplit], by simp [hjoin]⟩
    · exact ⟨c :: p, ps, by rw [splitDots, if_neg hc, hsplit], by simp [hjoin]⟩

/-- What a dotted name stands for is that name. -/
theorem path?_dotted (s : String) : (Expr.dotted s).path? = some s := by
  obtain ⟨p, ps, hsplit, hjoin⟩ := splitDots_cases s.toList
  have hfold : ∀ (qs : List (List Char)) (e : Expr) (t : String), e.path? = some t →
      ((qs.map String.ofList).foldl Expr.attribute e).path? =
        some (String.ofList (t.toList ++ qs.flatMap ('.' :: ·))) := by
    intro qs
    induction qs with
    | nil => intro e t he; simpa using he
    | cons q qs ih =>
      intro e t he
      rw [List.map_cons, List.foldl_cons,
        ih (.attribute e (String.ofList q)) (t ++ "." ++ String.ofList q) (by simp [Expr.path?, he])]
      simp
  unfold Expr.dotted dottedParts
  rw [hsplit, List.map_cons]
  dsimp only
  rw [hfold ps _ (String.ofList p) rfl, String.toList_ofList, hjoin, String.ofList_toList]

end Syntax

namespace Hint

open Syntax (Expr)

/-- Every dotted name that an expression shows, as far as it goes, outside of texts and of what a
literal form lists, has a property. -/
inductive CoveredBy (P : String → Prop) : Expr → Prop
  | const (c : Syntax.Constant) : CoveredBy P (.const c)
  | path {e : Expr} {s : String} (he : e.path? = some s) (hs : P s) : CoveredBy P e
  | subscript {e i : Expr} (he : CoveredBy P e) (hi : CoveredBy P i) : CoveredBy P (.subscript e i)
  | literal {e i : Expr} (he : e.path? = some "typing.Literal") (hs : P "typing.Literal") :
    CoveredBy P (.subscript e i)
  | tuple {es : List Expr} (h : ∀ e ∈ es, CoveredBy P e) : CoveredBy P (.tuple es)
  | list {es : List Expr} (h : ∀ e ∈ es, CoveredBy P e) : CoveredBy P (.list es)

theorem CoveredBy.mono {P Q : String → Prop} (h : ∀ s, P s → Q s) {e : Expr} (he : CoveredBy P e) :
    CoveredBy Q e := by
  induction he with
  | const c => exact .const c
  | path he hs => exact .path he (h _ hs)
  | subscript _ _ ihe ihi => exact .subscript ihe ihi
  | literal he hs => exact .literal he (h _ hs)
  | tuple _ ih => exact .tuple ih
  | list _ ih => exact .list ih

theorem coveredBy_dotted {P : String → Prop} {s : String} (h : P s) : CoveredBy P (Expr.dotted s) :=
  .path (Syntax.path?_dotted s) h

theorem CoveredBy.subscripted {P : String → Prop} {base : Expr} {es : List Expr}
    (hb : CoveredBy P base) (hes : ∀ e ∈ es, CoveredBy P e) : CoveredBy P (Hint.subscripted base es) := by
  unfold Hint.subscripted
  split
  · exact hb
  · exact hb.subscript (hes _ (by simp))
  · exact hb.subscript (.tuple hes)

/-! ## Annotations -/

/-- The annotations that are built from declared types, texts and type variables by aliases with
arguments, unions, literal forms, annotations with data, and callables with lists of parameters. -/
inductive Composed : Value → Prop
  | none : Composed .none
  | ellipsis : Composed .ellipsis
  | str (s : String) : Composed (.str s)
  | subStr (s : String) : Composed (.subStr s)
  | typeVar (i : Nat) (n : String) : Composed (.typeVar i n)
  | cls (c : Named) : Composed (.cls c)
  | newType (n : Named) : Composed (.newType n)
  | typeAlias (n : Named) : Composed (.typeAlias n)
  | bare {n : String} {c : Named} (h : Standard.aliasClass? n = some c) : Composed (.special n)
  | container (f : Family) (c : Named) {as : List Value} (h : ∀ a ∈ as, Composed a) :
    Composed (.generic f (.cls c) as)
  | applied (f : Family) (n : Named) {as : List Value} (h : ∀ a ∈ as, Composed a) :
    Composed (.generic f (.typeAlias n) as)
  | union (f : Family) {as : List Value} (h : ∀ a ∈ as, Composed a) :
    Composed (.generic f (.special "Union") as)
  | pipe {as : List Value} (h : ∀ a ∈ as, Composed a) : Composed (.pipe as)
  | literal (f : Family) {as : List Value} (h : as ≠ []) : Composed (.generic f (.special "Literal") as)
  | classVar (f : Family) {a : Value} (h : Composed a) : Composed (.generic f (.special "ClassVar") [a])
  | annotated {a : Value} (h : Composed a) (ms : List Value) : Composed (.annotated a ms)

/-- The names that are shown: those of special forms, and those of declared types on a walk. -/
def Shows (a : Value) (s : String) : Prop :=
  (∃ n, s = "typing." ++ n) ∨ ∃ d ∈ walk a, ∃ c, declared? d = some c ∧ s = c.path

theorem Composed.isSingle {a : Value} (h : Composed a) : IsSingle a := by
  cases h <;> exact ⟨nofun, nofun⟩

theorem shows_typing (a : Value) (n : String) : Shows a ("typing." ++ n) := .inl ⟨n, rfl⟩

theorem Shows.mono {a b : Value} (h : ∀ d ∈ walk a, d ∈ walk b) {s : String} (hs : Shows a s) :
    Shows b s :=
  hs.imp_right fun ⟨d, hd, c, hc⟩ => ⟨d, h d hd, c, hc⟩

section Spell

variable {w : World} {self : Option String} {a : Value} {as : List Value}

theorem mem_spellAll {e : Expr} (h : e ∈ spellAll w self as) : ∃ a ∈ as, e = spell w self a := by
  induction as with
  | nil => cases h
  | cons a as ih =>
    rw [spellAll] at h
    rcases List.mem_cons.mp h with rfl | h
    · exact ⟨a, List.mem_cons_self, rfl⟩
    · obtain ⟨b, hb, rfl⟩ := ih h
      exact ⟨b, List.mem_cons_of_mem a hb, rfl⟩

/-- A callable groups its parameters, and shows no other names. -/
theorem coveredBy_callableGroups {P : String → Prop} {es : List Expr} (g : Bool)
    (h : ∀ e ∈ es, CoveredBy P e) : ∀ e ∈ callableGroups g Expr.list es, CoveredBy P e := by
  unfold callableGroups
  split
  · exact h
  · split
    · rename_i r hr
      intro e he
      simp only [List.mem_cons, List.not_mem_nil, or_false] at he
      rcases he with rfl | rfl
      · exact .list fun e he => h e (List.dropLast_subset es he)
      · exact h e (List.mem_of_getLast? hr)
    · intro e he
      rw [List.mem_singleton] at he
      exact he ▸ .list (by simp)

/-- **A spelling shows only special forms and the declared types on a walk.** -/
theorem coveredBy_spell (ha : Composed a) : CoveredBy (Shows a) (spell w self a) := by
  have hany (a : Value) : CoveredBy (Shows a) (Expr.dotted "typing.Any") :=
    coveredBy_dotted (shows_typing a "Any")
  have hdeclared {a d : Value} {c : Named} (hd : d ∈ walk a) (hc : declared? d = some c) :
      CoveredBy (Shows a) (Expr.dotted c.path) := coveredBy_dotted (.inr ⟨d, hd, c, hc, rfl⟩)
  have hargs {b : Value} {as : List Value} (hsub : ∀ a ∈ as, ∀ d ∈ walk a, d ∈ walk b)
      (ih : ∀ a ∈ as, CoveredBy (Shows a) (spell w self a)) :
      ∀ e ∈ spellAll w self as, CoveredBy (Shows b) e := by
    intro e he
    obtain ⟨a, ha, rfl⟩ := mem_spellAll he
    exact (ih a ha).mono fun _ => Shows.mono (hsub a ha)
  have hgeneric {f : Family} {o : Value} {as : List Value} (h : ∀ a ∈ as, Composed a) :
      ∀ a ∈ as, ∀ d ∈ walk a, d ∈ walk (.generic f o as) :=
    fun a ha d hd => mem_walk_generic (h a ha).isSingle ha hd
  induction ha with
  | none | ellipsis | str | subStr => exact .const _
  | typeVar i n =>
    unfold spell
    split
    · split
      · exact .const _
      · exact hany _
    · exact hany _
  | cls c =>
    unfold spell
    split
    · exact hany _
    · split
      · exact .const _
      · exact hdeclared (d := .cls c) (by simp [walk]) rfl
  | newType n => exact hdeclared (d := .newType n) (by simp [walk]) rfl
  | typeAlias n => exact hdeclared (d := .typeAlias n) (by simp [walk]) rfl
  | @bare n c h =>
    have hspell : spell w self (.special n) = Expr.dotted c.path := by
      simp only [spell, h, Option.elim]
    rw [hspell]
    exact hdeclared (d := .cls c) (by simp [walk, h]) rfl
  | @container f c as has ih =>
    have hbase : CoveredBy (Shows (.generic f (.cls c) as))
        (Expr.dotted ((qualifiedName? (.cls c)).getD "")) :=
      hdeclared (d := .cls c) (mem_walk_origin (by simp [walk])) rfl
    have hall := hargs (hgeneric (f := f) (o := .cls c) has) ih
    unfold spell
    dsimp only
    split
    · exact hbase.subscripted (coveredBy_callableGroups _ hall)
    · exact hbase.subscripted hall
  | @applied f n as has ih =>
    have hbase : CoveredBy (Shows (.generic f (.typeAlias n) as))
        (Expr.dotted ((qualifiedName? (.typeAlias n)).getD "")) :=
      hdeclared (d := .typeAlias n) (mem_walk_origin (by simp [walk])) rfl
    exact hbase.subscripted (hargs (hgeneric has) ih)
  | @union f as has ih =>
    have hbase : CoveredBy (Shows (.generic f (.special "Union") as))
        (Expr.dotted ((qualifiedName? (.special "Union")).getD "")) :=
      coveredBy_dotted (shows_typing _ "Union")
    exact hbase.subscripted (hargs (hgeneric has) ih)
  | @pipe as has ih =>
    refine (coveredBy_dotted (shows_typing _ "Union")).subscripted (hargs (fun a ha d hd => ?_) ih)
    rw [walk]
    exact mem_walkArgs (has a ha).isSingle ha hd
  | @literal f as has =>
    have hspell : spell w self (.generic f (.special "Literal") as) =
        subscripted (Expr.dotted "typing.Literal") (as.map (valueExpr w)) := by
      simp only [spell, literalForm, List.isEmpty_eq_false_iff.mpr has]
      rfl
    have hform := shows_typing (.generic f (.special "Literal") as) "Literal"
    rw [hspell]
    unfold subscripted
    split
    · exact coveredBy_dotted hform
    · exact .literal (Syntax.path?_dotted _) hform
    · exact .literal (Syntax.path?_dotted _) hform
  | @classVar f a ha ih =>
    have hone : ∀ b ∈ [a], Composed b := by simpa using ha
    have hbase : CoveredBy (Shows (.generic f (.special "ClassVar") [a]))
        (Expr.dotted ((qualifiedName? (.special "ClassVar")).getD "")) :=
      coveredBy_dotted (shows_typing _ "ClassVar")
    exact hbase.subscripted (hargs (hgeneric hone) (by simpa using ih))
  | annotated _ ms ih =>
    refine ih.mono fun _ => Shows.mono fun d hd => ?_
    rw [walk]
    exact List.mem_append_left _ hd

end Spell

end Hint

/-! ## Modules of declared types -/

namespace Resolver

open Logged Hint

variable {w : World} {r r' : Resolver} {names : List String}

/-- A resolver that has recorded every module it visited, each under its name. -/
structure Recorded (w : World) (r : Resolver) : Prop where
  visited : ∀ m ∈ r.seen, w.moduleName m ∈ r.modules.keys
  named : ∀ n m, r.modules.get? n = some m → w.moduleName m = n

/-- Modules are found under their own names, those that are looked for. -/
structure NamesModules (w : World) (context : Option Nat) (names : List String) : Prop where
  importable : ∀ n ∈ names, ∀ m, w.importable.get? n = some m → w.moduleName m = n
  known : ∀ c ∈ context, ∀ n ∈ names, ∀ m, (w.context c).resolve? n = some m → w.moduleName m = n
  stamped : ∀ c m, c.module ∈ names → generatedModule? w (.cls c) = some m → w.moduleName m = c.module

/-- The modules that the types of annotations are declared in. -/
def declaringModules (as : List Value) : List String := (requiredTypes as).filterMap declaringModule?

theorem recorded_new (context : Option Nat) : Recorded w { context := context } :=
  ⟨nofun, nofun⟩

/-- A module that is visited is recorded with it. -/
theorem Recorded.record (h : Recorded w r) (m : Nat) (references : ReferenceSet) :
    Recorded w { r with seen := m :: r.seen, references := references
                        modules := r.modules.setDefault (w.moduleName m) m } where
  visited k hk := by
    show _ ∈ (r.modules.setDefault (w.moduleName m) m).keys
    rw [Table.keys_setDefault]
    rcases List.mem_cons.mp hk with rfl | hk
    · split <;> simp [*]
    · have := h.visited k hk
      split <;> simp [this]
  named n k hk := by
    have hk : (r.modules.setDefault (w.moduleName m) m).get? n = some k := hk
    rw [Table.get?_setDefault] at hk
    split at hk
    · rename_i hn
      rw [← hn.2, Option.some.inj hk]
    · exact h.named n k hk

/-- What success leaves behind: everything visited before and the modules themselves, recorded. -/
structure Adds (w : World) (r r' : Resolver) (ms : List Nat) : Prop where
  recorded : Recorded w r'
  context : r'.context = r.context
  before : ∀ m ∈ r.seen, m ∈ r'.seen
  added : ∀ m ∈ ms, m ∈ r'.seen

theorem addModuleFrom_adds (fuel : Nat) : ∀ (m : Nat) {r r' : Resolver} {u : PUnit}, Recorded w r →
    (addModuleFrom w fuel m).Gives r u r' → Adds w r r' (if fuel = 0 then [] else [m]) := by
  induction fuel with
  | zero =>
    intro m r r' u hr h
    obtain ⟨-, rfl⟩ := gives_pure h
    exact ⟨hr, rfl, fun _ h => h, nofun⟩
  | succ fuel ih =>
    intro m r r' u hr h
    have hall (ms : List Nat) : ∀ {r r' : Resolver} {u : PUnit}, Recorded w r →
        (ms.forM (addModuleFrom w fuel)).Gives r u r' → Adds w r r' [] := by
      induction ms with
      | nil =>
        intro r r' u hr h
        obtain ⟨-, rfl⟩ := gives_pure h
        exact ⟨hr, rfl, fun _ h => h, nofun⟩
      | cons m ms ihms =>
        intro r r' u hr h
        obtain ⟨_, r₁, hm, hms⟩ := gives_bind h
        have h₁ := ih m hr hm
        have h₂ := ihms h₁.recorded hms
        exact ⟨h₂.recorded, h₂.context.trans h₁.context, fun k hk => h₂.before k (h₁.before k hk), nofun⟩
    rw [if_neg (Nat.succ_ne_zero fuel)]
    rw [addModuleFrom] at h
    obtain ⟨r₁, r₂, hstate, h₁⟩ := gives_bind h
    obtain ⟨rfl, rfl⟩ := gives_state hstate
    split at h₁
    · rename_i hseen
      obtain ⟨-, rfl⟩ := gives_pure h₁
      exact ⟨hr, rfl, fun _ h => h, by simpa using hseen⟩
    obtain ⟨_, r₃, hseen, h₂⟩ := gives_bind h₁
    obtain rfl := gives_change hseen
    obtain ⟨location, r₄, hlocate, h₃⟩ := gives_bind h₂
    obtain ⟨-, rfl⟩ := gives_orRefuse hlocate
    obtain ⟨_, r₅, hadd, h₄⟩ := gives_bind h₃
    obtain rfl := gives_change hadd
    have hrecorded := hr.record m (r₂.references.add ⟨w.moduleName m, location⟩)
    split at h₄
    · obtain ⟨_, r₆, hnote, h₅⟩ := gives_bind h₄
      obtain rfl := gives_note hnote
      have hrest := hall _ hrecorded h₅
      exact ⟨hrest.recorded, hrest.context, fun k hk => hrest.before k (List.mem_cons_of_mem m hk),
        fun k hk => hrest.before k (by simp [List.mem_singleton.mp hk])⟩
    · obtain rfl := gives_note h₄
      exact ⟨hrecorded, rfl, fun k hk => List.mem_cons_of_mem m hk, by simp⟩

theorem moduleName_of_findModule? {n : String} {m : Nat} (hw : NamesModules w r.context names)
    (hr : Recorded w r) (hn : n ∈ names) (h : findModule? w r n = some m) : w.moduleName m = n := by
  unfold findModule? at h
  cases hmodules : r.modules.get? n with
  | some k =>
    rw [hmodules] at h
    exact hr.named n m (hmodules.trans h)
  | none =>
    cases hknown : r.context.bind fun c => (w.context c).resolve? n with
    | some k =>
      rw [hmodules, hknown] at h
      obtain rfl := Option.some.inj h
      obtain ⟨c, hc, hk⟩ := Option.bind_eq_some_iff.mp hknown
      exact hw.known c hc n hn k hk
    | none =>
      rw [hmodules, hknown] at h
      exact hw.importable n hn m h

/-- The module of a declared type goes by the name that the type gives. -/
theorem moduleName_of_moduleOf? {d : Value} {m : Nat} (hw : NamesModules w r.context names)
    (hr : Recorded w r) (hd : ∀ n ∈ declaringModule? d, n ∈ names) (h : moduleOf? w r d = .ok m) :
    declaringModule? d = some (w.moduleName m) := by
  unfold moduleOf? at h
  split at h
  · rename_i k hk
    obtain rfl := Except.ok.inj h
    cases d <;> first | exact congrArg some (hw.stamped _ _ (hd _ rfl) hk).symm | cases hk
  · dsimp only at h
    split at h
    · rename_i k hk
      obtain rfl := Except.ok.inj h
      obtain ⟨n, hn, hfind⟩ := Option.bind_eq_some_iff.mp hk
      have hdeclared := (Option.filter_eq_some_iff.mp hn).1
      rw [hdeclared, Option.some.injEq, eq_comm]
      exact moduleName_of_findModule? hw hr (hd n hdeclared) hfind
    · cases h

theorem addType_adds {d : Value} {u : PUnit} (hw : NamesModules w r.context names)
    (hr : Recorded w r) (hd : ∀ n ∈ declaringModule? d, n ∈ names)
    (h : (addType w d).Gives r u r') : ∃ m, declaringModule? d = some (w.moduleName m) ∧
      Adds w r r' [m] := by
  unfold addType at h
  obtain ⟨r₁, r₂, hstate, h₁⟩ := gives_bind h
  obtain ⟨rfl, rfl⟩ := gives_state hstate
  obtain ⟨m, r₃, hmodule, h₂⟩ := gives_bind h₁
  obtain ⟨hm, rfl⟩ := gives_orRefuse hmodule
  refine ⟨m, moduleName_of_moduleOf? hw hr hd hm, ?_⟩
  dsimp only at h₂
  split at h₂
  · exact (gives_throw h₂).elim
  refine addModuleFrom_adds _ m hr (gives_tryCatch (fun e t he => ?_) h₂)
  split at he <;> exact gives_throw he

/-- **Every type that is added has its module recorded.** -/
theorem addAll_adds (ds : List Value) (hds : ∀ n ∈ ds.filterMap declaringModule?, n ∈ names) :
    ∀ {r r' : Resolver} {u : PUnit}, NamesModules w r.context names → Recorded w r →
      (ds.forM (addType w)).Gives r u r' →
      Adds w r r' [] ∧ ∀ d ∈ ds, ∃ n ∈ r'.modules.keys, declaringModule? d = some n := by
  induction ds with
  | nil =>
    intro r r' u hw hr h
    obtain ⟨-, rfl⟩ := gives_pure h
    exact ⟨⟨hr, rfl, fun _ h => h, nofun⟩, nofun⟩
  | cons d ds ih =>
    intro r r' u hw hr h
    obtain ⟨_, r₁, hd, hrest⟩ := gives_bind h
    obtain ⟨m, hm, h₁⟩ := addType_adds hw hr
      (fun n hn => hds n (List.mem_filterMap.mpr ⟨d, List.mem_cons_self, hn⟩)) hd
    have hds' : ∀ n ∈ ds.filterMap declaringModule?, n ∈ names := by
      intro n hn
      obtain ⟨d', hd', hn'⟩ := List.mem_filterMap.mp hn
      exact hds n (List.mem_filterMap.mpr ⟨d', List.mem_cons_of_mem d hd', hn'⟩)
    obtain ⟨h₂, hall⟩ := ih hds' (h₁.context ▸ hw) h₁.recorded hrest
    refine ⟨⟨h₂.recorded, h₂.context.trans h₁.context, fun k hk => h₂.before k (h₁.before k hk), nofun⟩,
      List.forall_mem_cons.mpr ⟨⟨_, ?_, hm⟩, hall⟩⟩
    exact h₂.recorded.visited m (h₂.before m (h₁.added m List.mem_cons_self))

/-- **A resolver that has recorded what it visited still has after success.** -/
theorem recorded_addTypes {as : List Value} {u : PUnit}
    (hw : NamesModules w r.context (declaringModules as)) (hr : Recorded w r)
    (h : (addTypes w as).Gives r u r') : Recorded w r' :=
  (addAll_adds _ (fun _ hn => hn) hw hr h).1.recorded

end Resolver

/-! ## Spellings that can be imported -/

namespace Hint

open Resolver

/-- What a name in a spelling has to do with imported modules: it is that of a special form or of
something in one of them, or that of a declared type that stands alone. -/
def ImportedBy (names : List String) (a : Value) (s : String) : Prop :=
  (∃ m n, (m = "typing" ∨ m ∈ names) ∧ s = m ++ "." ++ n) ∨
    ∃ d ∈ walk a, ∃ c, declared? d = some c ∧ c.module = "builtins" ∧ s = c.qualname

/-- **After an annotation has been added, its spelling can be imported.** -/
theorem covered_addTypes {w : World} {r r' : Resolver} {a : Value} (self : Option String)
    (hw : NamesModules w r.context (declaringModules [a])) (hr : Recorded w r) (ha : Composed a)
    (h : (addTypes w [a]).Gives r () r') :
    CoveredBy (ImportedBy r'.modules.keys a) (spell w self a) := by
  refine (coveredBy_spell ha).mono fun s hs => ?_
  rcases hs with ⟨n, rfl⟩ | ⟨d, hd, c, hc, rfl⟩
  · exact .inl ⟨"typing", n, .inl rfl, by rw [show "typing" ++ "." = "typing." by decide]⟩
  · obtain ⟨n, hn, hmodule⟩ :=
      (addAll_adds _ (fun _ hn => hn) hw hr h).2 d (mem_requiredTypes_of_mem_walk hd)
    rw [declaringModule?, hc, Option.map_some, Option.some.injEq] at hmodule
    unfold Named.path
    split
    · rename_i hb
      exact .inr ⟨d, hd, c, hc, by simpa using hb, rfl⟩
    · exact .inl ⟨c.module, c.qualname, .inr (hmodule ▸ hn), rfl⟩

/-! ## A class in a module of its own -/

/-- The class. -/
def lone : Named := ⟨0, "m", "C"⟩

/-- A world with the class and its module, which may have a file. -/
def loneWorld (file : Option String) : World where
  objects := #[.cls { named := lone, name := "C" },
    .module { name := "m", globals := ⟨(file.map fun f => ("__file__", Value.str f)).toList⟩ }]
  importable := ⟨[("m", 1)]⟩

theorem namesModules_lone (file : Option String) (names : List String) :
    NamesModules (loneWorld file) none names where
  importable n _ m h := by
    have he : (n, m) ∈ [("m", 1)] :=
      (Table.get?_eq_some_iff (t := (loneWorld file).importable) (by simp [loneWorld, Table.keys])).mp h
    obtain ⟨rfl, rfl⟩ := Prod.mk.inj (List.mem_singleton.mp he)
    cases file <;> rfl
  known := nofun
  stamped c m _ h := by
    have hnone : ((loneWorld file).class? c.id).bind
        (fun i => i.members.get? generatedModuleAttribute) = none := by
      rcases h : c.id with _ | _ | k <;> rfl
    simp only [generatedModule?, hnone] at h
    cases h

theorem importable_lone :
    (((nameParts? (.cls lone)).map Prod.snd).getD "").contains "<locals>" = false := by
  show "C".contains "<locals>" = false
  rw [String.contains_string_eq_false_iff]
  decide

/-- Adding the class is adding its module. -/
theorem addTypes_lone {a : Value} (ha : requiredTypes [a] = [.cls lone]) (file : Option String)
    {l : Resolver × List LogRecord} (hm : moduleOf? (loneWorld file) l.1 (.cls lone) = .ok 1)
    (h : ((addModule (loneWorld file) 1).run l).1 = .ok ⟨⟩) :
    (addTypes (loneWorld file) [a]).run l = (.ok ⟨⟩, ((addModule (loneWorld file) 1).run l).2) := by
  have hrun := addType_run hm importable_lone (Prod.ext h rfl)
  unfold addTypes
  rw [ha]
  show (addType (loneWorld file) (.cls lone) >>= fun _ => pure PUnit.unit).run l = _
  rw [Logged.run_bind, hrun]
  rfl

/-- The spelling is `typing.Union[m.C, 'x', typing.Any]`. -/
theorem covered_addTypes_union :
    let w := loneWorld (some "/m.py")
    let a : Value :=
      .generic (.special "Union") (.special "Union") [.cls lone, .str "x", .typeVar 0 "T"]
    let r' := ((addModule w 1).outcome {}).2.1
    NamesModules w none (declaringModules [a]) ∧ Recorded w {} ∧ Composed a ∧ (addTypes w [a]).Gives {} () r' ∧
      r'.modules.keys = ["m"] ∧ CoveredBy (ImportedBy r'.modules.keys a) (spell w none a) := by
  intro w a r'
  have ha : Composed a := .union _ (by simp [Composed.cls, Composed.str, Composed.typeVar])
  have hrun := addTypes_lone (a := a) rfl (some "/m.py") (l := ({}, [])) (by decide) rfl
  have hgives : (addTypes w [a]).Gives {} () r' := ⟨[], _, hrun⟩
  exact ⟨namesModules_lone _ _, recorded_new none, ha, hgives, by decide,
    covered_addTypes none (namesModules_lone _ _) (recorded_new none) ha hgives⟩

/-- **A refusal can hide a module from later additions.** A module without a place is refused when
its class is added, but has been visited then: adding the class once more succeeds, and the module is
not referenced. -/
theorem uncovered_after_refusal :
    let w := loneWorld none
    let r := ((addTypes w [.cls lone]).outcome {}).2.1
    NamesModules w none (declaringModules [.cls lone]) ∧ Composed (.cls lone) ∧
      ((addTypes w [.cls lone]).outcome {}).1 = .error (unresolved w (.cls lone) noOrigin) ∧
      (addTypes w [.cls lone]).Gives r () r ∧
      ¬ CoveredBy (ImportedBy r.modules.keys (.cls lone)) (spell w none (.cls lone)) := by
  intro w r
  have hfirst : (addModule w 1).run ({}, []) =
      (.error (.unresolved (describe w (.module 1)) noOrigin), { seen := [1] }, []) := rfl
  have hrefused : (addTypes w [.cls lone]).run ({}, []) =
      (.error (unresolved w (.cls lone) noOrigin), { seen := [1] }, []) := by
    show (addType w (.cls lone) >>= fun _ => pure PUnit.unit).run _ = _
    rw [Logged.run_bind, addType_run_refused (by decide) importable_lone hfirst]
  have hr : r = { seen := [1] } := by
    show ((addTypes w [.cls lone]).run ({}, [])).2.1 = _
    rw [hrefused]
  refine ⟨namesModules_lone none _, .cls lone, ?_, ?_, ?_⟩
  · show ((addTypes w [.cls lone]).run ({}, [])).1 = _
    rw [hrefused]
  · rw [hr]
    exact ⟨[], _, addTypes_lone rfl none (l := ({ seen := [1] }, [])) (by decide) rfl⟩
  · rw [hr]
    intro h
    have hspell : spell w none (.cls lone) = .attribute (.name "m") "C" := rfl
    rw [hspell] at h
    cases h with
    | path he hs =>
      obtain rfl := Option.some.inj he
      rcases hs with ⟨m, n, hm, he⟩ | ⟨d, hd, c, hc, hb, -⟩
      · obtain rfl := hm.resolve_right nofun
        have := congrArg String.toList he
        simp at this
      · obtain rfl := List.mem_singleton.mp hd
        obtain rfl := Option.some.inj hc
        exact absurd hb (by decide)

end Hint

end Facade
