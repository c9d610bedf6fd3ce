import Facade.Proofs.Loading
import Facade.Wrapper.Layout

/-!
# The bodies of generated classes

The body of a generated class states a namespace, declares attributes, and defines methods and properties.

* `BodyFrame`, `Stage`: the frame that such a body runs in, and the module around it.
* `Piece`, `Piece.statements`: what a body consists of.
* `Piece.InOrder`: annotations that only add to the world, and defaults that have been stored.
* `runBlock_pieces`: a body that succeeds leaves behind what its pieces stand for.
-/

namespace Facade.Execution

open Run Conversion
open Syntax (Expr Stmt Param mangle)

/-! ## Frames -/

/-- The values that the body of a generated class gives to names. -/
def isMember : Value → Bool
  | .str _ | .dict _ | .function _ | .property _ _ => true
  | _ => false

/-- The values that a generated module gives to names in front of its class. -/
def isGlobal : Value → Bool
  | .none | .str _ | .tuple _ | .module _ | .cache _ => true
  | _ => false

/-- The frame that the body of a generated class runs in. -/
structure BodyFrame (m : Nat) (cls : String) (fr : Frame) : Prop where
  scope : fr.scope = .cls
  globals : fr.globals = some m
  captured : fr.captured = {}
  privateTo : fr.privateTo = some cls
  vars : ∀ x v, fr.vars.get? x = some v → isMember v = true

/-- The module around a generated class before the class is made. -/
structure Stage (c m : Nat) (b : World) (info : ModuleInfo) : Prop where
  module : b.module? m = some info
  cache : info.globals.get? cacheGlobal = some (.cache c)
  globals : ∀ x v, info.globals.get? x = some v → isGlobal v = true

/-- In the body of a class, an expression runs nothing that does more than add to the world. -/
def CalmInBody (b : World) (m : Nat) (cls : String) (e : Expr) : Prop :=
  ∀ fr, BodyFrame m cls fr → CalmIn b fr e

variable {c m n : Nat} {cls : String} {b w w' : World} {fr fr' : Frame} {flow : Flow}
  {info : ModuleInfo}

theorem bodyFrame_classFrame (m : Nat) (cls : String) : BodyFrame m cls (classFrame m cls) :=
  ⟨rfl, rfl, rfl, rfl, by simp [classFrame]⟩

theorem BodyFrame.set (h : BodyFrame m cls fr) {x : String} {v : Value} (hv : isMember v = true)
    (made : List Nat) : BodyFrame m cls { fr with made := made, vars := fr.vars.set x v } where
  scope := h.scope
  globals := h.globals
  captured := h.captured
  privateTo := h.privateTo
  vars y u hu := by
    rw [Table.get?_set] at hu
    split at hu
    · rw [← Option.some.inj hu, hv]
    · exact h.vars y u hu

theorem BodyFrame.find (h : BodyFrame m cls fr) (hm : w.module? m = some info) (x : String) :
    fr.find w x = match fr.vars.get? x with
      | some v => .ok v
      | none => (globalOf w info x).elim (.error .name) .ok := by
  unfold Frame.find
  rw [h.scope]
  cases fr.vars.get? x with
  | some v => rfl
  | none => simp [h.captured, Frame.findGlobal, h.globals, hm]

theorem mangle_get (cls : Option String) : mangle cls "get" = "get" :=
  Syntax.mangle_of_not_isPrivate cls rfl

theorem mangle_setter (cls : Option String) : mangle cls "setter" = "setter" :=
  Syntax.mangle_of_not_isPrivate cls rfl

theorem mangle_property (cls : Option String) : mangle cls "property" = "property" :=
  Syntax.mangle_of_not_isPrivate cls rfl

theorem plainAttribute?_get {v : Value} (hv : isMember v = true) (w : World) :
    plainAttribute? w v "get" = none := by
  have hf (f : Function) : functionAttribute? w f "get" = none := rfl
  cases v with
  | str | dict | property => rfl
  | function f =>
    show (w.function? f).bind (fun info => functionAttribute? w info "get") = none
    simp only [hf, Option.bind_fun_none]
  | _ => cases hv

/-- A member of a class has no attribute of the cache's. -/
theorem getAttr_get_member {v x : Value} (hv : isMember v = true)
    (h : (getAttr n v "get").outcome w = (.ok x, w')) : False := by
  obtain _ | n := n
  · simp [getAttr] at h
  have hget := plainAttribute?_get hv w
  conv at h => lhs; unfold getAttr
  rw [outcome_get_bind] at h
  cases v with
  | str | dict | property | function => simp [hget] at h
  | _ => cases hv

/-- Where the expression of a cached value has a value, the cache is at hand. -/
theorem find_cache_of_eval (hb : BodyFrame m cls fr) (hs : Stage c m w info) {u : Uuid} {x : Value}
    (h : (eval n fr (cachedValue u)).outcome w = (.ok x, w')) :
    fr.find w cacheGlobal = .ok (.cache c) := by
  rw [hb.find hs.module]
  cases hv : fr.vars.get? cacheGlobal with
  | none => simp [globalOf, hs.cache]
  | some v =>
    exfalso
    obtain _ | _ | _ | n := n
    · simp [eval] at h
    · simp [eval, cachedValue, outcome_bind] at h
    · simp [eval, cachedValue, outcome_bind] at h
    rw [cachedValue, eval] at h
    obtain ⟨g, w₁, hg, -⟩ := bind_eq_ok h
    rw [eval_attribute] at hg
    obtain ⟨u', w₂, hu, hget⟩ := bind_eq_ok hg
    rw [eval_name, mangle_reservedName _ (by decide), hb.find hs.module, hv] at hu
    obtain ⟨hu, -⟩ := lift_eq_ok hu
    rw [mangle_get] at hget
    exact getAttr_get_member (hb.vars _ _ hv) (Except.ok.inj hu ▸ hget)

/-! ## Defaults -/

/-- A default that has been stored is read as what was stored. -/
def Again (c : Nat) (b : World) (e : Expr) (x : Value) : Prop := ∀ v, Stored c b v e → Reread v x

theorem Stage.extend (h : Stage c m b info) (hw : b.Extends w) : Stage c m w info :=
  ⟨hw.module? h.module, h.cache, h.globals⟩

theorem givesIn_again (hb : BodyFrame m cls fr) (hs : Stage c m b info) {v : Value} {e : Expr}
    (hv : Stored c b v e) : GivesIn b fr (Again c b) e := by
  intro n w₁ x w₂ hw hx
  have hcache {u : Uuid} (he : e = cachedValue u) : fr.find w₁ cacheGlobal = .ok (.cache c) :=
    find_cache_of_eval hb (hs.extend hw) (he ▸ hx)
  have read {v' : Value} (hv' : Stored c b v' e) : Reread v' x ∧ w₁.Extends w₂ :=
    eval_stored (hv'.mono hw.grows) (fun _ => hcache) (hb.privateTo ▸ mangle_get _) hx
  exact ⟨fun v' hv' => (read hv').1, (read hv).2⟩

/-! ## Pieces -/

/-- What the body of a generated class consists of. -/
inductive Piece where
  /-- A line without effect. -/
  | blank (text : String)
  /-- A name that has the value of another one, or of a constant. -/
  | assign (name : String) (value : Expr)
  /-- An attribute with an annotation and without a value. -/
  | declare (name : String) (hint : Expr)
  /-- A method. -/
  | method (isAsync : Bool) (name : String) (params : List Param) (result : Option Expr)
    (body : List Stmt)
  /-- A property that passes reads and writes on to a place. -/
  | property (name : String) (hint place : Expr) (writable : Bool)

namespace Piece

/-- The statements of a piece. -/
def statements : Piece → List Stmt
  | .blank text => [.layout text]
  | .assign name value => [.assign [.name name] value]
  | .declare name hint => [.annAssign (.name name) hint none true]
  | .method isAsync name params result body => [.define isAsync name params result [] body]
  | .property name hint place writable => passThrough name hint place writable

/-- The name that a piece binds in a class. -/
def bound? (cls : String) : Piece → Option String
  | .blank _ => none
  | .assign name _ | .method _ name _ _ _ | .property name _ _ _ => some (mangle (some cls) name)
  | .declare _ _ => some "__annotations__"

/-- Whether a piece is a property. -/
def isProperty : Piece → Bool
  | .property _ _ _ _ => true
  | _ => false

end Piece

/-- A parameter in order: its annotation is calm, its default has been stored. -/
structure ParamInOrder (c : Nat) (b : World) (m : Nat) (cls : String) (p : Param) : Prop where
  hint : ∀ e ∈ p.hint, CalmInBody b m cls e
  default : ∀ e ∈ p.default, ∃ v, Stored c b v e

/-- A piece in order: its annotations are calm, its defaults have been stored, and what it assigns is
a constant text or a name that the module has. -/
def Piece.InOrder (c : Nat) (b : World) (m : Nat) (cls : String) (info : ModuleInfo) : Piece → Prop
  | .blank _ => True
  | .assign _ value =>
    (∃ s, value = Expr.str s) ∨
      ∃ x s, value = .name x ∧ info.globals.get? (mangle (some cls) x) = some (.str s)
  | .declare _ hint => CalmInBody b m cls hint
  | .method _ _ params result _ =>
    (∀ p ∈ params, ParamInOrder c b m cls p) ∧ ∀ e ∈ result, CalmInBody b m cls e
  | .property _ hint _ _ => CalmInBody b m cls hint

/-- A function of the body of a class. -/
structure MadeFunction (c : Nat) (b : World) (m : Nat) (cls : String) (isAsync : Bool)
    (params : List Param) (body : List Stmt) (f : Function) : Prop where
  params : List.Forall₂ (MakesParam (Again c b) (some cls)) params f.params
  isAsync : f.isAsync = isAsync
  globals : f.globals = some m
  body : f.body = .code body (some cls) {}

/-- In a world, a function of the body of a class is new since an earlier one. -/
structure NewFunction (c : Nat) (b : World) (m : Nat) (cls : String) (isAsync : Bool)
    (params : List Param) (body : List Stmt) (w : World) (id : Nat) : Prop where
  new : b.objects.size ≤ id
  made : ∃ f, w.function? id = some f ∧ MadeFunction c b m cls isAsync params body f

/-- What a piece leaves behind under its name. -/
def Piece.Leaves (c : Nat) (b : World) (m : Nat) (cls : String) (w : World)
    (vars : Table String Value) : Piece → Prop
  | .blank _ | .declare _ _ => True
  | .assign name value =>
    ∀ s, value = Expr.str s → vars.get? (mangle (some cls) name) = some (.str s)
  | .method isAsync name params _ body =>
    ∃ id, vars.get? (mangle (some cls) name) = some (.function id) ∧
      NewFunction c b m cls isAsync params body w id
  | .property name hint place writable =>
    ∃ g s, vars.get? (mangle (some cls) name) =
        some (.property (some (.function g)) (if writable then some (.function s) else none)) ∧
      NewFunction c b m cls false [Plan.receiver .positionalOrKeyword] [.returns (some place)] w g ∧
      (writable = true → NewFunction c b m cls false
        [Plan.receiver .positionalOrKeyword,
          { kind := .positionalOrKeyword, name := "value", hint := some hint }]
        [.assign [place] (.name "value")] w s)

/-! ## Running a piece -/

theorem NewFunction.mono {isAsync : Bool} {params : List Param} {body : List Stmt} {id : Nat}
    (h : NewFunction c b m cls isAsync params body w id) (hw : w.Grows w') :
    NewFunction c b m cls isAsync params body w' id := by
  obtain ⟨hnew, f, hf, hmade⟩ := h
  obtain ⟨home, hhome⟩ := hw.function? hf
  exact ⟨hnew, _, hhome, hmade.params, hmade.isAsync, hmade.globals, hmade.body⟩

theorem Piece.Leaves.mono {vars vars' : Table String Value} {p : Piece}
    (h : p.Leaves c b m cls w vars) (hw : w.Grows w')
    (hv : ∀ x, p.bound? cls = some x → vars'.get? x = vars.get? x) :
    p.Leaves c b m cls w' vars' := by
  cases p with
  | blank | declare => trivial
  | assign name value => exact fun s hs => (hv _ rfl).trans (h s hs)
  | method isAsync name params result body =>
    obtain ⟨id, hid, hn⟩ := h
    exact ⟨id, (hv _ rfl).trans hid, hn.mono hw⟩
  | property name hint place writable =>
    obtain ⟨g, s, hid, hg, hs⟩ := h
    exact ⟨g, s, (hv _ rfl).trans hid, hg.mono hw, fun hwritable => (hs hwritable).mono hw⟩

theorem rel_imp {α β : Type} {R S : α → β → Prop} (h : ∀ a b, R a b → S a b) {o : Option α}
    {p : Option β} (hr : Option.Rel R o p) : Option.Rel S o p := by
  cases hr with
  | none => exact .none
  | some hr => exact .some (h _ _ hr)

/-- What has been made since a world has been made since an earlier one. -/
theorem NewFunction.since {v : World} {isAsync : Bool} {params : List Param} {body : List Stmt}
    {id : Nat} (h : NewFunction c v m cls isAsync params body w id) (hb : b.Extends v) :
    NewFunction c b m cls isAsync params body w id := by
  obtain ⟨hnew, f, hf, hmade⟩ := h
  refine ⟨hb.size_le.trans hnew, f, hf, ?_, hmade.isAsync, hmade.globals, hmade.body⟩
  exact hmade.params.imp fun p q hpq =>
    ⟨hpq.name, hpq.kind, rel_imp (fun _ _ h x hx => h x (hx.mono hb.grows)) hpq.default⟩

theorem Piece.Leaves.since {v : World} {vars : Table String Value} {p : Piece}
    (h : p.Leaves c v m cls w vars) (hb : b.Extends v) : p.Leaves c b m cls w vars := by
  cases p with
  | blank | declare => trivial
  | assign => exact h
  | method isAsync name params result body =>
    obtain ⟨id, hid, hn⟩ := h
    exact ⟨id, hid, hn.since hb⟩
  | property name hint place writable =>
    obtain ⟨g, s, hid, hg, hs⟩ := h
    exact ⟨g, s, hid, hg.since hb, fun hwritable => (hs hwritable).since hb⟩

/-- What running pieces does to the frame and the world. -/
structure RunsPieces (c : Nat) (b : World) (m : Nat) (cls : String) (names : List String) (fr : Frame)
    (w : World) (fr' : Frame) (w' : World) : Prop where
  frame : BodyFrame m cls fr'
  extends_ : w.Extends w'
  others : ∀ x, x ∉ names → fr'.vars.get? x = fr.vars.get? x
  made : ∀ id ∈ fr'.made, id ∈ fr.made ∨ b.objects.size ≤ id

theorem BodyFrame.runsPieces (h : BodyFrame m cls fr) : RunsPieces c b m cls [] fr w fr w :=
  ⟨h, .refl w, fun _ _ => rfl, fun _ h => .inl h⟩

theorem RunsPieces.trans {names names' : List String} {fr'' : Frame} {w'' : World}
    (h : RunsPieces c b m cls names fr w fr' w') (h' : RunsPieces c b m cls names' fr' w' fr'' w'') :
    RunsPieces c b m cls (names ++ names') fr w fr'' w'' where
  frame := h'.frame
  extends_ := h.extends_.trans h'.extends_
  others x hx := by
    rw [List.mem_append, not_or] at hx
    rw [h'.others x hx.2, h.others x hx.1]
  made id hid := (h'.made id hid).elim (h.made id) .inr

theorem RunsPieces.mono {names names' : List String} (h : RunsPieces c b m cls names fr w fr' w')
    (hn : names ⊆ names') : RunsPieces c b m cls names' fr w fr' w' :=
  ⟨h.frame, h.extends_, fun x hx => h.others x fun hm => hx (hn hm), h.made⟩

section Steps

variable {isAsync : Bool} {name : String} {params : List Param} {result : Option Expr}
  {body : List Stmt}

/-- A definition of a method or an accessor, seen from the body of a class. -/
theorem Defined.runsPieces (hb : BodyFrame m cls fr) (hw : b.Extends w) {member : Value → Value}
    (hm : ∀ g, isMember (member (.function g)) = true) {id : Nat} {f : Function}
    (h : Defined (Again c b) w fr isAsync name params body member (fr', flow) w' id f) :
    flow = .next ∧ RunsPieces c b m cls [mangle (some cls) name] fr w fr' w' ∧
      fr'.vars.get? (mangle (some cls) name) = some (member (.function id)) ∧
      NewFunction c b m cls isAsync params body w' id := by
  obtain ⟨hmade, hnew, hext, hf, hfr⟩ := h
  obtain ⟨rfl, rfl⟩ := Prod.mk.inj hfr
  rw [← hb.privateTo]
  refine ⟨rfl, ⟨hb.set (hm id) _, hext, fun x hx => ?_, fun i hi => ?_⟩, by simp,
    hw.size_le.trans hnew, f, hf, ?_, hmade.isAsync, hmade.globals.trans hb.globals, ?_⟩
  · exact Table.get?_set_of_ne _ _ fun he => hx (by simp [he])
  · rcases List.mem_append.mp hi with hi | hi
    · exact .inl hi
    · rw [List.mem_singleton] at hi
      exact .inr (hi ▸ hw.size_le.trans hnew)
  · rw [← hb.privateTo]
    exact hmade.params
  · rw [hmade.body, hb.scope, hb.privateTo, hb.captured]
    rfl

/-- Parameters and annotations in order are in order for every definition in the body of the class. -/
theorem orderly (hb : BodyFrame m cls fr) (hs : Stage c m b info) (hw : b.Extends w)
    (hp : ∀ p ∈ params, ParamInOrder c b m cls p) (hr : ∀ e ∈ result, CalmInBody b m cls e)
    {C : Expr → Value → Prop} : Orderly w fr (Again c b) C params result [] where
  decorators := by simp
  defaults p hpm e he := by
    obtain ⟨v, hv⟩ := (hp p hpm).default e he
    exact (givesIn_again hb hs hv).mono hw
  hints p hpm e he n w₁ h₁ := (hp p hpm).hint e he fr hb n w₁ (hw.trans h₁)
  result e he n w₁ h₁ := hr e he fr hb n w₁ (hw.trans h₁)

/-! ### Methods and properties -/

theorem exec_method (hb : BodyFrame m cls fr) (hs : Stage c m b info) (hw : b.Extends w)
    (hp : ∀ p ∈ params, ParamInOrder c b m cls p) (hr : ∀ e ∈ result, CalmInBody b m cls e)
    (h : (exec n fr (.define isAsync name params result [] body)).outcome w =
      (.ok (fr', flow), w')) :
    flow = .next ∧ RunsPieces c b m cls [mangle (some cls) name] fr w fr' w' ∧
      ∃ id, fr'.vars.get? (mangle (some cls) name) = some (.function id) ∧
        NewFunction c b m cls isAsync params body w' id := by
  obtain ⟨id, f, hd⟩ := exec_define_plain (C := fun _ _ => True) hb.scope (orderly hb hs hw hp hr) h
  obtain ⟨hflow, hruns, hget, hnew⟩ := hd.runsPieces hb hw fun _ => rfl
  exact ⟨hflow, hruns, id, hget, hnew⟩

/-- What a module can use without import, and the class of properties in it. -/
structure Properties (b : World) (info : ModuleInfo) (property : Named) : Prop where
  builtins : ∃ builtins, info.builtins = some builtins ∧
    builtins.get? "property" = some (.cls property)
  class_ : ∃ i, b.class? property.id = some i
  module : property.module = "builtins"
  qualname : property.qualname = "property"

theorem isPassive_of_isMember {v : Value} (hv : isMember v = true ∨ isGlobal v = true)
    (hf : ∀ f, v ≠ .function f) : IsPassive v := by
  intro k x w₁ w₂ r h
  obtain _ | k := k
  · simp [call] at h
  conv at h => lhs; unfold call
  rw [outcome_get_bind] at h
  cases v <;> simp [isMember, isGlobal] at hv <;> first | exact hf _ rfl | simp at h

/-- What the decorator of a getter is: the class of properties, or nothing that can be called. -/
theorem find_property (hb : BodyFrame m cls fr) (hs : Stage c m b info) {property : Named}
    (hp : Properties b info property) (hv : ∀ f, fr.vars.get? "property" ≠ some (.function f)) :
    ∃ d, (∀ w, b.Extends w → fr.find w "property" = .ok d) ∧
      (d = Value.cls property ∨ IsPassive d) := by
  obtain ⟨builtins, hbuiltins, hget⟩ := hp.builtins
  have found {d : Value} (h : ∀ w, (match fr.vars.get? "property" with
      | some v => Except.ok v
      | none => (globalOf w info "property").elim (Except.error Fault.name) .ok) = .ok d) (w : World)
      (hw : b.Extends w) : fr.find w "property" = .ok d := by
    rw [hb.find (hs.extend hw).module]
    exact h w
  cases hx : fr.vars.get? "property" with
  | some v =>
    exact ⟨v, found fun w => by rw [hx],
      .inr (isPassive_of_isMember (.inl (hb.vars _ _ hx)) fun f hf => hv f (hf ▸ hx))⟩
  | none =>
    cases hg : info.globals.get? "property" with
    | some v =>
      have hglobal := hs.globals _ _ hg
      refine ⟨v, found fun w => by rw [hx]; simp [globalOf, hg],
        .inr (isPassive_of_isMember (.inr hglobal) fun f hf => ?_)⟩
      rw [hf] at hglobal
      cases hglobal
    | none =>
      exact ⟨.cls property, found fun w => by rw [hx]; simp [globalOf, hg, hbuiltins, hget], .inl rfl⟩

theorem exec_passThrough {hint place : Expr} {writable : Bool} (hb : BodyFrame m cls fr)
    (hs : Stage c m b info) {property : Named} (hprop : Properties b info property)
    (hv : ∀ f, fr.vars.get? "property" ≠ some (.function f)) (hw : b.Extends w)
    (hh : CalmInBody b m cls hint)
    (h : (runBlock (exec n) fr (passThrough name hint place writable)).outcome w =
      (.ok (fr', flow), w')) :
    flow = .next ∧ RunsPieces c b m cls [mangle (some cls) name] fr w fr' w' ∧
      Piece.Leaves c b m cls w' fr'.vars (.property name hint place writable) := by
  have receiver : ∀ p ∈ [Plan.receiver .positionalOrKeyword], ParamInOrder c b m cls p := by
    simp only [List.mem_singleton, forall_eq]
    exact ⟨by simp [Plan.receiver], by simp [Plan.receiver]⟩
  have hnone : CalmInBody b m cls (.const .none) := by
    intro fr _ n w₁ _
    obtain _ | n := n
    · exact .refl w₁
    · rw [eval_const]
      exact .refl w₁
  unfold passThrough at h
  dsimp only at h
  obtain ⟨fr₁, f₁, w₁, hgetter, h₁⟩ := runBlock_cons_eq_ok h
  obtain ⟨d, hfind, hd⟩ := find_property hb hs hprop hv
  obtain ⟨i, hi⟩ := hprop.class_
  obtain ⟨g, fg, hdg⟩ := exec_define_getter (C := fun _ _ => True) hb.scope hprop.module
    hprop.qualname (hw.class? hi) (fun v hv => by rw [mangle_property]; exact hfind v (hw.trans hv)) hd
    (orderly hb hs hw receiver (by simpa using hh)) hgetter
  obtain ⟨rfl, hruns, hget, hnew⟩ := hdg.runsPieces hb hw fun _ => rfl
  obtain ⟨fr₂, f₂, w₂, hlayout, h₂⟩ := runBlock_cons_eq_ok (h₁ rfl)
  obtain ⟨rfl, rfl, rfl⟩ := exec_layout_eq_ok hlayout
  cases writable with
  | false =>
    obtain ⟨rfl, rfl, rfl⟩ := runBlock_nil_eq_ok (h₂ rfl)
    exact ⟨rfl, hruns, g, 0, hget, hnew, by simp⟩
  | true =>
    have hw₁ := hw.trans hruns.extends_
    obtain ⟨fr₃, f₃, w₃, hsetter, h₃⟩ := runBlock_cons_eq_ok (h₂ rfl)
    have value : ∀ p ∈ [Plan.receiver .positionalOrKeyword,
        { kind := .positionalOrKeyword, name := "value", hint := some hint }],
        ParamInOrder c b m cls p := by
      refine List.forall_mem_cons.mpr ⟨receiver _ (by simp), ?_⟩
      simp only [List.mem_singleton, forall_eq]
      exact ⟨by simpa using hh, by simp⟩
    obtain ⟨s, fs, hds⟩ := exec_define_setter (C := fun _ _ => True) hruns.frame.scope
      (by rw [hruns.frame.privateTo]; exact hget) (mangle_setter _)
      (orderly hruns.frame hs hw₁ value (by simpa using hnone)) hsetter
    obtain ⟨rfl, hruns', hget', hnew'⟩ := hds.runsPieces hruns.frame hw₁ fun _ => rfl
    obtain ⟨fr₄, f₄, w₄, hlayout', h₄⟩ := runBlock_cons_eq_ok (h₃ rfl)
    obtain ⟨rfl, rfl, rfl⟩ := exec_layout_eq_ok hlayout'
    obtain ⟨rfl, rfl, rfl⟩ := runBlock_nil_eq_ok (h₄ rfl)
    exact ⟨rfl, (hruns.trans hruns').mono (by simp), g, s, hget', hnew.mono hruns'.extends_.grows,
      fun _ => hnew'⟩

/-! ### Other pieces -/

theorem exec_assignPiece {value : Expr} (hb : BodyFrame m cls fr) (hs : Stage c m b info)
    (hw : b.Extends w)
    (hv : (∃ s, value = Expr.str s) ∨
      ∃ x s, value = .name x ∧ info.globals.get? (mangle (some cls) x) = some (.str s))
    (h : (exec n fr (.assign [.name name] value)).outcome w = (.ok (fr', flow), w')) :
    flow = .next ∧ RunsPieces c b m cls [mangle (some cls) name] fr w fr' w' ∧
      ∀ s, value = Expr.str s → fr'.vars.get? (mangle (some cls) name) = some (.str s) := by
  obtain ⟨k, v, w₁, hv', hflow, hput⟩ := exec_assign_name h
  obtain _ | k := k
  · simp [eval] at hv'
  have hvalue : isMember v = true ∧ w₁ = w ∧ ∀ s, value = Expr.str s → v = .str s := by
    rcases hv with ⟨s, rfl⟩ | ⟨x, s, rfl, hx⟩
    · rw [Expr.str, eval_const, Prod.mk.injEq, Except.ok.injEq] at hv'
      rw [← hv'.1, ← hv'.2]
      exact ⟨rfl, rfl, fun t ht => by cases ht; rfl⟩
    · rw [eval_name, hb.privateTo, hb.find (hs.extend hw).module] at hv'
      obtain ⟨hfind, rfl⟩ := lift_eq_ok hv'
      refine ⟨?_, rfl, fun t ht => by cases ht⟩
      cases hvar : fr.vars.get? (mangle (some cls) x) with
      | some u =>
        rw [hvar] at hfind
        exact Except.ok.inj hfind ▸ hb.vars _ _ hvar
      | none =>
        have : v = .str s := by simpa [hvar, globalOf, hx] using hfind.symm
        rw [this]
        rfl
  obtain ⟨hmember, rfl, htext⟩ := hvalue
  rw [put_class hb.scope, Prod.mk.injEq, Except.ok.injEq] at hput
  obtain ⟨rfl, rfl⟩ := hput
  rw [← hb.privateTo]
  refine ⟨hflow, ⟨hb.set hmember fr.made, .refl _,
    fun x hx => Table.get?_set_of_ne _ _ fun he => hx (by simp [he]), fun _ h => .inl h⟩,
    fun s hs => ?_⟩
  rw [Table.get?_set_self, htext s hs]

theorem exec_declarePiece {hint : Expr} (hb : BodyFrame m cls fr) (hw : b.Extends w)
    (hh : CalmInBody b m cls hint)
    (h : (exec n fr (.annAssign (.name name) hint none true)).outcome w = (.ok (fr', flow), w')) :
    flow = .next ∧ RunsPieces c b m cls ["__annotations__"] fr w fr' w' := by
  obtain _ | _ | n := n
  · simp [exec] at h
  · simp [exec, annotate] at h
  rw [exec] at h
  dsimp only at h
  rw [outcome_pure_bind, if_pos rfl] at h
  obtain ⟨fr₁, w₁, hannotate, h⟩ := bind_eq_ok h
  obtain ⟨hr, rfl⟩ : (fr₁, Flow.next) = (fr', flow) ∧ w₁ = w' := by simpa using h
  obtain ⟨rfl, rfl⟩ := Prod.mk.inj hr
  rw [annotate, if_neg (by simp [hb.scope])] at hannotate
  obtain ⟨a, w₂, ha, hput⟩ := bind_eq_ok hannotate
  have hcalm := hh fr hb n w hw
  rw [ha] at hcalm
  dsimp only at hput
  rw [outcome_get_bind, put_class hb.scope, Prod.mk.injEq, Except.ok.injEq] at hput
  obtain ⟨rfl, rfl⟩ := hput
  exact ⟨rfl, hb.set rfl fr.made, hcalm,
    fun x hx => Table.get?_set_of_ne _ _ fun he => hx (by simp [he]), fun _ h => .inl h⟩

end Steps

/-! ## Running a body -/

/-- What decorates properties can be found, and no method hides it. -/
structure Decorates (b : World) (cls : String) (info : ModuleInfo) (fr : Frame) (ps : List Piece) :
    Prop where
  properties : (∃ p ∈ ps, p.isProperty = true) → ∃ property, Properties b info property
  free : (∃ p ∈ ps, p.isProperty = true) → ∀ f, fr.vars.get? "property" ≠ some (.function f)
  later : ps.Pairwise fun p q =>
    q.isProperty = true → p.isProperty = true ∨ p.bound? cls ≠ some "property"

/-- No method hides what decorates properties if the properties stand together, after pieces that do not
bind its name. -/
theorem not_hidden_of_parts {first properties last : List Piece}
    (hfirst : ∀ p ∈ first, p.bound? cls ≠ some "property")
    (hproperties : ∀ p ∈ properties, p.isProperty = true) (hlast : ∀ p ∈ last, p.isProperty = false) :
    (first ++ properties ++ last).Pairwise fun p q =>
      q.isProperty = true → p.isProperty = true ∨ p.bound? cls ≠ some "property" := by
  have hall (ps : List Piece) : ps.Pairwise fun _ _ => True := List.pairwise_of_forall fun _ _ => trivial
  have hafter {q : Piece} (hq : q ∈ last) (hprop : q.isProperty = true) : False := by
    rw [hlast q hq] at hprop
    cases hprop
  refine List.pairwise_append.mpr ⟨List.pairwise_append.mpr ⟨?_, ?_, ?_⟩, ?_, ?_⟩
  · exact (hall first).imp_of_mem fun hp _ _ _ => .inr (hfirst _ hp)
  · exact (hall properties).imp_of_mem fun hp _ _ _ => .inl (hproperties _ hp)
  · exact fun p hp q _ _ => .inr (hfirst p hp)
  · exact (hall last).imp_of_mem fun _ hq _ hprop => (hafter hq hprop).elim
  · exact fun p _ q hq hprop => (hafter hq hprop).elim

theorem Decorates.mono {ps : List Piece} (h : Decorates b cls info fr ps) (hw : b.Extends w) :
    Decorates w cls info fr ps where
  properties hp := by
    obtain ⟨property, hproperty⟩ := h.properties hp
    obtain ⟨i, hi⟩ := hproperty.class_
    exact ⟨property, hproperty.builtins, ⟨i, hw.class? hi⟩, hproperty.module, hproperty.qualname⟩
  free := h.free
  later := h.later

/-- Running one piece. -/
theorem runBlock_piece {p : Piece} (hb : BodyFrame m cls fr) (hs : Stage c m b info)
    (hw : b.Extends w) (hp : p.InOrder c b m cls info)
    (hd : p.isProperty = true → (∃ property, Properties b info property) ∧
      ∀ f, fr.vars.get? "property" ≠ some (.function f))
    (h : (runBlock (exec n) fr p.statements).outcome w = (.ok (fr', flow), w')) :
    flow = .next ∧ RunsPieces c b m cls (p.bound? cls).toList fr w fr' w' ∧
      p.Leaves c b m cls w' fr'.vars ∧
      (p.isProperty = true → ∀ f, fr'.vars.get? "property" ≠ some (.function f)) := by
  cases p with
  | blank text =>
    obtain ⟨rfl, rfl, rfl⟩ := exec_layout_eq_ok (runBlock_singleton_eq_ok h)
    exact ⟨rfl, hb.runsPieces, trivial, by simp [Piece.isProperty]⟩
  | assign name value =>
    obtain ⟨hflow, hruns, hleaves⟩ := exec_assignPiece hb hs hw hp (runBlock_singleton_eq_ok h)
    exact ⟨hflow, hruns, hleaves, by simp [Piece.isProperty]⟩
  | declare name hint =>
    obtain ⟨hflow, hruns⟩ := exec_declarePiece hb hw hp (runBlock_singleton_eq_ok h)
    exact ⟨hflow, hruns, trivial, by simp [Piece.isProperty]⟩
  | method isAsync name params result body =>
    obtain ⟨hflow, hruns, hleaves⟩ := exec_method hb hs hw hp.1 hp.2 (runBlock_singleton_eq_ok h)
    exact ⟨hflow, hruns, hleaves, by simp [Piece.isProperty]⟩
  | property name hint place writable =>
    obtain ⟨⟨property, hprop⟩, hfree⟩ := hd rfl
    obtain ⟨hflow, hruns, hleaves⟩ := exec_passThrough hb hs hprop hfree hw hp h
    refine ⟨hflow, hruns, hleaves, fun _ f hf => ?_⟩
    by_cases hn : "property" = mangle (some cls) name
    · obtain ⟨g, s, hget, -⟩ := hleaves
      rw [hn, hget] at hf
      simp at hf
    · exact hfree f (hruns.others "property" (by simpa using hn) ▸ hf)

/-- **A body that succeeds leaves behind what its pieces stand for,** as far as no later piece takes
the name over. -/
theorem runBlock_pieces (hs : Stage c m b info) (ps : List Piece) :
    ∀ {fr : Frame} {w : World}, BodyFrame m cls fr → b.Extends w →
      (∀ p ∈ ps, p.InOrder c b m cls info) → Decorates b cls info fr ps →
      (runBlock (exec n) fr (ps.flatMap Piece.statements)).outcome w = (.ok (fr', flow), w') →
      flow = .next ∧ RunsPieces c b m cls (ps.filterMap (Piece.bound? cls)) fr w fr' w' ∧
        ∀ before p later, ps = before ++ p :: later →
          (∀ x, p.bound? cls = some x → x ∉ later.filterMap (Piece.bound? cls)) →
          p.Leaves c b m cls w' fr'.vars := by
  induction ps with
  | nil =>
    intro fr w hb _ _ _ h
    obtain ⟨rfl, rfl, rfl⟩ := runBlock_nil_eq_ok h
    exact ⟨rfl, hb.runsPieces, by simp⟩
  | cons p ps ih =>
    intro fr w hb hw hp hd h
    rw [List.flatMap_cons] at h
    obtain ⟨fr₁, f, w₁, hpiece, hrest⟩ := runBlock_append_eq_ok _ h
    obtain ⟨rfl, hruns, hleaves, hfree⟩ := runBlock_piece hb hs hw (hp p List.mem_cons_self)
      (fun hprop => ⟨hd.properties ⟨p, List.mem_cons_self, hprop⟩,
        hd.free ⟨p, List.mem_cons_self, hprop⟩⟩) hpiece
    have hd' : Decorates b cls info fr₁ ps := by
      obtain ⟨hproperties, hfr, hlater⟩ := hd
      obtain ⟨hfirst, hlater⟩ := List.pairwise_cons.mp hlater
      refine ⟨fun ⟨q, hq, hprop⟩ => hproperties ⟨q, List.mem_cons_of_mem p hq, hprop⟩,
        fun ⟨q, hq, hprop⟩ f hf => ?_, hlater⟩
      rcases hfirst q hq hprop with hprop' | hne
      · exact hfree hprop' f hf
      · have := hruns.others "property" (by simpa using hne)
        exact hfr ⟨q, List.mem_cons_of_mem p hq, hprop⟩ f (this ▸ hf)
    obtain ⟨hflow, hruns', hall⟩ := ih hruns.frame (hw.trans hruns.extends_)
      (fun q hq => hp q (List.mem_cons_of_mem p hq)) hd' (hrest rfl)
    have hnames : (p :: ps).filterMap (Piece.bound? cls) =
        (p.bound? cls).toList ++ ps.filterMap (Piece.bound? cls) := by
      cases hb : p.bound? cls <;> simp [hb]
    refine ⟨hflow, hnames ▸ hruns.trans hruns', fun before q later he hn => ?_⟩
    cases before with
    | nil =>
      obtain ⟨rfl, rfl⟩ := List.cons.inj he
      exact hleaves.mono hruns'.extends_.grows fun x hx => hruns'.others x (hn x hx)
    | cons _ before =>
      obtain ⟨-, rfl⟩ := List.cons.inj he
      exact hall before q later rfl hn

end Facade.Execution
