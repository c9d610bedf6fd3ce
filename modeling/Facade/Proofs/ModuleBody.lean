import Facade.Proofs.ClassBody
import Facade.Proofs.Compilation
import Facade.Proofs.Growing

/-!
# The bodies of generated modules

A generated module imports, states its namespace and makes one class.

* `runBlock_header`: what the statements in front of the class leave among the globals.
* `ClassMade`: a class that its module made, with the members that its body left behind.
* `exec_generatedClass`: a class statement that succeeds has made its class.
* `runModule_generated`: a module that succeeds has.
-/

namespace Facade.Execution

open Run Conversion Wrapper
open Syntax (Expr Stmt Param mangle)

variable {c m n : Nat} {cls : String} {b w w' : World} {fr fr' : Frame} {flow : Flow}
  {info : ModuleInfo}

/-! ## Globals -/

/-- A table of which every value is one that a module gives to a name in front of its class. -/
def AllGlobal (t : Table String Value) : Prop := ∀ e ∈ t.entries, isGlobal e.2 = true

theorem mem_setEntries {x : String} {v : Value} {e : String × Value} {es : List (String × Value)}
    (h : e ∈ Table.setEntries x v es) : e.2 = v ∨ e ∈ es := by
  induction es with
  | nil =>
    rw [Table.setEntries, List.mem_singleton] at h
    exact .inl (by rw [h])
  | cons d es ih =>
    rw [Table.setEntries] at h
    split at h <;> rcases List.mem_cons.mp h with h | h
    · exact .inl (by rw [h])
    · exact .inr (List.mem_cons_of_mem d h)
    · exact .inr (h ▸ List.mem_cons_self)
    · exact (ih h).imp_right (List.mem_cons_of_mem d)

theorem mem_of_get? {t : Table String Value} {x : String} {v : Value} (h : t.get? x = some v) :
    ∃ e ∈ t.entries, e.2 = v := by
  obtain ⟨e, he, hv⟩ := Option.map_eq_some_iff.mp h
  exact ⟨e, List.mem_of_find?_eq_some he, hv⟩

theorem AllGlobal.set {t : Table String Value} (h : AllGlobal t) (x : String) {v : Value}
    (hv : isGlobal v = true) : AllGlobal (t.set x v) := by
  intro e he
  rcases mem_setEntries he with he | he
  · rw [he, hv]
  · exact h e he

theorem AllGlobal.get? {t : Table String Value} (h : AllGlobal t) (x : String) (v : Value)
    (hx : t.get? x = some v) : isGlobal v = true := by
  obtain ⟨e, he, rfl⟩ := mem_of_get? hx
  exact h e he

/-! ## In front of the class -/

/-- Imports bind what the context of the module gives for their names. -/
theorem runBlock_imports (is : List Syntax.ImportName)
    (hi : ∀ i ∈ is, i.boundAs = none ∨ Syntax.dottedParts i.name = [i.name]) :
    ∀ {w : World} {info : ModuleInfo}, Held b w m info →
      (runBlock (exec n) (moduleFrame m) (is.map fun i => .imports [i])).outcome w =
        (.ok (fr', flow), w') →
      fr' = moduleFrame m ∧ flow = .next ∧ ∃ t, Held b w' m { info with globals := t } ∧
        (AllGlobal info.globals → AllGlobal t) ∧
        (∀ x, x ∉ is.map importedName → t.get? x = info.globals.get? x) ∧
        ∀ x ∈ is.map importedName, ∃ i ∈ is, importedName i = x ∧ ∃ k,
          importThrough w info.context i.name false 0 none = .ok k ∧
            t.get? x = some (.module k) := by
  induction is with
  | nil =>
    intro w info hh h
    obtain ⟨rfl, rfl, rfl⟩ := runBlock_nil_eq_ok h
    exact ⟨rfl, rfl, info.globals, hh, id, fun _ _ => rfl, by simp⟩
  | cons i is ih =>
    intro w info hh h
    obtain ⟨fr₁, f, w₁, himport, hrest⟩ := runBlock_cons_eq_ok h
    obtain ⟨rfl, rfl, k, hk, rfl⟩ := exec_imports rfl rfl rfl hh (hi i List.mem_cons_self) himport
    obtain ⟨hfr, hflow, t, ht, hall, hothers, hmods⟩ :=
      ih (fun j hj => hi j (List.mem_cons_of_mem i hj))
        (hh.set (info.globals.set (importedName i) (.module k))) (hrest rfl)
    refine ⟨hfr, hflow, t, ht, fun hg => hall (hg.set _ rfl), fun x hx => ?_, fun x hx => ?_⟩
    · rw [List.map_cons, List.mem_cons, not_or] at hx
      rw [hothers x hx.2, Table.get?_set_of_ne _ _ (Ne.symm hx.1)]
    · by_cases hmem : x ∈ is.map importedName
      · obtain ⟨j, hj, hname, l, hl, hget⟩ := hmods x hmem
        exact ⟨j, List.mem_cons_of_mem i hj, hname, l, hl, hget⟩
      · rw [List.map_cons, List.mem_cons] at hx
        have hx := hx.resolve_right hmem
        exact ⟨i, List.mem_cons_self, hx.symm, k, hk, by rw [hothers x hmem, hx, Table.get?_set_self]⟩

/-- What a module holds in front of its class: the cache, its namespace and what it imports. -/
structure Header (c : Nat) (ns : String) (imported : List String) (t : Table String Value) :
    Prop where
  cache : t.get? cacheGlobal = some (.cache c)
  namespace_ : t.get? namespaceName = some (.str ns)
  globals : AllGlobal t
  imports : ∀ x ∈ imported, x ≠ namespaceName → ∃ k, t.get? x = some (.module k)

theorem runBlock_header {is : List Syntax.ImportName} {ns : String}
    (hi : ∀ i ∈ is, i.boundAs = none ∨ Syntax.dottedParts i.name = [i.name])
    (hc : cacheGlobal ∉ is.map importedName) (hh : Held b w m info)
    (hcache : info.globals.get? cacheGlobal = some (.cache c)) (hg : AllGlobal info.globals)
    (h : (runBlock (exec n) (moduleFrame m) (header (is.map fun i => .imports [i]) ns)).outcome w =
      (.ok (fr', flow), w')) :
    fr' = moduleFrame m ∧ flow = .next ∧ ∃ t, Held b w' m { info with globals := t } ∧
      Header c ns (is.map importedName) t := by
  unfold header at h
  obtain ⟨fr₁, f₁, w₁, himports, h₁⟩ := runBlock_append_eq_ok _ h
  obtain ⟨rfl, rfl, t, ht, hall, hothers, hmods⟩ := runBlock_imports is hi hh himports
  obtain ⟨fr₂, f₂, w₂, hblank, h₂⟩ := runBlock_cons_eq_ok (h₁ rfl)
  obtain ⟨rfl, rfl, rfl⟩ := exec_layout_eq_ok hblank
  obtain ⟨fr₃, f₃, w₃, hassign, h₃⟩ := runBlock_cons_eq_ok (h₂ rfl)
  obtain ⟨k, v, w₄, hv, rfl, hput⟩ := exec_assign_name hassign
  obtain _ | k := k
  · simp [eval] at hv
  rw [Expr.str, eval_const, Prod.mk.injEq, Except.ok.injEq] at hv
  obtain ⟨rfl, rfl⟩ := hv
  rw [put_module rfl rfl ht.module, Prod.mk.injEq, Except.ok.injEq] at hput
  obtain ⟨rfl, rfl⟩ := hput
  obtain ⟨fr₅, f₅, w₅, hblank', h₅⟩ := runBlock_cons_eq_ok (h₃ rfl)
  obtain ⟨rfl, rfl, rfl⟩ := exec_layout_eq_ok hblank'
  obtain ⟨rfl, rfl, rfl⟩ := exec_layout_eq_ok (runBlock_singleton_eq_ok (h₅ rfl))
  refine ⟨rfl, rfl, t.set namespaceName (.str ns), ht.set _, ?_, Table.get?_set_self _ _ _,
    (hall hg).set _ rfl, fun x hx hne => ?_⟩
  · rw [Table.get?_set_of_ne _ _ (by decide), hothers _ hc, hcache]
  · obtain ⟨-, -, -, j, -, hj⟩ := hmods x hx
    exact ⟨j, by rw [Table.get?_set_of_ne _ _ (Ne.symm hne), hj]⟩

/-! ## The class -/

/-- A decorator that gives back what it is handed, and only adds to the world. -/
def IsIdle (d : Value) : Prop :=
  ∀ k v w r w', (call k d [v] []).outcome w = (.ok r, w') → r = v ∧ w.Extends w'

/-- Bases and decorators in order: the bases run nothing that does more than add to the world, the
decorators are idle. -/
structure HeadInOrder (m : Nat) (bases decorators : List Expr) (w : World) : Prop where
  bases : ∀ k w₁ bs w₂, w.Extends w₁ →
    (evalItems k (moduleFrame m) bases).outcome w₁ = (.ok bs, w₂) → w₁.Extends w₂
  decorators : ∀ k ds w₁, (decorators.mapM (eval k (moduleFrame m))).outcome w = (.ok ds, w₁) →
    (∀ d ∈ ds, IsIdle d) ∧ w.Extends w₁

theorem headInOrder_nil (m : Nat) (w : World) : HeadInOrder m [] [] w := by
  refine ⟨fun k w₁ bs w₂ _ hbs => ?_, fun k ds w₁ hds => ?_⟩
  · obtain _ | k := k
    · simp [evalItems] at hbs
    rw [evalItems, List.mapM_nil, outcome_pure_bind, outcome_pure, Prod.mk.injEq] at hbs
    exact hbs.2 ▸ .refl w₁
  · rw [List.mapM_nil, outcome_pure, Prod.mk.injEq, Except.ok.injEq] at hds
    obtain ⟨rfl, rfl⟩ := hds
    exact ⟨by simp, .refl w⟩

/-- Where a class stands among its ancestors. -/
structure Derives (b : World) (m : Nat) (bases : List Expr) (k : Named) (i : ClassInfo) : Prop where
  ancestors : ∃ j w₁ bs w₂ found ancestors w₃, b.Extends w₁ ∧ b.Extends w₃ ∧
    (evalItems j (moduleFrame m) bases).outcome w₁ = (.ok bs, w₂) ∧
    resolveBases? bs = some found ∧ ancestors? w₃ found = some ancestors ∧
    i.linearisation = k :: ancestors ∧
    i.checksAbstract = (found.filterMap fun d => w₃.class? d.id).any ClassInfo.checksAbstract

/-- What the members of a class are that its body has left behind, but for the one that its module
gives it. -/
structure Members (c : Nat) (b : World) (m : Nat) (cls : String) (pieces : List Piece) (w : World)
    (members : Table String Value) : Prop where
  leaves : ∀ before p later, pieces = before ++ p :: later →
    (∀ x, p.bound? cls = some x → x ∉ later.filterMap (Piece.bound? cls) ∧
      x ≠ Resolver.generatedModuleAttribute) →
    p.Leaves c b m cls w members
  others : ∀ x, x ∉ pieces.filterMap (Piece.bound? cls) → x ≠ Resolver.generatedModuleAttribute →
    members.get? x = none

theorem Members.mono {pieces : List Piece} {members : Table String Value}
    (h : Members c b m cls pieces w members) (hw : w.Grows w') :
    Members c b m cls pieces w' members :=
  ⟨fun before p later he hn => (h.leaves before p later he hn).mono hw fun _ _ => rfl, h.others⟩

/-- A class that its module has made. -/
structure ClassMade (c : Nat) (b : World) (m : Nat) (cls : String) (bases : List Expr)
    (pieces : List Piece) (w : World) (k : Named) (i : ClassInfo) : Prop where
  class_ : w.class? k.id = some i
  new : b.objects.size ≤ k.id
  builtin : i.builtin = false
  derives : Derives b m bases k i
  members : Members c b m cls pieces w i.members
  qualname : "__qualname__" ∉ pieces.filterMap (Piece.bound? cls) → k.qualname = cls

theorem foldrM_isIdle {k : Nat} (ds : List Value) : ∀ {v r : Value} {w w' : World},
    (∀ d ∈ ds, IsIdle d) → (ds.foldrM (fun d v => call k d [v] []) v).outcome w = (.ok r, w') →
      r = v ∧ w.Extends w' := by
  induction ds with
  | nil =>
    intro v r w w' _ h
    rw [List.foldrM_nil, outcome_pure, Prod.mk.injEq, Except.ok.injEq] at h
    exact ⟨h.1.symm, h.2 ▸ .refl w⟩
  | cons d ds ih =>
    intro v r w w' hd h
    rw [List.foldrM_cons] at h
    obtain ⟨u, w₁, hu, hcall⟩ := bind_eq_ok h
    obtain ⟨rfl, hw⟩ := ih (fun e he => hd e (List.mem_cons_of_mem d he)) hu
    obtain ⟨rfl, hw'⟩ := hd d List.mem_cons_self k _ _ _ _ hcall
    exact ⟨rfl, hw.trans hw'⟩

theorem Members.since {v : World} {pieces : List Piece} {members : Table String Value}
    (h : Members c v m cls pieces w members) (hb : b.Extends v) :
    Members c b m cls pieces w members :=
  ⟨fun before p later he hn => (h.leaves before p later he hn).since hb, h.others⟩

theorem object_module? {i : ModuleInfo} (h : w.module? m = some i) :
    w.objects[m]? = some (.module i) := by
  unfold World.module? at h
  split at h
  · rename_i hm
    rw [hm, Option.some.inj h]
  · cases h

/-- A class that has been made and whose functions have been settled. -/
structure MadeAndSettled (w : World) (d : ClassDraft) (ids : List Nat) (k : Named) (i : ClassInfo)
    (w' : World) : Prop where
  made : MadeClass w d k i
  class_ : w'.class? k.id = some i
  modules : ∀ m info, w.module? m = some info → w'.module? m = some info
  since : ∀ b : World, b.Extends w → (∀ id ∈ ids, b.objects.size ≤ id) → b.Extends w'
  grows : w.Grows w'

theorem makeClass_settle {d : ClassDraft} {ids : List Nat} {k : Named} {w₁ w₂ : World}
    (hk : (makeClass d).outcome w = (.ok k, w₁))
    (hs : (settle k.id ids).outcome w₁ = (.ok ⟨⟩, w₂)) : ∃ i, MadeAndSettled w d ids k i w₂ := by
  have hgrows : w.Grows w₂ :=
    ((growsAt_makeClass d).of_ok hk).trans ((growsAt_settle k.id ids w₁).of_ok hs)
  obtain ⟨i, hmade, hpush⟩ := makeClass_eq_ok hk
  obtain ⟨w₂', hout, hsettled⟩ := settle_spec k.id ids w₁
  rw [hout, Prod.mk.injEq] at hs
  obtain rfl := hs.2
  have hw : w.Extends w₁ := hpush ▸ .push w _
  refine ⟨i, hmade, ?_, fun m info hm => ?_, fun b hb hids => ⟨fun x o ho => ?_, ?_, ?_, ?_⟩, hgrows⟩
  · have := hsettled.objects k.id (.cls i) (by simp [hpush, hmade.id]) (by simp)
    rw [World.class?, this]
  · have := hsettled.objects m _ (object_module? (hw.module? hm)) (by simp)
    rw [World.module?, this]
  · obtain ⟨hlt, -⟩ := Array.getElem?_eq_some_iff.mp ho
    rw [hsettled.others x fun hx => absurd (hids x hx) (by omega)]
    exact (hb.trans hw).objects x o ho
  · rw [hsettled.rest]
    exact (hb.trans hw).importable
  · rw [hsettled.rest]
    exact (hb.trans hw).entries
  · rw [hsettled.rest]
    exact (hb.trans hw).caches

/-- **A class statement that succeeds has made its class,** and the module holds it. -/
theorem exec_generatedClass {bases decorators : List Expr} {pieces : List Piece}
    (hh : Held b w m info) (hs : Stage c m w info) (hhead : HeadInOrder m bases decorators w)
    (hp : ∀ v, b.Extends v → Stage c m v info → ∀ p ∈ pieces, p.InOrder c v m cls info)
    (hd : Decorates b cls info (classFrame m cls) pieces)
    (h : (exec n (moduleFrame m)
      (.class cls bases [] decorators (pieces.flatMap Piece.statements))).outcome w =
        (.ok (fr', flow), w')) :
    fr' = moduleFrame m ∧ flow = .next ∧ ∃ k i,
      ClassMade c b m cls bases pieces w' k i ∧ k.id ≠ m ∧
      Held b w' m { info with globals := info.globals.set cls (.cls k) } := by
  obtain ⟨j, ds, w₁, bs, w₂, inner, f, w₃, k, w₄, w₅, v, w₆, -, rfl, hds, hbs, hbody, hk, hsettle, hv,
    hput⟩ := exec_class h
  -- The decorators and the bases only add to the world, and so does the body.
  obtain ⟨hidle, hw₁⟩ := hhead.decorators j ds w₁ hds
  have hb₁ := hh.extends_.trans hw₁
  have hw₂ := hhead.bases j w₁ bs w₂ hw₁ hbs
  have hb₂ := hb₁.trans hw₂
  have hs₂ := hs.extend (hw₁.trans hw₂)
  obtain ⟨-, hruns, hleaves⟩ := runBlock_pieces hs₂ pieces (bodyFrame_classFrame m cls) (.refl w₂)
    (hp w₂ hb₂ hs₂) (hd.mono hb₂) hbody
  have hb₃ := hb₂.trans hruns.extends_
  have hm₃ : w₃.module? m = some info := (hs₂.extend hruns.extends_).module
  -- The class is new, and settling changes functions of its body only.
  obtain ⟨i, hmade⟩ := makeClass_settle hk hsettle
  have hb₅ : b.Extends w₅ := hmade.since b hb₃ fun id hid =>
    hb₂.size_le.trans ((hruns.made id hid).resolve_left (by simp [classFrame]))
  have hne : k.id ≠ m := by
    have := module?_lt hm₃
    rw [hmade.made.id]
    omega
  obtain ⟨rfl, hw₆⟩ := foldrM_isIdle ds hidle hv
  have hheld : Held b w₆ m info := ⟨hb₅.trans hw₆, hh.new, hw₆.module? (hmade.modules m info hm₃)⟩
  rw [put_module (show (moduleFrame m).scope = .module from rfl) rfl hheld.module, Prod.mk.injEq,
    Except.ok.injEq] at hput
  obtain ⟨rfl, rfl⟩ := hput
  have hclass : (withGlobals w₆ m info (info.globals.set cls (.cls k))).class? k.id = some i := by
    have := hw₆.class? hmade.class_
    rw [← this]
    simp [World.class?, withGlobals, Ne.symm hne]
  have hgrows : w₃.Grows (withGlobals w₆ m info (info.globals.set cls (.cls k))) :=
    (hmade.grows.trans hw₆.grows).trans (.replace_module hheld.module _)
  have hmembers : i.members = inner.vars := hmade.made.members
  refine ⟨rfl, rfl, k, i, ⟨hclass, ?_, hmade.made.builtin, ?_, ?_, fun hq => ?_⟩, hne, hheld.set _⟩
  · rw [hmade.made.id]
    exact hb₃.size_le
  · obtain ⟨found, ancestors, hfound, hancestors, hlin, hchecks⟩ := hmade.made.bases
    exact ⟨j, w₁, bs, w₂, found, ancestors, w₃, hb₁, hb₃, hbs, hfound, hancestors, hlin,
      hchecks.trans (Bool.false_or _)⟩
  · rw [hmembers]
    exact (Members.since ⟨fun before p later he hn => hleaves before p later he fun x hx =>
      (hn x hx).1, fun x hx _ => hruns.others x hx⟩ hb₂).mono hgrows
  · have : inner.vars.get? "__qualname__" = none := hruns.others _ hq
    rw [hmade.made.qualname, draftOf, this]
    rfl

/-! ## The module -/

/-- What a module has done that has run to its end. -/
structure ModuleMade (c : Nat) (b : World) (m : Nat) (cls ns : String) (imported : List String)
    (bases : List Expr) (pieces : List Piece) (info : ModuleInfo) (w : World) (k : Named)
    (i : ClassInfo) : Prop where
  made : ClassMade c b m cls bases pieces w k i
  ne : k.id ≠ m
  header : ∃ t, Header c ns imported t ∧
    Held b w m { info with globals := t.set cls (.cls k) }

/-- **A generated module that runs to its end has made its class.** -/
theorem runModule_generated {bases decorators : List Expr} {pieces : List Piece} {ns : String}
    {is : List Syntax.ImportName}
    (hi : ∀ i ∈ is, i.boundAs = none ∨ Syntax.dottedParts i.name = [i.name])
    (hc : cacheGlobal ∉ is.map importedName) (hh : Held b w m info)
    (hcache : info.globals.get? cacheGlobal = some (.cache c))
    (hg : AllGlobal info.globals)
    (hhead : ∀ v t, b.Extends v → Stage c m v { info with globals := t } →
      Header c ns (is.map importedName) t → HeadInOrder m bases decorators v)
    (hp : ∀ v t, b.Extends v → Stage c m v { info with globals := t } →
      Header c ns (is.map importedName) t →
      ∀ p ∈ pieces, p.InOrder c v m cls { info with globals := t })
    (hd : ∀ t, Decorates b cls { info with globals := t } (classFrame m cls) pieces)
    (h : (runModule m (header (is.map fun i => .imports [i]) ns ++
      [.class cls bases [] decorators (pieces.flatMap Piece.statements)])).outcome w =
        (.ok ⟨⟩, w')) :
    ∃ k i, ModuleMade c b m cls ns (is.map importedName) bases pieces info w' k i := by
  unfold runModule at h
  obtain ⟨⟨fr, flow⟩, w₁, hrun, h⟩ := bind_eq_ok h
  obtain rfl : w₁ = w' := by simpa using h
  obtain ⟨fr₁, f₁, w₁, hheader, hrest⟩ := runBlock_append_eq_ok _ hrun
  obtain ⟨rfl, rfl, t, ht, hheaderFacts⟩ := runBlock_header hi hc hh hcache hg hheader
  have hs : Stage c m w₁ { info with globals := t } :=
    ⟨ht.module, hheaderFacts.cache, hheaderFacts.globals.get?⟩
  obtain ⟨-, -, k, i, hmade, hne, hheld⟩ := exec_generatedClass ht hs
    (hhead w₁ t ht.extends_ hs hheaderFacts) (fun v hv hs' => hp v t hv hs' hheaderFacts) (hd t)
    (runBlock_singleton_eq_ok (hrest rfl))
  exact ⟨k, i, hmade, hne, t, hheaderFacts, hheld⟩

end Facade.Execution
