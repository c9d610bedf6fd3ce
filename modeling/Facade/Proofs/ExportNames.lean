import Facade.Proofs.Exports
import Facade.Proofs.Registrations

/-!
# The names that a module gives things out under

What a module gives out stands under names: those that it lists as public, with repetitions, or else its
public names. A class is given out once for every one of these names that it stands under, and the
module has a single type if there is one name that a class of its own stands under.

* `exportedNames?`, `exports_eq`: the names, and that they decide what is given out.
* `GeneratedModule.exported?`, `exportedTypes_eq`: the class that a module has made and has under a name.
* `GeneratedModule.times`, `GeneratedModule.Sole`: how often a class is given out, and that nothing else
  is.
* `exported_counted`: every class is given out so often; what the single type of a module is.
* `alias_exported_twice`: a class under two names is given out twice, and is no single type.
-/

namespace Facade

open Run Execution Syntax Table

/-! ## Names -/

/-- The names among what is listed as public. What is no text names nothing. -/
def listedNames? (names : Value) : Except Fault (List String) := do
  let ns ← names.elements?
  if ns.all isKey then return ns.filterMap Value.toStr? else throw .type

/-- The names that a module gives things out under, in order. -/
def exportedNames? (t : Table String Value) : Except Fault (List String) :=
  match (t.get? "__all__").filter fun v => !v.isNone with
  | some names => listedNames? names
  | none => .ok (t.keys.filter Describe.MethodInfo.isPublicName)

section Names

variable {t : Table String Value}

theorem mapM_isKey {α : Type} (f : Value → α) (vs : List Value) :
    (vs.mapM fun v => if isKey v then Except.ok (f v) else .error Fault.type) =
      if vs.all isKey then .ok (vs.map f) else .error .type := by
  induction vs with
  | nil => rfl
  | cons v vs ih =>
    rw [List.mapM_cons, ih]
    by_cases hv : isKey v
    · by_cases hvs : vs.all isKey <;> simp only [hv, hvs, List.all_cons, Bool.and_self, if_true,
        Bool.true_and, if_false, Bool.false_eq_true] <;> rfl
    · simp only [hv, List.all_cons, Bool.false_and, if_false, Bool.false_eq_true]
      rfl

theorem listed_eq (names : Value) :
    GeneratedModule.listed names t = (listedNames? names).map fun ns => ns.filterMap t.get? := by
  unfold GeneratedModule.listed listedNames?
  cases names.elements? with
  | error e => rfl
  | ok ns =>
    simp only [bind, Except.bind, mapM_isKey]
    rcases Bool.eq_false_or_eq_true (ns.all isKey) with hns | hns
    · simp only [hns, if_true, List.filterMap_map, Function.id_comp]
      exact congrArg Except.ok List.filterMap_filterMap.symm
    · simp only [hns]
      rfl

theorem filterMap_get?_keys (ht : t.keys.Nodup) (p : String → Bool) :
    (t.keys.filter p).filterMap t.get? = (t.entries.filter fun e => p e.1).map Prod.snd := by
  have hget : ∀ e ∈ t.entries.filter fun e => p e.1, t.get? e.1 = some e.2 := fun e he =>
    (get?_eq_some_iff ht).mpr (List.mem_of_mem_filter he)
  rw [keys, List.filter_map, List.filterMap_map, ← List.filterMap_eq_map]
  exact List.filterMap_congr hget

/-- **The names decide what is given out.** -/
theorem exports_eq (ht : t.keys.Nodup) :
    GeneratedModule.exports t = (exportedNames? t).map fun ns => ns.filterMap t.get? := by
  unfold GeneratedModule.exports exportedNames?
  cases (t.get? "__all__").filter fun v => !v.isNone with
  | none => exact congrArg Except.ok (filterMap_get?_keys ht _).symm
  | some names => exact listed_eq names

end Names

/-! ## Classes -/

namespace GeneratedModule

/-- The class of its own that a module has under a name. -/
def exported? (g : GeneratedModule) (w : World) (n : String) : Option Named :=
  ((globals w g.module).get? n).bind fun
    | .cls c => if definedIn w g.name c then some c else none
    | _ => none

/-- How many of some names a class of the module stands under. -/
def times (g : GeneratedModule) (w : World) (ns : List String) (c : Named) : Nat :=
  ns.countP fun n => g.exported? w n == some c

/-- A class of the module stands under one of some names, and no other class of it does under any. -/
def Sole (g : GeneratedModule) (w : World) (ns : List String) (c : Named) : Prop :=
  g.times w ns c = 1 ∧ ∀ c', 0 < g.times w ns c' → c' = c

end GeneratedModule

section Classes

variable {g : GeneratedModule} {w w' : World} {ns : List String} {cs : List Named} {c : Named}

theorem exportedTypes_eq (hk : (GeneratedModule.globals w g.module).keys.Nodup) :
    g.exportedTypes w = (exportedNames? (GeneratedModule.globals w g.module)).map fun ns =>
      ns.filterMap (g.exported? w) := by
  unfold GeneratedModule.exportedTypes
  rw [exports_eq hk]
  cases exportedNames? (GeneratedModule.globals w g.module) with
  | error e => rfl
  | ok ns => exact congrArg Except.ok List.filterMap_filterMap

theorem count_exported (c : Named) : (ns.filterMap (g.exported? w)).count c = g.times w ns c :=
  List.count_filterMap

theorem eq_singleton_iff (h : ∀ c, cs.count c = g.times w ns c) : cs = [c] ↔ g.Sole w ns c := by
  have hpos (c' : Named) : 0 < g.times w ns c' ↔ c' ∈ cs := by rw [← h, List.count_pos_iff]
  constructor
  · rintro rfl
    exact ⟨by rw [← h, List.count_singleton_self], fun c' hc' => List.mem_singleton.mp ((hpos c').mp hc')⟩
  · rintro ⟨hone, hother⟩
    have hall : ∀ c' ∈ cs, c' = c := fun c' hc' => hother c' ((hpos c').mpr hc')
    have hlen : cs.length = 1 := by
      rw [← hone, ← h, eq_comm, List.count_eq_length]
      exact fun c' hc' => (hall c' hc').symm
    exact List.eq_replicate_iff.mpr ⟨hlen, hall⟩

theorem sole_iff (h : ∀ c, cs.count c = g.times w ns c) (honce : ∀ c, g.times w ns c ≤ 1) :
    g.Sole w ns c ↔ ∀ c', c' ∈ cs ↔ c' = c := by
  have hpos (c' : Named) : 0 < g.times w ns c' ↔ c' ∈ cs := by rw [← h, List.count_pos_iff]
  constructor
  · intro hc c'
    rw [(eq_singleton_iff h).mpr hc]
    exact List.mem_singleton
  · intro hc
    exact ⟨Nat.le_antisymm (honce c) ((hpos c).mpr ((hc c).mpr rfl)),
      fun c' hc' => (hc c').mp ((hpos c').mp hc')⟩

/-- The single type of a module, by what it gives out. -/
theorem outcome_singleType (h : g.exportedTypes w = .ok cs) :
    (∃ c, cs = [c] ∧ g.singleType.outcome w = (.ok c, w)) ∨
      (∀ c, cs ≠ [c]) ∧ g.singleType.outcome w =
        (.error (.refused (.exports g.name (cs.map w.qualnameOf))), w) := by
  unfold GeneratedModule.singleType
  rw [outcome_get_bind, outcome_bind, h, outcome_lift_ok]
  rcases cs with _ | ⟨c, _ | ⟨d, cs⟩⟩
  · exact .inr ⟨by simp, rfl⟩
  · exact .inl ⟨c, rfl, rfl⟩
  · exact .inr ⟨by simp, rfl⟩

/-- **What a module gives out.** Every class of its own comes as often as it stands under names that
the module gives things out under. There is a single type if a class stands under one of them and no
other class under any; else it is refused, with what was found. If no class stands under two of the
names, then every one is given out once, and the single type is the only class given out. -/
theorem exported_counted (hk : (GeneratedModule.globals w g.module).keys.Nodup)
    (hns : exportedNames? (GeneratedModule.globals w g.module) = .ok ns) :
    ∃ cs, g.exportedTypes w = .ok cs ∧ (∀ c, cs.count c = g.times w ns c) ∧
      ((∃ c, g.Sole w ns c ∧ g.singleType.outcome w = (.ok c, w)) ∨
        (∀ c, ¬ g.Sole w ns c) ∧ g.singleType.outcome w =
          (.error (.refused (.exports g.name (cs.map w.qualnameOf))), w)) ∧
      ((∀ c, g.times w ns c ≤ 1) →
        cs.Nodup ∧ ∀ c, g.singleType.outcome w = (.ok c, w) ↔ ∀ c', c' ∈ cs ↔ c' = c) := by
  have hcs : g.exportedTypes w = .ok (ns.filterMap (g.exported? w)) := by
    rw [exportedTypes_eq hk, hns]
    rfl
  generalize hlist : ns.filterMap (g.exported? w) = cs at hcs
  have hcount (c : Named) : cs.count c = g.times w ns c := hlist ▸ count_exported c
  have hsole (c : Named) : cs = [c] ↔ g.Sole w ns c := eq_singleton_iff hcount
  have hsingle : (∃ c, g.Sole w ns c ∧ g.singleType.outcome w = (.ok c, w)) ∨
      (∀ c, ¬ g.Sole w ns c) ∧ g.singleType.outcome w =
        (.error (.refused (.exports g.name (cs.map w.qualnameOf))), w) := by
    rcases outcome_singleType hcs with ⟨c, hc, hout⟩ | ⟨hc, hout⟩
    · exact .inl ⟨c, (hsole c).mp hc, hout⟩
    · exact .inr ⟨fun c h => hc c ((hsole c).mpr h), hout⟩
  refine ⟨cs, hcs, hcount, hsingle, fun honce => ?_⟩
  have hnodup : cs.Nodup := List.nodup_iff_count_le_one.mpr fun c => by
    rw [hcount]
    exact honce c
  refine ⟨hnodup, fun c => ?_⟩
  rw [← sole_iff hcount honce]
  rcases hsingle with ⟨d, hd, hout⟩ | ⟨hnone, hout⟩
  · rw [hout]
    constructor
    · intro h
      obtain rfl := Except.ok.inj (Prod.mk.inj h).1
      exact hd
    · intro hc
      rw [hc.2 d (by rw [hd.1]; exact Nat.one_pos)]
  · rw [hout]
    exact iff_of_false (by simp) (hnone c)

end Classes

/-! ## Names that repeat -/

/-- The world after a module of some statements was compiled. -/
def afterBody (body : List Stmt) : World :=
  runAll [.compile "unit" (.ofTree .draft body) []] unitWorld

theorem eq_ok_of_toOption {ε α : Type} {x : Except ε α} {a : α} (h : x.toOption = some a) :
    x = .ok a := by
  cases x with
  | error e => cases h
  | ok b => exact congrArg Except.ok (Option.some.inj h)

/-- A module that lists a private name as public, and one that it does not have. -/
def privateBody : List Stmt :=
  [.class "A" [] [] [] [.pass], .class "_B" [] [] [] [.pass],
    .assign [.name "__all__"] (.list [.str "_B", .str "unknown"])]

/-- The single type of such a module is the one with the private name. -/
theorem exported_counted_private : ∃ g c,
    (loadings 0 [.compile "unit" (.ofTree .draft privateBody) []] unitWorld).map Prod.fst = [g] ∧
      (GeneratedModule.globals (afterBody privateBody) g.module).keys.Nodup ∧
      exportedNames? (GeneratedModule.globals (afterBody privateBody) g.module) =
        .ok ["_B", "unknown"] ∧
      c.qualname = "_B" ∧
      g.singleType.outcome (afterBody privateBody) = (.ok c, afterBody privateBody) := by
  have hloaded : (loadings 0 [.compile "unit" (.ofTree .draft privateBody) []] unitWorld).map
      (fun e => (e.1.name, e.1.module)) = [("unit", 1)] := by
    decide +kernel
  obtain ⟨⟨⟨name, m, text, context, path, diagnostics⟩, n⟩, hload, hg⟩ :=
    List.map_eq_singleton_iff.mp hloaded
  obtain ⟨rfl, rfl⟩ := Prod.mk.inj hg
  have hk : (GeneratedModule.globals (afterBody privateBody) 1).keys.Nodup := by decide +kernel
  have hns : exportedNames? (GeneratedModule.globals (afterBody privateBody) 1) =
      .ok ["_B", "unknown"] :=
    eq_ok_of_toOption (by decide +kernel)
  have hknown : GeneratedModule.exportedTypes ⟨"unit", 1, text, context, path, diagnostics⟩
      (afterBody privateBody) = .ok [⟨3, "unit", "_B"⟩] :=
    eq_ok_of_toOption (show (GeneratedModule.exportedTypes ⟨"unit", 1, "", 0, none, []⟩
      (afterBody privateBody)).toOption = _ by decide +kernel)
  obtain ⟨cs, hcs, hcount, hsingle, -⟩ :=
    exported_counted (g := ⟨"unit", 1, text, context, path, diagnostics⟩) hk hns
  obtain rfl := Except.ok.inj (hcs.symm.trans hknown)
  refine ⟨_, ⟨3, "unit", "_B"⟩, congrArg (List.map Prod.fst) hload, hk, hns, rfl, ?_⟩
  rcases hsingle with ⟨c, hc, hout⟩ | ⟨hnone, -⟩
  · obtain rfl := List.head_eq_of_cons_eq ((eq_singleton_iff hcount).mpr hc)
    exact hout
  · exact absurd ((eq_singleton_iff hcount).mp rfl) (hnone _)

/-- A body that gives its class a second name. -/
def renamingBody : List Stmt :=
  [.class "A" [] [] [] [.pass], .assign [.name "B"] (.name "A")]

/-- A body that lists the name of its class twice. -/
def listingBody : List Stmt :=
  [.class "A" [] [] [] [.pass], .assign [.name "__all__"] (.list [.str "A", .str "A"])]

/-- What a module with this body gives out, and its single type. -/
def givenOut (body : List Stmt) : List (Option (List Named) × Option Named) :=
  (loadings 0 [.compile "unit" (.ofTree .draft body) []] unitWorld).map fun e =>
    ((e.1.exportedTypes (afterBody body)).toOption,
      (e.1.singleType.outcome (afterBody body)).1.toOption)

/-- **A class under two names is given out twice,** also where the module lists one name twice, and the
module has no single type although it has a single class. -/
theorem alias_exported_twice : givenOut renamingBody = [(some [unitType, unitType], none)] ∧
    givenOut listingBody = [(some [unitType, unitType], none)] := by
  decide +kernel

end Facade
