import Facade.Proofs.Signatures
import Facade.Proofs.Steps

/-!
# Calling through partial calls

* `Layer`, `Unwraps`: the function that a callable comes down to, and what is given on the way.
* `call_unwraps`: a call of a callable is a call of its function.
* `signature?_unwraps`: the signature of a callable is what its layers leave of the function's.
* `delivered_error`, `delivered_similar`: what the signature does not accept does not bind, and what
  it binds alike the function binds alike.
-/

namespace Facade.Describe

open Facade.Binding Facade.Execution Run

/-! ## Layers -/

/-- Arguments that are given before a call: by position and by name. -/
structure Layer where
  /-- In front of the arguments by position. -/
  args : List Value
  /-- Under the arguments by name. -/
  keywords : Keywords := []

/-- The arguments of a function behind layers, the outermost one first. -/
def deliver : List Layer → List Value → Keywords → List Value × Keywords
  | [], args, kw => (args, kw)
  | l :: ls, args, kw => deliver ls (l.args ++ args) (overrideKeywords l.keywords kw)

/-- The parameters that layers leave. -/
def leaveAll : List Layer → List Parameter → List Parameter
  | [], ps => ps
  | l :: ls, ps => remain l.keywords false l.args (leaveAll ls ps)

/-- What layers give is accepted by what those below leave. -/
def AcceptsAll : List Layer → List Parameter → Prop
  | [], _ => True
  | l :: ls, ps => Accepts (leaveAll ls ps) l.args l.keywords ∧ AcceptsAll ls ps

/-- The function that a callable comes down to, the layers on the way, and how many calls they take: a
function, a method bound to an object, an object that is called through a method, or a partial call. -/
inductive Unwraps (w : World) : Value → Nat → List Layer → Nat → Prop
  | function (id : Nat) : Unwraps w (.function id) id [] 0
  | method (self : Value) (id : Nat) : Unwraps w (.bound self (.function id)) id [⟨[self], []⟩] 1
  | object (i : Nat) {info : InstanceInfo} {id : Nat} (hi : w.instance? i = some info)
    (hm : w.findMember? (w.linearisation info.cls.id) "__call__" = some (.function id)) :
    Unwraps w (.instance i) id [⟨[.instance i], []⟩] 2
  | partialCall {f : Value} {id : Nat} {ls : List Layer} {k : Nat} (args : List Value)
    {keywords : Keywords} (hn : (keywords.map Prod.fst).Nodup) (h : Unwraps w f id ls k) :
    Unwraps w (.partialCall f args keywords) id (⟨args, keywords⟩ :: ls) (k + 1)

variable {w : World} {f : Value} {id k : Nat} {ls : List Layer} {ps : List Parameter}
  {args args' : List Value} {kw kw' : Keywords}

theorem Unwraps.nodup (h : Unwraps w f id ls k) :
    ∀ l ∈ ls, (l.keywords.map Prod.fst).Nodup := by
  induction h with
  | function => simp
  | method | object => simp
  | partialCall args hn _ ih => exact List.forall_mem_cons.mpr ⟨hn, ih⟩

theorem nodup_setEntries {n : String} {x : Value} {es : Keywords} (h : (es.map Prod.fst).Nodup) :
    ((Table.setEntries n x es).map Prod.fst).Nodup := by
  by_cases hn : n ∈ es.map Prod.fst
  · have : (Table.setEntries n x es).map Prod.fst = es.map Prod.fst := by
      clear h
      induction es with
      | nil => simp at hn
      | cons e es ih =>
        obtain ⟨k', y⟩ := e
        rw [Table.setEntries]
        split
        · rename_i hk
          simp [hk]
        · rename_i hk
          rw [List.map_cons, List.map_cons, ih (by simpa [Ne.symm hk] using hn)]
    rwa [this]
  · rw [setEntries_of_not_mem hn, List.map_append, List.nodup_append']
    exact ⟨h, List.nodup_singleton _, by simpa using hn⟩

theorem nodup_overrideKeywords {js : Keywords} : ∀ {ks : Keywords}, (ks.map Prod.fst).Nodup →
    ((overrideKeywords ks js).map Prod.fst).Nodup := by
  induction js with
  | nil => exact fun h => h
  | cons e js ih =>
    intro ks h
    rw [overrideKeywords_cons]
    exact ih (nodup_setEntries h)

/-! ## Calls -/

/-- **A call of a callable is a call of its function** with what the layers deliver. -/
theorem call_unwraps (h : Unwraps w f id ls k) (n : Nat) :
    ∀ {args : List Value} {kw : Keywords}, (kw.map Prod.fst).Nodup →
      (call (n + k) f args kw).outcome w =
        (call n (.function id) (deliver ls args kw).1 (deliver ls args kw).2).outcome w := by
  induction h with
  | function id => exact fun _ => rfl
  | method self id =>
    intro args kw hn
    rw [call_method]
    simp only [deliver, overrideKeywords_nil_left hn, List.cons_append, List.nil_append]
  | @object i info id hi hm =>
    intro args kw hn
    rw [call_object hi hm, bindMember, call_method]
    simp only [deliver, overrideKeywords_nil_left hn, List.cons_append, List.nil_append]
  | @partialCall f id ls k as keywords hk _ ih =>
    intro args kw hn
    rw [← Nat.add_assoc, call_partialCall, ih (nodup_overrideKeywords hk)]
    rfl

/-! ## Signatures -/

theorem signature?_succ_eq_some {n : Nat} {s : Signature} (hf : signature? w n f = some s) :
    ∃ m, n = m + 1 := by
  cases n with
  | zero => simp [signature?] at hf
  | succ m => exact ⟨m, rfl⟩

theorem signature?_function {info : Function} (hi : w.function? id = some info) {n : Nat}
    {s : Signature} (hs : signature? w n (.function id) = some s) : s = ⟨info.params, info.returns⟩ := by
  obtain ⟨m, rfl⟩ := signature?_succ_eq_some hs
  simp only [signature?, hi, Option.bind_eq_bind, Option.bind_some] at hs
  split at hs
  · exact (Option.some.inj hs).symm
  · cases hs

theorem isLegal_leaveAll (hl : IsLegal ps) : ∀ ls, IsLegal (leaveAll ls ps)
  | [] => hl
  | _ :: ls => isLegal_remain (isLegal_leaveAll hl ls)

/-- **The signature of a callable** is what its layers leave of its function's. -/
theorem signature?_unwraps (h : Unwraps w f id ls k) {info : Function}
    (hi : w.function? id = some info) (hl : IsLegal info.params) :
    ∀ {n : Nat} {s : Signature}, signature? w n f = some s →
      s.params = leaveAll ls info.params ∧ s.returns = info.returns ∧
        AcceptsAll ls info.params := by
  have receiver {n : Nat} {s : Signature} (v : Value)
      (hs : (signature? w n (.function id)).bind dropReceiver? = some s) :
      s.params = leaveAll [⟨[v], []⟩] info.params ∧ s.returns = info.returns ∧
        AcceptsAll [⟨[v], []⟩] info.params := by
    obtain ⟨s', hs', hd⟩ := Option.bind_eq_some_iff.mp hs
    obtain rfl := signature?_function hi hs'
    obtain ⟨ha, hp, hr⟩ := dropReceiver?_eq_some v hd
    exact ⟨hp, hr, ha, trivial⟩
  induction h with
  | function id =>
    intro n s hs
    obtain rfl := signature?_function hi hs
    exact ⟨rfl, rfl, trivial⟩
  | method self id =>
    intro n s hs
    obtain ⟨m, rfl⟩ := signature?_succ_eq_some hs
    exact receiver self (by simpa [signature?] using hs)
  | @object i info' id hinst hm =>
    intro n s hs
    obtain ⟨m, rfl⟩ := signature?_succ_eq_some hs
    have hcall : callMember? w (.instance i) = some (.function id) := by
      rw [callMember?, classOf, hinst]
      exact hm
    refine receiver (.instance i) (n := m) ?_
    simpa [signature?, hcall] using hs
  | @partialCall f id ls k as keywords hk _ ih =>
    intro n s hs
    obtain ⟨m, rfl⟩ := signature?_succ_eq_some hs
    obtain ⟨s', hs', hp⟩ : ∃ s', signature? w m f = some s' ∧
        partialSignature? s' as keywords = some s := by
      simpa [signature?, Option.bind_eq_some_iff] using hs
    obtain ⟨hparams, hreturns, haccepts⟩ := ih hi receiver hs'
    have hlegal : IsLegal s'.params := by
      rw [hparams]
      exact isLegal_leaveAll hl ls
    obtain ⟨ha, hp, hr⟩ := partialSignature?_eq_some hlegal hp
    rw [hparams] at ha hp
    exact ⟨hp, hr.trans hreturns, ha, haccepts⟩

/-! ## What is delivered -/

/-- **What the signature does not accept does not bind.** -/
theorem delivered_error (hl : IsLegal ps) (ha : AcceptsAll ls ps)
    (hls : ∀ l ∈ ls, (l.keywords.map Prod.fst).Nodup) (hn : (kw.map Prod.fst).Nodup)
    (h : bindArguments (leaveAll ls ps) args kw = .error .type) :
    bindArguments ps (deliver ls args kw).1 (deliver ls args kw).2 = .error .type := by
  induction ls generalizing args kw with
  | nil => exact h
  | cons l ls ih =>
    obtain ⟨hl', hls⟩ := List.forall_mem_cons.mp hls
    exact ih ha.2 hls (nodup_overrideKeywords hl')
      (completed_error (isLegal_leaveAll hl ls) ha.1 hn h)

/-- **What the signature binds alike, the function binds alike.** -/
theorem delivered_similar {R : Value → Value → Prop} (hR : ∀ v, R v v) (hl : IsLegal ps)
    (ha : AcceptsAll ls ps) (hls : ∀ l ∈ ls, (l.keywords.map Prod.fst).Nodup)
    (hn : (kw.map Prod.fst).Nodup) (hn' : (kw'.map Prod.fst).Nodup)
    (h : BindingBy R (leaveAll ls ps) (bindArguments (leaveAll ls ps) args kw)
      (bindArguments (leaveAll ls ps) args' kw')) :
    BindingBy R ps (bindArguments ps (deliver ls args kw).1 (deliver ls args kw).2)
      (bindArguments ps (deliver ls args' kw').1 (deliver ls args' kw').2) := by
  induction ls generalizing args args' kw kw' with
  | nil => exact h
  | cons l ls ih =>
    obtain ⟨hl', hls⟩ := List.forall_mem_cons.mp hls
    exact ih ha.2 hls (nodup_overrideKeywords hl') (nodup_overrideKeywords hl')
      (completed_similar hR (isLegal_leaveAll hl ls) ha.1 hn hn' h)

end Facade.Describe
