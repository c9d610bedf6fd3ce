import Facade.Log.Session
import Facade.Proofs.JsonTexts
import Facade.Proofs.Tables

/-!
# The fields of log records

A record is made through a logger that a chain of derivations has made, with facts of its own. What its
JSON object holds under a key is what was stated last under that key, by the chain or with the record
itself; only where nothing was stated it is the field that the record has by itself.

* `Logger.deriveAll?`: chains of derivations; `Call`, `Call.record?`: what records are made by.
* `statedFacts`, `ownFields`: what a chain and a call state, and what a record has by itself.
* `Tells`, `Tells.derive`, `tells_deriveAll`: what a context holds after a derivation, and after a chain.
* `fields_stated`: the fields of a record, and its JSON object read back.
* `own_fields_lost`: a fact can take the place of the level, and a timed operation that of the
  operation.
-/

namespace Facade.Log

open Table

/-! ## Chains and calls -/

namespace Derivation

/-- The facts that a derivation states. -/
def facts : Derivation → List (String × Value)
  | .context facts => facts
  | .operation _ | .session _ => []

/-- The operation that a derivation sets. -/
def operation? : Derivation → Option String
  | .operation name => some name
  | .context _ | .session _ => none

/-- The session that a derivation sets. -/
def session? : Derivation → Option String
  | .session name => some name
  | .context _ | .operation _ => none

end Derivation

/-- The logger that a chain of derivations makes. -/
def Logger.deriveAll? (l : Logger) (w : World) (ds : List Derivation) : Except Fault Logger :=
  ds.foldlM (fun l d => l.derive? w d) l

/-- What makes a record. -/
inductive Call where
  /-- A message, with the text of an exception that goes with it. -/
  | message (level : Int) (text : String) (facts : List (String × Value)) (exception : Option String)
  /-- The end of an operation that was timed. -/
  | timed (operation : String) (facts : List (String × Value))

namespace Call

/-- The level of the record. -/
def level : Call → Int
  | .message level _ _ _ => level
  | .timed _ _ => 10

/-- The message of the record. -/
def text : Call → String
  | .message _ text _ _ => text
  | .timed operation _ => operation ++ " completed"

/-- The facts that the call states. Timing states the operation and how long it took. -/
def facts : Call → List (String × Value)
  | .message _ _ facts _ => facts
  | .timed operation facts =>
    [("operation", .str operation), (Logger.elapsedName, .str "#")] ++ facts

/-- The exception that goes with the record. -/
def exception? : Call → Option String
  | .message _ _ _ exception => exception
  | .timed _ _ => none

/-- The record that a call makes through a logger, if it is let through. -/
def record? (c : Call) (l : Logger) (w : World) (set : Table String Int) :
    Except Fault (Option Record) :=
  match c with
  | .message level text facts exception => l.log? w set level text facts exception
  | .timed operation facts => l.timed? w set operation facts

end Call

/-- The facts that a chain and a call state, in order. -/
def statedFacts (ds : List Derivation) (c : Call) : List (String × Value) :=
  ds.flatMap Derivation.facts ++ c.facts

/-- The last of some names, if there is one. -/
def lastName (names : List String) : String := names.getLast?.getD ""

/-- What a record has by itself: its time, level, logger, message and exception, and the component,
operation and session of its context, an empty one left out. -/
def ownFields (component : String) (ds : List Derivation) (c : Call) (time : String) :
    List (String × String) :=
  [("timestamp", time), ("level", levelName c.level), ("logger", rootLogger ++ "." ++ component),
    ("message", c.text)] ++ (c.exception?.map fun e => ("exception", e)).toList ++
  [("component", component), ("operation", lastName (ds.filterMap Derivation.operation?)),
    ("session", lastName (ds.filterMap Derivation.session?))].filter fun e => !e.2.isEmpty

/-! ## Contexts -/

section Contexts

variable {w : World} {component : String} {ds : List Derivation} {d : Derivation} {l l' : Logger}
  {c c' : LogContext} {k : String}

/-- Facts as texts. -/
def textsOf (w : World) (facts : List (String × Value)) : List (String × String) :=
  facts.map fun f => (f.1, f.2.asText w)

theorem factsOf_eq_ok {taken : List String} {facts : List (String × Value)}
    {texts : List (String × String)} (h : factsOf w taken facts = .ok texts) :
    texts = textsOf w facts := by
  unfold factsOf at h
  split at h
  · cases h
  · exact (Except.ok.inj h).symm

theorem get?_withExtra (c : LogContext) (facts : List (String × Value)) (k : String) :
    (c.withExtra (textsOf w facts)).extra.get? k =
      ((last? facts k).map (Value.asText w)).or (c.extra.get? k) := by
  rw [LogContext.withExtra, get?_union, textsOf, last?_map]

/-- What a context holds after a chain of derivations, and that no fact comes twice in it. -/
structure Tells (w : World) (component : String) (ds : List Derivation) (c : LogContext) : Prop where
  component_eq : c.component = component
  operation_eq : c.operation = lastName (ds.filterMap Derivation.operation?)
  session_eq : c.session = lastName (ds.filterMap Derivation.session?)
  extra_eq : ∀ k, c.extra.get? k = (last? (ds.flatMap Derivation.facts) k).map (Value.asText w)
  nodup : c.extra.keys.Nodup

theorem tells_new (w : World) (component : String) :
    Tells w component [] (Logger.ofComponent component).context :=
  ⟨rfl, rfl, rfl, fun _ => rfl, List.nodup_nil⟩

theorem lastName_append (f : Derivation → Option String) (ds : List Derivation) (d : Derivation) :
    lastName ((ds ++ [d]).filterMap f) = (f d).getD (lastName (ds.filterMap f)) := by
  rw [List.filterMap_append, lastName]
  cases h : f d with
  | none => simp [h, lastName]
  | some name => simp [h]

theorem last?_facts_append (ds : List Derivation) (d : Derivation) (k : String) :
    last? ((ds ++ [d]).flatMap Derivation.facts) k =
      (last? d.facts k).or (last? (ds.flatMap Derivation.facts) k) := by
  rw [List.flatMap_append, last?_append, List.flatMap_singleton]

/-- **What one derivation adds.** The facts of a context are written over those that were there; an
operation and a session replace the one before. -/
theorem Tells.derive (h : Tells w component ds l.context) (hd : l.derive? w d = .ok l') :
    Tells w component (ds ++ [d]) l'.context ∧ l'.name = l.name := by
  cases d with
  | context facts =>
    simp only [Logger.derive?, Logger.withContext?] at hd
    cases hf : factsOf w ["self"] facts with
    | error e => rw [hf] at hd; cases hd
    | ok texts =>
      rw [hf] at hd
      obtain rfl := Except.ok.inj hd
      obtain rfl := factsOf_eq_ok hf
      refine ⟨⟨h.component_eq, ?_, ?_, fun k => ?_, nodup_keys_union h.nodup _⟩, rfl⟩
      · rw [lastName_append]
        exact h.operation_eq
      · rw [lastName_append]
        exact h.session_eq
      · rw [get?_withExtra, h.extra_eq, last?_facts_append, Option.map_or, Derivation.facts]
  | operation name =>
    obtain rfl := Except.ok.inj hd
    refine ⟨⟨h.component_eq, ?_, ?_, fun k => ?_, h.nodup⟩, rfl⟩
    · rw [lastName_append]
      rfl
    · rw [lastName_append]
      exact h.session_eq
    · rw [last?_facts_append]
      exact h.extra_eq k
  | session name =>
    obtain rfl := Except.ok.inj hd
    refine ⟨⟨h.component_eq, ?_, ?_, fun k => ?_, h.nodup⟩, rfl⟩
    · rw [lastName_append]
      exact h.operation_eq
    · rw [lastName_append]
      rfl
    · rw [last?_facts_append]
      exact h.extra_eq k

theorem deriveAll?_append (l : Logger) (ds : List Derivation) (d : Derivation) :
    l.deriveAll? w (ds ++ [d]) = l.deriveAll? w ds >>= fun l => l.derive? w d := by
  simp [Logger.deriveAll?]

/-- **What a chain of derivations adds up to.** -/
theorem tells_deriveAll (h : (Logger.ofComponent component).deriveAll? w ds = .ok l) :
    Tells w component ds l.context ∧ l.name = rootLogger ++ "." ++ component := by
  induction ds using List.reverseRecOn generalizing l with
  | nil =>
    obtain rfl := Except.ok.inj h
    exact ⟨tells_new w component, rfl⟩
  | append_singleton ds d ih =>
    rw [deriveAll?_append] at h
    cases hds : (Logger.ofComponent component).deriveAll? w ds with
    | error e => rw [hds] at h; cases h
    | ok m =>
      rw [hds] at h
      obtain ⟨htells, hname⟩ := ih hds
      obtain ⟨hlast, hkept⟩ := htells.derive h
      exact ⟨hlast, hkept.trans hname⟩

/-! ## Records -/

variable {set : Table String Int} {call : Call} {r : Record}

/-- What a call puts into a record. -/
theorem record?_eq_some (h : call.record? l w set = .ok (some r)) :
    r = { logger := l.name, level := call.level, message := call.text, exception := call.exception?,
          context := some (l.context.withExtra (textsOf w call.facts)) } := by
  have hlog {level : Int} {message : String} {facts : List (String × Value)} {e : Option String}
      (h : l.log? w set level message facts e = .ok (some r)) :
      r = { logger := l.name, level := level, message := message, exception := e,
            context := some (l.context.withExtra (textsOf w facts)) } := by
    unfold Logger.log? at h
    cases hf : factsOf w ["self", "msg", "level"] facts with
    | error e => rw [hf] at h; cases h
    | ok texts =>
      rw [hf] at h
      simp only [bind, Except.bind] at h
      split at h
      · obtain rfl := factsOf_eq_ok hf
        exact (Option.some.inj (Except.ok.inj h)).symm
      · cases h
  cases call with
  | message level text facts e => exact hlog h
  | timed operation facts =>
    simp only [Call.record?, Logger.timed?] at h
    cases hf : factsOf w ["operation", Logger.elapsedName] facts with
    | error e => rw [hf] at h; cases h
    | ok texts =>
      rw [hf] at h
      exact hlog h

/-- What a record has by itself does not depend on the facts of its context. -/
theorem ownFields_eq (htells : Tells w component ds l.context)
    (hname : l.name = rootLogger ++ "." ++ component)
    (hr : call.record? l w set = .ok (some r)) (time : String) :
    ∃ facts, r.context.map LogContext.facts = some (facts ++ (l.context.withExtra
      (textsOf w call.facts)).extra.entries) ∧
      ownFields component ds call time = r.own time ++ facts := by
  obtain rfl := record?_eq_some hr
  refine ⟨_, rfl, ?_⟩
  simp only [ownFields, Record.own, hname, LogContext.withExtra, htells.component_eq,
    htells.operation_eq, htells.session_eq]

/-- **The fields of a record.** Through the logger of any chain of derivations, the JSON object of a
record has every key once, and reads back as its fields; under a key it has what was stated last under
that key, by the chain or with the record, and where nothing was stated what the record has by
itself. -/
theorem fields_stated (hl : (Logger.ofComponent component).deriveAll? w ds = .ok l)
    (hr : call.record? l w set = .ok (some r)) (time : String) :
    (r.fields time).keys.Nodup ∧
    Text.readObject? (r.jsonAt time) = some (r.fields time).entries ∧
    ∀ k, (r.fields time).get? k =
      ((last? (statedFacts ds call) k).map (Value.asText w)).or
        (last? (ownFields component ds call time) k) := by
  obtain ⟨htells, hname⟩ := tells_deriveAll hl
  obtain ⟨facts, hfacts, hown⟩ := ownFields_eq htells hname hr time
  refine ⟨nodup_keys_union (nodup_keys_ofList _) _, Text.readObject?_jsonObject _, fun k => ?_⟩
  have hkeys : (l.context.withExtra (textsOf w call.facts)).extra.keys.Nodup :=
    nodup_keys_union htells.nodup _
  calc (r.fields time).get? k
      = (last? (facts ++ (l.context.withExtra (textsOf w call.facts)).extra.entries) k).or
          (last? (r.own time) k) := by
        rw [Record.fields, get?_union, hfacts, get?_ofList]
        rfl
    _ = ((l.context.withExtra (textsOf w call.facts)).extra.get? k).or
          (last? (ownFields component ds call time) k) := by
        rw [last?_append, last?_entries hkeys, hown, last?_append, Option.or_assoc]
    _ = ((last? (statedFacts ds call) k).map (Value.asText w)).or
          (last? (ownFields component ds call time) k) := by
        rw [get?_withExtra, htells.extra_eq, statedFacts, last?_append, Option.map_or]

end Contexts

/-- A failure in the second of two units, logged for an operation of a session. -/
theorem fields_stated_failed :
    let chain : List Derivation :=
      [.operation "compile", .context [("unit", .str "one"), ("failed", .bool true)], .session "s"]
    let call : Call := .message 40 "failed" [("unit", .str "two")] none
    ∃ l r, (Logger.ofComponent "compiler").deriveAll? {} chain = .ok l ∧
      call.record? l {} {} = .ok (some r) ∧
      Text.readObject? (r.jsonAt "noon") = some (r.fields "noon").entries ∧
      (r.fields "noon").get? "level" = some "ERROR" ∧
      (r.fields "noon").get? "operation" = some "compile" ∧
      (r.fields "noon").get? "failed" = some "True" ∧ (r.fields "noon").get? "unit" = some "two" := by
  intro chain call
  have hl : ∃ l, (Logger.ofComponent "compiler").deriveAll? {} chain = .ok l := ⟨_, rfl⟩
  obtain ⟨l, hl⟩ := hl
  have hr : ∃ r, call.record? l {} {} = .ok (some r) := by
    obtain rfl := Except.ok.inj hl
    exact ⟨_, rfl⟩
  obtain ⟨r, hr⟩ := hr
  obtain ⟨-, hread, hget⟩ := fields_stated hl hr "noon"
  have hbool : (Value.bool true).asText {} = "True" := by
    unfold Value.asText Value.display
    rfl
  refine ⟨l, r, hl, hr, hread, ?_⟩
  simp only [hget]
  exact ⟨rfl, rfl, congrArg some hbool, rfl⟩

/-- **A record may lose its own fields.** A fact named like the level takes its place, and an operation
that is timed takes the place of the one that the context tells. -/
theorem own_fields_lost :
    (∃ l r, (Logger.ofComponent "compiler").deriveAll? {} [.context [("level", .str "x")]] = .ok l ∧
      (Call.message 40 "failed" [] none).record? l {} {} = .ok (some r) ∧
      levelName r.level = "ERROR" ∧ (r.fields "noon").get? "level" = some "x") ∧
    ∃ l r, (Logger.ofComponent "compiler").deriveAll? {} [.operation "compile"] = .ok l ∧
      (Call.timed "load" []).record? l {} ⟨[(rootLogger, 10)]⟩ = .ok (some r) ∧
      r.context.map LogContext.operation = some "compile" ∧
      (r.fields "noon").get? "operation" = some "load" :=
  ⟨⟨_, _, rfl, rfl, rfl, rfl⟩, _, _, rfl, rfl, rfl, rfl⟩

end Facade.Log
