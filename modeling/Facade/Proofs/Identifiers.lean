import Facade.Proofs.Growth
import Facade.Proofs.Spellings
import Mathlib.Data.List.Nodup
import Mathlib.Data.List.Perm.Subperm
import Mathlib.Data.Nat.Find

/-!
# Identifiers

* `exists_ofBits_iff`: which identifiers can be drawn; `upcoming`: those that are drawn next.
* `drawFresh_cases`: what is drawn for a cache is not in use there.
* `addValue_eq_ok`, `addValue_succeeds`: a value that is put into a cache is found under the
  identifier that comes back, and can be put in as long as an identifier comes that is not in use.
-/

namespace Facade

namespace Uuid

/-- What is drawn fits the canonical text. -/
theorem ofBits_lt (n : Nat) : (ofBits n).value < 2 ^ 128 := by
  unfold ofBits
  dsimp only
  omega

/-- Different bits make different identifiers. -/
theorem ofBits_inj {m n : Nat} : ofBits m = ofBits n ↔ m % 2 ^ 122 = n % 2 ^ 122 := by
  simp only [ofBits, Uuid.mk.injEq]
  omega

/-- **Every identifier of the version for random ones can be drawn**, and no other. -/
theorem exists_ofBits_iff (u : Uuid) : (∃ n, ofBits n = u) ↔
    u.value < 2 ^ 128 ∧ u.value / 2 ^ 76 % 2 ^ 4 = 4 ∧ u.value / 2 ^ 62 % 2 ^ 2 = 2 := by
  obtain ⟨x⟩ := u
  constructor
  · rintro ⟨n, hn⟩
    obtain rfl : (ofBits n).value = x := congrArg Uuid.value hn
    simp only [ofBits]
    have hfirst := Nat.mod_lt (n / 2 ^ 74) (show 2 ^ 48 > 0 by decide)
    have hmiddle := Nat.mod_lt (n / 2 ^ 62) (show 2 ^ 12 > 0 by decide)
    have hlast := Nat.mod_lt n (show 2 ^ 62 > 0 by decide)
    generalize n / 2 ^ 74 % 2 ^ 48 = first at hfirst ⊢
    generalize n / 2 ^ 62 % 2 ^ 12 = middle at hmiddle ⊢
    generalize n % 2 ^ 62 = last at hlast ⊢
    omega
  · rintro ⟨hlt, hversion, hvariant⟩
    obtain ⟨first, middle, last, hmiddle, hlast, rfl⟩ : ∃ first middle last,
        middle < 2 ^ 12 ∧ last < 2 ^ 62 ∧
          x = first * 2 ^ 80 + 4 * 2 ^ 76 + middle * 2 ^ 64 + 2 * 2 ^ 62 + last :=
      ⟨x / 2 ^ 80, x / 2 ^ 64 % 2 ^ 12, x % 2 ^ 62, Nat.mod_lt _ (by decide),
        Nat.mod_lt _ (by decide), by
          dsimp only at hversion hvariant
          omega⟩
    have hfirst : first < 2 ^ 48 := by
      dsimp only at hlt
      omega
    clear hlt hversion hvariant
    refine ⟨(first * 2 ^ 12 + middle) * 2 ^ 62 + last, ?_⟩
    have hdiv (a b k : Nat) (hb : b < 2 ^ k) : (a * 2 ^ k + b) / 2 ^ k = a := by
      rw [Nat.mul_comm, Nat.mul_add_div (Nat.two_pow_pos k), Nat.div_eq_of_lt hb, Nat.add_zero]
    have hf : ((first * 2 ^ 12 + middle) * 2 ^ 62 + last) / 2 ^ 74 % 2 ^ 48 = first := by
      rw [show 2 ^ 74 = 2 ^ 62 * 2 ^ 12 by rfl, ← Nat.div_div_eq_div_mul, hdiv _ _ _ hlast,
        hdiv _ _ _ hmiddle, Nat.mod_eq_of_lt hfirst]
    have hm : ((first * 2 ^ 12 + middle) * 2 ^ 62 + last) / 2 ^ 62 % 2 ^ 12 = middle := by
      rw [hdiv _ _ _ hlast, Nat.mul_add_mod', Nat.mod_eq_of_lt hmiddle]
    have hl : ((first * 2 ^ 12 + middle) * 2 ^ 62 + last) % 2 ^ 62 = last := by
      rw [Nat.mul_add_mod', Nat.mod_eq_of_lt hlast]
    simp only [ofBits, hf, hm, hl]

end Uuid

namespace Execution

open Uuid

/-! ## Drawing identifiers -/

/-- The bits of the identifier that is drawn after a number of others. -/
def upcomingBits (w : World) (k : Nat) : Nat :=
  w.queuedUuids.getD k (w.drawnUuids + (k - w.queuedUuids.length) + 1)

/-- The identifier that is drawn after a number of others. -/
def upcoming (w : World) (k : Nat) : Uuid := ofBits (upcomingBits w k)

/-- An identifier that is not in use is drawn sooner or later. -/
def FreshComes (used : Table Uuid Value) (w : World) : Prop :=
  ∃ k, used.contains (upcoming w k) = false

/-- Drawing identifiers changes nothing but which are drawn next. -/
def DrawnFrom (w w' : World) : Prop :=
  ∃ queued drawn, w' = { w with queuedUuids := queued, drawnUuids := drawn }

theorem DrawnFrom.trans {w w' w'' : World} (h : DrawnFrom w w') (h' : DrawnFrom w' w'') :
    DrawnFrom w w'' := by
  obtain ⟨q, d, rfl⟩ := h
  obtain ⟨q', d', rfl⟩ := h'
  exact ⟨q', d', rfl⟩

/-- The first of the upcoming identifiers is drawn, and the others move up. -/
theorem outcome_freshUuid (w : World) :
    ∃ w', Run.freshUuid.outcome w = (.ok (upcoming w 0), w') ∧ DrawnFrom w w' ∧
      ∀ k, upcoming w' k = upcoming w (k + 1) := by
  unfold Run.freshUuid
  rw [Run.outcome_get_bind]
  unfold upcoming upcomingBits
  cases hq : w.queuedUuids with
  | nil =>
    refine ⟨_, rfl, ⟨[], _, rfl⟩, fun k => ?_⟩
    simp only [List.getD_nil, List.length_nil, Nat.sub_zero]
    congr 1
    omega
  | cons m r =>
    refine ⟨_, rfl, ⟨r, _, rfl⟩, fun k => ?_⟩
    simp

section Draw

variable {used : Table Uuid Value}

/-- Counting on, only as many identifiers in a row can be in use as there are entries. -/
theorem le_size_of_contains {base k : Nat} (hk : k ≤ 2 ^ 122)
    (h : ∀ i < k, used.contains (ofBits (base + i)) = true) : k ≤ used.size := by
  have hnodup : ((List.range k).map fun i => ofBits (base + i)).Nodup := by
    refine List.nodup_range.map_on fun i hi j hj hij => ?_
    rw [List.mem_range] at hi hj
    have := ofBits_inj.mp hij
    omega
  have hsub : ((List.range k).map fun i => ofBits (base + i)) ⊆ used.keys := by
    intro u hu
    obtain ⟨i, hi, rfl⟩ := List.mem_map.mp hu
    exact (Table.contains_iff used _).mp (h i (List.mem_range.mp hi))
  have hle := (hnodup.subperm hsub).length_le
  simpa [Table.keys, Table.size] using hle

/-- After the queue the bits count up. -/
theorem upcoming_length_add (w : World) (i : Nat) :
    upcoming w (w.queuedUuids.length + i) = ofBits (w.drawnUuids + 1 + i) := by
  unfold upcoming upcomingBits
  rw [List.getD_eq_getElem?_getD, List.getElem?_eq_none (by omega), Option.getD_none]
  congr 1
  omega

/-- If an identifier that is not in use is drawn at all, one is drawn after the queue and as many
others as there are entries. -/
theorem exists_fresh_le {w : World} (h : FreshComes used w) :
    ∃ k ≤ w.queuedUuids.length + used.size, used.contains (upcoming w k) = false ∧
      ∀ i < k, used.contains (upcoming w i) = true := by
  classical
  have hmin : ∀ i < Nat.find h, used.contains (upcoming w i) = true := fun i hi => by
    simpa using Nat.find_min h hi
  refine ⟨Nat.find h, ?_, Nat.find_spec h, hmin⟩
  by_contra hlt
  have hcount : ∀ i ≤ used.size, used.contains (ofBits (w.drawnUuids + 1 + i)) = true := by
    intro i hi
    rw [← upcoming_length_add]
    exact hmin _ (by omega)
  rcases Nat.lt_or_ge used.size (2 ^ 122) with hs | hs
  · have := le_size_of_contains (k := used.size + 1) (by omega) fun i hi => hcount i (by omega)
    omega
  · -- A whole round has been counted, so the one found has been there before.
    obtain ⟨j, hj⟩ : ∃ j, Nat.find h = w.queuedUuids.length + (j + 2 ^ 122) :=
      ⟨Nat.find h - w.queuedUuids.length - 2 ^ 122, by omega⟩
    have hsame : upcoming w (w.queuedUuids.length + j) = upcoming w (Nat.find h) := by
      rw [hj, upcoming_length_add, upcoming_length_add, ofBits_inj]
      omega
    have := hmin (w.queuedUuids.length + j) (by omega)
    rw [hsame, Nat.find_spec h] at this
    cases this

/-- While not all identifiers are in use, one that is not comes. -/
theorem freshComes_of_size_lt {w : World} (hs : used.size < 2 ^ 122) : FreshComes used w := by
  by_contra hc
  have hall : ∀ i < used.size + 1, used.contains (ofBits (w.drawnUuids + 1 + i)) = true := by
    intro i _
    rw [← upcoming_length_add]
    by_contra h
    exact hc ⟨_, by simpa using h⟩
  have := le_size_of_contains (by omega) hall
  omega

/-- The first of the upcoming identifiers that is not in use is drawn. -/
theorem drawFresh_of_upcoming (k : Nat) : ∀ (draws : Nat) (w : World), k < draws →
    used.contains (upcoming w k) = false → (∀ i < k, used.contains (upcoming w i) = true) →
      ∃ w', (drawFresh used draws).outcome w = (.ok (upcoming w k), w') := by
  induction k with
  | zero =>
    intro draws w hk hfresh _
    obtain ⟨d, rfl⟩ : ∃ d, draws = d + 1 := ⟨draws - 1, by omega⟩
    obtain ⟨w', hout, -, -⟩ := outcome_freshUuid w
    rw [drawFresh, Run.outcome_bind_of_ok hout, hfresh]
    exact ⟨w', rfl⟩
  | succ k ih =>
    intro draws w hk hfresh hseen
    obtain ⟨d, rfl⟩ : ∃ d, draws = d + 1 := ⟨draws - 1, by omega⟩
    obtain ⟨w', hout, -, hup⟩ := outcome_freshUuid w
    rw [drawFresh, Run.outcome_bind_of_ok hout, hseen 0 (by omega), if_pos rfl, ← hup]
    exact ih d w' (by omega) (by rw [hup]; exact hfresh) fun i hi => by
      rw [hup]
      exact hseen (i + 1) (by omega)

/-- Drawing changes nothing but which identifiers are drawn next; what is drawn is not in use. -/
theorem drawFresh_cases (draws : Nat) : ∀ (w : World) {r : Except Failure Uuid} {w' : World},
    (drawFresh used draws).outcome w = (r, w') →
      DrawnFrom w w' ∧ ∀ u, r = .ok u → used.contains u = false ∧ u.value < 2 ^ 128 := by
  induction draws with
  | zero =>
    rintro w r w' h
    obtain ⟨rfl, rfl⟩ := Prod.mk.inj h
    exact ⟨⟨_, _, rfl⟩, nofun⟩
  | succ draws ih =>
    intro w r w' h
    obtain ⟨w₁, hout, hfrom, -⟩ := outcome_freshUuid w
    rw [drawFresh, Run.outcome_bind_of_ok hout] at h
    by_cases hc : used.contains (upcoming w 0) = true
    · rw [if_pos hc] at h
      obtain ⟨hfrom', hu⟩ := ih w₁ h
      exact ⟨hfrom.trans hfrom', hu⟩
    · rw [if_neg hc] at h
      obtain ⟨rfl, rfl⟩ := Prod.mk.inj h
      refine ⟨hfrom, fun u hu => ?_⟩
      obtain rfl := Except.ok.inj hu
      exact ⟨by simpa using hc, ofBits_lt _⟩

end Draw

/-! ## Putting values into a cache -/

/-- What putting a value into a cache leaves behind. -/
structure Added (c : Nat) (v : Value) (u : Uuid) (w w' : World) : Prop where
  /-- The identifier can be written out and read again. -/
  bounded : u.value < 2 ^ 128
  /-- The identifier was not in use. -/
  fresh : (w.cache c).entries.get? u = none
  /-- The value goes under the identifier; nothing is looked up. -/
  cache : w'.cache c = { w.cache c with entries := (w.cache c).entries.set u v }
  /-- Other caches stay. -/
  others : ∀ d ≠ c, w'.cache d = w.cache d
  /-- There are as many caches as before. -/
  size : w'.caches.size = w.caches.size
  /-- Otherwise only identifiers have been drawn, and a record was left. -/
  rest : w' = { w with caches := w'.caches, queuedUuids := w'.queuedUuids,
                       drawnUuids := w'.drawnUuids, records := w'.records }

theorem Added.readable {c : Nat} {v : Value} {u : Uuid} {w w' : World} (h : Added c v u w w') :
    Uuid.parse? u.render = some u := parse?_written h.bounded .canonical

theorem Added.entries {c : Nat} {v : Value} {u : Uuid} {w w' : World} (h : Added c v u w w') :
    (w'.cache c).entries = (w.cache c).entries.set u v := congrArg ValueCache.entries h.cache

theorem Added.get? {c : Nat} {v : Value} {u : Uuid} {w w' : World} (h : Added c v u w w') :
    (w'.cache c).entries.get? u = some v := by
  rw [h.entries, Table.get?_set_self]

/-- Putting a value into a cache lets the world grow. -/
theorem Added.grows {c : Nat} {v : Value} {u : Uuid} {w w' : World} (h : Added c v u w w') :
    w.Grows w' where
  objects i o ho := ⟨o, by rw [h.rest]; exact ho, .refl o⟩
  importable := by rw [h.rest]
  entries d k x hx := by
    by_cases hd : d = c
    · subst hd
      rw [h.entries, Table.get?_set_of_ne, hx]
      rintro rfl
      rw [h.fresh] at hx
      cases hx
    · rw [h.others d hd, hx]
  caches := Nat.le_of_eq h.size.symm

theorem cache_setCache_of_lt {w : World} {c : Nat} (hc : c < w.caches.size) (x : ValueCache) :
    (w.setCache c x).cache c = x := by
  simp [World.setCache, World.cache, hc]

theorem cache_setCache_of_ne {w : World} {c d : Nat} (h : d ≠ c) (x : ValueCache) :
    (w.setCache c x).cache d = w.cache d := by
  simp [World.setCache, World.cache, h.symm]

/-- **A value that is put into a cache goes under an identifier that was not in use.** -/
theorem addValue_eq_ok {c : Nat} {v : Value} {u : Uuid} {w w' : World} (hc : c < w.caches.size)
    (h : (addValue c v).outcome w = (.ok u, w')) : Added c v u w w' := by
  unfold addValue at h
  rw [Run.outcome_get_bind] at h
  obtain ⟨u', w₁, hdraw, h⟩ := Run.bind_eq_ok h
  obtain ⟨⟨queued, drawn, rfl⟩, hu⟩ := drawFresh_cases _ w hdraw
  obtain ⟨hfresh, hlt⟩ := hu u' rfl
  obtain ⟨records, rfl, rfl⟩ : ∃ records, u = u' ∧
      w' = { w.setCache c { w.cache c with entries := (w.cache c).entries.set u' v } with
        queuedUuids := queued, drawnUuids := drawn, records := records } := by
    obtain ⟨hu', hw'⟩ := Prod.mk.inj h
    exact ⟨_, (Except.ok.inj hu').symm, hw'.symm⟩
  exact
    { bounded := hlt
      fresh := by simpa [Table.contains] using hfresh
      cache := cache_setCache_of_lt hc _
      others := fun d hd => cache_setCache_of_ne hd _
      size := by simp [World.setCache]
      rest := rfl }

/-- As long as an identifier comes that is not in use, a value can be put into a cache. -/
theorem addValue_succeeds {c : Nat} {w : World} (h : FreshComes (w.cache c).entries w)
    (v : Value) : ∃ u w', (addValue c v).outcome w = (.ok u, w') := by
  obtain ⟨k, hk, hfresh, hseen⟩ := exists_fresh_le h
  obtain ⟨w₁, hdraw⟩ := drawFresh_of_upcoming k
    (w.queuedUuids.length + (w.cache c).entries.size + 1) w (by omega) hfresh hseen
  unfold addValue
  rw [Run.outcome_get_bind, Run.outcome_bind_of_ok hdraw]
  exact ⟨_, _, rfl⟩

/-- **A value can be put into a cache while not all identifiers are in use.** -/
theorem addValue_spec {c : Nat} {w : World} (hc : c < w.caches.size)
    (hs : (w.cache c).entries.size < 2 ^ 122) (v : Value) :
    ∃ u w', (addValue c v).outcome w = (.ok u, w') ∧ Added c v u w w' := by
  have hfresh : FreshComes (w.cache c).entries w := freshComes_of_size_lt (by omega)
  obtain ⟨u, w', h⟩ := addValue_succeeds hfresh v
  exact ⟨u, w', h, addValue_eq_ok hc h⟩

end Execution

end Facade
