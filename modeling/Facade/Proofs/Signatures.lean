import Facade.Proofs.Completion

/-!
# Signatures of partial calls

The signature that a partial call or a bound method leaves is what its arguments leave of the
parameters.

* `Looks`: what a partial call says that it fills.
* `partialSignature?_eq_some`: what a partial call leaves, and what it accepts.
* `dropReceiver?_eq_some`: a bound method is a partial call that gives the receiver.
-/

namespace Facade.Describe

open Facade.Binding Facade.Execution
open Syntax (ParamKind)

variable {ks : Keywords} {as : List Value} {p : Parameter} {ps left : List Parameter}
  {bound filled names : List (String × Value)}

/-! ## What is filled -/

/-- What a partial call says that it fills: positional parameters from the front, others by name. -/
def Looks (bound : List (String × Value)) (ks : Keywords) :
    List Value → List Parameter → Prop
  | _, [] => True
  | as, p :: ps =>
    match p.kind, as with
    | .positionalOnly, a :: as => given bound p.name = some a ∧ Looks bound ks as ps
    | .positionalOnly, [] => given bound p.name = none ∧ Looks bound ks [] ps
    | .positionalOrKeyword, a :: as =>
      (given bound p.name = some a ∧ given ks p.name = none) ∧ Looks bound ks as ps
    | .positionalOrKeyword, [] => given bound p.name = given ks p.name ∧ Looks bound ks [] ps
    | .varPositional, _ => Looks bound ks [] ps
    | .keywordOnly, as => given bound p.name = given ks p.name ∧ Looks bound ks as ps
    | .varKeyword, as => Looks bound ks as ps

/-- The parameters of a remainder, in order. -/
def Remainder.params (r : Remainder) : List Parameter := r.kept ++ r.moved

/-- A remainder to which a parameter is added. -/
def Remainder.keep (r : Remainder) (p : Parameter) : Remainder :=
  if r.moving then { r with moved := r.moved ++ [p] } else { r with kept := r.kept ++ [p] }

theorem Remainder.params_keep {r : Remainder} (h : r.moving = false → r.moved = [])
    (p : Parameter) : (r.keep p).params = r.params ++ [p] ∧ (r.keep p).moving = r.moving ∧
      ((r.keep p).moving = false → (r.keep p).moved = []) := by
  unfold keep params
  cases hm : r.moving with
  | true => simp
  | false => simp [h hm]

section Take

variable {r : Remainder} {v : Value}

theorem take_filled (hp : isPositional p = true) (hv : given bound p.name = some v)
    (hks : p.kind = .positionalOrKeyword → given ks p.name = none) :
    Remainder.take bound ks r p = r := by
  unfold given at hv
  cases hk : p.kind with
  | positionalOnly => simp only [Remainder.take, hk, hv]
  | positionalOrKeyword =>
    have hany : (ks.any fun k => k.1 == p.name) = false := by
      rw [← isSome_given, hks hk]
      rfl
    simp only [Remainder.take, hk, hv, hany, Bool.false_eq_true, if_false]
  | varPositional | keywordOnly | varKeyword => simp [isPositional, hk] at hp

theorem take_given (hk : p.kind = .positionalOrKeyword) (hv : given bound p.name = some v)
    (hks : (given ks p.name).isSome = true) :
    Remainder.take bound ks r p =
      { r with moving := true }.keep { p with kind := .keywordOnly, default := some v } := by
  rw [isSome_given] at hks
  unfold given at hv
  simp only [Remainder.take, hk, hv, hks, Remainder.keep, if_true]

theorem take_not_given (hp : isPositional p = true) (hv : given bound p.name = none) :
    Remainder.take bound ks r p =
      r.keep (if r.moving ∧ p.kind = .positionalOrKeyword then { p with kind := .keywordOnly }
        else p) := by
  unfold given at hv
  cases hk : p.kind with
  | positionalOnly => simp only [Remainder.take, hk, hv, Remainder.keep, reduceCtorEq, and_false,
      if_false]
  | positionalOrKeyword => simp only [Remainder.take, hk, hv, Remainder.keep, and_true]
  | varPositional | keywordOnly | varKeyword => simp [isPositional, hk] at hp

theorem take_keywordOnly (hk : p.kind = .keywordOnly) :
    Remainder.take bound ks r p =
      r.keep { p with default := given bound p.name <|> p.default } := by
  simp only [Remainder.take, hk, Remainder.keep]
  rfl

theorem take_varPositional (hk : p.kind = .varPositional) :
    Remainder.take bound ks r p = if r.moving then r else r.keep p := by
  simp only [Remainder.take, hk, Remainder.keep]

theorem take_varKeyword (hk : p.kind = .varKeyword) :
    Remainder.take bound ks r p = r.keep p := by
  simp only [Remainder.take, hk, Remainder.keep]

end Take

/-- **Taking parameters over one by one leaves what remains of them.** -/
theorem foldl_take (ps : List Parameter) : ∀ {as : List Value} {r : Remainder},
    Looks bound ks as ps → (r.moving = false → r.moved = []) → (r.moving = true → as = []) →
      (ps.foldl (Remainder.take bound ks) r).params = r.params ++ remain ks r.moving as ps := by
  induction ps with
  | nil => intro as r _ _ _; simp [remain]
  | cons p ps ih =>
    intro as r hlook hr has
    rw [List.foldl_cons]
    have keep (p' : Parameter) {r : Remainder} {as' : List Value} (hlook : Looks bound ks as' ps)
        (hr : r.moving = false → r.moved = []) (has : r.moving = true → as' = []) :
        (ps.foldl (Remainder.take bound ks) (r.keep p')).params =
          r.params ++ p' :: remain ks r.moving as' ps := by
      obtain ⟨hparams, hmoving, hmoved⟩ := Remainder.params_keep hr p'
      rw [ih hlook hmoved (by rwa [hmoving]), hparams, hmoving]
      simp
    have none_moved {a : Value} {as' : List Value} (h : as = a :: as') :
        r.moving = true → as' = [] := fun hm => by rw [has hm] at h; cases h
    cases hk : p.kind with
    | positionalOnly =>
      have hp : isPositional p = true := by simp [isPositional, hk]
      cases as with
      | nil =>
        simp only [Looks, hk] at hlook
        rw [remain_positionalOnly hk, take_not_given hp hlook.1, if_neg (by simp [hk])]
        exact keep p hlook.2 hr has
      | cons a as =>
        simp only [Looks, hk] at hlook
        rw [remain_position hp, take_filled hp hlook.1 (by simp [hk])]
        exact ih hlook.2 hr (none_moved rfl)
    | positionalOrKeyword =>
      have hp : isPositional p = true := by simp [isPositional, hk]
      cases as with
      | nil =>
        simp only [Looks, hk] at hlook
        cases hv : given ks p.name with
        | none =>
          rw [remain_not_given hk hv, take_not_given hp (hlook.1.trans hv)]
          have := keep (if r.moving then { p with kind := .keywordOnly } else p) hlook.2 hr has
          simpa [hk] using this
        | some v =>
          rw [remain_given hk hv, take_given hk (hlook.1.trans hv) (by rw [hv]; rfl)]
          have := keep { p with kind := .keywordOnly, default := some v }
            (r := { r with moving := true }) hlook.2 (by simp) (by simp)
          simpa [Remainder.params] using this
      | cons a as =>
        simp only [Looks, hk] at hlook
        rw [remain_position hp, take_filled hp hlook.1.1 fun _ => hlook.1.2]
        exact ih hlook.2 hr (none_moved rfl)
    | varPositional =>
      simp only [Looks, hk] at hlook
      rw [remain_varPositional hk, take_varPositional hk]
      cases hm : r.moving with
      | true =>
        have := ih hlook hr fun _ => rfl
        rwa [hm] at this
      | false =>
        have := keep p hlook hr fun _ => rfl
        rwa [hm] at this
    | keywordOnly =>
      simp only [Looks, hk] at hlook
      rw [remain_keywordOnly hk, take_keywordOnly hk, hlook.1]
      exact keep _ hlook.2 hr has
    | varKeyword =>
      simp only [Looks, hk] at hlook
      rw [remain_varKeyword hk, take_varKeyword hk]
      exact keep p hlook hr has

/-! ## Filling by position -/

/-- What arguments by position fill. -/
theorem fillPositions_eq_some (ps : List Parameter) : ∀ {as : List Value},
    ∀ {filled : List (String × Value)} {left : List Parameter},
    fillPositions ks ps as = some (filled, left) →
      Fits as ps ∧ (∀ n ∈ filledNames as ps, given ks n = none) ∧
      filled.map Prod.fst ++ left.map Parameter.name = ps.map Parameter.name ∧
      (∀ p ∈ left, p ∈ ps) ∧ (hasKind .varKeyword ps = hasKind .varKeyword left) ∧
      ∀ bound, (∀ e ∈ filled, given bound e.1 = some e.2) → Looks bound ks [] left →
        Looks bound ks as ps := by
  induction ps with
  | nil =>
    intro as filled left h
    cases as with
    | nil =>
      obtain ⟨rfl, rfl⟩ : [] = filled ∧ [] = left := by simpa [fillPositions] using h
      exact ⟨trivial, by simp [filledNames], rfl, by simp, rfl, fun _ _ h => h⟩
    | cons a as => simp [fillPositions] at h
  | cons p ps ih =>
    intro as filled left h
    cases as with
    | nil =>
      obtain ⟨rfl, rfl⟩ : [] = filled ∧ p :: ps = left := by simpa [fillPositions] using h
      exact ⟨trivial, by simp [filledNames], rfl, fun _ h => h, rfl, fun _ _ h => h⟩
    | cons a as =>
      have position (h : (fillPositions ks ps as).map (fun r => ((p.name, a) :: r.1, r.2)) =
          some (filled, left)) : ∃ filled', fillPositions ks ps as = some (filled', left) ∧
            filled = (p.name, a) :: filled' := by
        obtain ⟨⟨filled', left'⟩, hf, he⟩ := Option.map_eq_some_iff.mp h
        simp only [Prod.mk.injEq] at he
        obtain ⟨rfl, rfl⟩ := he
        exact ⟨filled', hf, rfl⟩
      cases hk : p.kind with
      | positionalOnly =>
        simp only [fillPositions, hk] at h
        obtain ⟨filled', hf, rfl⟩ := position h
        obtain ⟨hfit, hnames, hmap, hmem, hkind, hlooks⟩ := ih hf
        refine ⟨by simpa [Fits, hk], by simpa [filledNames, hk], by simp [hmap],
          fun q hq => List.mem_cons_of_mem p (hmem q hq), by simpa [hasKind, hk] using hkind,
          fun bound hb hl => ?_⟩
        simp only [Looks, hk]
        exact ⟨hb _ List.mem_cons_self, hlooks bound
          (fun e he => hb e (List.mem_cons_of_mem _ he)) hl⟩
      | positionalOrKeyword =>
        simp only [fillPositions, hk] at h
        split at h
        · cases h
        · rename_i hany
          rw [← isSome_given, Option.not_isSome_iff_eq_none] at hany
          obtain ⟨filled', hf, rfl⟩ := position h
          obtain ⟨hfit, hnames, hmap, hmem, hkind, hlooks⟩ := ih hf
          refine ⟨by simpa [Fits, hk], ?_, by simp [hmap],
            fun q hq => List.mem_cons_of_mem p (hmem q hq), by simpa [hasKind, hk] using hkind,
            fun bound hb hl => ?_⟩
          · simp only [filledNames, hk, List.mem_cons]
            rintro n (rfl | hn)
            · exact hany
            · exact hnames n hn
          · simp only [Looks, hk]
            exact ⟨⟨hb _ List.mem_cons_self, hany⟩, hlooks bound
              (fun e he => hb e (List.mem_cons_of_mem _ he)) hl⟩
      | varPositional =>
        simp only [fillPositions, hk, Option.some.injEq, Prod.mk.injEq] at h
        obtain ⟨rfl, rfl⟩ := h
        refine ⟨by simp [Fits, hk], by simp [filledNames, hk], by simp,
          fun q hq => List.mem_cons_of_mem p hq, by simp [hasKind, hk], fun bound _ hl => ?_⟩
        simpa only [Looks, hk] using hl
      | keywordOnly | varKeyword => simp [fillPositions, hk] at h

/-! ## Filling by name -/

/-- The parameters that take one argument each. -/
def plain (ps : List Parameter) : List Parameter := ps.filter fun p => !p.kind.isVariadic

theorem given_filterMap_find (ks : Keywords) (ps : List Parameter) (n : String) :
    given (ps.filterMap fun p => ks.find? fun k => k.1 == p.name) n =
      if n ∈ ps.map Parameter.name then given ks n else none := by
  induction ps with
  | nil => rfl
  | cons p ps ih =>
    rw [List.filterMap_cons, List.map_cons]
    by_cases hn : n = p.name
    · rw [if_pos (by simp [hn])]
      cases hf : ks.find? fun k => k.1 == p.name with
      | none =>
        have hg : given ks n = none := by rw [given, hn, hf]; rfl
        rw [ih, hg, ite_self]
      | some e =>
        have he : e.1 = n := by rw [hn]; simpa using List.find?_some hf
        rw [given_cons, if_pos he, given, hn, hf]
        rfl
    · have hmem : (n ∈ p.name :: ps.map Parameter.name) ↔ n ∈ ps.map Parameter.name := by
        simp [hn]
      cases hf : ks.find? fun k => k.1 == p.name with
      | none => rw [ih]; simp only [hmem]
      | some e =>
        have he : e.1 = p.name := by simpa using List.find?_some hf
        rw [given_cons, if_neg (by rw [he]; exact Ne.symm hn), ih]
        simp only [hmem]

/-- What arguments by name fill. -/
theorem fillNames_eq_some (h : fillNames ks ps = some names) :
    (∀ p ∈ ps, p.kind = .positionalOnly → given ks p.name = none) ∧
    (hasKind .varKeyword ps = false → surplus ps ks = []) ∧
    (∀ e ∈ names, e.1 ∈ ps.map Parameter.name) ∧
    ((ps.map Parameter.name).Nodup → ∀ p ∈ ps, p.kind.isVariadic = false →
      given names p.name = given ks p.name) := by
  unfold fillNames at h
  simp only at h
  split at h
  · cases h
  rename_i honly
  have hfilled : ∀ e ∈ (plain ps).filterMap (fun p => ks.find? fun k => k.1 == p.name),
      e.1 ∈ ps.map Parameter.name := by
    intro e he
    obtain ⟨p, hp, hf⟩ := List.mem_filterMap.mp he
    have hn : e.1 = p.name := by simpa using List.find?_some hf
    exact hn ▸ List.mem_map_of_mem (List.mem_of_mem_filter hp)
  have hplain {p : Parameter} (hp : p ∈ ps) (hv : p.kind.isVariadic = false) :
      p.name ∈ (plain ps).map Parameter.name :=
    List.mem_map_of_mem (List.mem_filter.mpr ⟨hp, by simp [hv]⟩)
  have honly' : ∀ p ∈ ps, p.kind = .positionalOnly → given ks p.name = none := by
    intro p hp hk
    rw [← Option.not_isSome_iff_eq_none, isSome_given]
    intro hany
    refine honly (List.any_eq_true.mpr ⟨p, List.mem_filter.mpr ⟨hp, ?_⟩, ?_⟩)
    · simp [hk, ParamKind.isVariadic]
    · simpa [hk] using hany
  split at h
  · rename_i hempty
    obtain rfl := Option.some.inj h
    refine ⟨honly', fun _ => ?_, hfilled, fun _ p hp hv => ?_⟩
    · rw [surplus_eq_filter, List.filter_eq_nil_iff]
      intro e he hc
      rw [List.isEmpty_iff, List.filter_eq_nil_iff] at hempty
      have hany := hempty e he
      simp only [Bool.not_eq_true', Bool.not_eq_false, List.any_eq_true, List.mem_filter] at hany
      obtain ⟨p, ⟨hp, hv⟩, hn⟩ := hany
      have hn : p.name = e.1 := by simpa using hn
      have hk : p.kind ≠ .positionalOnly := fun hk => by
        have := honly' p hp hk
        rw [given_eq_none_iff, hn] at this
        exact this (List.mem_map_of_mem he)
      have hmem : e.1 ∈ namedNames ps := by
        rw [← hn]
        refine List.mem_map_of_mem (List.mem_filter.mpr ⟨hp, ?_⟩)
        unfold isNamed
        cases hk' : p.kind <;> simp_all [ParamKind.isVariadic]
      simp [hmem] at hc
    · rw [← plain, given_filterMap_find, if_pos (hplain hp hv)]
  · split at h
    · rename_i q hq
      obtain rfl := Option.some.inj h
      have hqk : q.kind = .varKeyword := by simpa using List.find?_some hq
      have hqm : q ∈ ps := List.mem_of_find?_eq_some hq
      refine ⟨honly', fun hk => ?_, fun e he => ?_, fun hn p hp hv => ?_⟩
      · rw [hasKind, List.any_eq_false] at hk
        exact absurd (by simpa using hqk) (hk q hqm)
      · rcases List.mem_append.mp he with he | he
        · exact hfilled e he
        · rw [List.mem_singleton.mp he]
          exact List.mem_map_of_mem hqm
      · rw [given_append, ← plain, given_filterMap_find, if_pos (hplain hp hv), given_cons, given_nil]
        have hne : q.name ≠ p.name := fun he => by
          have := List.inj_on_of_nodup_map hn hqm hp he
          rw [← this, hqk] at hv
          cases hv
        rw [if_neg hne]
        cases given ks p.name <;> rfl
    · cases h

theorem looks_nil (ps : List Parameter)
    (h : ∀ p ∈ ps, p.kind.isVariadic = false → given bound p.name = given ks p.name)
    (honly : ∀ p ∈ ps, p.kind = .positionalOnly → given ks p.name = none) :
    Looks bound ks [] ps := by
  induction ps with
  | nil => trivial
  | cons p ps ih =>
    have hps := ih (fun q hq => h q (List.mem_cons_of_mem p hq))
      fun q hq => honly q (List.mem_cons_of_mem p hq)
    have hp := h p List.mem_cons_self
    cases hk : p.kind with
    | positionalOnly =>
      simp only [Looks, hk]
      exact ⟨(hp (by simp [hk, ParamKind.isVariadic])).trans (honly p List.mem_cons_self hk), hps⟩
    | positionalOrKeyword | keywordOnly =>
      simp only [Looks, hk]
      exact ⟨hp (by simp [hk, ParamKind.isVariadic]), hps⟩
    | varPositional | varKeyword => simpa only [Looks, hk] using hps

/-! ## Signatures -/

theorem given_of_mem {bs : List (String × Value)} (hn : (bs.map Prod.fst).Nodup)
    {e : String × Value} (he : e ∈ bs) : given bs e.1 = some e.2 := by
  rw [given, find?_of_mem_of_nodup hn he]
  rfl

theorem bindPart?_eq_some (hl : IsLegal ps) (h : bindPart? ps as ks = some bound) :
    Accepts ps as ks ∧ Looks bound ks as ps := by
  unfold bindPart? at h
  obtain ⟨⟨filled, left⟩, hf, h⟩ := Option.bind_eq_some_iff.mp h
  obtain ⟨names, hnames, h⟩ := Option.bind_eq_some_iff.mp h
  obtain rfl := Option.some.inj h
  obtain ⟨hfit, hfilled, hmap, hmem, hkind, hlooks⟩ := fillPositions_eq_some ps hf
  obtain ⟨honly, hsurplus, hin, hgiven⟩ := fillNames_eq_some hnames
  have hnodup := hl.nodup
  rw [← hmap] at hnodup
  obtain ⟨hn₁, hn₂, hdisj⟩ := List.nodup_append'.mp hnodup
  refine ⟨⟨hfit, hfilled, fun hk => ?_⟩, hlooks _ (fun e he => ?_) (looks_nil left ?_ honly)⟩
  · -- A name that a parameter behind the filled ones takes is no surplus of all of them either.
    rw [hkind] at hk
    have hleft := hsurplus hk
    rw [surplus_eq_filter, List.filter_eq_nil_iff] at hleft ⊢
    intro e he hc
    refine hleft e he ?_
    simp only [Bool.not_eq_eq_eq_not, Bool.not_true, List.contains_eq_mem,
      decide_eq_false_iff_not] at hc ⊢
    refine fun hmem' => hc ?_
    obtain ⟨p, hp, hpn⟩ := List.mem_map.mp hmem'
    rw [← hpn]
    exact List.mem_map_of_mem (List.mem_filter.mpr
      ⟨hmem p (List.mem_of_mem_filter hp), (List.mem_filter.mp hp).2⟩)
  · rw [given_append, given_of_mem hn₁ he]
    rfl
  · intro p hp hv
    have hnone : given filled p.name = none :=
      given_eq_none_iff.mpr fun hm => hdisj hm (List.mem_map_of_mem hp)
    rw [given_append, hnone, ← hgiven hn₂ p hp hv]
    rfl

/-- **What a partial call leaves of a signature.** -/
theorem partialSignature?_eq_some {s s' : Signature} (hl : IsLegal s.params)
    (h : partialSignature? s as ks = some s') :
    Accepts s.params as ks ∧ s'.params = remain ks false as s.params ∧ s'.returns = s.returns := by
  unfold partialSignature? at h
  obtain ⟨bound, hb, h⟩ := Option.bind_eq_some_iff.mp h
  obtain rfl := Option.some.inj h
  obtain ⟨ha, hlooks⟩ := bindPart?_eq_some hl hb
  refine ⟨ha, ?_, rfl⟩
  have := foldl_take s.params (r := {}) hlooks (by simp) (by simp)
  simpa [Remainder.params] using this

theorem remain_nil (ps : List Parameter) : remain [] false [] ps = ps := by
  induction ps with
  | nil => rfl
  | cons p ps ih =>
    cases hk : p.kind with
    | positionalOnly => rw [remain_positionalOnly hk, ih]
    | positionalOrKeyword => rw [remain_not_given hk (given_nil _), ih]; rfl
    | varPositional => rw [remain_varPositional hk, ih]; rfl
    | keywordOnly => rw [remain_keywordOnly hk, ih, given_nil]; rfl
    | varKeyword => rw [remain_varKeyword hk, ih]

/-- **A bound method is a partial call** that gives the receiver. -/
theorem dropReceiver?_eq_some {s s' : Signature} (v : Value) (h : dropReceiver? s = some s') :
    Accepts s.params [v] [] ∧ s'.params = remain [] false [v] s.params ∧
      s'.returns = s.returns := by
  unfold dropReceiver? at h
  split at h
  · cases h
  rename_i p ps hps
  have accepts (hfit : Fits [v] (p :: ps)) : Accepts s.params [v] [] :=
    ⟨hps ▸ hfit, fun n _ => given_nil n, fun _ => rfl⟩
  have drop (hp : isPositional p = true) : remain [] false [v] (p :: ps) = ps := by
    rw [remain_position hp, remain_nil]
  cases hk : p.kind with
  | positionalOnly | positionalOrKeyword =>
    rw [hk] at h
    obtain rfl := Option.some.inj h
    exact ⟨accepts (by simp [Fits, hk]), by rw [hps, drop (by simp [isPositional, hk])], rfl⟩
  | varPositional =>
    rw [hk] at h
    obtain rfl := Option.some.inj h
    refine ⟨accepts (by simp [Fits, hk]), ?_, rfl⟩
    rw [hps, remain_varPositional hk, remain_nil]
    rfl
  | keywordOnly | varKeyword =>
    rw [hk] at h
    cases h

end Facade.Describe
