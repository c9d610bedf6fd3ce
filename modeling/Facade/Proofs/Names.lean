import Facade.Conversion.Plan
import Mathlib.Tactic.Common

/-!
# Private names

* `mangle_mangle`: a name is spelled out once; spelling it again changes nothing.
* `eq_of_mangle_mem_reservedNames`: no private name is spelled like one that generated bodies rely
  on.
-/

namespace Facade.Syntax

/-- The class whose private names are spelled out, less its leading underscores, does not open with
an underscore. -/
theorem head_stemOf {cls : String} {c : Char} {r : List Char} (h : stemOf cls = c :: r) :
    c ≠ '_' := by
  unfold stemOf at h
  have hd := List.head?_dropWhile_not (fun c => c == '_') cls.toList
  rw [h] at hd
  simpa using hd

theorem mangle_of_not_isPrivate (cls : Option String) {n : String}
    (h : isPrivate n.toList = false) : mangle cls n = n := by
  cases cls with
  | none => rfl
  | some c => simp [mangle, h]

/-- A name that is not spelled as it is opens with the stem of a class, between underscores. -/
theorem mangle_ne {cls : Option String} {n : String} (h : mangle cls n ≠ n) :
    ∃ c r s, (mangle cls n).toList = '_' :: c :: (r ++ '_' :: '_' :: s) ∧ c ≠ '_' := by
  cases cls with
  | none => exact absurd rfl h
  | some cls =>
    unfold mangle at h ⊢
    dsimp only at h ⊢
    split at h
    · rename_i hp
      rw [if_pos hp]
      simp only [Bool.and_eq_true, Bool.not_eq_true', List.isEmpty_eq_false_iff] at hp
      obtain ⟨hpriv, hstem⟩ := hp
      simp only [isPrivate, Bool.and_eq_true, List.isPrefixOf_iff_prefix] at hpriv
      obtain ⟨s, hs⟩ := hpriv.1.1
      cases hst : stemOf cls with
      | nil => exact absurd hst hstem
      | cons c r =>
        refine ⟨c, r, s, ?_, head_stemOf hst⟩
        rw [String.toList_ofList, ← hs]
        simp
    · exact absurd rfl h

theorem isPrivate_mangle_of_ne {cls : Option String} {n : String} (h : mangle cls n ≠ n) :
    isPrivate (mangle cls n).toList = false := by
  obtain ⟨c, r, s, hm, hc⟩ := mangle_ne h
  rw [hm]
  simp [isPrivate, hc.symm]

/-- **A name is spelled out once.** -/
theorem mangle_mangle (cls : Option String) (n : String) :
    mangle cls (mangle cls n) = mangle cls n := by
  by_cases h : mangle cls n = n
  · rw [h, h]
  · exact mangle_of_not_isPrivate cls (isPrivate_mangle_of_ne h)

end Facade.Syntax

namespace Facade.Conversion

open Syntax (mangle isPrivate)
open Facade.Describe.MethodInfo (isPublicName)

theorem isPrivate_of_mem_reservedNames {s : String} (h : s ∈ reservedNames) :
    isPrivate s.toList = false := by
  simp only [reservedNames, List.mem_cons, List.not_mem_nil, or_false] at h
  rcases h with rfl | rfl | rfl | rfl <;> rfl

/-- The names that generated bodies rely on are spelled as they are. -/
theorem mangle_reservedName (cls : Option String) {s : String} (h : s ∈ reservedNames) :
    mangle cls s = s :=
  Syntax.mangle_of_not_isPrivate cls (isPrivate_of_mem_reservedNames h)

/-- A name that generated bodies rely on does not open like the spelling of a private name, or holds
no two adjacent underscores further on. -/
theorem no_stem_of_mem_reservedNames {s : String} (h : s ∈ reservedNames) :
    s.toList[0]? ≠ some '_' ∨ s.toList[1]? = some '_' ∨ ¬ ['_', '_'] <:+: s.toList.drop 2 := by
  simp only [reservedNames, List.mem_cons, List.not_mem_nil, or_false] at h
  rcases h with rfl | rfl | rfl | rfl
  · left; decide +kernel
  · left; decide +kernel
  · right; right; decide +kernel
  · right; left; decide +kernel

/-- **No other name is spelled like one that generated bodies rely on.** -/
theorem eq_of_mangle_mem_reservedNames {cls : Option String} {n : String}
    (h : mangle cls n ∈ reservedNames) : mangle cls n = n := by
  by_contra hne
  obtain ⟨c, r, t, hm, hc⟩ := Syntax.mangle_ne hne
  have hstem := no_stem_of_mem_reservedNames h
  rw [hm] at hstem
  rcases hstem with h0 | h1 | h2
  · exact h0 rfl
  · exact hc (by simpa using h1)
  · exact h2 ⟨r, t, by simp⟩

theorem mangle_not_mem_reservedNames {cls : Option String} {n : String} (h : n ∉ reservedNames) :
    mangle cls n ∉ reservedNames := by
  intro hm
  exact h (eq_of_mangle_mem_reservedNames hm ▸ hm)

/-! ## Public names -/

theorem not_isPrefix_of_isPublicName {name : String} (h : isPublicName name = true) :
    ¬ ['_'] <+: name.toList := by
  intro hp
  have hs : name.startsWith "_" = true := String.startsWith_string_iff.mpr hp
  rw [isPublicName, hs] at h
  cases h

theorem isPrivate_of_isPublicName {name : String} (h : isPublicName name = true) :
    Syntax.isPrivate name.toList = false := by
  rw [Syntax.isPrivate, Bool.and_eq_false_iff, Bool.and_eq_false_iff]
  refine .inl (.inl (Bool.eq_false_iff.mpr fun hp => not_isPrefix_of_isPublicName h ?_))
  exact (List.prefix_append ['_'] ['_']).trans (List.isPrefixOf_iff_prefix.mp hp)

/-- A class keeps a public name as it is. -/
theorem mangle_of_isPublicName {name : String} (h : isPublicName name = true) (cls : Option String) :
    mangle cls name = name :=
  Syntax.mangle_of_not_isPrivate cls (isPrivate_of_isPublicName h)

/-- A public name does not begin like the other names of a class. -/
theorem ne_of_isPublicName {s name : String} (h : isPublicName name = true)
    (hs : ['_'] <+: s.toList) : s ≠ name := by
  rintro rfl
  exact not_isPrefix_of_isPublicName h hs

end Facade.Conversion
