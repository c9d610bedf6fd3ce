import Mathlib.Data.String.Basic
import Facade.Files.Path

/-!
# Clean paths

A clean path leaves out parts of a path and adds none.

* `splitOn_slash`: the parts of a path as lists of characters.
* `length_clean_le`: a clean path is no longer than the path.
-/

namespace Facade.Path

open String

/-! ## Parts -/

theorem splitOnAux_slash (r l m : List Char) (acc : List String) :
    splitOnAux (ofList (l ++ m ++ r)) "/" ⟨utf8Len l⟩ ⟨utf8Len (l ++ m)⟩ 0 acc =
      acc.reverse ++ (List.splitOnPPrepend (· == '/') r m.reverse).map ofList := by
  have hget : Pos.Raw.get "/" 0 = '/' := rfl
  have hnext : Pos.Raw.next "/" 0 = ⟨1⟩ := rfl
  have hend : Pos.Raw.atEnd "/" ⟨1⟩ = true := rfl
  have hextract := extract_of_valid l m r
  rw [← utf8Len_append] at hextract
  induction r generalizing l m acc with
  | nil =>
    have hat := (atEnd_of_valid (l ++ m) []).mpr rfl
    rw [splitOnAux.eq_def, if_pos hat]
    simp only [hextract]
    simp
  | cons c r ih =>
    have hat : ¬Pos.Raw.atEnd (ofList (l ++ m ++ c :: r)) ⟨utf8Len (l ++ m)⟩ = true :=
      fun h => absurd ((atEnd_of_valid (l ++ m) (c :: r)).mp h) (by simp)
    have hget' := get_of_valid (l ++ m) (c :: r)
    have hnext' := next_of_valid (l ++ m) c r
    have hstep : utf8Len (l ++ m) + c.utf8Size = utf8Len (l ++ m ++ [c]) := by
      simp [Nat.add_assoc]
    have htext : l ++ m ++ c :: r = l ++ m ++ [c] ++ r := by simp
    rw [splitOnAux.eq_def, if_neg hat, hget, hget', List.headD_cons, List.splitOnPPrepend_cons_eq_if]
    by_cases hc : c = '/'
    · subst hc
      have hpos : (⟨utf8Len (l ++ m) + '/'.utf8Size⟩ : Pos.Raw).unoffsetBy ⟨1⟩ =
          ⟨utf8Len (l ++ m)⟩ := by
        simp [Pos.Raw.unoffsetBy, Char.utf8Size]
      have ih := ih (l ++ m ++ ['/']) [] (ofList m :: acc)
        (by simpa using extract_of_valid (l ++ m ++ ['/']) [] r)
      simp only [hnext, hnext', hend, hpos, hextract, beq_self_eq_true, if_true]
      rw [hstep, htext]
      simpa using ih
    · have hpos : (⟨utf8Len (l ++ m)⟩ : Pos.Raw).unoffsetBy 0 = ⟨utf8Len (l ++ m)⟩ := by
        simp [Pos.Raw.unoffsetBy]
      have ih := ih l (m ++ [c]) acc (by simpa using extract_of_valid l (m ++ [c]) r)
      simp only [hpos, hnext', beq_iff_eq, hc, if_false]
      rw [hstep, htext]
      simpa using ih

/-- The parts of a path as lists of characters. -/
theorem splitOn_slash (s : String) : s.splitOn "/" = (s.toList.splitOn '/').map ofList := by
  have h := splitOnAux_slash s.toList [] [] []
  simpa [splitOn, List.splitOn] using h

/-- Whether a part leads anywhere. -/
def leads (p : List Char) : Bool := p != [] && p != ['.']

theorem partsOf_eq (s : String) : partsOf s = ((s.toList.splitOn '/').filter leads).map ofList := by
  have hleads : (fun p : String => p != "" && p != ".") ∘ ofList = leads := by
    funext p
    simp only [Function.comp_apply, leads]
    congr 1 <;> rw [Bool.eq_iff_iff] <;> simp [← String.toList_inj]
  rw [partsOf, splitOn_slash, List.filter_map, hleads]

/-! ## Lengths -/

theorem length_intercalate_cons_le (p : List Char) (ps : List (List Char)) :
    (['/'].intercalate (p :: ps)).length ≤ p.length + 1 + (['/'].intercalate ps).length := by
  cases ps with
  | nil => simp
  | cons q ps =>
    rw [List.intercalate_cons_cons, List.length_append, List.length_append, List.length_singleton]

/-- The parts that lead somewhere, with single slashes between them, leave room for all slashes in
front. -/
theorem length_intercalate_leads_le (cs : List Char) :
    (['/'].intercalate ((cs.splitOn '/').filter leads)).length + (cs.takeWhile (· == '/')).length ≤
      cs.length := by
  induction hn : cs.length using Nat.strongRecOn generalizing cs with
  | ind n ih =>
    by_cases hmem : '/' ∈ cs
    · obtain ⟨p, r, rfl, hp⟩ := List.eq_append_cons_of_mem hmem
      have hlength : (p ++ '/' :: r).length = p.length + 1 + r.length := by
        rw [List.length_append, List.length_cons, Nat.add_right_comm, Nat.add_assoc]
      have ih := ih r.length (by omega) r rfl
      rw [List.splitOn_append_cons_self_of_not_mem hp]
      cases p with
      | nil =>
        rw [List.filter_cons_of_neg (by decide), List.nil_append,
          List.takeWhile_cons_of_pos (by decide), List.length_cons]
        rw [List.length_nil] at hlength
        omega
      | cons c p =>
        have htake : (c :: p ++ '/' :: r).takeWhile (· == '/') = [] := by
          rw [List.mem_cons, not_or] at hp
          exact List.takeWhile_cons_of_neg (by simpa using Ne.symm hp.1)
        rw [htake, List.length_nil, List.filter_cons]
        split
        · have := length_intercalate_cons_le (c :: p) ((r.splitOn '/').filter leads)
          omega
        · omega
    · have htake : cs.takeWhile (· == '/') = [] := by
        cases cs with
        | nil => rfl
        | cons c cs =>
          rw [List.mem_cons, not_or] at hmem
          exact List.takeWhile_cons_of_neg (by simpa using Ne.symm hmem.1)
      rw [List.splitOn_eq_singleton hmem, htake, ← hn, List.filter_cons]
      split <;> simp

theorem length_rootOf_le (s : String) :
    (rootOf s).length ≤ (s.toList.takeWhile (· == '/')).length := by
  unfold rootOf
  split
  · exact Nat.zero_le _
  · rename_i h
    rw [h]
    decide
  · rename_i h _
    exact Nat.one_le_iff_ne_zero.mpr h

/-- A clean path is no longer than the path. -/
theorem length_clean_le {s : String} (hs : s ≠ "") : (clean s).length ≤ s.length := by
  have hparts := length_intercalate_leads_le s.toList
  have hroot := length_rootOf_le s
  have hjoin : ("/".intercalate (partsOf s)).length =
      (['/'].intercalate ((s.toList.splitOn '/').filter leads)).length := by
    rw [← String.length_toList, String.toList_intercalate, partsOf_eq, List.map_map]
    simp [Function.comp_def]
  rw [String.length_toList] at hparts
  unfold clean ofParts
  split
  · have : s.length ≠ 0 := by simpa using hs
    exact Nat.one_le_iff_ne_zero.mpr this
  · rw [String.length_append, hjoin]
    omega

end Facade.Path
