import Mathlib.Data.List.Chain
import Mathlib.Data.List.Nodup
import Mathlib.Tactic

/-!
# Going round a list that grows

An index goes through a list, and back to the front when it has come to the end.
The list may grow at its end all the while. From one visit to a position to the
next one, every other position that was there at the first visit is visited
exactly once.
-/
namespace Foundation

/-- A visit to a position of a list, and the length of the list then. -/
structure Visit where
  position : ℕ
  size : ℕ
  deriving DecidableEq

namespace Visit

/-- The list has not shrunk, and the index went on by one or back from the end. -/
structure Follows (later earlier : Visit) : Prop where
  grown : earlier.size ≤ later.size
  next : later.position = earlier.position + 1 ∨
    later.position = 0 ∧ earlier.size ≤ earlier.position + 1

variable {first last : Visit} {between : List Visit}

/-- Newest first, the positions since a visit: on from it, and then again from the front. -/
inductive Passed (first : Visit) : ℕ → List ℕ → Prop
  | ahead (m : ℕ) :
      Passed first (first.position + m) (List.range' (first.position + 1) m).reverse
  | around (m k : ℕ) (hend : first.size ≤ first.position + 1 + m) (hk : k < first.position) :
      Passed first k
        ((List.range (k + 1)).reverse ++ (List.range' (first.position + 1) m).reverse)

theorem Passed.step {latest : Visit} {positions : List ℕ} {later : Visit}
    (h : Passed first latest.position positions) (hfirst : first.position < first.size)
    (hsize : first.size ≤ latest.size) (hlater : later.Follows latest)
    (hne : later.position ≠ first.position) :
    Passed first later.position (later.position :: positions) := by
  generalize hlatest : latest.position = place at h
  have hnext := hlater.next
  rw [hlatest] at hnext
  cases h with
  | ahead m =>
    rcases hnext with hnext | ⟨hzero, hend⟩
    · have hplace : later.position = first.position + (m + 1) := by omega
      have hrange : (List.range' (first.position + 1) (m + 1)).reverse =
          (first.position + (m + 1)) :: (List.range' (first.position + 1) m).reverse := by
        rw [List.range'_1_concat, List.reverse_append, List.reverse_singleton,
          List.singleton_append]
        congr 1
        omega
      rw [hplace, ← hrange]
      exact .ahead (m + 1)
    · rw [hzero]
      exact .around m 0 (by omega) (by omega)
  | around m _ hend hk =>
    rcases hnext with hnext | ⟨_, hback⟩
    · have hrange : (place + 1) :: (List.range (place + 1)).reverse =
          (List.range (place + 1 + 1)).reverse := by
        rw [List.range_succ (n := place + 1), List.reverse_append, List.reverse_singleton,
          List.singleton_append]
      rw [hnext, ← List.cons_append, hrange]
      exact .around m (place + 1) hend (by omega)
    · omega

/-- What has been passed since a visit to which the index has not come back. -/
theorem passed_of_isChain (h : (between ++ [first]).IsChain Follows)
    (hfirst : first.position < first.size)
    (hne : ∀ v ∈ between, v.position ≠ first.position) :
    ∃ latest rest, between ++ [first] = latest :: rest ∧ first.size ≤ latest.size ∧
      Passed first latest.position (between.map Visit.position) := by
  induction between with
  | nil => exact ⟨first, [], rfl, le_rfl, .ahead 0⟩
  | cons v between ih =>
    obtain ⟨hv, hrest⟩ := List.forall_mem_cons.mp hne
    obtain ⟨latest, rest, hlist, hsize, hpassed⟩ := ih h.tail hrest
    rw [List.cons_append, hlist, List.isChain_cons_cons] at h
    refine ⟨v, latest :: rest, by rw [List.cons_append, hlist], hsize.trans h.1.grown, ?_⟩
    exact hpassed.step hfirst hsize h.1 hv

/-- Between two visits to one position that follow each other, every other position that was
there at the first of them is visited exactly once. -/
theorem count_between (h : (last :: between ++ [first]).IsChain Follows)
    (hfirst : first.position < first.size) (hlast : last.position = first.position)
    (hne : ∀ v ∈ between, v.position ≠ first.position) {q : ℕ} (hq : q < first.size)
    (hqfirst : q ≠ first.position) : (between.map Visit.position).count q = 1 := by
  obtain ⟨latest, rest, hlist, hsize, hpassed⟩ := passed_of_isChain h.tail hfirst hne
  rw [List.cons_append, hlist, List.isChain_cons_cons] at h
  have hnext := h.1.next
  rw [hlast] at hnext
  generalize latest.position = place at hnext hpassed
  generalize between.map Visit.position = positions at hpassed ⊢
  cases hpassed with
  | ahead m =>
    apply List.count_eq_one_of_mem
    · exact List.nodup_reverse.mpr List.nodup_range'
    · rw [List.mem_reverse, List.mem_range'_1]
      omega
  | around m _ hend hk =>
    have hplace : first.position = place + 1 := by omega
    apply List.count_eq_one_of_mem
    · rw [List.nodup_append, List.nodup_reverse, List.nodup_reverse]
      refine ⟨List.nodup_range, List.nodup_range', ?_⟩
      intro a ha b hb
      rw [List.mem_reverse, List.mem_range] at ha
      rw [List.mem_reverse, List.mem_range'_1] at hb
      omega
    · rw [List.mem_append, List.mem_reverse, List.mem_reverse, List.mem_range, List.mem_range'_1]
      omega

end Visit

end Foundation
