import Mathlib.Data.List.Basic
import Mathlib.Tactic

/-!
# Queues that remember what came to them

An item arrives at the end of a queue, unless the queue is at its limit, and is
taken from the front. What was taken, followed by what still waits, are the
arrivals that found room, in the order of their arrival.
-/
namespace Foundation

variable {α : Type*}

/-- An item that came to a queue, and the length that the queue had then. -/
structure Arrival (α : Type*) where
  item : α
  found : ℕ
  deriving DecidableEq

/-- `found` was below the limit, if there is one. -/
def Arrival.HadRoom (limit : Option ℕ) (arrival : Arrival α) : Prop :=
  ∀ n ∈ limit, arrival.found < n

instance (limit : Option ℕ) (arrival : Arrival α) : Decidable (arrival.HadRoom limit) :=
  inferInstanceAs (Decidable (∀ n ∈ limit, _))

/-- `taken` and `arrivals` are history, oldest first; an arrival without room was dropped. -/
structure Fifo (α : Type*) where
  waiting : List (Arrival α)
  taken : List (Arrival α)
  arrivals : List (Arrival α)

namespace Fifo

def empty : Fifo α := ⟨[], [], []⟩

def arrive (limit : Option ℕ) (q : Fifo α) (item : α) : Fifo α :=
  let arrival := ⟨item, q.waiting.length⟩
  { q with
    waiting := if arrival.HadRoom limit then q.waiting ++ [arrival] else q.waiting
    arrivals := q.arrivals ++ [arrival] }

def take? (q : Fifo α) : Option (Fifo α) :=
  match q.waiting with
  | [] => none
  | arrival :: waiting => some { q with waiting := waiting, taken := q.taken ++ [arrival] }

/-- All that came with room is in the queue or was taken, in the order in which it came. -/
structure Sound (limit : Option ℕ) (q : Fifo α) : Prop where
  kept : q.taken ++ q.waiting = q.arrivals.filter (·.HadRoom limit)
  bounded : ∀ n ∈ limit, q.waiting.length ≤ n

variable {limit : Option ℕ} {q q' : Fifo α} {item : α}

@[simp] theorem arrivals_arrive (limit : Option ℕ) (q : Fifo α) (item : α) :
    (q.arrive limit item).arrivals = q.arrivals ++ [⟨item, q.waiting.length⟩] :=
  rfl

theorem mem_arrivals_arrive {x : α} : x ∈ (q.arrive limit item).arrivals.map (·.item) ↔
    x ∈ q.arrivals.map (·.item) ∨ x = item := by
  rw [arrivals_arrive, List.map_append, List.mem_append, List.map_singleton, List.mem_singleton]

theorem nodup_arrivals_arrive (h : (q.arrivals.map (·.item)).Nodup)
    (hnew : item ∉ q.arrivals.map (·.item)) :
    ((q.arrive limit item).arrivals.map (·.item)).Nodup := by
  rw [arrivals_arrive, List.map_append, List.map_singleton]
  exact List.Nodup.append h (List.nodup_singleton item) (by simpa using hnew)

theorem getElem?_arrivals_arrive {i : ℕ} {arrival : Arrival α}
    (h : (q.arrive limit item).arrivals[i]? = some arrival) :
    q.arrivals[i]? = some arrival ∨ q.arrivals.length ≤ i ∧ arrival.item = item := by
  rw [arrivals_arrive] at h
  by_cases hi : i < q.arrivals.length
  · rw [List.getElem?_append_left hi] at h
    exact Or.inl h
  · rw [List.getElem?_append_right (not_lt.mp hi)] at h
    rw [List.mem_singleton.mp (List.mem_of_getElem? h)]
    exact Or.inr ⟨not_lt.mp hi, rfl⟩

theorem length_arrivals_le_arrive (limit : Option ℕ) (q : Fifo α) (item : α) :
    q.arrivals.length ≤ (q.arrive limit item).arrivals.length := by
  rw [arrivals_arrive, List.length_append]
  exact Nat.le_add_right _ _

@[simp] theorem take?_eq_none_iff : q.take? = none ↔ q.waiting = [] := by
  unfold take?
  split
  · simp [*]
  · simp [*]

theorem arrivals_of_take? (h : q.take? = some q') : q'.arrivals = q.arrivals := by
  unfold take? at h
  split at h
  · cases h
  · cases h
    rfl

theorem waiting_arrive_ne_nil (h : q.waiting ≠ []) (item : α) :
    (q.arrive limit item).waiting ≠ [] := by
  unfold arrive
  dsimp only
  split_ifs
  · exact List.append_ne_nil_of_left_ne_nil h _
  · exact h

theorem waiting_arrive_ne_nil_of_hadRoom
    (h : (⟨item, q.waiting.length⟩ : Arrival α).HadRoom limit) :
    (q.arrive limit item).waiting ≠ [] := by
  simp [arrive, h]

theorem sound_empty : (empty : Fifo α).Sound limit where
  kept := rfl
  bounded n _ := Nat.zero_le n

theorem Sound.arrive (h : q.Sound limit) (item : α) : (q.arrive limit item).Sound limit := by
  unfold Fifo.arrive
  by_cases hroom : (⟨item, q.waiting.length⟩ : Arrival α).HadRoom limit
  · constructor
    · simp only [if_pos hroom, List.filter_append, ← h.kept, List.append_assoc]
      simp [hroom]
    · intro n hn
      simp only [if_pos hroom, List.length_append, List.length_singleton]
      exact hroom n hn
  · constructor
    · simp only [if_neg hroom, List.filter_append, ← h.kept]
      simp [hroom]
    · simpa only [if_neg hroom] using h.bounded

theorem Sound.take? (h : q.Sound limit) (htake : q.take? = some q') : q'.Sound limit := by
  unfold Fifo.take? at htake
  split at htake
  case h_1 => cases htake
  case h_2 arrival waiting hwaiting =>
    cases htake
    constructor
    · dsimp only
      rw [← h.kept, hwaiting, List.append_assoc, List.singleton_append]
    · intro n hn
      have hlength := h.bounded n hn
      rw [hwaiting, List.length_cons] at hlength
      exact Nat.le_of_succ_le hlength

/-- An arrival is missing only if the queue had its full length. -/
theorem Sound.missing (h : q.Sound limit) {arrival : Arrival α} (hmem : arrival ∈ q.arrivals)
    (hmissing : arrival ∉ q.taken ++ q.waiting) : ∃ n ∈ limit, n ≤ arrival.found := by
  rw [h.kept, List.mem_filter] at hmissing
  have hroom : ¬ arrival.HadRoom limit := fun hroom => hmissing ⟨hmem, decide_eq_true hroom⟩
  simp only [Arrival.HadRoom, not_forall, not_lt] at hroom
  obtain ⟨n, hn, hfull⟩ := hroom
  exact ⟨n, hn, hfull⟩

/-- Without a limit nothing is missing. -/
theorem Sound.complete (h : q.Sound none) : q.taken ++ q.waiting = q.arrivals := by
  rw [h.kept, List.filter_eq_self]
  intro arrival _
  exact decide_eq_true fun n hn => absurd hn (Option.not_mem_none n)

end Fifo

end Foundation
