import Mathlib.Data.List.Basic
import Mathlib.Tactic

/-!
# Journals

A journal lists what happened, newest first. The two notions here speak of its
past: something happened and a property has held since, and every record stands
in a relation to the records before it. Both are computed record by record.
-/
namespace Foundation

variable {α : Type*} {P Q : α → Prop} {R : α → List α → Prop} {x e : α} {log older : List α}

/-- `x` is in the journal, and every later record satisfies `P`. -/
def Since (P : α → Prop) (x : α) (log : List α) : Prop :=
  ∃ recent older, log = recent ++ x :: older ∧ ∀ e ∈ recent, P e

@[simp] theorem not_since_nil : ¬ Since P x [] := by
  rintro ⟨recent, older, h, _⟩
  simp at h

@[simp] theorem since_cons : Since P x (e :: log) ↔ e = x ∨ P e ∧ Since P x log := by
  constructor
  · rintro ⟨recent, older, h, hP⟩
    cases recent with
    | nil =>
      obtain ⟨rfl, rfl⟩ : e = x ∧ log = older := by simpa using h
      exact Or.inl rfl
    | cons a recent =>
      obtain ⟨rfl, rfl⟩ : e = a ∧ log = recent ++ x :: older := by simpa using h
      refine Or.inr ⟨hP _ (by simp), recent, older, rfl, ?_⟩
      intro e he
      exact hP e (List.mem_cons_of_mem _ he)
  · rintro (rfl | ⟨he, recent, older, rfl, hP⟩)
    · exact ⟨[], log, rfl, by simp⟩
    · refine ⟨e :: recent, older, rfl, ?_⟩
      intro a ha
      rcases List.mem_cons.mp ha with rfl | ha
      · exact he
      · exact hP a ha

theorem Since.mem (h : Since P x log) : x ∈ log := by
  obtain ⟨recent, older, rfl, _⟩ := h
  simp

theorem Since.of_append {recent : List α} (h : Since P x (recent ++ log)) (hx : x ∉ recent) :
    Since P x log := by
  induction recent with
  | nil => exact h
  | cons e recent ih =>
    rw [List.mem_cons, not_or] at hx
    rw [List.cons_append, since_cons] at h
    rcases h with rfl | ⟨_, h⟩
    · exact absurd rfl hx.1
    · exact ih h hx.2

theorem exists_since (h : ∃ e ∈ log, Q e) : ∃ e, Q e ∧ Since (fun a => ¬ Q a) e log := by
  induction log with
  | nil => simp at h
  | cons a log ih =>
    by_cases ha : Q a
    · exact ⟨a, ha, by simp⟩
    · obtain ⟨e, he, hQ⟩ := h
      have hmem : e ∈ log := by
        rcases List.mem_cons.mp he with rfl | he
        · exact absurd hQ ha
        · exact he
      obtain ⟨e', hQ', hsince⟩ := ih ⟨e, hmem, hQ⟩
      exact ⟨e', hQ', by simp [ha, hsince]⟩

/-- Each record stands in the relation `R` to the journal before it. -/
def AtEach (R : α → List α → Prop) (log : List α) : Prop :=
  ∀ e older, (e :: older) <:+ log → R e older

@[simp] theorem atEach_nil : AtEach R [] := by
  intro e older h
  simp at h

@[simp] theorem atEach_cons : AtEach R (e :: log) ↔ R e log ∧ AtEach R log := by
  constructor
  · intro h
    exact ⟨h e log List.suffix_rfl, fun a older ha => h a older (ha.trans (List.suffix_cons e log))⟩
  · rintro ⟨he, h⟩ a older ha
    rcases List.suffix_cons_iff.mp ha with heq | ha
    · obtain ⟨rfl, rfl⟩ : a = e ∧ older = log := by simpa using heq
      exact he
    · exact h a older ha

/-- A record that is kept oldest first, and to which every step adds at most one entry. -/
theorem eq_filterMap_range {record : ℕ → List α} {added : ℕ → Option α} (hzero : record 0 = [])
    (hsucc : ∀ n, record (n + 1) = record n ++ (added n).toList) (n : ℕ) :
    record n = (List.range n).filterMap added := by
  induction n with
  | zero => exact hzero
  | succ n ih =>
    rw [hsucc, ih, List.range_succ, List.filterMap_append, List.filterMap_cons, List.filterMap_nil]
    cases added n with
    | none => rfl
    | some entry => rfl

end Foundation
