import Mathlib.Data.List.Basic
import Mathlib.Tactic

/-!
# Offering a message to handlers in turn

A list of handlers is asked in order. The first one that takes the message
changes its state, and nobody after it is asked.
-/
namespace Foundation

variable {H : Type*} {handle : H → Option H} {before after : List H} {h h' : H}

/-- The handlers after the offer; `handle` answers the new state of a handler that takes it. -/
def offer (handle : H → Option H) : List H → List H
  | [] => []
  | h :: rest =>
    match handle h with
    | some h' => h' :: rest
    | none => h :: offer handle rest

theorem offer_append (hbefore : ∀ h ∈ before, handle h = none) :
    offer handle (before ++ after) = before ++ offer handle after := by
  induction before with
  | nil => rfl
  | cons h before ih =>
    have hh := hbefore h List.mem_cons_self
    have hrest := ih fun g hg => hbefore g (List.mem_cons_of_mem h hg)
    simp only [List.cons_append, offer, hh, hrest]

/-- The first one that takes the message is the only one that changes. -/
theorem offer_taken (hbefore : ∀ h ∈ before, handle h = none) (hh : handle h = some h') :
    offer handle (before ++ h :: after) = before ++ h' :: after := by
  rw [offer_append hbefore]
  simp only [offer, hh]

theorem refused_or_taken (handle : H → Option H) (handlers : List H) :
    (∀ h ∈ handlers, handle h = none) ∨
      ∃ before h h' after, handlers = before ++ h :: after ∧ (∀ g ∈ before, handle g = none) ∧
        handle h = some h' := by
  induction handlers with
  | nil => exact Or.inl fun h hh => absurd hh List.not_mem_nil
  | cons h handlers ih =>
    cases hh : handle h with
    | some h' => exact Or.inr ⟨[], h, h', handlers, rfl, by simp, hh⟩
    | none =>
      rcases ih with hall | ⟨before, g, g', after, rfl, hbefore, hg⟩
      · exact Or.inl (List.forall_mem_cons.mpr ⟨hh, hall⟩)
      · exact Or.inr ⟨h :: before, g, g', after, rfl, List.forall_mem_cons.mpr ⟨hh, hbefore⟩, hg⟩

/-- A given handler is the one that takes the message exactly when all before it refuse. -/
theorem offer_eq_iff (hh : handle h = some h') (hchange : ∀ g g', handle g = some g' → g ≠ g') :
    offer handle (before ++ h :: after) = before ++ h' :: after ↔
      ∀ g ∈ before, handle g = none := by
  constructor
  · intro hoffer
    rcases refused_or_taken handle before with hall | ⟨first, g, g', rest, rfl, hfirst, hg⟩
    · exact hall
    · rw [List.append_assoc, List.cons_append, offer_taken hfirst hg, List.append_assoc,
        List.cons_append] at hoffer
      have hrest := List.append_cancel_left hoffer
      exact absurd (List.cons.inj hrest).1.symm (hchange g g' hg)
  · intro hbefore
    exact offer_taken hbefore hh

/-- Only the first one that would take the message changes. -/
theorem offer_map {K : Type*} [DecidableEq K] (handle : H → Option H) (state : K → H)
    {keys : List K} (hkeys : keys.Nodup) :
    offer handle (keys.map state) =
      keys.map fun k =>
        if keys.find? (fun k => (handle (state k)).isSome) = some k then
          (handle (state k)).getD (state k)
        else state k := by
  induction keys with
  | nil => rfl
  | cons first rest ih =>
    obtain ⟨hnew, hrest⟩ := List.nodup_cons.mp hkeys
    rw [List.map_cons, List.map_cons, offer, List.find?_cons]
    cases hhandle : handle (state first) with
    | some taken =>
      simp only [Option.isSome_some, if_pos, Option.getD_some]
      congr 1
      apply List.map_congr_left
      intro k hk
      have hne : some first ≠ some k := fun heq => hnew (Option.some.inj heq ▸ hk)
      rw [if_neg hne]
    | none =>
      have hne : rest.find? (fun k => (handle (state k)).isSome) ≠ some first :=
        fun heq => hnew (List.mem_of_find?_eq_some heq)
      simp only [Option.isSome_none, if_neg hne]
      exact congrArg _ (ih hrest)

end Foundation
