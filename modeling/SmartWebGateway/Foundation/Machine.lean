import Mathlib.Logic.Relation
import Mathlib.Tactic

/-!
# Machines of interleaved steps

Parties take labelled atomic steps in any order. A run leads from one state to
another, and may be confined to steps that meet a condition on the state they
are taken in and on their label.
-/
namespace Foundation

variable {S L : Type*} {Step : S → L → S → Prop} {C D : S → L → Prop} {s t u : S} {l : L}

/-- A run leads from one state to another by steps that all meet `C`. -/
def Leads (Step : S → L → S → Prop) (C : S → L → Prop) : S → S → Prop :=
  Relation.ReflTransGen fun s t => ∃ l, C s l ∧ Step s l t

def Anyhow : S → L → Prop := fun _ _ => True

namespace Leads

@[refl] theorem refl : Leads Step C s s := Relation.ReflTransGen.refl

theorem tail (h : Leads Step C s t) (hstep : Step t l u) (hC : C t l) : Leads Step C s u :=
  Relation.ReflTransGen.tail h ⟨l, hC, hstep⟩

theorem step (h : Leads Step Anyhow s t) (hstep : Step t l u) : Leads Step Anyhow s u :=
  h.tail hstep trivial

theorem trans (h : Leads Step C s t) (h' : Leads Step C t u) : Leads Step C s u :=
  Relation.ReflTransGen.trans h h'

theorem mono (h : Leads Step C s t) (hCD : ∀ s l, C s l → D s l) : Leads Step D s t := by
  induction h with
  | refl => exact .refl
  | tail _ hstep ih =>
    obtain ⟨l, hC, hstep⟩ := hstep
    exact ih.tail hstep (hCD _ l hC)

theorem anyhow (h : Leads Step C s t) : Leads Step Anyhow s t :=
  h.mono fun _ _ _ => trivial

theorem invariant {Inv : S → Prop} (h : Leads Step C s t)
    (hstep : ∀ s l t, Inv s → C s l → Step s l t → Inv t) (hs : Inv s) : Inv t := by
  induction h with
  | refl => exact hs
  | tail _ hlast ih =>
    obtain ⟨l, hC, hlast⟩ := hlast
    exact hstep _ l _ ih hC hlast

/-- A relation that is reflexive, transitive and contains every step relates both ends. -/
theorem relates {R : S → S → Prop} (h : Leads Step C s t) (hrefl : ∀ a, R a a)
    (htrans : ∀ a b c, R a b → R b c → R a c) (hstep : ∀ a l b, Step a l b → R a b) : R s t := by
  induction h with
  | refl => exact hrefl _
  | tail _ hlast ih =>
    obtain ⟨l, _, hlast⟩ := hlast
    exact htrans _ _ _ ih (hstep _ l _ hlast)

/-- A run of one machine is a run of another one that matches each step by a run of its own. -/
theorem simulate {S' L' : Type*} {Step' : S' → L' → S' → Prop} {D : S' → L' → Prop} {f : S → S'}
    (Inv : S → Prop) (h : Leads Step C s t) (hstep : ∀ s l t, Inv s → C s l → Step s l t → Inv t)
    (hmatch : ∀ s l t, Inv s → C s l → Step s l t → Leads Step' D (f s) (f t)) (hs : Inv s) :
    Leads Step' D (f s) (f t) := by
  induction h with
  | refl => exact .refl
  | tail hrun hlast ih =>
    obtain ⟨l, hC, hlast⟩ := hlast
    exact ih.trans (hmatch _ l _ (Leads.invariant hrun hstep hs) hC hlast)

/-- A run under one condition is a run under another one that follows where an invariant holds. -/
theorem confine (Inv : S → Prop) (h : Leads Step C s t)
    (hstep : ∀ s l t, Inv s → C s l → Step s l t → Inv t)
    (hD : ∀ s l t, Inv s → C s l → Step s l t → D s l) (hs : Inv s) : Leads Step D s t :=
  @simulate _ _ _ _ _ _ _ _ _ _ id Inv h hstep
    (fun _ l _ hs hC hlast => Leads.refl.tail hlast (hD _ l _ hs hC hlast)) hs

theorem of_foldlM {next : S → L → Option S}
    (hnext : ∀ s l t, next s l = some t → C s l ∧ Step s l t) {labels : List L}
    (h : labels.foldlM next s = some t) : Leads Step C s t := by
  induction labels generalizing s with
  | nil =>
    obtain rfl := Option.some.inj h
    rfl
  | cons l labels ih =>
    rw [List.foldlM_cons] at h
    obtain ⟨u, hu, hrest⟩ := Option.bind_eq_some_iff.mp h
    obtain ⟨hC, hstep⟩ := hnext s l u hu
    exact (Leads.refl.tail hstep hC).trans (ih hrest)

end Leads

/-- A machine together with what was observed of its steps so far, oldest first. -/
def Observing {O : Type*} (Step : S → L → S → Prop) (observe : S → L → Option O)
    (a : S × List O) (l : L) (b : S × List O) : Prop :=
  Step a.1 l b.1 ∧ b.2 = a.2 ++ (observe a.1 l).toList

section MutualExclusion

variable {P : Type*} {mutex : Option P} {inside inside' : P → Prop} {p p' : P}

/-- Whoever is inside a critical section holds the mutex. -/
def Guarded (mutex : Option P) (inside : P → Prop) : Prop := ∀ p, inside p → mutex = some p

theorem Guarded.eq (h : Guarded mutex inside) (hp : inside p) (hp' : inside p') : p = p' :=
  Option.some.inj ((h p hp).symm.trans (h p' hp'))

theorem Guarded.mono (h : Guarded mutex inside) (hinside : ∀ p, inside' p → inside p) :
    Guarded mutex inside' :=
  fun p hp => h p (hinside p hp)

theorem Guarded.acquire (h : Guarded none inside)
    (hinside : ∀ p', inside' p' → p' = p ∨ inside p') : Guarded (some p) inside' := by
  intro p' hp'
  rcases hinside p' hp' with rfl | hold
  · rfl
  · cases h p' hold

theorem Guarded.release (h : Guarded mutex inside) (hp : inside p)
    (hinside : ∀ p', inside' p' → p' ≠ p ∧ inside p') : Guarded none inside' := by
  intro p' hp'
  obtain ⟨hne, hold⟩ := hinside p' hp'
  exact absurd (h.eq hold hp) hne

end MutualExclusion

end Foundation
