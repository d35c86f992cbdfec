import SmartWebGateway.Foundation.DepthFirst
import Mathlib.Tactic

/-!
# Walks and paths

A walk comes to a node once for each path that leads to it. Nothing is emitted
twice exactly when the ends of two different paths never hold the same.
-/
namespace Foundation

variable {α β : Type*} {next : α → List α} {emit : α → List β} {a : α} {added : List β}

/-- The node at the end of a path, which says at which position each step goes on. -/
def follow (next : α → List α) : α → List ℕ → Option α
  | a, [] => some a
  | a, i :: path => (next a)[i]?.bind fun b => follow next b path

theorem follow_cons_iff {i : ℕ} {path : List ℕ} {c : α} :
    follow next a (i :: path) = some c ↔
      ∃ b, (next a)[i]? = some b ∧ follow next b path = some c :=
  Option.bind_eq_some_iff

theorem visits_iff_follow {b : α} : Visits next a b ↔ ∃ path, follow next a path = some b := by
  constructor
  · intro h
    induction h using Relation.ReflTransGen.head_induction_on with
    | refl => exact ⟨[], rfl⟩
    | head hstep _ ih =>
      obtain ⟨path, hpath⟩ := ih
      obtain ⟨i, hi⟩ := List.mem_iff_getElem?.mp hstep
      exact ⟨i :: path, follow_cons_iff.mpr ⟨_, hi, hpath⟩⟩
  · rintro ⟨path, hpath⟩
    induction path generalizing a with
    | nil =>
      rw [follow, Option.some.injEq] at hpath
      rw [hpath]
    | cons i path ih =>
      obtain ⟨c, hc, hrest⟩ := follow_cons_iff.mp hpath
      exact .head (List.mem_of_getElem? hc) (ih hrest)

/-- What the ends of two different paths hold is never the same. -/
def PathsApart (next : α → List α) (emit : α → List β) (a : α) : Prop :=
  ∀ p q b c, follow next a p = some b → follow next a q = some c → p ≠ q →
    List.Disjoint (emit b) (emit c)

theorem PathsApart.of_getElem? (h : PathsApart next emit a) {i : ℕ} {b : α}
    (hb : (next a)[i]? = some b) : PathsApart next emit b := by
  intro p q c d hp hq hpq
  apply h (i :: p) (i :: q) c d (follow_cons_iff.mpr ⟨b, hb, hp⟩) (follow_cons_iff.mpr ⟨b, hb, hq⟩)
  simpa using hpq

theorem mem_emits_iff_follow (h : Emits next emit a added) (x : β) :
    x ∈ added ↔ ∃ path b, follow next a path = some b ∧ x ∈ emit b := by
  rw [mem_of_emits h]
  constructor
  · rintro ⟨b, hb, hx⟩
    obtain ⟨path, hpath⟩ := visits_iff_follow.mp hb
    exact ⟨path, b, hpath, hx⟩
  · rintro ⟨path, b, hpath, hx⟩
    exact ⟨b, visits_iff_follow.mpr ⟨path, hpath⟩, hx⟩

section Parts

variable {R : α → List β → Prop} {as : List α} {parts : List (List β)}

theorem getElem?_of_forall₂ (h : List.Forall₂ R as parts) {i : ℕ} {b : α} (hb : as[i]? = some b) :
    ∃ part, parts[i]? = some part ∧ R b part := by
  induction h generalizing i with
  | nil => simp at hb
  | cons hR _ ih =>
    cases i with
    | zero =>
      rw [List.getElem?_cons_zero, Option.some.injEq] at hb
      exact ⟨_, List.getElem?_cons_zero, hb ▸ hR⟩
    | succ i => simpa using ih (by simpa using hb)

theorem getElem?_of_forall₂_right (h : List.Forall₂ R as parts) {i : ℕ} {part : List β}
    (hpart : parts[i]? = some part) : ∃ b, as[i]? = some b ∧ R b part := by
  induction h generalizing i with
  | nil => simp at hpart
  | cons hR _ ih =>
    cases i with
    | zero =>
      rw [List.getElem?_cons_zero, Option.some.injEq] at hpart
      exact ⟨_, List.getElem?_cons_zero, hpart ▸ hR⟩
    | succ i => simpa using ih (by simpa using hpart)

theorem pairwise_disjoint_iff (h : List.Forall₂ (Emits next emit) (next a) parts) :
    parts.Pairwise List.Disjoint ↔ ∀ i j p q b c, i ≠ j → follow next a (i :: p) = some b →
      follow next a (j :: q) = some c → List.Disjoint (emit b) (emit c) := by
  rw [List.pairwise_iff_getElem]
  constructor
  · intro hpairwise i j p q b c hij hp hq x hb hc
    obtain ⟨bi, hbi, hp⟩ := follow_cons_iff.mp hp
    obtain ⟨cj, hcj, hq⟩ := follow_cons_iff.mp hq
    obtain ⟨part, hpart, hemits⟩ := getElem?_of_forall₂ h hbi
    obtain ⟨part', hpart', hemits'⟩ := getElem?_of_forall₂ h hcj
    have hx := (mem_emits_iff_follow hemits x).mpr ⟨p, b, hp, hb⟩
    have hx' := (mem_emits_iff_follow hemits' x).mpr ⟨q, c, hq, hc⟩
    obtain ⟨hi, rfl⟩ := List.getElem?_eq_some_iff.mp hpart
    obtain ⟨hj, rfl⟩ := List.getElem?_eq_some_iff.mp hpart'
    rcases Nat.lt_or_gt_of_ne hij with hlt | hgt
    · exact hpairwise i j hi hj hlt hx hx'
    · exact hpairwise j i hj hi hgt hx' hx
  · intro hapart i j hi hj hij x hx hx'
    obtain ⟨bi, hbi, hemits⟩ := getElem?_of_forall₂_right h (List.getElem?_eq_getElem hi)
    obtain ⟨cj, hcj, hemits'⟩ := getElem?_of_forall₂_right h (List.getElem?_eq_getElem hj)
    obtain ⟨p, b, hp, hb⟩ := (mem_emits_iff_follow hemits x).mp hx
    obtain ⟨q, c, hq, hc⟩ := (mem_emits_iff_follow hemits' x).mp hx'
    exact hapart i j p q b c hij.ne (follow_cons_iff.mpr ⟨bi, hbi, hp⟩)
      (follow_cons_iff.mpr ⟨cj, hcj, hq⟩) hb hc

theorem disjoint_flatten_iff (h : List.Forall₂ (Emits next emit) (next a) parts) :
    List.Disjoint (emit a) parts.flatten ↔
      ∀ i p b, follow next a (i :: p) = some b → List.Disjoint (emit a) (emit b) := by
  constructor
  · intro hdisjoint i p b hp x hx hb
    obtain ⟨c, hc, hp⟩ := follow_cons_iff.mp hp
    obtain ⟨part, hpart, hemits⟩ := getElem?_of_forall₂ h hc
    exact hdisjoint hx (List.mem_flatten.mpr ⟨part, List.mem_of_getElem? hpart,
      (mem_emits_iff_follow hemits x).mpr ⟨p, b, hp, hb⟩⟩)
  · intro hapart x hx hx'
    obtain ⟨part, hpart, hxpart⟩ := List.mem_flatten.mp hx'
    obtain ⟨i, hi⟩ := List.mem_iff_getElem?.mp hpart
    obtain ⟨b, hb, hemits⟩ := getElem?_of_forall₂_right h hi
    obtain ⟨p, c, hp, hc⟩ := (mem_emits_iff_follow hemits x).mp hxpart
    exact hapart i p c (follow_cons_iff.mpr ⟨b, hb, hp⟩) hx hc

end Parts

theorem pathsApart_iff : PathsApart next emit a ↔
    (∀ (i : ℕ) b, (next a)[i]? = some b → PathsApart next emit b) ∧
    (∀ i j p q b c, i ≠ j → follow next a (i :: p) = some b → follow next a (j :: q) = some c →
      List.Disjoint (emit b) (emit c)) ∧
    ∀ i p b, follow next a (i :: p) = some b → List.Disjoint (emit a) (emit b) := by
  constructor
  · intro hapart
    refine ⟨fun i b hb => hapart.of_getElem? hb, ?_, ?_⟩
    · intro i j p q b c hij hp hq
      exact hapart (i :: p) (j :: q) b c hp hq (by simp [hij])
    · intro i p b hp
      exact hapart [] (i :: p) a b rfl hp (by simp)
  · rintro ⟨hbelow, hfirst, hroot⟩ p q b c hp hq hpq
    cases p with
    | nil =>
      obtain rfl : a = b := Option.some.inj hp
      cases q with
      | nil => exact absurd rfl hpq
      | cons j q => exact hroot j q c hq
    | cons i p =>
      cases q with
      | nil =>
        obtain rfl : a = c := Option.some.inj hq
        exact (hroot i p b hp).symm
      | cons j q =>
        by_cases hij : i = j
        · subst hij
          obtain ⟨d, hd, hp⟩ := follow_cons_iff.mp hp
          obtain ⟨d', hd', hq⟩ := follow_cons_iff.mp hq
          obtain rfl : d = d' := Option.some.inj (hd.symm.trans hd')
          exact hbelow i d hd p q b c hp hq (by simpa using hpq)
        · exact hfirst i j p q b c hij hp hq

/-- A walk repeats nothing exactly when no node does and all paths are apart. -/
theorem emits_nodup_iff (h : Emits next emit a added) :
    added.Nodup ↔ (∀ b, Visits next a b → (emit b).Nodup) ∧ PathsApart next emit a := by
  refine h.induction (P := fun a added => added.Nodup ↔
    (∀ b, Visits next a b → (emit b).Nodup) ∧ PathsApart next emit a) ?_
  intro a parts hparts
  have hemits : List.Forall₂ (Emits next emit) (next a) parts := hparts.imp fun _ _ h => h.1
  rw [List.nodup_append', List.nodup_flatten, pairwise_disjoint_iff hemits,
    disjoint_flatten_iff hemits, pathsApart_iff]
  constructor
  · rintro ⟨hown, ⟨hnodup, hpairwise⟩, hdisjoint⟩
    have hbelow : ∀ (i : ℕ) b, (next a)[i]? = some b →
        (∀ c, Visits next b c → (emit c).Nodup) ∧ PathsApart next emit b := by
      intro i b hb
      obtain ⟨part, hpart, _, hiff⟩ := getElem?_of_forall₂ hparts hb
      exact hiff.mp (hnodup part (List.mem_of_getElem? hpart))
    refine ⟨?_, fun i b hb => (hbelow i b hb).2, hpairwise, hdisjoint⟩
    intro b hb
    rcases Relation.ReflTransGen.cases_head hb with rfl | ⟨c, hc, hcb⟩
    · exact hown
    · obtain ⟨i, hi⟩ := List.mem_iff_getElem?.mp hc
      exact (hbelow i c hi).1 b hcb
  · rintro ⟨hnodup, hapart, hpairwise, hdisjoint⟩
    refine ⟨hnodup a .refl, ⟨?_, hpairwise⟩, hdisjoint⟩
    intro part hpart
    obtain ⟨i, hi⟩ := List.mem_iff_getElem?.mp hpart
    obtain ⟨b, hb, _, hiff⟩ := getElem?_of_forall₂_right hparts hi
    apply hiff.mpr
    exact ⟨fun c hc => hnodup c (.head (List.mem_of_getElem? hb) hc), hapart i b hb⟩

end Foundation
