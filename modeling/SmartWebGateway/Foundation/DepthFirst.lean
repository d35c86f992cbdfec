import Mathlib.Logic.Relation
import Mathlib.Tactic

/-!
# Depth-first emission

A walk emits what a node holds and then walks on from each of its successors.
Nothing is remembered of the nodes seen before, so the walk may come to a node
more than once, and on a cycle it never ends; `fuel` bounds its depth.
-/
namespace Foundation

variable {α β : Type*} {next : α → List α} {emit : α → List β}

/-- What was emitted so far, and then what the walk from a node emits. -/
def walk (next : α → List α) (emit : α → List β) : ℕ → α → List β → Option (List β)
  | 0, _, _ => none
  | fuel + 1, a, acc =>
    (next a).foldlM (fun acc b => walk next emit fuel b acc) (acc ++ emit a)

/-- A node that the walk from another node comes to. -/
abbrev Visits (next : α → List α) : α → α → Prop := Relation.ReflTransGen fun a b => b ∈ next a

theorem foldlM_appends {f : List β → α → Option (List β)} {P : α → β → Prop}
    (hf : ∀ a acc result, f acc a = some result →
      ∃ added, result = acc ++ added ∧ ∀ x, x ∈ added ↔ P a x)
    {as : List α} {acc result : List β} (h : as.foldlM f acc = some result) :
    ∃ added, result = acc ++ added ∧ ∀ x, x ∈ added ↔ ∃ a ∈ as, P a x := by
  induction as generalizing acc with
  | nil =>
    obtain rfl : acc = result := by simpa using h
    exact ⟨[], by simp⟩
  | cons a as ih =>
    rw [List.foldlM_cons] at h
    obtain ⟨middle, hmiddle, hrest⟩ := Option.bind_eq_some_iff.mp h
    obtain ⟨first, rfl, hfirst⟩ := hf a acc middle hmiddle
    obtain ⟨rest, rfl, hmem⟩ := ih hrest
    refine ⟨first ++ rest, List.append_assoc _ _ _, ?_⟩
    intro x
    rw [List.mem_append, hfirst, hmem, List.exists_mem_cons_iff]

/-- A walk that ends has emitted exactly what the visited nodes hold. -/
theorem mem_walk {fuel : ℕ} {a : α} {acc result : List β}
    (h : walk next emit fuel a acc = some result) :
    ∃ added, result = acc ++ added ∧ ∀ x, x ∈ added ↔ ∃ b, Visits next a b ∧ x ∈ emit b := by
  induction fuel generalizing a acc result with
  | zero => exact absurd h (by simp [walk])
  | succ fuel ih =>
    rw [walk] at h
    obtain ⟨added, rfl, hadded⟩ := foldlM_appends (fun b acc result hb => ih hb) h
    refine ⟨emit a ++ added, List.append_assoc _ _ _, ?_⟩
    intro x
    rw [List.mem_append, hadded]
    constructor
    · rintro (hx | ⟨b, hb, c, hc, hx⟩)
      · exact ⟨a, .refl, hx⟩
      · exact ⟨c, .head hb hc, hx⟩
    · rintro ⟨c, hc, hx⟩
      rcases Relation.ReflTransGen.cases_head hc with rfl | ⟨b, hb, hbc⟩
      · exact Or.inl hx
      · exact Or.inr ⟨b, hb, c, hbc, hx⟩

theorem foldlM_prepend {f : List β → α → Option (List β)}
    (hf : ∀ before acc a, f (before ++ acc) a = (f acc a).map (before ++ ·)) (as : List α)
    (before acc : List β) :
    as.foldlM f (before ++ acc) = (as.foldlM f acc).map (before ++ ·) := by
  induction as generalizing acc with
  | nil => rfl
  | cons a as ih =>
    rw [List.foldlM_cons, List.foldlM_cons, hf]
    cases f acc a with
    | none => rfl
    | some middle => exact ih middle

/-- A walk never looks at what was emitted before it. -/
theorem walk_prepend (fuel : ℕ) (a : α) (before acc : List β) :
    walk next emit fuel a (before ++ acc) = (walk next emit fuel a acc).map (before ++ ·) := by
  induction fuel generalizing a before acc with
  | zero => rfl
  | succ fuel ih =>
    rw [walk, walk, List.append_assoc]
    exact foldlM_prepend (fun before acc b => ih b before acc) (next a) before (acc ++ emit a)

/-! ## What a walk emits on its own -/

/-- What the walk from a node emits, if it ends. -/
def Emits (next : α → List α) (emit : α → List β) (a : α) (added : List β) : Prop :=
  ∃ fuel, walk next emit fuel a [] = some added

section Lists

variable {γ : Type*} {R : α → γ → Prop} {as : List α} {bs : List γ}

theorem exists_of_mem_right (h : List.Forall₂ R as bs) {b : γ} (hb : b ∈ bs) :
    ∃ a ∈ as, R a b := by
  induction h with
  | nil => exact absurd hb List.not_mem_nil
  | cons hab _ ih =>
    rcases List.mem_cons.mp hb with rfl | hb
    · exact ⟨_, List.mem_cons_self, hab⟩
    · obtain ⟨a, ha, hR⟩ := ih hb
      exact ⟨a, List.mem_cons_of_mem _ ha, hR⟩

theorem exists_of_mem_left (h : List.Forall₂ R as bs) {a : α} (ha : a ∈ as) : ∃ b ∈ bs, R a b := by
  obtain ⟨b, hb, hR⟩ := exists_of_mem_right h.flip ha
  exact ⟨b, hb, hR⟩

theorem exists_forall₂ (h : ∀ a ∈ as, ∃ b, R a b) : ∃ bs, List.Forall₂ R as bs := by
  induction as with
  | nil => exact ⟨[], .nil⟩
  | cons a as ih =>
    obtain ⟨b, hb⟩ := h a List.mem_cons_self
    obtain ⟨bs, hbs⟩ := ih fun a' ha' => h a' (List.mem_cons_of_mem a ha')
    exact ⟨b :: bs, .cons hb hbs⟩

end Lists

theorem foldlM_eq_some_iff {f : List β → α → Option (List β)} {part : α → Option (List β)}
    (hf : ∀ acc a, f acc a = (part a).map (acc ++ ·)) {as : List α} {acc result : List β} :
    as.foldlM f acc = some result ↔
      ∃ parts, List.Forall₂ (fun a added => part a = some added) as parts ∧
        result = acc ++ parts.flatten := by
  induction as generalizing acc with
  | nil =>
    constructor
    · intro h
      obtain rfl : acc = result := by simpa using h
      exact ⟨[], .nil, by simp⟩
    · rintro ⟨parts, hparts, rfl⟩
      cases hparts
      simp
  | cons a as ih =>
    rw [List.foldlM_cons, hf]
    constructor
    · intro h
      obtain ⟨middle, hmiddle, hrest⟩ := Option.bind_eq_some_iff.mp h
      obtain ⟨added, hadded, rfl⟩ := Option.map_eq_some_iff.mp hmiddle
      obtain ⟨parts, hparts, rfl⟩ := ih.mp hrest
      exact ⟨added :: parts, .cons hadded hparts, by simp⟩
    · rintro ⟨_, hparts, rfl⟩
      cases hparts with
      | @cons _ added _ parts hadded hparts =>
        rw [hadded, Option.map_some, Option.bind_eq_bind, Option.bind_some]
        exact ih.mpr ⟨parts, hparts, by simp⟩

theorem walk_eq_map (fuel : ℕ) (a : α) (acc : List β) :
    walk next emit fuel a acc = (walk next emit fuel a []).map (acc ++ ·) := by
  simpa using @walk_prepend _ _ next emit fuel a acc []

theorem walk_succ_iff {fuel : ℕ} {a : α} {added : List β} :
    walk next emit (fuel + 1) a [] = some added ↔
      ∃ parts, List.Forall₂ (fun b part => walk next emit fuel b [] = some part) (next a) parts ∧
        added = emit a ++ parts.flatten := by
  rw [walk, List.nil_append]
  exact foldlM_eq_some_iff fun acc b => walk_eq_map fuel b acc

theorem walk_mono {fuel fuel' : ℕ} (hle : fuel ≤ fuel') {a : α} {added : List β}
    (h : walk next emit fuel a [] = some added) : walk next emit fuel' a [] = some added := by
  induction fuel generalizing fuel' a added with
  | zero => exact absurd h (by simp [walk])
  | succ fuel ih =>
    obtain ⟨larger, rfl⟩ : ∃ larger, fuel' = larger + 1 := ⟨fuel' - 1, by omega⟩
    obtain ⟨parts, hparts, rfl⟩ := walk_succ_iff.mp h
    exact walk_succ_iff.mpr ⟨parts, hparts.imp fun b part hpart => ih (by omega) hpart, rfl⟩

theorem Emits.unique {a : α} {added added' : List β} (h : Emits next emit a added)
    (h' : Emits next emit a added') : added = added' := by
  obtain ⟨fuel, hfuel⟩ := h
  obtain ⟨fuel', hfuel'⟩ := h'
  have hmax := walk_mono (Nat.le_max_left fuel fuel') hfuel
  rw [walk_mono (Nat.le_max_right fuel fuel') hfuel'] at hmax
  exact (Option.some.inj hmax).symm

theorem exists_common_fuel {as : List α} {parts : List (List β)}
    (h : List.Forall₂ (Emits next emit) as parts) :
    ∃ fuel, List.Forall₂ (fun b part => walk next emit fuel b [] = some part) as parts := by
  induction h with
  | nil => exact ⟨0, .nil⟩
  | cons hpart _ ih =>
    obtain ⟨fuel, hfuel⟩ := hpart
    obtain ⟨fuel', hfuel'⟩ := ih
    exact ⟨max fuel fuel', .cons (walk_mono (Nat.le_max_left _ _) hfuel)
      (hfuel'.imp fun b part hb => walk_mono (Nat.le_max_right _ _) hb)⟩

theorem emits_iff {a : α} {added : List β} :
    Emits next emit a added ↔
      ∃ parts, List.Forall₂ (Emits next emit) (next a) parts ∧
        added = emit a ++ parts.flatten := by
  constructor
  · rintro ⟨fuel, hfuel⟩
    cases fuel with
    | zero => exact absurd hfuel (by simp [walk])
    | succ fuel =>
      obtain ⟨parts, hparts, hadded⟩ := walk_succ_iff.mp hfuel
      exact ⟨parts, hparts.imp fun b part hpart => ⟨fuel, hpart⟩, hadded⟩
  · rintro ⟨parts, hparts, hadded⟩
    obtain ⟨fuel, hfuel⟩ := exists_common_fuel hparts
    exact ⟨fuel + 1, walk_succ_iff.mpr ⟨parts, hfuel, hadded⟩⟩

theorem emits_iff_of_forall {L : α → List β} {a : α} (h : ∀ b ∈ next a, Emits next emit b (L b))
    {added : List β} : Emits next emit a added ↔ added = emit a ++ (next a).flatMap L := by
  have hparts : ∀ as : List α, (∀ b ∈ as, Emits next emit b (L b)) → ∀ parts,
      List.Forall₂ (Emits next emit) as parts ↔ parts = as.map L := by
    intro as has parts
    constructor
    · intro hparts
      induction hparts with
      | nil => rfl
      | cons hpart _ ih =>
        rw [hpart.unique (has _ List.mem_cons_self),
          ih fun b hb => has b (List.mem_cons_of_mem _ hb), List.map_cons]
    · rintro rfl
      exact List.forall₂_map_right_iff.mpr (List.forall₂_same.mpr has)
  simp only [emits_iff, hparts _ h, exists_eq_left, List.flatMap_def]

theorem Emits.induction {P : α → List β → Prop}
    (step : ∀ a parts, List.Forall₂ (fun b part => Emits next emit b part ∧ P b part) (next a)
      parts → P a (emit a ++ parts.flatten))
    {a : α} {added : List β} (h : Emits next emit a added) : P a added := by
  obtain ⟨fuel, hfuel⟩ := h
  induction fuel generalizing a added with
  | zero => exact absurd hfuel (by simp [walk])
  | succ fuel ih =>
    obtain ⟨parts, hparts, rfl⟩ := walk_succ_iff.mp hfuel
    exact step a parts (hparts.imp fun b part hpart => ⟨⟨fuel, hpart⟩, ih hpart⟩)

theorem mem_of_emits {a : α} {added : List β} (h : Emits next emit a added) (x : β) :
    x ∈ added ↔ ∃ b, Visits next a b ∧ x ∈ emit b := by
  obtain ⟨fuel, hfuel⟩ := h
  obtain ⟨added', rfl, hadded⟩ := mem_walk hfuel
  exact hadded x

theorem Emits.congr {emit' : α → List β} {a : α} {added : List β}
    (h : Emits next emit a added) (hsame : ∀ b, Visits next a b → emit b = emit' b) :
    Emits next emit' a added := by
  revert hsame
  refine h.induction (P := fun a added => (∀ b, Visits next a b → emit b = emit' b) →
    Emits next emit' a added) ?_
  intro a parts hparts hsame
  rw [hsame a .refl]
  apply emits_iff.mpr
  refine ⟨parts, ?_, rfl⟩
  have hmem : ∀ b ∈ next a, ∀ c, Visits next b c → emit c = emit' c :=
    fun b hb c hc => hsame c (.head hb hc)
  generalize next a = as at hparts hmem
  induction hparts with
  | nil => exact .nil
  | cons hpart _ ih =>
    exact .cons (hpart.2 (hmem _ List.mem_cons_self))
      (ih fun b hb => hmem b (List.mem_cons_of_mem _ hb))

theorem Emits.map {γ : Type*} (f : β → γ) {a : α} {added : List β}
    (h : Emits next emit a added) : Emits next (fun b => (emit b).map f) a (added.map f) := by
  refine h.induction (P := fun a added => Emits next (fun b => (emit b).map f) a (added.map f)) ?_
  intro a parts hparts
  apply emits_iff.mpr
  exact ⟨parts.map (List.map f), List.forall₂_map_right_iff.mpr (hparts.imp fun b part h => h.2),
    by simp⟩

/-! ## When a walk ends -/

/-- A walk ends if it descends, and only then. -/
theorem exists_emits_iff_acc {a : α} :
    (∃ added, Emits next emit a added) ↔ Acc (fun b a => b ∈ next a) a := by
  constructor
  · rintro ⟨added, h⟩
    refine h.induction (P := fun a _ => Acc (fun b a => b ∈ next a) a) ?_
    intro a parts hparts
    constructor
    intro b hb
    obtain ⟨part, _, _, hacc⟩ := exists_of_mem_left hparts hb
    exact hacc
  · intro h
    induction h with
    | intro a _ ih =>
      obtain ⟨parts, hparts⟩ := exists_forall₂ ih
      exact ⟨_, emits_iff.mpr ⟨parts, hparts, rfl⟩⟩

/-- A node from which no cycle is come to. -/
def Acyclic (next : α → List α) (a : α) : Prop :=
  ∀ b, Visits next a b → ¬ Relation.TransGen (fun b c => c ∈ next b) b b

theorem not_acc_of_cycle {a : α} (h : Relation.TransGen (fun b c => c ∈ next b) a a) :
    ¬ Acc (fun b a => b ∈ next a) a := by
  intro hacc
  have htrans := hacc.transGen
  induction htrans with
  | intro a _ ih =>
    have hback : Relation.TransGen (fun b a => b ∈ next a) a a := Relation.transGen_swap.mp h
    exact ih a hback h (hacc.inv_of_transGen hback)

theorem finite_visits {nodes : List α} (hnext : ∀ a, ∀ b ∈ next a, b ∈ nodes) {a : α}
    (ha : a ∈ nodes) : {b | Visits next a b}.Finite := by
  apply nodes.finite_toSet.subset
  intro b hb
  cases hb with
  | refl => exact ha
  | tail _ hstep => exact hnext _ b hstep

/-- Among finitely many nodes a walk descends exactly when it comes to no cycle. -/
theorem acc_iff_acyclic {a : α} (hfinite : {b | Visits next a b}.Finite) :
    Acc (fun b a => b ∈ next a) a ↔ Acyclic next a := by
  constructor
  · intro hacc b hb
    have hb' : Acc (fun b a => b ∈ next a) b := by
      induction hb with
      | refl => exact hacc
      | tail _ hstep ih => exact ih.inv hstep
    exact fun hcycle => not_acc_of_cycle hcycle hb'
  · intro hacyclic
    have : Finite {b // Visits next a b} := hfinite
    let later : {b // Visits next a b} → {b // Visits next a b} → Prop := fun c b =>
      Relation.TransGen (fun b c => c ∈ next b) b.1 c.1
    have : IsTrans _ later := ⟨fun _ _ _ hcb hdc => hdc.trans hcb⟩
    have : Std.Irrefl later := ⟨fun b hcycle => hacyclic b.1 b.2 hcycle⟩
    have hall : ∀ b : {b // Visits next a b}, Acc (fun b a => b ∈ next a) b.1 := by
      intro b
      induction b using (Finite.wellFounded_of_trans_of_irrefl later).induction with
      | _ b ih =>
        constructor
        intro c hc
        exact ih ⟨c, b.2.tail hc⟩ (.single hc)
    exact hall ⟨a, .refl⟩

end Foundation
