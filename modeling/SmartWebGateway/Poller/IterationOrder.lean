import SmartWebGateway.Poller.Repetitions
import Mathlib.Tactic

/-!
# Polling and the order of the table

The table is keyed by type and searched by name, and the order in which it is
iterated over is not specified. If classes of one name are in it, the order
decides which of them is gone on with. What is polled is then the same only if
all of them list the same.
-/
namespace SmartWebGateway

open Foundation

/-- What a class lists, its own members first and then those of the classes that it implements,
for one order of the table. -/
def TSmartWebClass.Lists (order : List TSmartWebClass) (cl : TSmartWebClass)
    (payloads : List (List ℕ)) : Prop :=
  Emits (TSmartWebClass.parents order) TSmartWebClass.payloads cl payloads

/-- The classes that bear a name which a class implements, in whatever order. -/
def TSmartWebClass.namesakes (classes : List TSmartWebClass) (cl : TSmartWebClass) :
    List TSmartWebClass :=
  classes.filter fun D => D.name ∈ cl.parentClasses

/-- The implements relation of a table has no cycle. -/
def ImplementsAcyclic (classes : List TSmartWebClass) : Prop :=
  ∀ cl ∈ classes, Acyclic (TSmartWebClass.namesakes classes) cl

/-- `AddRequests` appends the same frames under all orders of the table. -/
def PolledAlike (files : List (ClassObject × TDeviceClassSource)) : Prop :=
  ∀ order order', IteratesOver files order → IteratesOver files order' → ∀ cl ∈ order,
    ∀ programId requests, ∃ fuel fuel' result,
      addRequests order programId fuel cl requests = some result ∧
      addRequests order' programId fuel' cl requests = some result

/-- Classes of one name that some class implements list the same. -/
def NamesakesAgree (order : List TSmartWebClass) : Prop :=
  ∀ cl ∈ order, ∀ name ∈ cl.parentClasses, ∀ D ∈ order, ∀ D' ∈ order, D.name = name →
    D'.name = name → ∃ payloads, D.Lists order payloads ∧ D'.Lists order payloads

section Lists

variable {γ β : Type*}

theorem length_flatMap_eq [DecidableEq γ] {g g' : γ → List β} {names : List γ} {c : γ}
    (hoff : ∀ d ∈ names, d ≠ c → g d = g' d) :
    (names.flatMap g).length + names.count c * (g' c).length =
      (names.flatMap g').length + names.count c * (g c).length := by
  induction names with
  | nil => simp
  | cons d names ih =>
    have htail := ih fun e he => hoff e (List.mem_cons_of_mem d he)
    rw [List.flatMap_cons, List.flatMap_cons, List.length_append, List.length_append]
    by_cases hd : d = c
    · rw [hd, List.count_cons_self]
      linarith
    · rw [List.count_cons_of_ne hd, hoff d List.mem_cons_self hd]
      linarith

theorem eq_of_flatMap_eq {g g' : γ → List β} {names : List γ} {c : γ} (hc : c ∈ names)
    (hoff : ∀ d ∈ names, d ≠ c → g d = g' d) (h : names.flatMap g = names.flatMap g') :
    g c = g' c := by
  classical
  have hlength : (g c).length = (g' c).length := by
    have hlengths := length_flatMap_eq hoff
    rw [h, Nat.add_left_cancel_iff] at hlengths
    exact (Nat.eq_of_mul_eq_mul_left (List.count_pos_iff.mpr hc) hlengths).symm
  induction names with
  | nil => exact absurd hc List.not_mem_nil
  | cons d names ih =>
    rw [List.flatMap_cons, List.flatMap_cons] at h
    by_cases hd : d = c
    · subst hd
      exact (List.append_inj h hlength).1
    · rw [hoff d List.mem_cons_self hd, List.append_cancel_left_eq] at h
      exact ih (List.mem_of_ne_of_mem (Ne.symm hd) hc)
        (fun e he => hoff e (List.mem_cons_of_mem d he)) h

theorem flatMap_filterMap (f : γ → Option TSmartWebClass) (L : TSmartWebClass → List β)
    (names : List γ) :
    (names.filterMap f).flatMap L = names.flatMap fun c => (f c).elim [] L := by
  induction names with
  | nil => rfl
  | cons c names ih =>
    cases hc : f c with
    | none => simp [hc, ih]
    | some D => simp [hc, ih]

theorem eq_of_map_eq {f : γ → β} {as bs : List γ} (hinj : ∀ a ∈ as, ∀ b ∈ bs, f a = f b → a = b)
    (h : as.map f = bs.map f) : as = bs := by
  induction as generalizing bs with
  | nil => exact (List.map_eq_nil_iff.mp h.symm).symm
  | cons a as ih =>
    cases bs with
    | nil => cases h
    | cons b bs =>
      obtain ⟨hhead, htail⟩ := List.cons.inj h
      rw [hinj a List.mem_cons_self b List.mem_cons_self hhead,
        ih (fun c hc d hd => hinj c (List.mem_cons_of_mem a hc) d (List.mem_cons_of_mem b hd))
          htail]

end Lists

section Orders

variable {files : List (ClassObject × TDeviceClassSource)} {order order' : List TSmartWebClass}
  {C D : TSmartWebClass} {L : TSmartWebClass → List (List ℕ)}

theorem mem_namesakes :
    D ∈ C.namesakes order ↔ D ∈ order ∧ D.name ∈ C.parentClasses := by
  simp [TSmartWebClass.namesakes]

theorem IteratesOver.mem_iff (h : IteratesOver files order) (h' : IteratesOver files order') :
    D ∈ order ↔ D ∈ order' :=
  (h.trans h'.symm).mem_iff

/-- A walk under any order descends in the implements relation. -/
theorem acc_parents (h : IteratesOver files order) (h' : IteratesOver files order')
    (hacyclic : ImplementsAcyclic order) (hC : C ∈ order) :
    Acc (fun b a => b ∈ TSmartWebClass.parents order' a) C := by
  have hacc : Acc (fun b a => b ∈ TSmartWebClass.namesakes order a) C :=
    (acc_iff_acyclic (finite_visits (fun _ _ hb => (mem_namesakes.mp hb).1) hC)).mpr
      (hacyclic C hC)
  apply Subrelation.accessible _ hacc
  intro b a hb
  obtain ⟨hmem, hname⟩ := of_mem_parents hb
  exact mem_namesakes.mpr ⟨(h.mem_iff h').mpr hmem, hname⟩

theorem findClass_eq_none_iff {name : String} :
    findClass order name = none ↔ ∀ D ∈ order, D.name ≠ name := by
  simp [findClass]

theorem of_findClass {name : String} (h : findClass order name = some D) :
    D ∈ order ∧ D.name = name :=
  ⟨List.mem_of_find?_eq_some h, by simpa using List.find?_some h⟩

theorem lists_iff (hL : ∀ D ∈ order', D.Lists order' (L D)) (payloads : List (List ℕ)) :
    C.Lists order' payloads ↔ payloads = C.payloads ++
      C.parentClasses.flatMap fun c => (findClass order' c).elim [] L := by
  rw [TSmartWebClass.Lists,
    emits_iff_of_forall (L := L) fun D hD => hL D (of_mem_parents hD).1,
    TSmartWebClass.parents, flatMap_filterMap]

/-- With namesakes that agree, what is listed under one order is listed under all. -/
theorem NamesakesAgree.lists (hagree : NamesakesAgree order) (h : IteratesOver files order)
    (h' : IteratesOver files order') (hacyclic : ImplementsAcyclic order)
    (hL : ∀ D ∈ order, D.Lists order (L D)) (hC : C ∈ order) : C.Lists order' (L C) := by
  have hacc := acc_parents h h' hacyclic hC
  induction hacc with
  | intro C _ ih =>
    have hbelow : ∀ D ∈ TSmartWebClass.parents order' C,
        Emits (TSmartWebClass.parents order') TSmartWebClass.payloads D (L D) := fun D hD =>
      ih D hD ((h.mem_iff h').mpr (of_mem_parents hD).1)
    rw [TSmartWebClass.Lists, emits_iff_of_forall hbelow, TSmartWebClass.parents,
      flatMap_filterMap, (lists_iff hL _).mp (hL C hC)]
    congr 1
    apply List.flatMap_congr
    intro c hc
    cases hfound : findClass order c with
    | none =>
      have hnone : findClass order' c = none := by
        rw [findClass_eq_none_iff] at hfound ⊢
        exact fun D hD => hfound D ((h.mem_iff h').mpr hD)
      rw [hnone]
    | some D =>
      obtain ⟨hD, hname⟩ := of_findClass hfound
      cases hfound' : findClass order' c with
      | none => exact absurd hname (findClass_eq_none_iff.mp hfound' D ((h.mem_iff h').mp hD))
      | some D' =>
        obtain ⟨hD', hname'⟩ := of_findClass hfound'
        have hmem := (h.mem_iff h').mpr hD'
        obtain ⟨payloads, hlists, hlists'⟩ := hagree C hC c hc D hD D' hmem hname hname'
        change L D = L D'
        rw [(hL D hD).unique hlists, (hL D' hmem).unique hlists']

/-- When all orders list the same, a class lists what the first of its name does, if the name is
implemented. -/
theorem lists_eq_of_first (h : IteratesOver files order) (hL : ∀ D ∈ order, D.Lists order (L D))
    (hall : ∀ order', IteratesOver files order' → ∀ D ∈ order, D.Lists order' (L D))
    (hC : C ∈ order) (hD : D ∈ order) (hname : D.name ∈ C.parentClasses) :
    L D = (findClass order D.name).elim [] L := by
  obtain ⟨before, after, rfl⟩ := List.append_of_mem hD
  have hfront : IteratesOver files (D :: (before ++ after)) := List.perm_middle.symm.trans h
  have hLfront : ∀ E ∈ D :: (before ++ after), E.Lists (D :: (before ++ after)) (L E) :=
    fun E hE => hall _ hfront E ((h.mem_iff hfront).mpr hE)
  have hlists := (lists_iff hL _).mp (hL C hC)
  rw [(lists_iff hLfront _).mp (hLfront C ((h.mem_iff hfront).mp hC)),
    List.append_cancel_left_eq] at hlists
  have hfirst := eq_of_flatMap_eq hname ?_ hlists
  · simpa [findClass] using hfirst
  · intro c _ hc
    have hskip : decide (D.name = c) = false := by simpa using Ne.symm hc
    simp [findClass, List.find?_append, hskip]

theorem ImplementsAcyclic.lists (hacyclic : ImplementsAcyclic order)
    (h : IteratesOver files order) (hC : C ∈ order) : ∃ payloads, C.Lists order payloads :=
  exists_emits_iff_acc.mpr (acc_parents h h hacyclic hC)

theorem namesakesAgree_of_nodup (h : IteratesOver files order)
    (hacyclic : ImplementsAcyclic order) (hnodup : (order.map fun D => D.name).Nodup) :
    NamesakesAgree order := by
  intro C _ name _ D hD D' hD' hname hname'
  obtain ⟨payloads, hlists⟩ := hacyclic.lists h hD
  have hsame : D = D' := List.inj_on_of_nodup_map hnodup hD hD' (hname.trans hname'.symm)
  exact ⟨payloads, hlists, hsame ▸ hlists⟩

theorem addRequests_unique {programId : Byte} {fuel fuel' : ℕ}
    {requests result result' : List TFrame}
    (h : addRequests order programId fuel C requests = some result)
    (h' : addRequests order programId fuel' C requests = some result') : result = result' := by
  obtain ⟨added, hadded, rfl⟩ := addRequests_eq_some_iff.mp ⟨fuel, h⟩
  obtain ⟨added', hadded', rfl⟩ := addRequests_eq_some_iff.mp ⟨fuel', h'⟩
  rw [hadded.unique hadded']

theorem added_eq_of_lists (h : IteratesOver files order) (h' : IteratesOver files order')
    (hC : C ∈ order) {payloads : List (List ℕ)} (hlists : C.Lists order payloads)
    (hlists' : C.Lists order' payloads) {programId : Byte} {added added' : List TFrame}
    (hadded : Emits (TSmartWebClass.parents order) (fun D => addOwnRequests programId D []) C added)
    (hadded' : Emits (TSmartWebClass.parents order') (fun D => addOwnRequests programId D []) C
      added') : added = added' := by
  have hC' := (h.mem_iff h').mp hC
  refine eq_of_map_eq (f := TFrame.payload) ?_ ?_
  · intro f hf g hg hpayload
    obtain ⟨D, hD, hf⟩ := (mem_of_emits hadded f).mp hf
    obtain ⟨D', hD', hg⟩ := (mem_of_emits hadded' g).mp hg
    exact h.request_ext (mem_of_visits hC hD) ((h.mem_iff h').mpr (mem_of_visits hC' hD')) hf hg
      hpayload
  · rw [(emits_payloads h hC hadded).unique hlists, (emits_payloads h' hC' hadded').unique hlists']

/-- What is polled does not depend on the order of a table without cycles exactly when classes of
one name that some class implements list the same. -/
theorem polledAlike_iff (h : IteratesOver files order) (hacyclic : ImplementsAcyclic order) :
    PolledAlike files ↔ NamesakesAgree order := by
  have hexists : ∀ D ∈ order, ∃ payloads, D.Lists order payloads := fun D hD =>
    hacyclic.lists h hD
  choose! L hL using hexists
  constructor
  · intro halike
    have hall : ∀ order', IteratesOver files order' → ∀ D ∈ order, D.Lists order' (L D) := by
      intro order' h' D hD
      obtain ⟨fuel, fuel', result, hresult, hresult'⟩ := halike order order' h h' D hD 0 []
      obtain ⟨added, hadded, heq⟩ := addRequests_eq_some_iff.mp ⟨fuel, hresult⟩
      obtain ⟨added', hadded', heq'⟩ := addRequests_eq_some_iff.mp ⟨fuel', hresult'⟩
      have hsame : added = added' := heq.symm.trans heq'
      rw [(hL D hD).unique (emits_payloads h hD hadded), hsame]
      exact emits_payloads h' ((h.mem_iff h').mp hD) hadded'
    intro C hC name hname D hD D' hD' hDname hDname'
    have hsame : L D = L D' := by
      rw [lists_eq_of_first h hL hall hC hD (hDname ▸ hname),
        lists_eq_of_first h hL hall hC hD' (hDname' ▸ hname), hDname, hDname']
    exact ⟨L D, hL D hD, hsame ▸ hL D' hD'⟩
  · intro hagree order₁ order₂ h₁ h₂ C hC programId requests
    have hC' := (h.mem_iff h₁).mpr hC
    obtain ⟨added, hadded⟩ := (@exists_emits_iff_acc _ _ _ (fun D => addOwnRequests programId D [])
      C).mpr (acc_parents h h₁ hacyclic hC')
    obtain ⟨added', hadded'⟩ := (@exists_emits_iff_acc _ _ _
      (fun D => addOwnRequests programId D []) C).mpr (acc_parents h h₂ hacyclic hC')
    obtain ⟨fuel, hfuel⟩ : ∃ fuel, addRequests order₁ programId fuel C requests =
      some (requests ++ added) := addRequests_eq_some_iff.mpr ⟨added, hadded, rfl⟩
    obtain ⟨fuel', hfuel'⟩ : ∃ fuel, addRequests order₂ programId fuel C requests =
      some (requests ++ added') := addRequests_eq_some_iff.mpr ⟨added', hadded', rfl⟩
    have hsame := added_eq_of_lists h₁ h₂ hC (hagree.lists h h₁ hacyclic hL hC')
      (hagree.lists h h₂ hacyclic hL hC') hadded hadded'
    exact ⟨fuel, fuel', requests ++ added, hfuel, hsame ▸ hfuel'⟩

end Orders

/-! The heating circuit and the circuit have different names. -/

theorem implementsAcyclic_of_leaves {order : List TSmartWebClass} (root : TSmartWebClass)
    (hleaves : ∀ D ∈ root.namesakes order, D.namesakes order = [])
    (hothers : ∀ C ∈ order, C = root ∨ C.namesakes order = []) : ImplementsAcyclic order := by
  have hleaf : ∀ D : TSmartWebClass, D.namesakes order = [] →
      Acc (fun b a => b ∈ TSmartWebClass.namesakes order a) D :=
    fun D hD => ⟨_, fun E hE => absurd (hD ▸ hE) List.not_mem_nil⟩
  intro C hC
  rw [← acc_iff_acyclic (finite_visits (fun _ _ hb => (mem_namesakes.mp hb).1) hC)]
  rcases hothers C hC with rfl | hnone
  · exact ⟨_, fun D hD => hleaf D (hleaves D hD)⟩
  · exact hleaf C hnone

theorem circuitOrder_implementsAcyclic : ImplementsAcyclic circuitGateway.order := by
  have hnone : circuitClass.namesakes circuitGateway.order = [] := rfl
  apply implementsAcyclic_of_leaves heatingCircuitClass
  · intro D hD
    rwa [List.mem_singleton.mp (show D ∈ [circuitClass] from hD)]
  · intro C hC
    rcases List.mem_cons.mp hC with rfl | hC
    · exact Or.inl rfl
    · exact Or.inr (by rwa [List.mem_singleton.mp hC])

theorem polledAlike_circuit : PolledAlike [(circuit, .user), (heatingCircuit, .user)] :=
  (polledAlike_iff circuitOrder_iterates circuitOrder_implementsAcyclic).mpr
    (namesakesAgree_of_nodup circuitOrder_iterates circuitOrder_implementsAcyclic (by decide))

/-! A user adds a second consumer, of another type, beside the built-in one. -/

def userConsumer : ClassObject where
  className := "CONSUMER"
  programType := 40
  implements := []
  inputs := none
  outputs := none
  parameters := none

def userConsumerClass : TSmartWebClass := .ofObject 2 userConsumer .user

def namesakeFiles : List (ClassObject × TDeviceClassSource) :=
  [(consumer, .builtin), (consumingCircuit, .builtin), (userConsumer, .user)]

def builtinFirst : List TSmartWebClass := [consumerClass, userConsumerClass, consumingCircuitClass]
def userFirst : List TSmartWebClass := [userConsumerClass, consumingCircuitClass, consumerClass]

theorem userFirst_iterates : IteratesOver namesakeFiles userFirst := List.Perm.refl _

theorem builtinFirst_iterates : IteratesOver namesakeFiles builtinFirst := by
  have hrotated : ([consumerClass] ++ [userConsumerClass, consumingCircuitClass]).Perm
      ([userConsumerClass, consumingCircuitClass] ++ [consumerClass]) := List.perm_append_comm
  exact hrotated.trans userFirst_iterates

/-- The circuit is polled for the priority or not, as the order of the table has it. -/
theorem namesakes_polled_differently :
    ImplementsAcyclic userFirst ∧ ¬ PolledAlike namesakeFiles := by
  constructor
  · apply implementsAcyclic_of_leaves consumingCircuitClass
    · intro D hD
      have hD : D ∈ [userConsumerClass, consumerClass] := hD
      rcases List.mem_cons.mp hD with rfl | hD
      · rfl
      · rw [List.mem_singleton.mp hD]
        rfl
    · intro C hC
      rcases List.mem_cons.mp hC with rfl | hC
      · exact Or.inr rfl
      rcases List.mem_cons.mp hC with rfl | hC
      · exact Or.inl rfl
      · exact Or.inr (by rw [List.mem_singleton.mp hC]; rfl)
  · intro halike
    obtain ⟨fuel, fuel', result, hresult, hresult'⟩ := halike userFirst builtinFirst
      userFirst_iterates builtinFirst_iterates consumingCircuitClass (by simp [userFirst]) 7 []
    have huser : addRequests userFirst 7 2 consumingCircuitClass [] = some [] := by decide +kernel
    have hbuiltin : addRequests builtinFirst 7 2 consumingCircuitClass [] =
        some [requestFrame 7 2 3 1 0] := by decide +kernel
    rw [addRequests_unique hresult huser] at hresult'
    exact absurd (addRequests_unique hresult' hbuiltin) (by simp)

end SmartWebGateway
