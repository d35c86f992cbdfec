import SmartWebGateway.Poller.Ancestors
import Mathlib.Tactic

/-!
# Requests that come twice

The walk keeps no record of the classes it was at, so a class that two ways
lead to is polled for twice, and classes that have an input or an output of one
id are polled for it by the same request. These are the only repetitions.
-/
namespace SmartWebGateway

open Foundation

/-- Only one path leads to each class that has a member, and no two classes have an input, or an
output, of the same id. -/
structure TSmartWebClass.PolledOnce (classes : List TSmartWebClass) (cl : TSmartWebClass) :
    Prop where
  onePath : ∀ p q D, follow (TSmartWebClass.parents classes) cl p = some D →
    follow (TSmartWebClass.parents classes) cl q = some D →
    ∀ s, ∀ id ∈ (D.members s).keys, p = q
  apart : ∀ C D, Visits (TSmartWebClass.parents classes) cl C →
    Visits (TSmartWebClass.parents classes) cl D → C ≠ D → ∀ s, s ≠ .parameters →
    List.Disjoint (C.members s).keys (D.members s).keys

section Repetitions

variable {files : List (ClassObject × TDeviceClassSource)} {order : List TSmartWebClass}
  {C : TSmartWebClass}

theorem TSmartWebClass.payloads_nodup (cl : TSmartWebClass) : cl.payloads.Nodup := by
  rw [payloads, List.nodup_flatMap]
  constructor
  · intro s _
    refine List.Nodup.map_on ?_ Std.TreeMap.nodup_keys
    intro id _ id' _ h
    exact (TSmartWebClass.payload_inj h).2.1
  · have hdisjoint : ∀ s s', s ≠ s' → List.Disjoint ((cl.members s).keys.map (cl.payload s))
        ((cl.members s').keys.map (cl.payload s')) := by
      intro s s' hne payload hs hs'
      obtain ⟨id, _, rfl⟩ := List.mem_map.mp hs
      obtain ⟨id', _, hid'⟩ := List.mem_map.mp hs'
      exact hne (payload_inj hid').1.symm
    have hsections : List.Pairwise (· ≠ ·) [Section.inputs, .outputs, .parameters] := by decide
    exact hsections.imp fun {s s'} hne => hdisjoint s s' hne

/-- The paths through a table are apart exactly when nothing is polled twice. -/
theorem pathsApart_payloads_iff (h : IteratesOver files order) (hC : C ∈ order) :
    PathsApart (TSmartWebClass.parents order) TSmartWebClass.payloads C ↔ C.PolledOnce order := by
  constructor
  · intro hapart
    constructor
    · intro p q D hp hq s id hid
      by_contra hpq
      have hmem := TSmartWebClass.mem_payloads.mpr ⟨s, id, hid, rfl⟩
      exact hapart p q D D hp hq hpq hmem hmem
    · intro D D' hD hD' hne s hs id hid hid'
      obtain ⟨p, hp⟩ := visits_iff_follow.mp hD
      obtain ⟨q, hq⟩ := visits_iff_follow.mp hD'
      have hpq : p ≠ q := by
        rintro rfl
        exact hne (Option.some.inj (hp.symm.trans hq))
      have hsame : D.payload s id = D'.payload s id := by
        cases s with
        | inputs => rfl
        | outputs => rfl
        | parameters => exact absurd rfl hs
      exact hapart p q D D' hp hq hpq (TSmartWebClass.mem_payloads.mpr ⟨s, id, hid, rfl⟩)
        (TSmartWebClass.mem_payloads.mpr ⟨s, id, hid', hsame⟩)
  · intro honce p q D D' hp hq hpq payload hmem hmem'
    obtain ⟨s, id, hid, rfl⟩ := TSmartWebClass.mem_payloads.mp hmem
    obtain ⟨s', id', hid', heq⟩ := TSmartWebClass.mem_payloads.mp hmem'
    obtain ⟨rfl, rfl, htype⟩ := TSmartWebClass.payload_inj heq
    have hD := visits_iff_follow.mpr ⟨p, hp⟩
    have hD' := visits_iff_follow.mpr ⟨q, hq⟩
    by_cases hsame : D = D'
    · subst hsame
      exact hpq (honce.onePath p q D hp hq s id hid)
    · by_cases hs : s = .parameters
      · exact hsame (h.eq_of_type_eq (mem_of_visits hC hD') (mem_of_visits hC hD) (htype hs))
      · exact honce.apart D D' hD hD' hsame s hs hid hid'

/-- Requests of a walk that send the same are the same. -/
theorem payload_injOn_emits (h : IteratesOver files order) (hC : C ∈ order) {programId : Byte}
    {added : List TFrame} (hadded : Emits (TSmartWebClass.parents order)
      (fun D => addOwnRequests programId D []) C added) :
    ∀ f ∈ added, ∀ g ∈ added, f.payload = g.payload → f = g := by
  intro f hf g hg hpayload
  obtain ⟨D, hD, hf⟩ := (mem_of_emits hadded f).mp hf
  obtain ⟨D', hD', hg⟩ := (mem_of_emits hadded g).mp hg
  exact h.request_ext (mem_of_visits hC hD) (mem_of_visits hC hD') hf hg hpayload

theorem emits_payloads (h : IteratesOver files order) (hC : C ∈ order) {programId : Byte}
    {added : List TFrame} (hadded : Emits (TSmartWebClass.parents order)
      (fun D => addOwnRequests programId D []) C added) :
    Emits (TSmartWebClass.parents order) TSmartWebClass.payloads C
      (added.map TFrame.payload) := by
  apply (hadded.map TFrame.payload).congr
  intro D hD
  exact map_payload_addOwnRequests (h.keys_le (mem_of_visits hC hD))

/-- For a class of a table from which no cycle is come to, `AddRequests` returns, and what it
appends has no two equal frames exactly when each class with a member is come to on one path only
and no two classes share the id of an input or of an output. -/
theorem added_nodup_iff (h : IteratesOver files order) (hC : C ∈ order)
    (hacyclic : Acyclic (TSmartWebClass.parents order) C) (programId : Byte)
    (requests : List TFrame) :
    ∃ fuel added, addRequests order programId fuel C requests = some (requests ++ added) ∧
      (added.Nodup ↔ C.PolledOnce order) := by
  obtain ⟨added, hadded⟩ := (exists_emits_iff_acyclic hC programId).mpr hacyclic
  obtain ⟨fuel, hfuel⟩ := addRequests_eq_some_iff.mpr ⟨added, hadded, rfl⟩
  refine ⟨fuel, added, hfuel, ?_⟩
  have hinj := payload_injOn_emits h hC hadded
  have hsent : added.Nodup ↔ (added.map TFrame.payload).Nodup :=
    ⟨fun hnodup => hnodup.map_on hinj, List.Nodup.of_map _⟩
  rw [hsent, emits_nodup_iff (emits_payloads h hC hadded), ← pathsApart_payloads_iff h hC]
  exact and_iff_right fun D _ => D.payloads_nodup

end Repetitions

/-! The heating circuit and the circuit have inputs of different ids. -/

theorem added_nodup_circuit :
    ∃ fuel added, addRequests circuitGateway.order 7 fuel heatingCircuitClass [] = some added ∧
      (added.Nodup ↔ heatingCircuitClass.PolledOnce circuitGateway.order) :=
  added_nodup_iff circuitOrder_iterates List.mem_cons_self circuit_acyclic 7 []

/-! The built-in heating circuit implements the consumer itself and, again, through the circuit. -/

def consumer : ClassObject where
  className := "CONSUMER"
  programType := 3
  implements := ["PROGRAM"]
  inputs := some []
  outputs := some []
  parameters := some [("priority", .ofByte 1 (some "number") (some "ubyte"))]

def consumingCircuit : ClassObject where
  className := "CIRCUIT"
  programType := 12
  implements := ["PROGRAM", "CONSUMER"]
  inputs := some []
  outputs := some []
  parameters := none

def consumingHeatingCircuit : ClassObject where
  className := "HEATING_CIRCUIT"
  programType := 14
  implements := ["PROGRAM", "CONSUMER", "CIRCUIT"]
  inputs := none
  outputs := none
  parameters := none

def consumerClass : TSmartWebClass := .ofObject 0 consumer .builtin
def consumingCircuitClass : TSmartWebClass := .ofObject 1 consumingCircuit .builtin
def consumingHeatingCircuitClass : TSmartWebClass := .ofObject 2 consumingHeatingCircuit .builtin

def consumerOrder : List TSmartWebClass :=
  [consumingHeatingCircuitClass, consumingCircuitClass, consumerClass]

/-- The consumer's priority is asked for twice. -/
theorem priority_polled_twice :
    IteratesOver [(consumer, .builtin), (consumingCircuit, .builtin),
        (consumingHeatingCircuit, .builtin)] consumerOrder ∧
      Acyclic (TSmartWebClass.parents consumerOrder) consumingHeatingCircuitClass ∧
      ∃ added, addRequests consumerOrder 7 3 consumingHeatingCircuitClass [] = some added ∧
        added.map TFrame.payload = [[3, 1], [3, 1]] ∧ ¬ added.Nodup := by
  have hadded : addRequests consumerOrder 7 3 consumingHeatingCircuitClass [] =
      some [requestFrame 7 2 3 1 0, requestFrame 7 2 3 1 0] := by decide +kernel
  have hmem : consumingHeatingCircuitClass ∈ consumerOrder := List.mem_cons_self
  exact ⟨List.Perm.refl _, acyclic_of_addRequests hmem hadded, _, hadded, rfl, by simp⟩

end SmartWebGateway
