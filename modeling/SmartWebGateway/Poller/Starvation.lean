import SmartWebGateway.Foundation.Endless
import SmartWebGateway.Poller.Polling
import Mathlib.Tactic

/-!
# No request is starved

Programs may be announced at any time, and each one puts its requests at the end
of the list, behind those that wait for their turn. But there are only so many
program ids: the list comes to rest, and the index goes round it forever.
-/
namespace SmartWebGateway

open Filter Foundation
open TSmartWebToMqttGateway

section Growth

variable {s t : PollingState} {label : PollingLabel}

def PollingState.programs (s : PollingState) : ℕ := s.gateway.knownPrograms.keys.length

theorem PollingState.programs_le (s : PollingState) : s.programs ≤ 2 ^ 8 := by
  have hnodup : (s.gateway.knownPrograms.keys.map BitVec.toFin).Nodup :=
    List.Nodup.map (fun a b h => BitVec.eq_of_toFin_eq h) s.gateway.knownPrograms.nodupKeys
  have hcard := hnodup.length_le_card
  rwa [List.length_map, Fintype.card_fin] at hcard

theorem PollingStep.grows (h : PollingStep s label t) :
    s.gateway.requests <+: t.gateway.requests ∧ s.programs ≤ t.programs ∧
      (t.programs = s.programs → t.gateway.requests = s.gateway.requests) := by
  cases h with
  | received hreceive =>
    rcases receive_cases hreceive with ⟨_, rfl⟩ | ⟨program, block, _, hnew, _, rfl⟩
    · exact ⟨List.prefix_rfl, le_rfl, fun _ => rfl⟩
    · have hone : ((s.gateway.knownPrograms.insert program.1 program.2).keys).length =
          s.gateway.knownPrograms.keys.length + 1 := by
        rw [AList.keys_insert, List.length_cons, List.erase_eq_self_iff.mpr hnew]
      refine ⟨List.prefix_append _ _, ?_, ?_⟩
      · exact (Nat.le_succ _).trans hone.ge
      · intro hsame
        exact absurd (hsame.symm.trans hone) (Nat.ne_of_lt (Nat.lt_succ_self _))
  | picked hphase =>
    unfold PollingState.programs
    rw [PollingState.pick_gateway]
    exact ⟨List.prefix_rfl, le_rfl, fun _ => rfl⟩
  | sent hphase => exact ⟨List.prefix_rfl, le_rfl, fun _ => rfl⟩

end Growth

/-- How many polls come before the one of a position, if the list stays as it is. -/
def PollingState.ahead (s : PollingState) (position : ℕ) : ℕ :=
  if s.requestIndex ≤ position then position - s.requestIndex
  else s.gateway.requests.length - s.requestIndex + position

/-- The request at a position is about to be handed to the port, and is. -/
def PollsAt (s : PollingState) (label : PollingLabel) (position : ℕ) : Prop :=
  (∃ success, label = .sent success) ∧ s.requestIndex = position

section Rotation

variable {s t : PollingState} {label : PollingLabel} {position : ℕ}

theorem PollingState.pick_requestIndex (s : PollingState) :
    s.pick.requestIndex = s.requestIndex ∨
      s.pick.requestIndex = 0 ∧ s.requestIndex = s.gateway.requests.length := by
  unfold PollingState.pick
  by_cases hempty : s.gateway.requests.isEmpty
  · exact Or.inl (by rw [if_pos hempty])
  rw [if_neg hempty]
  by_cases hend : s.requestIndex = s.gateway.requests.length
  · exact Or.inr ⟨if_pos hend, hend⟩
  · exact Or.inl (if_neg hend)

theorem PollingState.pick_sending (hdefined : s.pick.phase ≠ .undefined)
    (hne : s.gateway.requests ≠ []) : ∃ frame, s.pick.phase = .sending frame := by
  unfold PollingState.pick at hdefined ⊢
  rw [if_neg (by simpa using hne)] at hdefined ⊢
  dsimp only at hdefined ⊢
  split at hdefined
  next frame _ => exact ⟨frame, rfl⟩
  next => exact absurd rfl hdefined

/-- Each poll of another position brings the one of a position nearer, and no step puts it off
while the list stays as it is. -/
theorem PollingStep.ahead (h : PollingStep s label t) (hs : s.Rotates)
    (hsame : t.gateway.requests = s.gateway.requests)
    (hposition : position < s.gateway.requests.length) (hnot : ¬ PollsAt s label position) :
    t.ahead position ≤ s.ahead position ∧
      ((∃ success, label = .sent success) → t.ahead position < s.ahead position) := by
  cases h with
  | received hreceive =>
    refine ⟨?_, nofun⟩
    unfold PollingState.ahead
    dsimp only at hsame ⊢
    rw [hsame]
  | picked hphase =>
    refine ⟨?_, nofun⟩
    unfold PollingState.ahead
    rw [PollingState.pick_gateway]
    rcases s.pick_requestIndex with heq | ⟨hzero, hend⟩
    · rw [heq]
    · rw [hzero, hend]
      split_ifs <;> omega
  | @sent frame hphase success =>
    have hne : s.requestIndex ≠ position := fun heq => hnot ⟨⟨success, rfl⟩, heq⟩
    obtain ⟨hindex, _⟩ := List.getElem?_eq_some_iff.mp (hs.picked frame hphase)
    have hless : (s.sent frame).ahead position < s.ahead position := by
      unfold PollingState.ahead PollingState.sent
      dsimp only
      split_ifs <;> omega
    exact ⟨hless.le, fun _ => hless⟩

end Rotation

section Runs

variable {classes : AList fun _ : Byte => TSmartWebClass} {order : List TSmartWebClass}
  {orderPerm : order.Perm (classes.entries.map fun entry => entry.2)}

theorem sent_forever (run : Endless PollingStep) (hrotates : ∀ n, (run.state n).Rotates)
    (hcalled : ∃ᶠ n in atTop, run.label n = .picked)
    (hsome : ∀ᶠ n in atTop, (run.state n).gateway.requests ≠ []) :
    ∃ᶠ n in atTop, ∃ success, run.label n = .sent success := by
  apply @frequently_leave (fun n => ∃ frame, (run.state n).phase = .sending frame) _ _ hcalled
  · refine hsome.mono ?_
    intro n hne hlabel
    have hstep := run.step n
    have hdefined := (hrotates (n + 1)).defined
    rw [hlabel] at hstep
    generalize run.state (n + 1) = t at hstep hdefined
    cases hstep with
    | picked _ => exact PollingState.pick_sending hdefined hne
  · rintro n hlabel ⟨frame, hphase⟩
    have hstep := run.step n
    rw [hlabel] at hstep
    generalize run.state (n + 1) = t at hstep
    cases hstep with
    | picked hwaiting =>
      rw [hphase] at hwaiting
      cases hwaiting
  · rintro n ⟨frame, hphase⟩ hnot
    have hstep := run.step n
    generalize run.state (n + 1) = t at hstep ⊢
    generalize hlabel : run.label n = label at hstep
    cases hstep with
    | received _ => exact ⟨frame, hphase⟩
    | picked hwaiting =>
      rw [hphase] at hwaiting
      cases hwaiting
    | sent _ success => exact absurd ⟨success, hlabel⟩ hnot

/-- In every run without end in which `HandleMapping` is called again and again, every request is
handed to the port again and again, from the time it is in the list, whatever is announced
meanwhile and whether or not the port throws. -/
theorem requests_polled_forever (run : Endless PollingStep)
    (hstart : run.state 0 = .initial (.initial classes order orderPerm))
    (hcalled : ∃ᶠ n in atTop, run.label n = .picked) {m : ℕ} {frame : TFrame}
    (hframe : frame ∈ (run.state m).gateway.requests) :
    ∃ᶠ n in atTop, (∃ success, run.label n = .sent success) ∧
      (run.state n).phase = .sending frame := by
  have hrotates : ∀ n, (run.state n).Rotates := by
    intro n
    have hleads := run.leads (Nat.zero_le n)
    rw [hstart] at hleads
    exact (sound_of_leads hleads).rotates
  obtain ⟨position, hposition⟩ := List.mem_iff_getElem?.mp hframe
  have hthere : ∀ n ≥ m, (run.state n).gateway.requests[position]? = some frame := by
    intro n hn
    induction n, hn using Nat.le_induction with
    | base => exact hposition
    | succ n _ ih => exact getElem?_of_prefix (run.step n).grows.1 ih
  have hrest : ∀ᶠ n in atTop,
      (run.state (n + 1)).gateway.requests = (run.state n).gateway.requests := by
    have hprograms := run.eventually_rests (fun _ _ _ h => h.grows.2.1)
      fun n => (run.state n).programs_le
    exact hprograms.mono fun n hn => (run.step n).grows.2.2 hn
  have hlater := eventually_ge_atTop m
  have hsent := sent_forever run hrotates hcalled (hlater.mono fun n hn hempty => by
    have hnone := hthere n hn
    rw [hempty] at hnone
    cases hnone)
  have hpolled : ∃ᶠ n in atTop, PollsAt (run.state n) (run.label n) position := by
    apply @frequently_of_measure _ _ _ (fun n => (run.state n).ahead position) _ _ hsent
    filter_upwards [hrest, hlater] with n hsame hn hnot
    obtain ⟨hinside, _⟩ := List.getElem?_eq_some_iff.mp (hthere n hn)
    exact (run.step n).ahead (hrotates n) hsame hinside hnot
  refine (hpolled.and_eventually hlater).mono ?_
  rintro n ⟨⟨⟨success, hlabel⟩, hindex⟩, hn⟩
  have hstep := run.step n
  rw [hlabel] at hstep
  generalize run.state (n + 1) = t at hstep
  cases hstep with
  | @sent sending hphase _ =>
    have hpicked := (hrotates n).picked sending hphase
    rw [hindex, hthere n hn] at hpicked
    rw [Option.some.inj hpicked]
    exact ⟨⟨success, hlabel⟩, hphase⟩

end Runs

/-! The heating circuit is announced once, and polled ever after. -/

theorem circuitAnnouncement_received :
    receive 2 (.initial circuitGateway.classes circuitGateway.order circuitGateway.orderPerm)
      circuitAnnouncement = some announcedGateway := by
  obtain ⟨gateway, hgateway⟩ := Option.isSome_iff_exists.mp (show (receive 2
    (.initial circuitGateway.classes circuitGateway.order circuitGateway.orderPerm)
    circuitAnnouncement).isSome by decide +kernel)
  rw [announcedGateway, hgateway, Option.getD_some]

/-- After the announcement `HandleMapping` is waiting before every odd step. -/
structure CircuitPolled (n : ℕ) (s : PollingState) : Prop where
  sound : s.Sound circuitGateway.classes circuitGateway.order
  start : n = 0 → s = .initial
    (.initial circuitGateway.classes circuitGateway.order circuitGateway.orderPerm)
  announced : 0 < n → s.gateway = announcedGateway
  waiting : n % 2 = 1 → s.phase = .waiting
  sending : 0 < n → n % 2 = 0 → ∃ frame, s.phase = .sending frame

theorem CircuitPolled.step {n : ℕ} {s : PollingState} (h : CircuitPolled n s) :
    ∃ l t, (n % 2 = 1 → l = .picked) ∧ PollingStep s l t ∧ CircuitPolled (n + 1) t := by
  rcases Nat.eq_zero_or_pos n with rfl | hpos
  · obtain rfl := h.start rfl
    have hstep := PollingStep.received (s := .initial _) circuitAnnouncement_received
    exact ⟨_, _, nofun, hstep, hstep.sound h.sound, nofun, fun _ => rfl, fun _ => rfl, nofun⟩
  have hgateway := h.announced hpos
  rcases Nat.mod_two_eq_zero_or_one n with heven | hodd
  · obtain ⟨frame, hphase⟩ := h.sending hpos heven
    have hstep := PollingStep.sent hphase true
    refine ⟨_, _, fun hodd => by omega, hstep, hstep.sound h.sound, nofun, fun _ => hgateway,
      fun _ => rfl, fun _ heven => by omega⟩
  · have hstep := PollingStep.picked (h.waiting hodd)
    have hsound := hstep.sound h.sound
    have hsome : s.gateway.requests ≠ [] := by
      rw [hgateway]
      decide +kernel
    refine ⟨_, _, fun _ => rfl, hstep, hsound, nofun, fun _ => ?_, fun _ => by omega, fun _ _ => ?_⟩
    · rw [PollingState.pick_gateway, hgateway]
    · exact PollingState.pick_sending hsound.rotates.defined hsome

theorem requests_polled_forever_circuit :
    ∃ run : Endless PollingStep, ∃ᶠ n in atTop, (∃ success, run.label n = .sent success) ∧
      (run.state n).phase = .sending circuitPoll := by
  have h0 : CircuitPolled 0 (.initial
      (.initial circuitGateway.classes circuitGateway.order circuitGateway.orderPerm)) :=
    ⟨.initial, fun _ => rfl, nofun, nofun, nofun⟩
  obtain ⟨run, hstart, hrun⟩ := exists_endless h0 fun n s hs => hs.step
  refine ⟨run, requests_polled_forever run hstart ?_ (m := 1) ?_⟩
  · refine frequently_atTop.mpr fun n => ⟨2 * n + 1, by omega, (hrun _).2 (by omega)⟩
  · rw [(hrun 1).1.announced Nat.one_pos]
    decide +kernel

end SmartWebGateway
