import SmartWebGateway.Foundation.Machine
import SmartWebGateway.Foundation.Rotation
import SmartWebGateway.Poller.RoundTrip
import Mathlib.Tactic

/-!
# Polling while programs are announced

The reader's thread takes announcements and appends requests under a mutex; the
scheduler's thread takes one request of the list at a time under the same mutex
and sends it without. Only the reader uses the known programs, and only the
scheduler the index, so each step below is atomic for the other thread.
-/
namespace SmartWebGateway

open Foundation
open TSmartWebToMqttGateway

namespace TSmartWebToMqttGateway

def initial (classes : AList fun _ : Byte => TSmartWebClass) (order : List TSmartWebClass)
    (orderPerm : order.Perm (classes.entries.map fun entry => entry.2)) :
    TSmartWebToMqttGateway where
  classes := classes
  order := order
  knownPrograms := ∅
  requests := []
  orderPerm := orderPerm

/-- What the reader makes of a frame that the port hands over. -/
def receive (fuel : ℕ) (gateway : TSmartWebToMqttGateway) (frame : TFrame) :
    Option TSmartWebToMqttGateway :=
  if acceptFrame frame then (handleFrame fuel gateway frame).map Prod.fst else some gateway

end TSmartWebToMqttGateway

/-- Where `HandleMapping` is: it has not begun, or it holds a copy of a request; or it has read
past the end of the list. -/
inductive MappingPhase where
  | waiting
  | sending (frame : TFrame)
  | undefined
  deriving DecidableEq

/-- A request that was handed to the port, from which position, and how long the list was then. -/
structure Poll extends Visit where
  frame : TFrame
  deriving DecidableEq

/-- `received` and `polls` are history, newest first. -/
structure PollingState where
  gateway : TSmartWebToMqttGateway
  requestIndex : ℕ
  phase : MappingPhase
  received : List TFrame
  polls : List Poll

namespace PollingState

def initial (gateway : TSmartWebToMqttGateway) : PollingState where
  gateway := gateway
  requestIndex := 0
  phase := .waiting
  received := []
  polls := []

/-- The part of `HandleMapping` that holds the mutex. -/
def pick (s : PollingState) : PollingState :=
  if s.gateway.requests.isEmpty then s
  else
    let index := if s.requestIndex = s.gateway.requests.length then 0 else s.requestIndex
    { s with
      requestIndex := index
      phase :=
        match s.gateway.requests[index]? with
        | some frame => .sending frame
        | none => .undefined }

/-- The rest of `HandleMapping`; it goes on in the same way when `Send` throws. -/
def sent (s : PollingState) (frame : TFrame) : PollingState :=
  { s with
    requestIndex := s.requestIndex + 1
    phase := .waiting
    polls := ⟨⟨s.requestIndex, s.gateway.requests.length⟩, frame⟩ :: s.polls }

end PollingState

inductive PollingLabel where
  | received (frame : TFrame)
  | picked
  | sent (success : Bool)

inductive PollingStep : PollingState → PollingLabel → PollingState → Prop
  | received {s : PollingState} {frame : TFrame} {fuel : ℕ} {gateway : TSmartWebToMqttGateway}
      (h : receive fuel s.gateway frame = some gateway) :
      PollingStep s (.received frame)
        { s with
          gateway := gateway
          received := frame :: s.received }
  | picked {s : PollingState} (h : s.phase = .waiting) : PollingStep s .picked s.pick
  | sent {s : PollingState} {frame : TFrame} (h : s.phase = .sending frame) (success : Bool) :
      PollingStep s (.sent success) (s.sent frame)

abbrev AnnouncedProgram := Σ _ : Byte, TSmartWebClass

/-- The program that a frame announces, if it is a valid announcement. -/
def TFrame.announced? (classes : AList fun _ : Byte => TSmartWebClass) (frame : TFrame) :
    Option AnnouncedProgram :=
  if acceptFrame frame ∧ frame.header.programType = ptProgram ∧
      frame.header.functionId = Program.Function.iAmProgram ∧ frame.canDlc = 3 then
    (classes.lookup frame.data[2]!).map fun cl => ⟨frame.header.programId, cl⟩
  else none

/-- Each program that some frames announce, with the class of its first valid announcement, in the
order of these; the newest frame comes first. -/
def announcedPrograms (classes : AList fun _ : Byte => TSmartWebClass) (received : List TFrame) :
    List AnnouncedProgram :=
  (received.reverse.filterMap fun frame => frame.announced? classes).dedupKeys

/-- The requests that `AddRequests` adds for a program. -/
def TSmartWebToMqttGateway.IsBlock (gateway : TSmartWebToMqttGateway) (program : AnnouncedProgram)
    (block : List TFrame) : Prop :=
  ∃ fuel, addRequests gateway.order program.1 fuel program.2 [] = some block

/-- The known programs are those announced, and the list has one block for each of them. -/
structure TSmartWebToMqttGateway.Knows (gateway : TSmartWebToMqttGateway)
    (programs : List AnnouncedProgram) : Prop where
  known : gateway.knownPrograms.entries.reverse = programs
  blocks : ∃ blocks, List.Forall₂ gateway.IsBlock programs blocks ∧
    gateway.requests = blocks.flatten

section Announcements

variable {fuel : ℕ} {gateway gateway' : TSmartWebToMqttGateway} {frame : TFrame}
  {programs : List AnnouncedProgram} {received : List TFrame}

theorem mem_keys_dedupKeys {α : Type*} {β : α → Type*} [DecidableEq α] {l : List (Sigma β)}
    {a : α} : a ∈ l.dedupKeys.keys ↔ a ∈ l.keys := by
  induction l with
  | nil => rfl
  | cons x l ih =>
    rw [List.dedupKeys_cons, List.mem_keys_kinsert, ih, List.keys_cons, List.mem_cons]

theorem dedupKeys_concat {α : Type*} {β : α → Type*} [DecidableEq α] (l : List (Sigma β))
    (x : Sigma β) :
    (l ++ [x]).dedupKeys = if x.1 ∈ l.keys then l.dedupKeys else l.dedupKeys ++ [x] := by
  induction l with
  | nil => rfl
  | cons y l ih =>
    rw [List.cons_append, List.dedupKeys_cons, ih, List.dedupKeys_cons]
    simp only [List.keys_cons, List.mem_cons]
    by_cases hmem : x.1 ∈ l.keys
    · rw [if_pos hmem, if_pos (Or.inr hmem)]
    have hdedup : x.1 ∉ l.dedupKeys.keys := fun h => hmem (mem_keys_dedupKeys.mp h)
    rw [if_neg hmem]
    by_cases hkey : x.1 = y.1
    · have hy : y.1 ∉ l.dedupKeys.keys := hkey ▸ hdedup
      rw [if_pos (Or.inl hkey), List.kinsert_def, List.kinsert_def, List.kerase_append_right hy,
        List.kerase_of_notMem_keys hy]
      rw [List.kerase_cons_eq hkey.symm, List.append_nil]
    · rw [if_neg (not_or.mpr ⟨hkey, hmem⟩), List.kinsert_def, List.kinsert_def, List.cons_append]
      by_cases hy : y.1 ∈ l.dedupKeys.keys
      · rw [List.kerase_append_left hy]
      · rw [List.kerase_append_right hy, List.kerase_of_notMem_keys hy,
          List.kerase_cons_ne (Ne.symm hkey), List.kerase_nil]

theorem announcedPrograms_cons (classes : AList fun _ : Byte => TSmartWebClass) (frame : TFrame)
    (received : List TFrame) :
    announcedPrograms classes (frame :: received) =
      match frame.announced? classes with
      | none => announcedPrograms classes received
      | some program =>
        if program.1 ∈ (announcedPrograms classes received).keys then
          announcedPrograms classes received
        else announcedPrograms classes received ++ [program] := by
  unfold announcedPrograms
  rw [List.reverse_cons, List.filterMap_append]
  cases h : frame.announced? classes with
  | none => simp [h]
  | some program => simp [h, dedupKeys_concat, mem_keys_dedupKeys]

/-- What `AddRequests` appends does not depend on what was in the list. -/
theorem addRequests_block {order : List TSmartWebClass} {programId : Byte} {cl : TSmartWebClass}
    {requests result : List TFrame}
    (h : addRequests order programId fuel cl requests = some result) :
    ∃ block, addRequests order programId fuel cl [] = some block ∧ result = requests ++ block := by
  rw [addRequests_eq_walk, ← List.append_nil requests, walk_prepend] at h
  obtain ⟨block, hblock, rfl⟩ := Option.map_eq_some_iff.mp h
  exact ⟨block, by rw [addRequests_eq_walk, hblock], rfl⟩

/-- All checks of the reader together: whether the frame announces a program, and whether it is
new. -/
theorem receive_eq :
    receive fuel gateway frame =
      match frame.announced? gateway.classes with
      | none => some gateway
      | some program =>
        if program.1 ∈ gateway.knownPrograms then some gateway
        else (addRequests gateway.order program.1 fuel program.2 gateway.requests).map
          fun requests =>
            { gateway with
              knownPrograms := gateway.knownPrograms.insert program.1 program.2
              requests := requests } := by
  unfold receive TFrame.announced? handleFrame addProgram
  by_cases haccept : acceptFrame frame
  case neg => simp [haccept]
  by_cases hkind : frame.header.programType = ptProgram ∧
      frame.header.functionId = Program.Function.iAmProgram
  case neg =>
    have hnone : ¬ (acceptFrame frame ∧ frame.header.programType = ptProgram ∧
        frame.header.functionId = Program.Function.iAmProgram ∧ frame.canDlc = 3) :=
      fun h => hkind ⟨h.2.1, h.2.2.1⟩
    rw [if_pos haccept, if_neg hkind, if_neg hnone]
    split_ifs <;> rfl
  by_cases hlength : frame.canDlc = 3#8
  case neg => simp [haccept, hkind, hlength]
  cases hlookup : gateway.classes.lookup frame.data[2]! with
  | none => simp [haccept, hkind, hlength]
  | some cl =>
    by_cases hknown : frame.header.programId ∈ gateway.knownPrograms
    · simp [haccept, hkind, hlength, hknown, AList.lookup_isSome]
    · simp [haccept, hkind, hlength, hknown, AList.lookup_isSome, Function.comp_def]

theorem receive_cases (h : receive fuel gateway frame = some gateway') :
    (∀ program, frame.announced? gateway.classes = some program →
        program.1 ∈ gateway.knownPrograms) ∧ gateway' = gateway ∨
    ∃ program block, frame.announced? gateway.classes = some program ∧
      program.1 ∉ gateway.knownPrograms ∧ gateway.IsBlock program block ∧
      gateway' = { gateway with
        knownPrograms := gateway.knownPrograms.insert program.1 program.2
        requests := gateway.requests ++ block } := by
  rw [receive_eq] at h
  cases hannounced : frame.announced? gateway.classes with
  | none =>
    rw [hannounced] at h
    refine Or.inl ⟨?_, (Option.some.inj h).symm⟩
    intro program hsome
    cases hsome
  | some program =>
    simp only [hannounced] at h
    split_ifs at h with hknown
    · left
      refine ⟨?_, (Option.some.inj h).symm⟩
      rintro _ ⟨⟩
      exact hknown
    · right
      obtain ⟨requests, hadd, rfl⟩ := Option.map_eq_some_iff.mp h
      obtain ⟨block, hblock, rfl⟩ := addRequests_block hadd
      exact ⟨program, block, rfl, hknown, ⟨fuel, hblock⟩, rfl⟩

theorem TSmartWebToMqttGateway.Knows.mem_keys (h : gateway.Knows programs) (programId : Byte) :
    programId ∈ gateway.knownPrograms ↔ programId ∈ programs.keys := by
  rw [← h.known]
  simp [AList.mem_keys, AList.keys, List.keys]

theorem TSmartWebToMqttGateway.Knows.receive
    (h : gateway.Knows (announcedPrograms gateway.classes received))
    (hreceive : receive fuel gateway frame = some gateway') :
    gateway'.classes = gateway.classes ∧ gateway'.order = gateway.order ∧
      gateway.requests <+: gateway'.requests ∧
      gateway'.Knows (announcedPrograms gateway.classes (frame :: received)) := by
  rw [announcedPrograms_cons]
  rcases receive_cases hreceive with ⟨hknown, rfl⟩ | ⟨program, block, hannounced, hnew, hblock, rfl⟩
  · refine ⟨rfl, rfl, List.prefix_rfl, ?_⟩
    cases hannounced : frame.announced? gateway'.classes with
    | none => exact h
    | some program =>
      dsimp only
      rwa [if_pos ((h.mem_keys program.1).mp (hknown program hannounced))]
  · refine ⟨rfl, rfl, List.prefix_append _ _, ?_⟩
    obtain ⟨blocks, hblocks, hrequests⟩ := h.blocks
    simp only [hannounced]
    rw [if_neg fun hkey => hnew ((h.mem_keys program.1).mpr hkey)]
    constructor
    · rw [AList.entries_insert_of_notMem hnew, List.reverse_cons, h.known]
    · refine ⟨blocks ++ [block], List.rel_append hblocks (.cons hblock .nil), ?_⟩
      rw [List.flatten_append, List.flatten_singleton, hrequests]

end Announcements

/-- What every run keeps of the index and of what was polled. -/
structure PollingState.Rotates (s : PollingState) : Prop where
  index : s.phase = .waiting → s.requestIndex ≤ s.gateway.requests.length
  picked : ∀ frame, s.phase = .sending frame →
    s.gateway.requests[s.requestIndex]? = some frame
  defined : s.phase ≠ .undefined
  polled : ∀ p ∈ s.polls, p.position < p.size ∧ s.gateway.requests[p.position]? = some p.frame
  chain : (s.polls.map Poll.toVisit).IsChain Visit.Follows
  follows : ∀ p ∈ s.polls.head?,
    Visit.Follows ⟨s.requestIndex, s.gateway.requests.length⟩ p.toVisit
  next : s.phase = .waiting → ∀ p ∈ s.polls.head?, s.requestIndex = p.position + 1

section Rotation

variable {s t : PollingState} {label : PollingLabel}

theorem getElem?_of_prefix {α : Type*} {l l' : List α} (h : l <+: l') {i : ℕ} {a : α}
    (ha : l[i]? = some a) : l'[i]? = some a := by
  obtain ⟨added, rfl⟩ := h
  obtain ⟨hi, _⟩ := List.getElem?_eq_some_iff.mp ha
  rwa [List.getElem?_append_left hi]

theorem PollingState.Rotates.initial (gateway : TSmartWebToMqttGateway) :
    (PollingState.initial gateway).Rotates where
  index _ := Nat.zero_le _
  picked := by simp [PollingState.initial]
  defined := by simp [PollingState.initial]
  polled := by simp [PollingState.initial]
  chain := .nil
  follows := by simp [PollingState.initial]
  next := by simp [PollingState.initial]

theorem PollingState.Rotates.grow (h : s.Rotates) {gateway : TSmartWebToMqttGateway}
    (hgrows : s.gateway.requests <+: gateway.requests) (received : List TFrame) :
    ({ s with gateway := gateway, received := received } : PollingState).Rotates where
  index hphase := (h.index hphase).trans hgrows.length_le
  picked frame hphase := getElem?_of_prefix hgrows (h.picked frame hphase)
  defined := h.defined
  polled p hp := ⟨(h.polled p hp).1, getElem?_of_prefix hgrows (h.polled p hp).2⟩
  chain := h.chain
  follows p hp := ⟨(h.follows p hp).grown.trans hgrows.length_le, (h.follows p hp).next⟩
  next := h.next

theorem PollingState.Rotates.read (h : s.Rotates) {index : ℕ}
    (hindex : index < s.gateway.requests.length)
    (hfollows : ∀ p ∈ s.polls.head?,
      Visit.Follows ⟨index, s.gateway.requests.length⟩ p.toVisit) :
    ({ s with
      requestIndex := index
      phase :=
        match s.gateway.requests[index]? with
        | some frame => .sending frame
        | none => .undefined } : PollingState).Rotates := by
  obtain ⟨frame, hframe⟩ : ∃ frame, s.gateway.requests[index]? = some frame :=
    ⟨_, List.getElem?_eq_getElem hindex⟩
  simp only [hframe]
  constructor
  case index => simp
  case picked =>
    rintro _ ⟨⟩
    exact hframe
  case defined => simp
  case polled => exact h.polled
  case chain => exact h.chain
  case follows => exact hfollows
  case next => simp

theorem PollingState.Rotates.pick (h : s.Rotates) (hphase : s.phase = .waiting) :
    s.pick.Rotates := by
  have hindex := h.index hphase
  unfold PollingState.pick
  by_cases hempty : s.gateway.requests.isEmpty
  · rwa [if_pos hempty]
  have hpos : 0 < s.gateway.requests.length := by
    simpa [List.length_pos_iff] using hempty
  rw [if_neg hempty]
  by_cases hend : s.requestIndex = s.gateway.requests.length
  · simp only [if_pos hend]
    apply h.read hpos
    intro p hp
    have hgrown := (h.follows p hp).grown
    refine ⟨hgrown, Or.inr ⟨rfl, ?_⟩⟩
    rwa [← h.next hphase p hp, hend]
  · simp only [if_neg hend]
    exact h.read (by omega) h.follows

theorem PollingState.Rotates.sent (h : s.Rotates) {frame : TFrame}
    (hphase : s.phase = .sending frame) : (s.sent frame).Rotates := by
  have hframe := h.picked frame hphase
  obtain ⟨hindex, _⟩ := List.getElem?_eq_some_iff.mp hframe
  constructor
  case index => exact fun _ => hindex
  case picked => simp [PollingState.sent]
  case defined => simp [PollingState.sent]
  case polled => exact List.forall_mem_cons.mpr ⟨⟨hindex, hframe⟩, h.polled⟩
  case chain =>
    apply List.isChain_cons.mpr
    refine ⟨?_, h.chain⟩
    intro v hv
    rw [List.head?_map] at hv
    obtain ⟨p, hp, rfl⟩ := Option.map_eq_some_iff.mp hv
    exact h.follows p hp
  case follows =>
    rintro p ⟨⟩
    exact ⟨le_rfl, Or.inl rfl⟩
  case next =>
    rintro _ p ⟨⟩
    rfl

/-- From one poll of a position to the next, every other request that was in the list at the first
of them is polled exactly once. -/
theorem PollingState.Rotates.count_between (h : s.Rotates) {last first : Poll}
    {between older : List Poll} (hpolls : (last :: between ++ first :: older) <:+ s.polls)
    (hlast : last.position = first.position)
    (hne : ∀ p ∈ between, p.position ≠ first.position) {q : ℕ} (hq : q < first.size)
    (hqfirst : q ≠ first.position) : (between.map fun p => p.position).count q = 1 := by
  obtain ⟨newer, hpolls⟩ := hpolls
  have hchain := h.chain
  rw [← hpolls, List.append_cons, ← List.append_assoc, List.map_append, List.map_append] at hchain
  have hround : (last.toVisit :: between.map Poll.toVisit ++ [first.toVisit]).IsChain
      Visit.Follows := by
    simpa using hchain.left_of_append.right_of_append
  have hfirst : first ∈ s.polls := by
    rw [← hpolls]
    simp
  have hcount := Visit.count_between hround (h.polled first hfirst).1 hlast
    (by simpa using hne) hq hqfirst
  rwa [List.map_map] at hcount

end Rotation

/-- What every run keeps: the programs, and the rotation. -/
structure PollingState.Sound (classes : AList fun _ : Byte => TSmartWebClass)
    (order : List TSmartWebClass) (s : PollingState) : Prop where
  sameClasses : s.gateway.classes = classes
  sameOrder : s.gateway.order = order
  knows : s.gateway.Knows (announcedPrograms classes s.received)
  rotates : s.Rotates

section Runs

variable {classes : AList fun _ : Byte => TSmartWebClass} {order : List TSmartWebClass}
  {orderPerm : order.Perm (classes.entries.map fun entry => entry.2)} {s t : PollingState}
  {label : PollingLabel}

theorem PollingState.Sound.initial :
    (PollingState.initial (.initial classes order orderPerm)).Sound classes order where
  sameClasses := rfl
  sameOrder := rfl
  knows := ⟨rfl, [], .nil, rfl⟩
  rotates := .initial _

@[simp] theorem PollingState.pick_gateway : s.pick.gateway = s.gateway := by
  unfold PollingState.pick
  split_ifs <;> rfl

@[simp] theorem PollingState.pick_received : s.pick.received = s.received := by
  unfold PollingState.pick
  split_ifs <;> rfl

theorem PollingStep.sound (h : PollingStep s label t) (hs : s.Sound classes order) :
    t.Sound classes order := by
  cases h with
  | received hreceive =>
    obtain ⟨rfl, rfl, hknows, hrotates⟩ := hs
    obtain ⟨hclasses, horder, hgrows, hknows'⟩ := hknows.receive hreceive
    exact ⟨hclasses, horder, hknows', hrotates.grow hgrows _⟩
  | picked hphase =>
    refine ⟨?_, ?_, ?_, hs.rotates.pick hphase⟩
    · rw [PollingState.pick_gateway, hs.sameClasses]
    · rw [PollingState.pick_gateway, hs.sameOrder]
    · rw [PollingState.pick_gateway, PollingState.pick_received]
      exact hs.knows
  | sent hphase => exact ⟨hs.sameClasses, hs.sameOrder, hs.knows, hs.rotates.sent hphase⟩

theorem sound_of_leads
    (h : Leads PollingStep Anyhow (.initial (.initial classes order orderPerm)) s) :
    s.Sound classes order :=
  h.invariant (fun _ _ _ hs _ hstep => hstep.sound hs) .initial

/-- In every run, the list of requests is one block for each announced program, in the order of the
first valid announcements, and no other frame changes it; the index stays inside the list; and
from one poll of a position to the next, every other position that was there at the first of them
is polled exactly once. -/
theorem polling_sound
    (h : Leads PollingStep Anyhow (.initial (.initial classes order orderPerm)) s) :
    (s.gateway.classes = classes ∧ s.gateway.order = order ∧
      s.gateway.Knows (announcedPrograms classes s.received) ∧
      ∀ fuel frame gateway, receive fuel s.gateway frame = some gateway →
        (∀ program, frame.announced? classes = some program →
          program.1 ∈ (announcedPrograms classes s.received).keys) → gateway = s.gateway) ∧
    (s.phase = .waiting → s.requestIndex ≤ s.gateway.requests.length) ∧
    s.phase ≠ .undefined ∧
    (∀ frame, s.phase = .sending frame → s.gateway.requests[s.requestIndex]? = some frame) ∧
    (∀ p ∈ s.polls, p.position < p.size ∧ s.gateway.requests[p.position]? = some p.frame) ∧
    ∀ last between first older, (last :: between ++ first :: older) <:+ s.polls →
      last.position = first.position → (∀ p ∈ between, p.position ≠ first.position) →
      ∀ q < first.size, q ≠ first.position → (between.map fun p => p.position).count q = 1 := by
  have hs := sound_of_leads h
  refine ⟨⟨hs.sameClasses, hs.sameOrder, hs.knows, ?_⟩, hs.rotates.index, hs.rotates.defined,
    hs.rotates.picked, hs.rotates.polled, ?_⟩
  · intro fuel frame gateway hreceive hrepeated
    rcases receive_cases hreceive with ⟨_, hsame⟩ | ⟨program, _, hannounced, hnew, _⟩
    · exact hsame
    · rw [hs.sameClasses] at hannounced
      exact absurd ((hs.knows.mem_keys program.1).mpr (hrepeated program hannounced)) hnew
  · intro last between first older hpolls hlast hne q hq hqfirst
    exact hs.rotates.count_between hpolls hlast hne hq hqfirst

end Runs

/-! The heating circuit is announced, and its list is gone through. -/

def circuitAnnouncement : TFrame where
  canId := { TCanHeader.ofRaw 0 with
    programType := ptProgram
    programId := 7
    functionId := Program.Function.iAmProgram
    messageType := mtMsgResponse }.raw ||| canEffFlag
  canDlc := 3
  data := #v[0, 0, 14, 0, 0, 0, 0, 0]

def announcedGateway : TSmartWebToMqttGateway :=
  (receive 2 (.initial circuitGateway.classes circuitGateway.order circuitGateway.orderPerm)
    circuitAnnouncement).getD circuitGateway

/-- One request of the list is picked and sent. -/
def PollingState.polled (s : PollingState) : PollingState :=
  match s.pick.phase with
  | .sending frame => s.pick.sent frame
  | _ => s.pick

theorem PollingState.leads_polled {s t : PollingState} (h : Leads PollingStep Anyhow s t)
    (ht : t.phase = .waiting) : Leads PollingStep Anyhow s t.polled := by
  have hpick := h.step (.picked ht)
  unfold PollingState.polled
  split
  next frame hphase => exact hpick.step (.sent hphase true)
  next => exact hpick

def circuitStart : PollingState :=
  { PollingState.initial announcedGateway with received := [circuitAnnouncement] }

def circuitPolls : PollingState := circuitStart.polled.polled.polled

theorem circuitPolls_leads :
    Leads PollingStep Anyhow (.initial (.initial circuitGateway.classes circuitGateway.order
      circuitGateway.orderPerm)) circuitPolls := by
  have hreceive : receive 2 (.initial circuitGateway.classes circuitGateway.order
      circuitGateway.orderPerm) circuitAnnouncement = some announcedGateway := by
    obtain ⟨gateway, hgateway⟩ := Option.isSome_iff_exists.mp (show (receive 2
      (.initial circuitGateway.classes circuitGateway.order circuitGateway.orderPerm)
      circuitAnnouncement).isSome by decide +kernel)
    rw [announcedGateway, hgateway, Option.getD_some]
  have hstart : Leads PollingStep Anyhow (.initial (.initial circuitGateway.classes
      circuitGateway.order circuitGateway.orderPerm)) circuitStart :=
    Leads.refl.step (.received hreceive)
  have hfirst := PollingState.leads_polled hstart rfl
  have hsecond := PollingState.leads_polled hfirst (by decide +kernel)
  exact PollingState.leads_polled hsecond (by decide +kernel)

/-- Between the two polls of the front, the other request is polled once. -/
theorem polling_sound_circuit :
    ∃ last between first, circuitPolls.polls = last :: between ++ [first] ∧
      last.position = 0 ∧ first.position = 0 ∧ (between.map fun p => p.position).count 1 = 1 := by
  have hpolls : circuitPolls.polls =
      [⟨⟨0, 2⟩, indexedRequest RemoteControl.Parameters.sensor (requestBuffer 7) 0⟩,
        ⟨⟨1, 2⟩, circuitPoll⟩,
        ⟨⟨0, 2⟩, indexedRequest RemoteControl.Parameters.sensor (requestBuffer 7) 0⟩] := by
    decide +kernel
  have hlist := hpolls ▸ List.suffix_refl circuitPolls.polls
  have hcount := (polling_sound circuitPolls_leads).2.2.2.2.2 _ [_] _ [] hlist rfl (by simp) 1
  exact ⟨_, [_], _, hpolls, rfl, rfl, hcount (by simp) (by simp)⟩

end SmartWebGateway
