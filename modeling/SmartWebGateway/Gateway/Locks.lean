import SmartWebGateway.Foundation.Endings
import SmartWebGateway.Mqtt.Channel
import Mathlib.Data.Prod.Lex
import Mathlib.Tactic

/-!
# The mutexes of the whole service

What every function of the service does with mutexes, condition variables and
threads, and nothing else of it. The driver has locks of its own, among them
whatever makes a call wait until the thread of the driver has dealt with it; its
thread calls the event handlers of the gateways. The notification that ends the
scheduler's wait can be lost: then the end of the service waits for ever, and for
nothing else.
-/
namespace SmartWebGateway

open Foundation

/-- The threads of the service are none of the driver's business. -/
def ownLevel {Lock : Type} (level : Lock → ℕ) : Resource Lock Empty → ℕ
  | .mutex lock => level lock
  | .ending thread => thread.elim

/-- What the service relies on in the driver: its locks are in an order of their own, both where it
is called and where it calls an event handler, with `callback` locked from left to right; and no
call waits without an end. -/
structure DriverLocks where
  Lock : Type
  [decidableEq : DecidableEq Lock]
  level : Lock → ℕ
  call : LockCode Lock Empty
  callback : List Lock
  ordered : call.Ordered (ownLevel level) []
  timed : call.Throughout fun part => ∀ lock, part ≠ .wait lock false
  descending : callback.Pairwise fun outer inner => level inner < level outer

instance (driver : DriverLocks) : DecidableEq driver.Lock := driver.decidableEq

/-- The mutexes of the service with those of the driver; each virtual controller has its own, and
one for each channel that it maps. -/
inductive Mutex (Lock : Type) (n : ℕ) where
  | handlers
  | write
  | writeConfirm
  | request
  | tasks
  | schedulerWait
  | reader
  | startup
  | canFrames (controller : Fin n)
  | lastUpdateTimePoint (controller : Fin n) (deviceControl : String)
  | driver (lock : Lock)
  deriving DecidableEq

inductive ServiceThread (n : ℕ) where
  | main
  | canListener
  | scheduler
  | canReader
  | driver
  | controller (index : Fin n)
  deriving DecidableEq, Fintype

namespace Locking

variable (driver : DriverLocks) (controllers : List TMqttToSmartWebConfig)

abbrev Code : Type :=
  LockCode (Mutex driver.Lock controllers.length) (ServiceThread controllers.length)

abbrev Thread : Type :=
  LoopingThread (Mutex driver.Lock controllers.length) (ServiceThread controllers.length)

abbrev Needed : Type :=
  Resource (Mutex driver.Lock controllers.length) (ServiceThread controllers.length)

variable {driver controllers}

/-- Whatever is done with the driver in one place. -/
def driverCall : Code driver controllers := driver.call.map .driver Empty.elim

def setWriteConfirmed : Code driver controllers := .locked .writeConfirm (.notify .writeConfirm)

/-- The write may fail, and the confirmation may have come before the wait for it. -/
def send : Code driver controllers :=
  .locked .write (.seq (.locked .writeConfirm .skip)
    (.choice .skip (.locked .writeConfirm (.choice .skip (.wait .writeConfirm true)))))

def addHandler : Code driver controllers := .locked .handlers .skip

def removeHandler : Code driver controllers := .locked .handlers .skip

/-- `TThreadedCanReader::Handle`. The frame may be refused, and the queue may be full. -/
def readerHandle : Code driver controllers :=
  .choice .skip (.locked .reader (.choice .skip (.notify .reader)))

def handle (i : Fin controllers.length) : Code driver controllers :=
  .choice .skip (.seq (.locked (.canFrames i) .skip) (.notify (.canFrames i)))

def runHandlers : Code driver controllers :=
  .locked .handlers (.loop (.choice readerHandle (.any ((List.finRange _).map handle))))

def canListener : Thread driver controllers where
  before := .skip
  round := .choice .skip (.choice setWriteConfirmed runHandlers)
  after := .skip

def get : Code driver controllers := .locked .reader (.choice .skip (.wait .reader true))

def addProgram : Code driver controllers := .choice .skip (.locked .request .skip)

def setParameter : Code driver controllers := .choice .skip driverCall

def handleFrame : Code driver controllers := .choice .skip (.choice addProgram setParameter)

def canReader : Thread driver controllers where
  before := .skip
  round := .seq get (.choice .skip handleFrame)
  after := .skip

def handleMapping : Code driver controllers :=
  .seq (.locked .request .skip) (.choice .skip send)

/-- Without tasks the thread waits, and until the next one is due if none is. The only task is the
one that calls `HandleMapping`; it is run between two critical sections. -/
def makeIteration : Code driver controllers :=
  .seq (.locked .tasks .skip)
    (.choice (.locked .schedulerWait (.wait .schedulerWait false))
      (.choice (.locked .schedulerWait (.wait .schedulerWait true))
        (.seq handleMapping (.locked .tasks .skip))))

/-- One thread at most waits for the notification. -/
def addTask : Code driver controllers := .locked .tasks (.notify .schedulerWait)

def scheduler : Thread driver controllers where
  before := .skip
  round := makeIteration
  after := .skip

/-- A channel has a timing of its own. -/
def lastUpdateTimePoint (i : Fin controllers.length) : Code driver controllers :=
  .any ((controllers.get i).mqttChannelsTiming.keys.map fun deviceControl =>
    .locked (.lastUpdateTimePoint i deviceControl) .skip)

def selectTimeout (i : Fin controllers.length) : Code driver controllers :=
  .locked (.canFrames i) (.choice .skip (.wait (.canFrames i) true))

/-- The value may be timed out. -/
def readMqttValue (i : Fin controllers.length) : Code driver controllers :=
  .seq (lastUpdateTimePoint i) (.choice .skip driverCall)

def sendScheduledIAmHere : Code driver controllers := .choice .skip send

def sendScheduledOutputs (i : Fin controllers.length) : Code driver controllers :=
  .loop (.seq (readMqttValue i) send)

/-- Unmapped and refused requests need nothing; some are replied to without a value. -/
def handleRequest (i : Fin controllers.length) : Code driver controllers :=
  .choice .skip (.choice send (.seq (readMqttValue i) send))

/-- A round of `TaskFn`. It ends with the request if that is refused, and begins with no request if
no frame came. -/
def iteration (i : Fin controllers.length) : Code driver controllers :=
  .seq (selectTimeout i)
    (.choice (handleRequest i)
      (.seq (.choice .skip (handleRequest i))
        (.seq (.choice .skip (sendScheduledOutputs i)) sendScheduledIAmHere)))

/-- The filter is set with `StartupMutex` locked, and before the loop and after it the driver is
called for the event handler. -/
def taskFn (i : Fin controllers.length) : Thread driver controllers where
  before := .seq (.locked .startup (.choice .skip driverCall)) driverCall
  round := iteration i
  after := driverCall

/-- The event handler of the SmartWeb-to-MQTT gateway sends a request, those of the others note
the time. -/
def eventHandlers : Code driver controllers :=
  .loop (.choice send (.any ((List.finRange _).map lastUpdateTimePoint)))

/-- The thread that `StartLoop` starts and `StopLoop` stops. -/
def driverLoop : Thread driver controllers where
  before := .skip
  round := .choice driverCall (.lockedAll (driver.callback.map .driver) eventHandlers)
  after := .skip

/-- The constructors and the destructors of the gateways, as `main` comes to them. -/
def createController (i : Fin controllers.length) : Code driver controllers :=
  .seq addHandler (.start (.controller i))

def destroyController (i : Fin controllers.length) : Code driver controllers :=
  .seq removeHandler (.stop (.controller i) .skip)

def createSmartWebToMqttGateway : Code driver controllers :=
  .all [.start .scheduler, driverCall, addTask, addHandler, .start .canReader]

def destroySmartWebToMqttGateway : Code driver controllers :=
  .all [.stop .scheduler (.notify .schedulerWait), removeHandler, .stop .canReader .skip,
    driverCall]

/-- `main` waits for a signal between the constructors and the destructors. -/
def main : Thread driver controllers where
  before := .all [.start .driver, driverCall, .start .canListener, createSmartWebToMqttGateway,
    .all ((List.finRange _).map createController)]
  round := .skip
  after := .all [.all ((List.finRange _).map destroyController), destroySmartWebToMqttGateway,
    .stop .driver .skip, driverCall, .stop .canListener .skip]

variable (driver controllers) in
def threads : ServiceThread controllers.length → Thread driver controllers
  | .main => main
  | .canListener => canListener
  | .scheduler => scheduler
  | .canReader => canReader
  | .driver => driverLoop
  | .controller i => taskFn i

section Levels

/-- Where a mutex or the end of a thread stands: whoever has some of them takes only lower ones. -/
def band : Needed driver controllers → ℕ
  | .ending .main => 5
  | .ending _ => 4
  | .mutex .handlers | .mutex .tasks | .mutex .schedulerWait | .mutex .startup => 3
  | .mutex (.driver _) => 2
  | .mutex .write | .mutex .request => 1
  | .mutex .writeConfirm | .mutex .reader | .mutex (.canFrames _)
  | .mutex (.lastUpdateTimePoint _ _) => 0

/-- The locks of the driver are in an order of their own. -/
def level (r : Needed driver controllers) : ℕ ×ₗ ℕ :=
  toLex (band r,
    match r with
    | .mutex (.driver lock) => driver.level lock
    | _ => 0)

def Clear (n : ℕ) (held : List (Needed driver controllers)) : Prop := ∀ r ∈ held, n < band r

variable {n : ℕ} {held : List (Needed driver controllers)} {r : Needed driver controllers}

@[simp] theorem clear_cons : Clear n (r :: held) ↔ n < band r ∧ Clear n held :=
  List.forall_mem_cons

theorem Clear.mono (h : Clear n held) {k : ℕ} (hk : k ≤ n) : Clear k held :=
  fun r hr => hk.trans_lt (h r hr)

theorem Clear.below (h : Clear n held) (hr : band r ≤ n) : Below level held r := by
  intro r' hr'
  exact Prod.Lex.toLex_lt_toLex.mpr (Or.inl (hr.trans_lt (h r' hr')))

theorem lock_ordered {m : Mutex driver.Lock controllers.length} {body : Code driver controllers}
    (h : Clear (band (.mutex m)) held) (hbody : body.Ordered level (.mutex m :: held)) :
    LockCode.Ordered level held (.locked m body) :=
  ⟨h.below le_rfl, hbody⟩

theorem wait_ordered {m : Mutex driver.Lock controllers.length}
    (h : Clear (band (.mutex m)) held) :
    LockCode.Ordered level held (.locked m (.choice .skip (.wait m true))) :=
  lock_ordered h ⟨trivial, rfl, nofun⟩

theorem send_ordered (h : Clear 1 held) : send.Ordered level held := by
  have hwrite : Clear 0 (.mutex .write :: held) :=
    clear_cons.mpr ⟨Nat.one_pos, h.mono zero_le_one⟩
  exact lock_ordered h ⟨lock_ordered hwrite trivial, trivial, wait_ordered hwrite⟩

theorem driverCall_ordered (h : Clear 2 held) : driverCall.Ordered level held := by
  have hcall : driverCall.Ordered level
      ([].map (Resource.map Mutex.driver Empty.elim) ++ held) := by
    apply driver.ordered.map driver.timed
    · rintro (lock | thread) (lock' | thread') hlt
      · exact Prod.Lex.toLex_lt_toLex.mpr (Or.inr ⟨rfl, hlt⟩)
      · exact thread'.elim
      · exact thread.elim
      · exact thread.elim
    · rintro (lock | thread)
      · exact h.below le_rfl
      · exact thread.elim
  exact hcall

theorem runHandlers_ordered (h : Clear 3 held) : runHandlers.Ordered level held := by
  have hhandlers : Clear 0 (.mutex .handlers :: held) :=
    clear_cons.mpr ⟨Nat.succ_pos 2, h.mono (Nat.zero_le 3)⟩
  refine lock_ordered h ⟨⟨trivial, lock_ordered hhandlers ⟨trivial, trivial⟩⟩,
    LockCode.ordered_any.mpr ?_⟩
  intro code hcode
  obtain ⟨i, _, rfl⟩ := List.mem_map.mp hcode
  exact ⟨trivial, lock_ordered hhandlers trivial, trivial⟩

theorem handleFrame_ordered (h : Clear 2 held) : handleFrame.Ordered level held :=
  ⟨trivial, ⟨trivial, lock_ordered (h.mono one_le_two) trivial⟩, trivial, driverCall_ordered h⟩

theorem makeIteration_ordered (h : Clear 3 held) (hunlocked : Unlocked held) :
    makeIteration.Ordered level held := by
  have hrequest : Clear 1 held := h.mono (by decide)
  have hmapping : handleMapping.Ordered level held :=
    ⟨lock_ordered hrequest trivial, trivial, send_ordered hrequest⟩
  exact ⟨lock_ordered h trivial, lock_ordered h ⟨rfl, fun _ => hunlocked⟩,
    lock_ordered h ⟨rfl, nofun⟩, hmapping, lock_ordered h trivial⟩

theorem lastUpdateTimePoint_ordered (h : Clear 0 held) (i : Fin controllers.length) :
    (lastUpdateTimePoint i).Ordered level held := by
  refine LockCode.ordered_any.mpr ?_
  intro code hcode
  obtain ⟨deviceControl, _, rfl⟩ := List.mem_map.mp hcode
  exact lock_ordered h trivial

theorem readMqttValue_ordered (h : Clear 2 held) (i : Fin controllers.length) :
    (readMqttValue i).Ordered level held :=
  ⟨lastUpdateTimePoint_ordered (h.mono (Nat.zero_le 2)) i, trivial, driverCall_ordered h⟩

theorem iteration_ordered (h : Clear 2 held) (i : Fin controllers.length) :
    (iteration i).Ordered level held := by
  have hread := readMqttValue_ordered h i
  have hsend := send_ordered (h.mono one_le_two)
  have hrequest : (handleRequest i).Ordered level held := ⟨trivial, hsend, hread, hsend⟩
  have hframes := wait_ordered (m := .canFrames i) (h.mono (Nat.zero_le 2))
  exact ⟨hframes, hrequest, ⟨trivial, hrequest⟩, ⟨trivial, hread, hsend⟩, trivial, hsend⟩

theorem eventHandlers_ordered (h : Clear 1 held) : eventHandlers.Ordered level held := by
  refine ⟨send_ordered h, LockCode.ordered_any.mpr ?_⟩
  intro code hcode
  obtain ⟨i, _, rfl⟩ := List.mem_map.mp hcode
  exact lastUpdateTimePoint_ordered (h.mono zero_le_one) i

theorem callback_ordered (h : Clear 2 held) :
    (LockCode.lockedAll (driver.callback.map .driver) eventHandlers).Ordered level held := by
  apply LockCode.ordered_lockedAll
  · intro m hm
    obtain ⟨lock, _, rfl⟩ := List.mem_map.mp hm
    exact h.below le_rfl
  · rw [List.pairwise_map]
    refine driver.descending.imp ?_
    intro outer inner hlt
    exact Prod.Lex.toLex_lt_toLex.mpr (Or.inr ⟨rfl, hlt⟩)
  · apply eventHandlers_ordered
    intro r hr
    rcases List.mem_append.mp hr with hlocks | hheld
    · obtain ⟨m, hm, rfl⟩ := List.mem_map.mp (List.mem_reverse.mp hlocks)
      obtain ⟨lock, _, rfl⟩ := List.mem_map.mp hm
      exact Nat.one_lt_two
    · exact h.mono one_le_two r hheld

theorem main_ordered : (main : Thread driver controllers).Ordered level .main := by
  have hclear : Clear 4 [(.ending .main : Needed driver controllers)] :=
    clear_cons.mpr ⟨Nat.lt_succ_self 4, nofun⟩
  have hcall := driverCall_ordered (hclear.mono (Nat.le_add_right 2 2))
  have hhandlers : addHandler.Ordered level [(.ending .main : Needed driver controllers)] :=
    lock_ordered (hclear.mono (Nat.le_succ 3)) trivial
  have htasks : addTask.Ordered level [(.ending .main : Needed driver controllers)] :=
    lock_ordered (hclear.mono (Nat.le_succ 3)) trivial
  have hbelow : ∀ t : ServiceThread controllers.length, t ≠ .main →
      Below level [(.ending .main : Needed driver controllers)] (.ending t) := by
    intro t hne
    apply hclear.below
    cases t with
    | main => exact absurd rfl hne
    | _ => exact le_rfl
  constructor
  case before =>
    refine ⟨trivial, hcall, trivial, ⟨trivial, hcall, htasks, hhandlers, trivial, trivial⟩,
      LockCode.ordered_all.mpr ?_, trivial⟩
    intro code hcode
    obtain ⟨i, _, rfl⟩ := List.mem_map.mp hcode
    exact ⟨hhandlers, trivial⟩
  case round => trivial
  case after =>
    have hdestroy : destroySmartWebToMqttGateway.Ordered level
        [(.ending .main : Needed driver controllers)] :=
      ⟨⟨hbelow _ nofun, trivial⟩, hhandlers, ⟨hbelow _ nofun, trivial⟩, hcall, trivial⟩
    refine ⟨LockCode.ordered_all.mpr ?_, hdestroy, ⟨hbelow _ nofun, trivial⟩, hcall,
      ⟨hbelow _ nofun, trivial⟩, trivial⟩
    intro code hcode
    obtain ⟨i, _, rfl⟩ := List.mem_map.mp hcode
    exact ⟨hhandlers, hbelow _ nofun, trivial⟩

theorem threads_ordered (t : ServiceThread controllers.length) :
    (threads driver controllers t).Ordered level t := by
  have hclear : t ≠ .main → Clear 3 [(.ending t : Needed driver controllers)] := by
    intro hne
    cases t with
    | main => exact absurd rfl hne
    | _ => exact clear_cons.mpr ⟨Nat.lt_succ_self 3, nofun⟩
  cases t with
  | main => exact main_ordered
  | canListener =>
    have hown := hclear nofun
    exact ⟨trivial, ⟨trivial, lock_ordered (hown.mono (Nat.zero_le 3)) trivial,
      runHandlers_ordered hown⟩, trivial⟩
  | scheduler => exact ⟨trivial, makeIteration_ordered (hclear nofun) (by simp [Unlocked]), trivial⟩
  | canReader =>
    have hown := hclear nofun
    exact ⟨trivial, ⟨wait_ordered (hown.mono (Nat.zero_le 3)), trivial,
      handleFrame_ordered (hown.mono (Nat.le_succ 2))⟩, trivial⟩
  | driver =>
    have hown := (hclear nofun).mono (Nat.le_succ 2)
    exact ⟨trivial, ⟨driverCall_ordered hown, callback_ordered hown⟩, trivial⟩
  | controller i =>
    have hown := hclear nofun
    have hcall := driverCall_ordered (hown.mono (Nat.le_succ 2))
    have hstartup : Clear 2 (.mutex .startup :: [(.ending (.controller i) :
        Needed driver controllers)]) :=
      clear_cons.mpr ⟨Nat.lt_succ_self 2, hown.mono (Nat.le_succ 2)⟩
    exact ⟨⟨⟨hown.below le_rfl, trivial, driverCall_ordered hstartup⟩, hcall⟩,
      iteration_ordered (hown.mono (Nat.le_succ 2)) i, hcall⟩

end Levels

section Acts

variable (driver controllers) in
/-- `main` alone starts and stops threads and notifies the scheduler's, which alone waits without a
timeout. -/
def Allowed (t : ServiceThread controllers.length) : Code driver controllers → Prop
  | .wait m timed => timed = false → t = .scheduler ∧ m = .schedulerWait
  | .notify m => m = .schedulerWait → t = .main
  | .start u | .stop u _ => t = .main ∧ u ≠ .main
  | _ => True

variable {t : ServiceThread controllers.length}

theorem driverCall_allowed :
    (driverCall : Code driver controllers).Throughout (Allowed driver controllers t) := by
  apply LockCode.Throughout.map
  refine driver.timed.imp fun part hpart => ?_
  cases part with
  | wait lock timed =>
    rintro rfl
    exact absurd rfl (hpart lock)
  | notify lock => exact nofun
  | start thread => exact thread.elim
  | stop thread told => exact thread.elim
  | _ => trivial

theorem lastUpdateTimePoint_allowed (i : Fin controllers.length) :
    (lastUpdateTimePoint i : Code driver controllers).Throughout
      (Allowed driver controllers t) := by
  refine LockCode.throughout_any.mpr ?_
  intro code hcode
  obtain ⟨deviceControl, _, rfl⟩ := List.mem_map.mp hcode
  trivial

theorem send_allowed :
    (send : Code driver controllers).Throughout (Allowed driver controllers t) := by
  simp [send, LockCode.Throughout, Allowed]

theorem main_allowed :
    (main : Thread driver controllers).Throughout (Allowed driver controllers .main) := by
  constructor
  all_goals
    simp [main, createSmartWebToMqttGateway, destroySmartWebToMqttGateway, createController,
      destroyController, addHandler, removeHandler, addTask, LockCode.throughout_all,
      LockCode.Throughout, Allowed, driverCall_allowed]

theorem threads_allowed (t : ServiceThread controllers.length) :
    (threads driver controllers t).Throughout (Allowed driver controllers t) := by
  cases t with
  | main => exact main_allowed
  | canListener =>
    constructor
    all_goals
      simp [threads, canListener, setWriteConfirmed, runHandlers, readerHandle, handle,
        LockCode.throughout_any, LockCode.Throughout, Allowed]
  | scheduler =>
    constructor
    all_goals
      simp [threads, scheduler, makeIteration, handleMapping, send_allowed, LockCode.Throughout,
        Allowed]
  | canReader =>
    constructor
    all_goals
      simp [threads, canReader, get, handleFrame, addProgram, setParameter, driverCall_allowed,
        LockCode.Throughout, Allowed]
  | driver =>
    constructor
    all_goals
      simp [threads, driverLoop, eventHandlers, send_allowed, driverCall_allowed,
        lastUpdateTimePoint_allowed, LockCode.throughout_lockedAll, LockCode.throughout_any,
        LockCode.Throughout]
  | controller i =>
    constructor
    all_goals
      simp [threads, taskFn, iteration, selectTimeout, handleRequest, readMqttValue,
        sendScheduledOutputs, sendScheduledIAmHere, send_allowed, driverCall_allowed,
        lastUpdateTimePoint_allowed, LockCode.Throughout, Allowed]

theorem startsAndStops : StartsAndStops .main (threads driver controllers) where
  starts t := by
    refine (threads_allowed t).imp fun part hpart u heq => ?_
    subst heq
    exact hpart
  after := by
    have hcall : (driverCall : Code driver controllers).Throughout fun part =>
        ∀ u, part ≠ .start u := by
      refine (@driverCall_allowed driver _ .scheduler).imp fun part hpart u heq => ?_
      subst heq
      exact nomatch hpart.1
    simp [threads, main, destroySmartWebToMqttGateway, destroyController, removeHandler,
      LockCode.throughout_all, LockCode.Throughout, hcall]
  stops t hne := by
    cases t with
    | main => exact absurd rfl hne
    | _ =>
      simp [threads, main, LockCode.Stops, LockCode.stops_all, destroySmartWebToMqttGateway,
        destroyController]

end Acts

end Locking

section Runs

open Locking

variable (driver : DriverLocks) (controllers : List TMqttToSmartWebConfig)

abbrev ServiceState : Type :=
  LockState (Mutex driver.Lock controllers.length) (ServiceThread controllers.length)

abbrev ServiceStep : ServiceState driver controllers → ServiceThread controllers.length →
    ServiceState driver controllers → Prop :=
  LockStep (threads driver controllers)

abbrev ServiceRun (s : ServiceState driver controllers) : Prop :=
  Leads (LockEvent (threads driver controllers)) Anyhow
    (.initial .main (threads driver controllers .main)) s

variable {driver controllers} {s s' : ServiceState driver controllers}
  {t u : ServiceThread controllers.length}

theorem within_of_run (hrun : ServiceRun driver controllers s) :
    s.Within (Allowed driver controllers) :=
  .of_leads threads_allowed hrun

theorem joins_of_run (hrun : ServiceRun driver controllers s)
    {rest : List (LockFrame (Mutex driver.Lock controllers.length) _)}
    (hstack : s.stack t = .join u :: rest) : t = .main ∧ u ≠ .main := by
  obtain ⟨_, hallowed⟩ := within_of_run hrun t (.join u) (hstack ▸ List.mem_cons_self)
  exact hallowed

/-- Only the scheduler's thread waits without a timeout. -/
theorem sleeps_of_run (hrun : ServiceRun driver controllers s) (hsleeps : s.Sleeps t) :
    t = .scheduler := by
  obtain ⟨m, rest, hstack⟩ := hsleeps
  exact (within_of_run hrun t (.asleep m false) (hstack ▸ List.mem_cons_self) rfl).1

/-- Nobody waits for `main` while it joins a thread. -/
theorem not_waitsFor_joining (hrun : ServiceRun driver controllers s)
    {rest : List (LockFrame (Mutex driver.Lock controllers.length) _)}
    (hstack : s.stack .main = .join u :: rest) : ¬ s.WaitsFor t .main := by
  have horderly := LockState.orderly_of_leads threads_ordered hrun
  have hne := (joins_of_run hrun hstack).2
  rintro ⟨r, hwanted, hholds⟩
  have hbelow := horderly.ordered .main
  have hmem := horderly.mem_taken hholds
  rw [hstack] at hbelow hmem
  have hlt : (level (.ending u : Needed driver controllers)) < level r := hbelow.1 r hmem
  have hband : band (.ending u : Needed driver controllers) = 4 := by
    cases u with
    | main => exact absurd rfl hne
    | _ => rfl
  cases r with
  | ending t' =>
    obtain ⟨rfl, _⟩ := hholds
    obtain ⟨rest', hjoin⟩ := eq_join_of_wanted hwanted
    exact (joins_of_run hrun hjoin).2 rfl
  | mutex m =>
    have hle : band (.mutex m : Needed driver controllers) ≤ 3 := by
      cases m with
      | write | request => exact Nat.le_add_left 1 2
      | driver lock => exact Nat.le_add_left 2 1
      | handlers | tasks | schedulerWait | startup => exact le_rfl
      | writeConfirm | reader | canFrames i | lastUpdateTimePoint i deviceControl =>
        exact Nat.zero_le 3
    rcases Prod.Lex.toLex_lt_toLex.mp hlt with hless | ⟨heq, _⟩
    · omega
    · omega

/-- However the threads of the service interleave, with any number of virtual controllers and
whatever order the driver has for its own locks: no thread waits for a mutex or for the end of a
thread that waits, directly or through others, for itself; and whoever waits, waits in the end for
a thread that takes a step of its own, at the latest when its wait times out. Only `main` may wait
for more: it joins the scheduler's thread, and that waits for a notification without a timeout. -/
theorem locks_never_deadlock (hrun : ServiceRun driver controllers s) :
    (∀ t, ¬ Relation.TransGen s.WaitsFor t t) ∧
    ∀ t t', s.WaitsFor t t' →
      (∃ u s', Relation.TransGen s.WaitsFor t u ∧ ServiceStep driver controllers s u s') ∨
      (t = .main ∧ (s.stack .main).head? = some (.join .scheduler) ∧ s.Sleeps .scheduler) := by
  have horderly := LockState.orderly_of_leads threads_ordered hrun
  refine ⟨horderly.not_circular, fun t t' hwaits => ?_⟩
  rcases horderly.exists_ready hwaits with ⟨u, hchain, hready⟩ |
    ⟨v, u, rest, hchain, hstack, hsleeps⟩
  · obtain ⟨s', hstep⟩ := hready.can_step
    exact Or.inl ⟨u, s', hchain, hstep⟩
  · obtain rfl := sleeps_of_run hrun hsleeps
    obtain rfl := (joins_of_run hrun hstack).1
    rcases Relation.ReflTransGen.cases_tail hchain with rfl | ⟨w, _, hlast⟩
    · exact Or.inr ⟨rfl, by rw [hstack, List.head?_cons], hsleeps⟩
    · exact absurd hlast (not_waitsFor_joining hrun hstack)

/-- A driver with one lock, which is locked in its calls and around the event handlers. -/
def singleLock : DriverLocks where
  Lock := Unit
  level _ := 0
  call := .locked () .skip
  callback := [()]
  ordered := ⟨nofun, trivial⟩
  timed := trivial
  descending := List.pairwise_singleton _ _

def unmappedController : TMqttToSmartWebConfig where
  programId := 7
  parameterMapping := ∅
  outputMapping _ := .uninitialized ⟨0, 0, 0⟩
  parameterCount := 0
  mqttChannelsTiming := ∅

/-- While a handler is added, a frame comes. -/
theorem exists_canListener_waits :
    ∃ s, ServiceRun singleLock [unmappedController] s ∧ s.WaitsFor .canListener .main ∧
      ¬ Drowsy (s.stack .scheduler) := by
  let labels : List (ServiceThread [unmappedController].length × Bool) :=
    List.replicate 21 (.main, false) ++ [(.canListener, false), (.canListener, false),
      (.canListener, true), (.canListener, true)]
  let code := threads singleLock [unmappedController]
  have hrun : (labels.foldlM (fun s label => LockState.next? code s label.1 label.2)
      (LockState.initial .main (code .main))).map
        (fun s => (wanted (s.stack .canListener), s.holder .handlers,
          decide (Drowsy (s.stack .scheduler)))) =
      some (some (.mutex .handlers), some .main, false) := by
    decide +kernel
  obtain ⟨s, hs, heq⟩ := Option.map_eq_some_iff.mp hrun
  obtain ⟨hwanted, hothers⟩ := Prod.mk.inj heq
  obtain ⟨hholder, hdrowsy⟩ := Prod.mk.inj hothers
  exact ⟨s, leads_of_steps (leads_of_next? hs), ⟨_, hwanted, hholder⟩,
    of_decide_eq_false hdrowsy⟩

theorem locks_never_deadlock_adding :
    ∃ s : ServiceState singleLock [unmappedController], s.WaitsFor .canListener .main ∧
      ¬ Relation.TransGen s.WaitsFor .canListener .canListener ∧
      ∃ u s', Relation.TransGen s.WaitsFor .canListener u ∧
        ServiceStep singleLock [unmappedController] s u s' := by
  obtain ⟨s, hrun, hwaits, _⟩ := exists_canListener_waits
  obtain ⟨hcircle, hgoes⟩ := locks_never_deadlock hrun
  exact ⟨s, hwaits, hcircle _, (hgoes _ _ hwaits).resolve_right nofun⟩

theorem not_drowsy_of_run (hrun : ServiceRun driver controllers s) (hne : t ≠ .scheduler) :
    ¬ Drowsy (s.stack t) :=
  (within_of_run hrun).not_drowsy fun _ hwaits => hne (hwaits rfl).1

theorem not_drowsy_frames (t : ServiceThread controllers.length) :
    ¬ Drowsy (threads driver controllers t).frames := by
  by_cases hne : t = .scheduler
  · subst hne
    simp [threads, scheduler, LoopingThread.frames, Drowsy, LockFrame.Drowsy, LockCode.Drowsy]
  · have hallowed := @threads_allowed driver _ t
    have hwaits : ∀ m, ¬ Allowed driver controllers t (.wait m false) := fun _ h => hne (h rfl).1
    have hbefore := hallowed.before.not_drowsy hwaits
    have hafter := hallowed.after.not_drowsy hwaits
    simp [LoopingThread.frames, Drowsy, LockFrame.Drowsy, hbefore, hafter]

/-- The end of the service, in every run: when `main` has ended, no thread of the service runs any
more. As long as the scheduler's thread is not bound to wait for a notification without a timeout,
`main` can still get to its end, past every mutex, notification and thread that it waits for. When
`main` joins that thread and it is, the notification of the end has missed it: `main` never ends
then, unless a wait ends without any cause. -/
theorem service_can_end (hrun : ServiceRun driver controllers s) :
    (s.stack .main = [] → ∀ t, s.stack t = []) ∧
    (¬ Drowsy (s.stack .scheduler) →
      ∃ s', Leads (ServiceStep driver controllers) Anyhow s s' ∧ ∀ t, s'.stack t = []) ∧
    (s.Missed .main .scheduler →
      ∀ s', Leads (ServiceStep driver controllers) Anyhow s s' → s'.stack .main ≠ []) := by
  have horderly := LockState.orderly_of_leads threads_ordered hrun
  obtain ⟨hattended, hdone⟩ := LockState.attended_of_leads startsAndStops hrun
  refine ⟨hattended.all_ended, fun hawake => ?_, fun hmissed s' hrest hended => ?_⟩
  · have hall : ∀ t, ¬ Drowsy (s.stack t) := by
      intro t
      by_cases heq : t = .scheduler
      · rw [heq]
        exact hawake
      · exact not_drowsy_of_run hrun heq
    obtain ⟨s', hrest, hended⟩ := horderly.can_end threads_ordered startsAndStops.starts
      not_drowsy_frames hdone hall
    obtain ⟨hattended', _⟩ :=
      LockState.attended_of_leads startsAndStops (hrun.trans (leads_of_steps hrest))
    exact ⟨s', hrest, hattended'.all_ended hended⟩
  · have honly : ∀ t m, Allowed driver controllers .scheduler (.wait m false) →
        Allowed driver controllers t (.notify m) → t = .main :=
      fun t m hwaits hnotifies => hnotifies (hwaits rfl).2
    have hstill := hmissed.leads (within_of_run hrun) threads_allowed honly nofun hrest
    have hjoined := hstill.joined
    rw [hended] at hjoined
    cases hjoined

/-- The scheduler's thread sees no task, and it is still on its way to the wait when the end of the
service is notified. -/
theorem exists_missed : ∃ s, ServiceRun singleLock [] s ∧ s.Missed .main .scheduler := by
  let labels : List (ServiceThread ([] : List TMqttToSmartWebConfig).length × Bool) :=
    List.replicate 11 (.main, false) ++ List.replicate 7 (.scheduler, false) ++
      List.replicate 25 (.main, false)
  let code := threads singleLock []
  have hrun : (labels.foldlM (fun s label => LockState.next? code s label.1 label.2)
      (LockState.initial .main (code .main))).map
        (fun s => (wanted (s.stack .main), decide (Drowsy (s.stack .scheduler)))) =
      some (some (.ending .scheduler), true) := by
    decide +kernel
  obtain ⟨s, hs, heq⟩ := Option.map_eq_some_iff.mp hrun
  obtain ⟨hwanted, hdrowsy⟩ := Prod.mk.inj heq
  obtain ⟨rest, hstack⟩ := eq_join_of_wanted hwanted
  exact ⟨s, leads_of_steps (leads_of_next? hs), by rw [hstack, List.head?_cons],
    of_decide_eq_true hdrowsy⟩

theorem service_can_end_adding :
    (∃ s s' : ServiceState singleLock [unmappedController], s.WaitsFor .canListener .main ∧
      Leads (ServiceStep singleLock [unmappedController]) Anyhow s s' ∧
      ∀ t, s'.stack t = []) ∧
    ∃ s : ServiceState singleLock [], s.Missed .main .scheduler ∧
      ∀ s', Leads (ServiceStep singleLock []) Anyhow s s' → s'.stack .main ≠ [] := by
  constructor
  · obtain ⟨s, hrun, hwaits, hawake⟩ := exists_canListener_waits
    obtain ⟨s', hrest, hended⟩ := (service_can_end hrun).2.1 hawake
    exact ⟨s, s', hwaits, hrest, hended⟩
  · obtain ⟨s, hrun, hmissed⟩ := exists_missed
    exact ⟨s, hmissed, (service_can_end hrun).2.2 hmissed⟩

end Runs

end SmartWebGateway
