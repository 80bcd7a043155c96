import FusionAccess.Discovery.Publication
import FusionAccess.Discovery.UdevMonitor
import Mathlib.Data.List.Chain
import Mathlib.Order.MinMax

/-!
# Events of udev

A line that reports a device is not forgotten between the goroutines: it is on its way
until a probe begins after it. A burst of lines leads to one probe, and the probes that
lines lead to keep their distance.
-/

namespace Discovery

open Kubernetes Interaction

/-! ## What a history tells -/

/-- A line that reports an event was read, and no probe has begun since. -/
def unprobed : List MonitorEvent → Bool
  | [] => false
  | .line text :: earlier => isUdevEvent text || unprobed earlier
  | .trigger :: _ => false
  | .interval :: _ => false
  | _ :: earlier => unprobed earlier

/-- The seconds that have passed. -/
def elapsed : List MonitorEvent → Nat
  | [] => 0
  | .elapse seconds :: earlier => elapsed earlier + seconds
  | _ :: earlier => elapsed earlier

/-- When events have led to probes, the latest first. -/
def triggers : List MonitorEvent → List Nat
  | [] => []
  | .trigger :: earlier => elapsed earlier :: triggers earlier
  | _ :: earlier => triggers earlier

/-- How many lines have reported an event. -/
def udevLines : List MonitorEvent → Nat
  | [] => 0
  | .line text :: earlier => udevLines earlier + if isUdevEvent text then 1 else 0
  | _ :: earlier => udevLines earlier

/-! ## No event is forgotten -/

/-- An event is on its way. -/
def Monitoring.carries (state : Monitoring) : Bool :=
  match state.rawMonitor, state.monitor with
  | .sending _, _ => true
  | _, .collecting _ _ => true
  | _, .sending _ => true
  | _, _ => false

/-- The goroutines have not been started, or they run and what is not probed yet is on
its way. -/
def Relays (history : List MonitorEvent) (state : Monitoring) : Prop :=
  (state.rawMonitor = .inactive ∧ state.monitor = .inactive ∧ unprobed history = false) ∨
    (state.rawMonitor ≠ .inactive ∧ state.monitor ≠ .inactive ∧
      (∀ rest, state.loop ≠ .starting rest) ∧
        (unprobed history = true → state.carries = true))

section Relay

variable {env : Environment} {history : List MonitorEvent} {state before after : Monitoring}

/-- A line that is collected is on its way. -/
theorem carries_of_collecting
    {event : String} {timeout : Nat} (collects : state.monitor = .collecting event timeout) :
    state.carries = true := by
  unfold Monitoring.carries
  rw [collects]
  cases state.rawMonitor <;> rfl

/-- An event that is sent is on its way. -/
theorem carries_of_sending {event : String} (sends : state.monitor = .sending event) :
    state.carries = true := by
  unfold Monitoring.carries
  rw [sends]
  cases state.rawMonitor <;> rfl

/-- A call forgets nothing. -/
theorem Relays.issue
    {event : MonitorEvent} {choice : ProbeChoice} {listing : Bool}
    (relays : Relays history before)
    (silent : unprobed (event :: history) = unprobed history)
    (issued : before.issue choice listing = some after) :
    Relays (event :: history) after := by
  unfold Relays
  rw [silent]
  obtain ⟨request, next, _, ⟨starts, rfl⟩ | ⟨_, rfl⟩⟩ := Monitoring.issue_cases issued
  · rcases relays with first | ⟨_, _, started, _⟩
    · exact Or.inl first
    · exact absurd starts (started _)
  · rcases relays with first | ⟨running, collecting, _, carried⟩
    · exact Or.inl first
    · exact Or.inr ⟨running, collecting, by simp, carried⟩

/-- The loop forgets nothing when it begins to wait. -/
theorem Relays.select
    {event : MonitorEvent} {discovery : DeviceDiscovery}
    (relays : Relays history before)
    (silent : unprobed (event :: history) = unprobed history) :
    Relays (event :: history) (Monitoring.select { before with discovery := discovery }) := by
  unfold Relays
  rw [silent]
  rcases relays with first | ⟨running, collecting, _, carried⟩
  · exact Or.inl first
  · exact Or.inr ⟨running, collecting, by simp [Monitoring.select], carried⟩

/-- As long as the output of `udevadm` is read, one step forgets nothing. -/
theorem Relays.step
    {event : MonitorEvent}
    (relays : Relays history before)
    (reading : event ≠ .outputEnds)
    (moved : before.step env event = some after) :
    Relays (event :: history) after := by
  cases event with
  | line text =>
      obtain ⟨scans, rfl⟩ := Monitoring.step_line moved
      rcases relays with ⟨stopped, _⟩ | ⟨running, collecting, started, carried⟩
      · rw [scans] at stopped
        cases stopped
      · by_cases isEvent : isUdevEvent text = true
        · rw [if_pos isEvent]
          exact Or.inr ⟨by simp, collecting, started, fun _ => rfl⟩
        · rw [if_neg isEvent]
          refine Or.inr ⟨running, collecting, started, fun unseen => carried ?_⟩
          rw [unprobed, Bool.eq_false_iff.mpr isEvent, Bool.false_or] at unseen
          exact unseen
  | outputEnds => exact absurd rfl reading
  | collect =>
      obtain ⟨text, sends, ⟨waits, rfl⟩ | ⟨event, timeout, collects, rfl⟩⟩ :=
        Monitoring.step_collect moved
      · rcases relays with ⟨stopped, _⟩ | ⟨_, _, started, _⟩
        · rw [sends] at stopped
          cases stopped
        · exact Or.inr ⟨by simp, by simp, started, fun _ => carries_of_collecting rfl⟩
      · rcases relays with ⟨stopped, _⟩ | ⟨_, running, started, _⟩
        · rw [sends] at stopped
          cases stopped
        · exact Or.inr ⟨by simp, running, started, fun _ => carries_of_collecting collects⟩
  | expire =>
      obtain ⟨event, timeout, collects, _, rfl⟩ := Monitoring.step_expire moved
      rcases relays with ⟨_, stopped, _⟩ | ⟨running, _, started, _⟩
      · rw [collects] at stopped
        cases stopped
      · exact Or.inr ⟨running, by simp, started, fun _ => carries_of_sending rfl⟩
  | trigger =>
      obtain ⟨event, timeout, sends, _, _, rfl⟩ := Monitoring.step_trigger moved
      rcases relays with ⟨_, stopped, _⟩ | ⟨running, _, _, _⟩
      · rw [sends] at stopped
        cases stopped
      · exact Or.inr ⟨running, by simp [Monitoring.probe], by simp [Monitoring.probe],
          fun impossible => by cases impossible⟩
  | interval =>
      obtain ⟨timeout, _, _, rfl⟩ := Monitoring.step_interval moved
      rcases relays with ⟨stopped, apart, _⟩ | ⟨running, collecting, _, _⟩
      · exact Or.inl ⟨stopped, apart, rfl⟩
      · exact Or.inr ⟨running, collecting, by simp [Monitoring.probe],
          fun impossible => by cases impossible⟩
  | list lsblk => exact relays.issue rfl moved
  | call fault => exact relays.issue rfl moved
  | finish =>
      obtain ⟨discovery, ⟨starts, rfl⟩ | ⟨_, rfl⟩⟩ := Monitoring.step_finish moved
      · rcases relays with ⟨_, _, seen⟩ | ⟨_, _, started, _⟩
        · refine Or.inr ⟨by simp [Monitoring.monitoring, Monitoring.select],
            by simp [Monitoring.monitoring, Monitoring.select],
            by simp [Monitoring.monitoring, Monitoring.select], fun unseen => ?_⟩
          exact absurd (seen.symm.trans unseen) Bool.false_ne_true
        · exact absurd starts (started _)
      · exact relays.select rfl
  | fail =>
      obtain ⟨discovery, err, ⟨starts, rfl⟩ | ⟨_, rfl⟩⟩ := Monitoring.step_fail moved
      · rcases relays with first | ⟨_, _, started, _⟩
        · exact Or.inl first
        · exact absurd starts (started _)
      · exact relays.select rfl
  | close =>
      obtain ⟨stopped, open_, _, rfl⟩ := Monitoring.step_close moved
      rcases relays with ⟨_, apart, _⟩ | ⟨running, _⟩
      · exact absurd apart open_
      · exact absurd stopped running
  | disable =>
      obtain ⟨timeout, stopped, _, _, rfl⟩ := Monitoring.step_disable moved
      rcases relays with first | ⟨_, running, _⟩
      · exact Or.inl first
      · exact absurd stopped running
  | shutdown =>
      obtain ⟨timeout, _, rfl⟩ := Monitoring.step_shutdown moved
      rcases relays with first | ⟨running, collecting, _, carried⟩
      · exact Or.inl first
      · exact Or.inr ⟨running, collecting, by simp, carried⟩
  | elapse seconds =>
      obtain rfl := Monitoring.step_elapse moved
      exact relays
  | change store =>
      obtain rfl := Monitoring.step_change moved
      exact relays

/-- What is not on its way is probed. -/
theorem Relays.unprobed_eq_false
    (relays : Relays history state) (rests : state.carries = false) :
    unprobed history = false := by
  rcases relays with ⟨_, _, seen⟩ | ⟨_, _, _, carried⟩
  · exact seen
  · rw [Bool.eq_false_iff]
    intro unseen
    rw [carried unseen] at rests
    cases rests

/-- No order of steps forgets anything. -/
theorem relays_of_run
    {admitted : Monitoring → MonitorEvent → Prop} {store : Store}
    (run : (monitoringMachine env).Run admitted (Monitoring.initial env store) history state)
    (reading : MonitorEvent.outputEnds ∉ history) :
    Relays history state := by
  refine @Machine.Run.invariant _ _ _ _ _ _ _ (fun history state =>
    MonitorEvent.outputEnds ∉ history → Relays history state) run
    (fun _ => Or.inl ⟨rfl, rfl, rfl⟩) ?_ reading
  intro history before event after relays _ moved reading
  rw [List.mem_cons, not_or] at reading
  exact (relays reading.2).step (Ne.symm reading.1) moved

/-- In every order of steps, as long as the output of `udevadm` is read, a line that
reports an event is on its way until a probe begins after it. -/
theorem no_udev_event_forgotten
    {admitted : Monitoring → MonitorEvent → Prop} {store : Store}
    (run : (monitoringMachine env).Run admitted (Monitoring.initial env store) history state)
    (reading : MonitorEvent.outputEnds ∉ history)
    (rests : state.carries = false) :
    unprobed history = false :=
  (relays_of_run run reading).unprobed_eq_false rests

end Relay

/-! ## Probes keep their distance -/

/-- The earliest moment at which an event can lead to a probe. -/
def Monitoring.nextTrigger (state : Monitoring) : Nat :=
  match state.monitor with
  | .collecting _ timeout => max timeout state.clock
  | .sending _ => state.clock
  | _ => state.clock + udevEventPeriod

/-- The number of lines that `rawUdevBlockMonitor` has read and not sent. -/
def RawUdevBlockMonitor.held : RawUdevBlockMonitor → Nat
  | .sending _ => 1
  | _ => 0

/-- The number of events that `udevBlockMonitor` has received and not sent. -/
def UdevBlockMonitor.held : UdevBlockMonitor → Nat
  | .collecting _ _ => 1
  | .sending _ => 1
  | _ => 0

/-- What is known about the probes that events have led to, and the next one. -/
structure Sparse (history : List MonitorEvent) (state : Monitoring) : Prop where
  clock : state.clock = elapsed history
  apart : (triggers history).IsChain fun later earlier => earlier + udevEventPeriod ≤ later
  next : ∀ last ∈ (triggers history).head?, last + udevEventPeriod ≤ state.nextTrigger
  rate : ((triggers history).length + 1) * udevEventPeriod ≤ state.nextTrigger
  bounded : ∀ event timeout, state.monitor = .collecting event timeout →
    timeout ≤ state.clock + udevEventPeriod
  caused : (triggers history).length + state.rawMonitor.held + state.monitor.held ≤
    udevLines history

section Distance

variable {env : Environment} {history : List MonitorEvent} {state before after : Monitoring}

/-- The timer of a period brings the next probe no further than the period away. -/
theorem Sparse.nextTrigger_le (sparse : Sparse history state) :
    state.nextTrigger ≤ state.clock + udevEventPeriod := by
  unfold Monitoring.nextTrigger
  cases monitor : state.monitor with
  | inactive => exact le_rfl
  | waiting => exact le_rfl
  | collecting event timeout =>
      exact max_le (sparse.bounded event timeout monitor) (Nat.le_add_right _ _)
  | sending event => exact Nat.le_add_right _ _

/-- A step that leads to no probe leaves the distance when the next probe is not brought
forward. -/
theorem Sparse.quiet
    {event : MonitorEvent}
    (sparse : Sparse history before)
    (unprobing : triggers (event :: history) = triggers history)
    (clock : after.clock = elapsed (event :: history))
    (later : before.nextTrigger ≤ after.nextTrigger)
    (bounded : ∀ event timeout, after.monitor = .collecting event timeout →
      timeout ≤ after.clock + udevEventPeriod)
    (caused : (triggers history).length + after.rawMonitor.held + after.monitor.held ≤
      udevLines (event :: history)) :
    Sparse (event :: history) after where
  clock := clock
  apart := by rw [unprobing]; exact sparse.apart
  next := by
    rw [unprobing]
    exact fun last isLast => (sparse.next last isLast).trans later
  rate := by rw [unprobing]; exact sparse.rate.trans later
  bounded := bounded
  caused := by rw [unprobing]; exact caused

/-- A step that takes no time and does not touch the goroutines leaves the distance. -/
theorem Sparse.ofLoop
    {event : MonitorEvent}
    (sparse : Sparse history before)
    (untimed : elapsed (event :: history) = elapsed history)
    (unprobing : triggers (event :: history) = triggers history)
    (silent : udevLines (event :: history) = udevLines history)
    (sameClock : after.clock = before.clock)
    (sameRaw : after.rawMonitor = before.rawMonitor)
    (same : after.monitor = before.monitor) :
    Sparse (event :: history) after := by
  refine sparse.quiet unprobing (by rw [sameClock, untimed, sparse.clock]) ?_ ?_ ?_
  · unfold Monitoring.nextTrigger
    rw [same, sameClock]
  · rw [same, sameClock]
    exact sparse.bounded
  · rw [same, sameRaw, silent]
    exact sparse.caused

/-- One step keeps the distance. -/
theorem Sparse.step
    {event : MonitorEvent}
    (sparse : Sparse history before)
    (moved : before.step env event = some after) :
    Sparse (event :: history) after := by
  have caused := sparse.caused
  cases event with
  | line text =>
      obtain ⟨scans, rfl⟩ := Monitoring.step_line moved
      rw [scans] at caused
      by_cases isEvent : isUdevEvent text = true
      · rw [if_pos isEvent]
        refine sparse.quiet rfl sparse.clock le_rfl sparse.bounded ?_
        rw [udevLines, if_pos isEvent]
        dsimp only [RawUdevBlockMonitor.held] at caused ⊢
        omega
      · rw [if_neg isEvent]
        refine sparse.quiet rfl sparse.clock le_rfl sparse.bounded ?_
        rw [udevLines, if_neg isEvent]
        exact sparse.caused
  | outputEnds =>
      obtain ⟨scans, rfl⟩ := Monitoring.step_outputEnds moved
      rw [scans] at caused
      exact sparse.quiet rfl sparse.clock le_rfl sparse.bounded caused
  | collect =>
      obtain ⟨text, sends, ⟨waits, rfl⟩ | ⟨event, timeout, collects, rfl⟩⟩ :=
        Monitoring.step_collect moved
      · rw [sends, waits] at caused
        refine sparse.quiet rfl sparse.clock ?_ ?_ caused
        · unfold Monitoring.nextTrigger
          rw [waits]
          exact le_max_left _ _
        · rintro _ _ ⟨⟩
          exact le_rfl
      · rw [sends] at caused
        refine sparse.quiet rfl sparse.clock le_rfl sparse.bounded ?_
        dsimp only [RawUdevBlockMonitor.held] at caused ⊢
        change _ ≤ udevLines history
        omega
  | expire =>
      obtain ⟨event, timeout, collects, passed, rfl⟩ := Monitoring.step_expire moved
      rw [collects] at caused
      refine sparse.quiet rfl sparse.clock ?_ (by simp) caused
      unfold Monitoring.nextTrigger
      rw [collects]
      exact max_le passed le_rfl
  | trigger =>
      obtain ⟨event, timeout, sends, _, _, rfl⟩ := Monitoring.step_trigger moved
      have now : before.nextTrigger = elapsed history := by
        unfold Monitoring.nextTrigger
        rw [sends]
        exact sparse.clock
      rw [sends] at caused
      refine ⟨sparse.clock, ?_, ?_, ?_, by simp [Monitoring.probe], ?_⟩
      · rw [triggers, List.isChain_cons]
        refine ⟨fun last isLast => ?_, sparse.apart⟩
        rw [← now]
        exact sparse.next last isLast
      · rintro last ⟨⟩
        exact (congrArg (· + udevEventPeriod) sparse.clock).ge
      · have rate := sparse.rate
        rw [now, ← sparse.clock] at rate
        rw [triggers, List.length_cons, Nat.succ_mul]
        exact Nat.add_le_add_right rate _
      · rw [triggers, List.length_cons]
        dsimp only [Monitoring.probe, UdevBlockMonitor.held] at caused ⊢
        change _ ≤ udevLines history
        omega
  | interval =>
      obtain ⟨timeout, _, _, rfl⟩ := Monitoring.step_interval moved
      exact sparse.ofLoop rfl rfl rfl rfl rfl rfl
  | list lsblk =>
      obtain ⟨request, next, _, ⟨_, rfl⟩ | ⟨_, rfl⟩⟩ := Monitoring.issue_cases moved
      · exact sparse.ofLoop rfl rfl rfl rfl rfl rfl
      · exact sparse.ofLoop rfl rfl rfl rfl rfl rfl
  | call fault =>
      obtain ⟨request, next, _, ⟨_, rfl⟩ | ⟨_, rfl⟩⟩ := Monitoring.issue_cases moved
      · exact sparse.ofLoop rfl rfl rfl rfl rfl rfl
      · exact sparse.ofLoop rfl rfl rfl rfl rfl rfl
  | finish =>
      obtain ⟨discovery, ⟨_, rfl⟩ | ⟨_, rfl⟩⟩ := Monitoring.step_finish moved
      · refine sparse.quiet rfl sparse.clock sparse.nextTrigger_le ?_ ?_
        · intro event timeout impossible
          cases impossible
        · exact (Nat.le_add_right _ _).trans ((Nat.le_add_right _ _).trans caused)
      · exact sparse.ofLoop rfl rfl rfl rfl rfl rfl
  | fail =>
      obtain ⟨discovery, err, ⟨_, rfl⟩ | ⟨_, rfl⟩⟩ := Monitoring.step_fail moved
      · exact sparse.ofLoop rfl rfl rfl rfl rfl rfl
      · exact sparse.ofLoop rfl rfl rfl rfl rfl rfl
  | close =>
      obtain ⟨_, _, _, rfl⟩ := Monitoring.step_close moved
      refine sparse.quiet rfl sparse.clock sparse.nextTrigger_le (by simp) ?_
      exact (Nat.le_add_right _ _).trans caused
  | disable =>
      obtain ⟨timeout, _, _, _, rfl⟩ := Monitoring.step_disable moved
      exact sparse.ofLoop rfl rfl rfl rfl rfl rfl
  | shutdown =>
      obtain ⟨timeout, _, rfl⟩ := Monitoring.step_shutdown moved
      exact sparse.ofLoop rfl rfl rfl rfl rfl rfl
  | elapse seconds =>
      obtain rfl := Monitoring.step_elapse moved
      refine sparse.quiet rfl (congrArg (· + seconds) sparse.clock) ?_ ?_ caused
      · unfold Monitoring.nextTrigger Monitoring.wait
        dsimp only
        split
        · exact max_le_max le_rfl (Nat.le_add_right _ _)
        · exact Nat.le_add_right _ _
        · exact Nat.add_le_add_right (Nat.le_add_right _ _) _
      · intro event timeout collects
        have soon := sparse.bounded event timeout collects
        dsimp only [Monitoring.wait]
        omega
  | change store =>
      obtain rfl := Monitoring.step_change moved
      exact sparse.ofLoop rfl rfl rfl rfl rfl rfl

/-- In every order of steps, the probes that events of udev lead to are a period apart,
there are no more of them than there were periods, and no more than there were lines that
reported an event. -/
theorem udev_probes_sparse
    {admitted : Monitoring → MonitorEvent → Prop} {store : Store}
    (run : (monitoringMachine env).Run admitted (Monitoring.initial env store) history state) :
    ((triggers history).IsChain fun later earlier => earlier + udevEventPeriod ≤ later) ∧
      (triggers history).length * udevEventPeriod ≤ elapsed history ∧
        (triggers history).length ≤ udevLines history := by
  have sparse : Sparse history state := by
    refine run.invariant ?_ fun _ _ _ _ sparse _ moved => sparse.step moved
    refine ⟨rfl, List.IsChain.nil, by simp [triggers], le_rfl, by simp [Monitoring.initial], ?_⟩
    exact le_rfl
  refine ⟨sparse.apart, ?_, ?_⟩
  · have rate := sparse.rate.trans sparse.nextTrigger_le
    rw [Nat.succ_mul, sparse.clock] at rate
    exact Nat.le_of_add_le_add_right rate
  · exact (Nat.le_add_right _ _).trans ((Nat.le_add_right _ _).trans sparse.caused)

end Distance

/-! ## A disk that is plugged in -/

/-- A line of `udevadm` about a new disk. -/
def addLine : String := "UDEV  [8214.335] add      /devices/pci0000:00/block/sdc (block)"

/-- A daemon that starts on a node without disks. -/
def startedDaemon : List MonitorEvent :=
  [.finish, .list (.ok []), .call .none, .call .none, .call .none]

/-- A disk is plugged in, and the loop begins to probe. -/
def pluggedIn : List MonitorEvent :=
  [.trigger, .expire, .elapse 5, .collect, .line addLine] ++ startedDaemon

/-- The state after a history that begins on an empty store. -/
def replayed
    (admitted : Monitoring → MonitorEvent → Prop)
    [∀ state event, Decidable (admitted state event)] (history : List MonitorEvent) :
    Option Monitoring :=
  (monitoringMachine nodeEnvironment).replay admitted
    (Monitoring.initial nodeEnvironment {}) history

theorem run_of_replayed
    {admitted : Monitoring → MonitorEvent → Prop}
    [∀ state event, Decidable (admitted state event)] {history : List MonitorEvent}
    (reached : (replayed admitted history).isSome = true) :
    (monitoringMachine nodeEnvironment).Run admitted
      (Monitoring.initial nodeEnvironment {}) history
      ((replayed admitted history).get reached) :=
  Machine.run_of_replay (Option.some_get reached).symm

theorem isSome_pluggedIn : (replayed (fun _ _ => True) pluggedIn).isSome = true := by
  decide +kernel

/-- Nothing is on its way then. -/
theorem no_udev_event_forgotten_pluggedIn : unprobed pluggedIn = false :=
  no_udev_event_forgotten (run_of_replayed isSome_pluggedIn)
    (by simp [pluggedIn, startedDaemon]) (by decide +kernel)

/-- One probe after one line and one period. -/
theorem udev_probes_sparse_pluggedIn :
    ((triggers pluggedIn).IsChain fun later earlier => earlier + udevEventPeriod ≤ later) ∧
      (triggers pluggedIn).length * udevEventPeriod ≤ elapsed pluggedIn ∧
        (triggers pluggedIn).length ≤ udevLines pluggedIn :=
  udev_probes_sparse (run_of_replayed isSome_pluggedIn)

end Discovery
