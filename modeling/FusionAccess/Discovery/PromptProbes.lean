import FusionAccess.Discovery.UdevEvents

/-!
# Prompt probes

Goroutines that can move do so at once, apart from the loop while it probes: its calls take
time. Then an event waits no longer than the period in which events are collected, not
counting the time that another probe takes.
-/

namespace Discovery

open Kubernetes Interaction

/-! ## Time -/

/-- Something can happen that does not take time. -/
def Monitoring.isUrgent (env : Environment) (state : Monitoring) : Bool :=
  [MonitorEvent.collect, .expire, .trigger, .interval, .close, .disable].any fun event =>
    (state.step env event).isSome

/-- Time passes only while nothing can happen that does not take time. -/
def isPrompt (env : Environment) (state : Monitoring) : MonitorEvent → Bool
  | .elapse seconds =>
      (List.range seconds).all fun passed => !(state.wait passed).isUrgent env
  | _ => true

/-- The goroutines move at once. -/
abbrev Prompt (env : Environment) (state : Monitoring) (event : MonitorEvent) : Prop :=
  isPrompt env state event = true

/-- The loop probes, or did when it was last heard of. -/
def isProbing : List MonitorEvent → Bool
  | [] => false
  | .trigger :: _ => true
  | .interval :: _ => true
  | .finish :: _ => false
  | .fail :: _ => false
  | _ :: earlier => isProbing earlier

/-- How long the first line that reports an event has waited for a probe, apart from the
time that another probe took. -/
def overdue : List MonitorEvent → Nat
  | [] => 0
  | .trigger :: _ => 0
  | .interval :: _ => 0
  | .elapse seconds :: earlier =>
      overdue earlier + if unprobed earlier && !isProbing earlier then seconds else 0
  | _ :: earlier => overdue earlier

/-! ## What is kept in time -/

/-- The loop waits, or it probes and the history says so. -/
def Working (history : List MonitorEvent) (loop : DiscoveryLoop) : Prop :=
  (∃ timeout, loop = .selecting timeout) ∨
    (∃ rest, loop = .probing rest) ∧ isProbing history = true

/-- How long an event may have waited, depending on where it is. -/
def InTime (history : List MonitorEvent) (state : Monitoring) : Prop :=
  match state.monitor with
  | .inactive => False
  | .waiting => overdue history = 0 ∧
      (unprobed history = true → ∃ text, state.rawMonitor = .sending text)
  | .collecting _ timeout => state.clock ≤ timeout ∧
      overdue history + timeout ≤ state.clock + udevEventPeriod
  | .sending _ => overdue history ≤ udevEventPeriod

/-- The goroutines have not been started, or they run and every event is in time. -/
def Timely (history : List MonitorEvent) (state : Monitoring) : Prop :=
  (state.rawMonitor = .inactive ∧ state.monitor = .inactive ∧
      unprobed history = false ∧ overdue history = 0) ∨
    (state.rawMonitor ≠ .inactive ∧ state.udevEvents = true ∧
      Working history state.loop ∧ InTime history state)

section Deadlines

variable {env : Environment} {history : List MonitorEvent} {state before after : Monitoring}

/-- Where something can happen at once, no time passes. -/
theorem eq_zero_of_urgent
    {seconds passed : Nat} {event : MonitorEvent}
    (prompt : Prompt env state (.elapse seconds))
    (urgent : event ∈ [MonitorEvent.collect, .expire, .trigger, .interval, .close, .disable])
    (possible : ((state.wait passed).step env event).isSome = true) :
    seconds ≤ passed := by
  by_contra longer
  have calm := List.all_eq_true.mp prompt passed
    (List.mem_range.mpr (Nat.lt_of_not_le longer))
  rw [Bool.not_eq_true', Monitoring.isUrgent, List.any_eq_false] at calm
  exact calm event urgent possible

/-- What is in time has not waited longer than a period. -/
theorem InTime.overdue_le (inTime : InTime history state) :
    overdue history ≤ udevEventPeriod := by
  unfold InTime at inTime
  cases monitor : state.monitor with
  | inactive => rw [monitor] at inTime; exact inTime.elim
  | waiting => rw [monitor] at inTime; exact inTime.1.trans_le (Nat.zero_le _)
  | collecting event timeout =>
      rw [monitor] at inTime
      obtain ⟨early, soon⟩ := inTime
      omega
  | sending event => rw [monitor] at inTime; exact inTime

/-- A step that says nothing about events leaves every event in time. -/
theorem InTime.ofLoop
    {event : MonitorEvent}
    (inTime : InTime history before)
    (sameDelay : overdue (event :: history) = overdue history)
    (sameEvents : unprobed (event :: history) = unprobed history)
    (sameRaw : after.rawMonitor = before.rawMonitor)
    (same : after.monitor = before.monitor)
    (sameClock : after.clock = before.clock) :
    InTime (event :: history) after := by
  unfold InTime at inTime ⊢
  rw [same, sameRaw, sameClock, sameDelay, sameEvents]
  exact inTime

/-- A probe is in time for every event. -/
theorem inTime_of_probed
    {event : MonitorEvent}
    (inTime : InTime history before)
    (prompt : overdue (event :: history) = 0)
    (seen : unprobed (event :: history) = false)
    (same : after.monitor = before.monitor)
    (sameClock : after.clock = before.clock) :
    InTime (event :: history) after := by
  unfold InTime at inTime ⊢
  rw [same, sameClock, prompt, seen]
  cases monitor : before.monitor with
  | inactive =>
      rw [monitor] at inTime
      exact inTime
  | waiting => exact ⟨rfl, fun impossible => by cases impossible⟩
  | collecting event timeout =>
      rw [monitor] at inTime
      exact ⟨inTime.1, Nat.add_le_add_right (Nat.zero_le _) _ |>.trans inTime.2⟩
  | sending event => exact Nat.zero_le _

/-- What waits does not wait longer than it may. -/
theorem InTime.wait
    {seconds : Nat}
    (inTime : InTime history before)
    (receives : before.udevEvents = true)
    (working : Working history before.loop)
    (prompt : Prompt env before (.elapse seconds)) :
    InTime (.elapse seconds :: history) (before.wait seconds) := by
  unfold InTime at inTime ⊢
  cases monitor : before.monitor with
  | inactive =>
      rw [monitor] at inTime
      exact inTime.elim
  | waiting =>
      rw [monitor] at inTime
      simp only [Monitoring.wait, monitor]
      refine ⟨?_, inTime.2⟩
      rw [overdue, inTime.1, Nat.zero_add]
      by_cases unseen : unprobed history = true
      · obtain ⟨text, sends⟩ := inTime.2 unseen
        -- the line is collected at once
        have none : seconds ≤ 0 := eq_zero_of_urgent prompt
          (show MonitorEvent.collect ∈ _ by simp)
          (by simp [Monitoring.step, Monitoring.wait, sends, monitor])
        rw [Nat.le_zero.mp none, ite_self]
      · rw [Bool.eq_false_iff.mpr unseen]
        rfl
  | collecting event timeout =>
      rw [monitor] at inTime
      simp only [Monitoring.wait, monitor]
      -- the timer fires as soon as it may
      have soon : seconds ≤ timeout - before.clock := eq_zero_of_urgent prompt
        (show MonitorEvent.expire ∈ _ by simp)
        (by simp [Monitoring.step, Monitoring.wait, monitor, Nat.add_sub_cancel' inTime.1])
      have delay : overdue (.elapse seconds :: history) ≤ overdue history + seconds := by
        rw [overdue]
        split <;> omega
      omega
  | sending event =>
      rw [monitor] at inTime
      simp only [Monitoring.wait, monitor]
      rcases working with ⟨timeout, selects⟩ | ⟨_, probes⟩
      · -- the loop receives the event at once
        have none : seconds ≤ 0 := eq_zero_of_urgent prompt
          (show MonitorEvent.trigger ∈ _ by simp)
          (by simp [Monitoring.step, Monitoring.wait, monitor, selects, receives])
        rw [overdue, Nat.le_zero.mp none, ite_self]
        exact inTime
      · rw [overdue, probes, Bool.not_true, Bool.and_false, if_neg Bool.false_ne_true]
        exact inTime

/-- A daemon that waits or probes has started. -/
theorem Working.not_starting
    {loop : DiscoveryLoop} (working : Working history loop)
    (rest : Program daemon (DeviceDiscovery × Option Failure)) :
    loop ≠ .starting rest := by
  rintro rfl
  rcases working with ⟨_, selects⟩ | ⟨⟨_, probes⟩, _⟩
  · cases selects
  · cases probes

/-- A call leaves every event in time. -/
theorem Timely.issue
    {event : MonitorEvent} {choice : ProbeChoice} {listing : Bool}
    (timely : Timely history before)
    (sameDelay : overdue (event :: history) = overdue history)
    (sameEvents : unprobed (event :: history) = unprobed history)
    (sameLoop : isProbing (event :: history) = isProbing history)
    (issued : before.issue choice listing = some after) :
    Timely (event :: history) after := by
  obtain ⟨request, next, _, ⟨starts, rfl⟩ | ⟨probes, rfl⟩⟩ := Monitoring.issue_cases issued
  · rcases timely with ⟨stopped, apart, seen, none⟩ | ⟨_, _, working, _⟩
    · exact Or.inl ⟨stopped, apart, sameEvents.trans seen, sameDelay.trans none⟩
    · exact absurd starts (working.not_starting _)
  · rcases timely with ⟨stopped, apart, seen, none⟩ |
      ⟨running, receives, ⟨_, selects⟩ | ⟨_, working⟩, inTime⟩
    · exact Or.inl ⟨stopped, apart, sameEvents.trans seen, sameDelay.trans none⟩
    · cases probes.symm.trans selects
    · exact Or.inr ⟨running, receives, Or.inr ⟨⟨_, rfl⟩, sameLoop.trans working⟩,
        inTime.ofLoop sameDelay sameEvents rfl rfl rfl⟩

/-- So does the end of a probe. -/
theorem Timely.select
    {event : MonitorEvent} {discovery : DeviceDiscovery}
    (timely : Timely history before)
    (sameDelay : overdue (event :: history) = overdue history)
    (sameEvents : unprobed (event :: history) = unprobed history) :
    Timely (event :: history) (Monitoring.select { before with discovery := discovery }) := by
  rcases timely with ⟨stopped, apart, seen, none⟩ | ⟨running, receives, _, inTime⟩
  · exact Or.inl ⟨stopped, apart, sameEvents.trans seen, sameDelay.trans none⟩
  · exact Or.inr ⟨running, receives, Or.inl ⟨_, rfl⟩,
      inTime.ofLoop sameDelay sameEvents rfl rfl rfl⟩

/-- One step, as long as the output of `udevadm` is read and the loop goes on. -/
theorem Timely.step
    {event : MonitorEvent}
    (timely : Timely history before)
    (reading : event ≠ .outputEnds)
    (goesOn : event ≠ .shutdown)
    (prompt : Prompt env before event)
    (moved : before.step env event = some after) :
    Timely (event :: history) after := by
  cases event with
  | line text =>
      obtain ⟨scans, rfl⟩ := Monitoring.step_line moved
      rcases timely with ⟨stopped, _⟩ | ⟨running, receives, working, inTime⟩
      · rw [scans] at stopped
        cases stopped
      · by_cases isEvent : isUdevEvent text = true
        · rw [if_pos isEvent]
          refine Or.inr ⟨by simp, receives, working, ?_⟩
          unfold InTime at inTime ⊢
          dsimp only at inTime ⊢
          cases monitor : before.monitor with
          | inactive => rw [monitor] at inTime; exact inTime
          | waiting =>
              rw [monitor] at inTime
              exact ⟨inTime.1, fun _ => ⟨text, rfl⟩⟩
          | collecting event timeout => rw [monitor] at inTime; exact inTime
          | sending event => rw [monitor] at inTime; exact inTime
        · rw [if_neg isEvent]
          refine Or.inr ⟨running, receives, working, ?_⟩
          refine inTime.ofLoop rfl ?_ rfl rfl rfl
          rw [unprobed, Bool.eq_false_iff.mpr isEvent, Bool.false_or]
  | outputEnds => exact absurd rfl reading
  | shutdown => exact absurd rfl goesOn
  | collect =>
      obtain ⟨text, sends, ⟨waits, rfl⟩ | ⟨event, timeout, collects, rfl⟩⟩ :=
        Monitoring.step_collect moved
      · rcases timely with ⟨stopped, _⟩ | ⟨_, receives, working, inTime⟩
        · rw [sends] at stopped
          cases stopped
        · refine Or.inr ⟨by simp, receives, working, Nat.le_add_right _ _, ?_⟩
          unfold InTime at inTime
          rw [waits] at inTime
          have prompt : overdue (.collect :: history) = 0 := inTime.1
          rw [prompt, Nat.zero_add]
      · rcases timely with ⟨stopped, _⟩ | ⟨_, receives, working, inTime⟩
        · rw [sends] at stopped
          cases stopped
        · refine Or.inr ⟨by simp, receives, working, ?_⟩
          unfold InTime at inTime ⊢
          dsimp only at inTime ⊢
          rw [collects] at inTime ⊢
          exact inTime
  | expire =>
      obtain ⟨event, timeout, collects, passed, rfl⟩ := Monitoring.step_expire moved
      rcases timely with ⟨_, stopped, _⟩ | ⟨running, receives, working, inTime⟩
      · rw [collects] at stopped
        cases stopped
      · exact Or.inr ⟨running, receives, working, inTime.overdue_le⟩
  | trigger =>
      obtain ⟨event, timeout, sends, _, receives, rfl⟩ := Monitoring.step_trigger moved
      rcases timely with ⟨_, stopped, _⟩ | ⟨running, _, _, _⟩
      · rw [sends] at stopped
        cases stopped
      · refine Or.inr ⟨running, receives, Or.inr ⟨⟨_, rfl⟩, rfl⟩, rfl, ?_⟩
        intro impossible
        cases impossible
  | interval =>
      obtain ⟨timeout, _, _, rfl⟩ := Monitoring.step_interval moved
      rcases timely with ⟨stopped, apart, _⟩ | ⟨running, receives, _, inTime⟩
      · exact Or.inl ⟨stopped, apart, rfl, rfl⟩
      · exact Or.inr ⟨running, receives, Or.inr ⟨⟨_, rfl⟩, rfl⟩,
          inTime_of_probed inTime rfl rfl rfl rfl⟩
  | list lsblk => exact timely.issue rfl rfl rfl moved
  | call fault => exact timely.issue rfl rfl rfl moved
  | finish =>
      obtain ⟨discovery, ⟨starts, rfl⟩ | ⟨_, rfl⟩⟩ := Monitoring.step_finish moved
      · rcases timely with ⟨_, _, seen, none⟩ | ⟨_, _, working, _⟩
        · refine Or.inr ⟨by simp [Monitoring.monitoring, Monitoring.select], rfl,
            Or.inl ⟨_, rfl⟩, none, fun unseen => ?_⟩
          exact absurd (seen.symm.trans unseen) Bool.false_ne_true
        · exact absurd starts (working.not_starting _)
      · exact timely.select rfl rfl
  | fail =>
      obtain ⟨discovery, err, ⟨starts, rfl⟩ | ⟨_, rfl⟩⟩ := Monitoring.step_fail moved
      · rcases timely with first | ⟨_, _, working, _⟩
        · exact Or.inl first
        · exact absurd starts (working.not_starting _)
      · exact timely.select rfl rfl
  | close =>
      obtain ⟨stopped, open_, _, rfl⟩ := Monitoring.step_close moved
      rcases timely with ⟨_, apart, _⟩ | ⟨running, _⟩
      · exact absurd apart open_
      · exact absurd stopped running
  | disable =>
      obtain ⟨timeout, stopped, _, _, rfl⟩ := Monitoring.step_disable moved
      rcases timely with first | ⟨_, _, _, inTime⟩
      · exact Or.inl first
      · unfold InTime at inTime
        rw [stopped] at inTime
        exact inTime.elim
  | elapse seconds =>
      obtain rfl := Monitoring.step_elapse moved
      rcases timely with ⟨stopped, apart, seen, none⟩ | ⟨running, receives, working, inTime⟩
      · refine Or.inl ⟨stopped, apart, seen, ?_⟩
        rw [overdue, seen, none]
        rfl
      · exact Or.inr ⟨running, receives, working, inTime.wait receives working prompt⟩
  | change store =>
      obtain rfl := Monitoring.step_change moved
      rcases timely with first | ⟨running, receives, working, inTime⟩
      · exact Or.inl first
      · exact Or.inr ⟨running, receives, working, inTime.ofLoop rfl rfl rfl rfl rfl⟩

/-- When time passes only while nothing can happen at once, no event waits for a probe
longer than a period, apart from the time that another probe takes; as long as the output
of `udevadm` is read and the loop goes on. -/
theorem udev_events_probed_in_time
    {store : Store}
    (run : (monitoringMachine env).Run (Prompt env) (Monitoring.initial env store)
      history state)
    (reading : MonitorEvent.outputEnds ∉ history)
    (goesOn : MonitorEvent.shutdown ∉ history) :
    overdue history ≤ udevEventPeriod := by
  have timely : MonitorEvent.outputEnds ∉ history → MonitorEvent.shutdown ∉ history →
      Timely history state := by
    refine @Machine.Run.invariant _ _ _ _ _ _ _ (fun history state =>
      MonitorEvent.outputEnds ∉ history → MonitorEvent.shutdown ∉ history →
        Timely history state) run (fun _ _ => Or.inl ⟨rfl, rfl, rfl, rfl⟩) ?_
    intro history before event after timely prompt moved reading goesOn
    rw [List.mem_cons, not_or] at reading goesOn
    exact (timely reading.2 goesOn.2).step (Ne.symm reading.1) (Ne.symm goesOn.1)
      prompt moved
  rcases timely reading goesOn with ⟨_, _, _, none⟩ | ⟨_, _, _, inTime⟩
  · exact none.trans_le (Nat.zero_le _)
  · exact inTime.overdue_le

end Deadlines

/-- A disk is plugged in, and the loop is about to probe. -/
def justPluggedIn : List MonitorEvent :=
  [.expire, .elapse 5, .collect, .line addLine] ++ startedDaemon

theorem isSome_justPluggedIn :
    (replayed (Prompt nodeEnvironment) justPluggedIn).isSome = true := by
  decide +kernel

/-- The disk has waited for a period. -/
theorem udev_events_probed_in_time_justPluggedIn :
    overdue justPluggedIn ≤ udevEventPeriod :=
  udev_events_probed_in_time (run_of_replayed isSome_justPluggedIn)
    (by simp [justPluggedIn, startedDaemon])
    (by simp [justPluggedIn, startedDaemon])

end Discovery
