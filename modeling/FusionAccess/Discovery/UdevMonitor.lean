import FusionAccess.Discovery.Daemon
import FusionAccess.Interaction.Machine
import FusionAccess.Patterns.Matching

/-!
# The daemon between its probes

After its first probe the daemon probes again at an interval, and whenever udev reports
that a block device has come or gone. One goroutine reads the output of `udevadm`, one
collapses the events of a period into one, and the loop of `Start` probes. They meet at
channels without buffers: what is sent on one is received at the same moment.
-/

namespace Discovery

open Kubernetes Interaction Patterns

/-! ## Lines of udevadm -/

/-- A character in lower or upper case. -/
def foldCase (lower char : Char) : Bool := char = lower || char = lower.toUpper

/-- A word in lower or upper case. -/
def literal (first : Char) : List Char → Pattern Empty
  | [] => .one (foldCase first)
  | second :: rest => .seq (.one (foldCase first)) (literal second rest)

/-- `[0-9]`. -/
def isDigit (char : Char) : Bool := '0' ≤ char && char ≤ '9'

/-- `udevExclusionFilter`. -/
def udevExclusionFilter : List (Pattern Empty) :=
  [.seq (literal 'd' ['m', '-']) (.many isDigit),
    .seq (literal 'r' ['b', 'd']) (.one isDigit),
    .seq (literal 'n' ['b', 'd']) (.many isDigit)]

/-- `udevEventMatch`. -/
def udevEventMatch : List (Pattern Empty) :=
  [literal 'a' ['d', 'd'], literal 'r' ['e', 'm', 'o', 'v', 'e']]

/-- `matchUdevEvent`. -/
def matchUdevEvent (text : String) (wanted exclusions : List (Pattern Empty)) : Bool :=
  wanted.any fun pattern =>
    pattern.occursIn text.toList &&
      !exclusions.any fun exclusion => exclusion.occursIn text.toList

/-- The line is sent on. -/
def isUdevEvent (text : String) : Bool :=
  matchUdevEvent text udevEventMatch udevExclusionFilter

/-- One wanted pattern is enough, and one exclusion is too much. -/
theorem matchUdevEvent_iff
    {text : String} {wanted exclusions : List (Pattern Empty)} :
    matchUdevEvent text wanted exclusions = true ↔
      (∃ pattern ∈ wanted, pattern.occursIn text.toList = true) ∧
        ∀ exclusion ∈ exclusions, exclusion.occursIn text.toList = false := by
  simp only [matchUdevEvent, List.any_eq_true, Bool.and_eq_true, Bool.not_eq_true',
    List.any_eq_false, Bool.not_eq_true]
  constructor
  · rintro ⟨pattern, listed, found, free⟩
    exact ⟨⟨pattern, listed, found⟩, free⟩
  · rintro ⟨⟨pattern, listed, found⟩, free⟩
    exact ⟨pattern, listed, found, free⟩

theorem foldCase_self (char : Char) : foldCase char char = true := by
  simp [foldCase]

/-- A word denotes itself. -/
theorem denotes_literal (first : Char) (rest : List Char) :
    (literal first rest).Denotes [] (first :: rest) := by
  induction rest generalizing first with
  | nil => exact ⟨rfl, first, foldCase_self first, rfl⟩
  | cons second rest inductionHypothesis =>
      have head : (Pattern.one (foldCase first) : Pattern Empty).Denotes [] [first] :=
        ⟨rfl, first, foldCase_self first, rfl⟩
      exact Pattern.Denotes.append head (inductionHypothesis second)

/-- What is said about a device of the device mapper is no event. -/
theorem isUdevEvent_deviceMapper
    {text : String} {before after : List Char} {digit : Char}
    (isNumber : isDigit digit = true)
    (named : text.toList = before ++ ['d', 'm', '-', digit] ++ after) :
    isUdevEvent text = false := by
  rw [Bool.eq_false_iff]
  intro isEvent
  have free := (matchUdevEvent_iff.mp isEvent).2 _ List.mem_cons_self
  have number : (Pattern.many isDigit : Pattern Empty).Denotes [] [digit] :=
    ⟨rfl, List.cons_ne_nil _ _, by simpa using isNumber⟩
  have found := occursIn_iff.mpr ⟨before, [], ['d', 'm', '-', digit], after, named,
    Pattern.Denotes.append (denotes_literal 'd' ['m', '-']) number⟩
  rw [found] at free
  cases free

/-! ## The goroutines -/

/-- `udevEventPeriod`, in seconds. -/
def udevEventPeriod : Nat := 5

/-- `probeInterval`, in seconds. -/
def probeInterval : Nat := 300

/-- Where `rawUdevBlockMonitor` is: not running, reading the output of `udevadm`, or
sending a line. -/
inductive RawUdevBlockMonitor
  | inactive
  | scanning
  | sending (text : String)
  deriving DecidableEq

/-- Where `udevBlockMonitor` is: not running, waiting for an event, collecting events
until a timeout, or sending the first of them. -/
inductive UdevBlockMonitor
  | inactive
  | waiting
  | collecting (event : String) (timeout : Nat)
  | sending (event : String)
  deriving DecidableEq

/-- Where `Start` is: before the monitoring, waiting in its loop with a timeout, probing,
or at its end. What is left of a probe is a program. -/
inductive DiscoveryLoop
  | starting (rest : Program daemon (DeviceDiscovery × Option Failure))
  | selecting (timeout : Nat)
  | probing (rest : Program daemon (DeviceDiscovery × Option Failure))
  | returned

/-- A daemon, whether it still receives udev events, what is stored, and the clock. Time
passes in whole seconds, as the period and the interval do. -/
structure Monitoring where
  rawMonitor : RawUdevBlockMonitor := .inactive
  monitor : UdevBlockMonitor := .inactive
  loop : DiscoveryLoop
  udevEvents : Bool := false
  discovery : DeviceDiscovery := {}
  store : Store
  clock : Nat := 0

/-- What happens next. -/
inductive MonitorEvent
  /-- `udevadm` prints a line. -/
  | line (text : String)
  /-- The output of `udevadm` ends, or cannot be read. -/
  | outputEnds
  /-- A line is received by the goroutine that collects. -/
  | collect
  /-- The timer of the period fires. -/
  | expire
  /-- The collected event is received by the loop, which probes. -/
  | trigger
  /-- The timer of the interval fires and the loop probes. -/
  | interval
  /-- The loop lists the block devices. -/
  | list (lsblk : Except Failure (List BlockDevice))
  /-- The loop issues another call. -/
  | call (fault : Fault)
  /-- A probe ends without an error. -/
  | finish
  /-- A probe ends with an error. -/
  | fail
  /-- The goroutine that collects finds its channel closed. -/
  | close
  /-- The loop finds its channel closed. -/
  | disable
  /-- The loop receives SIGTERM. -/
  | shutdown
  /-- Time passes. -/
  | elapse (seconds : Nat)
  /-- Others change what is stored. -/
  | change (store : Store)

/-- `Start` before it watches udev events. -/
def startDiscovery (env : Environment) :
    Program daemon (DeviceDiscovery × Option Failure) := do
  match ← ensureDiscoveryResultCR env {} with
  | (discovery, some err) => do
      let message := "failed to start device discovery"
      let discovery ← report discovery {
        eventType := .warning
        eventReason := .errorCreatingDiscoveryResultObject
        message := s!"{message}. Error: {err.message}" }
      return (discovery, some (err.wrap s!"{message}: "))
  | (discovery, none) => do
      let (discovery, failed) ← discoverDevices env discovery
      return (discovery, failed.map (Failure.wrap "failed to discover devices: "))

/-- The call lists the block devices. -/
def Request.isListing : Request → Bool
  | .getBlockDevices => true
  | _ => false

namespace Monitoring

variable (env : Environment)

/-- A daemon that has just been started on a store. -/
def initial (store : Store) : Monitoring where
  loop := .starting (startDiscovery env)
  store := store

/-- The loop begins to wait. -/
def select (state : Monitoring) : Monitoring :=
  { state with loop := .selecting (state.clock + probeInterval) }

/-- The loop begins to probe. -/
def probe (state : Monitoring) : Monitoring :=
  { state with loop := .probing (discoverDevices env state.discovery) }

/-- The first probe is over and the goroutines are started. -/
def monitoring (state : Monitoring) (discovery : DeviceDiscovery) : Monitoring :=
  select { state with
    rawMonitor := .scanning
    monitor := .waiting
    udevEvents := true
    discovery := discovery }

/-- The loop issues its next call, which lists the block devices or does not. -/
def issue (state : Monitoring) (choice : ProbeChoice) (listing : Bool) :
    Option Monitoring :=
  match state.loop with
  | .starting (.call request next) =>
      let answer := nodeServer.serve choice state.store request
      if request.isListing = listing then
        some { state with store := answer.1, loop := .starting (next answer.2) }
      else none
  | .probing (.call request next) =>
      let answer := nodeServer.serve choice state.store request
      if request.isListing = listing then
        some { state with store := answer.1, loop := .probing (next answer.2) }
      else none
  | _ => none

/-- Time passes. -/
def wait (state : Monitoring) (seconds : Nat) : Monitoring :=
  { state with
    clock := state.clock + seconds
    store := { state.store with clock := state.store.clock + seconds } }

/-- What happens to a daemon, where it can happen. -/
def step (state : Monitoring) : MonitorEvent → Option Monitoring
  | .line text =>
      match state.rawMonitor with
      | .scanning => some <|
          if isUdevEvent text then { state with rawMonitor := .sending text } else state
      | _ => none
  | .outputEnds =>
      match state.rawMonitor with
      | .scanning => some { state with rawMonitor := .inactive }
      | _ => none
  | .collect =>
      match state.rawMonitor, state.monitor with
      | .sending text, .waiting => some { state with
          rawMonitor := .scanning
          monitor := .collecting text (state.clock + udevEventPeriod) }
      -- the timer goes on
      | .sending _, .collecting _ _ => some { state with rawMonitor := .scanning }
      | _, _ => none
  | .expire =>
      match state.monitor with
      | .collecting event timeout =>
          if timeout ≤ state.clock then some { state with monitor := .sending event }
          else none
      | _ => none
  | .trigger =>
      match state.monitor, state.loop, state.udevEvents with
      | .sending _, .selecting _, true => some (probe env { state with monitor := .waiting })
      | _, _, _ => none
  | .interval =>
      match state.loop with
      | .selecting timeout => if timeout ≤ state.clock then some (probe env state) else none
      | _ => none
  | .list lsblk => state.issue { lsblk := lsblk } true
  | .call fault => state.issue { fault := fault } false
  | .finish =>
      match state.loop with
      | .starting (.done (discovery, none)) => some (state.monitoring discovery)
      | .probing (.done (discovery, none)) => some (select { state with discovery := discovery })
      | _ => none
  | .fail =>
      match state.loop with
      | .starting (.done (_, some _)) => some { state with loop := .returned }
      -- the error of a later probe is only logged
      | .probing (.done (discovery, some _)) =>
          some (select { state with discovery := discovery })
      | _ => none
  | .close =>
      match state.rawMonitor, state.monitor with
      | .inactive, .waiting => some { state with monitor := .inactive }
      -- what has been collected is dropped
      | .inactive, .collecting _ _ => some { state with monitor := .inactive }
      | _, _ => none
  | .disable =>
      match state.monitor, state.loop, state.udevEvents with
      | .inactive, .selecting _, true => some (select { state with udevEvents := false })
      | _, _, _ => none
  | .shutdown =>
      match state.loop with
      | .selecting _ => some { state with loop := .returned }
      | _ => none
  | .elapse seconds => some (state.wait seconds)
  | .change store => some { state with store := store }

/-! ## Where something can happen -/

section Moves

variable {env : Environment} {state after : Monitoring}

theorem step_line {text : String} (moved : step env state (.line text) = some after) :
    state.rawMonitor = .scanning ∧
      after = if isUdevEvent text then { state with rawMonitor := .sending text }
        else state := by
  unfold step at moved
  dsimp only at moved
  split at moved
  next scans => exact ⟨scans, (Option.some.inj moved).symm⟩
  next => cases moved

theorem step_outputEnds (moved : step env state .outputEnds = some after) :
    state.rawMonitor = .scanning ∧ after = { state with rawMonitor := .inactive } := by
  unfold step at moved
  dsimp only at moved
  split at moved
  next scans => exact ⟨scans, (Option.some.inj moved).symm⟩
  next => cases moved

theorem step_collect (moved : step env state .collect = some after) :
    ∃ text, state.rawMonitor = .sending text ∧
      (state.monitor = .waiting ∧ after = { state with
          rawMonitor := .scanning
          monitor := .collecting text (state.clock + udevEventPeriod) } ∨
        ∃ event timeout, state.monitor = .collecting event timeout ∧
          after = { state with rawMonitor := .scanning }) := by
  unfold step at moved
  dsimp only at moved
  split at moved
  next text sends waits =>
    exact ⟨text, sends, Or.inl ⟨waits, (Option.some.inj moved).symm⟩⟩
  next text event timeout sends collects =>
    exact ⟨text, sends, Or.inr ⟨event, timeout, collects, (Option.some.inj moved).symm⟩⟩
  next => cases moved

theorem step_expire (moved : step env state .expire = some after) :
    ∃ event timeout, state.monitor = .collecting event timeout ∧ timeout ≤ state.clock ∧
      after = { state with monitor := .sending event } := by
  unfold step at moved
  dsimp only at moved
  split at moved
  next event timeout collects =>
    split at moved
    next passed => exact ⟨event, timeout, collects, passed, (Option.some.inj moved).symm⟩
    next => cases moved
  next => cases moved

theorem step_trigger (moved : step env state .trigger = some after) :
    ∃ event timeout, state.monitor = .sending event ∧ state.loop = .selecting timeout ∧
      state.udevEvents = true ∧ after = probe env { state with monitor := .waiting } := by
  unfold step at moved
  dsimp only at moved
  split at moved
  next event timeout sends selects receives =>
    exact ⟨event, timeout, sends, selects, receives, (Option.some.inj moved).symm⟩
  next => cases moved

theorem step_interval (moved : step env state .interval = some after) :
    ∃ timeout, state.loop = .selecting timeout ∧ timeout ≤ state.clock ∧
      after = probe env state := by
  unfold step at moved
  dsimp only at moved
  split at moved
  next timeout selects =>
    split at moved
    next passed => exact ⟨timeout, selects, passed, (Option.some.inj moved).symm⟩
    next => cases moved
  next => cases moved

theorem issue_cases
    {choice : ProbeChoice} {listing : Bool} (issued : state.issue choice listing = some after) :
    ∃ request next, request.isListing = listing ∧
      ((state.loop = .starting (.call request next) ∧
        after = { state with
          store := (nodeServer.serve choice state.store request).1
          loop := .starting (next (nodeServer.serve choice state.store request).2) }) ∨
      (state.loop = .probing (.call request next) ∧
        after = { state with
          store := (nodeServer.serve choice state.store request).1
          loop := .probing (next (nodeServer.serve choice state.store request).2) })) := by
  unfold issue at issued
  split at issued
  next request next starts =>
    dsimp only at issued
    split at issued
    next isListing =>
      exact ⟨request, next, isListing, Or.inl ⟨starts, (Option.some.inj issued).symm⟩⟩
    next => cases issued
  next request next probes =>
    dsimp only at issued
    split at issued
    next isListing =>
      exact ⟨request, next, isListing, Or.inr ⟨probes, (Option.some.inj issued).symm⟩⟩
    next => cases issued
  next => cases issued

theorem step_finish (moved : step env state .finish = some after) :
    ∃ discovery, (state.loop = .starting (.done (discovery, none)) ∧
        after = state.monitoring discovery) ∨
      (state.loop = .probing (.done (discovery, none)) ∧
        after = select { state with discovery := discovery }) := by
  unfold step at moved
  dsimp only at moved
  split at moved
  next discovery starts =>
    exact ⟨discovery, Or.inl ⟨starts, (Option.some.inj moved).symm⟩⟩
  next discovery probes =>
    exact ⟨discovery, Or.inr ⟨probes, (Option.some.inj moved).symm⟩⟩
  next => cases moved

theorem step_fail (moved : step env state .fail = some after) :
    ∃ discovery err, (state.loop = .starting (.done (discovery, some err)) ∧
        after = { state with loop := .returned }) ∨
      (state.loop = .probing (.done (discovery, some err)) ∧
        after = select { state with discovery := discovery }) := by
  unfold step at moved
  dsimp only at moved
  split at moved
  next discovery err starts =>
    exact ⟨discovery, err, Or.inl ⟨starts, (Option.some.inj moved).symm⟩⟩
  next discovery err probes =>
    exact ⟨discovery, err, Or.inr ⟨probes, (Option.some.inj moved).symm⟩⟩
  next => cases moved

theorem step_close (moved : step env state .close = some after) :
    state.rawMonitor = .inactive ∧ state.monitor ≠ .inactive ∧
      (∀ event, state.monitor ≠ .sending event) ∧
        after = { state with monitor := .inactive } := by
  unfold step at moved
  dsimp only at moved
  split at moved
  next stopped waits =>
    rw [waits]
    exact ⟨stopped, by simp, by simp, (Option.some.inj moved).symm⟩
  next event timeout stopped collects =>
    rw [collects]
    exact ⟨stopped, by simp, by simp, (Option.some.inj moved).symm⟩
  next => cases moved

theorem step_disable (moved : step env state .disable = some after) :
    ∃ timeout, state.monitor = .inactive ∧ state.loop = .selecting timeout ∧
      state.udevEvents = true ∧ after = select { state with udevEvents := false } := by
  unfold step at moved
  dsimp only at moved
  split at moved
  next timeout stopped selects receives =>
    exact ⟨timeout, stopped, selects, receives, (Option.some.inj moved).symm⟩
  next => cases moved

theorem step_shutdown (moved : step env state .shutdown = some after) :
    ∃ timeout, state.loop = .selecting timeout ∧
      after = { state with loop := .returned } := by
  unfold step at moved
  dsimp only at moved
  split at moved
  next timeout selects => exact ⟨timeout, selects, (Option.some.inj moved).symm⟩
  next => cases moved

theorem step_elapse {seconds : Nat}
    (moved : step env state (.elapse seconds) = some after) :
    after = state.wait seconds :=
  (Option.some.inj moved).symm

theorem step_change {store : Store} (moved : step env state (.change store) = some after) :
    after = { state with store := store } :=
  (Option.some.inj moved).symm

end Moves
end Monitoring

/-- The daemon as a machine. -/
abbrev monitoringMachine (env : Environment) : Machine Monitoring MonitorEvent where
  step := Monitoring.step env

end Discovery
