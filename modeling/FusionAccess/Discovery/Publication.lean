import FusionAccess.Discovery.Daemon

/-!
# Published device lists

When the result of a node lists the devices that the last successful probe has
found. A probe that finds the list in memory writes nothing, so everything
depends on whether that list has been stored.
-/

namespace Discovery

open Kubernetes Interaction

/-! ## Single calls -/

/-- The contract under which the daemon may do anything. -/
abbrev unrestricted : Contract nodeServer := Contract.demand fun _ _ => True

/-- What has to be shown about one call: it is guarded, and the postcondition
survives that it is carried out, refused, or carried out without a reply. -/
theorem ensures_ask_guarded
    {C : Contract nodeServer}
    {request : Request}
    {post : Except Failure request.Yield → Store → Prop}
    {store : Store}
    (guarded : C.guard store request)
    (success : ∀ lsblk, post (store.answer lsblk request).2
      (store.answer lsblk request).1)
    (failed : ∀ (failure : Failure) (final : Store), request.remote = true →
      failure.reason ≠ .notFound → post (.error failure) final) :
    Fallible.Ensures C (ask request) post store := by
  refine ⟨guarded, fun choice _ => ?_⟩
  change post (nodeServer.serve choice store request).2
    (nodeServer.serve choice store request).1
  unfold nodeServer
  dsimp only
  by_cases remote : request.remote = true
  · rw [if_pos remote]
    cases choice.fault with
    | none => exact success choice.lsblk
    | refused refusal message =>
        exact failed _ _ remote (by cases refusal <;> simp [Refusal.failure])
    | lost message => exact failed _ _ remote (by simp [errorf])
  · rw [if_neg remote]
    exact success choice.lsblk

/-- The same where every call is permitted. -/
theorem ensures_ask
    {request : Request}
    {post : Except Failure request.Yield → Store → Prop}
    {store : Store}
    (success : ∀ lsblk, post (store.answer lsblk request).2
      (store.answer lsblk request).1)
    (failed : ∀ (failure : Failure) (final : Store), request.remote = true →
      failure.reason ≠ .notFound → post (.error failure) final) :
    Fallible.Ensures unrestricted (ask request) post store :=
  ensures_ask_guarded trivial success failed

/-- Reporting an event leaves memory and store alone. -/
theorem ensures_report
    (discovery : DeviceDiscovery) (event : DiskEvent) (store : Store) :
    (report discovery event).Ensures unrestricted
      (fun later final => later.disks = discovery.disks ∧ final = store) store := by
  unfold report
  dsimp only
  split
  · exact ⟨rfl, rfl⟩
  · rw [Program.ensures_bind]
    refine @ensures_ask (.recordEvent event) _ _ (fun _ => ⟨rfl, rfl⟩) ?_
    intro _ _ remote
    cases remote

/-- Rewriting errors does not hide them. -/
theorem mapError_eq_ok {ε α : Type}
    (rewrite : ε → ε) (result : Except ε α) (value : α) :
    result.mapError rewrite = .ok value ↔ result = .ok value := by
  cases result <;> simp [Except.mapError]

/-- A result after its status is replaced. -/
theorem result?_updateStatus
    {store : Store} {result : DiscoveryResult} {stored : DiscoveryResult}
    (updated : (store.updateStatus result).2 = .ok ())
    (found : (store.updateStatus result).1.result? result.key = some stored) :
    stored.discoveredDevices = result.discoveredDevices := by
  unfold Store.updateStatus at updated found
  split at updated
  · cases updated
  next previous present =>
    simp only [present] at found
    split at updated
    · cases updated
    next current =>
      rw [if_neg current] at found
      unfold Store.result? at found present
      rw [Registry.find?_amend_self (by exact fun _ named => named), present] at found
      cases found
      rfl

theorem key_withDevices
    (discovery : DeviceDiscovery) (now : Nat) (result : DiscoveryResult) :
    (withDevices discovery now result).key = result.key := by
  unfold withDevices DiscoveryResult.key
  rfl

/-- When the status is updated without an error, a result that exists lists
the devices in memory. -/
theorem ensures_updateStatus
    (env : Environment) (discovery : DeviceDiscovery) (store : Store) :
    Fallible.Ensures unrestricted (updateStatus env discovery)
      (fun result final => result = .ok () →
        ∀ stored, final.result? env.resultKey = some stored →
          stored.discoveredDevices = discovery.disks) store := by
  unfold updateStatus
  rw [Fallible.ensures_bind, Fallible.ensures_attempt]
  refine ensures_ask (fun lsblk => ?_) fun failure final _ present => ?_
  · cases found : store.result? env.resultKey with
    | none =>
        simp only [Store.answer, found, Fallible.onSuccess_ok, Fallible.ensures_ite,
          Fallible.ensures_pure]
        refine ⟨fun _ => ?_, fun present => absurd rfl present⟩
        intro _ stored impossible
        cases impossible
    | some resultCR =>
        have key : resultCR.key = env.resultKey := (Registry.find?_eq_some found).2
        simp only [Store.answer, found, Fallible.onSuccess_ok, Fallible.ensures_bind]
        refine ensures_ask (fun lsblk => ?_) fun _ _ remote => by cases remote
        simp only [Store.answer, Fallible.onSuccess_ok, Fallible.ensures_mapError]
        simp only [mapError_eq_ok]
        refine ensures_ask (fun lsblk => ?_) ?_
        · intro updated stored storedLater
          rw [← key, ← key_withDevices discovery store.clock] at storedLater
          exact result?_updateStatus updated storedLater
        · exact fun _ _ _ _ impossible => by cases impossible
  · simp only [Fallible.onSuccess_ok, Fallible.ensures_ite, Fallible.ensures_throw]
    exact ⟨fun absent => absurd absent present, fun _ impossible => by cases impossible⟩

/-! ## Probes -/

/-- One call of `discoverDevices`: what the daemon remembers, what the
environment decides, and what is stored. -/
structure Probe where
  memory : DeviceDiscovery
  choices : Nat → ProbeChoice
  store : Store

namespace Probe

variable (env : Environment) (probe : Probe)

/-- What a probe leaves behind. -/
abbrev outcome : Outcome nodeServer (DeviceDiscovery × Option Failure) :=
  (discoverDevices env probe.memory).run nodeServer probe.choices probe.store

/-- The devices that the probe computes, unless `lsblk` fails. -/
def computed : Option (List DiscoveredDevice) :=
  (probe.choices 0).lsblk.toOption.map getDiscoverdDevices

/-- If the probe succeeds and the result exists, it lists the devices that the
probe has computed. -/
def Publishes : Prop :=
  (probe.outcome env).value.2 = none →
    ∀ devices, probe.computed = some devices →
      ∀ result, (probe.outcome env).state.result? env.resultKey = some result →
        result.discoveredDevices = devices

/-- If the probe computes the given devices, the result lists them already. -/
def FindsStored (devices : List DiscoveredDevice) : Prop :=
  probe.computed = some devices →
    ∀ result, probe.store.result? env.resultKey = some result →
      result.discoveredDevices = devices

end Probe

/-- A probe that computes a list has it in memory afterwards; if it succeeds
and the list is new, a result that exists lists it. -/
theorem ensures_recordDevices
    (env : Environment) (discovery : DeviceDiscovery)
    (devices : List DiscoveredDevice) (store : Store) :
    (recordDevices env discovery devices).Ensures unrestricted
      (fun value final => value.1.disks = devices ∧
        (value.2 = none → discovery.disks ≠ devices →
          ∀ result, final.result? env.resultKey = some result →
            result.discoveredDevices = devices) ∧
        (discovery.disks = devices → value = (discovery, none) ∧ final = store))
      store := by
  unfold recordDevices
  by_cases same : discovery.disks = devices
  · rw [if_neg (not_not.mpr same)]
    exact ⟨same, fun _ changed => absurd same changed, fun _ => ⟨rfl, rfl⟩⟩
  · rw [if_pos same, Program.ensures_bind]
    refine Program.Ensures.mono
      (ensures_updateStatus env { discovery with disks := devices } store) ?_
    rintro (failure | _) updated published
    · dsimp only
      rw [Program.ensures_bind]
      refine (ensures_report _ _ updated).mono ?_
      rintro later _ ⟨disks, rfl⟩
      refine ⟨disks, fun impossible => ?_, fun equal => absurd equal same⟩
      cases impossible
    · dsimp only
      rw [Program.ensures_bind]
      refine (ensures_report _ _ updated).mono ?_
      rintro later _ ⟨disks, rfl⟩
      exact ⟨disks, fun _ _ => published rfl, fun equal => absurd equal same⟩

/-- What a probe that computes a list leaves behind. -/
theorem Probe.outcome_of_computed
    (env : Environment) (probe : Probe)
    {devices : List DiscoveredDevice}
    (computed : probe.computed = some devices) :
    let outcome := probe.outcome env
    outcome.value.1.disks = devices ∧
      (outcome.value.2 = none → probe.memory.disks ≠ devices →
        ∀ result, outcome.state.result? env.resultKey = some result →
          result.discoveredDevices = devices) ∧
      (probe.memory.disks = devices →
        outcome.value = (probe.memory, none) ∧ outcome.state = probe.store) := by
  intro outcome
  cases listed : (probe.choices 0).lsblk with
  | error failure => simp [Probe.computed, listed, Except.toOption] at computed
  | ok validDevices =>
      have same : getDiscoverdDevices validDevices = devices := by
        simpa [Probe.computed, listed, Except.toOption] using computed
      -- the list of the block devices is the reply to the first call
      have first : nodeServer.serve (probe.choices 0) probe.store .getBlockDevices =
          (probe.store, .ok validDevices) := by rw [← listed]; rfl
      have run : probe.outcome env = _ := Program.run_issue_bind nodeServer
        .getBlockDevices (handleBlockDevices env probe.memory) probe.choices probe.store
      rw [first] at run
      have ensured := (ensures_recordDevices env probe.memory devices probe.store).sound
        (fun index => probe.choices (index + 1)) fun _ _ => trivial
      subst same
      simp only [outcome, run]
      exact ensured.2

/-- A probe publishes the devices it computes if and only if it does not take
devices in memory for devices that are stored. -/
theorem Probe.publishes_iff (env : Environment) (probe : Probe) :
    probe.Publishes env ↔ probe.FindsStored env probe.memory.disks := by
  constructor
  · intro publishes computed result stored
    obtain ⟨_, _, unchanged⟩ := probe.outcome_of_computed env computed
    obtain ⟨value, state⟩ := unchanged rfl
    refine publishes (by rw [value]) _ computed result ?_
    rw [state]
    exact stored
  · intro findsStored succeeds devices computed result stored
    obtain ⟨_, published, unchanged⟩ := probe.outcome_of_computed env computed
    by_cases same : probe.memory.disks = devices
    · subst same
      rw [(unchanged rfl).2] at stored
      exact findsStored computed result stored
    · exact published succeeds same result stored

/-- A probe that computes nothing leaves the devices in memory alone. -/
theorem Probe.disks_of_not_computed
    (env : Environment) (probe : Probe)
    (failed : probe.computed = none) :
    (probe.outcome env).value.1.disks = probe.memory.disks := by
  cases listed : (probe.choices 0).lsblk with
  | ok validDevices => simp [Probe.computed, listed, Except.toOption] at failed
  | error failure =>
      have first : nodeServer.serve (probe.choices 0) probe.store .getBlockDevices =
          (probe.store, .error failure) := by rw [← listed]; rfl
      have run : probe.outcome env = _ := Program.run_issue_bind nodeServer
        .getBlockDevices (handleBlockDevices env probe.memory) probe.choices probe.store
      rw [first] at run
      have ensured : (handleBlockDevices env probe.memory (.error failure)).Ensures
          unrestricted (fun value _ => value.1.disks = probe.memory.disks)
          probe.store := by
        rw [handleBlockDevices, Program.ensures_bind]
        exact (ensures_report _ _ probe.store).mono fun _ _ reported => reported.1
      rw [run]
      exact (ensured.sound (fun index => probe.choices (index + 1))
        fun _ _ => trivial).2

/-! ## Runs of daemons -/

/-- What happens to the daemon of a node. -/
inductive DaemonEvent
  | launched
  | probed (probe : Probe)

/-- Latest events first: what has happened on a node from some initial store
on, the memory of its daemon and what is stored. A daemon may be started anew
at any time, and others may change what is stored. -/
inductive DaemonRun (env : Environment) (changes : Store → Store → Prop)
    (initial : Store) : List DaemonEvent → DeviceDiscovery → Store → Prop
  | initially : DaemonRun env changes initial [] {} initial
  | launch {history : List DaemonEvent} {memory : DeviceDiscovery} {store : Store}
      (before : DaemonRun env changes initial history memory store)
      (choices : Nat → ProbeChoice) :
      DaemonRun env changes initial (.launched :: history)
        ((ensureDiscoveryResultCR env {}).run nodeServer choices store).value.1
        ((ensureDiscoveryResultCR env {}).run nodeServer choices store).state
  | probe {history : List DaemonEvent} {memory : DeviceDiscovery} {store : Store}
      (before : DaemonRun env changes initial history memory store)
      (choices : Nat → ProbeChoice) :
      DaemonRun env changes initial (.probed ⟨memory, choices, store⟩ :: history)
        (Probe.outcome env ⟨memory, choices, store⟩).value.1
        (Probe.outcome env ⟨memory, choices, store⟩).state
  | change {history : List DaemonEvent} {memory : DeviceDiscovery}
      {store next : Store}
      (before : DaemonRun env changes initial history memory store)
      (changed : changes store next) :
      DaemonRun env changes initial history memory next

/-- The devices that the daemon has found last, none at its start. -/
def lastFound : List DaemonEvent → List DiscoveredDevice
  | [] => []
  | .launched :: _ => []
  | .probed probe :: earlier => probe.computed.getD (lastFound earlier)

/-- Every probe has the property, which may depend on what came before. -/
def EachProbe (holds : List DaemonEvent → Probe → Prop) : List DaemonEvent → Prop
  | [] => True
  | .launched :: earlier => EachProbe holds earlier
  | .probed probe :: earlier => holds earlier probe ∧ EachProbe holds earlier

/-- The start of a daemon leaves its memory empty. -/
theorem ensures_ensureDiscoveryResultCR
    (env : Environment) (discovery : DeviceDiscovery) (store : Store) :
    (ensureDiscoveryResultCR env discovery).Ensures unrestricted
      (fun value _ => value.1.disks = discovery.disks) store := by
  have reported : ∀ event final, (report discovery event >>= fun discovery =>
      (pure (discovery, none) : Program daemon (DeviceDiscovery × Option Failure))).Ensures
        unrestricted (fun value _ => value.1.disks = discovery.disks) final := by
    intro event final
    rw [Program.ensures_bind]
    exact (ensures_report discovery event final).mono fun _ _ same => same.1
  unfold ensureDiscoveryResultCR
  split
  · rfl
  · rw [Program.ensures_bind]
    refine Program.Ensures.mono
      (Program.ensures_true (C := unrestricted) (fun _ _ => trivial) _ store) ?_
    rintro (err | result) asked _
    · dsimp only
      split
      · rw [Program.ensures_bind]
        refine Program.Ensures.mono
          (Program.ensures_true (C := unrestricted) (fun _ _ => trivial) _ asked) ?_
        rintro (err | _) created _
        · rfl
        · exact reported _ created
      · rfl
    · rfl

/-- A daemon remembers what it has found last. -/
theorem DaemonRun.disks_eq
    {env : Environment} {changes : Store → Store → Prop} {initial : Store}
    {history : List DaemonEvent} {memory : DeviceDiscovery} {store : Store}
    (run : DaemonRun env changes initial history memory store) :
    memory.disks = lastFound history := by
  induction run with
  | initially => rfl
  | @launch _ _ store _ choices _ =>
      exact ((ensures_ensureDiscoveryResultCR env {} store).sound choices
        fun _ _ => trivial).2
  | @probe history memory store _ choices inductionHypothesis =>
      rw [lastFound]
      cases computed : Probe.computed ⟨memory, choices, store⟩ with
      | none =>
          rw [Probe.disks_of_not_computed env _ computed]
          exact inductionHypothesis
      | some devices => exact (Probe.outcome_of_computed env _ computed).1
  | change _ _ inductionHypothesis => exact inductionHypothesis

/-- In every run the list is current after each probe that succeeds if and
only if each probe that finds what the daemon has found last finds it stored. -/
theorem published_list_current
    {env : Environment} {changes : Store → Store → Prop} {initial : Store}
    {history : List DaemonEvent} {memory : DeviceDiscovery} {store : Store}
    (run : DaemonRun env changes initial history memory store) :
    EachProbe (fun _ probe => probe.Publishes env) history ↔
      EachProbe (fun earlier probe => probe.FindsStored env (lastFound earlier))
        history := by
  induction run with
  | initially => exact Iff.rfl
  | launch _ _ inductionHypothesis => exact inductionHypothesis
  | probe before choices inductionHypothesis =>
      rw [EachProbe, EachProbe, Probe.publishes_iff, before.disks_eq,
        inductionHypothesis]
  | change _ _ inductionHypothesis => exact inductionHypothesis

/-! ## A node with one disk -/

/-- A disk as `lsblk` lists it. -/
def dataDisk : BlockDevice :=
  .mk { name := "sdb", type := "disk", size := 1024, kName := "sdb"
        path := "/dev/sdb", wwn := "uuid.1" } []

/-- The process environment of a daemon. -/
def nodeEnvironment : Environment where
  myNodeName := "node"
  watchNamespace := "operator"
  discoveryObjectUID := some 1
  discoveryObjectName := "auto-discover-devices"

/-- Every call succeeds and `lsblk` lists the given devices. -/
def listing (devices : List BlockDevice) : Nat → ProbeChoice :=
  fun _ => { lsblk := .ok devices }

/-- The same, but the update of the status is refused. -/
def refusingUpdate (devices : List BlockDevice) : Nat → ProbeChoice :=
  fun index => {
    fault := if index = 3 then .refused .unspecified "connection refused" else .none
    lsblk := .ok devices }

/-- A daemon that is started on a store. -/
def launchedOn (store : Store) : Outcome nodeServer (DeviceDiscovery × Option Failure) :=
  (ensureDiscoveryResultCR nodeEnvironment {}).run nodeServer (listing []) store

/-- The first probe of a daemon that is started on a store. -/
def firstProbe (choices : Nat → ProbeChoice) (store : Store) : Probe :=
  ⟨(launchedOn store).value.1, choices, (launchedOn store).state⟩

/-- The probe that follows another one. -/
def nextProbe (choices : Nat → ProbeChoice) (probe : Probe) : Probe :=
  ⟨(probe.outcome nodeEnvironment).value.1, choices,
    (probe.outcome nodeEnvironment).state⟩

/-- The first probe of a first daemon publishes the disk of its node. -/
theorem published_list_current_first :
    EachProbe (fun _ probe => probe.Publishes nodeEnvironment)
      [.probed (firstProbe (listing [dataDisk]) {}), .launched] :=
  (published_list_current
    ((DaemonRun.initially.launch (listing [])).probe (listing [dataDisk]) :
      DaemonRun nodeEnvironment (fun _ _ => False) {} _ _ _)).mpr
      ⟨fun computed => absurd computed (by decide), trivial⟩

/-- The result of the node as an earlier daemon has left it. -/
def earlierStore : Store where
  results := [{
    metadata := { name := "discovery-result-node", ns := "operator" }
    nodeName := "node"
    discoveredDevices := [discoveredDevice dataDisk] }]

/-- A probe after one whose update was refused. -/
def probeAfterRefusal : Probe :=
  nextProbe (listing [dataDisk]) (firstProbe (refusingUpdate [dataDisk]) {})

/-- The first probe of a new daemon after the disk is gone. -/
def probeAfterRestart : Probe := firstProbe (listing []) earlierStore

/-- A list whose update was refused is never published, and a list that an
earlier daemon has published stays when there are no devices any more. -/
theorem list_not_published :
    (∃ memory store, DaemonRun nodeEnvironment (fun _ _ => False) {}
        [.probed probeAfterRefusal, .probed (firstProbe (refusingUpdate [dataDisk]) {}),
          .launched] memory store) ∧
      ¬probeAfterRefusal.Publishes nodeEnvironment ∧
    (∃ memory store, DaemonRun nodeEnvironment (fun _ _ => False) earlierStore
        [.probed probeAfterRestart, .launched] memory store) ∧
      ¬probeAfterRestart.Publishes nodeEnvironment := by
  have differs : ∀ (probe : Probe) (devices : List DiscoveredDevice),
      probe.computed = some devices →
      (probe.outcome nodeEnvironment).value.2 = none →
      ((probe.outcome nodeEnvironment).state.result? nodeEnvironment.resultKey).any
        (fun result => result.discoveredDevices ≠ devices) = true →
      ¬probe.Publishes nodeEnvironment := by
    intro probe devices computed succeeds other publishes
    obtain ⟨result, stored, different⟩ := (Option.any_eq_true _ _).mp other
    exact absurd (publishes succeeds devices computed result stored)
      (by simpa using different)
  refine ⟨⟨_, _, ((DaemonRun.initially.launch _).probe _).probe _⟩, ?_,
    ⟨_, _, (DaemonRun.initially.launch _).probe _⟩, ?_⟩
  · exact differs _ [discoveredDevice dataDisk] (by decide) (by decide) (by decide)
  · exact differs _ [] (by decide) (by decide) (by decide)

end Discovery
