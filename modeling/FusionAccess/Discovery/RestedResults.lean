import FusionAccess.Discovery.UdevEvents
import FusionAccess.Interaction.Interference

/-!
# The result of a node at rest

Daemons of other nodes write to the API server all the time, and the controller may delete
a result. Whatever they do, once no event is on its way and the loop waits, the result of
the node lists the devices of a listing that came after every event of udev, unless a probe
has failed.
-/

namespace Discovery

open Kubernetes Interaction

/-! ## What is listed -/

/-- The last answer of `lsblk`, if there is one. -/
abbrev Listing : Type := Option (Except Failure (List BlockDevice))

/-- What a history has listed last. -/
def listed : List MonitorEvent → Listing
  | [] => none
  | .list lsblk :: _ => some lsblk
  | _ :: earlier => listed earlier

/-- A line that reports an event was read, and the block devices were not listed since. -/
def unlisted : List MonitorEvent → Bool
  | [] => false
  | .line text :: earlier => isUdevEvent text || unlisted earlier
  | .list _ :: _ => false
  | _ :: earlier => unlisted earlier

/-- A probe has begun and has not listed the block devices yet. -/
def awaitsListing : List MonitorEvent → Bool
  | [] => false
  | .trigger :: _ => true
  | .interval :: _ => true
  | .list _ :: _ => false
  | _ :: earlier => awaitsListing earlier

/-- The result of the node, if there is one, lists the devices. -/
def ListsDevices (env : Environment) (devices : List DiscoveredDevice) (store : Store) :
    Prop :=
  ∀ result, store.result? env.resultKey = some result →
    result.discoveredDevices = devices

/-- Others leave the result of the node as it is, or delete it. -/
def LeavesResult (env : Environment) (before after : Store) : Prop :=
  ∀ result, after.result? env.resultKey = some result →
    before.result? env.resultKey = some result

theorem ListsDevices.left
    {env : Environment} {devices : List DiscoveredDevice} {before after : Store}
    (lists : ListsDevices env devices before) (leaves : LeavesResult env before after) :
    ListsDevices env devices after :=
  fun result found => lists result (leaves result found)

/-! ## Programs among others -/

/-- The node and the API server, and what was listed last. -/
abbrev listingServer : Server daemon where
  State := Store × Listing
  Choice := ProbeChoice
  serve := fun choice state request =>
    (((nodeServer.serve choice state.1 request).1,
      if request.isListing then some choice.lsblk else state.2),
        (nodeServer.serve choice state.1 request).2)

/-- A daemon without an error has the devices that were listed last in memory, and the
result lists them. -/
def Current (env : Environment) (discovery : DeviceDiscovery) (state : Store × Listing) :
    Prop :=
  ∃ devices, state.2 = some (.ok devices) ∧
    discovery.disks = getDiscoverdDevices devices ∧
      ListsDevices env (getDiscoverdDevices devices) state.1

/-- What a daemon has to expect of others, and what holds when a probe is over. -/
def sharingNode (env : Environment) :
    Discipline listingServer Unit (DeviceDiscovery × Option Failure) where
  invariant := fun _ => True
  rely := fun _ before after => LeavesResult env before.1 after.1 ∧ after.2 = before.2
  peers := fun _ _ => False
  admitted := fun _ _ => True
  guarantee := fun _ _ => True
  ends := fun _ value state => value.2 = none → Current env value.1 state
  rely_refl := fun _ _ => ⟨fun _ found => found, rfl⟩
  rely_trans := fun _ _ _ _ first second =>
    ⟨fun result found => first.1 result (second.1 result found), second.2.trans first.2⟩
  ends_stable := by
    rintro _ value before after ⟨leaves, same⟩ current succeeded
    obtain ⟨devices, isListed, disks, lists⟩ := current succeeded
    exact ⟨devices, same.trans isListed, disks, lists.left leaves⟩

/-- The contract of a daemon among others. -/
abbrev amongOthers (env : Environment) : Contract listingServer.shared :=
  (sharingNode env).contract ()

section Programs

variable {env : Environment} {discovery : DeviceDiscovery} {state : Store × Listing}

/-- What has to be shown about one call that lists nothing. -/
theorem ensures_shared_ask
    {request : Request} {post : Except Failure request.Yield → Store × Listing → Prop}
    (silent : request.isListing = false)
    (served : ∀ store choice, LeavesResult env state.1 store →
      post (nodeServer.serve choice store request).2
        ((nodeServer.serve choice store request).1, state.2)) :
    Fallible.Ensures (amongOthers env) (ask request) post state := by
  refine ⟨fun _ _ _ _ _ => ⟨trivial, fun _ => False.elim, trivial⟩, ?_⟩
  rintro ⟨⟨store, listing⟩, choice⟩ ⟨⟨leaves, same⟩, _⟩
  have shown := served store choice leaves
  change post (nodeServer.serve choice store request).2
    ((nodeServer.serve choice store request).1,
      if request.isListing = true then some choice.lsblk else listing)
  rw [silent, if_neg Bool.false_ne_true]
  rw [show listing = state.2 from same]
  exact shown

/-- Reporting an event leaves memory and result alone. -/
theorem ensures_shared_report (event : DiskEvent) :
    (report discovery event).Ensures (amongOthers env)
      (fun later final => later.disks = discovery.disks ∧
        LeavesResult env state.1 final.1 ∧ final.2 = state.2) state := by
  unfold report
  dsimp only
  split
  · exact ⟨rfl, fun _ found => found, rfl⟩
  · rw [Program.ensures_bind]
    exact @ensures_shared_ask env state (.recordEvent event) _ rfl
      fun store choice leaves => ⟨rfl, leaves, rfl⟩

/-- The same for a call to the API server. -/
theorem ensures_shared_remote
    {request : Request} {post : Except Failure request.Yield → Store × Listing → Prop}
    (silent : request.isListing = false)
    (remote : request.remote = true)
    (success : ∀ store lsblk, LeavesResult env state.1 store →
      post (store.answer lsblk request).2 ((store.answer lsblk request).1, state.2))
    (failed : ∀ failure store, failure.reason ≠ .notFound →
      post (.error failure) (store, state.2)) :
    Fallible.Ensures (amongOthers env) (ask request) post state := by
  refine ensures_shared_ask silent fun store choice leaves => ?_
  unfold nodeServer
  dsimp only
  rw [if_pos remote]
  cases choice.fault with
  | none => exact success store choice.lsblk leaves
  | refused refusal message =>
      exact failed _ _ (by cases refusal <;> simp [Refusal.failure])
  | lost message => exact failed _ _ (by simp [errorf])

/-- When the status is updated without an error, the result lists the devices in memory,
if it still exists. -/
theorem ensures_shared_updateStatus :
    Fallible.Ensures (amongOthers env) (updateStatus env discovery)
      (fun result final => final.2 = state.2 ∧
        (result = .ok () → ListsDevices env discovery.disks final.1)) state := by
  unfold updateStatus
  rw [Fallible.ensures_bind, Fallible.ensures_attempt]
  refine ensures_shared_remote rfl rfl (fun store lsblk _ => ?_) fun failure store present => ?_
  · cases found : store.result? env.resultKey with
    | none =>
        simp only [Store.answer, found, Fallible.onSuccess_ok, Fallible.ensures_ite,
          Fallible.ensures_pure]
        refine ⟨fun _ => ⟨trivial, fun _ result present => ?_⟩,
          fun present => absurd rfl present⟩
        cases found.symm.trans present
    | some resultCR =>
        have key : resultCR.key = env.resultKey := (Registry.find?_eq_some found).2
        simp only [Store.answer, found, Fallible.onSuccess_ok, Fallible.ensures_bind]
        refine ensures_shared_ask rfl fun _ choice _ => ?_
        change Fallible.Ensures _ (Fallible.mapError _ _) _ _
        rw [Fallible.ensures_mapError]
        refine ensures_shared_remote rfl rfl (fun later lsblk _ => ⟨rfl, ?_⟩) ?_
        · rw [mapError_eq_ok]
          intro updated result stored
          rw [← key, ← key_withDevices discovery] at stored
          exact result?_updateStatus updated stored
        · exact fun failure store _ => ⟨rfl, fun impossible => by cases impossible⟩
  · simp only [Fallible.onSuccess_ok, Fallible.ensures_ite, Fallible.ensures_throw]
    exact ⟨fun absent => absurd absent present,
      fun _ => ⟨trivial, fun impossible => by cases impossible⟩⟩

/-- A probe that records a list without an error leaves it in memory and in the result. -/
theorem ensures_shared_recordDevices
    (devices : List DiscoveredDevice)
    (lists : ListsDevices env discovery.disks state.1) :
    (recordDevices env discovery devices).Ensures (amongOthers env)
      (fun value final => final.2 = state.2 ∧
        (value.2 = none → value.1.disks = devices ∧ ListsDevices env devices final.1))
      state := by
  unfold recordDevices
  by_cases same : discovery.disks = devices
  · rw [if_neg (not_not.mpr same)]
    subst same
    exact ⟨rfl, fun _ => ⟨rfl, lists⟩⟩
  · rw [if_pos same, Program.ensures_bind]
    refine Program.Ensures.mono ensures_shared_updateStatus ?_
    rintro (failure | _) updated ⟨listing, published⟩
    · dsimp only
      rw [Program.ensures_bind]
      refine (ensures_shared_report _).mono ?_
      rintro later final ⟨_, _, unchanged⟩
      exact ⟨unchanged.trans listing, fun impossible => by cases impossible⟩
    · dsimp only
      rw [Program.ensures_bind]
      refine (ensures_shared_report _).mono ?_
      rintro later final ⟨disks, leaves, unchanged⟩
      exact ⟨unchanged.trans listing, fun _ => ⟨disks, (published rfl).left leaves⟩⟩

/-- A probe that begins where the result lists the devices in memory. -/
theorem follows_discoverDevices
    (lists : ListsDevices env discovery.disks state.1) :
    (sharingNode env).Follows () (discoverDevices env discovery) state := by
  refine ⟨fun _ _ _ _ _ => ⟨trivial, fun _ => False.elim, trivial⟩, ?_⟩
  rintro ⟨⟨store, listing⟩, choice⟩ ⟨⟨leaves, _⟩, _⟩
  have later : ListsDevices env discovery.disks store := lists.left leaves
  change (handleBlockDevices env discovery choice.lsblk).Ensures (amongOthers env) _
    (store, some choice.lsblk)
  cases choice.lsblk with
  | error err =>
      unfold handleBlockDevices
      dsimp only
      rw [Program.ensures_bind]
      refine (ensures_shared_report _).mono fun _ _ _ => ?_
      intro impossible
      cases impossible
  | ok validDevices =>
      refine (ensures_shared_recordDevices (getDiscoverdDevices validDevices) later).mono ?_
      rintro value final ⟨listing, recorded⟩ succeeded
      exact ⟨validDevices, listing, recorded succeeded⟩

/-- A result that is created lists nothing. -/
theorem ListsDevices.create
    {store : Store} (lists : ListsDevices env [] store) (result : DiscoveryResult) :
    ListsDevices env [] (store.create result).1 := by
  unfold Store.create
  cases found : store.result? result.key with
  | some stored => exact lists
  | none =>
      intro later stored
      unfold Store.result? at stored found
      dsimp only at stored
      rw [Registry.find?_append] at stored
      rcases Option.or_eq_some_iff.mp stored with earlier | ⟨_, new⟩
      · exact lists later earlier
      · rw [List.mem_singleton.mp (Registry.find?_eq_some new).1]

/-- A daemon that starts where no devices are listed finds or creates such a result. -/
theorem ensures_shared_ensureDiscoveryResultCR
    (lists : ListsDevices env [] state.1) :
    (ensureDiscoveryResultCR env {}).Ensures (amongOthers env)
      (fun value final => value.2 = none →
        value.1.disks = [] ∧ ListsDevices env [] final.1) state := by
  unfold ensureDiscoveryResultCR
  split
  · intro impossible
    cases impossible
  · rw [Program.ensures_bind]
    refine ensures_shared_remote rfl rfl (fun store lsblk leaves => ?_)
      fun failure store present => ?_
    · have earlier := lists.left leaves
      dsimp only [Store.answer]
      cases store.result? (newDiscoveryResultInstance env).key with
      | some found => exact fun _ => ⟨rfl, earlier⟩
      | none =>
          have missing : (Store.missing (newDiscoveryResultInstance env).key).reason =
              .notFound := rfl
          dsimp only
          rw [if_pos missing, Program.ensures_bind]
          refine ensures_shared_remote rfl rfl (fun later lsblk leaves => ?_)
            fun failure store _ => ?_
          · have created := (earlier.left leaves).create (newDiscoveryResultInstance env)
            dsimp only [Store.answer]
            cases (later.create (newDiscoveryResultInstance env)).2 with
            | error err =>
                intro impossible
                cases impossible
            | ok _ =>
                dsimp only
                rw [Program.ensures_bind]
                refine (ensures_shared_report _).mono ?_
                rintro discovery final ⟨disks, leaves, _⟩ _
                exact ⟨disks, created.left leaves⟩
          · intro impossible
            cases impossible
    · dsimp only
      rw [if_neg present]
      intro impossible
      cases impossible

/-- `Start` up to its loop, where no devices are listed. -/
theorem follows_startDiscovery (lists : ListsDevices env [] state.1) :
    (sharingNode env).Follows () (startDiscovery env) state := by
  unfold Discipline.Follows startDiscovery
  rw [Program.ensures_bind]
  refine (ensures_shared_ensureDiscoveryResultCR lists).mono ?_
  rintro ⟨discovery, _ | err⟩ final ensured
  · obtain ⟨disks, none⟩ := ensured rfl
    rw [← disks] at none
    dsimp only
    rw [Program.ensures_bind]
    refine Program.Ensures.mono (follows_discoverDevices none) ?_
    rintro ⟨later, failed⟩ probed current succeeded
    exact current (Option.map_eq_none_iff.mp succeeded)
  · dsimp only
    rw [Program.ensures_bind]
    refine (ensures_shared_report _).mono fun _ _ _ => ?_
    intro impossible
    cases impossible

end Programs

/-! ## Runs -/

/-- Others leave the result of the node as it is, or delete it, at any time. -/
def SparesResult (env : Environment) (state : Monitoring) : MonitorEvent → Prop
  | .change store => LeavesResult env state.store store
  | _ => True

/-- What is left of a probe ends with a result that is current; between probes the result
is current. -/
def UpToDate (env : Environment) (history : List MonitorEvent) (state : Monitoring) : Prop :=
  match state.loop with
  | .starting rest => (sharingNode env).Follows () rest (state.store, listed history)
  | .probing rest => (sharingNode env).Follows () rest (state.store, listed history)
  | .selecting _ => Current env state.discovery (state.store, listed history)
  | .returned => True

section Rests

variable {env : Environment} {history : List MonitorEvent} {state before after : Monitoring}

theorem Current.lists
    {discovery : DeviceDiscovery} {state : Store × Listing}
    (current : Current env discovery state) :
    ListsDevices env discovery.disks state.1 := by
  obtain ⟨devices, _, disks, lists⟩ := current
  rw [disks]
  exact lists

/-- A call of a probe, after which the listing is the given one. -/
theorem UpToDate.issue
    {event : MonitorEvent} {choice : ProbeChoice} {listing : Bool}
    (upToDate : UpToDate env history before)
    (tells : listed (event :: history) =
      if listing then some choice.lsblk else listed history)
    (issued : before.issue choice listing = some after) :
    UpToDate env (event :: history) after := by
  obtain ⟨request, next, isListing, ⟨starts, rfl⟩ | ⟨probes, rfl⟩⟩ :=
    Monitoring.issue_cases issued
  · unfold UpToDate at upToDate ⊢
    rw [starts] at upToDate
    have continued := upToDate.2 ((before.store, listed history), choice)
      ⟨⟨fun _ found => found, rfl⟩, trivial, trivial⟩
    dsimp only
    rw [tells, ← isListing]
    exact continued
  · unfold UpToDate at upToDate ⊢
    rw [probes] at upToDate
    have continued := upToDate.2 ((before.store, listed history), choice)
      ⟨⟨fun _ found => found, rfl⟩, trivial, trivial⟩
    dsimp only
    rw [tells, ← isListing]
    exact continued

/-- Changes that others make are no obstacle. -/
theorem UpToDate.left
    {event : MonitorEvent}
    (upToDate : UpToDate env history before)
    (tells : listed (event :: history) = listed history)
    (leaves : LeavesResult env before.store after.store)
    (sameLoop : after.loop = before.loop)
    (same : after.discovery = before.discovery) :
    UpToDate env (event :: history) after := by
  unfold UpToDate at upToDate ⊢
  rw [sameLoop, same, tells]
  cases loop : before.loop with
  | starting rest =>
      rw [loop] at upToDate
      exact Discipline.Follows.stable upToDate ⟨leaves, rfl⟩
  | probing rest =>
      rw [loop] at upToDate
      exact Discipline.Follows.stable upToDate ⟨leaves, rfl⟩
  | selecting timeout =>
      rw [loop] at upToDate
      obtain ⟨devices, isListed, disks, lists⟩ := upToDate
      exact ⟨devices, isListed, disks, lists.left leaves⟩
  | returned => trivial

/-- A probe begins with what is current. -/
theorem UpToDate.probe
    {event : MonitorEvent} {timeout : Nat}
    (upToDate : UpToDate env history before)
    (selects : before.loop = .selecting timeout)
    (same : after = Monitoring.probe env after)
    (sameDiscovery : after.discovery = before.discovery)
    (sameStore : after.store = before.store) :
    UpToDate env (event :: history) after := by
  unfold UpToDate at upToDate
  rw [selects] at upToDate
  unfold UpToDate
  rw [same]
  dsimp only [Monitoring.probe]
  refine follows_discoverDevices ?_
  rw [sameDiscovery, sameStore]
  exact upToDate.lists

/-- One step, unless a probe fails. -/
theorem UpToDate.step
    {event : MonitorEvent}
    (upToDate : UpToDate env history before)
    (succeeds : event ≠ .fail)
    (spares : SparesResult env before event)
    (moved : before.step env event = some after) :
    UpToDate env (event :: history) after := by
  have unchanged : LeavesResult env before.store before.store := fun _ found => found
  cases event with
  | line text =>
      obtain ⟨_, rfl⟩ := Monitoring.step_line moved
      split
      · exact upToDate.left rfl unchanged rfl rfl
      · exact upToDate.left rfl unchanged rfl rfl
  | outputEnds =>
      obtain ⟨_, rfl⟩ := Monitoring.step_outputEnds moved
      exact upToDate.left rfl unchanged rfl rfl
  | collect =>
      obtain ⟨_, _, ⟨_, rfl⟩ | ⟨_, _, _, rfl⟩⟩ := Monitoring.step_collect moved
      · exact upToDate.left rfl unchanged rfl rfl
      · exact upToDate.left rfl unchanged rfl rfl
  | expire =>
      obtain ⟨_, _, _, _, rfl⟩ := Monitoring.step_expire moved
      exact upToDate.left rfl unchanged rfl rfl
  | trigger =>
      obtain ⟨_, timeout, _, selects, _, rfl⟩ := Monitoring.step_trigger moved
      exact upToDate.probe selects rfl rfl rfl
  | interval =>
      obtain ⟨timeout, selects, _, rfl⟩ := Monitoring.step_interval moved
      exact upToDate.probe selects rfl rfl rfl
  | list lsblk => exact upToDate.issue rfl moved
  | call fault => exact upToDate.issue rfl moved
  | finish =>
      obtain ⟨discovery, ⟨starts, rfl⟩ | ⟨probes, rfl⟩⟩ := Monitoring.step_finish moved
      · unfold UpToDate at upToDate
        rw [starts] at upToDate
        exact upToDate rfl
      · unfold UpToDate at upToDate
        rw [probes] at upToDate
        exact upToDate rfl
  | fail => exact absurd rfl succeeds
  | close =>
      obtain ⟨_, _, _, rfl⟩ := Monitoring.step_close moved
      exact upToDate.left rfl unchanged rfl rfl
  | disable =>
      obtain ⟨timeout, _, selects, _, rfl⟩ := Monitoring.step_disable moved
      unfold UpToDate at upToDate
      rw [selects] at upToDate
      exact upToDate
  | shutdown =>
      obtain ⟨timeout, _, rfl⟩ := Monitoring.step_shutdown moved
      exact trivial
  | elapse seconds =>
      obtain rfl := Monitoring.step_elapse moved
      exact upToDate.left rfl (fun _ found => found) rfl rfl
  | change store =>
      obtain rfl := Monitoring.step_change moved
      exact upToDate.left rfl spares rfl rfl

/-- What the node has to list is on its way to a probe, or a probe is about to list it. -/
theorem unlisted_cases (unseen : unlisted history = true) :
    awaitsListing history = true ∨ unprobed history = true := by
  induction history with
  | nil => cases unseen
  | cons event earlier inductionHypothesis =>
      cases event with
      | line text =>
          rcases Bool.or_eq_true_iff.mp unseen with isEvent | unseen
          · exact Or.inr (Bool.or_eq_true_iff.mpr (Or.inl isEvent))
          · refine (inductionHypothesis unseen).imp_right fun seen => ?_
            exact Bool.or_eq_true_iff.mpr (Or.inr seen)
      | list lsblk => cases unseen
      | trigger => exact Or.inl rfl
      | interval => exact Or.inl rfl
      | _ => exact inductionHypothesis unseen

/-- A probe that has not listed the block devices is at its beginning. -/
def AtBeginning (env : Environment) (history : List MonitorEvent) (state : Monitoring) :
    Prop :=
  awaitsListing history = true →
    ∃ discovery, state.loop = .probing (discoverDevices env discovery)

/-- The first call of a probe lists the block devices. -/
theorem AtBeginning.step
    {event : MonitorEvent}
    (atBeginning : AtBeginning env history before)
    (moved : before.step env event = some after) :
    AtBeginning env (event :: history) after := by
  intro awaits
  cases event with
  | line text =>
      obtain ⟨_, rfl⟩ := Monitoring.step_line moved
      split
      · exact atBeginning awaits
      · exact atBeginning awaits
  | outputEnds =>
      obtain ⟨_, rfl⟩ := Monitoring.step_outputEnds moved
      exact atBeginning awaits
  | collect =>
      obtain ⟨_, _, ⟨_, rfl⟩ | ⟨_, _, _, rfl⟩⟩ := Monitoring.step_collect moved
      · exact atBeginning awaits
      · exact atBeginning awaits
  | expire =>
      obtain ⟨_, _, _, _, rfl⟩ := Monitoring.step_expire moved
      exact atBeginning awaits
  | trigger =>
      obtain ⟨_, _, _, _, _, rfl⟩ := Monitoring.step_trigger moved
      exact ⟨before.discovery, rfl⟩
  | interval =>
      obtain ⟨_, _, _, rfl⟩ := Monitoring.step_interval moved
      exact ⟨before.discovery, rfl⟩
  | list lsblk => cases awaits
  | call fault =>
      obtain ⟨discovery, probes⟩ := atBeginning awaits
      obtain ⟨request, next, silent, ⟨starts, rfl⟩ | ⟨continues, rfl⟩⟩ :=
        Monitoring.issue_cases moved
      · cases starts.symm.trans probes
      · obtain ⟨rfl, _⟩ := Program.call.inj (DiscoveryLoop.probing.inj
          (continues.symm.trans probes))
        cases silent
  | finish =>
      obtain ⟨discovery, probes⟩ := atBeginning awaits
      obtain ⟨_, ⟨starts, rfl⟩ | ⟨ends, rfl⟩⟩ := Monitoring.step_finish moved
      · cases starts.symm.trans probes
      · cases ends.symm.trans probes
  | fail =>
      obtain ⟨discovery, probes⟩ := atBeginning awaits
      obtain ⟨_, _, ⟨starts, rfl⟩ | ⟨ends, rfl⟩⟩ := Monitoring.step_fail moved
      · cases starts.symm.trans probes
      · cases ends.symm.trans probes
  | close =>
      obtain ⟨_, _, _, rfl⟩ := Monitoring.step_close moved
      exact atBeginning awaits
  | disable =>
      obtain ⟨discovery, probes⟩ := atBeginning awaits
      obtain ⟨_, _, selects, _, rfl⟩ := Monitoring.step_disable moved
      cases selects.symm.trans probes
  | shutdown =>
      obtain ⟨discovery, probes⟩ := atBeginning awaits
      obtain ⟨_, selects, rfl⟩ := Monitoring.step_shutdown moved
      cases selects.symm.trans probes
  | elapse seconds =>
      obtain rfl := Monitoring.step_elapse moved
      exact atBeginning awaits
  | change store =>
      obtain rfl := Monitoring.step_change moved
      exact atBeginning awaits

/-- In every order of steps, once no event is on its way and the loop waits, the result of
the node lists, if it exists, the devices of a listing that came after every event of udev.
The output of `udevadm` is still read, no probe has failed, others at most delete the
result, and it listed nothing when the daemon was started. -/
theorem rested_result_current
    {store : Store} {timeout : Nat}
    (listsNothing : ListsDevices env [] store)
    (run : (monitoringMachine env).Run (SparesResult env) (Monitoring.initial env store)
      history state)
    (reading : MonitorEvent.outputEnds ∉ history)
    (succeeds : MonitorEvent.fail ∉ history)
    (rests : state.carries = false)
    (selects : state.loop = .selecting timeout) :
    unlisted history = false ∧
      ∃ devices, listed history = some (.ok devices) ∧
        ListsDevices env (getDiscoverdDevices devices) state.store := by
  have upToDate : UpToDate env history state := by
    refine @Machine.Run.invariant _ _ _ _ _ _ _ (fun history state =>
      MonitorEvent.fail ∉ history → UpToDate env history state) run
      (fun _ => follows_startDiscovery listsNothing) ?_ succeeds
    intro history before event after upToDate spares moved succeeds
    rw [List.mem_cons, not_or] at succeeds
    exact (upToDate succeeds.2).step (Ne.symm succeeds.1) spares moved
  have atBeginning : AtBeginning env history state := by
    refine run.invariant (fun impossible => by cases impossible) ?_
    exact fun _ _ _ _ atBeginning _ moved => atBeginning.step moved
  constructor
  · rw [Bool.eq_false_iff]
    intro unseen
    rcases unlisted_cases unseen with awaits | unprobed
    · obtain ⟨discovery, probes⟩ := atBeginning awaits
      cases selects.symm.trans probes
    · have seen := (relays_of_run run reading).unprobed_eq_false rests
      cases seen.symm.trans unprobed
  · unfold UpToDate at upToDate
    rw [selects] at upToDate
    obtain ⟨devices, isListed, _, lists⟩ := upToDate
    exact ⟨devices, isListed, lists⟩

end Rests

/-- A disk is plugged in and published. -/
def publishedDisk : List MonitorEvent :=
  [.finish, .call .none, .call .none, .call .none, .call .none, .list (.ok [dataDisk])] ++
    pluggedIn

/-- Nobody else changes anything. -/
def isUndisturbed : MonitorEvent → Bool
  | .change _ => false
  | _ => true

/-- Such a run spares the result. -/
theorem sparesResult_of_isUndisturbed
    {env : Environment} {state : Monitoring} {event : MonitorEvent}
    (undisturbed : isUndisturbed event = true) : SparesResult env state event := by
  cases event with
  | change store => cases undisturbed
  | _ => trivial

theorem isSome_publishedDisk :
    (replayed (fun _ event => isUndisturbed event = true) publishedDisk).isSome = true := by
  decide +kernel

/-- The disk is in the list. -/
theorem rested_result_current_publishedDisk :
    unlisted publishedDisk = false ∧
      ∃ devices, listed publishedDisk = some (.ok devices) ∧
        ListsDevices nodeEnvironment (getDiscoverdDevices devices)
          ((replayed _ publishedDisk).get isSome_publishedDisk).store := by
  have spared : (monitoringMachine nodeEnvironment).Run (SparesResult nodeEnvironment)
      (Monitoring.initial nodeEnvironment {}) publishedDisk
      ((replayed _ publishedDisk).get isSome_publishedDisk) :=
    (run_of_replayed isSome_publishedDisk).mono fun _ _ => sparesResult_of_isUndisturbed
  exact @rested_result_current nodeEnvironment publishedDisk _ {} 305
    (fun _ found => by cases found) spared
    (by simp [publishedDisk, pluggedIn, startedDaemon])
    (by simp [publishedDisk, pluggedIn, startedDaemon])
    (by decide +kernel) rfl

end Discovery
