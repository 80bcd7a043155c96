import FusionAccess.Controller.FallingPasses

/-!
# Passes over an unchanged cluster settle

In a sequence of passes on one claim, between which only time passes, the rank
of the claim falls with every write to its status, unless a pass comes to a
failure. Failures are reported by every pass that comes to them, so the
sequence settles exactly when there is a last pass that does. Which objects the
API server refuses is arbitrary.
-/

namespace FusionAccess

open Kubernetes Interaction Fallible

/-! ## Failures are reported again and again -/

/-- The API server refuses calls as given, the given number is drawn, and the
status of the claim is not written. -/
abbrev unreported
    (refuses : Refusals) (key : NamespacedName) (pick : Nat) : Contract apiServer where
  rely := fun state call choice =>
    choice = decision refuses key pick state call ∧ writesStatus key call = false
  guard := fun _ _ => True

section Failures

variable {refuses : Refusals} {fsc : FileSystemClaim} {cluster : Cluster} {pick : Nat}
  {post : Except Failure Bool → Cluster → Prop}

theorem admitsReads_unreported {key : NamespacedName} :
    AdmitsReads (unreported refuses key pick) :=
  fun _ _ _ => trivial

theorem not_failsReads_unreported {key : NamespacedName} :
    ¬FailsReads (unreported refuses key pick) :=
  not_failsReads_of_decision fun _ _ _ relied => relied.1

/-- A call that is refused fails. -/
theorem ensures_request_unreported
    {key : NamespacedName} {call : Call}
    {post : Except Failure call.Yield → Cluster → Prop}
    (remote : call.remote = true)
    (writes : call.isRead = false)
    (refused : (refuses cluster call).isSome = true)
    (failed : ∀ failure, post (.error failure) cluster) :
    Ensures (unreported refuses key pick) (request call) post cluster := by
  refine ensures_request_refused trivial remote ?_ fun failure _ => failed failure
  rintro choice ⟨rfl, elsewhere⟩
  obtain ⟨cause, known⟩ := Option.isSome_iff_exists.mp refused
  refine ⟨cause.1, cause.2, ?_⟩
  rw [decision, writes, elsewhere, known]
  rfl

/-- A patch of the status is not answered. -/
theorem ensures_patchFSCStatus_unreported
    {mutate : Nat → FileSystemClaim → FileSystemClaim}
    {post : Except Failure Unit → Cluster → Prop}
    (stored : cluster.claim? fsc.key = some fsc) :
    Ensures (unreported refuses fsc.key pick) (patchFSCStatus fsc mutate) post
      cluster := by
  refine ensures_retryOnConflict 4 ?_
  rw [ensures_bind]
  refine ensures_read admitsReads_unreported rfl (fun _ => ?_) fun failure _ mayFail =>
    absurd ⟨_, _, rfl, mayFail⟩ not_failsReads_unreported
  simp only [Cluster.answer, stored, onSuccess_ok, ensures_bind]
  refine ensures_local trivial rfl rfl fun _ => ?_
  simp only [Cluster.answer, onSuccess_ok]
  refine ⟨trivial, fun choice relied => ?_⟩
  have silent := relied.2
  simp [writesStatus] at silent

theorem ensures_reportCondition_unreported
    {conditionType : ConditionType} {status : ConditionStatus} {reason : Reason}
    {message : String}
    (stored : cluster.claim? fsc.key = some fsc) :
    Ensures (unreported refuses fsc.key pick)
      (reportCondition fsc conditionType status reason message) post cluster := by
  rw [ensures_bind]
  exact ensures_patchFSCStatus_unreported stored

theorem ensures_reportFailure_unreported
    (resourceType : ResourceType) (err : Failure)
    (stored : cluster.claim? fsc.key = some fsc) :
    Ensures (unreported refuses fsc.key pick) (reportFailure fsc resourceType err) post
      cluster := by
  rw [ensures_bind]
  exact ensures_patchFSCStatus_unreported stored

/-! ### Steps that come to a failure -/

/-- Devices that are not valid are reported. -/
theorem ensures_recordValidation_unreported
    (stored : cluster.claim? fsc.key = some fsc)
    (fails : validates cluster fsc.devices = false) :
    Ensures (unreported refuses fsc.key pick) (recordValidation fsc) post cluster := by
  rw [ensures_bind, ensures_attempt]
  refine (ensures_validateDevices admitsReads_unreported fsc).mono ?_
  rintro (failure | _) final ⟨rfl, checked⟩
  · rw [onSuccess_ok, ensures_bind]
    exact ensures_patchFSCStatus_unreported stored
  · rw [fails] at checked
    cases checked

/-- An object is not created whose name is taken, or whose creation is refused. -/
theorem ensures_createResource_unreported
    {kind : Kind} {name : String} {spec : Value}
    {post : Except Failure Unit → Cluster → Prop}
    (fails : (cluster.object? kind ⟨fsc.metadata.ns, name⟩).isSome = true ∨
      (refuses cluster (.create kind (ownedObject fsc name spec))).isSome = true)
    (failed : ∀ failure, post (.error failure) cluster) :
    Ensures (unreported refuses fsc.key pick)
      (createResourceWithOwnership fsc kind name spec) post cluster := by
  rw [createResourceWithOwnership_eq]
  rcases fails with taken | refused
  · obtain ⟨object, found⟩ := Option.isSome_iff_exists.mp taken
    have key : (ownedObject fsc name spec).key = ⟨fsc.metadata.ns, name⟩ := rfl
    have unchanged : cluster.afterCall (.create kind (ownedObject fsc name spec)) =
        cluster := by
      simp only [Cluster.afterCall, Cluster.answer, Cluster.create, key, found]
    refine ensures_request trivial (fun _ => ?_) (fun failure _ _ => failed failure)
      fun failure _ _ => ?_
    · simp only [unchanged, Cluster.answer, Cluster.create, key, found]
      exact failed _
    · rw [unchanged]
      exact failed failure
  · exact ensures_request_unreported rfl rfl refused failed

theorem ensures_createStorageClass_unreported
    (stored : cluster.claim? fsc.key = some fsc)
    (refused : (refuses cluster
      (.createStorageClass (wantedStorageClass fsc))).isSome = true) :
    Ensures (unreported refuses fsc.key pick) (createStorageClass fsc) post cluster := by
  rw [ensures_bind, ensures_attempt]
  refine ensures_request_unreported rfl rfl refused fun failure => ?_
  exact ensures_reportFailure_unreported _ failure stored

theorem ensures_createLocalDisks_unreported
    {devicePath nodeName : String} {devices : List String} {requeue : Bool}
    (stored : cluster.claim? fsc.key = some fsc)
    (fails : (localDiskName? cluster devicePath nodeName).all (fun name =>
      (cluster.object? .localDisk ⟨fsc.metadata.ns, name⟩).isNone &&
        (refuses cluster (.create .localDisk (ownedObject fsc name
          (localDiskSpec devicePath nodeName)))).isSome) = true) :
    Ensures (unreported refuses fsc.key pick)
      (createLocalDisks fsc nodeName (devicePath :: devices) requeue) post cluster := by
  refine ensures_createLocalDisks_cons admitsReads_unreported
    (fun fails => absurd fails not_failsReads_unreported)
    (fun _ err => ensures_reportFailure_unreported _ err stored)
    (fun name named taken => ?_) fun name named free => ?_
  · rw [named, Option.all_some, Option.isNone_eq_false_iff.mpr taken] at fails
    cases fails
  · rw [named, Option.all_some, free, Option.isNone_none, Bool.true_and] at fails
    rw [ensures_bind, ensures_attempt]
    exact ensures_createResource_unreported (Or.inr fails)
      fun err => ensures_reportFailure_unreported _ err stored

/-- Nothing gets past `ensureLocalDisks` when it fails. -/
theorem ensures_ensureLocalDisks_unreported
    (stored : cluster.claim? fsc.key = some fsc)
    (fails : localDisksFail refuses cluster fsc pick = true) :
    Ensures (unreported refuses fsc.key pick) (ensureLocalDisks fsc) post cluster := by
  have reported : ∀ err, Ensures (unreported refuses fsc.key pick)
      (reportFailure fsc .localDisk err) post cluster :=
    fun err => ensures_reportFailure_unreported _ err stored
  refine ensures_ensureLocalDisks_exits admitsReads_unreported
    (fun fails => absurd fails not_failsReads_unreported) (fun created same => ?_)
    (fun _ _ => ensures_reportCondition_unreported stored) (fun notCreated awaits => ?_)
    (fun notCreated notAwaiting invalid => ?_) fun notCreated notAwaiting validated => ?_
  · simp [localDisksFail, created, same] at fails
  · simp [localDisksFail, notCreated, awaits] at fails
  · refine ensures_recordValidation_unreported stored ?_
    simpa [localDisksFail, notCreated, notAwaiting, invalid] using fails
  have creation : creationFails refuses cluster fsc pick = true := by
    simpa [localDisksFail, notCreated, notAwaiting, validated] using fails
  refine ⟨fun _ => reported, ?_⟩
  rintro nodeName member ⟨_, choice, ⟨rfl, _⟩, drawn⟩
  rw [creationFails, List.isEmpty_eq_false_iff.mpr (List.ne_nil_of_mem member),
    Bool.false_or, show drawnNode cluster pick = nodeName from drawn.symm] at creation
  cases listed : fsc.devices with
  | nil => simp [listed] at creation
  | cons devicePath devices =>
      rw [listed, List.head?_cons, Option.any_some] at creation
      exact ensures_createLocalDisks_unreported stored creation

/-- Nothing gets past `ensureFileSystem` when it fails. -/
theorem ensures_ensureFileSystem_unreported
    (stored : cluster.claim? fsc.key = some fsc)
    (fails : filesystemFails refuses cluster fsc = true) :
    Ensures (unreported refuses fsc.key pick) (ensureFileSystem fsc) post cluster := by
  rw [filesystemFails, Bool.and_eq_true, Bool.and_eq_true, Bool.or_eq_true,
    Bool.not_eq_true', List.isEmpty_eq_false_iff, decide_eq_true_iff] at fails
  obtain ⟨⟨created, some⟩, fails⟩ := fails
  refine ensures_ensureFileSystem_exits admitsReads_unreported
    (fun fails => absurd fails not_failsReads_unreported) (fun skipped => ?_)
    (fun _ _ none => ?_) (fun fs _ _ owned => ?_)
    fun _ _ _ err => ensures_reportFailure_unreported _ err stored
  · rcases skipped with notCreated | none
    · rw [created] at notCreated
      cases notCreated
    · exact absurd none some
  · rw [none, List.isEmpty_nil, Bool.true_and, Bool.or_eq_true] at fails
    rw [ensures_bind, ensures_attempt]
    exact ensures_createResource_unreported (fails.resolve_right (by simp))
      fun err => ensures_reportFailure_unreported _ err stored
  · simp [owned] at fails

/-- Nothing gets past `ensureStorageClass` when it fails. -/
theorem ensures_ensureStorageClass_unreported
    (stored : cluster.claim? fsc.key = some fsc)
    (fails : storageClassFails refuses cluster fsc = true) :
    Ensures (unreported refuses fsc.key pick) (ensureStorageClass fsc) post cluster := by
  rw [storageClassFails, Bool.and_eq_true, Bool.and_eq_true, Option.isNone_iff_eq_none]
    at fails
  obtain ⟨⟨created, none⟩, refused⟩ := fails
  refine ensures_ensureStorageClass_exits admitsReads_unreported
    (fun fails => absurd fails not_failsReads_unreported) (fun notCreated => ?_)
    (fun _ _ => ensures_createStorageClass_unreported stored refused)
    (fun current _ found => ?_) fun current _ found => ?_
  · rw [created] at notCreated
    cases notCreated
  · rw [none] at found
    cases found
  · rw [none] at found
    cases found

/-! ### Steps that let the pass go on -/

theorem ensures_ensureLocalDisks_passed
    (stored : cluster.claim? fsc.key = some fsc)
    (goesOn : letsGoOn cluster fsc pick = true)
    (next : post (.ok false) cluster) :
    Ensures (unreported refuses fsc.key pick) (ensureLocalDisks fsc) post cluster := by
  refine ensures_ensureLocalDisks_exits admitsReads_unreported
    (fun fails => absurd fails not_failsReads_unreported) (fun _ _ => next)
    (fun _ _ => ensures_reportCondition_unreported stored) (fun _ _ => next)
    (fun notCreated notAwaiting invalid => ?_) fun notCreated notAwaiting _ => ?_
  · simp [letsGoOn, localDisksGoOn, beginsCreation, notCreated, notAwaiting, invalid]
      at goesOn
  have reported : ∀ err, Ensures (unreported refuses fsc.key pick)
      (reportFailure fsc .localDisk err) post cluster :=
    fun err => ensures_reportFailure_unreported _ err stored
  refine ⟨fun _ => reported, ?_⟩
  rintro nodeName _ ⟨_, choice, ⟨rfl, _⟩, drawn⟩
  have ends : creationEnds cluster fsc nodeName = true := by
    rw [letsGoOn, localDisksGoOn, notCreated, if_neg (by simp), notAwaiting, Bool.false_or,
      Bool.and_eq_true, show drawnNode cluster pick = nodeName from drawn.symm] at goesOn
    exact goesOn.2
  cases listed : fsc.devices with
  | nil =>
      rw [createLocalDisks, ensures_pure]
      exact next
  | cons devicePath devices =>
      refine ensures_createLocalDisks_cons admitsReads_unreported
        (fun fails => absurd fails not_failsReads_unreported) (fun _ => reported)
        (fun _ _ _ => next) fun name named free => ?_
      simp [creationEnds, listed, named, free] at ends

theorem ensures_syncLocalDiskConditions_passed
    (kept : keepsLocalDiskCondition cluster fsc (ownFilesystems cluster fsc) = true)
    (next : post (.ok false) cluster) :
    Ensures (unreported refuses fsc.key pick) (syncLocalDiskConditions fsc) post
      cluster := by
  refine ensures_syncLocalDiskConditions_exits admitsReads_unreported
    (fun fails => absurd fails not_failsReads_unreported) ?_
  rintro users (rfl | ⟨fails, _⟩)
  · refine ⟨fun _ => next, fun changes => ?_⟩
    rw [kept] at changes
    cases changes
  · exact absurd fails not_failsReads_unreported

theorem ensures_ensureFileSystem_passed
    (stored : cluster.claim? fsc.key = some fsc)
    (goesOn : filesystemGoesOn cluster fsc = true)
    (next : post (.ok false) cluster) :
    Ensures (unreported refuses fsc.key pick) (ensureFileSystem fsc) post cluster := by
  refine ensures_ensureFileSystem_exits admitsReads_unreported
    (fun fails => absurd fails not_failsReads_unreported) (fun _ => next)
    (fun created some none => ?_)
    (fun fs created some owned => ⟨fun _ => next, fun different => ?_⟩)
    fun _ _ _ err => ensures_reportFailure_unreported _ err stored
  · simp [filesystemGoesOn, created, some, none] at goesOn
  · simp [filesystemGoesOn, created, some, owned, different] at goesOn

theorem ensures_syncFilesystemConditions_passed
    (kept : keepsFilesystemCondition cluster fsc = true)
    (next : post (.ok false) cluster) :
    Ensures (unreported refuses fsc.key pick) (syncFilesystemConditions fsc) post
      cluster := by
  refine ensures_syncFilesystemConditions_exits admitsReads_unreported
    (fun fails => absurd fails not_failsReads_unreported) (fun _ => next)
    fun changes => ?_
  rw [kept] at changes
  cases changes

/-! ### The pass -/

/-- Without a report no pass gets past a failure. -/
theorem ensures_provision_unreported
    (stored : cluster.claim? fsc.key = some fsc)
    (fails : provisioningFails refuses cluster fsc pick = true) :
    Ensures (unreported refuses fsc.key pick) (provision fsc) (fun _ _ => False)
      cluster := by
  refine ensures_provision_orElse ?_
  simp only [provisioningFails, Bool.or_eq_true, Bool.and_eq_true] at fails
  rcases fails with localDisks | ⟨⟨goesOn, kept⟩, fails⟩
  · exact ensures_ensureLocalDisks_unreported stored localDisks
  refine ensures_ensureLocalDisks_passed stored goesOn ?_
  refine ensures_syncLocalDiskConditions_passed kept ?_
  rcases fails with filesystem | ⟨⟨present, healthy⟩, storageClass⟩
  · exact ensures_ensureFileSystem_unreported stored filesystem
  refine ensures_ensureFileSystem_passed stored present ?_
  refine ensures_syncFilesystemConditions_passed healthy ?_
  exact ensures_ensureStorageClass_unreported stored storageClass

/-- A pass that comes to a failure writes the status. -/
theorem ensures_reconcile_unreported
    (r : FileSystemClaimReconciler)
    {key : NamespacedName}
    (fails : comesToFailure refuses key pick cluster = true) :
    Ensures (unreported refuses key pick) (reconcile r key) (fun _ _ => False)
      cluster := by
  refine ensures_reconcile admitsReads_unreported (fun absent => ?_) (fun fsc found => ?_)
    fun _ _ _ fails => absurd ⟨_, _, fails⟩ not_failsReads_unreported
  · rw [comesToFailure, absent] at fails
    cases fails
  · obtain rfl : fsc.key = key := (Registry.find?_eq_some found).2
    rw [comesToFailure, found, Option.any_some, Bool.and_eq_true, bne_iff_ne] at fails
    obtain ⟨standing, failing⟩ := fails
    rw [reconcileClaim_eq_provision, ensures_bind]
    · refine (ensures_provision_unreported found failing).mono ?_
      rintro result final ⟨⟩
    · intro deleting
      simpa [deleting] using standing
    · cases deleting : isDeleting fsc with
      | true => exact Or.inl rfl
      | false => exact Or.inr (by simpa [deleting] using standing)

end Failures

/-! ## The sequence of passes -/

section Course

variable (refuses : Refusals) (r : FileSystemClaimReconciler) (key : NamespacedName)
  (picks ticks : Nat → Nat) (initial : Cluster)

/-- A pass in which the API server refuses calls as given, and nothing else goes
wrong. -/
def servedPass (pick : Nat) (start : Cluster) : Pass apiServer NamespacedName :=
  ⟨key, (reconciler r key).choicesBy apiServer (decision refuses key pick) start, start⟩

/-- The state after so many passes on a claim, each of which draws its own
number. Between two passes nothing changes but the clock, which advances. -/
def course : Nat → Cluster
  | 0 => initial
  | count + 1 =>
      let final := ((servedPass refuses r key (picks count) (course count)).outcome
        (reconciler r)).state
      { final with clock := final.clock + ticks count + 1 }

/-- The pass that follows after so many others. -/
abbrev coursePass (count : Nat) : Pass apiServer NamespacedName :=
  servedPass refuses r key (picks count) (course refuses r key picks ticks initial count)

/-- The pass that follows after so many others comes to a failure. -/
def failsAt (count : Nat) : Bool :=
  comesToFailure refuses key (picks count) (course refuses r key picks ticks initial count)

/-- From some pass on no pass writes the status of the claim. -/
def Settles : Prop :=
  ∃ first, ∀ count, first ≤ count →
    ∀ event ∈ passLog r (coursePass refuses r key picks ticks initial count),
      writesStatus key event.request = false

end Course

section Settling

variable {refuses : Refusals} {r : FileSystemClaimReconciler} {key : NamespacedName}
  {picks ticks : Nat → Nat} {initial : Cluster}

/-- The environment keeps to the refusals. -/
theorem choice_of_servedPass
    {pick : Nat} {start : Cluster} {event : Event apiServer}
    (member : event ∈ passLog r (servedPass refuses r key pick start)) :
    event.choice = decision refuses key pick event.before event.request :=
  Program.choice_of_choicesBy member

/-- A pass without a failure lowers the rank if it writes the status, and does not
raise it. -/
theorem rank_course
    {count : Nat}
    (succeeds : failsAt refuses r key picks ticks initial count = false) :
    rank key (course refuses r key picks ticks initial (count + 1)) ≤
        rank key (course refuses r key picks ticks initial count) ∧
      ∀ event ∈ passLog r (coursePass refuses r key picks ticks initial count),
        writesStatus key event.request = true →
        rank key (course refuses r key picks ticks initial (count + 1)) <
          rank key (course refuses r key picks ticks initial count) := by
  have lowers := (@passLog_of_ensures _ _
    (coursePass refuses r key picks ticks initial count) _
    (ensures_reconcile_lowering r succeeds) fun event => choice_of_servedPass).1
  refine @Program.run_lowers _ apiServer _ _ _ (rank key)
    (fun request => writesStatus key request = true) (reconciler r key) _ _
    fun event member => ?_
  obtain ⟨before, request, choice⟩ := event
  obtain rfl : choice = decision refuses key (picks count) before request :=
    choice_of_servedPass member
  exact lowers _ member

/-- A StorageClass that is gone and is not accepted again is a failure. -/
example : comesToFailure (fun _ _ => some (.unspecified, "denied")) readyKey 0
    { readyCluster with storageClasses := [] } = true := by decide

end Settling

/-! ### Modified devices are reported by every pass -/

/-- The claim has LocalDisks, but not for its devices. -/
def isModified (key : NamespacedName) (cluster : Cluster) : Bool :=
  (cluster.claim? key).any fun fsc =>
    !isDeleting fsc && hasFinalizer fsc &&
      isConditionTrue fsc .localDiskCreated && !devicesMatch cluster fsc

theorem comesToFailure_of_isModified
    {key : NamespacedName} {cluster : Cluster}
    (modified : isModified key cluster = true) (refuses : Refusals) (pick : Nat) :
    comesToFailure refuses key pick cluster = true := by
  rw [isModified, Option.any_eq_true] at modified
  obtain ⟨fsc, found, modified⟩ := modified
  simp only [Bool.and_eq_true, Bool.not_eq_true'] at modified
  obtain ⟨⟨⟨live, finalized⟩, created⟩, different⟩ := modified
  rw [comesToFailure, found, Option.any_some, live, finalized, provisioningFails,
    localDisksFail, if_pos created, different]
  rfl

/-- The report changes the condition `Ready` only. -/
theorem isModified_report
    {cluster : Cluster} {fsc : FileSystemClaim} {message : String}
    (stored : cluster.claim? fsc.key = some fsc)
    (modified : isModified fsc.key cluster = true) :
    isModified fsc.key (cluster.afterCall (.patchClaimStatus fsc.key fsc.conditions
      (withCondition .ready .isFalse .immutableFieldModified message cluster.clock
        fsc).conditions)) = true := by
  by_cases same : fsc.conditions = (withCondition .ready .isFalse
      .immutableFieldModified message cluster.clock fsc).conditions
  · simpa [Cluster.afterCall, Cluster.answer, Cluster.patchClaimStatus, stored,
      if_pos same] using modified
  · have reported : ({ fsc with
        metadata := cluster.stamp fsc.metadata
        conditions := (withCondition .ready .isFalse .immutableFieldModified message
          cluster.clock fsc).conditions } : FileSystemClaim).conditions = _ := rfl
    have created := isConditionTrue_of_reported reported
      (show ConditionType.localDiskCreated ≠ .ready by decide)
    rw [isModified, stored, Option.any_some] at modified
    rw [isModified, Cluster.claim?_patchClaimStatus_of_different stored same,
      Option.any_some, created, devicesMatch, ownedBy,
      cluster.objects_afterCall (by simp [Call.part?])]
    exact modified

/-- A pass leaves the devices as they are, whatever goes wrong in it. -/
theorem ensures_reconcile_modified
    (r : FileSystemClaimReconciler) {key : NamespacedName} {cluster : Cluster}
    (modified : isModified key cluster = true) :
    Ensures free (reconcile r key) (fun _ final => isModified key final = true)
      cluster := by
  refine ensures_reconcile admitsReads_free (fun _ => modified) (fun fsc found => ?_)
    fun _ _ _ _ => modified
  obtain rfl : fsc.key = key := (Registry.find?_eq_some found).2
  have checked := modified
  rw [isModified, found, Option.any_some] at checked
  simp only [Bool.and_eq_true, Bool.not_eq_true'] at checked
  obtain ⟨⟨⟨live, finalized⟩, created⟩, different⟩ := checked
  rw [reconcileClaim_eq_provision (fun deleting => by simp [live] at deleting)
    (Or.inr finalized), ensures_bind]
  refine ensures_provision_orElse (ensures_ensureLocalDisks_exits admitsReads_free
    (fun _ _ => modified) (fun _ same => ?_) (fun _ _ => ?_)
    (fun notCreated => ?_) (fun notCreated => ?_) fun notCreated => ?_)
  · rw [different] at same
    cases same
  · have reported := @isModified_report cluster fsc
      (immutableMessage fsc (ownedBy cluster fsc .localDisk)) found modified
    rw [ensures_bind]
    exact ensures_patchFSCStatus admitsReads_free found trivial reported
      (fun _ _ _ _ => modified) fun _ _ _ _ => reported
  all_goals
    rw [created] at notCreated
    cases notCreated

/-- So there is no pass after which they are not reported any more. -/
theorem course_modified
    {refuses : Refusals} {r : FileSystemClaimReconciler} {key : NamespacedName}
    {picks ticks : Nat → Nat} {initial : Cluster}
    (modified : isModified key initial = true) (count : Nat) :
    isModified key (course refuses r key picks ticks initial count) = true := by
  induction count with
  | zero => exact modified
  | succ count inductionHypothesis =>
      exact (@passLog_of_ensures _ _
        (coursePass refuses r key picks ticks initial count) _
        (ensures_reconcile_modified r inductionHypothesis) fun _ _ => trivial).2

/-- The claim asks for another disk than its LocalDisk is for. -/
def modifiedClaim : FileSystemClaim :=
  { readyClaim with devices := ["/dev/sdc"] }

end FusionAccess
