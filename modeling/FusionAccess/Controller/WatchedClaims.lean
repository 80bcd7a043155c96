import FusionAccess.Controller.ClaimRequests
import FusionAccess.Controller.UndisturbedMigration

/-!
# Claims that nobody asks about

A pass that ends without a failure is not repeated by itself: it relies on the events of
what it has written. Most of its writes go to the status of the claim, which is watched.
Others are not noticed, but then the claim or one of its children shows that something is
still to come, unless the pass has corrected the spec of the Filesystem.
-/

namespace FusionAccess

open Kubernetes Interaction Fallible

/-! ## Passes that nothing is noticed of -/

/-- The claim of the key speaks up or waits in vain, unless it is being deleted. -/
def Speaks (key : NamespacedName) (cluster : Cluster) : Prop :=
  ∀ fsc, cluster.claim? key = some fsc → isDeleting fsc = false →
    speaksUp cluster fsc = true ∨ waitsInVain cluster fsc = true

/-- A step that ends a pass leaves a claim that speaks. -/
def EndsSpeaking
    (key : NamespacedName) (result : Except Failure Bool) (final : Cluster) : Prop :=
  ∀ wrote, result = .ok wrote → Speaks key final

section Steps

variable {cluster : Cluster} {fsc : FileSystemClaim}
  {post : Except Failure Bool → Cluster → Prop} {next : Cluster → Prop}

theorem endsSpeaking_error (key : NamespacedName) (failure : Failure) (final : Cluster) :
    EndsSpeaking key (.error failure) final := by
  intro wrote impossible
  cases impossible

/-- The same after a step that may let the pass go on. -/
theorem orElse_error (next : Cluster → Prop) (key : NamespacedName)
    (failure : Failure) (final : Cluster) :
    orElse next (EndsSpeaking key) (.error failure) final :=
  endsSpeaking_error key failure final

/-- A claim with a failure speaks up. -/
theorem speaks_of_hasFailed
    (stored : cluster.claim? fsc.key = some fsc) (failed : hasFailed fsc = true) :
    Speaks fsc.key cluster := by
  intro found stored' _
  rw [stored] at stored'
  obtain rfl := Option.some.inj stored'
  exact Or.inl (by simp [speaksUp, failed])

/-- A failure that is reported without notice was reported before. -/
theorem ensures_reportFailed_unnoticed
    {mutate : Nat → FileSystemClaim → FileSystemClaim} {condition : Condition}
    (target : fsc.key.ns = "ibm-spectrum-scale")
    (stored : cluster.claim? fsc.key = some fsc)
    (reported : condition ∈ (mutate cluster.clock fsc).conditions)
    (isFalse : condition.status = .isFalse) (fails : isFailure condition.reason = true) :
    Ensures (unnoticed fsc.key) (do
      patchFSCStatus fsc mutate
      return true) (orElse next (EndsSpeaking fsc.key)) cluster := by
  rw [ensures_bind]
  refine ensures_patchFSCStatus_unnoticed target stored
    (fun failure => orElse_error next _ failure _) fun same => ?_
  rintro _ ⟨⟩
  refine speaks_of_hasFailed stored (List.any_eq_true.mpr ⟨condition, same ▸ reported, ?_⟩)
  simp [isFalse, fails]

/-- In particular one that handles a failed creation. -/
theorem ensures_reportFailure_unnoticed
    (target : fsc.key.ns = "ibm-spectrum-scale")
    (stored : cluster.claim? fsc.key = some fsc)
    (resourceType : ResourceType) (err : Failure) :
    Ensures (unnoticed fsc.key) (reportFailure fsc resourceType err)
      (orElse next (EndsSpeaking fsc.key)) cluster := by
  have found := findStatusCondition_withCondition .ready .isFalse .provisioningFailed
    s!"{resourceType.text} creation failed" cluster.clock
    (withCondition resourceType.conditionType .isFalse resourceType.failedReason err.message
      cluster.clock fsc) .ready
  rw [if_pos rfl] at found
  exact ensures_reportFailed_unnoticed target stored (Registry.find?_eq_some found).1 rfl rfl

/-! ### The steps -/

/-- The validation of devices that are not known to be valid. -/
theorem ensures_recordValidation_unnoticed
    (target : fsc.key.ns = "ibm-spectrum-scale")
    (stored : cluster.claim? fsc.key = some fsc)
    (coherent : Coherent fsc.conditions)
    (invalid : isConditionTrue fsc .deviceValidated = false) :
    Ensures (unnoticed fsc.key) (recordValidation fsc)
      (orElse next (EndsSpeaking fsc.key)) cluster := by
  rw [ensures_bind, ensures_attempt]
  refine (ensures_validateDevices admitsReads_unnoticed fsc).mono ?_
  rintro (failure | _) final ⟨rfl, _⟩
  · have found := findStatusCondition_withCondition .deviceValidated .isFalse
      .deviceValidationFailed failure.message final.clock
      (withCondition .ready .isFalse .validationFailed failure.message final.clock fsc)
      .deviceValidated
    rw [if_pos rfl] at found
    exact ensures_reportFailed_unnoticed target stored (Registry.find?_eq_some found).1
      rfl rfl
  · rw [onSuccess_ok]
    dsimp only
    rw [ensures_bind]
    refine ensures_updateCondition (fun kept => ?_) fun changes => ?_
    · rw [coherent.isConditionTrue_of_kept kept] at invalid
      cases invalid
    · exact ensures_reportCondition_unnoticed target stored changes
        fun failure => orElse_error next _ failure _

/-- Reports of LocalDisks that are created are noticed. -/
theorem ensures_createLocalDisk_unnoticed
    {nodeName devicePath name : String} {devices : List String}
    (target : fsc.key.ns = "ibm-spectrum-scale")
    (stored : cluster.claim? fsc.key = some fsc)
    (notAwaiting : awaitsLocalDisks fsc = false) :
    Ensures (unnoticed fsc.key) (createLocalDisk fsc nodeName devicePath name devices)
      (orElse next (EndsSpeaking fsc.key)) cluster := by
  have elsewhere : ∀ object, (cluster.afterCall (.create .localDisk object)).claim? fsc.key =
      some fsc := fun object =>
    (cluster.claim?_afterCall (by simp [Call.part?]) fsc.key).trans stored
  rw [ensures_bind, ensures_attempt]
  refine ensures_createResourceWithOwnership trivial (fun _ => ?_)
    (fun _ _ failure => ensures_reportFailure_unnoticed target stored _ failure)
    (fun failure _ _ _ => ensures_reportFailure_unnoticed target stored _ failure)
    fun failure _ _ _ => ensures_reportFailure_unnoticed target (elsewhere _) _ failure
  rw [onSuccess_ok]
  dsimp only
  rw [ensures_bind]
  refine ensures_updateCondition (fun kept => ?_) fun changes => ?_
  · have awaiting := hasConditionWithReason_of_keepsCondition kept
    rw [awaitsLocalDisks, awaiting] at notAwaiting
    cases notAwaiting
  · exact ensures_reportCondition_unnoticed target (elsewhere _) changes
      fun failure => orElse_error next _ failure _

theorem ensures_ensureLocalDisks_unnoticed
    (target : fsc.key.ns = "ibm-spectrum-scale")
    (stored : cluster.claim? fsc.key = some fsc)
    (coherent : Coherent fsc.conditions)
    (continues : localDisksGoOn cluster fsc = true ∨ beginsCreation fsc = true →
      next cluster) :
    Ensures (unnoticed fsc.key) (ensureLocalDisks fsc)
      (orElse next (EndsSpeaking fsc.key)) cluster := by
  refine ensures_ensureLocalDisks_exits admitsReads_unnoticed
    (fun _ failure => orElse_error next _ failure _) (fun created same => ?_)
    (fun _ _ => ?_) (fun notCreated awaits => ?_)
    (fun _ _ invalid => ensures_recordValidation_unnoticed target stored coherent invalid)
    fun notCreated notAwaiting validated =>
      ⟨fun _ err => ensures_reportFailure_unnoticed target stored _ err,
        fun nodeName _ _ => ?_⟩
  · exact continues (Or.inl (by rw [localDisksGoOn, if_pos created, same]))
  · have found := findStatusCondition_withCondition .ready .isFalse .immutableFieldModified
      (immutableMessage fsc (ownedBy cluster fsc .localDisk)) cluster.clock fsc .ready
    rw [if_pos rfl] at found
    exact ensures_reportFailed_unnoticed target stored (Registry.find?_eq_some found).1
      rfl rfl
  · refine continues (Or.inl ?_)
    rw [localDisksGoOn, notCreated, if_neg (by simp), awaits]
  · have begins : beginsCreation fsc = true := by
      simp [beginsCreation, notCreated, notAwaiting, validated]
    cases listed : fsc.devices with
    | nil =>
        rw [createLocalDisks, ensures_pure]
        exact continues (Or.inr begins)
    | cons devicePath devices =>
        exact ensures_createLocalDisks_cons admitsReads_unnoticed
          (fun _ failure => orElse_error next _ failure _)
          (fun _ err => ensures_reportFailure_unnoticed target stored _ err)
          (fun _ _ _ => continues (Or.inr begins))
          fun _ _ _ => ensures_createLocalDisk_unnoticed target stored notAwaiting

theorem ensures_syncLocalDiskConditions_unnoticed
    (target : fsc.key.ns = "ibm-spectrum-scale")
    (stored : cluster.claim? fsc.key = some fsc)
    (continues : (∃ users, (users = ownFilesystems cluster fsc ∨ users = []) ∧
      keepsLocalDiskCondition cluster fsc users = true) → next cluster) :
    Ensures (unnoticed fsc.key) (syncLocalDiskConditions fsc)
      (orElse next (EndsSpeaking fsc.key)) cluster := by
  refine ensures_syncLocalDiskConditions_exits admitsReads_unnoticed
    (fun _ failure => orElse_error next _ failure _) fun users known =>
      ⟨fun kept => continues ⟨users, known.imp_right And.right, kept⟩, fun changes => ?_⟩
  rw [keepsLocalDiskCondition, Bool.or_eq_false_iff] at changes
  exact ensures_reportCondition_unnoticed target stored changes.2
    fun failure => orElse_error next _ failure _

/-- A Filesystem that has just been created is not healthy. -/
theorem unhealthyFilesystem_create
    (free : cluster.object? .filesystem ⟨fsc.metadata.ns, fsc.metadata.name⟩ = none)
    (spec : Value) :
    unhealthyFilesystem (cluster.afterCall
      (.create .filesystem (ownedObject fsc fsc.metadata.name spec))) fsc = true := by
  rw [unhealthyFilesystem, ownedBy_create free, List.any_append]
  simp [Cluster.newObject, checkResourceHealthy]

/-- The spec of the Filesystem of a claim differs from the one that a pass wants. -/
def filesystemDrifts (cluster : Cluster) (fsc : FileSystemClaim) : Bool :=
  isConditionTrue fsc .localDiskCreated && !(ownedBy cluster fsc .localDisk).isEmpty &&
    match ownedBy cluster fsc .filesystem with
    | [fs] => fs.spec ≠ some (wantedFilesystemSpec cluster fsc)
    | _ => false

/-- No pass has the spec of the Filesystem to correct. -/
def Steady (key : NamespacedName) (cluster : Cluster) : Prop :=
  ∀ fsc, cluster.claim? key = some fsc → filesystemDrifts cluster fsc = false

theorem ensures_ensureFileSystem_unnoticed
    (target : fsc.key.ns = "ibm-spectrum-scale")
    (stored : cluster.claim? fsc.key = some fsc)
    (steady : filesystemDrifts cluster fsc = false)
    (continues : filesystemGoesOn cluster fsc = true → next cluster) :
    Ensures (unnoticed fsc.key) (ensureFileSystem fsc)
      (orElse next (EndsSpeaking fsc.key)) cluster := by
  refine ensures_ensureFileSystem_exits admitsReads_unnoticed
    (fun _ failure => orElse_error next _ failure _) (fun skipped => continues ?_)
    (fun _ _ _ => ?_) (fun fs created some owned => ⟨fun same => continues ?_, fun drifts => ?_⟩)
    fun _ _ _ err => ensures_reportFailure_unnoticed target stored _ err
  · rcases skipped with notCreated | none
    · simp [filesystemGoesOn, notCreated]
    · simp [filesystemGoesOn, none]
  · have elsewhere : ∀ object,
        (cluster.afterCall (.create .filesystem object)).claim? fsc.key = some fsc :=
      fun object => (cluster.claim?_afterCall (by simp [Call.part?]) fsc.key).trans stored
    rw [ensures_bind, ensures_attempt]
    refine ensures_createResourceWithOwnership trivial (fun free => ?_)
      (fun _ _ failure => ensures_reportFailure_unnoticed target stored _ failure)
      (fun failure _ _ _ => ensures_reportFailure_unnoticed target stored _ failure)
      fun failure _ _ _ => ensures_reportFailure_unnoticed target (elsewhere _) _ failure
    rw [onSuccess_ok]
    dsimp only
    rw [ensures_bind]
    refine ensures_updateCondition (fun _ => ?_) fun changes => ?_
    · rintro _ ⟨⟩ found stored' _
      rw [elsewhere] at stored'
      obtain rfl := Option.some.inj stored'
      exact Or.inl (by simp [speaksUp, unhealthyFilesystem_create free])
    · exact ensures_reportCondition_unnoticed target (elsewhere _) changes
        fun failure => orElse_error next _ failure _
  · simp [filesystemGoesOn, owned, same]
  · simp [filesystemDrifts, created, owned, drifts, some] at steady

theorem ensures_syncFilesystemConditions_unnoticed
    (target : fsc.key.ns = "ibm-spectrum-scale")
    (stored : cluster.claim? fsc.key = some fsc)
    (continues : keepsFilesystemCondition cluster fsc = true → next cluster) :
    Ensures (unnoticed fsc.key) (syncFilesystemConditions fsc)
      (orElse next (EndsSpeaking fsc.key)) cluster := by
  refine ensures_syncFilesystemConditions_exits admitsReads_unnoticed
    (fun _ failure => orElse_error next _ failure _) continues fun changes => ?_
  rw [keepsFilesystemCondition, Bool.or_eq_false_iff] at changes
  exact ensures_reportCondition_unnoticed target stored changes.2
    fun failure => orElse_error next _ failure _

/-- A repair of the StorageClass of a claim is noticed. -/
theorem isRequested_of_repair
    {current : StorageClass}
    (target : fsc.key.ns = "ibm-spectrum-scale")
    (named : fsc.metadata.name ≠ "")
    (stored : cluster.storageClass? fsc.metadata.name = some current)
    (drifts : sameRelevantFields current (wantedStorageClass fsc) = false) :
    isRequested fsc.key cluster (cluster.afterCall
      (.patchStorageClass (withRelevantFields current (wantedStorageClass fsc)))) = true := by
  obtain ⟨member, name⟩ := Registry.find?_eq_some stored
  have found := cluster.storageClass?_patchStorageClass
    (show cluster.storageClass? (withRelevantFields current (wantedStorageClass fsc)).name =
      some current from (congrArg cluster.storageClass? name).trans stored)
  refine isRequested_of_storageClass member found (fun same => ?_)
    (mem_enqueueFSCByStorageClass target named rfl)
  have repaired := sameRelevantFields_created (cluster.stamp
    (withRelevantFields current (wantedStorageClass fsc)).metadata) (wantedStorageClass fsc)
    rfl rfl
  change sameRelevantFields (unversioned current) (wantedStorageClass fsc) = false at drifts
  rw [same] at drifts
  cases repaired.symm.trans drifts

theorem ensures_ensureStorageClass_unnoticed
    (target : fsc.key.ns = "ibm-spectrum-scale")
    (named : fsc.metadata.name ≠ "")
    (stored : cluster.claim? fsc.key = some fsc)
    (coherent : Coherent fsc.conditions)
    (continues : ∀ state, state.claim? fsc.key = some fsc →
      (∀ kind, state.objects kind = cluster.objects kind) →
      (isConditionTrue fsc .fileSystemCreated = true →
        isConditionTrue fsc .storageClassCreated = true) → next state) :
    Ensures (unnoticed fsc.key) (ensureStorageClass fsc)
      (orElse next (EndsSpeaking fsc.key)) cluster := by
  have elsewhere : ∀ object,
      (cluster.afterCall (.createStorageClass object)).claim? fsc.key = some fsc :=
    fun object => (cluster.claim?_afterCall (by simp [Call.part?]) fsc.key).trans stored
  refine ensures_ensureStorageClass_exits admitsReads_unnoticed
    (fun _ failure => orElse_error next _ failure _) (fun notCreated => ?_) (fun _ _ => ?_)
    (fun current _ _ _ => ⟨fun kept => ?_, fun changes => ?_⟩) fun current _ found drifts => ?_
  · refine continues cluster stored (fun _ => rfl) fun created => ?_
    rw [notCreated] at created
    cases created
  · rw [ensures_bind, ensures_attempt]
    refine ensures_request trivial (fun pick => ?_)
      (fun failure _ _ => ensures_reportFailure_unnoticed target stored _ failure)
      fun failure _ _ => ensures_reportFailure_unnoticed target (elsewhere _) _ failure
    cases (cluster.answer pick (.createStorageClass (wantedStorageClass fsc))).2 with
    | error failure => exact ensures_reportFailure_unnoticed target (elsewhere _) _ failure
    | ok _ =>
        rw [onSuccess_ok]
        dsimp only
        refine ensures_updateCondition (fun kept => ?_) fun changes => ?_
        · exact continues _ (elsewhere _)
            (fun kind => cluster.objects_afterCall (by simp [Call.part?]))
            fun _ => coherent.isConditionTrue_of_kept kept
        · exact ensures_reportCondition_unnoticed target (elsewhere _) changes
            fun failure => orElse_error next _ failure _
  · exact continues cluster stored (fun _ => rfl)
      fun _ => coherent.isConditionTrue_of_kept kept
  · exact ensures_reportCondition_unnoticed target stored changes
      fun failure => orElse_error next _ failure _
  · simp only [ensures_bind, ensures_mapError]
    exact ensures_noticed (isRequested_of_repair target named found drifts)
      fun failure => orElse_error next _ _ _

/-! ### The pass -/

/-- What ends a later step as well is looked at once. -/
theorem orElse_orElse
    (next first : Cluster → Prop) (post : Except Failure Bool → Cluster → Prop) :
    orElse next (orElse first post) = orElse next post := by
  funext result final
  cases result with
  | error failure => rfl
  | ok wrote => cases wrote <;> rfl

/-- Whether a claim speaks depends on the claim and on its children. -/
theorem speaks_of_sameObjects
    {state : Cluster}
    (kept : state.claim? fsc.key = some fsc)
    (objects : ∀ kind, state.objects kind = cluster.objects kind)
    (speaks : speaksUp cluster fsc = true ∨ waitsInVain cluster fsc = true) :
    Speaks fsc.key state := by
  intro found stored' _
  rw [kept] at stored'
  obtain rfl := Option.some.inj stored'
  have owned : ∀ kind, ownedBy state fsc kind = ownedBy cluster fsc kind := fun kind => by
    rw [ownedBy, objects, ownedBy]
  simpa only [speaksUp, waitsInVain, unhealthyLocalDisk, unhealthyFilesystem, ownFilesystems,
    owned] using speaks

/-- A pass of which nothing is noticed leaves a claim that speaks. -/
theorem ensures_provision_unnoticed
    {r : FileSystemClaimReconciler}
    (target : fsc.key.ns = "ibm-spectrum-scale")
    (named : fsc.metadata.name ≠ "")
    (stored : cluster.claim? fsc.key = some fsc)
    (coherent : Coherent fsc.conditions)
    (steady : filesystemDrifts cluster fsc = false) :
    Ensures (unnoticed fsc.key) (do
      let provisioned ← provision fsc
      if provisioned then return (⟨r.requeueDelay⟩ : Result)
      else do
        let ready ← syncFSCReady fsc
        if ready then return ⟨r.requeueDelay⟩
        else return {})
      (fun result final => ∀ value, result = .ok value → Speaks fsc.key final) cluster := by
  rw [ensures_bind]
  have provisions : Ensures (unnoticed fsc.key) (provision fsc)
      (orElse (Ensures (unnoticed fsc.key) (syncFSCReady fsc) (EndsSpeaking fsc.key))
        (EndsSpeaking fsc.key)) cluster := by
    refine ensures_provision_orElse ?_
    simp only [orElse_orElse]
    refine ensures_ensureLocalDisks_unnoticed target stored coherent fun localDisks => ?_
    refine ensures_syncLocalDiskConditions_unnoticed target stored fun localDiskCondition => ?_
    refine ensures_ensureFileSystem_unnoticed target stored steady fun filesystem => ?_
    refine ensures_syncFilesystemConditions_unnoticed target stored
      fun filesystemCondition => ?_
    refine ensures_ensureStorageClass_unnoticed target named stored coherent
      fun state kept objects storageClass => ?_
    refine ensures_syncFSCReady_exits (fun ready => ?_) fun changes => ?_
    · have satisfied : Satisfied cluster fsc :=
        ⟨localDisks, localDiskCondition, filesystem, filesystemCondition, storageClass, ready⟩
      rintro _ ⟨⟩
      refine speaks_of_sameObjects kept objects ?_
      cases waits : waitsInVain cluster fsc with
      | true => exact Or.inr rfl
      | false => exact Or.inl ((speaksUp_iff_of_satisfied satisfied coherent).mpr waits)
    · rw [keepsReady_eq] at changes
      exact ensures_reportCondition_unnoticed target kept changes
        fun failure => endsSpeaking_error _ failure _
  refine provisions.mono ?_
  rintro (failure | _ | _) final ends
  · rintro value ⟨⟩
  · rw [onSuccess_ok, if_neg (by simp), ensures_bind]
    refine Ensures.mono ends ?_
    rintro (failure | _ | _) last speaks
    · rintro value ⟨⟩
    · exact fun _ _ => speaks _ rfl
    · exact fun _ _ => speaks _ rfl
  · exact fun _ _ => ends _ rfl

/-- The finalizer that a pass adds is new. -/
theorem finalizers_addFinalizer_ne (unfinalized : hasFinalizer fsc = false) :
    fsc.metadata.finalizers ≠ (addFinalizer fsc).metadata.finalizers := by
  rw [addFinalizer, unfinalized, if_neg (by simp)]
  intro same
  have longer := congrArg List.length same
  simp at longer

/-- A pass that succeeds and of which nothing is noticed leaves a claim that speaks. -/
theorem ensures_reconcile_unnoticed
    {key : NamespacedName}
    (r : FileSystemClaimReconciler)
    (target : key.ns = "ibm-spectrum-scale")
    (named : key.name ≠ "")
    (coherent : AllCoherent cluster)
    (steady : Steady key cluster) :
    Ensures (unnoticed key) (reconcile r key)
      (fun result final => ∀ value, result = .ok value → Speaks key final) cluster := by
  refine ensures_reconcile admitsReads_unnoticed (fun absent => ?_) (fun fsc stored => ?_)
    fun failure _ _ _ => ?_
  · intro value _ fsc stored
    rw [absent] at stored
    cases stored
  · obtain rfl : fsc.key = key := (Registry.find?_eq_some stored).2
    cases live : isDeleting fsc with
    | true =>
        -- the claim stays as it is, and says nothing
        refine (ensures_claim?_unnoticed target _ cluster).mono
          fun result final same value _ found stored' standing => ?_
        rw [same, stored] at stored'
        obtain rfl := Option.some.inj stored'
        rw [live] at standing
        cases standing
    | false =>
        cases finalized : hasFinalizer fsc with
        | true =>
            rw [reconcileClaim_eq_provision (by simp [live]) (Or.inr finalized)]
            exact ensures_provision_unnoticed target named stored
              (coherent _ fsc stored) (steady fsc stored)
        | false =>
            unfold reconcileClaim handleFinalizers
            rw [if_neg (by simp [live]), if_pos (by simp [finalized]), bind_assoc, ensures_bind]
            refine ensures_patchFSCSpec_unnoticed target stored
              (finalizers_addFinalizer_ne finalized) ?_
            rintro failure value ⟨⟩
  · rintro value ⟨⟩

end Steps

/-! ## Changes by others -/

/-- What others may do that no watch tells of: they keep the conditions of claims coherent,
and the children of the claim as they are, apart from specs; what is created as a child of
the claim has no status yet. -/
structure Spares (key : NamespacedName) (before after : Cluster) : Prop where
  coherent : AllCoherent before → AllCoherent after
  children : ∀ fsc, before.claim? key = some fsc → ∀ kind,
    ∀ object ∈ ownedBy before fsc kind,
      ∃ later ∈ ownedBy after fsc kind, after.object? kind object.key = some later ∧
        key ∈ enqueueFSCByOwner later.metadata ∧
          ((status? object).isSome = true → (status? later).isSome = true)
  newcomers : ∀ fsc, before.claim? key = some fsc → ∀ kind,
    ∀ object ∈ ownedBy after fsc kind,
      (∃ earlier ∈ ownedBy before fsc kind, earlier.key = object.key) ∨
        status? object = none

section Changes

variable {key : NamespacedName} {before after : Cluster} {fsc : FileSystemClaim}

/-- A child keeps its status as long as nothing is noticed. -/
theorem Spares.child
    {kind : Kind} {object : Unstructured}
    (spares : Spares key before after)
    (target : key.ns = "ibm-spectrum-scale")
    (silent : isRequested key before after = false)
    (stored : before.claim? key = some fsc)
    (member : object ∈ ownedBy before fsc kind) :
    ∃ later ∈ ownedBy after fsc kind, later.key = object.key ∧
      status? later = status? object := by
  obtain ⟨later, listed, found, owner, kept⟩ :=
    spares.children fsc stored kind object member
  refine ⟨later, listed, (Registry.find?_eq_some found).2, ?_⟩
  by_contra different
  have place : isInTargetNamespace later.metadata = true := by
    have same : later.metadata.ns = fsc.metadata.ns := by
      have filtered := List.mem_filter.mp (List.mem_filter.mp listed).1
      simpa using filtered.2
    have named : fsc.key = key := (Registry.find?_eq_some stored).2
    refine decide_eq_true ?_
    rw [same, ← target, ← named]
    rfl
  have owned : isOwnedByFileSystemClaim later.metadata = true := by
    unfold enqueueFSCByOwner at owner
    split at owner
    next o first => exact List.any_eq_true.mpr ⟨o, List.mem_of_find?_eq_some first,
      List.find?_some first⟩
    next => cases owner
  have present : (status? later).isSome = true := by
    cases known : status? object with
    | some status => exact kept (by rw [known]; rfl)
    | none =>
        rw [known] at different
        exact Option.isSome_iff_ne_none.mpr different
  have changed : didResourceStatusChange object later = true := by
    simp [didResourceStatusChange, place, owned, present, Ne.symm different]
  rw [isRequested_of_status (List.mem_filter.mp (List.mem_filter.mp member).1).1 found
    changed owner] at silent
  cases silent

/-- The health of a resource depends on its status. -/
theorem checkResourceHealthy_of_status
    {later object : Unstructured} (same : status? later = status? object)
    (required : List ConditionType) (users : List String) :
    checkResourceHealthy later required users = checkResourceHealthy object required users := by
  have fields : later.conditions = object.conditions ∧
      later.filesystem = object.filesystem := by
    unfold status? at same
    split at same
    next missing =>
      split at same
      next missing' => exact ⟨missing.1.trans missing'.1.symm, missing.2.trans missing'.2.symm⟩
      next => cases same
    next =>
      split at same
      next => cases same
      next => exact Prod.mk.inj (Option.some.inj same)
  unfold checkResourceHealthy
  rw [fields.1]
  have checked : ∀ conditions, checkRequiredCondition later conditions users =
      checkRequiredCondition object conditions users := by
    intro conditions
    funext conditionType
    cases conditionType <;> simp only [checkRequiredCondition, fields.2]
  cases object.conditions with
  | none => rfl
  | some conditions => simp only [checked]

/-- A resource without a status is not healthy. -/
theorem checkResourceHealthy_of_status_none
    {object : Unstructured} (missing : status? object = none)
    (required : List ConditionType) (users : List String) :
    (checkResourceHealthy object required users).isSome = true := by
  have conditions : object.conditions = none := by
    unfold status? at missing
    split at missing
    next fields => exact fields.1
    next => cases missing
  rw [checkResourceHealthy, conditions]
  rfl

/-- A claim speaks until something is noticed. -/
theorem Spares.speaks
    (spares : Spares key before after)
    (target : key.ns = "ibm-spectrum-scale")
    (silent : isRequested key before after = false)
    (speaks : Speaks key before) :
    Speaks key after := by
  intro fsc stored' live
  have stored : before.claim? key = some fsc :=
    (claim?_of_not_requested target silent).symm.trans stored'
  have filesystems : unhealthyFilesystem before fsc = true →
      unhealthyFilesystem after fsc = true := by
    intro unhealthy
    obtain ⟨fs, member, fails⟩ := List.any_eq_true.mp unhealthy
    obtain ⟨later, listed, _, same⟩ := spares.child target silent stored member
    refine List.any_eq_true.mpr ⟨later, listed, ?_⟩
    rwa [checkResourceHealthy_of_status same]
  -- a Filesystem that is new is not healthy yet
  by_cases added : ∃ fs ∈ ownedBy after fsc .filesystem, status? fs = none
  · obtain ⟨fs, listed, missing⟩ := added
    have unhealthy : unhealthyFilesystem after fsc = true :=
      List.any_eq_true.mpr ⟨fs, listed, checkResourceHealthy_of_status_none missing _ _⟩
    exact Or.inl (by simp [speaksUp, unhealthy])
  by_cases created : ∃ ld ∈ ownedBy after fsc .localDisk, status? ld = none
  · obtain ⟨ld, listed, missing⟩ := created
    have unhealthy : unhealthyLocalDisk after fsc = true :=
      List.any_eq_true.mpr ⟨ld, listed, checkResourceHealthy_of_status_none missing _ _⟩
    exact Or.inl (by simp [speaksUp, unhealthy])
  have users : ownFilesystems after fsc ⊆ ownFilesystems before fsc := by
    intro name named
    obtain ⟨fs, listed, rfl⟩ := List.mem_map.mp named
    rcases spares.newcomers fsc stored _ fs listed with ⟨earlier, member, same⟩ | missing
    · exact List.mem_map.mpr ⟨earlier, member, congrArg NamespacedName.name same⟩
    · exact absurd ⟨fs, listed, missing⟩ added
  have localDisks : unhealthyLocalDisk before fsc = true →
      unhealthyLocalDisk after fsc = true := by
    intro unhealthy
    obtain ⟨ld, member, fails⟩ := List.any_eq_true.mp unhealthy
    obtain ⟨later, listed, _, same⟩ := spares.child target silent stored member
    refine List.any_eq_true.mpr ⟨later, listed, ?_⟩
    rw [checkResourceHealthy_of_status same, Option.isSome_iff_ne_none]
    intro healthy
    rw [checkResourceHealthy_mono (List.cons_subset_cons _ users) healthy] at fails
    cases fails
  rcases speaks fsc stored live with speaks | waits
  · simp only [speaksUp, Bool.or_eq_true] at speaks ⊢
    rcases speaks with (shown | unhealthy) | unhealthy
    · exact Or.inl (Or.inl (Or.inl shown))
    · exact Or.inl (Or.inl (Or.inr (localDisks unhealthy)))
    · exact Or.inl (Or.inr (filesystems unhealthy))
  · have none : ownedBy after fsc .localDisk = [] := by
      refine List.eq_nil_iff_forall_not_mem.mpr fun ld listed => ?_
      rcases spares.newcomers fsc stored _ ld listed with ⟨earlier, member, _⟩ | missing
      · simp only [waitsInVain, Bool.and_eq_true, List.isEmpty_iff] at waits
        rw [waits.1.1.2] at member
        cases member
      · exact created ⟨ld, listed, missing⟩
    cases unhealthy : unhealthyFilesystem after fsc with
    | true => exact Or.inl (by simp [speaksUp, unhealthy])
    | false =>
        simp only [waitsInVain, Bool.and_eq_true] at waits
        exact Or.inr (by simp [waitsInVain, waits, none, unhealthy])

end Changes

/-! ## Claims at rest -/

section Watched

variable {r : FileSystemClaimReconciler} {key : NamespacedName} {initial cluster : Cluster}

/-- Whenever no pass waits the claim speaks. -/
theorem speaks_of_reached
    (target : key.ns = "ibm-spectrum-scale")
    (named : key.name ≠ "")
    (coherent : AllCoherent initial)
    (reached : (claimWatch r key (Spares key) (Steady key)).Reached initial cluster false) :
    Speaks key cluster := by
  have kept := reached.within coherent
    (fun _ _ _ changed coherent => changed.1.coherent coherent) ?_
  · refine kept.2.settled ?_ ?_
    · rintro before after ⟨_, spares, silent⟩ speaks
      exact spares.speaks target silent.symm speaks
    · rintro before after ⟨coherent, steady, choices, rfl, once⟩
      exact succeeded_of_not_isRepeated once.symm
        (ensures_reconcile_unnoticed r target named coherent steady) {} rfl
  · rintro before again after ⟨_, choices, rfl, _⟩ coherent
    exact (@passLog_of_ensures _ _ ⟨key, choices, before⟩ _
      (ensures_reconcile_coherent r key coherent) fun _ _ => trivial).2

end Watched

/-- A claim whose Filesystem has just become healthy. -/
def waitingClaim : FileSystemClaim :=
  { readyClaim with
    conditions := [
      { type := .deviceValidated, status := .isTrue
        reason := .deviceValidationSucceeded
        message := "Device/s validation succeeded" },
      { type := .localDiskCreated, status := .isTrue
        reason := .localDiskCreationSucceeded
        message :=
          "All 1 LocalDisks are Ready; if used, they are used by this Filesystem." },
      { type := .fileSystemCreated, status := .isFalse
        reason := .fileSystemCreationInProgress
        message := "Filesystem created; waiting to become Ready" }] }

/-- Somebody has edited the spec of the Filesystem. -/
def driftedCluster : Cluster :=
  { readyCluster with
    claims := [waitingClaim]
    filesystems := [{ readyFilesystem with spec := some (buildFilesystemSpec ["uuid.2"]) }]
    storageClasses := [] }

/-- The pass corrects the spec and is not repeated, and the claim does not learn that its
Filesystem is healthy. -/
theorem drift_goes_unnoticed :
    isRepeated {} ⟨readyKey, calm, driftedCluster⟩ = false ∧
      ¬Speaks readyKey
        (@Pass.outcome _ apiServer _ _ (reconciler {}) ⟨readyKey, calm, driftedCluster⟩).state := by
  refine ⟨by decide +kernel, fun speaks => ?_⟩
  have silent := speaks waitingClaim (by decide +kernel) rfl
  revert silent
  decide +kernel

end FusionAccess
