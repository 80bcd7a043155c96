import FusionAccess.Controller.ConditionHistory

/-!
# Passes that find nothing to do

A pass that only reads has found every step satisfied with what the claim
remembers. For the claim this means that it is ready, or that something is
wrong that its conditions or its children show, with one exception: it waits
for LocalDisks that nobody is going to create.
-/

namespace FusionAccess

open Kubernetes Interaction Fallible

/-! ## What a pass that only reads has found -/

/-- The contract under which only reads are answered. -/
abbrev readsOnly : Contract apiServer where
  rely := fun _ call _ => call.isRead = true
  guard := fun _ _ => True

theorem admitsReads_readsOnly : AdmitsReads readsOnly := fun _ _ _ => trivial

/-- The creation of LocalDisks on a node ends at once: there is no device, or
the first device has its LocalDisk. -/
def creationEnds (cluster : Cluster) (fsc : FileSystemClaim) (nodeName : String) : Bool :=
  match fsc.devices with
  | [] => true
  | devicePath :: _ =>
      match localDiskName? cluster devicePath nodeName with
      | some name => (cluster.object? .localDisk ⟨fsc.metadata.ns, name⟩).isSome
      | none => false

/-- The claim is about to have its LocalDisks created. -/
def beginsCreation (fsc : FileSystemClaim) : Bool :=
  !isConditionTrue fsc .localDiskCreated && !awaitsLocalDisks fsc &&
    isConditionTrue fsc .deviceValidated

/-- `ensureStorageClass` lets a pass go on: it is not its turn yet, or the
StorageClass is as it should be and remembered as present. -/
def storageClassGoesOn (cluster : Cluster) (fsc : FileSystemClaim) : Bool :=
  !isConditionTrue fsc .fileSystemCreated ||
    (cluster.storageClass? fsc.metadata.name).any fun current =>
      sameRelevantFields current (wantedStorageClass fsc) &&
        keepsStorageClassCondition fsc "StorageClass present"

/-- Every step of a pass is satisfied with what the claim remembers. -/
structure AtRest (cluster : Cluster) (fsc : FileSystemClaim) : Prop where
  localDisks : localDisksGoOn cluster fsc = true ∨
    beginsCreation fsc = true ∧
      ∃ nodeName ∈ storageNodes cluster, creationEnds cluster fsc nodeName = true
  localDiskCondition : ∃ users, (users = ownFilesystems cluster fsc ∨ users = []) ∧
    keepsLocalDiskCondition cluster fsc users = true
  filesystem : filesystemGoesOn cluster fsc = true
  filesystemCondition : keepsFilesystemCondition cluster fsc = true
  storageClass : storageClassGoesOn cluster fsc = true
  ready : keepsReady fsc = true

/-- When the step succeeds it has changed nothing and found the fact. -/
def Finds
    (cluster : Cluster) (fact : Prop)
    (result : Except Failure Bool) (final : Cluster) : Prop :=
  ∀ wrote, result = .ok wrote → wrote = false ∧ final = cluster ∧ fact

theorem finds_error
    (cluster : Cluster) (fact : Prop) (failure : Failure) (final : Cluster) :
    Finds cluster fact (.error failure) final := by
  intro wrote impossible
  cases impossible

section Steps

variable {cluster : Cluster} {fsc : FileSystemClaim} {fact : Prop}
  {post : Except Failure Bool → Cluster → Prop}

/-- A call that writes is not answered. -/
theorem ensures_unanswered
    {call : Call} {post : Except Failure call.Yield → Cluster → Prop}
    (writes : call.isRead = false) (state : Cluster) :
    Ensures readsOnly (request call) post state :=
  ⟨trivial, fun _ answered => absurd (writes.symm.trans answered) (by simp)⟩

/-- A status write gets no further than its read. -/
theorem ensures_patchFSCStatus_unanswered
    {mutate : Nat → FileSystemClaim → FileSystemClaim}
    {post : Except Failure Unit → Cluster → Prop}
    (failed : ∀ failure final, post (.error failure) final)
    (state : Cluster) :
    Ensures readsOnly (patchFSCStatus fsc mutate) post state := by
  refine ensures_retryOnConflict 4 ?_
  rw [ensures_bind]
  refine ensures_read admitsReads_readsOnly rfl (fun pick => ?_)
    fun failure _ _ => ⟨failed failure state, fun _ _ _ => rfl⟩
  cases stored : state.claim? fsc.key with
  | none =>
      simp only [Cluster.answer, stored, onSuccess_error]
      exact ⟨failed _ _, fun _ _ _ => trivial⟩
  | some cur =>
      simp only [Cluster.answer, stored, onSuccess_ok, ensures_bind]
      refine ensures_local trivial rfl rfl fun pick => ?_
      simp only [Cluster.answer, onSuccess_ok]
      exact ensures_unanswered (by rfl) state

/-- Neither does the patch that adds the finalizer. -/
theorem ensures_patchFSCSpec_unanswered
    {mutate : FileSystemClaim → FileSystemClaim}
    {post : Except Failure Unit → Cluster → Prop}
    (failed : ∀ failure final, post (.error failure) final)
    (state : Cluster) :
    Ensures readsOnly (patchFSCSpec fsc mutate) post state := by
  refine ensures_retryOnConflict 4 ?_
  rw [ensures_bind]
  refine ensures_read admitsReads_readsOnly rfl (fun pick => ?_)
    fun failure _ _ => ⟨failed failure state, fun _ _ _ => rfl⟩
  cases stored : state.claim? fsc.key with
  | none =>
      simp only [Cluster.answer, stored, onSuccess_error]
      exact ⟨failed _ _, fun _ _ _ => trivial⟩
  | some cur =>
      simp only [Cluster.answer, stored, onSuccess_ok]
      exact ensures_unanswered (by rfl) state

/-- A report ends no pass that only reads. -/
theorem ensures_reportCondition_unanswered
    (failed : ∀ failure final, post (.error failure) final)
    (conditionType : ConditionType) (status : ConditionStatus) (reason : Reason)
    (message : String) (state : Cluster) :
    Ensures readsOnly (reportCondition fsc conditionType status reason message)
      post state := by
  rw [ensures_bind]
  exact ensures_patchFSCStatus_unanswered (fun failure final => failed failure final) state

theorem ensures_reportFailure_unanswered
    (failed : ∀ failure final, post (.error failure) final)
    (resourceType : ResourceType) (err : Failure) (state : Cluster) :
    Ensures readsOnly (reportFailure fsc resourceType err) post state := by
  rw [ensures_bind]
  exact ensures_patchFSCStatus_unanswered (fun failure final => failed failure final) state

/-- Neither does the validation of devices that are not known to be valid. -/
theorem ensures_recordValidation_unanswered
    (failed : ∀ failure final, post (.error failure) final)
    (changes : keepsCondition fsc .deviceValidated .isTrue .deviceValidationSucceeded
      "Device/s validation succeeded" = false)
    (state : Cluster) :
    Ensures readsOnly (recordValidation fsc) post state := by
  refine ensures_bind_of_free (fun _ _ => trivial) _ _ _ _ failed ?_
  rintro (failure | _) final
  · dsimp only
    rw [ensures_bind]
    exact ensures_patchFSCStatus_unanswered (fun failure final => failed failure final) final
  · dsimp only
    rw [ensures_bind]
    refine ensures_updateCondition (fun kept => ?_) fun _ => ?_
    · rw [changes] at kept
      cases kept
    · exact ensures_reportCondition_unanswered
        (fun failure final => by exact failed failure final) _ _ _ _ final

/-- A pass that only reads creates no LocalDisks. -/
theorem ensures_createLocalDisks_unanswered
    {nodeName : String}
    (failed : ∀ failure final, post (.error failure) final)
    (ends : creationEnds cluster fsc nodeName = true → post (.ok false) cluster) :
    Ensures readsOnly (createLocalDisks fsc nodeName fsc.devices false) post
      cluster := by
  cases listed : fsc.devices with
  | nil =>
      rw [createLocalDisks, ensures_pure]
      exact ends (by rw [creationEnds, listed])
  | cons devicePath devices =>
      refine ensures_createLocalDisks_cons admitsReads_readsOnly
        (fun _ failure => failed failure _)
        (fun _ err => ensures_reportFailure_unanswered failed _ err _)
        (fun name named taken => ends ?_) fun name _ _ => ?_
      · simp [creationEnds, listed, named, taken]
      · rw [ensures_bind, ensures_attempt, createResourceWithOwnership_eq]
        exact ensures_unanswered rfl cluster

/-! ## The steps -/

theorem finds_ensureLocalDisks
    (changes : isConditionTrue fsc .deviceValidated = false →
      keepsCondition fsc .deviceValidated .isTrue .deviceValidationSucceeded
        "Device/s validation succeeded" = false) :
    Ensures readsOnly (ensureLocalDisks fsc)
      (Finds cluster (localDisksGoOn cluster fsc = true ∨
        beginsCreation fsc = true ∧
          ∃ nodeName ∈ storageNodes cluster, creationEnds cluster fsc nodeName = true))
      cluster := by
  have failed := finds_error cluster (localDisksGoOn cluster fsc = true ∨
    beginsCreation fsc = true ∧
      ∃ nodeName ∈ storageNodes cluster, creationEnds cluster fsc nodeName = true)
  refine ensures_ensureLocalDisks_exits admitsReads_readsOnly
    (fun _ failure => failed failure _) (fun created same => ?_)
    (fun _ _ => ensures_reportCondition_unanswered failed _ _ _ _ _)
    (fun notCreated awaits => ?_)
    (fun _ _ invalid => ensures_recordValidation_unanswered failed (changes invalid) _)
    fun notCreated notAwaiting validated =>
      ⟨fun _ err => ensures_reportFailure_unanswered failed _ err _,
        fun nodeName member _ => ensures_createLocalDisks_unanswered failed fun ends => ?_⟩
  · rintro _ ⟨⟩
    exact ⟨rfl, rfl, Or.inl (by rw [localDisksGoOn, if_pos created, same])⟩
  · rintro _ ⟨⟩
    refine ⟨rfl, rfl, Or.inl ?_⟩
    rw [localDisksGoOn, notCreated, if_neg (by simp), awaits]
  · rintro _ ⟨⟩
    refine ⟨rfl, rfl, Or.inr ⟨?_, nodeName, member, ends⟩⟩
    simp [beginsCreation, notCreated, notAwaiting, validated]

theorem finds_syncLocalDiskConditions :
    Ensures readsOnly (syncLocalDiskConditions fsc)
      (Finds cluster (∃ users, (users = ownFilesystems cluster fsc ∨ users = []) ∧
        keepsLocalDiskCondition cluster fsc users = true)) cluster := by
  have failed := finds_error cluster
    (∃ users, (users = ownFilesystems cluster fsc ∨ users = []) ∧
      keepsLocalDiskCondition cluster fsc users = true)
  refine ensures_syncLocalDiskConditions_exits admitsReads_readsOnly
    (fun _ failure => failed failure _) fun users known =>
      ⟨fun kept => ?_, fun _ => ensures_reportCondition_unanswered failed _ _ _ _ _⟩
  rintro _ ⟨⟩
  exact ⟨rfl, rfl, users, known.imp_right And.right, kept⟩

theorem finds_ensureFileSystem :
    Ensures readsOnly (ensureFileSystem fsc)
      (Finds cluster (filesystemGoesOn cluster fsc = true)) cluster := by
  have failed := finds_error cluster (filesystemGoesOn cluster fsc = true)
  refine ensures_ensureFileSystem_exits admitsReads_readsOnly
    (fun _ failure => failed failure _) (fun skipped => ?_) (fun _ _ _ => ?_)
    (fun fs _ _ owned => ⟨fun same => ?_, fun _ => ?_⟩)
    fun _ _ _ err => ensures_reportFailure_unanswered failed _ err _
  · rintro _ ⟨⟩
    refine ⟨rfl, rfl, ?_⟩
    rcases skipped with notCreated | none
    · simp [filesystemGoesOn, notCreated]
    · simp [filesystemGoesOn, none]
  · rw [ensures_bind, ensures_attempt, createResourceWithOwnership_eq]
    exact ensures_unanswered (by rfl) cluster
  · rintro _ ⟨⟩
    exact ⟨rfl, rfl, by simp [filesystemGoesOn, owned, same]⟩
  · rw [ensures_bind, ensures_mapError]
    exact ensures_unanswered (by rfl) cluster

theorem finds_syncFilesystemConditions :
    Ensures readsOnly (syncFilesystemConditions fsc)
      (Finds cluster (keepsFilesystemCondition cluster fsc = true)) cluster := by
  have failed := finds_error cluster (keepsFilesystemCondition cluster fsc = true)
  refine ensures_syncFilesystemConditions_exits admitsReads_readsOnly
    (fun _ failure => failed failure _) (fun kept => ?_)
    fun _ => ensures_reportCondition_unanswered failed _ _ _ _ _
  rintro _ ⟨⟩
  exact ⟨rfl, rfl, kept⟩

theorem finds_ensureStorageClass :
    Ensures readsOnly (ensureStorageClass fsc)
      (Finds cluster (storageClassGoesOn cluster fsc = true)) cluster := by
  have failed := finds_error cluster (storageClassGoesOn cluster fsc = true)
  refine ensures_ensureStorageClass_exits admitsReads_readsOnly
    (fun _ failure => failed failure _) (fun notCreated => ?_) (fun _ _ => ?_)
    (fun current _ stored same => ⟨fun kept => ?_, fun _ => ?_⟩) fun current _ _ _ => ?_
  · rintro _ ⟨⟩
    exact ⟨rfl, rfl, by simp [storageClassGoesOn, notCreated]⟩
  · rw [ensures_bind, ensures_attempt]
    exact ensures_unanswered (by rfl) cluster
  · rintro _ ⟨⟩
    exact ⟨rfl, rfl, by simp [storageClassGoesOn, stored, same, kept]⟩
  · exact ensures_reportCondition_unanswered failed _ _ _ _ _
  · simp only [ensures_bind, ensures_mapError]
    exact ensures_unanswered (by rfl) cluster

theorem finds_syncFSCReady :
    Ensures readsOnly (syncFSCReady fsc)
      (Finds cluster (keepsReady fsc = true)) cluster := by
  have failed := finds_error cluster (keepsReady fsc = true)
  refine ensures_syncFSCReady_exits (fun kept => ?_)
    fun _ => ensures_reportCondition_unanswered failed _ _ _ _ _
  rintro _ ⟨⟩
  exact ⟨rfl, rfl, kept⟩

/-- Steps that follow each other find their facts together. -/
theorem finds_orElse
    {fact later : Prop} {step next : Act Bool}
    (first : Ensures readsOnly step (Finds cluster fact) cluster)
    (second : Ensures readsOnly next (Finds cluster later) cluster) :
    Ensures readsOnly (do
      let wrote ← step
      if wrote then return true else next) (Finds cluster (fact ∧ later)) cluster := by
  rw [ensures_bind]
  refine first.mono ?_
  rintro (failure | wrote) final found
  · exact finds_error _ _ failure final
  · obtain ⟨rfl, rfl, holds⟩ := found wrote rfl
    rw [onSuccess_ok, if_neg (by simp)]
    refine second.mono fun result final found' wrote equal => ?_
    obtain ⟨unwritten, same, holds'⟩ := found' wrote equal
    exact ⟨unwritten, same, holds, holds'⟩

/-- A pass that only reads and succeeds has found every step satisfied. -/
theorem ensures_reconcileClaim_atRest
    {r : FileSystemClaimReconciler}
    (live : isDeleting fsc = false)
    (changes : isConditionTrue fsc .deviceValidated = false →
      keepsCondition fsc .deviceValidated .isTrue .deviceValidationSucceeded
        "Device/s validation succeeded" = false) :
    Ensures readsOnly (reconcileClaim r fsc)
      (fun result _ => ∀ value, result = .ok value → AtRest cluster fsc) cluster := by
  by_cases finalized : hasFinalizer fsc = true
  · rw [reconcileClaim_eq_provision (by simp [live]) (Or.inr finalized), ensures_bind]
    have provisions := finds_orElse (finds_ensureLocalDisks changes)
      (finds_orElse (@finds_syncLocalDiskConditions cluster fsc)
        (finds_orElse (@finds_ensureFileSystem cluster fsc)
          (finds_orElse (@finds_syncFilesystemConditions cluster fsc)
            (@finds_ensureStorageClass cluster fsc))))
    unfold provision
    refine provisions.mono ?_
    rintro (failure | wrote) final found
    · rintro value ⟨⟩
    obtain ⟨rfl, rfl, localDisks, localDiskCondition, filesystem, filesystemCondition,
      storageClass⟩ := found wrote rfl
    rw [onSuccess_ok, if_neg (by simp), ensures_bind]
    refine finds_syncFSCReady.mono ?_
    rintro (failure | wrote) final found'
    · rintro value ⟨⟩
    · obtain ⟨rfl, -, ready⟩ := found' wrote rfl
      rintro value -
      exact ⟨localDisks, localDiskCondition, filesystem, filesystemCondition,
        storageClass, ready⟩
  · unfold reconcileClaim handleFinalizers
    rw [if_neg (by simp [live]), if_pos (by simp [finalized]), bind_assoc, ensures_bind]
    refine ensures_patchFSCSpec_unanswered (fun failure final => ?_) cluster
    rintro value ⟨⟩

end Steps

/-! ## What the claim shows -/

/-- The reason says that something has gone wrong. -/
def isFailure : Reason → Bool
  | .validationFailed | .deviceValidationFailed | .provisioningFailed
  | .immutableFieldModified | .localDiskCreationFailed | .fileSystemCreationFailed
  | .storageClassCreationFailed => true
  | _ => false

/-- A condition of the claim is false because something has gone wrong. -/
def hasFailed (fsc : FileSystemClaim) : Bool :=
  fsc.conditions.any fun condition =>
    condition.status = .isFalse && isFailure condition.reason

/-- A LocalDisk of the claim is not healthy yet. -/
def unhealthyLocalDisk (cluster : Cluster) (fsc : FileSystemClaim) : Bool :=
  (ownedBy cluster fsc .localDisk).any fun ld =>
    (checkResourceHealthy ld localDiskRequirements
      (fsc.metadata.name :: ownFilesystems cluster fsc)).isSome

/-- A Filesystem of the claim is not healthy yet. -/
def unhealthyFilesystem (cluster : Cluster) (fsc : FileSystemClaim) : Bool :=
  (ownedBy cluster fsc .filesystem).any fun fs =>
    (checkResourceHealthy fs filesystemRequirements []).isSome

/-- The claim is ready, or its conditions or its children show that it is not. -/
def speaksUp (cluster : Cluster) (fsc : FileSystemClaim) : Bool :=
  isConditionTrue fsc .ready || hasFailed fsc || unhealthyLocalDisk cluster fsc ||
    unhealthyFilesystem cluster fsc

/-- The claim waits for LocalDisks, has none, and nothing shows a failure. -/
def waitsInVain (cluster : Cluster) (fsc : FileSystemClaim) : Bool :=
  awaitsLocalDisks fsc && (ownedBy cluster fsc .localDisk).isEmpty &&
    !hasFailed fsc && !unhealthyFilesystem cluster fsc

section Rest

variable {cluster : Cluster} {fsc : FileSystemClaim}

/-- What the migration has recorded is true. -/
def MigratedTrue (conditions : List Condition) : Prop :=
  ∀ conditionType condition,
    findStatusCondition conditions conditionType = some condition →
      condition.reason = .migrationComplete → condition.status = .isTrue

/-- A condition that is kept has the requested status. -/
theorem status_of_keepsCondition
    {conditionType : ConditionType} {status : ConditionStatus}
    {reason : Reason} {message : String}
    (migrated : MigratedTrue fsc.conditions)
    (kept : keepsCondition fsc conditionType status reason message = true) :
    ∃ condition, findStatusCondition fsc.conditions conditionType = some condition ∧
      condition.status = status := by
  unfold keepsCondition alreadyRecorded hasConditionWithReason at kept
  cases found : findStatusCondition fsc.conditions conditionType with
  | none => simp [found] at kept
  | some condition =>
      refine ⟨condition, rfl, ?_⟩
      simp only [found, Bool.or_eq_true, Bool.and_eq_true, decide_eq_true_eq] at kept
      rcases kept with ⟨⟨recorded, _⟩, _⟩ | ⟨migration, requested⟩
      · exact recorded
      · rw [requested]
        exact migrated conditionType condition found migration

/-- A true condition is only kept where it is recorded. -/
theorem Coherent.isConditionTrue_of_kept
    {conditionType : ConditionType} {reason : Reason} {message : String}
    (coherent : Coherent fsc.conditions)
    (kept : keepsCondition fsc conditionType .isTrue reason message = true) :
    isConditionTrue fsc conditionType = true := by
  rw [isConditionTrue_iff coherent.distinct]
  exact status_of_keepsCondition coherent.migrated kept

/-- Whether a LocalDisk fails softly does not depend on who may use it. -/
theorem checkResourceHealthy_of_soft
    {ld : Unstructured} {users others : List String} {failure : HealthFailure}
    (fails : checkResourceHealthy ld localDiskRequirements users = some failure)
    (soft : failure.hardFailure = false) :
    (checkResourceHealthy ld localDiskRequirements others).isSome = true := by
  revert fails
  unfold checkResourceHealthy localDiskRequirements
  cases ld.conditions with
  | none => exact fun _ => rfl
  | some conditions =>
      simp only [List.findSome?_cons, List.findSome?_nil, checkRequiredCondition]
      cases checkResourceCondition conditions .ready .isTrue with
      | some message => exact fun _ => rfl
      | none =>
          cases findStatusCondition conditions .used with
          | none => exact fun _ => rfl
          | some condition =>
              -- a disk that is used fails hard, and one that is not used passes
              intro fails
              by_cases used : condition.status = .isTrue
              · simp only [Option.map_none, used, if_true] at fails
                split_ifs at fails
                all_goals
                  cases fails
                  cases soft
              · simp [used] at fails

theorem keeps_or_unvalidated
    {users : List String}
    (kept : keepsLocalDiskCondition cluster fsc users = true) :
    (ownedBy cluster fsc .localDisk = [] ∧
        isConditionTrue fsc .deviceValidated = false) ∨
      keepsCondition fsc .localDiskCreated
        (wantedLocalDiskCondition cluster fsc users).1
        (wantedLocalDiskCondition cluster fsc users).2.1
        (wantedLocalDiskCondition cluster fsc users).2.2 = true := by
  simpa [keepsLocalDiskCondition] using kept

/-- The wanted condition is true, or it is false for a reason. -/
theorem wantedLocalDiskCondition_cases
    {users : List String}
    (some : ownedBy cluster fsc .localDisk ≠ []) :
    (wantedLocalDiskCondition cluster fsc users).1 = .isTrue ∨
      (wantedLocalDiskCondition cluster fsc users).1 = .isFalse ∧
        ((wantedLocalDiskCondition cluster fsc users).2.1 = .localDiskCreationFailed ∨
          (wantedLocalDiskCondition cluster fsc users).2.1 =
              .localDiskCreationInProgress ∧
            unhealthyLocalDisk cluster fsc = true) := by
  rw [wantedLocalDiskCondition, if_neg some, localDiskCondition]
  cases checked : checkAllResourcesHealthy (ownedBy cluster fsc .localDisk)
      localDiskRequirements (fsc.metadata.name :: users) with
  | none => exact Or.inl rfl
  | some failing =>
      obtain ⟨name, failure⟩ := failing
      refine Or.inr ⟨rfl, ?_⟩
      cases hard : failure.hardFailure with
      | true => exact Or.inl (by simp [hard])
      | false =>
          refine Or.inr ⟨by simp [hard], ?_⟩
          obtain ⟨ld, member, found⟩ := List.exists_of_findSome?_eq_some checked
          obtain ⟨failure', fails, same⟩ := Option.map_eq_some_iff.mp found
          cases same
          exact List.any_eq_true.mpr ⟨ld, member, checkResourceHealthy_of_soft fails hard⟩

/-- A condition that is kept false is recorded, with its reason. -/
theorem hasFailed_of_kept
    {conditionType : ConditionType} {reason : Reason} {message : String}
    (kept : keepsCondition fsc conditionType .isFalse reason message = true)
    (failure : isFailure reason = true) :
    hasFailed fsc = true := by
  have recorded : alreadyRecorded fsc.conditions conditionType .isFalse reason
      message = true := by simpa [keepsCondition] using kept
  unfold alreadyRecorded at recorded
  cases found : findStatusCondition fsc.conditions conditionType with
  | none => simp [found] at recorded
  | some condition =>
      simp only [found, Bool.and_eq_true, decide_eq_true_eq] at recorded
      refine List.any_eq_true.mpr ⟨condition, (Registry.find?_eq_some found).1, ?_⟩
      simp [recorded.1.1, recorded.1.2, failure]

/-- What the claim remembers agrees with what there is, as far as `Ready` and the children
of the claim go. -/
structure Satisfied (cluster : Cluster) (fsc : FileSystemClaim) : Prop where
  localDisks : localDisksGoOn cluster fsc = true ∨ beginsCreation fsc = true
  localDiskCondition : ∃ users, (users = ownFilesystems cluster fsc ∨ users = []) ∧
    keepsLocalDiskCondition cluster fsc users = true
  filesystem : filesystemGoesOn cluster fsc = true
  filesystemCondition : keepsFilesystemCondition cluster fsc = true
  storageClass : isConditionTrue fsc .fileSystemCreated = true →
    isConditionTrue fsc .storageClassCreated = true
  ready : keepsReady fsc = true

/-- A claim at rest agrees with what there is. -/
theorem AtRest.satisfied
    (rest : AtRest cluster fsc)
    (coherent : Coherent fsc.conditions) :
    Satisfied cluster fsc where
  localDisks := rest.localDisks.imp_right And.left
  localDiskCondition := rest.localDiskCondition
  filesystem := rest.filesystem
  filesystemCondition := rest.filesystemCondition
  storageClass := by
    intro fsCreated
    have goesOn := rest.storageClass
    simp only [storageClassGoesOn, fsCreated, Bool.not_true, Bool.false_or,
      Option.any_eq_true, Bool.and_eq_true] at goesOn
    obtain ⟨_, _, _, scKept⟩ := goesOn
    exact coherent.isConditionTrue_of_kept scKept
  ready := rest.ready

/-- With LocalDisks remembered as created, such a claim is ready or has a Filesystem that
is not healthy. -/
theorem ready_or_unhealthy_of_satisfied
    (rest : Satisfied cluster fsc)
    (coherent : Coherent fsc.conditions)
    (created : isConditionTrue fsc .localDiskCreated = true) :
    ownedBy cluster fsc .localDisk ≠ [] ∧
      (isConditionTrue fsc .ready = true ∨ unhealthyFilesystem cluster fsc = true) := by
  obtain ⟨users, _, kept⟩ := rest.localDiskCondition
  obtain ⟨disk, found, status⟩ := find?_of_isConditionTrue coherent.distinct created
  have validated : isConditionTrue fsc .deviceValidated = true := by
    rw [← recordsTrue_iff coherent.distinct]
    exact coherent.validated disk found (by simp [mentionsLocalDisks, status])
  have some : ownedBy cluster fsc .localDisk ≠ [] := by
    intro none
    rcases keeps_or_unvalidated kept with ⟨_, invalid⟩ | keeps
    · rw [validated] at invalid
      cases invalid
    · rw [wantedLocalDiskCondition, if_pos none,
        keepsCondition_eq_false coherent.distinct created] at keeps
      cases keeps
  refine ⟨some, ?_⟩
  -- there is one Filesystem; it is healthy, or shows that it is not
  have one : ∃ fs, ownedBy cluster fsc .filesystem = [fs] := by
    have goesOn := rest.filesystem
    simp only [filesystemGoesOn, created, List.isEmpty_eq_false_iff.mpr some,
      Bool.not_true, Bool.false_or] at goesOn
    split at goesOn
    next fs owned => exact ⟨fs, owned⟩
    next => cases goesOn
  obtain ⟨fs, owned⟩ := one
  have fsKept : keepsCondition fsc .fileSystemCreated
      (filesystemCondition (ownedBy cluster fsc .filesystem)).1
      (filesystemCondition (ownedBy cluster fsc .filesystem)).2.1
      (filesystemCondition (ownedBy cluster fsc .filesystem)).2.2 = true := by
    simpa [keepsFilesystemCondition, created] using rest.filesystemCondition
  cases unhealthy : unhealthyFilesystem cluster fsc with
  | true => exact Or.inr rfl
  | false =>
      have healthy : checkAllResourcesHealthy (ownedBy cluster fsc .filesystem)
          filesystemRequirements [] = none := by
        refine List.findSome?_eq_none_iff.mpr fun resource member => ?_
        have checked := List.any_eq_false.mp unhealthy resource member
        rw [Option.map_eq_none_iff]
        simpa using checked
      have fsCreated : isConditionTrue fsc .fileSystemCreated = true := by
        rw [filesystemCondition, if_neg (by simp [owned]), healthy] at fsKept
        exact coherent.isConditionTrue_of_kept fsKept
      have scCreated : isConditionTrue fsc .storageClassCreated = true :=
        rest.storageClass fsCreated
      have readyKept := rest.ready
      rw [keepsReady, if_pos (by simp [readyNow, validated, created, fsCreated,
        scCreated])] at readyKept
      exact Or.inl (coherent.isConditionTrue_of_kept readyKept)

/-- Such a claim speaks up, unless it waits in vain. -/
theorem speaksUp_iff_of_satisfied
    (rest : Satisfied cluster fsc)
    (coherent : Coherent fsc.conditions) :
    speaksUp cluster fsc = true ↔ waitsInVain cluster fsc = false := by
  by_cases created : isConditionTrue fsc .localDiskCreated = true
  · obtain ⟨some, ready⟩ := ready_or_unhealthy_of_satisfied rest coherent created
    have speaks : speaksUp cluster fsc = true := by
      rcases ready with ready | unhealthy
      · simp [speaksUp, ready]
      · simp [speaksUp, unhealthy]
    simp [speaks, waitsInVain, some]
  obtain ⟨users, _, kept⟩ := rest.localDiskCondition
  have notReady : isConditionTrue fsc .ready = false := by
    have readyKept := rest.ready
    rw [keepsReady, if_neg (by simp [readyNow, created])] at readyKept
    by_contra ready
    rw [keepsCondition_eq_false coherent.distinct (by simpa using ready)] at readyKept
    cases readyKept
  by_cases none : ownedBy cluster fsc .localDisk = []
  · have awaits : awaitsLocalDisks fsc = true := by
      rcases keeps_or_unvalidated kept with ⟨_, invalid⟩ | keeps
      · -- LocalDisks are awaited or about to be created, so the devices are valid
        rcases rest.localDisks with goesOn | begins
        · rwa [localDisksGoOn, if_neg created] at goesOn
        · simp [beginsCreation, invalid] at begins
      · rw [wantedLocalDiskCondition, if_pos none] at keeps
        exact hasConditionWithReason_of_keepsCondition keeps
    have noDisks : unhealthyLocalDisk cluster fsc = false := by
      rw [unhealthyLocalDisk, none]
      rfl
    simp only [speaksUp, waitsInVain, notReady, awaits, noDisks, none, List.isEmpty_nil]
    cases hasFailed fsc <;> cases unhealthyFilesystem cluster fsc <;> simp
  -- some LocalDisk is not healthy, or the failure is recorded
  have keeps := (keeps_or_unvalidated kept).resolve_left fun unvalidated =>
    none unvalidated.1
  rcases wantedLocalDiskCondition_cases none with isTrue | ⟨isFalse, failed | ⟨_, unhealthy⟩⟩
  · rw [isTrue] at keeps
    exact absurd (coherent.isConditionTrue_of_kept keeps) created
  · rw [isFalse, failed] at keeps
    simp [speaksUp, waitsInVain, hasFailed_of_kept keeps rfl]
  · simp [speaksUp, waitsInVain, unhealthy, none]

/-- At rest a claim speaks up, unless it waits in vain. -/
theorem speaksUp_iff_of_atRest
    (rest : AtRest cluster fsc)
    (coherent : Coherent fsc.conditions) :
    speaksUp cluster fsc = true ↔ waitsInVain cluster fsc = false :=
  speaksUp_iff_of_satisfied (rest.satisfied coherent) coherent

end Rest

/-! ## Runs -/

/-- The pass only reads and ends without an error. -/
structure IsIdle
    (r : FileSystemClaimReconciler) (pass : Pass apiServer NamespacedName) : Prop where
  reads : ∀ event ∈ passLog r pass, event.request.isRead = true
  succeeds : ∃ result, (pass.outcome (reconciler r)).value = .ok result

/-- If the pass is idle on a claim with devices that is not being deleted, the
claim has the property. -/
def WhenIdle
    (property : Cluster → FileSystemClaim → Prop)
    (r : FileSystemClaimReconciler) (pass : Pass apiServer NamespacedName) : Prop :=
  IsIdle r pass → ∀ fsc, pass.start.claim? pass.index = some fsc →
    isDeleting fsc = false → fsc.devices ≠ [] → property pass.start fsc

/-- An idle pass has found every step satisfied. -/
theorem atRest_of_isIdle
    {r : FileSystemClaimReconciler} {pass : Pass apiServer NamespacedName}
    {fsc : FileSystemClaim}
    (idle : IsIdle r pass)
    (stored : pass.start.claim? pass.index = some fsc)
    (live : isDeleting fsc = false)
    (coherent : Coherent fsc.conditions) :
    AtRest pass.start fsc := by
  have ensured : Ensures readsOnly (reconcile r pass.index)
      (fun result _ => ∀ value, result = .ok value → AtRest pass.start fsc)
      pass.start := by
    refine ensures_reconcile admitsReads_readsOnly (fun absent => ?_)
      (fun found stored' => ?_) fun failure _ _ _ => ?_
    · rw [stored] at absent
      cases absent
    · rw [stored] at stored'
      cases stored'
      refine ensures_reconcileClaim_atRest live fun invalid => ?_
      by_contra kept
      rw [coherent.isConditionTrue_of_kept (by simpa using kept)] at invalid
      cases invalid
    · rintro value ⟨⟩
  obtain ⟨value, succeeded⟩ := idle.succeeds
  exact (passLog_of_ensures ensured idle.reads).2 value succeeded

/-- Throughout every run, an idle pass finds its claim ready, failed, or with a
child that is not healthy, unless the claim waits in vain for LocalDisks. -/
theorem no_silent_stall
    (r : FileSystemClaimReconciler)
    {initial : Cluster}
    (starts : ∀ key fsc, initial.claim? key = some fsc → AreInitial fsc.conditions) :
    Throughout (reconciler r) LeavesConditions initial (fun _ => True)
      (WhenIdle (fun cluster fsc =>
        speaksUp cluster fsc = true ↔ waitsInVain cluster fsc = false) r) := by
  refine throughout AllCoherent
    (fun key fsc stored => coherent_of_areInitial (starts key fsc stored))
    (fun _ _ leaves coherent => coherent.mono leaves) (fun pass _ coherent => ?_)
    fun pass _ coherent idle fsc stored live _ => ?_
  · exact (passLog_of_ensures (ensures_reconcile_coherent r pass.index coherent)
      fun _ _ => trivial).2
  · have conditions := coherent pass.index fsc stored
    exact speaksUp_iff_of_atRest (atRest_of_isIdle idle stored live conditions) conditions

/-- A claim that was migrated, with everything in place. -/
def migratedClaim : FileSystemClaim :=
  { readyClaim with
    conditions := migrationConditions 0
      { filesystemName := "fs", localDisks := [readyLocalDisk]
        filesystem := some readyFilesystem
        storageClass := some (buildStorageClass readyClaim "fs" "fs") } }

/-- The cluster with this claim. -/
def migratedCluster : Cluster :=
  { readyCluster with claims := [migratedClaim] }

/-- A pass finds nothing to do for it, and it is ready. -/
theorem no_silent_stall_migratedCluster :
    speaksUp migratedCluster migratedClaim = true ↔
      waitsInVain migratedCluster migratedClaim = false := by
  have migrated : Run (S := apiServer) (reconciler {}) LeavesConditions migratedCluster
    [] migratedCluster := .start
  refine no_silent_stall {} (fun key fsc stored => ?_) _ _ (migrated.pass readyKey calm)
    (fun _ _ => trivial) _ (List.mem_singleton_self _) ⟨by decide, {}, rfl⟩ migratedClaim
    (by decide) (by decide) (by decide)
  have listed := (Registry.find?_eq_some stored).1
  rw [List.mem_singleton.mp listed]
  exact Or.inr ⟨_, _, rfl⟩

/-! ## A claim that waits in vain -/

/-- A new claim, of which no object exists yet. -/
def freshCluster : Cluster :=
  { readyCluster with
    claims := [{ readyClaim with conditions := [] }]
    localDisks := []
    filesystems := []
    storageClasses := [] }

/-- The state after a pass on the claim. -/
def afterPass (cluster : Cluster) : Cluster :=
  ((reconciler {} readyKey).run apiServer calm cluster).state

/-- The LocalDisk of the claim is deleted as soon as it is created. -/
def desertedCluster : Cluster :=
  { afterPass (afterPass freshCluster) with localDisks := [] }

/-- Nobody creates the LocalDisk again, and nothing shows it. -/
theorem silent_stall :
    ¬ ∀ initial : Cluster,
      (∀ key fsc, initial.claim? key = some fsc → AreInitial fsc.conditions) →
      Throughout (reconciler {}) LeavesConditions initial (fun _ => True)
        (WhenIdle (fun cluster fsc => speaksUp cluster fsc = true) {}) := by
  intro throughout
  have fresh : Run (S := apiServer) (reconciler {}) LeavesConditions freshCluster
    [] freshCluster := .start
  have leaves : LeavesConditions (afterPass (afterPass freshCluster)) desertedCluster :=
    fun key fsc stored => Or.inr ⟨fsc, stored, rfl⟩
  have deserted := ((fresh.pass readyKey calm).pass readyKey calm).move leaves
  have waiting := (deserted.pass readyKey calm).pass readyKey calm
  have speaks := throughout freshCluster (fun key fsc stored => ?_) _ _
    (waiting.pass readyKey calm) (fun _ _ => trivial) _
    (List.mem_append_right _ (List.mem_singleton_self _)) ⟨by decide, {}, rfl⟩ _ rfl
    (by decide) (by decide)
  · revert speaks
    decide
  · have listed := (Registry.find?_eq_some stored).1
    rw [List.mem_singleton.mp listed]
    exact Or.inl rfl

end FusionAccess
