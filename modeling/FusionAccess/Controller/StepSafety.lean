import FusionAccess.Controller.HelperContracts
import FusionAccess.Controller.Reconcile

/-!
# Safety of the steps

For each step of the controller the writes it may issue, and that the step is
safe when these writes are, whatever server answers its calls. Status writes
are told apart by the conditions they report.
-/

namespace FusionAccess

open Kubernetes Interaction Fallible

/-- A status write changes only conditions to which the given reports are
admitted, and leaves distinct types distinct. -/
structure Touches
    (reports : ConditionType → ConditionStatus → Reason → Prop)
    (original modified : List Condition) : Prop where
  lookup : ∀ conditionType,
    findStatusCondition modified conditionType =
        findStatusCondition original conditionType ∨
      ∃ condition, findStatusCondition modified conditionType = some condition ∧
        reports conditionType condition.status condition.reason
  distinct : (original.map Condition.type).Nodup →
    (modified.map Condition.type).Nodup

theorem Touches.refl
    (reports : ConditionType → ConditionStatus → Reason → Prop)
    (conditions : List Condition) :
    Touches reports conditions conditions :=
  ⟨fun _ => Or.inl rfl, id⟩

theorem Touches.mono
    {reports more : ConditionType → ConditionStatus → Reason → Prop}
    {original modified : List Condition}
    (touches : Touches reports original modified)
    (admitted : ∀ conditionType status reason,
      reports conditionType status reason → more conditionType status reason) :
    Touches more original modified := by
  refine ⟨fun conditionType => ?_, touches.distinct⟩
  rcases touches.lookup conditionType with same | ⟨condition, found, reported⟩
  · exact Or.inl same
  · exact Or.inr ⟨condition, found, admitted _ _ _ reported⟩

/-- Setting one more condition stays within admitted reports. -/
theorem Touches.withCondition
    {reports : ConditionType → ConditionStatus → Reason → Prop}
    {original : List Condition}
    {cur : FileSystemClaim}
    {conditionType : ConditionType}
    {status : ConditionStatus}
    {reason : Reason}
    (touches : Touches reports original cur.conditions)
    (reported : reports conditionType status reason)
    (message : String)
    (now : Nat) :
    Touches reports original
      (withCondition conditionType status reason message now cur).conditions where
  lookup := by
    intro other
    rw [findStatusCondition_withCondition]
    by_cases same : conditionType = other
    · subst same
      rw [if_pos rfl]
      exact Or.inr ⟨_, rfl, reported⟩
    · rw [if_neg same]
      exact touches.lookup other
  distinct := fun distinct =>
    Registry.nodup_upsert _ (touches.distinct distinct)

variable {S : Server kubernetes} {C : Contract S} {invariant : S.State → Prop}

/-- Every call that only reads is safe and is answered honestly. -/
def ReadsSafely (C : Contract S) (invariant : S.State → Prop) : Prop :=
  ∀ call : Call, call.isRead = true →
    SafeThen C invariant (request call) (Honest call)

/-- Status writes of the claim that make only the given reports are safe. -/
def AllowsReports
    (C : Contract S) (invariant : S.State → Prop) (fsc : FileSystemClaim)
    (reports : ConditionType → ConditionStatus → Reason → Prop) : Prop :=
  ∀ mutate : Nat → FileSystemClaim → FileSystemClaim,
    (∀ now cur, Touches reports cur.conditions (mutate now cur).conditions) →
      Safe C invariant (patchFSCStatus fsc mutate)

/-- Fewer reports need fewer status writes. -/
theorem AllowsReports.mono
    {fsc : FileSystemClaim}
    {reports fewer : ConditionType → ConditionStatus → Reason → Prop}
    (allowed : AllowsReports C invariant fsc reports)
    (admitted : ∀ conditionType status reason,
      fewer conditionType status reason → reports conditionType status reason) :
    AllowsReports C invariant fsc fewer :=
  fun mutate touches => allowed mutate fun now cur =>
    (touches now cur).mono admitted

/-- The reports among the given ones that a pass can make: those of the migration
have a reason of their own. -/
def ofPass
    (reports : ConditionType → ConditionStatus → Reason → Prop)
    (conditionType : ConditionType) (status : ConditionStatus)
    (reason : Reason) : Prop :=
  reports conditionType status reason ∧ reason ≠ .migrationComplete

theorem AllowsReports.ofPass
    {fsc : FileSystemClaim}
    {reports : ConditionType → ConditionStatus → Reason → Prop}
    (allowed : AllowsReports C invariant fsc reports) :
    AllowsReports C invariant fsc (ofPass reports) :=
  allowed.mono fun _ _ _ reported => reported.1

/-! ## Helpers -/

theorem safe_retryOnConflict {α : Type}
    {attempted : Act α}
    (steps : Nat)
    (safe : Safe C invariant attempted) :
    Safe C invariant (retryOnConflict attempted (steps + 1)) := by
  induction steps with
  | zero => exact safe
  | succ steps inductionHypothesis =>
      rw [retryOnConflict]
      refine safe.attempt ?_
      rintro (failure | value) _
      · exact safeThen_ite (fun _ => inductionHypothesis) fun _ => safe_throw failure
      · exact safe_pure value

/-- Status patches are safe when all status writes of the claim are. -/
theorem allowsReports_of_calls
    {fsc : FileSystemClaim}
    {reports : ConditionType → ConditionStatus → Reason → Prop}
    (reads : ReadsSafely C invariant)
    (patch : ∀ original modified,
      Safe C invariant (request (.patchClaimStatus fsc.key original modified))) :
    AllowsReports C invariant fsc reports := by
  refine fun mutate _ => safe_retryOnConflict 4 ?_
  refine (reads _ rfl).andThen fun cur _ => ?_
  exact (reads _ rfl).andThen fun now _ => patch _ _

/-- The same for the finalizers of the claim. -/
theorem safe_patchFSCSpec_of_calls
    {fsc : FileSystemClaim}
    {mutate : FileSystemClaim → FileSystemClaim}
    (reads : ReadsSafely C invariant)
    (patch : ∀ original modified,
      Safe C invariant (request (.patchClaimFinalizers fsc.key original modified))) :
    Safe C invariant (patchFSCSpec fsc mutate) := by
  refine safe_retryOnConflict 4 ?_
  exact (reads _ rfl).andThen fun cur _ => patch _ _

section Helpers

variable {fsc : FileSystemClaim}
  {reports : ConditionType → ConditionStatus → Reason → Prop}

theorem safe_updateConditionIfChanged
    {conditionType : ConditionType}
    {status : ConditionStatus}
    {reason : Reason}
    (allowed : AllowsReports C invariant fsc reports)
    (reported : reports conditionType status reason)
    (message : String) :
    Safe C invariant
      (updateConditionIfChanged fsc conditionType status reason message) := by
  unfold updateConditionIfChanged
  refine safeThen_ite (fun _ => safe_pure false) fun _ =>
    safeThen_ite (fun _ => safe_pure false) fun _ => ?_
  have patch := allowed (withCondition conditionType status reason message)
    fun now cur => (Touches.refl reports cur.conditions).withCondition reported _ _
  exact patch.andThen fun _ _ => safe_pure true

/-- The reports of a failed creation. -/
def reportsFailure (resourceType : ResourceType)
    (conditionType : ConditionType) (status : ConditionStatus)
    (reason : Reason) : Prop :=
  status = .isFalse ∧
    (conditionType = resourceType.conditionType ∨
      conditionType = .ready ∧ reason = .provisioningFailed)

theorem safe_handleResourceCreationError
    {resourceType : ResourceType}
    (allowed : AllowsReports C invariant fsc (ofPass (reportsFailure resourceType)))
    (err : Failure) :
    Safe C invariant (handleResourceCreationError fsc resourceType err) :=
  allowed _ fun _ cur =>
    ((Touches.refl _ cur.conditions).withCondition
      ⟨⟨rfl, Or.inl rfl⟩, by cases resourceType <;> simp [ResourceType.failedReason]⟩
      _ _).withCondition ⟨⟨rfl, Or.inr ⟨rfl, rfl⟩⟩, by simp⟩ _ _

theorem safe_listOwnedResources
    (reads : ReadsSafely C invariant) (fsc : FileSystemClaim) (kind : Kind) :
    Safe C invariant (listOwnedResources fsc kind) := by
  unfold listOwnedResources
  refine (SafeThen.mapError (reads _ rfl).safe fun _ _ => trivial).andThen ?_
  exact fun items _ => safe_pure _

end Helpers

/-! ## Finalizers and teardown -/

/-- The reports of the teardown. -/
def reportsTeardown (conditionType : ConditionType) (status : ConditionStatus)
    (reason : Reason) : Prop :=
  conditionType = .ready ∧ status = .isFalse ∧ reason = .deletionRequested ∨
    conditionType = .deletionBlocked ∧ status = .isTrue ∨
    status = .isFalse ∧
      (conditionType = .storageClassCreated ∧ reason = .storageClassDeleted ∨
        conditionType = .fileSystemCreated ∧ reason = .filesystemDeleted ∨
        conditionType = .localDiskCreated ∧ reason = .localDiskDeleted)

/-- What the teardown of a claim does is safe. -/
structure AllowsTeardown
    (C : Contract S) (invariant : S.State → Prop) (fsc : FileSystemClaim) :
    Prop where
  reads : ReadsSafely C invariant
  reports : AllowsReports C invariant fsc reportsTeardown
  deletesStorageClass :
    Safe C invariant (request (.deleteStorageClass fsc.metadata.name))
  deletes : ∀ kind key, Safe C invariant (request (.delete kind key))
  dropsFinalizer : Safe C invariant (patchFSCSpec fsc dropFinalizer)

/-- The result of a step ends the pass. -/
def EndsPass (result : Except Failure Verdict) : Prop :=
  ∀ verdict, result = .ok verdict → verdict.stops = true

theorem endsPass_error (failure : Failure) : EndsPass (.error failure) := by
  intro verdict impossible
  cases impossible

theorem endsPass_ok {verdict : Verdict} (stops : verdict.stops = true) :
    EndsPass (.ok verdict) := by
  intro other equal
  cases equal
  exact stops

section Teardown

variable {fsc : FileSystemClaim}

theorem safe_blockDeletion
    (allowed : AllowsTeardown C invariant fsc) (reason : Reason) (message : String) :
    Safe C invariant (blockDeletion fsc reason message) := by
  unfold blockDeletion
  refine (safe_updateConditionIfChanged allowed.reports
    (Or.inr (Or.inl ⟨rfl, rfl⟩)) message).andThen fun changed _ => ?_
  exact (allowed.reads _ rfl).andThen fun now _ => safe_pure _

theorem safe_checkStorageClassUsage (allowed : AllowsTeardown C invariant fsc) :
    Safe C invariant (checkStorageClassUsage fsc) := by
  have inUse : Safe C invariant (isStorageClassInUse fsc) := by
    unfold isStorageClassInUse
    refine (allowed.reads _ rfl).attempt ?_
    rintro (failure | pvs) _
    · exact safeThen_ite (fun _ => safe_pure none) fun _ => safe_throw failure
    · exact safeThen_ite (fun _ => safe_pure _) fun _ => safe_pure none
  unfold checkStorageClassUsage
  refine safeThen_ite (fun _ => safe_pure _) fun _ => inUse.andThen ?_
  rintro (_ | who) _
  · exact safe_pure _
  · exact safe_blockDeletion allowed _ who

theorem safe_checkFilesystemDeletionLabel
    (allowed : AllowsTeardown C invariant fsc) :
    Safe C invariant (checkFilesystemDeletionLabel fsc) := by
  unfold checkFilesystemDeletionLabel
  refine safeThen_ite (fun _ => safe_pure _) fun _ =>
    (safe_listOwnedResources allowed.reads fsc .filesystem).andThen ?_
  rintro (_ | ⟨fs, _ | ⟨second, rest⟩⟩) _
  · exact safe_pure _
  · exact safeThen_ite (fun _ => safe_blockDeletion allowed _ _) fun _ => safe_pure _
  · exact safe_throw _

theorem safe_deleteStorageClass (allowed : AllowsTeardown C invariant fsc) :
    Safe C invariant (deleteStorageClass fsc) := by
  unfold deleteStorageClass
  refine safeThen_ite (fun _ => safe_pure false) fun _ =>
    (allowed.reads _ rfl).attempt ?_
  rintro (failure | sc) honest
  · exact safeThen_ite (fun _ => safe_throw failure) fun _ =>
      safe_updateConditionIfChanged allowed.reports
        (Or.inr (Or.inr ⟨rfl, Or.inl ⟨rfl, rfl⟩⟩)) _
  · have named : sc.name = fsc.metadata.name := honest
    have deletes := allowed.deletesStorageClass
    rw [← named] at deletes
    exact deletes.andThen fun _ _ => safe_pure true

theorem safe_deleteFilesystem (allowed : AllowsTeardown C invariant fsc) :
    Safe C invariant (deleteFilesystem fsc) := by
  unfold deleteFilesystem
  refine safeThen_ite (fun _ => safe_pure _) fun _ =>
    (safe_listOwnedResources allowed.reads fsc .filesystem).andThen ?_
  rintro (_ | ⟨fs, rest⟩) _
  · refine (safe_updateConditionIfChanged allowed.reports
      (Or.inr (Or.inr ⟨rfl, Or.inr (Or.inl ⟨rfl, rfl⟩)⟩)) _).andThen ?_
    exact fun changed _ => safe_pure _
  · exact (allowed.deletes _ _).andThen fun _ _ => safe_pure _

theorem safe_deleteEach
    (allowed : AllowsTeardown C invariant fsc) (lds : List Unstructured) :
    Safe C invariant (deleteEach lds) := by
  induction lds with
  | nil => exact safe_pure ()
  | cons ld lds inductionHypothesis =>
      rw [deleteEach]
      exact (allowed.deletes _ _).andThen fun _ _ => inductionHypothesis

theorem safe_deleteLocalDisks (allowed : AllowsTeardown C invariant fsc) :
    Safe C invariant (deleteLocalDisks fsc) := by
  unfold deleteLocalDisks
  refine safeThen_ite (fun _ => safe_pure _) fun _ =>
    (safe_listOwnedResources allowed.reads fsc .localDisk).andThen fun lds _ => ?_
  refine safeThen_ite (fun _ => ?_) fun _ => ?_
  · exact (safe_deleteEach allowed lds).andThen fun _ _ => safe_pure _
  · refine (safe_updateConditionIfChanged allowed.reports
      (Or.inr (Or.inr ⟨rfl, Or.inr (Or.inr ⟨rfl, rfl⟩)⟩)) _).andThen ?_
    exact fun changed _ => safe_pure _

theorem safe_markDeletionRequested (allowed : AllowsTeardown C invariant fsc) :
    Safe C invariant (markDeletionRequested fsc) := by
  unfold markDeletionRequested
  exact safeThen_ite
    (fun _ => safe_updateConditionIfChanged allowed.reports
      (Or.inl ⟨rfl, rfl, rfl⟩) _)
    fun _ => safe_pure false

/-- A step of the teardown that ends the pass, or lets the next one decide. -/
theorem safeThen_orElse
    {step : Act Verdict} {next : Verdict → Act Verdict}
    (safe : Safe C invariant step)
    (continues : ∀ verdict, SafeThen C invariant (next verdict) EndsPass) :
    SafeThen C invariant
      (do
        let verdict ← step
        if verdict.stops then return verdict else next verdict) EndsPass :=
  safe.bind (fun failure _ => endsPass_error failure) fun verdict _ =>
    safeThen_ite (fun stops => safeThen_pure (endsPass_ok stops))
      fun _ => continues verdict

/-- The teardown of a claim that is being deleted and has the operator's
finalizer is safe and ends the pass. -/
theorem safe_handleDeletion
    (deleting : isDeleting fsc = true)
    (present : hasFinalizer fsc = true)
    (allowed : AllowsTeardown C invariant fsc) :
    SafeThen C invariant (handleDeletion fsc) EndsPass := by
  have failed : ∀ failure : Failure, True → EndsPass (.error failure) :=
    fun failure _ => endsPass_error failure
  unfold handleDeletion
  rw [if_neg (by simp [deleting]), if_neg (by simp [present])]
  refine (safe_markDeletionRequested allowed).bind failed fun marked _ => ?_
  refine safeThen_ite
    (fun changed => safeThen_pure (endsPass_ok (by simp [Verdict.stops, changed])))
    fun _ => ?_
  refine safeThen_orElse (safe_checkStorageClassUsage allowed) fun _ => ?_
  refine safeThen_orElse (safe_checkFilesystemDeletionLabel allowed) fun _ => ?_
  refine (safe_deleteStorageClass allowed).bind failed fun storageClass _ => ?_
  refine safeThen_ite
    (fun changed => safeThen_pure (endsPass_ok (by simp [Verdict.stops, changed])))
    fun _ => ?_
  refine safeThen_orElse (safe_deleteFilesystem allowed) fun _ => ?_
  refine safeThen_orElse (safe_deleteLocalDisks allowed) fun _ => ?_
  unfold removeFinalizer
  rw [bind_assoc]
  refine allowed.dropsFinalizer.bind failed fun _ _ => ?_
  rw [pure_bind]
  exact safeThen_pure (endsPass_ok (by simp [Verdict.stops]))

/-- Any other claim has nothing to tear down. -/
theorem handleDeletion_eq_pure
    (goesOn : isDeleting fsc = true → hasFinalizer fsc = false) :
    handleDeletion fsc = pure {} := by
  unfold handleDeletion
  cases deleting : isDeleting fsc with
  | false => simp
  | true => simp [goesOn deleting]

end Teardown

/-! ## Nodes and devices -/

theorem safe_getRandomStorageNode (reads : ReadsSafely C invariant) :
    Safe C invariant getRandomStorageNode := by
  unfold getRandomStorageNode
  refine (SafeThen.mapError (reads _ rfl).safe fun _ _ => trivial).andThen ?_
  intro allNodes _
  refine safeThen_ite (fun _ => safe_throw _) fun _ => ?_
  exact (SafeThen.mapError (reads _ rfl).safe fun _ _ => trivial).andThen
    fun index _ => safe_pure _

theorem safe_getDeploymentNamespace (reads : ReadsSafely C invariant) :
    Safe C invariant getDeploymentNamespace := by
  unfold getDeploymentNamespace
  refine (reads _ rfl).andThen ?_
  rintro (_ | ns) _
  · exact safe_throw _
  · exact safe_pure ns

theorem safe_collectDiscoveryResults (reads : ReadsSafely C invariant) (nodes : List Node) :
    Safe C invariant (collectDiscoveryResults nodes) := by
  induction nodes with
  | nil => exact safe_pure []
  | cons node nodes inductionHypothesis =>
      rw [collectDiscoveryResults]
      refine safeThen_ite (fun _ => ?_) fun _ => inductionHypothesis
      refine (SafeThen.mapError (safe_getDeploymentNamespace reads)
        fun _ _ => trivial).andThen fun operatorNamespace _ => ?_
      refine (SafeThen.mapError (reads _ rfl).safe
        fun _ _ => trivial).andThen fun lvdr _ => ?_
      exact inductionHypothesis.andThen fun lvdrs _ => safe_pure _

theorem safe_validateDevices (reads : ReadsSafely C invariant) (fsc : FileSystemClaim) :
    Safe C invariant (validateDevices fsc) := by
  unfold validateDevices
  refine (SafeThen.mapError (reads _ rfl).safe fun _ _ => trivial).andThen ?_
  intro allNodes _
  refine (safe_collectDiscoveryResults reads allNodes).andThen fun lvdrs _ => ?_
  refine safeThen_ite (fun _ => safe_throw _) fun _ => ?_
  split
  next => exact safe_throw _
  next => exact safe_pure _

theorem safe_getDeviceWWN (reads : ReadsSafely C invariant) (devicePath nodeName : String) :
    Safe C invariant (getDeviceWWN devicePath nodeName) := by
  unfold getDeviceWWN
  refine (SafeThen.mapError (safe_getDeploymentNamespace reads)
    fun _ _ => trivial).andThen fun operatorNamespace _ => ?_
  refine (SafeThen.mapError (reads _ rfl).safe
    fun _ _ => trivial).andThen fun lvdr _ => ?_
  split
  next => exact safe_pure _
  next => exact safe_throw _

/-! ## Provisioning -/

section Provisioning

variable {fsc : FileSystemClaim}

/-- Reporting a failure ends a step. -/
theorem safe_reportFailure
    {resourceType : ResourceType}
    (allowed : AllowsReports C invariant fsc (ofPass (reportsFailure resourceType)))
    (err : Failure) :
    Safe C invariant
      (do
        handleResourceCreationError fsc resourceType err
        return true) :=
  (safe_handleResourceCreationError allowed err).andThen fun _ _ => safe_pure true

/-- The creation of an owned LocalDisk is safe. -/
def CreatesLocalDisks
    (C : Contract S) (invariant : S.State → Prop) (fsc : FileSystemClaim) :
    Prop :=
  ∀ name devicePath nodeName, Safe C invariant (request (.create .localDisk
    (ownedObject fsc name (localDiskSpec devicePath nodeName))))

theorem safe_createLocalDisks
    {nodeName : String}
    (reads : ReadsSafely C invariant)
    (allowed : AllowsReports C invariant fsc (ofPass (reportsFailure .localDisk)))
    {devices : List String}
    (creates : ∀ devicePath ∈ devices, ∀ name,
      Safe C invariant (request (.create .localDisk
        (ownedObject fsc name (localDiskSpec devicePath nodeName)))))
    (requeue : Bool) :
    Safe C invariant (createLocalDisks fsc nodeName devices requeue) := by
  induction devices generalizing requeue with
  | nil => exact safe_pure requeue
  | cons devicePath devices inductionHypothesis =>
      rw [createLocalDisks]
      refine (safe_getDeviceWWN reads devicePath nodeName).attempt ?_
      rintro (failure | wwn) _
      · exact safe_reportFailure allowed failure
      dsimp only
      cases generateLocalDiskName wwn with
      | error err => exact safe_reportFailure allowed err
      | ok localDiskName =>
          refine (reads _ rfl).attempt ?_
          rintro (failure | object) _
          · refine safeThen_ite (fun _ => ?_) fun _ => safe_throw _
            rw [createResourceWithOwnership_eq]
            refine (creates devicePath (by simp) _).attempt ?_
            rintro (failure | _) _
            · exact safe_reportFailure allowed failure
            · refine (safe_updateConditionIfChanged allowed
                ⟨⟨rfl, Or.inl rfl⟩, by simp⟩ _).andThen
                fun _ _ => inductionHypothesis (fun other member => ?_) true
              exact creates other (List.mem_cons_of_mem _ member)
          · exact safe_pure false

/-- The reports of `ensureLocalDisks` outside the creation. -/
def reportsValidation
    (conditionType : ConditionType) (status : ConditionStatus)
    (reason : Reason) : Prop :=
  conditionType = .deviceValidated ∨
    conditionType = .ready ∧ status = .isFalse ∧ reason = .validationFailed

/-- The report of devices that have changed. -/
def reportsImmutable
    (conditionType : ConditionType) (status : ConditionStatus)
    (reason : Reason) : Prop :=
  conditionType = .ready ∧ status = .isFalse ∧ reason = .immutableFieldModified

/-- The check of the devices is safe. -/
theorem safe_checkDevices
    (reads : ReadsSafely C invariant)
    (immutable : AllowsReports C invariant fsc reportsImmutable) :
    Safe C invariant
      (do
        let owned ← (listOwnedResources fsc .localDisk).mapError
          (Failure.wrap "failed to list owned LocalDisks: ")
        if ownedDevices owned ≠ fsc.devices.toFinset then do
          patchFSCStatus fsc (withCondition .ready .isFalse .immutableFieldModified
            (immutableMessage fsc owned))
          return true
        else return false) := by
  refine (SafeThen.mapError (safe_listOwnedResources reads fsc .localDisk)
    fun _ _ => trivial).andThen fun owned _ => ?_
  refine safeThen_ite (fun _ => ?_) fun _ => safe_pure false
  have patch := immutable (withCondition .ready .isFalse .immutableFieldModified
    (immutableMessage fsc owned)) fun _ cur =>
      (Touches.refl _ cur.conditions).withCondition ⟨rfl, rfl, rfl⟩ _ _
  exact patch.andThen fun _ _ => safe_pure true

/-- The validation of the devices of a claim. -/
abbrev recordValidation (fsc : FileSystemClaim) : Act Bool := do
  match ← (validateDevices fsc).attempt with
  | .error err => do
      handleValidationError fsc err
      return true
  | .ok _ => do
      let _ ← updateConditionIfChanged fsc .deviceValidated .isTrue
        .deviceValidationSucceeded "Device/s validation succeeded"
      return true

/-- The validation of the devices is safe. -/
theorem safe_validation
    (reads : ReadsSafely C invariant)
    (validates : AllowsReports C invariant fsc (ofPass reportsValidation)) :
    Safe C invariant (recordValidation fsc) := by
  refine (safe_validateDevices reads fsc).attempt ?_
  rintro (failure | _) _
  · have patch : Safe C invariant (handleValidationError fsc failure) :=
      validates _ fun _ cur => ((Touches.refl _ cur.conditions).withCondition
        ⟨Or.inr ⟨rfl, rfl, rfl⟩, by simp⟩ _ _).withCondition ⟨Or.inl rfl, by simp⟩ _ _
    exact patch.andThen fun _ _ => safe_pure true
  · exact (safe_updateConditionIfChanged validates ⟨Or.inl rfl, by simp⟩ _).andThen
      fun _ _ => safe_pure true

/-- LocalDisks are created for the devices of a claim that are validated. -/
theorem safe_ensureLocalDisks_of_validation
    (reads : ReadsSafely C invariant)
    (immutable : AllowsReports C invariant fsc reportsImmutable)
    (validation : isConditionTrue fsc .deviceValidated = false →
      Safe C invariant (recordValidation fsc))
    (failures : AllowsReports C invariant fsc (ofPass (reportsFailure .localDisk)))
    (creates : isConditionTrue fsc .deviceValidated = true →
      ∀ devicePath ∈ fsc.devices, ∀ name nodeName,
        Safe C invariant (request (.create .localDisk
          (ownedObject fsc name (localDiskSpec devicePath nodeName))))) :
    Safe C invariant (ensureLocalDisks fsc) := by
  unfold ensureLocalDisks
  refine safeThen_ite (fun _ => safe_checkDevices reads immutable) fun _ =>
    safeThen_ite (fun _ => safe_pure false) fun _ =>
      safeThen_ite (fun invalid => validation (by simpa using invalid))
        fun validated => ?_
  refine (safe_getRandomStorageNode reads).attempt ?_
  rintro (failure | nodeName) _
  · exact safe_reportFailure failures failure
  · refine safe_createLocalDisks reads failures (fun devicePath member name => ?_) _
    exact creates (by simpa using validated) devicePath member name nodeName

theorem safe_ensureLocalDisks
    (reads : ReadsSafely C invariant)
    (immutable : AllowsReports C invariant fsc reportsImmutable)
    (validates : AllowsReports C invariant fsc (ofPass reportsValidation))
    (failures : AllowsReports C invariant fsc (ofPass (reportsFailure .localDisk)))
    (creates : CreatesLocalDisks C invariant fsc) :
    Safe C invariant (ensureLocalDisks fsc) :=
  safe_ensureLocalDisks_of_validation reads immutable
    (fun _ => safe_validation reads validates) failures
    fun _ devicePath _ name nodeName => creates name devicePath nodeName

theorem localDiskCondition_reason_ne
    (owned : List Unstructured) (ownedFS : List String) :
    (localDiskCondition owned ownedFS).2.1 ≠ .migrationComplete := by
  unfold localDiskCondition
  split
  · simp
  · dsimp only
    split <;> simp

theorem filesystemCondition_reason_ne (owned : List Unstructured) :
    (filesystemCondition owned).2.1 ≠ .migrationComplete := by
  unfold filesystemCondition
  split
  · simp
  · split <;> simp

/-- The LocalDisks are only reported as created when some are listed. -/
theorem safe_syncLocalDiskConditions_of_listed
    {listed : S.State → Prop}
    (lists : ∀ state, invariant state →
      Ensures C (listOwnedResources fsc .localDisk)
        (fun result final => invariant final ∧
          ∀ owned, result = .ok owned → owned ≠ [] → listed final) state)
    (listsFilesystems : Safe C listed (listOwnedResources fsc .filesystem))
    (weakens : ∀ state, listed state → invariant state)
    (denies : AllowsReports C invariant fsc (ofPass fun conditionType status _ =>
      conditionType = .localDiskCreated ∧ status = .isFalse))
    (confirms : AllowsReports C listed fsc (ofPass fun conditionType _ _ =>
      conditionType = .localDiskCreated)) :
    Safe C invariant (syncLocalDiskConditions fsc) := by
  intro state holds
  unfold syncLocalDiskConditions
  rw [ensures_bind]
  refine (lists state holds).mono ?_
  rintro (failure | owned) final ⟨holds, known⟩
  · exact ⟨trivial, holds⟩
  rw [onSuccess_ok, ensures_ite]
  refine ⟨fun _ => ?_, fun some => ?_⟩
  · have waits : Safe C invariant
        (if isConditionTrue fsc .deviceValidated then
          updateConditionIfChanged fsc .localDiskCreated .isFalse
            .localDiskCreationInProgress "Waiting for LocalDisk objects to appear"
        else return false) :=
      safeThen_ite (fun _ => safe_updateConditionIfChanged denies ⟨⟨rfl, rfl⟩, by simp⟩ _)
        fun _ => safe_pure false
    exact waits final holds
  · have isListed : listed final := known owned rfl (by simpa using some)
    refine Ensures.mono (listsFilesystems.attempt
      (fun ownedFS _ => safe_updateConditionIfChanged confirms
        ⟨rfl, localDiskCondition_reason_ne _ _⟩ _) final isListed) ?_
    exact fun _ final ensured => ⟨trivial, weakens final ensured.2⟩

/-- The Filesystem is created or patched from the LocalDisks that are listed,
when the Filesystems of the claim are listed after them. -/
theorem safe_ensureFileSystem_of_listed
    {disks : List Unstructured → S.State → Prop}
    {both : List Unstructured → List Unstructured → S.State → Prop}
    (lists : ∀ state, invariant state →
      Ensures C (listOwnedResources fsc .localDisk)
        (fun result final => invariant final ∧
          ∀ owned, result = .ok owned → disks owned final) state)
    (listsFilesystems : ∀ owned state, disks owned state →
      Ensures C (listOwnedResources fsc .filesystem)
        (fun result final => invariant final ∧
          ∀ fss, result = .ok fss → both owned fss final) state)
    (allowed : AllowsReports C invariant fsc (ofPass (reportsFailure .filesystem)))
    (creates : ∀ owned state, owned ≠ [] → both owned [] state →
      Ensures C (request (.create .filesystem (ownedObject fsc fsc.metadata.name
        (buildFilesystemSpec (owned.map fun ld => ld.metadata.name)))))
        (fun _ final => invariant final) state)
    (patches : ∀ owned fs state, owned ≠ [] → both owned [fs] state →
      Ensures C (request (.patchSpec .filesystem fs.key
        (buildFilesystemSpec (owned.map fun ld => ld.metadata.name))))
        (fun _ final => invariant final) state) :
    Safe C invariant (ensureFileSystem fsc) := by
  unfold ensureFileSystem
  refine safeThen_ite (fun _ => safe_pure false) fun _ => ?_
  intro state holds
  rw [ensures_bind, ensures_mapError]
  refine (lists state holds).mono ?_
  rintro (failure | owned) final ⟨holds, known⟩
  · exact ⟨trivial, holds⟩
  simp only [Except.mapError, onSuccess_ok, List.length_map, ensures_ite]
  refine ⟨fun _ => ⟨trivial, holds⟩, fun some => ?_⟩
  have listed : owned ≠ [] := by simpa using some
  rw [ensures_bind, ensures_mapError]
  refine (listsFilesystems owned final (known owned rfl)).mono ?_
  rintro (failure | fss) final ⟨holds, known⟩
  · exact ⟨trivial, holds⟩
  have stage := known fss rfl
  simp only [Except.mapError, onSuccess_ok]
  rcases fss with _ | ⟨fs, _ | ⟨second, others⟩⟩
  · dsimp only
    rw [createResourceWithOwnership_eq, ensures_bind, ensures_attempt]
    refine (creates owned final listed stage).mono ?_
    rintro (failure | _) final holds
    · exact safe_reportFailure allowed failure final holds
    · exact (safe_updateConditionIfChanged allowed
        ⟨⟨rfl, Or.inl rfl⟩, by simp⟩ _).andThen
          (fun _ _ => safe_pure true) final holds
  · dsimp only
    rw [ensures_ite]
    refine ⟨fun _ => ?_, fun _ => ⟨trivial, holds⟩⟩
    rw [ensures_bind, ensures_mapError]
    refine (patches owned fs final listed stage).mono ?_
    rintro (failure | _) final holds
    · exact ⟨trivial, holds⟩
    · exact ⟨trivial, holds⟩
  · exact safe_reportFailure allowed _ final holds

/-- The same where nothing has to be known about what is listed. -/
theorem safe_ensureFileSystem
    (reads : ReadsSafely C invariant)
    (allowed : AllowsReports C invariant fsc (ofPass (reportsFailure .filesystem)))
    (creates : ∀ spec, Safe C invariant (request (.create .filesystem
      (ownedObject fsc fsc.metadata.name spec))))
    (patches : ∀ key spec, Safe C invariant (request (.patchSpec .filesystem key spec))) :
    Safe C invariant (ensureFileSystem fsc) := by
  have lists : ∀ kind state, invariant state →
      Ensures C (listOwnedResources fsc kind)
        (fun result final => invariant final ∧
          ∀ owned, result = .ok owned → invariant final) state :=
    fun kind state holds => (safe_listOwnedResources reads fsc kind state holds).mono
      fun _ _ ensured => ⟨ensured.2, fun _ _ => ensured.2⟩
  refine safe_ensureFileSystem_of_listed (lists .localDisk)
    (fun _ => lists .filesystem) allowed (fun owned state _ holds => ?_)
    fun owned fs state _ holds => ?_
  · exact (creates _ state holds).mono fun _ _ ensured => ensured.2
  · exact (patches _ _ state holds).mono fun _ _ ensured => ensured.2

theorem safe_syncFilesystemConditions
    (reads : ReadsSafely C invariant)
    (allowed : AllowsReports C invariant fsc (ofPass fun conditionType _ _ =>
      conditionType = .fileSystemCreated)) :
    Safe C invariant (syncFilesystemConditions fsc) := by
  unfold syncFilesystemConditions
  refine safeThen_ite (fun _ => safe_pure false) fun _ => ?_
  exact (SafeThen.mapError (safe_listOwnedResources reads fsc .filesystem)
    fun _ _ => trivial).andThen fun owned _ =>
      safe_updateConditionIfChanged allowed
        ⟨rfl, filesystemCondition_reason_ne owned⟩ _

/-- The reports of `ensureStorageClass`. -/
def reportsStorageClass
    (conditionType : ConditionType) (status : ConditionStatus)
    (reason : Reason) : Prop :=
  reportsFailure .storageClass conditionType status reason ∨
    conditionType = .storageClassCreated

theorem safe_ensureStorageClass
    (reads : ReadsSafely C invariant)
    (allowed : AllowsReports C invariant fsc (ofPass reportsStorageClass))
    (creates : Safe C invariant (request (.createStorageClass
      (buildStorageClass fsc fsc.metadata.name fsc.metadata.name))))
    (patches : ∀ current : StorageClass, current.name = fsc.metadata.name →
      Safe C invariant (request (.patchStorageClass (withRelevantFields current
        (buildStorageClass fsc fsc.metadata.name fsc.metadata.name))))) :
    Safe C invariant (ensureStorageClass fsc) := by
  have failures : AllowsReports C invariant fsc (ofPass (reportsFailure .storageClass)) :=
    allowed.mono fun _ _ _ reported => ⟨Or.inl reported.1, reported.2⟩
  unfold ensureStorageClass
  refine safeThen_ite (fun _ => safe_pure false) fun _ =>
    (reads _ rfl).attempt ?_
  rintro (failure | current) honest
  · refine safeThen_ite (fun _ => creates.attempt ?_) fun _ => safe_throw _
    rintro (failure | _) _
    · exact safe_reportFailure failures failure
    · exact safe_updateConditionIfChanged allowed ⟨Or.inr rfl, by simp⟩ _
  · have reconciles : Safe C invariant (reconcileExistingStorageClass current
        (buildStorageClass fsc fsc.metadata.name fsc.metadata.name)) := by
      unfold reconcileExistingStorageClass
      refine safeThen_ite (fun _ => safe_pure false) fun _ => ?_
      exact (SafeThen.mapError (patches current honest) fun _ _ => trivial).andThen
        fun _ _ => safe_pure true
    refine (SafeThen.mapError reconciles fun _ _ => trivial).andThen fun changed _ => ?_
    exact (safe_updateConditionIfChanged allowed ⟨Or.inr rfl, by simp⟩ _).andThen
      fun _ _ => safe_pure _

/-- The reports of `syncFSCReady`. -/
def reportsReady
    (conditionType : ConditionType) (_ : ConditionStatus)
    (reason : Reason) : Prop :=
  conditionType = .ready ∧
    (reason = .provisioningSucceeded ∨ reason = .provisioningInProgress)

theorem safe_syncFSCReady
    (allowed : AllowsReports C invariant fsc reportsReady) :
    Safe C invariant (syncFSCReady fsc) := by
  unfold syncFSCReady
  exact safeThen_ite
    (fun _ => safe_updateConditionIfChanged allowed ⟨rfl, Or.inl rfl⟩ _)
    fun _ => safe_updateConditionIfChanged allowed ⟨rfl, Or.inr rfl⟩ _

/-- The reports of provisioning apart from two: that the LocalDisks are there,
and that the devices have changed. -/
def reportsProgress
    (conditionType : ConditionType) (status : ConditionStatus)
    (reason : Reason) : Prop :=
  (conditionType = .localDiskCreated → status = .isFalse) ∧
    (conditionType = .ready → reason ≠ .immutableFieldModified)

theorem reportsProgress_of_failure
    {resourceType : ResourceType}
    {conditionType : ConditionType} {status : ConditionStatus} {reason : Reason}
    (reported : reportsFailure resourceType conditionType status reason) :
    reportsProgress conditionType status reason := by
  refine ⟨fun _ => reported.1, fun isReady => ?_⟩
  rcases reported.2 with other | ⟨_, failed⟩
  · cases resourceType <;> simp_all [ResourceType.conditionType]
  · simp [failed]

theorem reportsProgress_of_validation
    {conditionType : ConditionType} {status : ConditionStatus} {reason : Reason}
    (reported : reportsValidation conditionType status reason) :
    reportsProgress conditionType status reason := by
  rcases reported with rfl | ⟨rfl, rfl, rfl⟩ <;> simp [reportsProgress]

/-- What `provision` does once LocalDisks are seen to. -/
abbrev afterLocalDisks (fsc : FileSystemClaim) : Act Bool := do
  let localDiskConditions ← syncLocalDiskConditions fsc
  if localDiskConditions then return true
  else do
    let fileSystem ← ensureFileSystem fsc
    if fileSystem then return true
    else do
      let filesystemConditions ← syncFilesystemConditions fsc
      if filesystemConditions then return true
      else ensureStorageClass fsc

theorem safe_afterLocalDisks
    (localDiskConditions : Safe C invariant (syncLocalDiskConditions fsc))
    (fileSystem : Safe C invariant (ensureFileSystem fsc))
    (filesystemConditions : Safe C invariant (syncFilesystemConditions fsc))
    (storageClass : Safe C invariant (ensureStorageClass fsc)) :
    Safe C invariant (afterLocalDisks fsc) := by
  have orElse : ∀ {step next : Act Bool}, Safe C invariant step →
      Safe C invariant next →
      Safe C invariant (do let wrote ← step; if wrote then return true else next) :=
    fun safe continues => safe.andThen fun _ _ =>
      safeThen_ite (fun _ => safe_pure true) fun _ => continues
  exact orElse localDiskConditions
    (orElse fileSystem (orElse filesystemConditions storageClass))

/-- Provisioning is safe when its steps are, from the states in which the
creation of LocalDisks ends. -/
theorem ensures_provision_of_safe
    {state : S.State}
    (localDisks : Ensures C (ensureLocalDisks fsc)
      (fun _ final => invariant final) state)
    (localDiskConditions : Safe C invariant (syncLocalDiskConditions fsc))
    (fileSystem : Safe C invariant (ensureFileSystem fsc))
    (filesystemConditions : Safe C invariant (syncFilesystemConditions fsc))
    (storageClass : Safe C invariant (ensureStorageClass fsc)) :
    Ensures C (provision fsc) (fun _ final => invariant final) state := by
  have rest :=
    safe_afterLocalDisks localDiskConditions fileSystem filesystemConditions storageClass
  unfold provision
  rw [ensures_bind]
  refine localDisks.mono ?_
  rintro (failure | wrote) final holds
  · exact holds
  · rw [onSuccess_ok, ensures_ite]
    exact ⟨fun _ => holds, fun _ => (rest final holds).mono fun _ _ safe => safe.2⟩

/-- Once LocalDisks are seen to, provisioning validates no devices, and it never blocks
a deletion: it is safe when all other reports and the writes of its steps are. -/
theorem ensures_provision_of_reports
    {state : S.State}
    (reads : ReadsSafely C invariant)
    (reported : ∀ {reports : ConditionType → ConditionStatus → Reason → Prop},
      (∀ status reason, ¬reports .deviceValidated status reason) →
      (∀ status reason, ¬reports .deletionBlocked status reason) →
        AllowsReports C invariant fsc (ofPass reports))
    (localDisks : Ensures C (ensureLocalDisks fsc)
      (fun _ final => invariant final) state)
    (createsFilesystem : ∀ spec, Safe C invariant (request (.create .filesystem
      (ownedObject fsc fsc.metadata.name spec))))
    (patchesFilesystem : ∀ key spec,
      Safe C invariant (request (.patchSpec .filesystem key spec)))
    (createsStorageClass : Safe C invariant (request (.createStorageClass
      (buildStorageClass fsc fsc.metadata.name fsc.metadata.name))))
    (patchesStorageClass : ∀ storageClass,
      Safe C invariant (request (.patchStorageClass storageClass))) :
    Ensures C (provision fsc) (fun _ final => invariant final) state := by
  refine ensures_provision_of_safe localDisks ?_ ?_ ?_ ?_
  · refine safe_syncLocalDiskConditions_of_listed
      (fun state holds => (safe_listOwnedResources reads fsc .localDisk state holds).mono
        fun _ _ ensured => ⟨ensured.2, fun _ _ _ => ensured.2⟩)
      (safe_listOwnedResources reads fsc .filesystem) (fun _ holds => holds)
      (reported (by simp) (by simp)) (reported (by simp) (by simp))
  · exact safe_ensureFileSystem reads
      (reported (by simp [reportsFailure, ResourceType.conditionType])
        (by simp [reportsFailure, ResourceType.conditionType]))
      createsFilesystem patchesFilesystem
  · exact safe_syncFilesystemConditions reads (reported (by simp) (by simp))
  · exact safe_ensureStorageClass reads
      (reported
        (by simp [reportsStorageClass, reportsFailure, ResourceType.conditionType])
        (by simp [reportsStorageClass, reportsFailure, ResourceType.conditionType]))
      createsStorageClass fun _ _ => patchesStorageClass _

end Provisioning

/-! ## The pass -/

section Pass

variable {fsc : FileSystemClaim} {r : FileSystemClaimReconciler}

/-- A pass on a claim that is torn down consists of the teardown. -/
theorem safe_reconcileClaim_of_teardown
    (deleting : isDeleting fsc = true)
    (teardown : SafeThen C invariant (handleDeletion fsc) EndsPass) :
    Safe C invariant (reconcileClaim r fsc) := by
  unfold reconcileClaim handleFinalizers
  rw [if_pos deleting, pure_bind, if_neg (by simp)]
  refine teardown.andThen fun verdict ends => ?_
  have stops := ends verdict rfl
  refine safeThen_ite (fun _ => safe_pure _) fun noDelay =>
    safeThen_ite (fun _ => safe_pure _) fun unchanged => ?_
  simp [Verdict.stops, noDelay, unchanged] at stops

/-- What the calls of a teardown keep to is all that the calls of its pass keep to. -/
theorem ensures_reconcileClaim_of_teardown
    {state : S.State}
    (deleting : isDeleting fsc = true)
    (teardown : Ensures C (handleDeletion fsc) (fun result _ => EndsPass result) state) :
    Ensures C (reconcileClaim r fsc) (fun _ _ => True) state := by
  unfold reconcileClaim handleFinalizers
  rw [if_pos deleting, ensures_bind, ensures_pure, onSuccess_ok, if_neg (by simp),
    ensures_bind]
  refine teardown.mono ?_
  rintro (failure | verdict) final ends
  · trivial
  · have stops := ends verdict rfl
    simp only [onSuccess_ok, ensures_ite, ensures_pure, implies_true, true_and]
    intro noDelay unchanged
    simp [Verdict.stops, noDelay, unchanged] at stops

/-- A pass on a claim that is neither torn down nor without the finalizer
consists of provisioning. -/
theorem reconcileClaim_eq_provision
    (goesOn : isDeleting fsc = true → hasFinalizer fsc = false)
    (finalized : isDeleting fsc = true ∨ hasFinalizer fsc = true) :
    reconcileClaim r fsc = (do
      let provisioned ← provision fsc
      if provisioned then return ⟨r.requeueDelay⟩
      else do
        let ready ← syncFSCReady fsc
        if ready then return ⟨r.requeueDelay⟩
        else return {}) := by
  have passes : handleFinalizers fsc = pure false := by
    unfold handleFinalizers
    cases deleting : isDeleting fsc with
    | true => rfl
    | false =>
        have present := finalized.resolve_left (by simp [deleting])
        rw [if_neg (by simp), if_neg (by simp [present])]
  unfold reconcileClaim
  rw [passes, pure_bind, if_neg (by simp), handleDeletion_eq_pure goesOn, pure_bind,
    if_neg (by simp), if_neg (by simp)]

/-- A pass that adds the finalizer ends there. -/
theorem ensures_reconcileClaim_of_unfinalized
    {state : S.State} {post : S.State → Prop}
    (live : isDeleting fsc = false)
    (unfinalized : hasFinalizer fsc = false)
    (adds : Ensures C (patchFSCSpec fsc addFinalizer) (fun _ final => post final) state) :
    Ensures C (reconcileClaim r fsc) (fun _ final => post final) state := by
  unfold reconcileClaim handleFinalizers
  rw [if_neg (by simp [live]), if_pos (by simp [unfinalized]), bind_assoc, ensures_bind]
  refine adds.mono ?_
  rintro (failure | _) final holds
  · exact holds
  · rw [onSuccess_ok, pure_bind, if_pos rfl]
    exact holds

/-- A pass on any other claim sees to the finalizer or provisions. -/
theorem ensures_reconcileClaim_of_provision
    {state : S.State}
    (goesOn : isDeleting fsc = true → hasFinalizer fsc = false)
    (adds : isDeleting fsc = false → Safe C invariant (patchFSCSpec fsc addFinalizer))
    (provisioning : (isDeleting fsc = true ∨ hasFinalizer fsc = true) →
      Ensures C (provision fsc) (fun _ final => invariant final) state)
    (ready : Safe C invariant (syncFSCReady fsc))
    (holds : invariant state) :
    Ensures C (reconcileClaim r fsc) (fun _ final => invariant final) state := by
  by_cases finalized : isDeleting fsc = true ∨ hasFinalizer fsc = true
  · rw [reconcileClaim_eq_provision goesOn finalized, ensures_bind]
    refine (provisioning finalized).mono ?_
    rintro (failure | provisioned) final holds
    · exact holds
    · rw [onSuccess_ok, ensures_ite]
      refine ⟨fun _ => holds, fun _ => ?_⟩
      refine Ensures.mono ((ready.andThen fun _ _ =>
        safeThen_ite (fun _ => safe_pure _) fun _ => safe_pure _) final holds) ?_
      exact fun _ _ ensured => ensured.2
  obtain ⟨deleting, unfinalized⟩ := not_or.mp finalized
  have live : isDeleting fsc = false := by simpa using deleting
  refine ensures_reconcileClaim_of_unfinalized live (by simpa using unfinalized) ?_
  exact (adds live state holds).mono fun _ _ ensured => ensured.2

/-- A pass sees to the finalizer of a claim that is not being deleted, tears
down one that is and has the finalizer, and provisions all others. -/
theorem safe_reconcileClaim_of_provision
    (adds : isDeleting fsc = false → Safe C invariant (patchFSCSpec fsc addFinalizer))
    (teardown : isDeleting fsc = true → hasFinalizer fsc = true →
      AllowsTeardown C invariant fsc)
    (provisioning : ∀ state, invariant state →
      Ensures C (provision fsc) (fun _ final => invariant final) state)
    (ready : Safe C invariant (syncFSCReady fsc)) :
    Safe C invariant (reconcileClaim r fsc) := by
  intro state holds
  by_cases leaving : isDeleting fsc = true ∧ hasFinalizer fsc = true
  · exact safe_reconcileClaim_of_teardown leaving.1
      (safe_handleDeletion leaving.1 leaving.2 (teardown leaving.1 leaving.2))
      state holds
  · have goesOn : isDeleting fsc = true → hasFinalizer fsc = false := by
      intro deleting
      simpa [deleting] using leaving
    refine (ensures_reconcileClaim_of_provision goesOn adds
      (fun _ => provisioning state holds) ready holds).mono ?_
    exact fun _ _ holds => ⟨trivial, holds⟩

end Pass

end FusionAccess
