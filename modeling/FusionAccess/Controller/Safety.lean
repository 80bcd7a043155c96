import FusionAccess.Controller.StepSafety

/-!
# Safety against the API server

The status writes of a pass that nothing interferes with start from the
conditions that are stored. Whether they are safe is therefore a question about
the states in which they are issued.
-/

namespace FusionAccess

open Kubernetes Interaction Fallible

variable {C : Contract apiServer} {invariant : Cluster → Prop}

theorem readsSafely_of_admits (admits : AdmitsReads C) : ReadsSafely C invariant :=
  fun _ reads => safe_read admits reads

/-- Status patches are safe when the write that follows the read is: it patches
the conditions that are stored. -/
theorem allowsReports_of_patch
    {fsc : FileSystemClaim}
    {reports : ConditionType → ConditionStatus → Reason → Prop}
    (admits : AdmitsReads C)
    (patch : ∀ state cur modified, invariant state →
      state.claim? fsc.key = some cur →
      Touches reports cur.conditions modified →
        C.guard state (.patchClaimStatus fsc.key cur.conditions modified) ∧
          invariant (state.afterCall
            (.patchClaimStatus fsc.key cur.conditions modified))) :
    AllowsReports C invariant fsc reports := by
  intro mutate touches
  refine safe_retryOnConflict 4 fun state holds => ?_
  rw [ensures_bind]
  refine ensures_read admits rfl (fun pick => ?_) fun _ _ _ => ⟨trivial, holds⟩
  cases stored : state.claim? fsc.key with
  | none =>
      simp only [Cluster.answer, stored]
      exact ⟨trivial, holds⟩
  | some cur =>
      simp only [Cluster.answer, stored, onSuccess_ok, ensures_bind]
      refine ensures_local (admits _ _ rfl) rfl rfl fun pick => ?_
      simp only [Cluster.answer, onSuccess_ok]
      have written := patch state cur _ holds stored (touches state.clock cur)
      exact ensures_request written.1 (fun pick => ⟨trivial, written.2⟩)
        (fun _ _ _ => ⟨trivial, holds⟩) fun _ _ _ => ⟨trivial, written.2⟩

/-- The same for the finalizers of the claim. -/
theorem safe_patchFSCSpec
    {fsc : FileSystemClaim}
    {mutate : FileSystemClaim → FileSystemClaim}
    (admits : AdmitsReads C)
    (patch : ∀ state cur, invariant state → state.claim? fsc.key = some cur →
      C.guard state (.patchClaimFinalizers fsc.key cur.metadata.finalizers
          (mutate cur).metadata.finalizers) ∧
        invariant (state.afterCall (.patchClaimFinalizers fsc.key
          cur.metadata.finalizers (mutate cur).metadata.finalizers))) :
    Safe C invariant (patchFSCSpec fsc mutate) := by
  refine safe_retryOnConflict 4 fun state holds => ?_
  rw [ensures_bind]
  refine ensures_read admits rfl (fun pick => ?_) fun _ _ _ => ⟨trivial, holds⟩
  cases stored : state.claim? fsc.key with
  | none =>
      simp only [Cluster.answer, stored]
      exact ⟨trivial, holds⟩
  | some cur =>
      simp only [Cluster.answer, stored, onSuccess_ok]
      have written := patch state cur holds stored
      exact ensures_request written.1 (fun pick => ⟨trivial, written.2⟩)
        (fun _ _ _ => ⟨trivial, holds⟩) fun _ _ _ => ⟨trivial, written.2⟩

section Provisioning

variable {fsc : FileSystemClaim}

/-- The states of an invariant in which the claim owns LocalDisks. -/
abbrev Owning (invariant : Cluster → Prop) (fsc : FileSystemClaim) (state : Cluster) :
    Prop :=
  invariant state ∧ ownedBy state fsc .localDisk ≠ []

/-- Status writes leave LocalDisks alone. -/
theorem allowsReports_owning
    {reports : ConditionType → ConditionStatus → Reason → Prop}
    (admits : AdmitsReads C)
    (patch : ∀ state cur modified, Owning invariant fsc state →
      state.claim? fsc.key = some cur →
      Touches reports cur.conditions modified →
        C.guard state (.patchClaimStatus fsc.key cur.conditions modified) ∧
          invariant (state.afterCall
            (.patchClaimStatus fsc.key cur.conditions modified))) :
    AllowsReports C (Owning invariant fsc) fsc reports := by
  refine allowsReports_of_patch admits fun state cur modified owning stored touches => ?_
  have written := patch state cur modified owning stored touches
  refine ⟨written.1, written.2, ?_⟩
  rw [ownedBy_afterCall (by simp [Call.part?])]
  exact owning.2

/-- The LocalDisks are only reported as created when there are some. -/
theorem safe_syncLocalDiskConditions
    (admits : AdmitsReads C)
    (denies : AllowsReports C invariant fsc (ofPass fun conditionType status _ =>
      conditionType = .localDiskCreated ∧ status = .isFalse))
    (confirms : AllowsReports C (Owning invariant fsc) fsc
      (ofPass fun conditionType _ _ => conditionType = .localDiskCreated)) :
    Safe C invariant (syncLocalDiskConditions fsc) := by
  refine safe_syncLocalDiskConditions_of_listed (fun state holds => ?_)
    (safe_listOwnedResources (readsSafely_of_admits admits) fsc .filesystem) (fun _ owning => owning.1)
    denies confirms
  refine ensures_listOwnedResources admits ⟨holds, ?_⟩
    fun _ _ _ _ => ⟨holds, fun _ impossible => by cases impossible⟩
  rintro owned equal some
  cases equal
  exact ⟨holds, some⟩

/-- What the provisioning of a claim does after the creation of LocalDisks is
safe. -/
structure AllowsProvisioning
    (C : Contract apiServer) (invariant : Cluster → Prop) (fsc : FileSystemClaim) :
    Prop where
  reads : AdmitsReads C
  reports : AllowsReports C invariant fsc reportsProgress
  confirms : AllowsReports C (Owning invariant fsc) fsc fun conditionType _ _ =>
    conditionType = .localDiskCreated
  createsFilesystem : ∀ spec, Safe C invariant (request (.create .filesystem
    (ownedObject fsc fsc.metadata.name spec)))
  patchesFilesystem : ∀ key spec,
    Safe C invariant (request (.patchSpec .filesystem key spec))
  createsStorageClass : Safe C invariant (request (.createStorageClass
    (buildStorageClass fsc fsc.metadata.name fsc.metadata.name)))
  patchesStorageClass : ∀ current : StorageClass,
    current.name = fsc.metadata.name →
      Safe C invariant (request (.patchStorageClass (withRelevantFields current
        (buildStorageClass fsc fsc.metadata.name fsc.metadata.name))))

section Reports

variable (allowed : AllowsProvisioning C invariant fsc)

include allowed

theorem AllowsProvisioning.reportsFailure
    (resourceType : ResourceType) :
    AllowsReports C invariant fsc (reportsFailure resourceType) :=
  allowed.reports.mono fun _ _ _ => reportsProgress_of_failure

theorem AllowsProvisioning.reportsReady :
    AllowsReports C invariant fsc reportsReady := by
  refine allowed.reports.mono fun conditionType status reason reported => ?_
  rcases reported with ⟨rfl, rfl | rfl⟩ <;> simp [reportsProgress]

/-- A condition of another type may be reported in every state. -/
theorem AllowsProvisioning.reportsOther
    {reported : ConditionType}
    (notLocalDisks : reported ≠ .localDiskCreated)
    (notReady : reported ≠ .ready) :
    AllowsReports C invariant fsc fun conditionType _ _ =>
      conditionType = reported := by
  refine allowed.reports.mono ?_
  rintro _ status reason rfl
  exact ⟨fun same => absurd same notLocalDisks, fun same => absurd same notReady⟩

theorem AllowsProvisioning.reportsStorageClass :
    AllowsReports C invariant fsc reportsStorageClass := by
  refine allowed.reports.mono fun conditionType status reason reported => ?_
  rcases reported with ⟨rfl, rfl | ⟨rfl, rfl⟩⟩ | rfl <;>
    simp [reportsProgress, ResourceType.conditionType]

end Reports

/-- The same when the writes of the steps are safe. -/
theorem ensures_provision
    {state : Cluster}
    (localDisks : Ensures C (ensureLocalDisks fsc)
      (fun _ final => invariant final) state)
    (allowed : AllowsProvisioning C invariant fsc) :
    Ensures C (provision fsc) (fun _ final => invariant final) state :=
  have reads := readsSafely_of_admits allowed.reads
  ensures_provision_of_safe localDisks
    (safe_syncLocalDiskConditions allowed.reads
      (AllowsReports.ofPass (allowed.reports.mono fun _ _ _ reported =>
        ⟨fun _ => reported.2, fun same => by simp [reported.1] at same⟩))
      allowed.confirms.ofPass)
    (safe_ensureFileSystem reads (allowed.reportsFailure .filesystem).ofPass
      allowed.createsFilesystem allowed.patchesFilesystem)
    (safe_syncFilesystemConditions reads
      (allowed.reportsOther (by simp) (by simp)).ofPass)
    (safe_ensureStorageClass reads allowed.reportsStorageClass.ofPass
      allowed.createsStorageClass allowed.patchesStorageClass)

/-- A pass is safe when its finalizers, its teardown, the creation of LocalDisks
and the other steps of its provisioning are. -/
theorem safe_reconcileClaim
    {r : FileSystemClaimReconciler}
    (adds : isDeleting fsc = false → Safe C invariant (patchFSCSpec fsc addFinalizer))
    (teardown : isDeleting fsc = true → hasFinalizer fsc = true →
      AllowsTeardown C invariant fsc)
    (localDisks : Safe C invariant (ensureLocalDisks fsc))
    (provisioning : AllowsProvisioning C invariant fsc) :
    Safe C invariant (reconcileClaim r fsc) :=
  safe_reconcileClaim_of_provision adds teardown
    (fun state holds => ensures_provision
      ((localDisks state holds).mono fun _ _ safe => safe.2) provisioning)
    (safe_syncFSCReady provisioning.reportsReady)

end Provisioning

end FusionAccess
