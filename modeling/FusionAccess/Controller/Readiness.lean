import FusionAccess.Controller.Passes
import FusionAccess.Kubernetes.Frames

/-!
# What Ready means

`Ready` is computed from four conditions that the claim remembers. Every step
before it either finds its condition confirmed by the objects or ends the pass,
so a pass that computes `Ready` has everything in place: the disks of the
claim, one healthy Filesystem over them, and the StorageClass.
-/

namespace FusionAccess

open Kubernetes Interaction Fallible

/-! ## A pass up to the last step -/

/-- The steps of a pass before `syncFSCReady`; `none` when it gets there. -/
def untilReady
    (r : FileSystemClaimReconciler) (fsc : FileSystemClaim) :
    Act (Option Result) := do
  let finalizers ← handleFinalizers fsc
  if finalizers then return some ⟨r.requeueDelay⟩
  else do
    let deletion ← handleDeletion fsc
    if deletion.requeueAfter > 0 then return some ⟨deletion.requeueAfter⟩
    else if deletion.changed then return some ⟨r.requeueDelay⟩
    else do
      let provisioned ← provision fsc
      if provisioned then return some ⟨r.requeueDelay⟩
      else return none

/-- A pass is its steps up to `syncFSCReady` and then that step. -/
theorem reconcileClaim_eq_untilReady
    (r : FileSystemClaimReconciler) (fsc : FileSystemClaim) :
    reconcileClaim r fsc = (do
      match ← untilReady r fsc with
      | some result => return result
      | none => do
          let ready ← syncFSCReady fsc
          if ready then return ⟨r.requeueDelay⟩
          else return {}) := by
  unfold reconcileClaim untilReady
  simp only [bind_assoc]
  congr 1
  funext finalizers
  cases finalizers with
  | true => simp
  | false =>
      simp only [Bool.false_eq_true, if_false, bind_assoc]
      congr 1
      funext deletion
      by_cases delayed : deletion.requeueAfter > 0
      · simp [delayed]
      · cases changed : deletion.changed with
        | true => simp [delayed]
        | false =>
            simp only [delayed, if_false, Bool.false_eq_true, bind_assoc]
            congr 1
            funext provisioned
            cases provisioned <;> simp

/-! ## Everything in place -/

/-- The object has a condition of the type and it is true. -/
def hasTrueCondition (object : Unstructured) (conditionType : ConditionType) : Bool :=
  (object.conditions.bind fun conditions =>
    findStatusCondition conditions conditionType).any (·.status = .isTrue)

/-- Everything that belongs to a claim is in place; a disk may be in use by
Filesystems of the given names. -/
structure InPlace
    (cluster : Cluster) (fsc : FileSystemClaim) (users : List String) : Prop where
  devices : ((ownedBy cluster fsc .localDisk).map
    (·.specString "device")).toFinset = fsc.devices.toFinset
  nonempty : fsc.devices ≠ []
  localDisks : ∀ ld ∈ ownedBy cluster fsc .localDisk,
    hasTrueCondition ld .ready = true ∧
      (hasTrueCondition ld .used = true → ld.filesystem ∈ users)
  filesystem : ∃ fs, ownedBy cluster fsc .filesystem = [fs] ∧
    hasTrueCondition fs .success = true ∧ hasTrueCondition fs .healthy = true ∧
      fs.spec = some (buildFilesystemSpec
        ((ownedBy cluster fsc .localDisk).map (·.metadata.name)))
  storageClass : ∃ storageClass,
    cluster.storageClass? fsc.metadata.name = some storageClass ∧
      sameRelevantFields storageClass
        (buildStorageClass fsc fsc.metadata.name fsc.metadata.name) = true

/-- The names of the Filesystems of a claim. -/
def ownFilesystems (cluster : Cluster) (fsc : FileSystemClaim) : List String :=
  (ownedBy cluster fsc .filesystem).map (·.metadata.name)

/-! ## Health checks -/

theorem checkResourceHealthy_of_checkAll
    {resources : List Unstructured} {required : List ConditionType}
    {users : List String} {resource : Unstructured}
    (healthy : checkAllResourcesHealthy resources required users = none)
    (member : resource ∈ resources) :
    checkResourceHealthy resource required users = none := by
  unfold checkAllResourcesHealthy at healthy
  rw [List.findSome?_eq_none_iff] at healthy
  exact Option.map_eq_none_iff.mp (healthy resource member)

/-- Each required condition of a healthy resource passes its check. -/
theorem checkRequiredCondition_of_healthy
    {resource : Unstructured} {required : List ConditionType}
    {users : List String} {conditionType : ConditionType}
    (healthy : checkResourceHealthy resource required users = none)
    (member : conditionType ∈ required) :
    ∃ conditions, resource.conditions = some conditions ∧
      checkRequiredCondition resource conditions users conditionType = none := by
  unfold checkResourceHealthy at healthy
  cases found : resource.conditions with
  | none => simp [found] at healthy
  | some conditions =>
      rw [found] at healthy
      exact ⟨conditions, rfl, List.findSome?_eq_none_iff.mp healthy _ member⟩

theorem hasTrueCondition_of_checked
    {resource : Unstructured} {conditions : List Condition}
    {conditionType : ConditionType}
    (found : resource.conditions = some conditions)
    (checked : checkResourceCondition conditions conditionType .isTrue = none) :
    hasTrueCondition resource conditionType = true := by
  unfold checkResourceCondition at checked
  cases condition : findStatusCondition conditions conditionType with
  | none => simp [condition] at checked
  | some condition' =>
      simp only [condition, ite_eq_right_iff, reduceCtorEq, imp_false, ne_eq,
        not_not] at checked
      simp [hasTrueCondition, found, condition, checked]

/-- A healthy LocalDisk is ready, and if it is used then by one of the users. -/
theorem healthy_localDisk
    {ld : Unstructured} {users : List String}
    (healthy : checkResourceHealthy ld localDiskRequirements users = none) :
    hasTrueCondition ld .ready = true ∧
      (hasTrueCondition ld .used = true → ld.filesystem ∈ users) := by
  constructor
  · obtain ⟨conditions, found, checked⟩ :=
      checkRequiredCondition_of_healthy healthy
        (show ConditionType.ready ∈ localDiskRequirements by decide)
    exact hasTrueCondition_of_checked found (Option.map_eq_none_iff.mp checked)
  · obtain ⟨conditions, found, checked⟩ :=
      checkRequiredCondition_of_healthy healthy
        (show ConditionType.used ∈ localDiskRequirements by decide)
    intro used
    by_contra foreign
    cases condition : findStatusCondition conditions .used with
    | none => simp [checkRequiredCondition, condition] at checked
    | some condition' =>
        have isUsed : condition'.status = .isTrue := by
          simpa [hasTrueCondition, found, condition] using used
        simp only [checkRequiredCondition, condition, isUsed, if_true] at checked
        split at checked
        · cases checked
        · cases checked

/-- A healthy Filesystem is successful and healthy. -/
theorem healthy_filesystem
    {fs : Unstructured} {users : List String}
    (healthy : checkResourceHealthy fs filesystemRequirements users = none) :
    hasTrueCondition fs .success = true ∧ hasTrueCondition fs .healthy = true := by
  constructor
  · obtain ⟨conditions, found, checked⟩ :=
      checkRequiredCondition_of_healthy healthy
        (show ConditionType.success ∈ filesystemRequirements by decide)
    exact hasTrueCondition_of_checked found (Option.map_eq_none_iff.mp checked)
  · obtain ⟨conditions, found, checked⟩ :=
      checkRequiredCondition_of_healthy healthy
        (show ConditionType.healthy ∈ filesystemRequirements by decide)
    exact hasTrueCondition_of_checked found (Option.map_eq_none_iff.mp checked)

/-! ## Conditions that are true are confirmed or changed -/

/-- A true condition is not kept when it should be false. -/
theorem keepsCondition_eq_false
    {fsc : FileSystemClaim} {conditionType : ConditionType}
    (distinct : (fsc.conditions.map Condition.type).Nodup)
    (isTrue : isConditionTrue fsc conditionType = true)
    (reason : Reason) (message : String) :
    keepsCondition fsc conditionType .isFalse reason message = false := by
  obtain ⟨condition, found, status⟩ := find?_of_isConditionTrue distinct isTrue
  simp [keepsCondition, alreadyRecorded, found, status]

/-! ## What a step has found when the pass goes on -/

/-- When the step lets the pass go on, nothing has changed and the fact
holds. -/
def GoesOn
    (cluster : Cluster) (fact : Prop)
    (result : Except Failure Bool) (final : Cluster) : Prop :=
  result = .ok false → final = cluster ∧ fact

/-- A step that answers that it has written something ends the pass. -/
theorem goesOn_after {α : Type}
    {cluster : Cluster} {fact : Prop}
    (program : Act α) (state : Cluster) :
    Ensures free (do let _ ← program; return true)
      (GoesOn cluster fact) state :=
  ensures_bind_of_free (fun _ _ => trivial) program _ _ _
    (fun _ _ impossible => by cases impossible)
    (fun _ _ impossible => by cases impossible)

theorem goesOn_error
    {cluster : Cluster} {fact : Prop} (failure : Failure) (final : Cluster) :
    GoesOn cluster fact (.error failure) final := by
  intro impossible
  cases impossible

variable {cluster : Cluster} {fsc : FileSystemClaim}

theorem goesOn_report
    (state : Cluster) (conditionType : ConditionType) (status : ConditionStatus)
    (reason : Reason) (message : String) :
    Ensures free
      (updateConditionIfChanged fsc conditionType status reason message)
      (GoesOn state (keepsCondition fsc conditionType status reason message = true))
      state := by
  unfold updateConditionIfChanged
  simp only [ensures_ite, ensures_pure]
  refine ⟨fun recorded _ => ⟨rfl, by simp [keepsCondition, recorded]⟩,
    fun _ => ⟨fun migrated _ => ⟨rfl, ?_⟩, fun _ => goesOn_after _ _⟩⟩
  rw [keepsCondition, migrated, Bool.or_true]

theorem goesOn_handleFinalizers :
    Ensures free (handleFinalizers fsc) (GoesOn cluster True) cluster := by
  unfold handleFinalizers
  simp only [ensures_ite, ensures_pure]
  exact ⟨fun _ _ => ⟨rfl, trivial⟩, fun _ => ⟨fun _ => goesOn_after _ _,
    fun _ _ => ⟨rfl, trivial⟩⟩⟩

theorem goesOn_ensureLocalDisks
    (created : isConditionTrue fsc .localDiskCreated = true) :
    Ensures free (ensureLocalDisks fsc)
      (GoesOn cluster (ownedDevices (ownedBy cluster fsc .localDisk) =
        fsc.devices.toFinset)) cluster := by
  unfold ensureLocalDisks
  rw [if_pos created, ensures_bind, ensures_mapError]
  refine ensures_listOwnedResources admitsReads_free ?_
    fun failure _ _ _ => goesOn_error _ _
  simp only [Except.mapError, onSuccess_ok, ensures_ite,
    ensures_pure]
  exact ⟨fun _ => goesOn_after _ _, fun same _ => ⟨rfl, by simpa using same⟩⟩

theorem goesOn_syncLocalDiskConditions
    (distinct : (fsc.conditions.map Condition.type).Nodup)
    (validated : isConditionTrue fsc .deviceValidated = true)
    (created : isConditionTrue fsc .localDiskCreated = true) :
    Ensures free (syncLocalDiskConditions fsc)
      (GoesOn cluster (ownedBy cluster fsc .localDisk ≠ [] ∧
        ∀ ld ∈ ownedBy cluster fsc .localDisk,
          hasTrueCondition ld .ready = true ∧
            (hasTrueCondition ld .used = true →
              ld.filesystem ∈ fsc.metadata.name :: ownFilesystems cluster fsc)))
      cluster := by
  have kept := keepsCondition_eq_false distinct created
  have report : ∀ users : List String,
      (∀ user ∈ users, user ∈ fsc.metadata.name :: ownFilesystems cluster fsc) →
      ownedBy cluster fsc .localDisk ≠ [] →
      Ensures free
        (updateConditionIfChanged fsc .localDiskCreated
          (localDiskCondition (ownedBy cluster fsc .localDisk) users).1
          (localDiskCondition (ownedBy cluster fsc .localDisk) users).2.1
          (localDiskCondition (ownedBy cluster fsc .localDisk) users).2.2)
        (GoesOn cluster (ownedBy cluster fsc .localDisk ≠ [] ∧
          ∀ ld ∈ ownedBy cluster fsc .localDisk,
            hasTrueCondition ld .ready = true ∧
              (hasTrueCondition ld .used = true →
                ld.filesystem ∈
                  fsc.metadata.name :: ownFilesystems cluster fsc))) cluster := by
    intro users known nonempty
    refine (goesOn_report cluster _ _ _ _).mono ?_
    intro result final goesOn passes
    obtain ⟨unchanged, keeps⟩ := goesOn passes
    refine ⟨unchanged, nonempty, fun ld member => ?_⟩
    unfold localDiskCondition at keeps
    split at keeps
    next healthy =>
      have checked := healthy_localDisk (checkResourceHealthy_of_checkAll healthy member)
      exact ⟨checked.1, fun used => known _ (checked.2 used)⟩
    next => simp [kept] at keeps
  unfold syncLocalDiskConditions
  rw [ensures_bind]
  refine ensures_listOwnedResources admitsReads_free ?_
    fun failure _ _ _ => goesOn_error _ _
  simp only [onSuccess_ok, ensures_ite, ensures_bind,
    ensures_attempt]
  refine ⟨fun _ => ⟨fun _ => ?_, fun unvalidated => absurd validated unvalidated⟩,
    fun some => ?_⟩
  · refine (goesOn_report cluster _ _ _ _).mono ?_
    intro result final goesOn passes
    obtain ⟨_, keeps⟩ := goesOn passes
    simp [kept] at keeps
  · have nonempty : ownedBy cluster fsc .localDisk ≠ [] := by simpa using some
    refine ensures_listOwnedResources admitsReads_free ?_ ?_
    · rw [onSuccess_ok]
      exact report _ (fun user member => member) nonempty
    · intro failure _ _ _
      rw [onSuccess_ok]
      refine report _ (fun user member => ?_) nonempty
      rw [List.mem_singleton.mp member]
      exact List.mem_cons_self

theorem goesOn_ensureFileSystem
    (created : isConditionTrue fsc .localDiskCreated = true)
    (nonempty : ownedBy cluster fsc .localDisk ≠ []) :
    Ensures free (ensureFileSystem fsc)
      (GoesOn cluster (∃ fs, ownedBy cluster fsc .filesystem = [fs] ∧
        fs.spec = some (buildFilesystemSpec
          ((ownedBy cluster fsc .localDisk).map (·.metadata.name))))) cluster := by
  unfold ensureFileSystem
  rw [if_neg (by simp [created]), ensures_bind, ensures_mapError]
  refine ensures_listOwnedResources admitsReads_free ?_
    fun failure _ _ _ => goesOn_error _ _
  simp only [Except.mapError, onSuccess_ok]
  rw [if_neg (by simpa using nonempty), ensures_bind,
    ensures_mapError]
  refine ensures_listOwnedResources admitsReads_free ?_
    fun failure _ _ _ => goesOn_error _ _
  simp only [Except.mapError, onSuccess_ok]
  match owned : ownedBy cluster fsc .filesystem with
  | [] =>
      refine ensures_bind_of_free (fun _ _ => trivial) _ _ _ _
        (fun _ _ => goesOn_error _ _) ?_
      rintro (failure | ⟨⟩) final
      · exact goesOn_after _ _
      · exact goesOn_after _ _
  | [fs] =>
      simp only [ensures_ite, ensures_pure]
      refine ⟨fun _ => goesOn_after _ _, fun same _ => ⟨rfl, fs, rfl, ?_⟩⟩
      simpa using same
  | _ :: _ :: _ => exact goesOn_after _ _

theorem goesOn_syncFilesystemConditions
    (distinct : (fsc.conditions.map Condition.type).Nodup)
    (diskCreated : isConditionTrue fsc .localDiskCreated = true)
    (created : isConditionTrue fsc .fileSystemCreated = true) :
    Ensures free (syncFilesystemConditions fsc)
      (GoesOn cluster (∀ fs ∈ ownedBy cluster fsc .filesystem,
        hasTrueCondition fs .success = true ∧ hasTrueCondition fs .healthy = true))
      cluster := by
  have kept := keepsCondition_eq_false distinct created
  unfold syncFilesystemConditions
  rw [if_neg (by simp [diskCreated]), ensures_bind, ensures_mapError]
  refine ensures_listOwnedResources admitsReads_free ?_
    fun failure _ _ _ => goesOn_error _ _
  simp only [Except.mapError, onSuccess_ok]
  refine (goesOn_report cluster _ _ _ _).mono ?_
  intro result final goesOn passes
  obtain ⟨unchanged, keeps⟩ := goesOn passes
  refine ⟨unchanged, fun fs member => ?_⟩
  unfold filesystemCondition at keeps
  split at keeps
  next => simp [kept] at keeps
  next =>
    split at keeps
    next healthy =>
      exact healthy_filesystem (checkResourceHealthy_of_checkAll healthy member)
    next => simp [kept] at keeps

/-! ## The StorageClass -/

theorem sameEntries_refl (entries : StringMap) : entries.sameEntries entries = true := by
  rw [StringMap.sameEntries_iff]
  exact fun _ => rfl

/-- A class as the API server stores it has the fields it was created with. -/
theorem sameRelevantFields_created (metadata : ObjectMeta) (desired : StorageClass)
    (annotations : metadata.annotations = desired.metadata.annotations)
    (labels : metadata.labels = desired.metadata.labels) :
    sameRelevantFields { desired with metadata := metadata } desired = true := by
  simp [sameRelevantFields, annotations, labels, sameEntries_refl]

/-- The StorageClass of the claim exists with the fields it should have, and
everything else is as it was. -/
structure Classed (cluster final : Cluster) (fsc : FileSystemClaim) : Prop where
  objects : ∀ kind, final.objects kind = cluster.objects kind
  storageClass : ∃ storageClass,
    final.storageClass? fsc.metadata.name = some storageClass ∧
      sameRelevantFields storageClass
        (buildStorageClass fsc fsc.metadata.name fsc.metadata.name) = true

theorem classed_after_create
    (absent : cluster.storageClass? fsc.metadata.name = none) :
    Classed cluster
      (cluster.afterCall (.createStorageClass
        (buildStorageClass fsc fsc.metadata.name fsc.metadata.name))) fsc where
  objects := fun kind => cluster.objects_afterCall (by simp [Call.part?])
  storageClass := by
    have named : (buildStorageClass fsc fsc.metadata.name fsc.metadata.name).name =
        fsc.metadata.name := rfl
    simp only [Cluster.afterCall, Cluster.answer, Cluster.createStorageClass, named,
      absent]
    refine ⟨{ buildStorageClass fsc fsc.metadata.name fsc.metadata.name with
        metadata := cluster.identify
          (buildStorageClass fsc fsc.metadata.name fsc.metadata.name).metadata },
      ?_, sameRelevantFields_created _ _ rfl rfl⟩
    unfold Cluster.storageClass? at absent ⊢
    rw [Registry.find?_append, absent, Option.none_or, Registry.find?_cons]
    exact if_pos rfl

theorem goesOn_ensureStorageClass
    (created : isConditionTrue fsc .fileSystemCreated = true) :
    Ensures free (ensureStorageClass fsc)
      (fun result final => result = .ok false → Classed cluster final fsc)
      cluster := by
  have failed : ∀ (failure : Failure) (final : Cluster),
      (.error failure : Except Failure Bool) = .ok false →
        Classed cluster final fsc :=
    fun _ _ impossible => by cases impossible
  unfold ensureStorageClass
  rw [if_neg (by simp [created])]
  simp only [ensures_bind, ensures_attempt]
  refine ensures_read admitsReads_free rfl (fun pick => ?_) ?_
  · cases found : cluster.storageClass? fsc.metadata.name with
    | none =>
        simp only [Cluster.answer, found, onSuccess_ok,
          ensures_ite, ensures_bind, ensures_attempt,
          ensures_throw]
        refine ⟨fun _ => ?_, fun present => absurd rfl present⟩
        have reported : ∀ (err : Failure) (final : Cluster),
            Ensures free
              (do handleResourceCreationError fsc .storageClass err; return true)
              (fun result final => result = .ok false → Classed cluster final fsc)
              final := by
          intro err final
          exact ensures_bind_of_free (fun _ _ => trivial) _ _ _ _ failed
            fun _ _ impossible => by cases impossible
        refine ensures_request trivial (fun pick => ?_)
          (fun failure _ _ => reported failure _)
          (fun failure _ _ => reported failure _)
        rcases (cluster.answer pick (.createStorageClass
            (buildStorageClass fsc fsc.metadata.name fsc.metadata.name))).2 with
          failure | ⟨⟩
        · exact reported failure _
        · refine (goesOn_report _ _ _ _ _).mono fun result final goesOn passes => ?_
          rw [(goesOn passes).1]
          exact classed_after_create found
    | some current =>
        simp only [Cluster.answer, found, onSuccess_ok,
          ensures_bind, ensures_mapError]
        unfold reconcileExistingStorageClass
        simp only [ensures_ite, ensures_pure]
        refine ⟨fun same => ?_, fun _ => ?_⟩
        · simp only [Except.mapError, onSuccess_ok, Bool.false_or,
            ensures_bind]
          refine (goesOn_report cluster _ _ _ _).mono ?_
          rintro (failure | changed) final goesOn
          · exact failed failure final
          · intro passes
            have unchanged : changed = false := by
              simpa [onSuccess] using passes
            rw [(goesOn (by rw [unchanged])).1]
            exact ⟨fun _ => rfl, current, found, same⟩
        · refine ensures_bind_of_free (fun _ _ => trivial) _ _ _ _
            (fun _ _ => failed _ _) fun _ final => ?_
          simp only [ensures_pure, Except.mapError, onSuccess_ok]
          exact ensures_bind_of_free (fun _ _ => trivial) _ _ _ _ failed
            fun _ _ impossible => by cases impossible
  · intro failure transient _
    simp only [onSuccess_ok, ensures_ite, ensures_throw]
    exact ⟨fun absent => absurd absent transient.1, fun _ => failed _ _⟩

/-! ## The pass -/

theorem goesOn_handleDeletion :
    Ensures free (handleDeletion fsc)
      (fun result final => ∀ verdict, result = .ok verdict →
        verdict.stops = false → final = cluster) cluster := by
  by_cases leaving : isDeleting fsc = true ∧ hasFinalizer fsc = true
  · have free_safe : ∀ {α : Type} (program : Act α),
        Safe free (fun _ => True) program := fun program state _ =>
      (Program.ensures_true (fun _ _ => trivial) program.run state).mono
        fun _ _ _ => ⟨trivial, trivial⟩
    have allowed : AllowsTeardown free (fun _ => True) fsc :=
      ⟨readsSafely_of_admits admitsReads_free, fun _ _ => free_safe _, free_safe _,
        fun _ _ => free_safe _, free_safe _⟩
    refine (safe_handleDeletion leaving.1 leaving.2 allowed cluster trivial).mono ?_
    intro result final ends verdict equal passes
    rw [ends.1 verdict equal] at passes
    cases passes
  · have goesOn : isDeleting fsc = true → hasFinalizer fsc = false := by
      intro deleting
      simpa [deleting] using leaving
    rw [handleDeletion_eq_pure goesOn, ensures_pure]
    exact fun _ _ _ => rfl

/-- Provisioning that goes on to the end has found or put everything in
place. -/
theorem provision_inPlace
    (distinct : (fsc.conditions.map Condition.type).Nodup)
    (devices : ∀ ld ∈ ownedBy cluster fsc .localDisk, ld.specString "device" ≠ "")
    (ready : readyNow fsc = true) :
    Ensures free (provision fsc)
      (fun result final => result = .ok false →
        InPlace final fsc (fsc.metadata.name :: ownFilesystems final fsc))
      cluster := by
  simp only [readyNow, Bool.and_eq_true] at ready
  obtain ⟨⟨⟨validated, diskCreated⟩, fsCreated⟩, -⟩ := ready
  have goOn : ∀ {fact : Prop} {next : Act Bool},
      (fact → Ensures free next (fun result final => result = .ok false →
        InPlace final fsc (fsc.metadata.name :: ownFilesystems final fsc)) cluster) →
      ∀ result final, GoesOn cluster fact result final →
        onSuccess
          (fun wrote => Ensures free (if wrote = true then return true else next)
            fun result final => result = .ok false →
              InPlace final fsc (fsc.metadata.name :: ownFilesystems final fsc))
          (fun (result : Except Failure Bool) final => result = .ok false →
            InPlace final fsc (fsc.metadata.name :: ownFilesystems final fsc))
          result final := by
    rintro fact next shown (failure | _ | _) final goesOn
    · exact fun impossible => by cases impossible
    · obtain ⟨rfl, holds⟩ := goesOn rfl
      exact shown holds
    · exact fun impossible => by cases impossible
  unfold provision
  rw [ensures_bind]
  refine (goesOn_ensureLocalDisks diskCreated).mono (goOn fun sameDevices => ?_)
  rw [ensures_bind]
  refine (goesOn_syncLocalDiskConditions distinct validated diskCreated).mono
    (goOn fun localDisks => ?_)
  rw [ensures_bind]
  refine (goesOn_ensureFileSystem diskCreated localDisks.1).mono
    (goOn fun filesystem => ?_)
  rw [ensures_bind]
  refine (goesOn_syncFilesystemConditions distinct diskCreated fsCreated).mono
    (goOn fun healthy => ?_)
  refine (goesOn_ensureStorageClass fsCreated).mono fun result final classed passes => ?_
  obtain ⟨objects, storageClass⟩ := classed passes
  have owned : ∀ kind, ownedBy final fsc kind = ownedBy cluster fsc kind := by
    intro kind
    rw [ownedBy, objects kind, ownedBy]
  have allDevices : ownedDevices (ownedBy cluster fsc .localDisk) =
      ((ownedBy cluster fsc .localDisk).map (·.specString "device")).toFinset := by
    unfold ownedDevices
    rw [List.filter_eq_self.mpr]
    intro device member
    obtain ⟨ld, owned, rfl⟩ := List.mem_map.mp member
    simpa using devices ld owned
  refine ⟨?_, ?_, ?_, ?_, storageClass⟩
  · rw [owned, ← allDevices, sameDevices]
  · intro none
    rw [none, allDevices] at sameDevices
    simp [localDisks.1] at sameDevices
  · intro ld member
    rw [owned] at member
    unfold ownFilesystems
    rw [owned]
    exact localDisks.2 ld member
  · obtain ⟨fs, only, spec⟩ := filesystem
    have isHealthy := healthy fs (by simp [only])
    exact ⟨fs, by rw [owned, only], isHealthy.1, isHealthy.2, by rw [owned, spec]⟩

theorem untilReady_inPlace
    (r : FileSystemClaimReconciler)
    (distinct : (fsc.conditions.map Condition.type).Nodup)
    (devices : ∀ ld ∈ ownedBy cluster fsc .localDisk, ld.specString "device" ≠ "")
    (ready : readyNow fsc = true) :
    Ensures free (untilReady r fsc)
      (fun result final => result = .ok none →
        InPlace final fsc (fsc.metadata.name :: ownFilesystems final fsc))
      cluster := by
  unfold untilReady
  rw [ensures_bind]
  refine goesOn_handleFinalizers.mono ?_
  rintro (failure | _ | _) final goesOn
  · exact fun impossible => by cases impossible
  · obtain ⟨rfl, -⟩ := goesOn rfl
    simp only [onSuccess_ok, Bool.false_eq_true, if_false,
      ensures_bind]
    refine goesOn_handleDeletion.mono ?_
    rintro (failure | verdict) final goesOn
    · exact fun impossible => by cases impossible
    · simp only [onSuccess_ok, ensures_ite, ensures_pure,
        ensures_bind]
      refine ⟨?_, fun noDelay => ⟨?_, fun unchanged => ?_⟩⟩
      · exact fun _ impossible => by cases impossible
      · exact fun _ impossible => by cases impossible
      have same := goesOn verdict rfl (by simp [Verdict.stops, noDelay, unchanged])
      rw [same]
      refine (provision_inPlace distinct devices ready).mono ?_
      rintro (failure | _ | _) final inPlace
      · exact fun impossible => by cases impossible
      · exact fun _ => inPlace rfl
      · exact fun impossible => by cases impossible
  · exact fun impossible => by cases impossible

/-- The steps of a pass up to `syncFSCReady`, run on the claim as stored. -/
abbrev untilReadyRun
    (r : FileSystemClaimReconciler) (fsc : FileSystemClaim)
    (choices : Nat → Choice) (cluster : Cluster) :
    Outcome apiServer (Except Failure (Option Result)) :=
  (untilReady r fsc).run.run apiServer choices cluster

/-- If a pass gets to `syncFSCReady` and finds the claim ready, everything is
in place at that moment. -/
theorem ready_inPlace
    (r : FileSystemClaimReconciler)
    (cluster : Cluster)
    (fsc : FileSystemClaim)
    (choices : Nat → Choice)
    (distinct : (fsc.conditions.map Condition.type).Nodup)
    (devices : ∀ ld ∈ ownedBy cluster fsc .localDisk, ld.specString "device" ≠ "")
    (reached : (untilReadyRun r fsc choices cluster).value = .ok none)
    (ready : readyNow fsc = true) :
    InPlace (untilReadyRun r fsc choices cluster).state fsc
      (fsc.metadata.name ::
        ownFilesystems (untilReadyRun r fsc choices cluster).state fsc) :=
  (Program.Ensures.sound (untilReady_inPlace r distinct devices ready) choices
    fun _ _ => trivial).2 reached

/-- A provisioned claim is found ready, with everything in place. -/
theorem ready_inPlace_readyCluster :
    InPlace (untilReadyRun {} readyClaim calm readyCluster).state readyClaim
      (readyClaim.metadata.name ::
        ownFilesystems (untilReadyRun {} readyClaim calm readyCluster).state
          readyClaim) :=
  ready_inPlace {} readyCluster readyClaim calm (by decide) (by decide)
    (by decide) (by decide)

/-! ## States in which Ready says less -/

/-- `Ready` as one would read it: each used disk is used by a Filesystem that
the claim owns, and no disk lacks its device. -/
def ReadyIsSound (cluster : Cluster) (fsc : FileSystemClaim) : Prop :=
  (untilReadyRun {} fsc calm cluster).value = .ok none → readyNow fsc = true →
    InPlace (untilReadyRun {} fsc calm cluster).state fsc
      (ownFilesystems (untilReadyRun {} fsc calm cluster).state fsc)

/-- A claim with a second condition for its LocalDisks, which is not true. -/
def twofoldClaim : FileSystemClaim :=
  { readyClaim with
    conditions :=
      { type := .localDiskCreated, status := .isFalse
        reason := .localDiskCreationInProgress
        message := "LocalDisk uuid.1: Ready condition not found" } ::
      readyClaim.conditions }

/-- Its LocalDisk is not ready. -/
def twofoldCluster : Cluster :=
  { readyCluster with
    claims := [twofoldClaim]
    localDisks := [{ readyLocalDisk with
      conditions := some [metCondition .used] }] }

/-- A provisioned claim with two LocalDisks. -/
def blankClaim : FileSystemClaim :=
  { readyClaim with
    conditions := readyClaim.conditions.map fun condition =>
      if condition.type = .localDiskCreated then
        { condition with message :=
          "All 2 LocalDisks are Ready; if used, they are used by this Filesystem." }
      else condition }

/-- One of the LocalDisks has no device. -/
def blankCluster : Cluster :=
  { readyCluster with
    claims := [blankClaim]
    localDisks := [readyLocalDisk,
      { ownedObject readyClaim "blank" (.object []) with
        conditions := readyLocalDisk.conditions, filesystem := "fs" }]
    filesystems := [{ readyFilesystem with
      spec := some (buildFilesystemSpec ["uuid.1", "blank"]) }] }

/-- A claim whose Filesystem has another name than the claim, while its disk is
used by a Filesystem with the claim's name. -/
def renamedCluster : Cluster :=
  { readyCluster with
    filesystems := [{ readyFilesystem with
      metadata := { readyFilesystem.metadata with name := "other" } }] }

/-- Conditions of one type twice, a disk without a device, and a Filesystem
that only shares the name of the claim: the claim counts as ready. -/
theorem ready_says_less :
    ¬ ReadyIsSound twofoldCluster twofoldClaim ∧
      ¬ ReadyIsSound blankCluster blankClaim ∧
        ¬ ReadyIsSound renamedCluster readyClaim := by
  refine ⟨fun sound => ?_, fun sound => ?_, fun sound => ?_⟩
  · have localDisks := (sound (by decide) (by decide)).localDisks
    revert localDisks
    decide
  · have devices := (sound (by decide) (by decide)).devices
    revert devices
    decide
  · have localDisks := (sound (by decide) (by decide)).localDisks
    revert localDisks
    decide

end FusionAccess
