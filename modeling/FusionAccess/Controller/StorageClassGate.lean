import FusionAccess.Controller.CreationLoop

/-!
# The gate before the StorageClass

The StorageClass is created once the claim remembers that its Filesystem is
ready. The memory is brought up to date only while the LocalDisks count as
created, so after they have degraded a pass trusts a memory that may be out of
date.
-/

namespace FusionAccess

open Kubernetes Interaction Fallible

/-- The claim owns a Filesystem that is successful and healthy. -/
def ownsHealthyFilesystem (cluster : Cluster) (fsc : FileSystemClaim) : Bool :=
  (ownedBy cluster fsc .filesystem).any fun fs =>
    hasTrueCondition fs .success && hasTrueCondition fs .healthy

/-- The call creates a StorageClass. -/
def createsStorageClass : Call → Bool
  | .createStorageClass _ => true
  | _ => false

/-- A pass creates a StorageClass only if the claim that it reads owns a healthy
Filesystem. -/
def GatesStorageClass
    (r : FileSystemClaimReconciler) (pass : Pass apiServer NamespacedName) : Prop :=
  (∃ event ∈ passLog r pass, createsStorageClass event.request = true) →
    ∃ fsc ∈ pass.start.claim? pass.index, ownsHealthyFilesystem pass.start fsc = true

/-! ## Steps that let a pass go on -/

/-- The loop over the devices comes to a LocalDisk that is there, or there are no
devices at all. -/
def comesToLocalDisk
    (cluster : Cluster) (fsc : FileSystemClaim) (nodeName : String) :
    List String → List String → Bool
  | made, [] => made.isEmpty
  | made, devicePath :: devices =>
      match localDiskName? cluster devicePath nodeName with
      | none => false
      | some name =>
          isThere cluster fsc name || name ∈ made ||
            comesToLocalDisk cluster fsc nodeName (made ++ [name]) devices

/-- `ensureLocalDisks` may let the pass go on. -/
def MayPassLocalDisks (cluster : Cluster) (fsc : FileSystemClaim) : Prop :=
  localDisksGoOn cluster fsc = true ∨
    isConditionTrue fsc .localDiskCreated = false ∧ awaitsLocalDisks fsc = false ∧
      isConditionTrue fsc .deviceValidated = true ∧
      ∃ nodeName ∈ storageNodes cluster,
        comesToLocalDisk cluster fsc nodeName [] fsc.devices = true

/-- A pass on the claim gets to the creation of its StorageClass by a memory that it
does not bring up to date. -/
structure TrustsMemory (cluster : Cluster) (fsc : FileSystemClaim) : Prop where
  provisions : isDeleting fsc = !hasFinalizer fsc
  localDisks : MayPassLocalDisks cluster fsc
  localDiskCondition :
    keepsLocalDiskCondition cluster fsc (ownFilesystems cluster fsc) = true ∨
      keepsLocalDiskCondition cluster fsc [] = true
  outdated : isConditionTrue fsc .localDiskCreated = false ∨
    ¬ (fsc.conditions.map Condition.type).Nodup
  remembered : isConditionTrue fsc .fileSystemCreated = true
  missing : cluster.storageClass? fsc.metadata.name = none

/-- If the pass trusts the memory of its claim, the Filesystem is healthy. -/
def MemoryHolds (pass : Pass apiServer NamespacedName) : Prop :=
  ∀ fsc ∈ pass.start.claim? pass.index,
    TrustsMemory pass.start fsc → ownsHealthyFilesystem pass.start fsc = true

/-- A memory that the pass brings up to date is right. -/
theorem ownsHealthyFilesystem_of_kept
    {cluster : Cluster} {fsc : FileSystemClaim}
    (distinct : (fsc.conditions.map Condition.type).Nodup)
    (created : isConditionTrue fsc .localDiskCreated = true)
    (remembered : isConditionTrue fsc .fileSystemCreated = true)
    (kept : keepsFilesystemCondition cluster fsc = true) :
    ownsHealthyFilesystem cluster fsc = true := by
  have outdated := keepsCondition_eq_false distinct remembered
  unfold keepsFilesystemCondition filesystemCondition at kept
  rw [created, Bool.not_true, Bool.false_or] at kept
  by_cases unowned : (ownedBy cluster fsc .filesystem).length = 0
  · rw [if_pos unowned, outdated] at kept
    cases kept
  rw [if_neg unowned] at kept
  cases healthy : checkAllResourcesHealthy (ownedBy cluster fsc .filesystem)
      filesystemRequirements [] with
  | some failing =>
      rw [healthy, outdated] at kept
      cases kept
  | none =>
      obtain ⟨fs, member⟩ := List.exists_mem_of_length_pos (Nat.pos_of_ne_zero unowned)
      have checked := healthy_filesystem (checkResourceHealthy_of_checkAll healthy member)
      unfold ownsHealthyFilesystem
      rw [List.any_eq_true]
      refine ⟨fs, member, ?_⟩
      rw [checked.1, checked.2]
      rfl

/-! ## LocalDisks that the loop adds -/

/-- LocalDisks of the given names have been created for the claim; they have no
conditions yet, and all other objects are the same. -/
structure Grown
    (start : Cluster) (fsc : FileSystemClaim) (made : List String) (state : Cluster) :
    Prop where
  surroundings : Cluster.SameSurroundings start state
  there : ∀ name, isThere state fsc name = true ↔
    isThere start fsc name = true ∨ name ∈ made
  owned : ∃ added, ownedBy state fsc .localDisk = ownedBy start fsc .localDisk ++ added ∧
    ∀ ld ∈ added, ld.conditions = none
  filesystems : state.objects .filesystem = start.objects .filesystem
  storageClasses : state.storageClasses = start.storageClasses

section Grown

variable {start state : Cluster} {fsc : FileSystemClaim} {made : List String}
  {nodeName name : String}

theorem Grown.refl (start : Cluster) (fsc : FileSystemClaim) : Grown start fsc [] start where
  surroundings := Cluster.SameSurroundings.refl start
  there := by simp
  owned := ⟨[], by simp⟩
  filesystems := rfl
  storageClasses := rfl

/-- Status writes leave all that alone. -/
theorem Grown.elsewhere
    {call : Call}
    (grown : Grown start fsc made state)
    (claims : call.part? = some .claims) :
    Grown start fsc made (state.afterCall call) where
  surroundings := grown.surroundings.trans (Cluster.sameSurroundings_afterCall _ _)
  there := by
    intro name
    rw [isThere, Cluster.object?, state.objects_afterCall (by simp [claims])]
    exact grown.there name
  owned := by
    rw [ownedBy_afterCall (by simp [claims])]
    exact grown.owned
  filesystems := by
    rw [state.objects_afterCall (by simp [claims])]
    exact grown.filesystems
  storageClasses := by
    rw [state.storageClasses_afterCall (by simp [claims])]
    exact grown.storageClasses

theorem allowsReports_grown
    (reports : ConditionType → ConditionStatus → Reason → Prop) :
    AllowsReports free (Grown start fsc made) fsc reports :=
  allowsReports_of_patch admitsReads_free fun _ _ _ grown _ _ =>
    ⟨trivial, grown.elsewhere rfl⟩

/-- The creation of a LocalDisk adds it. -/
theorem Grown.create
    (grown : Grown start fsc made state)
    (free : state.object? .localDisk ⟨fsc.metadata.ns, name⟩ = none)
    (spec : Value) :
    Grown start fsc (made ++ [name])
      (state.afterCall (.create .localDisk (ownedObject fsc name spec))) where
  surroundings := grown.surroundings.trans (Cluster.sameSurroundings_afterCall _ _)
  there := by
    intro other
    rw [isThere, object?_create free, List.mem_append, List.mem_singleton]
    by_cases same : other = name
    · rw [if_pos (by rw [same]), same]
      simp [free]
    · rw [if_neg (by simpa using same), Option.or_none]
      have earlier := grown.there other
      rw [isThere] at earlier
      simp [earlier, same]
  owned := by
    obtain ⟨added, owned, fresh⟩ := grown.owned
    rw [ownedBy_create free, owned, List.append_assoc]
    refine ⟨_, rfl, ?_⟩
    intro ld member
    rcases List.mem_append.mp member with earlier | new
    · exact fresh ld earlier
    · rw [List.mem_singleton.mp new]
      rfl
  filesystems := by
    rw [state.objects_afterCall (by simp [Call.part?])]
    exact grown.filesystems
  storageClasses := by
    rw [state.storageClasses_afterCall (by simp [Call.part?])]
    exact grown.storageClasses

/-- A LocalDisk that is not healthy decides what is reported of those behind it. -/
theorem localDiskCondition_append_of_failing
    {owned : List Unstructured} {users : List String}
    (failing : checkAllResourcesHealthy owned localDiskRequirements users ≠ none)
    (others : List Unstructured) :
    localDiskCondition (owned ++ others) users = localDiskCondition owned users := by
  obtain ⟨failure, found⟩ := Option.ne_none_iff_exists'.mp failing
  have same : checkAllResourcesHealthy (owned ++ others) localDiskRequirements users =
      some failure := by
    unfold checkAllResourcesHealthy at found ⊢
    rw [List.findSome?_append, found, Option.some_or]
  unfold localDiskCondition
  rw [same, found]

/-- A LocalDisk without conditions behind healthy ones counts as in progress. -/
theorem localDiskCondition_append_of_healthy
    {owned others : List Unstructured} {users : List String} {ld : Unstructured}
    (healthy : checkAllResourcesHealthy owned localDiskRequirements users = none)
    (fresh : ld.conditions = none) :
    ∃ message, localDiskCondition (owned ++ ld :: others) users =
      (.isFalse, .localDiskCreationInProgress, message) := by
  have pending : checkResourceHealthy ld localDiskRequirements users =
      some ⟨"status.conditions missing", false⟩ := by
    unfold checkResourceHealthy
    rw [fresh]
  have first : checkAllResourcesHealthy (owned ++ ld :: others) localDiskRequirements users =
      some (ld.metadata.name, ⟨"status.conditions missing", false⟩) := by
    unfold checkAllResourcesHealthy at healthy ⊢
    rw [List.findSome?_append, healthy, List.findSome?_cons, pending]
    rfl
  unfold localDiskCondition
  rw [first]
  exact ⟨_, rfl⟩

theorem keepsLocalDiskCondition_of_nonempty
    {users : List String}
    (nonempty : ownedBy state fsc .localDisk ≠ []) :
    keepsLocalDiskCondition state fsc users =
      keepsCondition fsc .localDiskCreated
        (localDiskCondition (ownedBy state fsc .localDisk) (fsc.metadata.name :: users)).1
        (localDiskCondition (ownedBy state fsc .localDisk) (fsc.metadata.name :: users)).2.1
        (localDiskCondition (ownedBy state fsc .localDisk)
          (fsc.metadata.name :: users)).2.2 := by
  unfold keepsLocalDiskCondition wantedLocalDiskCondition
  rw [if_neg nonempty, List.isEmpty_eq_false_iff.mpr nonempty, Bool.false_and,
    Bool.false_or]

/-- A LocalDisk that has just been created counts as in progress, so the condition
is kept only if it was kept before. -/
theorem Grown.keepsLocalDiskCondition
    {users : List String}
    (grown : Grown start fsc made state)
    (notAwaiting : awaitsLocalDisks fsc = false)
    (kept : keepsLocalDiskCondition state fsc users = true) :
    keepsLocalDiskCondition start fsc users = true := by
  obtain ⟨added, owned, fresh⟩ := grown.owned
  cases added with
  | nil =>
      rw [List.append_nil] at owned
      simpa only [FusionAccess.keepsLocalDiskCondition, wantedLocalDiskCondition, owned]
        using kept
  | cons ld others =>
      rw [keepsLocalDiskCondition_of_nonempty (by simp [owned]), owned] at kept
      by_cases healthy : checkAllResourcesHealthy (ownedBy start fsc .localDisk)
          localDiskRequirements (fsc.metadata.name :: users) = none
      · obtain ⟨message, pending⟩ := @localDiskCondition_append_of_healthy _ others _ ld
          healthy (fresh ld List.mem_cons_self)
        rw [pending] at kept
        have awaits := hasConditionWithReason_of_keepsCondition kept
        rw [awaitsLocalDisks, awaits] at notAwaiting
        cases notAwaiting
      · rw [localDiskCondition_append_of_failing healthy] at kept
        have some : ownedBy start fsc .localDisk ≠ [] := by
          intro none
          rw [none] at healthy
          exact healthy rfl
        rw [keepsLocalDiskCondition_of_nonempty some]
        exact kept

end Grown

/-! ## The loop and the first step -/

section Loop

variable {start state : Cluster} {fsc : FileSystemClaim} {made : List String}
  {nodeName : String}

/-- When the loop lets the pass go on it has come to a LocalDisk that is there, and
has only created LocalDisks before. -/
theorem passes_createLocalDisks
    (devices : List String) (requeue : Bool)
    (requeues : requeue = false → made = [])
    (grown : Grown start fsc made state) :
    Ensures free (createLocalDisks fsc nodeName devices requeue)
      (Passes fun final => comesToLocalDisk start fsc nodeName made devices = true ∧
        ∃ made, Grown start fsc made final) state := by
  induction devices generalizing made requeue state with
  | nil =>
      rw [createLocalDisks, ensures_pure]
      intro passes
      refine ⟨?_, made, grown⟩
      rw [comesToLocalDisk, requeues (by simpa using passes)]
      rfl
  | cons devicePath devices inductionHypothesis =>
      have sameName := localDiskName?_of_sameSurroundings grown.surroundings devicePath
        nodeName
      apply ensures_createLocalDisks_cons admitsReads_free
      · intro faulty failure impossible
        cases impossible
      · intro unknown err
        exact passes_of_ends (goesOn_after _ _)
      · intro name named present passes
        rw [sameName] at named
        refine ⟨?_, made, grown⟩
        simp only [comesToLocalDisk, named, Bool.or_eq_true, decide_eq_true_eq]
        exact Or.inl ((grown.there name).mp present)
      · intro name named free
        rw [sameName] at named
        rw [ensures_bind, ensures_attempt]
        apply ensures_createResourceWithOwnership trivial
        · intro _
          rw [onSuccess_ok]
          dsimp only
          rw [ensures_bind]
          refine Ensures.mono (safe_updateConditionIfChanged
            (allowsReports_grown (ofPass (reportsFailure .localDisk)))
            ⟨⟨rfl, Or.inl rfl⟩, by simp⟩ _ _ (grown.create free _)) ?_
          rintro (failure | changed) final ⟨-, grownMore⟩
          · intro impossible
            cases impossible
          · rw [onSuccess_ok]
            refine Ensures.mono (inductionHypothesis true (by simp) grownMore) ?_
            intro result final passes goesOn
            obtain ⟨comes, grownFinal⟩ := passes goesOn
            refine ⟨?_, grownFinal⟩
            simp only [comesToLocalDisk, named, comes, Bool.or_true]
        · intro object taken failure
          exact passes_of_ends (goesOn_after _ _)
        · intro failure call transient mayFail
          exact passes_of_ends (goesOn_after _ _)
        · intro failure call transient mayFail
          exact passes_of_ends (goesOn_after _ _)

/-- Where the pass may be after the first step: nothing has changed, or the loop
has created LocalDisks. -/
def BehindLocalDisks (start : Cluster) (fsc : FileSystemClaim) (state : Cluster) : Prop :=
  MayPassLocalDisks start fsc ∧
    (state = start ∨ isConditionTrue fsc .localDiskCreated = false ∧
      awaitsLocalDisks fsc = false ∧ ∃ made, Grown start fsc made state)

theorem passes_ensureLocalDisks :
    Ensures free (ensureLocalDisks fsc) (Passes (BehindLocalDisks start fsc)) start := by
  apply ensures_ensureLocalDisks_exits admitsReads_free
  · intro faulty failure impossible
    cases impossible
  · intro created same passes
    refine ⟨Or.inl ?_, Or.inl rfl⟩
    rw [localDisksGoOn, if_pos created, same]
  · intro created modified
    exact passes_of_ends (goesOn_after _ _)
  · intro notCreated awaits passes
    refine ⟨Or.inl ?_, Or.inl rfl⟩
    rw [localDisksGoOn, if_neg (by simp [notCreated]), awaits]
  · intro notCreated notAwaiting invalid
    apply passes_of_ends
    apply goesOn_afterAttempt
    rintro (failure | _) final
    · exact goesOn_after _ _
    · exact goesOn_after _ _
  · intro notCreated notAwaiting validated
    constructor
    · intro nodeless err
      exact passes_of_ends (goesOn_after _ _)
    · intro nodeName drawn _
      refine Ensures.mono (passes_createLocalDisks fsc.devices false (fun _ => rfl)
        (Grown.refl start fsc)) ?_
      intro result final passes goesOn
      obtain ⟨comes, grown⟩ := passes goesOn
      refine ⟨Or.inr ⟨notCreated, notAwaiting, validated, nodeName, drawn, comes⟩, ?_⟩
      exact Or.inr ⟨notCreated, notAwaiting, grown⟩

theorem BehindLocalDisks.filesystems (behind : BehindLocalDisks start fsc state) :
    state.objects .filesystem = start.objects .filesystem := by
  rcases behind.2 with rfl | ⟨-, -, _, grown⟩
  · rfl
  · exact grown.filesystems

theorem BehindLocalDisks.ownedFilesystems (behind : BehindLocalDisks start fsc state) :
    ownedBy state fsc .filesystem = ownedBy start fsc .filesystem := by
  unfold ownedBy
  rw [behind.filesystems]

theorem BehindLocalDisks.storageClass? (behind : BehindLocalDisks start fsc state)
    (name : String) : state.storageClass? name = start.storageClass? name := by
  rcases behind.2 with rfl | ⟨-, -, _, grown⟩
  · rfl
  · unfold Cluster.storageClass?
    rw [grown.storageClasses]

theorem BehindLocalDisks.keepsLocalDiskCondition
    {users : List String}
    (behind : BehindLocalDisks start fsc state)
    (kept : keepsLocalDiskCondition state fsc users = true) :
    keepsLocalDiskCondition start fsc users = true := by
  rcases behind.2 with rfl | ⟨-, notAwaiting, _, grown⟩
  · exact kept
  · exact grown.keepsLocalDiskCondition notAwaiting kept

theorem BehindLocalDisks.keepsFilesystemCondition
    (behind : BehindLocalDisks start fsc state)
    (kept : keepsFilesystemCondition state fsc = true) :
    keepsFilesystemCondition start fsc = true := by
  unfold FusionAccess.keepsFilesystemCondition at kept ⊢
  rwa [behind.ownedFilesystems] at kept

end Loop

/-! ## Passes -/

section Pass

variable {start state : Cluster} {fsc : FileSystemClaim}

/-- The contract by which no StorageClass is created. -/
abbrev creatingNoStorageClass : Contract apiServer :=
  onlyCalls fun call => createsStorageClass call = false

theorem coversReports_createsNoStorageClass (fsc : FileSystemClaim) :
    CoversReports (fun call => createsStorageClass call = false) fsc where
  reads := by
    intro call reads
    cases call <;> first | rfl | cases reads
  reports := fun _ _ => rfl

theorem safe_createsNoStorageClass
    {call : Call} (other : createsStorageClass call = false) :
    Safe creatingNoStorageClass (fun _ => True) (request call) :=
  (safe_call other).safe

theorem allowsTeardown_createsNoStorageClass (fsc : FileSystemClaim) :
    AllowsTeardown creatingNoStorageClass (fun _ => True) fsc where
  reads := readsSafely_of_admits (coversReports_createsNoStorageClass fsc).admitsReads
  reports := (coversReports_createsNoStorageClass fsc).allowsReports _
  deletesStorageClass := safe_createsNoStorageClass rfl
  deletes := fun _ _ => safe_createsNoStorageClass rfl
  dropsFinalizer :=
    (coversReports_createsNoStorageClass fsc).patchesFinalizers fun _ => rfl

/-- The last step creates nothing when it has nothing to create. -/
theorem ensures_ensureStorageClass_present
    (present : isConditionTrue fsc .fileSystemCreated = true →
      state.storageClass? fsc.metadata.name ≠ none) :
    Ensures creatingNoStorageClass (ensureStorageClass fsc) (fun _ _ => True) state := by
  have covers := coversReports_createsNoStorageClass fsc
  have report : ∀ message, Safe creatingNoStorageClass (fun _ => True)
      (reportCondition fsc .storageClassCreated .isTrue .storageClassCreationSucceeded
        message) := by
    intro message
    have patches := covers.allowsReports (fun _ _ _ => True) (withCondition
      .storageClassCreated .isTrue .storageClassCreationSucceeded message) fun now cur =>
        (Touches.refl _ cur.conditions).withCondition trivial _ now
    exact patches.andThen fun _ _ => safe_pure true
  apply ensures_ensureStorageClass_exits covers.admitsReads
  · intro faulty failure
    trivial
  · intro skipped
    trivial
  · intro remembered missing
    exact absurd missing (present remembered)
  · intro current remembered found same
    refine ⟨fun _ => trivial, fun _ => ?_⟩
    exact Ensures.mono (report _ state trivial) fun _ _ _ => trivial
  · intro current remembered found drifted
    have patch : Safe creatingNoStorageClass (fun _ => True)
        (repairStorageClass fsc current) := by
      refine (SafeThen.mapError (SafeThen.mapError (safe_createsNoStorageClass rfl)
        fun _ _ => trivial) fun _ _ => trivial).andThen fun _ _ => ?_
      exact (safe_updateConditionIfChanged (covers.allowsReports fun _ _ _ => True) trivial
        _).andThen fun _ _ => safe_pure true
    exact Ensures.mono (patch state trivial) fun _ _ _ => trivial

/-- Without a healthy Filesystem no StorageClass is created, unless the pass trusts
a memory. -/
theorem ensures_provision_createsNoStorageClass
    (provisions : isDeleting fsc = !hasFinalizer fsc)
    (unhealthy : ownsHealthyFilesystem start fsc = false)
    (distrusts : ¬ TrustsMemory start fsc) :
    Ensures creatingNoStorageClass (provision fsc) (fun _ _ => True) start := by
  have covers := coversReports_createsNoStorageClass fsc
  have reads : ReadsSafely creatingNoStorageClass (fun _ => True) :=
    readsSafely_of_admits covers.admitsReads
  have objects : ∀ kind object, Safe creatingNoStorageClass (fun _ => True)
      (request (.create kind object)) :=
    fun _ _ => safe_createsNoStorageClass rfl
  apply ensures_provision_orElse
  refine ensures_orElse_of_passes (safe_ensureLocalDisks reads (covers.allowsReports _)
    (covers.allowsReports _) (covers.allowsReports _) fun _ _ _ => objects _ _)
    trivial passes_ensureLocalDisks ?_
  intro state _ behind
  refine ensures_orElse_of_goesOn (safe_syncLocalDiskConditions covers.admitsReads
    (covers.allowsReports _) (allowsReports_owning covers.admitsReads fun _ _ _ _ _ _ =>
      ⟨covers.reports _ _, trivial⟩)) trivial goesOn_localDiskConditions ?_
  intro localDiskCondition
  refine ensures_orElse_of_goesOn (safe_ensureFileSystem reads (covers.allowsReports _)
    (fun _ => objects _ _) fun _ _ => safe_createsNoStorageClass rfl) trivial
    goesOn_fileSystem ?_
  intro _
  refine ensures_orElse_of_goesOn (safe_syncFilesystemConditions reads
    (covers.allowsReports _)) trivial goesOn_filesystemConditions ?_
  intro filesystemCondition
  apply ensures_ensureStorageClass_present
  intro remembered missing
  rw [behind.storageClass?] at missing
  apply distrusts
  refine ⟨provisions, behind.1, ?_, ?_, remembered, missing⟩
  · have users : ownFilesystems state fsc = ownFilesystems start fsc := by
      unfold ownFilesystems
      rw [behind.ownedFilesystems]
    rw [users] at localDiskCondition
    exact localDiskCondition.imp behind.keepsLocalDiskCondition behind.keepsLocalDiskCondition
  · by_contra current
    push Not at current
    have healthy := ownsHealthyFilesystem_of_kept current.2 (by simpa using current.1)
      remembered (behind.keepsFilesystemCondition filesystemCondition)
    rw [unhealthy] at healthy
    cases healthy

theorem ensures_reconcileClaim_createsNoStorageClass
    {r : FileSystemClaimReconciler}
    (unhealthy : ownsHealthyFilesystem start fsc = false)
    (distrusts : ¬ TrustsMemory start fsc) :
    Ensures creatingNoStorageClass (reconcileClaim r fsc) (fun _ _ => True) start := by
  have covers := coversReports_createsNoStorageClass fsc
  by_cases leaving : isDeleting fsc = true ∧ hasFinalizer fsc = true
  · have teardown := safe_handleDeletion leaving.1 leaving.2
      (allowsTeardown_createsNoStorageClass fsc)
    refine Ensures.mono (safe_reconcileClaim_of_teardown leaving.1 teardown start trivial) ?_
    exact fun _ _ _ => trivial
  · apply ensures_reconcileClaim_of_provision
    · intro deleting
      simpa [deleting] using leaving
    · intro _
      exact covers.patchesFinalizers fun _ => rfl
    · intro finalized
      apply ensures_provision_createsNoStorageClass ?_ unhealthy distrusts
      cases deleting : isDeleting fsc with
      | true =>
          have unfinalized : hasFinalizer fsc = false := by simpa [deleting] using leaving
          rw [unfinalized]
          rfl
      | false =>
          have present : hasFinalizer fsc = true := by simpa [deleting] using finalized
          rw [present]
          rfl
    · exact safe_syncFSCReady (covers.allowsReports _)
    · trivial

end Pass

/-- In every run whose passes trust a memory only where it holds, a StorageClass is
created only for a healthy Filesystem. -/
theorem storage_class_gated
    (r : FileSystemClaimReconciler)
    (environment : Cluster → Cluster → Prop)
    (initial : Cluster) :
    Throughout (reconciler r) environment initial MemoryHolds (GatesStorageClass r) := by
  refine throughout (fun _ => True) trivial (fun _ _ _ _ => trivial)
    (fun _ _ _ => trivial) ?_
  intro pass holds _ creation
  by_contra ungated
  have ensures : Ensures creatingNoStorageClass (reconcile r pass.index)
      (fun _ _ => True) pass.start := by
    apply ensures_reconcile (coversReports_createsNoStorageClass readyClaim).admitsReads
    · intro missing
      trivial
    · intro fsc stored
      have unhealthy : ownsHealthyFilesystem pass.start fsc = false := by
        by_contra healthy
        exact ungated ⟨fsc, stored, by simpa using healthy⟩
      apply ensures_reconcileClaim_createsNoStorageClass unhealthy
      intro trusts
      exact ungated ⟨fsc, stored, holds fsc stored trusts⟩
    · intro failure call transient mayFail
      trivial
  obtain ⟨event, member, creates⟩ := creation
  have createsNot : createsStorageClass event.request = false :=
    (passLog_of_ensures ensures fun _ _ => trivial).1 event member
  rw [createsNot] at creates
  cases creates

/-- A claim whose LocalDisk has been created. -/
def unawareClaim : FileSystemClaim :=
  { readyClaim with conditions := readyClaim.conditions.take 2 }

/-- Its Filesystem is healthy, which the claim does not know yet. -/
def unawareCluster : Cluster :=
  { readyCluster with claims := [unawareClaim], storageClasses := [] }

/-- What passes on it leave behind; nothing happens in between. -/
def unaware : Nat → Cluster
  | 0 => unawareCluster
  | count + 1 => ((calmPass readyKey 0 (unaware count)).outcome (reconciler {})).state

/-- The first pass remembers the healthy Filesystem, and the second one creates the
StorageClass. -/
theorem storage_class_gated_unaware :
    let passes := [calmPass readyKey 0 (unaware 0), calmPass readyKey 0 (unaware 1)]
    (∀ pass ∈ passes, MemoryHolds pass ∧ GatesStorageClass {} pass) ∧
      (unaware 1).storageClasses = [] ∧ (unaware 2).storageClasses.length = 1 := by
  intro passes
  have first : Run (S := apiServer) (reconciler {}) undisturbed unawareCluster []
      unawareCluster := .start
  have run : Run (reconciler {}) undisturbed unawareCluster passes (unaware 2) :=
    (first.pass readyKey fun _ => { pick := 0 }).pass readyKey fun _ => { pick := 0 }
  have healthy : ∀ pass ∈ passes, ∀ fsc ∈ pass.start.claim? pass.index,
      ownsHealthyFilesystem pass.start fsc = true := by decide
  have holds : ∀ pass ∈ passes, MemoryHolds pass :=
    fun pass member fsc stored _ => healthy pass member fsc stored
  refine ⟨fun pass member => ⟨holds pass member, ?_⟩, by decide⟩
  exact storage_class_gated {} undisturbed unawareCluster passes (unaware 2) run holds pass
    member

/-! ## Disks and Filesystem that fail -/

/-- The storage product reports conditions of a LocalDisk or a Filesystem. -/
def reportConditions
    (cluster : Cluster) (kind : Kind) (key : NamespacedName)
    (conditions : List Condition) : Cluster :=
  cluster.written.withObjects kind (Registry.amend Unstructured.key key
    (fun stored => { stored with
      metadata := cluster.stamp stored.metadata, conditions := some conditions })
    (cluster.objects kind))

/-- Only the storage product changes anything between passes. -/
def reportsConditions (before after : Cluster) : Prop :=
  ∃ kind key conditions, after = reportConditions before kind key conditions

/-- Once a pass has seen the Filesystem, it fails together with its disk. The next
pass reports the disk, and the one after it creates the StorageClass. -/
theorem storage_class_created_for_failed_filesystem :
    ¬ Throughout (reconciler {}) reportsConditions unawareCluster (fun _ => True)
      (GatesStorageClass {}) := by
  intro gated
  have healthy : Run (S := apiServer) (reconciler {}) reportsConditions unawareCluster []
      unawareCluster := .start
  have remembered := healthy.pass readyKey calm
  have diskFailed := remembered.move
    ⟨.localDisk, ⟨"ibm-spectrum-scale", "uuid.1"⟩, [], rfl⟩
  have failed := diskFailed.move ⟨.filesystem, readyKey, [], rfl⟩
  have reported := failed.pass readyKey calm
  have gate := gated _ _ (reported.pass readyKey calm) (fun _ _ => trivial) _
    (List.mem_append_right _ (List.mem_singleton_self _))
  revert gate
  unfold GatesStorageClass
  decide

end FusionAccess
