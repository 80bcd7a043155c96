import FusionAccess.Controller.MigratedPools
import FusionAccess.Controller.StepExits

/-!
# The audit trail of the migration

The migration leaves two labels and an annotation on everything it hands over.
Passes on the claim never write metadata of LocalDisks and of the Filesystem;
the repair of the StorageClass replaces all its labels and annotations, so the
trail lasts as long as no pass gets to that repair.
-/

namespace FusionAccess

open Kubernetes Interaction Fallible Registry

/-! ## The trail -/

/-- What `addMigrationLabels` puts on an object is there. -/
structure HasTrail (metadata : ObjectMeta) : Prop where
  migrated : metadata.labels.get? migrationLabelMigrated = some migrationLabelValueTrue
  source : metadata.labels.get? migrationLabelSource = some migrationSourceV1
  timestamp : (metadata.annotations.get? migrationAnnotationTimestamp).isSome

instance (metadata : ObjectMeta) : Decidable (HasTrail metadata) :=
  decidable_of_iff
    (metadata.labels.get? migrationLabelMigrated = some migrationLabelValueTrue ∧
      metadata.labels.get? migrationLabelSource = some migrationSourceV1 ∧
      (metadata.annotations.get? migrationAnnotationTimestamp).isSome)
    ⟨fun ⟨migrated, source, timestamp⟩ => ⟨migrated, source, timestamp⟩,
      fun trail => ⟨trail.migrated, trail.source, trail.timestamp⟩⟩

theorem hasTrail_addMigrationLabels
    (metadata : ObjectMeta) (timestamp : String) (version : Nat) :
    HasTrail { addMigrationLabels metadata timestamp with
      resourceVersion := version } where
  migrated := by
    have different : migrationLabelSource ≠ migrationLabelMigrated := by decide
    simp [addMigrationLabels, StringMap.get?_set, different]
  source := by simp [addMigrationLabels, StringMap.get?_set]
  timestamp := by simp [addMigrationLabels, StringMap.get?_set]

/-- The migration labels the StorageClass of the name. -/
def labelsStorageClass (base : Cluster) (name : String) : Bool :=
  (base.storageClass? name).any fun sc => !isMigrated sc.metadata

/-- Everything that the migration of a group labels has the trail. -/
structure AuditTrail (base : Cluster) (name : String) (state : Cluster) : Prop where
  localDisks : ∀ ld ∈ legacyDisks base name,
    ∃ later, state.object? .localDisk ld.key = some later ∧ HasTrail later.metadata
  filesystem : ∀ fs, legacyFilesystem? base name = some fs →
    hasOwnerRefToFSC fs.metadata name = false →
      ∃ later, legacyFilesystem? state name = some later ∧ HasTrail later.metadata
  storageClass : labelsStorageClass base name = true →
    ∃ later, state.storageClass? name = some later ∧ HasTrail later.metadata

/-- What has the trail keeps it. -/
structure KeepsTrail (before after : Cluster) : Prop where
  objects : ∀ kind key object, before.object? kind key = some object →
    HasTrail object.metadata →
      ∃ later, after.object? kind key = some later ∧ HasTrail later.metadata
  storageClasses : ∀ name storageClass, before.storageClass? name = some storageClass →
    HasTrail storageClass.metadata →
      ∃ later, after.storageClass? name = some later ∧ HasTrail later.metadata

theorem AuditTrail.mono
    {base before after : Cluster} {name : String}
    (trail : AuditTrail base name before)
    (keeps : KeepsTrail before after) :
    AuditTrail base name after where
  localDisks := by
    intro ld member
    obtain ⟨later, stored, has⟩ := trail.localDisks ld member
    exact keeps.objects _ _ later stored has
  filesystem := by
    intro fs found unowned
    obtain ⟨later, stored, has⟩ := trail.filesystem fs found unowned
    exact keeps.objects _ _ later stored has
  storageClass := by
    intro labels
    obtain ⟨later, stored, has⟩ := trail.storageClass labels
    exact keeps.storageClasses _ later stored has

/-- A successful migration of a group leaves the trail. -/
theorem auditTrail_of_done
    {base state : Cluster} {name : String} {group : GroupProgress}
    (distinct : DistinctNames base)
    (reached : Reached base (Function.update untouched name group) state)
    (done : ResourcesDone base name group) :
    AuditTrail base name state where
  localDisks := by
    intro ld member
    obtain ⟨listed, _, _, inGroup⟩ := mem_legacyDisks.mp member
    obtain ⟨later, found, version⟩ := reached.represents.localDisks.find?
      (fun _ _ adopted => adopted.key_eq) (find?_eq_some_of_mem distinct.localDisks listed)
    have marked := (adopted_iff_of_done distinct reached done listed).mpr member
    obtain ⟨_, _, _, _, rfl⟩ := version.1 marked
    exact ⟨_, found, hasTrail_addMigrationLabels _ _ _⟩
  filesystem := by
    intro fs stored unowned
    obtain ⟨later, found, version⟩ := reached.represents.filesystems.find?
      (fun _ _ adopted => adopted.key_eq) stored
    have key := (find?_eq_some stored).2
    have named : fs.metadata.name = name := congrArg NamespacedName.name key
    have spaced : fs.metadata.ns = migrationNamespace := congrArg NamespacedName.ns key
    obtain ⟨_, _, _, _, rfl⟩ := version.1 ⟨spaced, by
      rw [named, Function.update_self]
      exact done.filesystem fs stored unowned⟩
    exact ⟨_, found, hasTrail_addMigrationLabels _ _ _⟩
  storageClass := by
    intro labels
    rw [labelsStorageClass, Option.any_eq_true] at labels
    obtain ⟨sc, stored, notMigrated⟩ := labels
    obtain ⟨later, found, version⟩ := reached.represents.storageClasses.find?
      (fun _ _ labelled => labelled.name_eq) stored
    have named : sc.name = name := (find?_eq_some stored).2
    have marked : (Function.update untouched name group sc.name).storageClass = true := by
      rw [named, Function.update_self]
      exact done.storageClass sc stored (by simpa using notMigrated)
    obtain ⟨_, _, _, _, rfl⟩ := version.1 marked
    exact ⟨_, found, hasTrail_addMigrationLabels _ _ _⟩

/-! ## Calls that keep the trail -/

section Calls

variable {cluster : Cluster}

theorem keepsTrail_of_same
    {after : Cluster}
    (objects : ∀ kind, after.objects kind = cluster.objects kind)
    (storageClasses : after.storageClasses = cluster.storageClasses) :
    KeepsTrail cluster after where
  objects := fun kind key object stored has =>
    ⟨object, by rwa [Cluster.object?, objects], has⟩
  storageClasses := fun name storageClass stored has =>
    ⟨storageClass, by rwa [Cluster.storageClass?, storageClasses], has⟩

/-- A call that writes neither objects nor StorageClasses. -/
theorem keepsTrail_elsewhere
    {call : Call}
    (objects : ∀ kind, call.part? ≠ some (.objects kind))
    (storageClasses : call.part? ≠ some .storageClasses) :
    KeepsTrail cluster (cluster.afterCall call) :=
  keepsTrail_of_same (fun kind => cluster.objects_afterCall (objects kind))
    (cluster.storageClasses_afterCall storageClasses)

/-- A created object displaces no other. -/
theorem keepsTrail_create (kind : Kind) (object : Unstructured) :
    KeepsTrail cluster (cluster.afterCall (.create kind object)) where
  objects := by
    intro other key stored found has
    refine ⟨stored, ?_, has⟩
    by_cases same : other = kind
    · subst same
      cases taken : cluster.object? other object.key with
      | some present =>
          simpa only [Cluster.afterCall, Cluster.answer, Cluster.create, taken]
            using found
      | none =>
          rw [Cluster.object?, cluster.objects_create taken, find?_append,
            show find? Unstructured.key key (cluster.objects other) = some stored
              from found, Option.some_or]
    · rw [Cluster.object?, cluster.objects_afterCall, ← Cluster.object?, found]
      simpa [Call.part?, eq_comm] using same
  storageClasses := by
    intro name storageClass found has
    rw [Cluster.storageClass?, cluster.storageClasses_afterCall (by simp [Call.part?])]
    exact ⟨storageClass, found, has⟩

/-- A patch of a spec leaves labels and annotations. -/
theorem keepsTrail_patchSpec (kind : Kind) (key : NamespacedName) (spec : Value) :
    KeepsTrail cluster (cluster.afterCall (.patchSpec kind key spec)) where
  objects := by
    intro other key' stored found has
    by_cases same : other = kind
    · subst same
      simp only [Cluster.afterCall, Cluster.answer, Cluster.patchSpec]
      split
      · exact ⟨stored, found, has⟩
      unfold Cluster.object? at found ⊢
      rw [Cluster.objects_withObjects]
      by_cases named : key' = key
      · subst named
        refine ⟨{ stored with
          metadata := cluster.stamp stored.metadata, spec := some spec }, ?_,
          ⟨has.migrated, has.source, has.timestamp⟩⟩
        rw [find?_amend_self, found, Option.map_some]
        exact fun _ isNamed => isNamed
      · refine ⟨stored, ?_, has⟩
        rw [find?_amend_of_ne _ named]
        · exact found
        · exact fun _ isNamed => isNamed
    · refine ⟨stored, ?_, has⟩
      rw [Cluster.object?, cluster.objects_afterCall, ← Cluster.object?, found]
      simpa [Call.part?, eq_comm] using same
  storageClasses := by
    intro name storageClass found has
    rw [Cluster.storageClass?, cluster.storageClasses_afterCall (by simp [Call.part?])]
    exact ⟨storageClass, found, has⟩

theorem keepsTrail_createStorageClass (storageClass : StorageClass) :
    KeepsTrail cluster (cluster.afterCall (.createStorageClass storageClass)) where
  objects := by
    intro kind key object found has
    rw [Cluster.object?, cluster.objects_afterCall (by simp [Call.part?])]
    exact ⟨object, found, has⟩
  storageClasses := by
    intro name stored found has
    refine ⟨stored, ?_, has⟩
    cases taken : cluster.storageClass? storageClass.name with
    | some present =>
        simpa only [Cluster.afterCall, Cluster.answer, Cluster.createStorageClass, taken]
          using found
    | none =>
        simp only [Cluster.afterCall, Cluster.answer, Cluster.createStorageClass, taken]
        rw [Cluster.storageClass?, find?_append,
          show find? StorageClass.name name cluster.storageClasses = some stored
            from found, Option.some_or]

end Calls

/-! ## Passes -/

/-- A pass may get to the StorageClass of a claim with the finalizer that
remembers its Filesystem as created: the steps before let it go on, or it begins
to create LocalDisks. -/
def reachesStorageClass (cluster : Cluster) (fsc : FileSystemClaim) : Bool :=
  hasFinalizer fsc && isConditionTrue fsc .fileSystemCreated &&
    ((!isConditionTrue fsc .localDiskCreated && !awaitsLocalDisks fsc &&
        isConditionTrue fsc .deviceValidated) ||
      (localDisksGoOn cluster fsc &&
        (keepsLocalDiskCondition cluster fsc (ownFilesystems cluster fsc) ||
          keepsLocalDiskCondition cluster fsc []) &&
        filesystemGoesOn cluster fsc && keepsFilesystemCondition cluster fsc))

section Pass

variable {base : Cluster} {name : String} {fsc : FileSystemClaim}

theorem safe_trail
    {call : Call}
    (keeps : ∀ state : Cluster, KeepsTrail state (state.afterCall call)) :
    Safe free (AuditTrail base name) (request call) :=
  (safe_request (fun _ _ => trivial) fun state trail => trail.mono (keeps state)).safe

theorem allowsReports_trail
    (reports : ConditionType → ConditionStatus → Reason → Prop) :
    AllowsReports free (AuditTrail base name) fsc reports :=
  allowsReports_of_patch admitsReads_free fun _ _ _ trail _ _ =>
    ⟨trivial, trail.mono (keepsTrail_elsewhere (by simp [Call.part?])
      (by simp [Call.part?]))⟩

/-- The steps up to the StorageClass keep the trail. -/
theorem safe_steps_trail :
    Safe free (AuditTrail base name) (ensureLocalDisks fsc) ∧
      Safe free (AuditTrail base name) (syncLocalDiskConditions fsc) ∧
      Safe free (AuditTrail base name) (ensureFileSystem fsc) ∧
      Safe free (AuditTrail base name) (syncFilesystemConditions fsc) := by
  have reads : ReadsSafely free (AuditTrail base name) :=
    readsSafely_of_admits admitsReads_free
  have reports : ∀ reports, AllowsReports free (AuditTrail base name) fsc reports :=
    allowsReports_trail
  refine ⟨?_, ?_, ?_, safe_syncFilesystemConditions reads (reports _)⟩
  · exact safe_ensureLocalDisks reads (reports _) (reports _) (reports _)
      fun _ _ _ => safe_trail fun _ => keepsTrail_create _ _
  · exact safe_syncLocalDiskConditions_of_listed
      (fun state trail => (safe_listOwnedResources reads fsc .localDisk state trail).mono
        fun _ _ ensured => ⟨ensured.2, fun _ _ _ => ensured.2⟩)
      (safe_listOwnedResources reads fsc .filesystem) (fun _ trail => trail)
      (reports _) (reports _)
  · exact safe_ensureFileSystem reads (reports _)
      (fun _ => safe_trail fun _ => keepsTrail_create _ _)
      fun _ _ => safe_trail fun _ => keepsTrail_patchSpec _ _ _

/-- Provisioning keeps the trail unless it may get to the StorageClass. -/
theorem ensures_provision_trail
    {cluster : Cluster}
    (trail : AuditTrail base name cluster)
    (finalized : hasFinalizer fsc = true)
    (spares : labelsStorageClass base name = true →
      reachesStorageClass cluster fsc = false) :
    Ensures free (provision fsc) (fun _ final => AuditTrail base name final)
      cluster := by
  obtain ⟨localDisks, localDiskConditions, fileSystem, filesystemConditions⟩ :=
    @safe_steps_trail base name fsc
  by_cases spared : labelsStorageClass base name = true ∧
      isConditionTrue fsc .fileSystemCreated = true
  · obtain ⟨labels, created⟩ := spared
    have unreached := spares labels
    simp only [reachesStorageClass, finalized, created, Bool.true_and,
      Bool.or_eq_false_iff] at unreached
    obtain ⟨noCreation, stops⟩ := unreached
    have begins : isConditionTrue fsc .localDiskCreated = false →
        awaitsLocalDisks fsc = false → isConditionTrue fsc .deviceValidated = false := by
      intro notCreated notAwaiting
      simpa [notCreated, notAwaiting] using noCreation
    refine ensures_provision_orElse
      (ensures_orElse_of_goesOn localDisks trail (goesOn_localDisks begins) fun first =>
      ensures_orElse_of_goesOn localDiskConditions trail goesOn_localDiskConditions
        fun second =>
      ensures_orElse_of_goesOn fileSystem trail goesOn_fileSystem fun third =>
      ensures_orElse_of_goesOn filesystemConditions trail goesOn_filesystemConditions
        fun fourth => ?_)
    have passes : (keepsLocalDiskCondition cluster fsc (ownFilesystems cluster fsc) ||
        keepsLocalDiskCondition cluster fsc []) = true := by rwa [Bool.or_eq_true]
    simp [first, passes, third, fourth] at stops
  · -- the StorageClass is not labelled, or the claim does not get to it
    have storageClass : Safe free (AuditTrail base name) (ensureStorageClass fsc) := by
      by_cases created : isConditionTrue fsc .fileSystemCreated = true
      · have unlabelled : ¬labelsStorageClass base name = true := fun labels =>
          spared ⟨labels, created⟩
        refine safe_ensureStorageClass (readsSafely_of_admits admitsReads_free)
          (allowsReports_trail _)
          (safe_trail fun _ => keepsTrail_createStorageClass _) fun current _ => ?_
        refine (safe_request (fun _ _ => trivial) fun state trail => ?_).safe
        refine ⟨fun ld member => ?_, fun fs found unowned => ?_,
          fun labels => absurd labels unlabelled⟩
        · rw [Cluster.object?, state.objects_afterCall (by simp [Call.part?])]
          exact trail.localDisks ld member
        · rw [legacyFilesystem?, Cluster.object?,
            state.objects_afterCall (by simp [Call.part?])]
          exact trail.filesystem fs found unowned
      · unfold ensureStorageClass
        rw [if_pos (by simpa using created)]
        exact safe_pure false
    exact ensures_provision_of_safe
      ((localDisks cluster trail).mono fun _ _ safe => safe.2)
      localDiskConditions fileSystem filesystemConditions storageClass

/-- A pass on a claim that is not being deleted keeps the trail unless it may
get to the StorageClass. -/
theorem ensures_reconcileClaim_trail
    {cluster : Cluster}
    (r : FileSystemClaimReconciler)
    (trail : AuditTrail base name cluster)
    (live : isDeleting fsc = false)
    (spares : labelsStorageClass base name = true →
      reachesStorageClass cluster fsc = false) :
    Ensures free (reconcileClaim r fsc) (fun _ final => AuditTrail base name final)
      cluster := by
  refine ensures_reconcileClaim_of_provision (by simp [live]) (fun _ => ?_)
    (fun finalized => ensures_provision_trail trail
      (finalized.resolve_left (by simp [live])) spares)
    (safe_syncFSCReady (allowsReports_trail _)) trail
  exact safe_patchFSCSpec admitsReads_free fun _ _ trail _ => ⟨trivial,
    trail.mono (keepsTrail_elsewhere (by simp [Call.part?]) (by simp [Call.part?]))⟩

end Pass

/-! ## Runs -/

/-- The pass is one on the claim of the group, the claim is not being deleted,
and if the migration has labelled the StorageClass the pass does not get to
it. -/
structure SparesTrail
    (base : Cluster) (name : String) (pass : Pass apiServer NamespacedName) :
    Prop where
  index : pass.index = migrationKey name
  live : ∀ fsc ∈ pass.start.claim? pass.index, isDeleting fsc = false
  unreached : labelsStorageClass base name = true →
    ∀ fsc ∈ pass.start.claim? pass.index, reachesStorageClass pass.start fsc = false

/-- After the successful migration of a group, passes on its claim leave the
trail on everything that was labelled. -/
theorem audit_trail_survives
    {base : Cluster}
    (distinct : DistinctNames base)
    {name : String}
    (migrated : migrates base name = true)
    (choices : Nat → Choice)
    (succeeds : (groupRun base name choices).value = .ok ())
    (r : FileSystemClaimReconciler)
    {passes : List (Pass apiServer NamespacedName)}
    {state : Cluster}
    (run : Run (reconciler r) KeepsTrail (groupRun base name choices).state passes state)
    (spares : ∀ pass ∈ passes, SparesTrail base name pass) :
    AuditTrail base name state := by
  have ensured := ensures_migrateResourceGroup (C := free)
    (fun _ _ _ _ => trivial) distinct (reached_untouched base) rfl migrated
  have advanced := (Program.Ensures.sound ensured choices fun _ _ => trivial).2
  rw [succeeds] at advanced
  obtain ⟨group, reached, done, _⟩ := advanced
  have preserved : ∀ pass, SparesTrail base name pass → AuditTrail base name pass.start →
      AuditTrail base name (pass.outcome (reconciler r)).state := by
    intro pass spared trail
    have kept : Ensures free (reconcile r pass.index)
        (fun _ final => AuditTrail base name final) pass.start :=
      ensures_reconcile admitsReads_free (fun _ => trail)
        (fun fsc stored => ensures_reconcileClaim_trail r trail (spared.live fsc stored)
          fun labels => spared.unreached labels fsc stored) fun _ _ _ _ => trail
    exact (passLog_of_ensures kept fun _ _ => trivial).2
  exact (run.invariant (auditTrail_of_done distinct reached done)
    (fun _ _ keeps trail => trail.mono keeps) preserved spares).1

/-- The LocalDisk of the migrated claim is not ready yet, so a pass only adds
the finalizer, and the next one reports the LocalDisk. -/
theorem audit_trail_survives_legacyCluster :
    AuditTrail legacyCluster "fs" (Pass.outcome (reconciler {}) ⟨migrationKey "fs", calm,
      (Pass.outcome (reconciler {}) ⟨migrationKey "fs", calm,
        (groupRun legacyCluster "fs" calm).state⟩).state⟩).state := by
  have run : Run (reconciler {}) KeepsTrail (groupRun legacyCluster "fs" calm).state _ _ :=
    (Run.start.pass (migrationKey "fs") calm).pass (migrationKey "fs") calm
  refine audit_trail_survives distinctNames_legacyCluster (by decide) calm (by decide) {}
    run fun pass member => ?_
  simp only [List.nil_append, List.cons_append, List.mem_cons, List.not_mem_nil,
    or_false] at member
  rcases member with rfl | rfl
  · exact ⟨rfl, by decide, by decide⟩
  · exact ⟨rfl, by decide, by decide⟩

/-- A cluster of v1.0 in which everything is healthy and the StorageClass has
all that a claim wants, apart from labels and annotations. -/
def auditedCluster : Cluster where
  localDisks := [usedDisk "uuid.1" "/dev/sdb" []]
  filesystems := [{
    metadata := { name := "fs", ns := migrationNamespace }
    spec := some (buildFilesystemSpec ["uuid.1"])
    conditions := some [metCondition .success, metCondition .healthy] }]
  storageClasses := [{ wantedStorageClass readyClaim with metadata := { name := "fs" } }]

/-- The second pass after the migration takes the trail from the StorageClass. -/
theorem audit_trail_lost :
    DistinctNames auditedCluster ∧ migrates auditedCluster "fs" = true ∧
      (groupRun auditedCluster "fs" calm).value = .ok () ∧
      ∃ passes state,
        Run (reconciler {}) KeepsTrail (groupRun auditedCluster "fs" calm).state
          passes state ∧
        (∀ pass ∈ passes, pass.index = migrationKey "fs") ∧
        ¬AuditTrail auditedCluster "fs" state := by
  refine ⟨⟨by decide, by decide, by decide⟩, by decide, by decide, _, _,
    (Run.start.pass (migrationKey "fs") calm).pass (migrationKey "fs") calm, ?_,
    fun trail => ?_⟩
  · intro pass member
    simp only [List.nil_append, List.cons_append, List.mem_cons, List.not_mem_nil,
      or_false] at member
    rcases member with rfl | rfl
    · rfl
    · rfl
  · obtain ⟨later, stored, has⟩ := trail.storageClass (by decide)
    have lost : ((Pass.outcome (reconciler {}) ⟨migrationKey "fs", calm,
        (Pass.outcome (reconciler {}) ⟨migrationKey "fs", calm,
          (groupRun auditedCluster "fs" calm).state⟩).state⟩).state.storageClass?
            "fs").all (fun sc => !decide (HasTrail sc.metadata)) = true := by decide
    rw [stored, Option.all_some, Bool.not_eq_true', decide_eq_false_iff_not] at lost
    exact lost has

end FusionAccess
