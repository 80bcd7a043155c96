import FusionAccess.Controller.ConditionHistory
import FusionAccess.Controller.CreationLoop
import FusionAccess.Controller.Stalls

/-!
# How `LocalDiskCreated` recovers

The health of the LocalDisks is looked at in a step of its own, behind the one that
creates them. A pass on a claim with healthy LocalDisks gets there, and then reports
them, unless it begins to create LocalDisks again and cannot find the first one under
the name that discovery gives it now.
-/

namespace FusionAccess

open Kubernetes Interaction Fallible

/-! ## Healthy LocalDisks -/

/-- The LocalDisk is ready, and not used or used by one of the Filesystems. -/
structure Usable (users : List String) (ld : Unstructured) : Prop where
  ready : hasTrueCondition ld .ready = true
  used : hasTrueCondition ld .used = true → ld.filesystem ≠ "" ∧ ld.filesystem ∈ users

/-- The LocalDisk reports whether it is used. -/
def reportsUse (ld : Unstructured) : Bool :=
  (ld.conditions.bind fun conditions => findStatusCondition conditions .used).isSome

/-- A live claim with its finalizer and validated devices, whose LocalDisks are for
these devices and usable. -/
structure HasUsableDisks (cluster : Cluster) (fsc : FileSystemClaim) : Prop where
  stored : cluster.claim? fsc.key = some fsc
  live : isDeleting fsc = false
  finalized : hasFinalizer fsc = true
  distinct : (fsc.conditions.map Condition.type).Nodup
  validated : isConditionTrue fsc .deviceValidated = true
  devices : devicesMatch cluster fsc = true
  usable : ∀ ld ∈ ownedBy cluster fsc .localDisk,
    Usable (fsc.metadata.name :: ownFilesystems cluster fsc) ld

/-- The pass reports the LocalDisks as created: there are some, they all report their
use, the pass finds the first one if it begins to create LocalDisks, and no other
condition has the reason of the migration. -/
structure Recovers
    (cluster : Cluster) (fsc : FileSystemClaim) (nodeName : String) : Prop where
  nonempty : ownedBy cluster fsc .localDisk ≠ []
  reported : ∀ ld ∈ ownedBy cluster fsc .localDisk, reportsUse ld = true
  finds : beginsCreation fsc = true →
    storageNodes cluster ≠ [] ∧ creationEnds cluster fsc nodeName = true
  honest : hasConditionWithReason fsc.conditions .localDiskCreated .migrationComplete =
    true → isConditionTrue fsc .localDiskCreated = true

section Health

variable {ld : Unstructured} {users : List String}

theorem hasTrueCondition_iff
    {conditions : List Condition} (found : ld.conditions = some conditions)
    (conditionType : ConditionType) :
    hasTrueCondition ld conditionType = true ↔ RecordsTrue conditions conditionType := by
  unfold hasTrueCondition RecordsTrue
  rw [found, Option.bind_some, Option.any_eq_true]
  simp

/-- A usable LocalDisk passes the health check when it reports its use. -/
theorem Usable.checkResourceHealthy_iff (usable : Usable users ld) :
    checkResourceHealthy ld localDiskRequirements users = none ↔ reportsUse ld = true := by
  cases found : ld.conditions with
  | none =>
      have ready := usable.ready
      simp [hasTrueCondition, found] at ready
  | some conditions =>
      obtain ⟨ready, isReady, status⟩ :=
        (hasTrueCondition_iff found .ready).mp usable.ready
      rw [reportsUse, found, Option.bind_some]
      cases use : findStatusCondition conditions .used with
      | none =>
          simp [checkResourceHealthy, found, localDiskRequirements, checkRequiredCondition,
            checkResourceCondition, isReady, status, use]
      | some condition =>
          have permitted : condition.status = .isTrue →
              ld.filesystem ≠ "" ∧ ld.filesystem ∈ users := fun isUsed =>
            usable.used ((hasTrueCondition_iff found .used).mpr ⟨condition, use, isUsed⟩)
          by_cases isUsed : condition.status = .isTrue
          · simp [checkResourceHealthy, found, localDiskRequirements,
              checkRequiredCondition, checkResourceCondition, isReady, status, use, isUsed,
              permitted isUsed]
          · simp [checkResourceHealthy, found, localDiskRequirements,
              checkRequiredCondition, checkResourceCondition, isReady, status, use, isUsed]

theorem checkAllResourcesHealthy_iff
    {resources : List Unstructured} {required : List ConditionType} :
    checkAllResourcesHealthy resources required users = none ↔
      ∀ resource ∈ resources, checkResourceHealthy resource required users = none := by
  simp [checkAllResourcesHealthy, List.findSome?_eq_none_iff]

/-- The wanted condition of the LocalDisks is true when there are some and all are
healthy. -/
theorem wantedLocalDiskCondition_isTrue_iff
    {cluster : Cluster} {fsc : FileSystemClaim} :
    (wantedLocalDiskCondition cluster fsc users).1 = .isTrue ↔
      ownedBy cluster fsc .localDisk ≠ [] ∧
        ∀ ld ∈ ownedBy cluster fsc .localDisk,
          checkResourceHealthy ld localDiskRequirements (fsc.metadata.name :: users) =
            none := by
  unfold wantedLocalDiskCondition
  split
  next none => simp [none]
  next some =>
    rw [← checkAllResourcesHealthy_iff, localDiskCondition]
    cases checkAllResourcesHealthy (ownedBy cluster fsc .localDisk) localDiskRequirements
      (fsc.metadata.name :: users) <;> simp [some]

end Health

/-! ## What the stored claim says about its LocalDisks -/

/-- The stored claim says that its LocalDisks are created if and only if this holds. -/
def ReportsCreated (created : Prop) (key : NamespacedName) (cluster : Cluster) : Prop :=
  ∃ fsc, cluster.claim? key = some fsc ∧
    (RecordsTrue fsc.conditions .localDiskCreated ↔ created)

/-- Reports about the LocalDisks are in accord with what they should say. -/
def Accords
    (created : Prop) (reports : ConditionType → ConditionStatus → Reason → Prop) : Prop :=
  ∀ status reason, reports .localDiskCreated status reason →
    (status = .isTrue ↔ created)

section Reports

variable {created : Prop} {start cluster : Cluster} {fsc : FileSystemClaim}
  {nodeName : String} {key : NamespacedName}
  {reports : ConditionType → ConditionStatus → Reason → Prop}

theorem ReportsCreated.elsewhere
    {call : Call}
    (reported : ReportsCreated created key cluster)
    (claims : call.part? ≠ some .claims) :
    ReportsCreated created key (cluster.afterCall call) := by
  obtain ⟨fsc, stored, agrees⟩ := reported
  exact ⟨fsc, by rw [cluster.claim?_afterCall claims, stored], agrees⟩

theorem ReportsCreated.patchClaimStatus
    {cur : FileSystemClaim} {modified : List Condition}
    (reported : ReportsCreated created key cluster)
    (stored : cluster.claim? key = some cur)
    (touches : Touches reports cur.conditions modified)
    (accords : Accords created reports) :
    ReportsCreated created key
      (cluster.afterCall (.patchClaimStatus key cur.conditions modified)) := by
  obtain ⟨fsc, found, agrees⟩ := reported
  rw [stored] at found
  cases found
  obtain ⟨patched, after, _, same⟩ := Cluster.claim?_patchClaimStatus_stored stored modified
  refine ⟨patched, after, ?_⟩
  rw [same]
  rcases touches.lookup .localDiskCreated with kept | ⟨condition, found, admitted⟩
  · rw [RecordsTrue, kept]
    exact agrees
  · rw [RecordsTrue, found, ← accords _ _ admitted]
    simp

theorem admitsReads_drawing : AdmitsReads (drawing start nodeName) :=
  fun _ _ _ => trivial

theorem readsSafely_drawing {invariant : Cluster → Prop} :
    ReadsSafely (drawing start nodeName) invariant :=
  readsSafely_of_admits admitsReads_drawing

theorem allowsReports_reportsCreated (accords : Accords created reports) :
    AllowsReports (drawing start nodeName) (ReportsCreated created fsc.key) fsc reports :=
  allowsReports_of_patch admitsReads_drawing fun _ _ _ reported stored touches =>
    ⟨trivial, reported.patchClaimStatus stored touches accords⟩

theorem safe_elsewhere_reportsCreated {call : Call} (claims : call.part? ≠ some .claims) :
    Safe (drawing start nodeName) (ReportsCreated created key) (request call) :=
  (safe_request (fun _ _ => trivial) fun _ reported => reported.elsewhere claims).safe

/-- A condition of the LocalDisks that is patched says what it should. -/
theorem ensures_reportCondition_reportsCreated
    {status : ConditionStatus} {reason : Reason} {message : String}
    {next : Cluster → Prop}
    (stored : ∃ cur, cluster.claim? fsc.key = some cur)
    (accords : status = .isTrue ↔ created) :
    Ensures (drawing start nodeName)
      (reportCondition fsc .localDiskCreated status reason message)
      (orElse next fun _ final => ReportsCreated created fsc.key final) cluster := by
  obtain ⟨cur, stored⟩ := stored
  rw [ensures_bind]
  refine ensures_patchFSCStatus admitsReads_drawing stored trivial ?_
    (fun _ _ _ mayFail => absurd ⟨_, _, _, mayFail⟩ not_faulty_drawing)
    fun _ _ _ mayFail => absurd ⟨_, _, _, mayFail⟩ not_faulty_drawing
  obtain ⟨patched, after, _, same⟩ := Cluster.claim?_patchClaimStatus_stored stored
    (withCondition .localDiskCreated status reason message cluster.clock cur).conditions
  refine ⟨patched, after, ?_⟩
  rw [same, RecordsTrue, findStatusCondition_withCondition, if_pos rfl, ← accords]
  simp

/-- The steps behind the conditions of the LocalDisks say nothing about them. -/
theorem ensures_followingSteps_reportsCreated
    (reported : ReportsCreated created fsc.key cluster) :
    Ensures (drawing start nodeName) (ensureFileSystem fsc)
      (orElse (Ensures (drawing start nodeName) (syncFilesystemConditions fsc)
        (orElse (Ensures (drawing start nodeName) (ensureStorageClass fsc)
            fun _ final => ReportsCreated created fsc.key final)
          fun _ final => ReportsCreated created fsc.key final))
        fun _ final => ReportsCreated created fsc.key final) cluster := by
  have silent : ∀ {reports : ConditionType → ConditionStatus → Reason → Prop},
      (∀ status reason, ¬reports .localDiskCreated status reason) →
      AllowsReports (drawing start nodeName) (ReportsCreated created fsc.key) fsc
        (ofPass reports) :=
    fun others => AllowsReports.ofPass <| allowsReports_reportsCreated
      fun status reason admitted => absurd admitted (others status reason)
  have fileSystem := safe_ensureFileSystem readsSafely_drawing
    (silent (by simp [reportsFailure, ResourceType.conditionType]))
    (fun _ => safe_elsewhere_reportsCreated (by simp [Call.part?]))
    (fun _ _ => safe_elsewhere_reportsCreated (by simp [Call.part?]))
  have filesystemConditions := safe_syncFilesystemConditions readsSafely_drawing
    (silent (by simp) : AllowsReports (drawing start nodeName)
      (ReportsCreated created fsc.key) fsc (ofPass fun conditionType _ _ =>
        conditionType = .fileSystemCreated))
  have storageClass := safe_ensureStorageClass readsSafely_drawing
    (silent (by simp [reportsStorageClass, reportsFailure, ResourceType.conditionType]))
    (safe_elsewhere_reportsCreated (by simp [Call.part?]))
    (fun _ _ => safe_elsewhere_reportsCreated (by simp [Call.part?]))
  exact ensures_orElse_of_safe fileSystem reported fun state reported =>
    ensures_orElse_of_safe filesystemConditions reported fun state reported =>
      (storageClass state reported).mono fun _ _ ensured => ensured.2

end Reports

/-! ## The conditions of the LocalDisks -/

section Conditions

variable {start cluster : Cluster} {fsc : FileSystemClaim} {nodeName : String}

/-- The LocalDisks are wanted to be reported as created when there are some and all
report their use. -/
theorem HasUsableDisks.wanted_iff (usable : HasUsableDisks cluster fsc) :
    (wantedLocalDiskCondition cluster fsc (ownFilesystems cluster fsc)).1 = .isTrue ↔
      ownedBy cluster fsc .localDisk ≠ [] ∧
        ∀ ld ∈ ownedBy cluster fsc .localDisk, reportsUse ld = true := by
  rw [wantedLocalDiskCondition_isTrue_iff]
  exact and_congr_right fun _ => forall₂_congr fun ld member =>
    (usable.usable ld member).checkResourceHealthy_iff

/-- A condition that is kept records what is wanted, or a migration. -/
theorem recorded_of_keepsCondition
    {conditionType : ConditionType} {status : ConditionStatus} {reason : Reason}
    {message : String}
    (kept : keepsCondition fsc conditionType status reason message = true) :
    (RecordsTrue fsc.conditions conditionType ↔ status = .isTrue) ∨
      status = .isTrue ∧
        hasConditionWithReason fsc.conditions conditionType .migrationComplete = true := by
  simp only [keepsCondition, Bool.or_eq_true, Bool.and_eq_true, decide_eq_true_eq] at kept
  refine kept.imp (fun recorded => ?_) And.symm
  unfold alreadyRecorded at recorded
  cases found : findStatusCondition fsc.conditions conditionType with
  | none => simp [found] at recorded
  | some previous =>
      simp only [found, Bool.and_eq_true, decide_eq_true_eq] at recorded
      simp [RecordsTrue, found, recorded.1.1]

/-- From the start of the pass the step reports the LocalDisks as created when the
claim recovers. -/
theorem ensures_syncLocalDiskConditions_recovers
    (usable : HasUsableDisks cluster fsc)
    (finds : beginsCreation fsc = true →
      storageNodes cluster ≠ [] ∧ creationEnds cluster fsc nodeName = true) :
    Ensures (drawing cluster nodeName) (syncLocalDiskConditions fsc)
      (orElse (ReportsCreated (Recovers cluster fsc nodeName) fsc.key)
        fun _ final => ReportsCreated (Recovers cluster fsc nodeName) fsc.key final)
      cluster := by
  have recorded := recordsTrue_iff usable.distinct .localDiskCreated
  refine ensures_syncLocalDiskConditions_exits admitsReads_drawing
    (fun faulty => absurd faulty not_failsReads_drawing) ?_
  rintro users (rfl | ⟨faulty, _⟩)
  rotate_left
  · exact absurd faulty not_failsReads_drawing
  refine ⟨fun kept => ?_, fun changes => ?_⟩
  · simp only [keepsLocalDiskCondition, usable.validated, Bool.not_true, Bool.and_false,
      Bool.false_or] at kept
    refine ⟨fsc, usable.stored, ?_⟩
    rcases recorded_of_keepsCondition kept with same | ⟨wanted, migrated⟩
    · rw [same, usable.wanted_iff]
      refine ⟨fun healthy => ⟨healthy.1, healthy.2, finds, fun _ => ?_⟩,
        fun recovers => ⟨recovers.nonempty, recovers.reported⟩⟩
      exact recorded.mp (same.mpr (usable.wanted_iff.mpr healthy))
    · have healthy := usable.wanted_iff.mp wanted
      rw [recorded]
      exact ⟨fun created => ⟨healthy.1, healthy.2, finds, fun _ => created⟩,
        fun recovers => recovers.honest migrated⟩
  · refine ensures_reportCondition_reportsCreated ⟨fsc, usable.stored⟩ ?_
    rw [usable.wanted_iff]
    refine ⟨fun healthy => ⟨healthy.1, healthy.2, finds, fun migrated => ?_⟩,
      fun recovers => ⟨recovers.nonempty, recovers.reported⟩⟩
    have wanted := usable.wanted_iff.mpr healthy
    simp [keepsLocalDiskCondition, keepsCondition, wanted, migrated] at changes

end Conditions

/-! ## A LocalDisk that has just been created -/

/-- The claim owns a LocalDisk without conditions, and says that its LocalDisks are not
created. -/
structure Unfinished (fsc : FileSystemClaim) (cluster : Cluster) : Prop where
  reported : ReportsCreated False fsc.key cluster
  blank : ∃ ld ∈ ownedBy cluster fsc .localDisk, ld.conditions = none

section Creation

variable {start cluster : Cluster} {fsc : FileSystemClaim} {nodeName : String}

theorem Unfinished.create
    (unfinished : Unfinished fsc cluster) (name : String) (spec : Value) :
    Unfinished fsc
      (cluster.afterCall (.create .localDisk (ownedObject fsc name spec))) := by
  refine ⟨unfinished.reported.elsewhere (by simp [Call.part?]), ?_⟩
  obtain ⟨ld, owned, blank⟩ := unfinished.blank
  refine ⟨ld, ?_, blank⟩
  cases stored : cluster.object? .localDisk (ownedObject fsc name spec).key with
  | none =>
      rw [@ownedBy_create cluster fsc .localDisk name stored]
      exact List.mem_append_left _ owned
  | some object =>
      have same : cluster.afterCall (.create .localDisk (ownedObject fsc name spec)) =
          cluster := by
        simp only [Cluster.afterCall, Cluster.answer, Cluster.create, stored]
      rw [same]
      exact owned

theorem allowsReports_unfinished
    {reports : ConditionType → ConditionStatus → Reason → Prop}
    (accords : Accords False reports) :
    AllowsReports (drawing start nodeName) (Unfinished fsc) fsc reports :=
  allowsReports_of_patch admitsReads_drawing fun state _ _ unfinished stored touches =>
    ⟨trivial, unfinished.reported.patchClaimStatus stored touches accords, by
      rw [ownedBy_afterCall (by simp [Call.part?])]
      exact unfinished.blank⟩

/-- Once a LocalDisk has been created the claim is unfinished, whatever comes next. -/
theorem ensures_createLocalDisk_unfinished
    {devicePath name : String} {devices : List String}
    (reported : ReportsCreated False fsc.key cluster)
    (free : cluster.object? .localDisk ⟨fsc.metadata.ns, name⟩ = none) :
    Ensures (drawing start nodeName) (createLocalDisk fsc nodeName devicePath name devices)
      (fun _ final => Unfinished fsc final) cluster := by
  have failures : AllowsReports (drawing start nodeName) (Unfinished fsc) fsc
      (ofPass (reportsFailure .localDisk)) :=
    allowsReports_unfinished fun status reason admitted => by simp [admitted.1.1]
  have creates : ∀ devicePath ∈ devices, ∀ name, Safe (drawing start nodeName)
      (Unfinished fsc) (request (.create .localDisk
        (ownedObject fsc name (localDiskSpec devicePath nodeName)))) := fun _ _ _ =>
    (safe_request (fun _ _ => trivial) fun _ unfinished => unfinished.create _ _).safe
  have follows : Safe (drawing start nodeName) (Unfinished fsc)
      (do
        let _ ← updateConditionIfChanged fsc .localDiskCreated .isFalse
          .localDiskCreationInProgress
          "LocalDisks created, waiting for them to become ready"
        createLocalDisks fsc nodeName devices true) :=
    (safe_updateConditionIfChanged failures ⟨⟨rfl, Or.inl rfl⟩, by simp⟩ _).andThen
      fun _ _ => safe_createLocalDisks readsSafely_drawing failures creates true
  have unfinished : Unfinished fsc (cluster.afterCall (.create .localDisk
      (ownedObject fsc name (localDiskSpec devicePath nodeName)))) := by
    refine ⟨reported.elsewhere (by simp [Call.part?]), ?_⟩
    rw [ownedBy_create free]
    exact ⟨_, List.mem_append_right _ (List.mem_singleton_self _), rfl⟩
  rw [ensures_bind, ensures_attempt]
  refine ensures_createResourceWithOwnership_free not_mayFail_drawing free trivial ?_
  exact (follows _ unfinished).mono fun _ _ ensured => ensured.2

/-- A pass that does not find its LocalDisks reports that they are not created, or goes on
with a claim that is unfinished. -/
theorem ensures_ensureLocalDisks_recovers (usable : HasUsableDisks cluster fsc) :
    Ensures (drawing cluster nodeName) (ensureLocalDisks fsc)
      (orElse
        (fun state => state = cluster ∧ (beginsCreation fsc = true →
            storageNodes cluster ≠ [] ∧ creationEnds cluster fsc nodeName = true) ∨
          ¬Recovers cluster fsc nodeName ∧ Unfinished fsc state)
        fun _ final => ReportsCreated (Recovers cluster fsc nodeName) fsc.key final)
      cluster := by
  have never : ∀ {Q : Prop}, FailsReads (drawing cluster nodeName) → Q :=
    fun faulty => absurd faulty not_failsReads_drawing
  refine ensures_ensureLocalDisks_exits admitsReads_drawing never
    (fun created _ => Or.inl ⟨rfl, fun begins => ?_⟩) (fun created different => ?_)
    (fun _ awaits => Or.inl ⟨rfl, fun begins => ?_⟩) (fun _ _ invalid => ?_)
    fun notCreated notAwaiting validated => ?_
  · simp [beginsCreation, created] at begins
  · rw [usable.devices] at different
    cases different
  · simp [beginsCreation, awaits] at begins
  · rw [usable.validated] at invalid
    cases invalid
  have begins : beginsCreation fsc = true := by
    simp [beginsCreation, notCreated, notAwaiting, validated]
  have missing : ReportsCreated False fsc.key cluster :=
    ⟨fsc, usable.stored, by simp [recordsTrue_iff usable.distinct, notCreated]⟩
  have denied : ¬Recovers cluster fsc nodeName → ∀ final,
      ReportsCreated False fsc.key final →
        ReportsCreated (Recovers cluster fsc nodeName) fsc.key final := by
    rintro stuck final ⟨cur, stored, reported⟩
    exact ⟨cur, stored, reported.trans (iff_of_false not_false stuck)⟩
  have fails : ¬Recovers cluster fsc nodeName → ∀ err {next : Cluster → Prop},
      Ensures (drawing cluster nodeName) (reportFailure fsc .localDisk err)
        (orElse next fun _ final => ReportsCreated (Recovers cluster fsc nodeName) fsc.key
          final) cluster := by
    intro stuck err next
    have failures : AllowsReports (drawing cluster nodeName) (ReportsCreated False fsc.key)
        fsc (ofPass (reportsFailure .localDisk)) :=
      allowsReports_reportsCreated fun status reason admitted => by simp [admitted.1.1]
    rw [ensures_bind]
    refine (safe_handleResourceCreationError failures err cluster missing).mono ?_
    rintro (failure | _) final ⟨_, reported⟩
    · exact denied stuck final reported
    · exact denied stuck final reported
  refine ⟨fun nodeless err => fails (fun recovers => ?_) err, fun drawn member draws => ?_⟩
  · exact nodeless.elim (recovers.finds begins).1 never
  obtain ⟨bound, choice, relied, rfl⟩ := draws
  rw [relied.2 bound rfl] at member ⊢
  have nodes : storageNodes cluster ≠ [] := List.ne_nil_of_mem member
  cases listed : fsc.devices with
  | nil => exact Or.inl ⟨rfl, fun _ => ⟨nodes, by rw [creationEnds, listed]⟩⟩
  | cons devicePath devices =>
      refine ensures_createLocalDisks_cons admitsReads_drawing never
        (fun unknown err => fails (fun recovers => ?_) err) (fun name named taken => ?_)
        fun name named free => ?_
      · have ends := (recovers.finds begins).2
        rcases unknown with nameless | faulty
        · simp [creationEnds, listed, nameless] at ends
        · exact never faulty
      · exact Or.inl ⟨rfl, fun _ => ⟨nodes, by simp only [creationEnds, listed, named, taken]⟩⟩
      · have stuck : ¬Recovers cluster fsc nodeName := fun recovers => by
          have ends := (recovers.finds begins).2
          simp [creationEnds, listed, named, free] at ends
        refine (ensures_createLocalDisk_unfinished missing free).mono ?_
        rintro (failure | _ | _) final unfinished
        · exact denied stuck final unfinished.reported
        · exact Or.inr ⟨stuck, unfinished⟩
        · exact denied stuck final unfinished.reported

/-- The LocalDisks of an unfinished claim are not reported as created. -/
theorem ensures_syncLocalDiskConditions_unfinished
    (unfinished : Unfinished fsc cluster) :
    Ensures (drawing start nodeName) (syncLocalDiskConditions fsc)
      (orElse (ReportsCreated False fsc.key)
        fun _ final => ReportsCreated False fsc.key final) cluster := by
  refine ensures_syncLocalDiskConditions_exits admitsReads_drawing
    (fun faulty => absurd faulty not_failsReads_drawing) fun users _ =>
      ⟨fun _ => unfinished.reported, fun _ => ?_⟩
  obtain ⟨cur, stored, _⟩ := unfinished.reported
  refine ensures_reportCondition_reportsCreated ⟨cur, stored⟩ ?_
  rw [wantedLocalDiskCondition_isTrue_iff]
  refine iff_of_false (fun healthy => ?_) not_false
  obtain ⟨ld, owned, blank⟩ := unfinished.blank
  have checked := healthy.2 ld owned
  simp [checkResourceHealthy, blank] at checked

end Creation

/-! ## The pass -/

section Pass

variable {cluster : Cluster} {fsc : FileSystemClaim} {nodeName : String}
  {r : FileSystemClaimReconciler}

theorem ensures_provision_recovers (usable : HasUsableDisks cluster fsc) :
    Ensures (drawing cluster nodeName) (provision fsc)
      (fun _ final => ReportsCreated (Recovers cluster fsc nodeName) fsc.key final)
      cluster := by
  refine ensures_provision_orElse
    ((ensures_ensureLocalDisks_recovers usable).mono ?_)
  rintro (failure | _ | _) state holds
  · exact holds
  · have synced : Ensures (drawing cluster nodeName) (syncLocalDiskConditions fsc)
        (orElse (ReportsCreated (Recovers cluster fsc nodeName) fsc.key)
          fun _ final => ReportsCreated (Recovers cluster fsc nodeName) fsc.key final)
        state := by
      rcases holds with ⟨rfl, finds⟩ | ⟨stuck, unfinished⟩
      · exact ensures_syncLocalDiskConditions_recovers usable finds
      · rw [eq_false stuck]
        exact ensures_syncLocalDiskConditions_unfinished unfinished
    refine synced.mono ?_
    rintro (failure | _ | _) final reported
    · exact reported
    · exact ensures_followingSteps_reportsCreated reported
    · exact reported
  · exact holds

theorem ensures_reconcile_recovers (usable : HasUsableDisks cluster fsc) :
    Ensures (drawing cluster nodeName) (reconcile r fsc.key)
      (fun _ final => ReportsCreated (Recovers cluster fsc nodeName) fsc.key final)
      cluster := by
  refine ensures_reconcile admitsReads_drawing (fun missing => ?_) (fun cur found => ?_)
    fun _ _ _ fails => absurd ⟨_, _, fails⟩ not_failsReads_drawing
  · rw [usable.stored] at missing
    cases missing
  rw [usable.stored] at found
  cases found
  rw [reconcileClaim_eq_provision (fun deleting => by rw [usable.live] at deleting; cases deleting)
    (Or.inr usable.finalized), ensures_bind]
  refine (ensures_provision_recovers usable).mono ?_
  rintro (failure | wrote) final reported
  · exact reported
  have ready : Safe (drawing cluster nodeName)
      (ReportsCreated (Recovers cluster fsc nodeName) fsc.key) (syncFSCReady fsc) :=
    safe_syncFSCReady (allowsReports_reportsCreated fun status reason admitted => by
      simp [reportsReady] at admitted)
  rw [onSuccess_ok, ensures_ite]
  refine ⟨fun _ => reported, fun _ => ?_⟩
  rw [ensures_bind]
  refine (ready final reported).mono ?_
  rintro (failure | _ | _) last ⟨_, kept⟩
  · exact kept
  · exact kept
  · exact kept

/-- A pass without failures on a claim with usable LocalDisks leaves it with
`LocalDiskCreated` true if and only if the claim recovers. -/
theorem localDiskCreated_recovers_iff
    (usable : HasUsableDisks cluster fsc)
    {choices : Nat → Choice}
    (succeeds : ∀ event ∈ (Program.run apiServer (reconcile r fsc.key).run choices cluster).log,
      Draws cluster nodeName event.request event.choice) :
    (∃ cur, (Program.run apiServer (reconcile r fsc.key).run choices cluster).state.claim?
        fsc.key = some cur ∧ RecordsTrue cur.conditions .localDiskCreated) ↔
      Recovers cluster fsc nodeName := by
  obtain ⟨cur, stored, reported⟩ :=
    (Program.Ensures.sound (ensures_reconcile_recovers usable) choices succeeds).2
  refine ⟨?_, fun recovers => ⟨cur, stored, reported.mpr recovers⟩⟩
  rintro ⟨other, found, created⟩
  rw [stored] at found
  cases found
  exact reported.mp created

end Pass

/-! ## A failure that is over -/

/-- A claim whose LocalDisk was used by another Filesystem. -/
def failedClaim : FileSystemClaim where
  metadata := readyClaim.metadata
  devices := ["/dev/sdb"]
  conditions := [
    { type := .deviceValidated, status := .isTrue, reason := .deviceValidationSucceeded },
    { type := .localDiskCreated, status := .isFalse, reason := .localDiskCreationFailed
      message := "LocalDisk uuid.1: LocalDisk is used by different filesystem \"other\"" }]

/-- The LocalDisk is healthy again; discovery lists some devices. -/
def healedCluster (discoveredDevices : List DiscoveredDevice) : Cluster :=
  { readyCluster with
    claims := [failedClaim]
    filesystems := []
    storageClasses := []
    discoveryResults := [⟨{ name := "discovery-result-node", ns := "operator" },
      discoveredDevices⟩] }

theorem hasUsableDisks_healedCluster (discoveredDevices : List DiscoveredDevice) :
    HasUsableDisks (healedCluster discoveredDevices) failedClaim where
  stored := rfl
  live := by decide
  finalized := by decide
  distinct := by decide
  validated := by decide
  devices := rfl
  usable := by
    have owned : ownedBy (healedCluster discoveredDevices) failedClaim .localDisk =
        [readyLocalDisk] := rfl
    simp only [owned, List.forall_mem_singleton]
    exact ⟨by decide, fun _ => ⟨by decide, List.mem_cons_self⟩⟩

theorem draws_healedCluster (discoveredDevices : List DiscoveredDevice) :
    ∀ event ∈ (Program.run apiServer (reconcile {} failedClaim.key).run calm
        (healedCluster discoveredDevices)).log,
      Draws (healedCluster discoveredDevices) "node" event.request event.choice := by
  intro event member
  obtain ⟨index, chosen⟩ := Program.choice_of_mem_log member
  rw [chosen]
  exact ⟨rfl, fun _ _ => rfl⟩

/-- The claim recovers while discovery lists the disk. -/
theorem localDiskCreated_recovers_iff_listed :
    ∃ cur, (Program.run apiServer (reconcile {} failedClaim.key).run calm
        (healedCluster [⟨"/dev/sdb", "uuid.1"⟩])).state.claim? failedClaim.key = some cur ∧
      RecordsTrue cur.conditions .localDiskCreated :=
  (localDiskCreated_recovers_iff (hasUsableDisks_healedCluster _)
    (draws_healedCluster _)).mpr {
      nonempty := by decide
      reported := by decide
      finds := fun _ => ⟨by decide, by decide⟩
      honest := by decide }

/-- It does not recover once discovery lists the disk no more. -/
theorem localDiskCreated_stuck :
    ¬ ∀ {cluster : Cluster} {fsc : FileSystemClaim} {nodeName : String},
      HasUsableDisks cluster fsc →
      ∀ choices : Nat → Choice,
        (∀ event ∈ (Program.run apiServer (reconcile {} fsc.key).run choices cluster).log,
          Draws cluster nodeName event.request event.choice) →
        ∃ cur, (Program.run apiServer (reconcile {} fsc.key).run choices
            cluster).state.claim? fsc.key = some cur ∧
          RecordsTrue cur.conditions .localDiskCreated := by
  intro recovers
  obtain ⟨cur, stored, created⟩ := recovers (hasUsableDisks_healedCluster []) calm
    (draws_healedCluster [])
  have reported : ((Program.run apiServer (reconcile {} failedClaim.key).run calm
      (healedCluster [])).state.claim? failedClaim.key).map (fun cur =>
        (findStatusCondition cur.conditions .localDiskCreated).map Condition.status) =
      some (some .isFalse) := by decide
  obtain ⟨condition, found, status⟩ := created
  rw [stored, Option.map_some, found, Option.map_some, status] at reported
  cases reported

end FusionAccess
