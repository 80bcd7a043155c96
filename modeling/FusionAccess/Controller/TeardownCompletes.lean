import FusionAccess.Controller.TeardownExits

/-!
# The deletion of a claim completes

A pass on a claim that is being deleted gets past the first milestone of the teardown
that the claim has not reached, unless volumes or a missing permission block it, or it
waits for something that is leaving. There are eight milestones, and the last one is
the end of the claim. If the conditions of the claim tell of all its children, none of
them is left then.
-/

namespace FusionAccess

open Kubernetes Interaction Fallible

/-! ## Milestones of the teardown -/

/-- Which milestones a teardown has reached. -/
def teardownMilestones (cluster : Cluster) (fsc : FileSystemClaim) : List Bool := [
  hasConditionWithReason fsc.conditions .ready .deletionRequested,
  !isConditionTrue fsc .storageClassCreated || storageClassLeaves cluster fsc,
  !isConditionTrue fsc .storageClassCreated,
  !isConditionTrue fsc .fileSystemCreated || allLeave cluster fsc .filesystem,
  !isConditionTrue fsc .fileSystemCreated,
  !isConditionTrue fsc .localDiskCreated || allLeave cluster fsc .localDisk,
  !isConditionTrue fsc .localDiskCreated,
  !hasFinalizer fsc]

/-- How far a teardown has to go. -/
def teardownDistance (cluster : Cluster) (fsc : FileSystemClaim) : Nat :=
  stepsLeft (teardownMilestones cluster fsc)

/-- Nothing blocks the deletion, and nothing is leaving. -/
def isPermitted (cluster : Cluster) (fsc : FileSystemClaim) : Bool :=
  (!isConditionTrue fsc .storageClassCreated ||
      !cluster.persistentVolumes.any (blocksDeletion fsc.metadata.name)) &&
    (!isConditionTrue fsc .fileSystemCreated ||
      isReleased (ownedBy cluster fsc .filesystem)) &&
    (cluster.storageClass? fsc.metadata.name).all (fun sc => !isLeaving sc.metadata) &&
    (ownedBy cluster fsc .filesystem).all (fun fs => !isLeaving fs.metadata) &&
    (ownedBy cluster fsc .localDisk).all fun ld => !isLeaving ld.metadata

/-- Nothing is there that the condition tells of. -/
def isAbsent (cluster : Cluster) (fsc : FileSystemClaim) : ConditionType → Bool
  | .storageClassCreated => (cluster.storageClass? fsc.metadata.name).isNone
  | .fileSystemCreated => (ownedBy cluster fsc .filesystem).isEmpty
  | .localDiskCreated => (ownedBy cluster fsc .localDisk).isEmpty
  | _ => true

/-- The conditions tell of everything that is there. -/
def Trusted (cluster : Cluster) (fsc : FileSystemClaim) : Prop :=
  ∀ conditionType, isConditionTrue fsc conditionType = false →
    isAbsent cluster fsc conditionType = true

/-- The teardown goes on: it is nearer to its end, unless it is blocked or waits. -/
structure Dismantles
    (cluster final : Cluster) (fsc cur : FileSystemClaim) : Prop where
  stored : final.claim? fsc.key = some cur
  key : cur.key = fsc.key
  tornDown : isTornDown cur = true
  trusted : Trusted cluster fsc → Trusted final cur
  nearer : teardownDistance final cur < teardownDistance cluster fsc ∨
    isPermitted cluster fsc = false ∧
      teardownDistance final cur = teardownDistance cluster fsc

/-- The claim is released: it is gone, or has lost the operator's finalizer, and
nothing is left that its conditions have told of. -/
structure Releases (cluster final : Cluster) (fsc : FileSystemClaim) : Prop where
  finalizer : ∀ cur, final.claim? fsc.key = some cur → hasFinalizer cur = false
  nothingLeft : Trusted cluster fsc → ∀ conditionType, isAbsent final fsc conditionType = true

/-- What a pass of the teardown does. -/
def Tears (cluster : Cluster) (fsc : FileSystemClaim) (final : Cluster) : Prop :=
  (∃ cur, Dismantles cluster final fsc cur) ∨ Releases cluster final fsc

section Reports

variable {conditionType : ConditionType} {status : ConditionStatus} {reason : Reason}
  {message : String} {cluster later : Cluster} {fsc patched : FileSystemClaim}

theorem Reported.isAbsent
    (after : Reported conditionType status reason message cluster later fsc patched)
    (other : ConditionType) : isAbsent later patched other = isAbsent cluster fsc other := by
  cases other <;> simp only [FusionAccess.isAbsent, after.storageClass?, after.ownedBy]

theorem Reported.trusted
    (after : Reported conditionType status reason message cluster later fsc patched)
    (absent : FusionAccess.isAbsent cluster fsc conditionType = true)
    (trusted : Trusted cluster fsc) : Trusted later patched := by
  intro other isFalse
  rw [after.isAbsent]
  by_cases same : other = conditionType
  · rw [same, absent]
  · rw [after.isConditionTrue_of_ne same] at isFalse
    exact trusted other isFalse

theorem Reported.allLeave
    (after : Reported conditionType status reason message cluster later fsc patched)
    (kind : Kind) : allLeave later patched kind = allLeave cluster fsc kind := by
  rw [FusionAccess.allLeave, after.ownedBy, FusionAccess.allLeave]

theorem Reported.storageClassLeaves
    (after : Reported conditionType status reason message cluster later fsc patched) :
    storageClassLeaves later patched = storageClassLeaves cluster fsc := by
  rw [FusionAccess.storageClassLeaves, after.storageClass?, FusionAccess.storageClassLeaves]

theorem Reported.marked_of_ne
    (after : Reported conditionType status reason message cluster later fsc patched)
    (different : conditionType ≠ .ready) :
    hasConditionWithReason patched.conditions .ready .deletionRequested =
      hasConditionWithReason fsc.conditions .ready .deletionRequested := by
  obtain ⟨now, reported⟩ := after.conditions
  rw [hasConditionWithReason, findStatusCondition_of_reported reported different.symm,
    hasConditionWithReason]

/-- What is reported as false is not true. -/
theorem Reported.isFalse
    (after : Reported conditionType .isFalse reason message cluster later fsc patched)
    (coherent : Coherent fsc.conditions) : isConditionTrue patched conditionType = false := by
  obtain ⟨now, reported⟩ := after.conditions
  have distinct : (patched.conditions.map Condition.type).Nodup := by
    rw [reported]
    exact Registry.nodup_upsert _ coherent.distinct
  rw [Bool.eq_false_iff, Ne, isConditionTrue_iff distinct, reported,
    findStatusCondition_withCondition, if_pos rfl]
  simp

/-- A block does not change how far the teardown has to go. -/
theorem Reported.teardownDistance
    (after : Reported .deletionBlocked status reason message cluster later fsc patched) :
    teardownDistance later patched = teardownDistance cluster fsc := by
  have others : ∀ other, other ≠ .deletionBlocked →
      isConditionTrue patched other = isConditionTrue fsc other :=
    fun other different => after.isConditionTrue_of_ne different
  simp only [FusionAccess.teardownDistance, teardownMilestones, after.allLeave,
    after.storageClassLeaves, after.marked_of_ne (show ConditionType.deletionBlocked ≠ .ready
      by decide), after.finalized, others .storageClassCreated (by decide),
    others .fileSystemCreated (by decide), others .localDiskCreated (by decide)]

end Reports

/-! ## A pass of the teardown -/

section Pass

variable {start cluster : Cluster} {fsc : FileSystemClaim} {nodeName : String}

/-- The teardown is nearer to its end when it gets to a milestone by a report. -/
theorem Reported.dismantles
    {conditionType : ConditionType} {status : ConditionStatus} {reason : Reason}
    {message : String} {later : Cluster} {patched : FileSystemClaim}
    (after : Reported conditionType status reason message cluster later fsc patched)
    (tornDown : isTornDown fsc = true)
    (absent : FusionAccess.isAbsent cluster fsc conditionType = true)
    (index : Nat)
    (pending : (teardownMilestones cluster fsc)[index]? = some false)
    (done : ∀ milestone ∈ (teardownMilestones later patched).take (index + 1),
      milestone = true) :
    Tears cluster fsc later :=
  Or.inl ⟨patched, after.stored, after.key, after.tornDown.trans tornDown,
    after.trusted absent, Or.inl (stepsLeft_lt_of_done index rfl pending done)⟩

/-- A blocked teardown stays where it is. -/
theorem tears_of_blocked
    {post : Except Failure Verdict → Cluster → Prop} {reason : Reason} {message : String}
    (stored : cluster.claim? fsc.key = some fsc)
    (tornDown : isTornDown fsc = true)
    (blocked : isPermitted cluster fsc = false)
    (ends : ∀ result final, EndsPass result → Tears cluster fsc final → post result final) :
    Ensures (drawing start nodeName) (blockDeletion fsc reason message) post cluster :=
  ensures_blockDeletion_drawing stored
    (fun _ stops => ends _ _ (endsPass_ok stops) (Or.inl ⟨fsc, stored, rfl, tornDown,
      fun trusted => trusted, Or.inr ⟨blocked, rfl⟩⟩))
    fun _ stops _ _ after => ends _ _ (endsPass_ok stops) (Or.inl ⟨_, after.stored, after.key,
      after.tornDown.trans tornDown, after.trusted rfl,
        Or.inr ⟨blocked, after.teardownDistance⟩⟩)

/-- A deletion takes nothing away from what the conditions tell of. -/
theorem Trusted.of_deletion
    {state : Cluster} {conditionType : ConditionType}
    (trusted : Trusted cluster fsc)
    (isTrue : isConditionTrue fsc conditionType = true)
    (others : ∀ other, other ≠ conditionType →
      isAbsent state fsc other = isAbsent cluster fsc other) :
    Trusted state fsc := by
  intro other isFalse
  have different : other ≠ conditionType := by
    rintro rfl
    rw [isTrue] at isFalse
    cases isFalse
  rw [others other different]
  exact trusted other isFalse

variable (stored : cluster.claim? fsc.key = some fsc) (tornDown : isTornDown fsc = true)

include stored tornDown

/-- After a deletion the teardown is nearer to its end if it was permitted. -/
theorem tears_of_deletion
    {state : Cluster} (index : Nat)
    (claims : state.claim? fsc.key = cluster.claim? fsc.key)
    (trusted : Trusted cluster fsc → Trusted state fsc)
    (does : teardownMilestones state fsc = (teardownMilestones cluster fsc).set index true)
    (earlier : ∀ milestone ∈ (teardownMilestones cluster fsc).take index, milestone = true)
    (inRange : index < (teardownMilestones cluster fsc).length)
    (leaving : (teardownMilestones cluster fsc)[index]? = some true →
      isPermitted cluster fsc = false) :
    Tears cluster fsc state := by
  refine Or.inl ⟨fsc, claims.trans stored, rfl, tornDown, trusted, ?_⟩
  rw [List.getElem?_eq_getElem inRange] at leaving
  rw [teardownDistance, teardownDistance, does]
  cases pending : (teardownMilestones cluster fsc)[index] with
  | false =>
      refine Or.inl (stepsLeft_lt_of_done index List.length_set
        (by rw [List.getElem?_eq_getElem inRange, pending]) ?_)
      rw [List.take_succ_eq_append_getElem (by simpa using inRange),
        List.take_set_of_le (Nat.le_refl index), List.getElem_set_self]
      simpa using earlier
  | true =>
      refine Or.inr ⟨leaving (by rw [pending]), ?_⟩
      rw [← pending, List.set_getElem_self]

theorem tears_deleteStorageClass
    (marked : hasConditionWithReason fsc.conditions .ready .deletionRequested = true)
    (created : isConditionTrue fsc .storageClassCreated = true)
    (present : (cluster.storageClass? fsc.metadata.name).isSome = true) :
    Tears cluster fsc (cluster.afterCall (.deleteStorageClass fsc.metadata.name)) := by
  have gone := storageClassLeaves_delete cluster fsc
  generalize state_eq : cluster.afterCall (.deleteStorageClass fsc.metadata.name) = state
    at gone
  have claims : state.claim? fsc.key = cluster.claim? fsc.key := by
    rw [← state_eq, cluster.claim?_afterCall (by simp [Call.part?])]
  have owned : ∀ kind, ownedBy state fsc kind = ownedBy cluster fsc kind := by
    intro kind
    rw [ownedBy, ← state_eq, cluster.objects_afterCall (by simp [Call.part?]), ownedBy]
  refine tears_of_deletion stored tornDown 1 claims (fun trusted => ?_) ?_
    (by simp [teardownMilestones, marked]) (by simp [teardownMilestones]) fun leaves => ?_
  · refine trusted.of_deletion created fun other different => ?_
    cases other <;> simp_all [isAbsent]
  · simp [teardownMilestones, allLeave, owned, gone]
  · obtain ⟨sc, found⟩ := Option.isSome_iff_exists.mp present
    have leaving : isLeaving sc.metadata = true := by
      simpa [teardownMilestones, created, storageClassLeaves, found] using leaves
    simp [isPermitted, found, leaving]

theorem tears_deleteFilesystem
    {fs : Unstructured}
    (marked : hasConditionWithReason fsc.conditions .ready .deletionRequested = true)
    (unclassed : isConditionTrue fsc .storageClassCreated = false)
    (created : isConditionTrue fsc .fileSystemCreated = true)
    (owned : ownedBy cluster fsc .filesystem = [fs]) :
    Tears cluster fsc (cluster.afterCall (.delete .filesystem fs.key)) := by
  have deleted : ∀ object, object ∈ (cluster.afterCall (.delete .filesystem fs.key)).objects
      .filesystem → isLeaving object.metadata = true ∨
        object ∈ cluster.objects .filesystem ∧ object.key ≠ fs.key :=
    fun _ => mem_objects_delete
  generalize state_eq : cluster.afterCall (.delete .filesystem fs.key) = state at deleted
  have claims : state.claim? fsc.key = cluster.claim? fsc.key := by
    rw [← state_eq, cluster.claim?_afterCall (by simp [Call.part?])]
  have classes : state.storageClass? fsc.metadata.name =
      cluster.storageClass? fsc.metadata.name := by
    rw [Cluster.storageClass?, ← state_eq,
      cluster.storageClasses_afterCall (by simp [Call.part?]), Cluster.storageClass?]
  have localDisks : ownedBy state fsc .localDisk = ownedBy cluster fsc .localDisk := by
    rw [ownedBy, ← state_eq, cluster.objects_afterCall (by simp [Call.part?]), ownedBy]
  have kept : allLeave state fsc .localDisk = allLeave cluster fsc .localDisk := by
    rw [allLeave, localDisks, allLeave]
  have gone : allLeave state fsc .filesystem = true := by
    rw [allLeave, List.all_eq_true]
    intro object member
    have member' := member
    rw [ownedBy, List.mem_filter, List.mem_filter] at member'
    rcases deleted object member'.1.1 with leaving | ⟨earlier, different⟩
    · exact leaving
    · have before : object ∈ ownedBy cluster fsc .filesystem := by
        rw [ownedBy, List.mem_filter, List.mem_filter]
        exact ⟨⟨earlier, member'.1.2⟩, member'.2⟩
      rw [owned, List.mem_singleton] at before
      exact absurd (before ▸ rfl) different
  refine tears_of_deletion stored tornDown 3 claims (fun trusted => ?_) ?_
    (by simp [teardownMilestones, marked, unclassed]) (by simp [teardownMilestones])
    fun leaves => ?_
  · refine trusted.of_deletion created fun other different => ?_
    cases other <;> simp_all [isAbsent]
  · simp [teardownMilestones, storageClassLeaves, classes, kept, gone]
  · have leaving : isLeaving fs.metadata = true := by
      simpa [teardownMilestones, created, allLeave, owned] using leaves
    simp [isPermitted, owned, leaving]

theorem tears_deleteLocalDisks
    {state : Cluster}
    (marked : hasConditionWithReason fsc.conditions .ready .deletionRequested = true)
    (unclassed : isConditionTrue fsc .storageClassCreated = false)
    (unfiled : isConditionTrue fsc .fileSystemCreated = false)
    (created : isConditionTrue fsc .localDiskCreated = true)
    (some : ownedBy cluster fsc .localDisk ≠ [])
    (thinned : Thinned cluster state
      ((ownedBy cluster fsc .localDisk).map Unstructured.key)) :
    Tears cluster fsc state := by
  have claims : state.claim? fsc.key = cluster.claim? fsc.key := by
    rw [Cluster.claim?, thinned.claims, Cluster.claim?]
  have classes : state.storageClass? fsc.metadata.name =
      cluster.storageClass? fsc.metadata.name := by
    rw [Cluster.storageClass?, thinned.storageClasses, Cluster.storageClass?]
  have filesystems : ownedBy state fsc .filesystem = ownedBy cluster fsc .filesystem := by
    rw [ownedBy, thinned.filesystems, ownedBy]
  have kept : allLeave state fsc .filesystem = allLeave cluster fsc .filesystem := by
    rw [allLeave, filesystems, allLeave]
  have gone : allLeave state fsc .localDisk = true := by
    rw [allLeave, List.all_eq_true]
    intro object member
    rw [ownedBy, List.mem_filter, List.mem_filter] at member
    rcases thinned.left object member.1.1 with leaving | ⟨earlier, other⟩
    · exact leaving
    · have before : object ∈ ownedBy cluster fsc .localDisk := by
        rw [ownedBy, List.mem_filter, List.mem_filter]
        exact ⟨⟨earlier, member.1.2⟩, member.2⟩
      exact absurd (List.mem_map_of_mem before) other
  refine tears_of_deletion stored tornDown 5 claims (fun trusted => ?_) ?_
    (by simp [teardownMilestones, marked, unclassed, unfiled]) (by simp [teardownMilestones])
    fun leaves => ?_
  · refine trusted.of_deletion created fun other different => ?_
    cases other <;> simp_all [isAbsent]
  · simp [teardownMilestones, storageClassLeaves, classes, kept, gone]
  · obtain ⟨ld, rest, owned⟩ := List.exists_cons_of_ne_nil some
    have leaving : isLeaving ld.metadata = true := by
      simp only [teardownMilestones, created, allLeave, owned] at leaves
      simp_all
    simp [isPermitted, owned, leaving]

/-- Without children to tell of, the finalizer goes. -/
theorem releases_dropFinalizer
    (unclassed : isConditionTrue fsc .storageClassCreated = false)
    (unfiled : isConditionTrue fsc .fileSystemCreated = false)
    (undisked : isConditionTrue fsc .localDiskCreated = false) :
    Releases cluster (cluster.afterCall (.patchClaimFinalizers fsc.key
      fsc.metadata.finalizers (dropFinalizer fsc).metadata.finalizers)) fsc where
  finalizer := by
    have dropped : hasFinalizer (dropFinalizer fsc) = false := by
      simp [hasFinalizer, dropFinalizer]
    have different : fsc.metadata.finalizers ≠ (dropFinalizer fsc).metadata.finalizers := by
      intro same
      rw [isTornDown, Bool.and_eq_true] at tornDown
      rw [hasFinalizer, ← same, ← hasFinalizer, tornDown.2] at dropped
      cases dropped
    intro cur found
    rw [Cluster.claim?_patchClaimFinalizers_of_different stored different] at found
    split at found
    · cases found
    · cases found
      exact dropped
  nothingLeft := by
    intro trusted conditionType
    have classes := cluster.storageClasses_afterCall (show (Call.patchClaimFinalizers fsc.key
      fsc.metadata.finalizers (dropFinalizer fsc).metadata.finalizers).part? ≠
        some .storageClasses by simp [Call.part?])
    have owned : ∀ kind, ownedBy (cluster.afterCall (.patchClaimFinalizers fsc.key
        fsc.metadata.finalizers (dropFinalizer fsc).metadata.finalizers)) fsc kind =
          ownedBy cluster fsc kind :=
      fun kind => ownedBy_afterCall (by simp [Call.part?]) fsc
    have same : isAbsent (cluster.afterCall (.patchClaimFinalizers fsc.key
        fsc.metadata.finalizers (dropFinalizer fsc).metadata.finalizers)) fsc conditionType =
          isAbsent cluster fsc conditionType := by
      cases conditionType <;> simp only [isAbsent, owned, Cluster.storageClass?, classes]
    rw [same]
    cases isTrue : isConditionTrue fsc conditionType with
    | false => exact trusted conditionType isTrue
    | true => cases conditionType <;> simp_all [isAbsent]

/-- `handleDeletion` ends the pass and the teardown goes on. -/
theorem tears_handleDeletion
    (coherent : Coherent fsc.conditions)
    (distinct : (cluster.localDisks.map Unstructured.key).Nodup) :
    Ensures (drawing start nodeName) (handleDeletion fsc)
      (fun result final => EndsPass result ∧ Tears cluster fsc final) cluster := by
  have ends : ∀ (next : Verdict → Act Verdict) (result : Except Failure Verdict)
      (final : Cluster), EndsPass result → Tears cluster fsc final →
        onSuccess
          (fun verdict => Ensures (drawing start nodeName)
            (if verdict.stops = true then return verdict else next verdict)
            fun result final => EndsPass result ∧ Tears cluster fsc final)
          (fun result final => EndsPass result ∧ Tears cluster fsc final)
          result final := by
    rintro next (failure | verdict) final stops tears
    · exact ⟨stops, tears⟩
    · rw [onSuccess_ok, if_pos (stops verdict rfl)]
      exact ⟨stops, tears⟩
  have changed : ∀ delay, EndsPass (.ok ⟨delay, true⟩) :=
    fun delay => endsPass_ok (by simp [Verdict.stops])
  have blocks : ∀ reason message, wantedBlock cluster fsc = some (reason, message) →
      isPermitted cluster fsc = false := by
    intro reason message wanted
    cases permitted : isPermitted cluster fsc with
    | false => rfl
    | true =>
        simp only [isPermitted, Bool.and_eq_true] at permitted
        rw [wantedBlock_of_released permitted.1.1.1.1 permitted.1.1.1.2] at wanted
        cases wanted
  have torn := tornDown
  rw [isTornDown, Bool.and_eq_true] at torn
  obtain ⟨deleting, present⟩ := torn
  unfold handleDeletion
  rw [if_neg (by simp [deleting]), if_neg (by simp [present]), ensures_bind]
  refine ensures_markDeletionRequested_drawing stored (fun marked => ?_)
    fun unmarked later patched after => ?_
  rotate_left
  · rw [onSuccess_ok, if_pos rfl]
    have marks : hasConditionWithReason patched.conditions .ready .deletionRequested = true :=
      hasConditionWithReason_of_keepsCondition after.keeps
    exact ⟨changed 0, after.dismantles tornDown rfl 0
      (by simp [teardownMilestones, unmarked]) (by simp [teardownMilestones, marks])⟩
  rw [onSuccess_ok, if_neg (by simp), ensures_bind]
  refine ensures_checkStorageClassUsage_exits admitsReads_drawing
    (fun reason message wanted =>
      tears_of_blocked stored tornDown (blocks _ _ wanted) (ends _))
    (fun faulty => absurd faulty not_failsReads_drawing) fun unused => ?_
  rw [onSuccess_ok, if_neg (by simp [Verdict.stops]), ensures_bind]
  refine ensures_checkFilesystemDeletionLabel_exits admitsReads_drawing unused
    (fun reason message wanted =>
      tears_of_blocked stored tornDown (blocks _ _ wanted) (ends _))
    (fun failed failure => ?_) fun released => ?_
  · obtain ⟨created, several⟩ := failed.resolve_left not_failsReads_drawing
    exact ends _ _ _ (endsPass_error failure) (Or.inl ⟨fsc, stored, rfl, tornDown,
      fun trusted => trusted, Or.inr ⟨by simp [isPermitted, created, several], rfl⟩⟩)
  rw [onSuccess_ok, if_neg (by simp [Verdict.stops]), ensures_bind]
  refine ensures_deleteStorageClass_drawing stored coherent (fun unclassed => ?_)
    (fun created there => ?_) fun created none reason message later patched after => ?_
  rotate_left
  · rw [onSuccess_ok, if_pos rfl]
    exact ⟨changed 0, tears_deleteStorageClass stored tornDown marked created there⟩
  · rw [onSuccess_ok, if_pos rfl]
    refine ⟨changed 0, after.dismantles tornDown (by simp [isAbsent, none]) 2
      (by simp [teardownMilestones, created]) ?_⟩
    simp [teardownMilestones, after.marked_of_ne, marked, after.isFalse coherent]
  rw [onSuccess_ok, if_neg (by simp), ensures_bind]
  refine ensures_deleteFilesystem_drawing stored coherent (fun unfiled => ?_)
    (fun created fs rest owned => ?_) fun created none reason message later patched after => ?_
  rotate_left
  · rw [created, owned] at released
    obtain rfl : rest = [] := by
      cases rest with
      | nil => rfl
      | cons second others => cases released
    exact ends _ _ _ (changed 45)
      (tears_deleteFilesystem stored tornDown marked unclassed created owned)
  · refine ends _ _ _ (changed 0) (after.dismantles tornDown (by simp [isAbsent, none]) 4
      (by simp [teardownMilestones, created]) ?_)
    simp [teardownMilestones, after.marked_of_ne, marked, after.isFalse coherent,
      after.isConditionTrue_of_ne, unclassed]
  rw [onSuccess_ok, if_neg (by simp [Verdict.stops]), ensures_bind]
  refine ensures_deleteLocalDisks_drawing stored coherent distinct (fun undisked => ?_)
    (fun created there final thinned => ?_)
    fun created none reason message later patched after => ?_
  rotate_left
  · exact ends _ _ _ (changed 30) (tears_deleteLocalDisks stored tornDown marked unclassed
      unfiled created there thinned)
  · refine ends _ _ _ (changed 0) (after.dismantles tornDown (by simp [isAbsent, none]) 6
      (by simp [teardownMilestones, created]) ?_)
    simp [teardownMilestones, after.marked_of_ne, marked, after.isFalse coherent,
      after.isConditionTrue_of_ne, unclassed, unfiled]
  rw [onSuccess_ok, if_neg (by simp [Verdict.stops])]
  unfold removeFinalizer
  simp only [ensures_bind]
  exact ensures_patchFSCSpec admitsReads_drawing stored trivial
    ⟨changed 0, Or.inr (releases_dropFinalizer stored tornDown unclassed unfiled undisked)⟩
    (fun _ _ _ mayFail => absurd ⟨_, _, _, mayFail⟩ not_faulty_drawing)
    fun _ _ _ mayFail => absurd ⟨_, _, _, mayFail⟩ not_faulty_drawing

/-- So does a pass. -/
theorem tears_reconcile
    (r : FileSystemClaimReconciler)
    (coherent : Coherent fsc.conditions)
    (distinct : (cluster.localDisks.map Unstructured.key).Nodup) :
    Ensures (drawing start nodeName) (reconcile r fsc.key)
      (fun _ final => Tears cluster fsc final) cluster := by
  have deleting : isDeleting fsc = true := by
    rw [isTornDown, Bool.and_eq_true] at tornDown
    exact tornDown.1
  refine ensures_reconcile admitsReads_drawing (fun missing => ?_) (fun cur found => ?_)
    fun _ _ _ fails => absurd ⟨_, _, fails⟩ not_failsReads_drawing
  · rw [stored] at missing
    cases missing
  rw [stored] at found
  cases found
  unfold reconcileClaim handleFinalizers
  rw [if_pos deleting, ensures_bind, ensures_pure, onSuccess_ok, if_neg (by simp),
    ensures_bind]
  refine (tears_handleDeletion stored tornDown coherent distinct).mono ?_
  rintro (failure | verdict) final ⟨ends, tears⟩
  · exact tears
  · have stops := ends verdict rfl
    simp only [onSuccess_ok, ensures_ite, ensures_pure, tears, implies_true, true_and]
    intro noDelay unchanged
    simp [Verdict.stops, noDelay, unchanged] at stops

end Pass

/-! ## Between two passes -/

/-- The claim stays as it is, and nothing that it owns comes back. -/
structure Clears (before after : Cluster) (fsc cur : FileSystemClaim) : Prop where
  stored : after.claim? fsc.key = some cur
  spec : Cluster.SameSpec fsc cur
  finalizers : cur.metadata.finalizers = fsc.metadata.finalizers
  conditions : cur.conditions = fsc.conditions
  children : ∀ kind, ∀ object ∈ ownedBy after fsc kind, ∃ earlier ∈ ownedBy before fsc kind,
    isLeaving earlier.metadata = true → isLeaving object.metadata = true
  storageClass : ∀ sc, after.storageClass? fsc.metadata.name = some sc →
    ∃ earlier, before.storageClass? fsc.metadata.name = some earlier ∧
      (isLeaving earlier.metadata = true → isLeaving sc.metadata = true)

/-- Nothing interferes with the teardown of the claim of the given key. -/
structure Clearing (key : NamespacedName) (before after : Cluster) : Prop where
  leaves : LeavesConditions before after
  clears : ∀ fsc, before.claim? key = some fsc → isTornDown fsc = true →
    ∃ cur, Clears before after fsc cur

section Clears

variable {before after : Cluster} {fsc cur : FileSystemClaim}
  (clears : Clears before after fsc cur)

include clears

theorem Clears.isConditionTrue (conditionType : ConditionType) :
    isConditionTrue cur conditionType = isConditionTrue fsc conditionType := by
  rw [FusionAccess.isConditionTrue, clears.conditions, FusionAccess.isConditionTrue]

theorem Clears.ownedBy (kind : Kind) : ownedBy after cur kind = ownedBy after fsc kind :=
  ownedBy_of_key_eq clears.spec.key after kind

theorem Clears.storageClass? :
    after.storageClass? cur.metadata.name = after.storageClass? fsc.metadata.name := by
  rw [show cur.metadata.name = fsc.metadata.name from
    congrArg NamespacedName.name clears.spec.key]

theorem Clears.hasFinalizer : hasFinalizer cur = hasFinalizer fsc := by
  rw [FusionAccess.hasFinalizer, clears.finalizers, FusionAccess.hasFinalizer]

theorem Clears.isTornDown : isTornDown cur = isTornDown fsc := by
  rw [FusionAccess.isTornDown, isDeleting, clears.spec.deletionTimestamp,
    clears.hasFinalizer, FusionAccess.isTornDown, isDeleting]

/-- What was gone stays gone. -/
theorem Clears.isAbsent
    {conditionType : ConditionType} (absent : isAbsent before fsc conditionType = true) :
    isAbsent after cur conditionType = true := by
  have gone : ∀ kind, (FusionAccess.ownedBy before fsc kind).isEmpty = true →
      (FusionAccess.ownedBy after cur kind).isEmpty = true := by
    intro kind none
    rw [List.isEmpty_iff] at none ⊢
    rw [clears.ownedBy, List.eq_nil_iff_forall_not_mem]
    intro object member
    obtain ⟨earlier, listed, _⟩ := clears.children kind object member
    simp [none] at listed
  have unclassed : (before.storageClass? fsc.metadata.name).isNone = true →
      (after.storageClass? cur.metadata.name).isNone = true := by
    intro none
    rw [clears.storageClass?, Option.isNone_iff_eq_none, Option.eq_none_iff_forall_not_mem]
    intro sc found
    obtain ⟨earlier, there, _⟩ := clears.storageClass sc found
    simp [there] at none
  cases conditionType with
  | storageClassCreated => exact unclassed absent
  | fileSystemCreated => exact gone .filesystem absent
  | localDiskCreated => exact gone .localDisk absent
  | _ => rfl

theorem Clears.trusted (trusted : Trusted before fsc) : Trusted after cur := by
  intro conditionType isFalse
  rw [clears.isConditionTrue] at isFalse
  exact clears.isAbsent (trusted conditionType isFalse)

theorem Clears.allLeave
    {kind : Kind} (leave : allLeave before fsc kind = true) :
    allLeave after cur kind = true := by
  rw [FusionAccess.allLeave, List.all_eq_true] at leave ⊢
  intro object member
  rw [clears.ownedBy] at member
  obtain ⟨earlier, listed, leaving⟩ := clears.children kind object member
  exact leaving (leave earlier listed)

theorem Clears.storageClassLeaves (leaves : storageClassLeaves before fsc = true) :
    storageClassLeaves after cur = true := by
  rw [FusionAccess.storageClassLeaves, Option.all_eq_true] at leaves ⊢
  intro sc found
  rw [clears.storageClass?] at found
  obtain ⟨earlier, there, leaving⟩ := clears.storageClass sc found
  exact leaving (leaves earlier there)

/-- The teardown does not fall back between two passes. -/
theorem Clears.teardownDistance_le :
    teardownDistance after cur ≤ teardownDistance before fsc := by
  refine stepsLeft_mono ?_
  simp only [teardownMilestones, List.forall₂_cons, List.Forall₂.nil, and_true,
    clears.conditions, clears.isConditionTrue, clears.hasFinalizer, imp_self, true_and,
    Bool.or_eq_true]
  exact ⟨Or.imp_right clears.storageClassLeaves, Or.imp_right clears.allLeave,
    Or.imp_right clears.allLeave⟩

end Clears

/-! ## The sequence of passes -/

/-- Nothing keeps the teardown of the claim of the given key from going on. -/
def permittedAt (key : NamespacedName) (cluster : Cluster) : Bool :=
  (cluster.claim? key).all (isPermitted cluster)

/-- How far the teardown of the claim of the given key has to go. -/
def teardownDistanceAt (key : NamespacedName) (cluster : Cluster) : Nat :=
  ((cluster.claim? key).map (teardownDistance cluster)).getD 0

/-- The claim of the given key is being torn down. If it can be, its conditions are
trusted. -/
structure TornDown
    (trusts : Prop) (key : NamespacedName) (cluster : Cluster) : Prop where
  coherent : AllCoherent cluster
  claim : ∃ fsc, cluster.claim? key = some fsc ∧ isTornDown fsc = true ∧
    (trusts → Trusted cluster fsc)

/-- The claim has lost the operator's finalizer, and nothing is left of its children if
its conditions can be trusted. -/
structure Released (trusts : Prop) (fsc : FileSystemClaim) (cluster : Cluster) : Prop where
  finalizer : ∀ cur, cluster.claim? fsc.key = some cur → hasFinalizer cur = false
  nothingLeft : trusts → ∀ conditionType, isAbsent cluster fsc conditionType = true

theorem isAbsent_of_key_eq
    {fsc cur : FileSystemClaim} (key : cur.key = fsc.key)
    (cluster : Cluster) (conditionType : ConditionType) :
    isAbsent cluster cur conditionType = isAbsent cluster fsc conditionType := by
  have name : cur.metadata.name = fsc.metadata.name := congrArg NamespacedName.name key
  cases conditionType <;> simp only [isAbsent, name, ownedBy_of_key_eq key]

section Passes

variable {r : FileSystemClaimReconciler} {fsc : FileSystemClaim} {trusts : Prop}

/-- A pass releases the claim, or the teardown goes on. -/
theorem TornDown.next
    {pick : Nat} {before after : Cluster}
    (tornDown : TornDown trusts fsc.key before)
    (distinct : (before.localDisks.map Unstructured.key).Nodup)
    (clearing : Clearing fsc.key
      ((calmPass fsc.key pick before).outcome (reconciler r)).state after) :
    Released trusts fsc ((calmPass fsc.key pick before).outcome (reconciler r)).state ∨
      TornDown trusts fsc.key after ∧
        teardownDistanceAt fsc.key after ≤ teardownDistanceAt fsc.key before ∧
        (permittedAt fsc.key before = true →
          teardownDistanceAt fsc.key after < teardownDistanceAt fsc.key before) := by
  obtain ⟨coherent, cur, stored, torn, trusted⟩ := tornDown
  have keyed : cur.key = fsc.key := (Registry.find?_eq_some stored).2
  have kept := (@passLog_of_ensures _ _ (calmPass fsc.key pick before) _
    (ensures_reconcile_coherent r fsc.key coherent) fun _ _ => trivial).2
  have tears := (@passLog_of_ensures _ _ (calmPass fsc.key pick before) _
    (keyed ▸ @tears_reconcile before before cur (drawnNode before pick) (keyed ▸ stored) torn
      r (coherent _ cur stored) distinct)
    fun event member => by
      have drawn : Draws before (drawnNode before pick) event.request event.choice := by
        rw [choice_of_calmPass member]
        exact ⟨rfl, fun _ _ => rfl⟩
      exact drawn).2
  rcases tears with ⟨patched, dismantles⟩ | releases
  · have storedThen := dismantles.stored
    rw [keyed] at storedThen
    obtain ⟨next, clears⟩ := clearing.clears patched storedThen dismantles.tornDown
    have storedNow := clears.stored
    rw [dismantles.key, keyed] at storedNow
    have falls := clears.teardownDistance_le
    refine Or.inr ⟨⟨kept.mono clearing.leaves, next, storedNow,
      clears.isTornDown.trans dismantles.tornDown,
      fun trusts => clears.trusted (dismantles.trusted (trusted trusts))⟩, ?_⟩
    simp only [teardownDistanceAt, permittedAt, stored, storedNow, Option.map_some,
      Option.getD_some, Option.all_some]
    rcases dismantles.nearer with nearer | ⟨blocked, same⟩
    · exact ⟨falls.trans nearer.le, fun _ => falls.trans_lt nearer⟩
    · refine ⟨falls.trans same.le, fun permitted => ?_⟩
      rw [blocked] at permitted
      cases permitted
  · refine Or.inl ⟨keyed ▸ releases.finalizer, fun trusts conditionType => ?_⟩
    rw [← isAbsent_of_key_eq keyed]
    exact releases.nothingLeft (trusted trusts) conditionType

/-- Passes in which no call fails find the teardown of a claim permitted eight times.
Then one of them has released the claim; if the conditions of the claim could be trusted
at the start, nothing was left of its children. -/
theorem deletion_completes
    {picks : Nat → Nat} {states : Nat → Cluster} {count : Nat}
    (stored : (states 0).claim? fsc.key = some fsc)
    (tornDown : isTornDown fsc = true)
    (coherent : AllCoherent (states 0))
    (distinct : ∀ index < count, ((states index).localDisks.map Unstructured.key).Nodup)
    (clearing : ∀ index < count, Clearing fsc.key
      ((calmPass fsc.key (picks index) (states index)).outcome (reconciler r)).state
      (states (index + 1)))
    (enough : 8 ≤ Nat.count (fun index => permittedAt fsc.key (states index) = true) count) :
    ∃ index < count, Released (Trusted (states 0) fsc) fsc
      ((calmPass fsc.key (picks index) (states index)).outcome (reconciler r)).state := by
  by_contra never
  have next : ∀ index < count, TornDown (Trusted (states 0) fsc) fsc.key (states index) →
      TornDown (Trusted (states 0) fsc) fsc.key (states (index + 1)) ∧
        teardownDistanceAt fsc.key (states (index + 1)) ≤
          teardownDistanceAt fsc.key (states index) ∧
        (permittedAt fsc.key (states index) = true →
          teardownDistanceAt fsc.key (states (index + 1)) <
            teardownDistanceAt fsc.key (states index)) := by
    intro index earlier torn
    exact (torn.next (distinct index earlier) (clearing index earlier)).resolve_left
      fun released => never ⟨index, earlier, released⟩
  have torn : ∀ index ≤ count, TornDown (Trusted (states 0) fsc) fsc.key (states index) := by
    intro index
    induction index with
    | zero => exact fun _ => ⟨coherent, fsc, stored, tornDown, fun trusted => trusted⟩
    | succ index inductionHypothesis =>
        exact fun earlier => (next index earlier (inductionHypothesis (Nat.le_of_lt earlier))).1
  have spent := @spent_of_goodTurns (fun index => teardownDistanceAt fsc.key (states index))
    (fun index => permittedAt fsc.key (states index) = true) _ count
    (fun index earlier => (next index earlier (torn index (Nat.le_of_lt earlier))).2.1)
    fun index earlier good =>
      Or.inr ((next index earlier (torn index (Nat.le_of_lt earlier))).2.2 good)
  have most : teardownDistanceAt fsc.key (states 0) ≤ 8 := by
    rw [teardownDistanceAt, stored]
    exact stepsLeft_le _
  have some : teardownDistanceAt fsc.key (states count) ≠ 0 := by
    obtain ⟨cur, found, torn, _⟩ := (torn count (Nat.le_refl count)).claim
    rw [teardownDistanceAt, found, Option.map_some, Option.getD_some, teardownDistance, Ne,
      stepsLeft_eq_zero]
    intro reached
    have last := reached (!hasFinalizer cur) (by simp [teardownMilestones])
    rw [isTornDown, Bool.and_eq_true] at torn
    rw [torn.2] at last
    cases last
  omega

end Passes

theorem allCoherent_of_discarded
    {cluster : Cluster} (claims : cluster.claims = [discardedClaim]) : AllCoherent cluster := by
  intro key fsc stored
  have listed := (Registry.find?_eq_some stored).1
  rw [claims] at listed
  rw [List.mem_singleton.mp listed]
  have met : ∀ condition ∈ readyClaim.conditions, condition.status = .isTrue := by decide
  exact ⟨by decide, fun _ condition found _ => met condition (Registry.find?_eq_some found).1,
    fun _ _ _ => ⟨_, rfl, rfl⟩⟩

theorem clearing_refl (key : NamespacedName) (cluster : Cluster) :
    Clearing key cluster cluster where
  leaves := fun key fsc stored => Or.inr ⟨fsc, stored, rfl⟩
  clears := by
    intro fsc stored _
    obtain rfl : fsc.key = key := (Registry.find?_eq_some stored).2
    exact ⟨fsc, stored, Cluster.SameSpec.refl fsc, rfl, rfl,
      fun _ object member => ⟨object, member, fun leaving => leaving⟩,
      fun sc found => ⟨sc, found, fun leaving => leaving⟩⟩

theorem deletion_completes_discarded :
    ∃ index < 8, Released (Trusted (discarded 0) discardedClaim) discardedClaim
      ((calmPass readyKey 0 (discarded index)).outcome (reconciler {})).state := by
  exact @deletion_completes {} discardedClaim (fun _ => 0) discarded 8 rfl rfl
    (allCoherent_of_discarded rfl) (by decide +kernel) (fun index _ => clearing_refl _ _) (by decide +kernel)

end FusionAccess
