import FusionAccess.Controller.Milestones
import FusionAccess.Controller.TeardownContracts

/-!
# The exits of the teardown when no call fails

Each step of the teardown passes, deletes something, or records that there is nothing
left to delete. An object that is deleted is gone, or it leaves as soon as its
finalizers are gone.
-/

namespace FusionAccess

open Kubernetes Interaction Fallible

/-! ## Deleted objects -/

/-- The object is gone as soon as its finalizers are. -/
def isLeaving (metadata : ObjectMeta) : Bool :=
  metadata.deletionTimestamp.isSome

/-- All objects of a kind that the claim owns are leaving. -/
def allLeave (cluster : Cluster) (fsc : FileSystemClaim) (kind : Kind) : Bool :=
  (ownedBy cluster fsc kind).all fun object => isLeaving object.metadata

/-- The StorageClass is leaving, if there is one. -/
def storageClassLeaves (cluster : Cluster) (fsc : FileSystemClaim) : Bool :=
  (cluster.storageClass? fsc.metadata.name).all fun sc => isLeaving sc.metadata

theorem isLeaving_terminate (cluster : Cluster) (metadata : ObjectMeta) :
    isLeaving (cluster.terminate metadata) = true := by
  rw [isLeaving, Cluster.terminate, Option.isSome_or, Option.isSome_some, Bool.or_true]

section Deletion

variable {cluster : Cluster} {kind : Kind} {key : NamespacedName}

/-- What is still there after a deletion is leaving, or is another object. -/
theorem mem_objects_delete
    {object : Unstructured}
    (member : object ∈ (cluster.afterCall (.delete kind key)).objects kind) :
    isLeaving object.metadata = true ∨ object ∈ cluster.objects kind ∧ object.key ≠ key := by
  cases found : cluster.object? kind key with
  | none =>
      simp only [Cluster.afterCall, Cluster.answer, Cluster.delete, found] at member
      exact Or.inr ⟨member, Registry.find?_eq_none.mp found object member⟩
  | some stored =>
      simp only [Cluster.afterCall, Cluster.answer, Cluster.delete, found] at member
      split at member
      · rw [Cluster.objects_withObjects, Registry.mem_remove] at member
        exact Or.inr member
      · rw [Cluster.objects_withObjects, Registry.mem_amend] at member
        rcases member with other | ⟨original, _, _, rfl⟩
        · exact Or.inr other
        · exact Or.inl (isLeaving_terminate cluster original.metadata)

/-- Other objects are still there. -/
theorem mem_objects_delete_of_ne
    {object : Unstructured}
    (member : object ∈ cluster.objects kind) (different : object.key ≠ key) :
    object ∈ (cluster.afterCall (.delete kind key)).objects kind := by
  cases found : cluster.object? kind key with
  | none =>
      simp only [Cluster.afterCall, Cluster.answer, Cluster.delete, found]
      exact member
  | some stored =>
      simp only [Cluster.afterCall, Cluster.answer, Cluster.delete, found]
      split
      · rw [Cluster.objects_withObjects, Registry.mem_remove]
        exact ⟨member, different⟩
      · rw [Cluster.objects_withObjects, Registry.mem_amend]
        exact Or.inl ⟨member, different⟩

/-- An object that is there can be deleted. -/
theorem answer_delete
    {object : Unstructured} (pick : Nat)
    (member : object ∈ cluster.objects kind) :
    (cluster.answer pick (.delete kind object.key)).2 = .ok () := by
  obtain ⟨stored, found⟩ : ∃ stored, cluster.object? kind object.key = some stored :=
    Option.isSome_iff_exists.mp (Registry.find?_isSome_of_mem member)
  simp only [Cluster.answer, Cluster.delete, found]
  split <;> rfl

theorem storageClassLeaves_delete (cluster : Cluster) (fsc : FileSystemClaim) :
    storageClassLeaves
      (cluster.afterCall (.deleteStorageClass fsc.metadata.name)) fsc = true := by
  rw [storageClassLeaves, Option.all_eq_true]
  intro sc stored
  cases found : cluster.storageClass? fsc.metadata.name with
  | none =>
      simp only [Cluster.afterCall, Cluster.answer, Cluster.deleteStorageClass, found] at stored
      cases stored
  | some current =>
      rw [cluster.storageClass?_deleteStorageClass found] at stored
      split at stored
      · cases stored
      · obtain rfl := Option.some.inj stored
        exact isLeaving_terminate cluster current.metadata

end Deletion

/-! ### A list of LocalDisks -/

/-- The LocalDisks of the given keys are gone or leaving, and all others are there. -/
structure Thinned (start state : Cluster) (keys : List NamespacedName) : Prop
    extends SameButLocalDisks start state where
  storageClasses : state.storageClasses = start.storageClasses
  left : ∀ object ∈ state.objects .localDisk, isLeaving object.metadata = true ∨
    object ∈ start.objects .localDisk ∧ object.key ∉ keys
  there : ∀ object ∈ start.objects .localDisk, object.key ∉ keys →
    object ∈ state.objects .localDisk

theorem Thinned.delete
    {start state : Cluster} {keys : List NamespacedName}
    (thinned : Thinned start state keys) (key : NamespacedName) :
    Thinned start (state.afterCall (.delete .localDisk key)) (keys ++ [key]) where
  toSameButLocalDisks := thinned.toSameButLocalDisks.delete key
  storageClasses := by
    rw [state.storageClasses_afterCall (by simp [Call.part?]), thinned.storageClasses]
  left := by
    intro object member
    rcases mem_objects_delete member with leaving | ⟨earlier, different⟩
    · exact Or.inl leaving
    · exact (thinned.left object earlier).imp_right fun kept =>
        ⟨kept.1, by simp [kept.2, different]⟩
  there := by
    intro object member other
    rw [List.mem_append, List.mem_singleton, not_or] at other
    exact mem_objects_delete_of_ne (thinned.there object member other.1) other.2

section Exits

variable {start cluster : Cluster} {fsc : FileSystemClaim} {nodeName : String}

/-- When no call fails all of them are deleted. -/
theorem ensures_deleteEach_drawing
    {lds : List Unstructured} {keys : List NamespacedName} {state : Cluster}
    (listed : ∀ ld ∈ lds, ld ∈ cluster.objects .localDisk)
    (distinct : (keys ++ lds.map Unstructured.key).Nodup)
    (thinned : Thinned cluster state keys) :
    Ensures (drawing start nodeName) (deleteEach lds)
      (fun result final => result = .ok () ∧
        Thinned cluster final (keys ++ lds.map Unstructured.key)) state := by
  induction lds generalizing keys state with
  | nil =>
      rw [deleteEach, ensures_pure]
      simpa using thinned
  | cons ld lds inductionHypothesis =>
      have new : ld.key ∉ keys := by
        have apart := List.disjoint_of_nodup_append distinct
        exact fun earlier => apart earlier List.mem_cons_self
      have there := thinned.there ld (listed ld List.mem_cons_self) new
      rw [deleteEach, ensures_bind]
      refine ensures_request trivial (fun pick => ?_)
        (fun _ _ mayFail => absurd ⟨_, _, _, mayFail⟩ not_faulty_drawing)
        fun _ _ mayFail => absurd ⟨_, _, _, mayFail⟩ not_faulty_drawing
      rw [answer_delete pick there, onSuccess_ok]
      have rest := inductionHypothesis
        (fun other member => listed other (List.mem_cons_of_mem _ member))
        (by simpa using distinct) (thinned.delete ld.key)
      simpa using rest

/-! ## The steps -/

/-- A condition that is true is not kept when it is to be false. -/
theorem Coherent.changes_of_true
    {conditionType : ConditionType} {reason : Reason} {message : String}
    (coherent : Coherent fsc.conditions)
    (isTrue : isConditionTrue fsc conditionType = true) :
    keepsCondition fsc conditionType .isFalse reason message = false := by
  cases kept : keepsCondition fsc conditionType .isFalse reason message with
  | false => rfl
  | true =>
      obtain ⟨condition, found, status⟩ := status_of_keepsCondition coherent.migrated kept
      obtain ⟨other, found', status'⟩ := find?_of_isConditionTrue coherent.distinct isTrue
      rw [found] at found'
      cases found'
      rw [status] at status'
      cases status'

variable (stored : cluster.claim? fsc.key = some fsc)

include stored

/-- A deletion that is not marked is marked. -/
theorem ensures_markDeletionRequested_drawing
    {post : Except Failure Bool → Cluster → Prop}
    (marked : hasConditionWithReason fsc.conditions .ready .deletionRequested = true →
      post (.ok false) cluster)
    (marks : hasConditionWithReason fsc.conditions .ready .deletionRequested = false →
      ∀ later patched, Reported .ready .isFalse .deletionRequested deletionMessage cluster
        later fsc patched → post (.ok true) later) :
    Ensures (drawing start nodeName) (markDeletionRequested fsc) post cluster := by
  unfold markDeletionRequested
  simp only [ensures_ite, ensures_pure]
  refine ⟨fun unmarked => ?_, fun already => marked (by simpa using already)⟩
  exact ensures_updateCondition
    (fun kept => marked (hasConditionWithReason_of_keepsCondition kept)) fun changes =>
      ensures_reportCondition_drawing stored changes (marks (by simpa using unmarked))

/-- A block is reported, unless it is already. -/
theorem ensures_blockDeletion_drawing
    {reason : Reason} {message : String}
    {post : Except Failure Verdict → Cluster → Prop}
    (kept : ∀ verdict : Verdict, verdict.stops = true → post (.ok verdict) cluster)
    (blocks : ∀ verdict : Verdict, verdict.stops = true → ∀ later patched,
      Reported .deletionBlocked .isTrue reason message cluster later fsc patched →
        post (.ok verdict) later) :
    Ensures (drawing start nodeName) (blockDeletion fsc reason message) post cluster := by
  have waits : ∀ changed final,
      (∀ verdict : Verdict, verdict.stops = true → post (.ok verdict) final) →
        Ensures (drawing start nodeName)
          (do
            let now ← request .now
            return (⟨calculateDeletionBackoff fsc reason now, changed⟩ : Verdict))
          post final := by
    intro changed final ends
    rw [ensures_bind]
    refine ensures_local trivial rfl rfl fun pick => ends _ ?_
    have positive := calculateDeletionBackoff_pos fsc reason final.clock
    simp [Verdict.stops, positive]
  unfold blockDeletion
  rw [ensures_bind]
  exact ensures_updateCondition (fun _ => waits false cluster kept) fun changes =>
    ensures_reportCondition_drawing stored changes fun later patched after =>
      waits true later fun verdict stops => blocks verdict stops later patched after

variable (coherent : Coherent fsc.conditions)

include coherent

/-- `deleteStorageClass` passes, deletes, or records the deletion. -/
theorem ensures_deleteStorageClass_drawing
    {post : Except Failure Bool → Cluster → Prop}
    (passes : isConditionTrue fsc .storageClassCreated = false → post (.ok false) cluster)
    (deletes : isConditionTrue fsc .storageClassCreated = true →
      (cluster.storageClass? fsc.metadata.name).isSome = true →
        post (.ok true) (cluster.afterCall (.deleteStorageClass fsc.metadata.name)))
    (records : isConditionTrue fsc .storageClassCreated = true →
      cluster.storageClass? fsc.metadata.name = none →
        ∀ reason message later patched, Reported .storageClassCreated .isFalse reason
          message cluster later fsc patched → post (.ok true) later) :
    Ensures (drawing start nodeName) (deleteStorageClass fsc) post cluster := by
  unfold deleteStorageClass
  simp only [ensures_ite, ensures_pure, ensures_bind, ensures_attempt]
  refine ⟨fun skipped => passes (by simpa using skipped), fun created => ?_⟩
  have isTrue : isConditionTrue fsc .storageClassCreated = true := by simpa using created
  refine ensures_read admitsReads_drawing rfl (fun pick => ?_)
    fun _ _ mayFail => absurd ⟨_, _, _, mayFail⟩ not_faulty_drawing
  cases found : cluster.storageClass? fsc.metadata.name with
  | none =>
      simp only [Cluster.answer, found, onSuccess_ok, ensures_ite, ensures_throw]
      refine ⟨fun present => absurd rfl present, fun _ => ensures_updateCondition
        (fun kept => ?_) fun changes => ensures_reportCondition_drawing stored changes
          (records isTrue found _ _)⟩
      rw [coherent.changes_of_true isTrue] at kept
      cases kept
  | some sc =>
      have named : sc.name = fsc.metadata.name := (Registry.find?_eq_some found).2
      have answered : ∀ pick, (cluster.answer pick (.deleteStorageClass sc.name)).2 =
          .ok () := by
        intro pick
        simp only [Cluster.answer, Cluster.deleteStorageClass, named, found]
        split <;> rfl
      simp only [Cluster.answer, found, onSuccess_ok, ensures_bind]
      refine ensures_request trivial (fun pick => ?_)
        (fun _ _ mayFail => absurd ⟨_, _, _, mayFail⟩ not_faulty_drawing)
        fun _ _ mayFail => absurd ⟨_, _, _, mayFail⟩ not_faulty_drawing
      rw [answered, named]
      exact deletes isTrue (by simp [found])

/-- So does `deleteFilesystem`. -/
theorem ensures_deleteFilesystem_drawing
    {post : Except Failure Verdict → Cluster → Prop}
    (passes : isConditionTrue fsc .fileSystemCreated = false → post (.ok {}) cluster)
    (deletes : isConditionTrue fsc .fileSystemCreated = true →
      ∀ fs rest, ownedBy cluster fsc .filesystem = fs :: rest →
        post (.ok ⟨45, true⟩) (cluster.afterCall (.delete .filesystem fs.key)))
    (records : isConditionTrue fsc .fileSystemCreated = true →
      ownedBy cluster fsc .filesystem = [] →
        ∀ reason message later patched, Reported .fileSystemCreated .isFalse reason
          message cluster later fsc patched → post (.ok ⟨0, true⟩) later) :
    Ensures (drawing start nodeName) (deleteFilesystem fsc) post cluster := by
  unfold deleteFilesystem
  simp only [ensures_ite, ensures_pure, ensures_bind]
  refine ⟨fun skipped => passes (by simpa using skipped), fun created => ?_⟩
  have isTrue : isConditionTrue fsc .fileSystemCreated = true := by simpa using created
  refine ensures_listOwnedResources admitsReads_drawing ?_
    fun _ _ _ fails => absurd ⟨_, _, fails⟩ not_failsReads_drawing
  rw [onSuccess_ok]
  cases owned : ownedBy cluster fsc .filesystem with
  | nil =>
      simp only [ensures_bind]
      refine ensures_updateCondition (fun kept => ?_) fun changes =>
        ensures_reportCondition_drawing stored changes (records isTrue owned _ _)
      rw [coherent.changes_of_true isTrue] at kept
      cases kept
  | cons fs rest =>
      have listed : fs ∈ cluster.objects .filesystem := by
        have member : fs ∈ ownedBy cluster fsc .filesystem := by simp [owned]
        exact List.mem_of_mem_filter (List.mem_of_mem_filter member)
      simp only [ensures_bind]
      refine ensures_request trivial (fun pick => ?_)
        (fun _ _ mayFail => absurd ⟨_, _, _, mayFail⟩ not_faulty_drawing)
        fun _ _ mayFail => absurd ⟨_, _, _, mayFail⟩ not_faulty_drawing
      rw [answer_delete pick listed]
      exact deletes isTrue fs rest owned

/-- And `deleteLocalDisks`. -/
theorem ensures_deleteLocalDisks_drawing
    {post : Except Failure Verdict → Cluster → Prop}
    (distinct : (cluster.localDisks.map Unstructured.key).Nodup)
    (passes : isConditionTrue fsc .localDiskCreated = false → post (.ok {}) cluster)
    (deletes : isConditionTrue fsc .localDiskCreated = true →
      ownedBy cluster fsc .localDisk ≠ [] → ∀ final,
        Thinned cluster final ((ownedBy cluster fsc .localDisk).map Unstructured.key) →
          post (.ok ⟨30, true⟩) final)
    (records : isConditionTrue fsc .localDiskCreated = true →
      ownedBy cluster fsc .localDisk = [] →
        ∀ reason message later patched, Reported .localDiskCreated .isFalse reason
          message cluster later fsc patched → post (.ok ⟨0, true⟩) later) :
    Ensures (drawing start nodeName) (deleteLocalDisks fsc) post cluster := by
  unfold deleteLocalDisks
  simp only [ensures_ite, ensures_pure, ensures_bind]
  refine ⟨fun skipped => passes (by simpa using skipped), fun created => ?_⟩
  have isTrue : isConditionTrue fsc .localDiskCreated = true := by simpa using created
  refine ensures_listOwnedResources admitsReads_drawing ?_
    fun _ _ _ fails => absurd ⟨_, _, fails⟩ not_failsReads_drawing
  simp only [onSuccess_ok, ensures_ite, ensures_bind]
  refine ⟨fun some => ?_, fun none => ?_⟩
  · have part : ((ownedBy cluster fsc .localDisk).map Unstructured.key).Sublist
        (cluster.localDisks.map Unstructured.key) :=
      (List.filter_sublist.trans List.filter_sublist).map _
    have deleted := @ensures_deleteEach_drawing start cluster nodeName
      (ownedBy cluster fsc .localDisk) [] cluster
      (fun ld member => List.mem_of_mem_filter (List.mem_of_mem_filter member))
      (part.nodup distinct)
      ⟨⟨rfl, rfl, Cluster.SameSurroundings.refl cluster⟩, rfl,
        fun object member => Or.inr ⟨member, List.not_mem_nil⟩, fun object member _ => member⟩
    refine deleted.mono ?_
    rintro result final ⟨rfl, thinned⟩
    exact deletes isTrue (List.length_pos_iff.mp some) final thinned
  · have owned : ownedBy cluster fsc .localDisk = [] := by simpa using none
    refine ensures_updateCondition (fun kept => ?_) fun changes =>
      ensures_reportCondition_drawing stored changes (records isTrue owned _ _)
    rw [coherent.changes_of_true isTrue] at kept
    cases kept

end Exits

end FusionAccess
