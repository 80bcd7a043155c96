import FusionAccess.Controller.Stalls
import FusionAccess.Interaction.Watching

/-!
# Requests for claims

The controller looks at a claim only when it is told to. It watches claims, LocalDisks,
Filesystems and StorageClasses. Predicates select among the changes of these objects, and
handlers turn a selected change into requests for the claims that it concerns.
-/

namespace FusionAccess

open Kubernetes Interaction Fallible

/-! ## Predicates and handlers -/

/-- `isInTargetNamespace`. -/
def isInTargetNamespace (obj : ObjectMeta) : Bool := obj.ns = "ibm-spectrum-scale"

/-- The reference is to a claim. -/
def refersToClaim (ownerRef : OwnerReference) : Bool :=
  ownerRef.kind = fileSystemClaimKind && ownerRef.apiVersion = fileSystemClaimAPIVersion

/-- `isOwnedByFileSystemClaim`. -/
def isOwnedByFileSystemClaim (obj : ObjectMeta) : Bool :=
  obj.ownerReferences.any refersToClaim

/-- The `status` of an object, if it has one. -/
def status? (object : Unstructured) : Option (Option (List Condition) × String) :=
  if object.conditions = none ∧ object.filesystem = "" then none
  else some (object.conditions, object.filesystem)

/-- `didResourceStatusChange`, for an update; all other events are dropped. -/
def didResourceStatusChange (objectOld objectNew : Unstructured) : Bool :=
  isInTargetNamespace objectNew.metadata &&
    isOwnedByFileSystemClaim objectNew.metadata &&
      (status? objectNew).isSome && status? objectOld ≠ status? objectNew

/-- `enqueueFSCByOwner`: the first claim that owns the object. -/
def enqueueFSCByOwner (obj : ObjectMeta) : List NamespacedName :=
  match obj.ownerReferences.find? refersToClaim with
  | some o => [⟨obj.ns, o.name⟩]
  | none => []

/-- The value of a label, or the empty string. -/
def labelValue (labels : StringMap) (label : String) : String :=
  (labels.get? label).getD ""

/-- `didStorageClassChange`, for an update or a deletion; creations are dropped. -/
def didStorageClassChange (storageClass : StorageClass) : Bool :=
  labelValue storageClass.metadata.labels fileSystemClaimOwnedByNameLabel ≠ "" &&
    labelValue storageClass.metadata.labels fileSystemClaimOwnedByNamespaceLabel ≠ ""

/-- `enqueueFSCByStorageClass`. -/
def enqueueFSCByStorageClass (storageClass : StorageClass) : List NamespacedName :=
  let name := labelValue storageClass.metadata.labels fileSystemClaimOwnedByNameLabel
  let ns := labelValue storageClass.metadata.labels fileSystemClaimOwnedByNamespaceLabel
  if name = "" || ns = "" then [] else [⟨ns, name⟩]

/-! ## The requests that a change leads to -/

/-- The claims that were created, changed or deleted, as `SetupWithManager` watches them. -/
def claimRequests (before after : Cluster) : List NamespacedName :=
  ((before.claims ++ after.claims).filter fun claim =>
    isInTargetNamespace claim.metadata &&
      before.claim? claim.key ≠ after.claim? claim.key).map FileSystemClaim.key

/-- The requests for a LocalDisk or a Filesystem; both versions are asked for the owner. -/
def resourceRequests (kind : Kind) (before after : Cluster) : List NamespacedName :=
  (before.objects kind).flatMap fun objectOld =>
    match after.object? kind objectOld.key with
    | some objectNew =>
        if didResourceStatusChange objectOld objectNew then
          enqueueFSCByOwner objectOld.metadata ++ enqueueFSCByOwner objectNew.metadata
        else []
    | none => []

/-- What is written in a StorageClass; writing the same again is no event. -/
def unversioned (storageClass : StorageClass) : StorageClass :=
  { storageClass with metadata := { storageClass.metadata with resourceVersion := 0 } }

/-- The requests for a StorageClass that was changed or deleted. -/
def storageClassRequests (before after : Cluster) : List NamespacedName :=
  before.storageClasses.flatMap fun objectOld =>
    match after.storageClass? objectOld.name with
    | some objectNew =>
        if unversioned objectOld ≠ unversioned objectNew &&
            didStorageClassChange objectNew then
          enqueueFSCByStorageClass objectOld ++ enqueueFSCByStorageClass objectNew
        else []
    | none =>
        if didStorageClassChange objectOld then enqueueFSCByStorageClass objectOld else []

/-- The requests that the watches of `SetupWithManager` make of a change. -/
def requests (before after : Cluster) : List NamespacedName :=
  claimRequests before after ++ resourceRequests .localDisk before after ++
    resourceRequests .filesystem before after ++ storageClassRequests before after

/-- A pass on the claim is requested. -/
def isRequested (key : NamespacedName) (before after : Cluster) : Bool :=
  key ∈ requests before after

section Requests

variable {key : NamespacedName} {before after : Cluster}

/-- A change of the claim itself is noticed in the namespace of the storage product. -/
theorem isRequested_of_claim
    (target : key.ns = "ibm-spectrum-scale")
    (changed : before.claim? key ≠ after.claim? key) :
    isRequested key before after = true := by
  have listed : ∃ claim ∈ before.claims ++ after.claims, claim.key = key := by
    cases earlier : before.claim? key with
    | some claim =>
        obtain ⟨member, named⟩ := Registry.find?_eq_some earlier
        exact ⟨claim, List.mem_append_left _ member, named⟩
    | none =>
        cases later : after.claim? key with
        | some claim =>
            obtain ⟨member, named⟩ := Registry.find?_eq_some later
            exact ⟨claim, List.mem_append_right _ member, named⟩
        | none => exact absurd (earlier.trans later.symm) changed
  obtain ⟨claim, member, rfl⟩ := listed
  have inTarget : isInTargetNamespace claim.metadata = true := decide_eq_true target
  have requested : claim.key ∈ claimRequests before after := by
    refine List.mem_map_of_mem (List.mem_filter.mpr ⟨member, ?_⟩)
    rw [inTarget, Bool.true_and]
    exact decide_eq_true changed
  exact decide_eq_true (List.mem_append_left _ (List.mem_append_left _
    (List.mem_append_left _ requested)))

/-- Without a request the claim is the same. -/
theorem claim?_of_not_requested
    (target : key.ns = "ibm-spectrum-scale")
    (silent : isRequested key before after = false) :
    after.claim? key = before.claim? key := by
  by_contra changed
  rw [isRequested_of_claim target (Ne.symm changed)] at silent
  cases silent

/-- A change of the status of a child is noticed. -/
theorem isRequested_of_status
    {kind : Kind} {objectOld objectNew : Unstructured}
    (member : objectOld ∈ before.objects kind)
    (stored : after.object? kind objectOld.key = some objectNew)
    (changed : didResourceStatusChange objectOld objectNew = true)
    (owner : key ∈ enqueueFSCByOwner objectNew.metadata) :
    isRequested key before after = true := by
  have requested : key ∈ resourceRequests kind before after := by
    refine List.mem_flatMap.mpr ⟨objectOld, member, ?_⟩
    rw [stored]
    dsimp only
    rw [if_pos changed]
    exact List.mem_append_right _ owner
  refine decide_eq_true (List.mem_append_left _ ?_)
  cases kind with
  | localDisk => exact List.mem_append_left _ (List.mem_append_right _ requested)
  | filesystem => exact List.mem_append_right _ requested

/-- A StorageClass with the labels of a claim has both labels. -/
theorem didStorageClassChange_of_labelled
    {storageClass : StorageClass} (labelled : key ∈ enqueueFSCByStorageClass storageClass) :
    didStorageClassChange storageClass = true := by
  unfold enqueueFSCByStorageClass at labelled
  dsimp only at labelled
  split at labelled
  next => cases labelled
  next present =>
    rw [Bool.or_eq_true, not_or, decide_eq_true_eq, decide_eq_true_eq] at present
    rw [didStorageClassChange, decide_eq_true present.1, decide_eq_true present.2]
    rfl

/-- A change of a StorageClass with the labels of the claim is noticed. -/
theorem isRequested_of_storageClass
    {objectOld objectNew : StorageClass}
    (member : objectOld ∈ before.storageClasses)
    (stored : after.storageClass? objectOld.name = some objectNew)
    (changed : unversioned objectOld ≠ unversioned objectNew)
    (labelled : key ∈ enqueueFSCByStorageClass objectNew) :
    isRequested key before after = true := by
  have requested : key ∈ storageClassRequests before after := by
    refine List.mem_flatMap.mpr ⟨objectOld, member, ?_⟩
    rw [stored]
    dsimp only
    rw [if_pos]
    · exact List.mem_append_right _ labelled
    · rw [didStorageClassChange_of_labelled labelled, Bool.and_true]
      exact decide_eq_true changed
  exact decide_eq_true (List.mem_append_right _ requested)

/-- So is its end. -/
theorem isRequested_of_storageClass_none
    {objectOld : StorageClass}
    (member : objectOld ∈ before.storageClasses)
    (gone : after.storageClass? objectOld.name = none)
    (labelled : key ∈ enqueueFSCByStorageClass objectOld) :
    isRequested key before after = true := by
  have requested : key ∈ storageClassRequests before after := by
    refine List.mem_flatMap.mpr ⟨objectOld, member, ?_⟩
    rw [gone]
    dsimp only
    rw [if_pos (didStorageClassChange_of_labelled labelled)]
    exact labelled
  exact decide_eq_true (List.mem_append_right _ requested)

/-- The labels that a pass sets on a StorageClass are those of its claim. -/
theorem mem_enqueueFSCByStorageClass
    {fsc : FileSystemClaim} {storageClass : StorageClass}
    (target : fsc.key.ns = "ibm-spectrum-scale")
    (named : fsc.metadata.name ≠ "")
    (labels : storageClass.metadata.labels = (wantedStorageClass fsc).metadata.labels) :
    fsc.key ∈ enqueueFSCByStorageClass storageClass := by
  have place : fsc.metadata.ns ≠ "" := by
    intro none
    rw [show fsc.key.ns = fsc.metadata.ns from rfl, none] at target
    exact absurd target (by decide)
  simp [enqueueFSCByStorageClass, labelValue, labels, wantedStorageClass, buildStorageClass,
    StringMap.get?, Registry.find?_cons, named, place, fileSystemClaimOwnedByNameLabel,
    fileSystemClaimOwnedByNamespaceLabel]
  rfl

end Requests

/-! ## Requests and passes -/

/-- The pass is to be repeated: it has failed, it asks for it, or one of its writes has led to
a request. -/
def isRepeated
    (r : FileSystemClaimReconciler) (pass : Pass apiServer NamespacedName) : Bool :=
  (match (pass.outcome (reconciler r)).value with
    | .ok result => decide (0 < result.requeueAfter)
    | .error _ => true) ||
    (passLog r pass).any fun event => isRequested pass.index event.before event.after

/-- A claim and its controller, among others who change the cluster in certain ways and with
passes that begin in certain states. -/
def claimWatch
    (r : FileSystemClaimReconciler) (key : NamespacedName)
    (others : Cluster → Cluster → Prop) (admitted : Cluster → Prop) : Watch Cluster where
  change := fun before noticed after =>
    others before after ∧ noticed = isRequested key before after
  settle := fun before again after => admitted before ∧
    ∃ choices, after = (Pass.outcome (reconciler r) ⟨key, choices, before⟩).state ∧
      again = isRepeated r ⟨key, choices, before⟩

/-- The contract under which no call leads to a request for the claim. -/
abbrev unnoticed (key : NamespacedName) : Contract apiServer where
  rely := fun cluster call choice =>
    isRequested key cluster (serve choice cluster call).1 = false
  guard := fun _ _ => True

theorem admitsReads_unnoticed {key : NamespacedName} : AdmitsReads (unnoticed key) :=
  fun _ _ _ => trivial

section Passes

variable {r : FileSystemClaimReconciler} {key : NamespacedName}

/-- A program of which nothing is noticed leaves the claim as it is. -/
theorem ensures_claim?_unnoticed
    {α : Type} (target : key.ns = "ibm-spectrum-scale") (program : Act α) (cluster : Cluster) :
    Ensures (unnoticed key) program
      (fun _ final => final.claim? key = cluster.claim? key) cluster :=
  @Program.ensures_unchanged _ apiServer _ _ _ (fun state => state.claim? key)
    (fun _ _ => trivial) (fun _ _ _ silent => claim?_of_not_requested target silent) _ _

/-- A pass that is not repeated has ended without a delay, and kept to the contract. -/
theorem succeeded_of_not_isRepeated
    {choices : Nat → Choice} {start : Cluster}
    {post : Except Failure Result → Cluster → Prop}
    (once : isRepeated r ⟨key, choices, start⟩ = false)
    (ensures : Ensures (unnoticed key) (reconcile r key) post start) :
    post (.ok {}) (@Pass.outcome _ apiServer _ _ (reconciler r) ⟨key, choices, start⟩).state := by
  obtain ⟨ends, silent⟩ := Bool.or_eq_false_iff.mp once
  have ensured := (@passLog_of_ensures _ _ ⟨key, choices, start⟩ _ ensures
    fun event member => Bool.eq_false_iff.mpr (List.any_eq_false.mp silent event member)).2
  cases value : (@Pass.outcome _ apiServer _ _ (reconciler r) ⟨key, choices, start⟩).value with
  | ok result =>
      rw [value] at ends ensured
      obtain ⟨delay⟩ := result
      obtain rfl : delay = 0 := Nat.eq_zero_of_not_pos (of_decide_eq_false ends)
      exact ensured
  | error failure =>
      rw [value] at ends
      cases ends

end Passes

/-! ## Writes of which nothing is noticed -/

section Writes

variable {cluster : Cluster} {fsc : FileSystemClaim}

/-- A call that is noticed can only fail. -/
theorem ensures_noticed
    {key : NamespacedName} {call : Call} {post : Except Failure call.Yield → Cluster → Prop}
    (noticed : isRequested key cluster (cluster.afterCall call) = true)
    (failed : ∀ failure, post (.error failure) cluster) :
    Ensures (unnoticed key) (request call) post cluster := by
  refine ⟨trivial, fun choice silent => ?_⟩
  change post (serve choice cluster call).2 (serve choice cluster call).1
  change isRequested key cluster (serve choice cluster call).1 = false at silent
  rcases serve_cases choice cluster call with
    served | ⟨_, _, ⟨failure, _, served⟩ | ⟨failure, _, served⟩⟩
  · rw [served, noticed] at silent
    cases silent
  · rw [served]
    exact failed failure
  · rw [served, noticed] at silent
    cases silent

/-- A patch of the status fails or changes nothing. -/
theorem ensures_patchFSCStatus_unnoticed
    {mutate : Nat → FileSystemClaim → FileSystemClaim}
    {post : Except Failure Unit → Cluster → Prop}
    (target : fsc.key.ns = "ibm-spectrum-scale")
    (stored : cluster.claim? fsc.key = some fsc)
    (failed : ∀ failure, post (.error failure) cluster)
    (empty : (mutate cluster.clock fsc).conditions = fsc.conditions → post (.ok ()) cluster) :
    Ensures (unnoticed fsc.key) (patchFSCStatus fsc mutate) post cluster := by
  refine ensures_retryOnConflict 4 ?_
  rw [ensures_bind]
  refine ensures_read admitsReads_unnoticed rfl (fun _ => ?_)
    fun failure _ _ => ⟨failed failure, fun _ _ _ => rfl⟩
  simp only [Cluster.answer, stored, onSuccess_ok, ensures_bind]
  refine ensures_local trivial rfl rfl fun _ => ?_
  simp only [Cluster.answer, onSuccess_ok]
  by_cases same : fsc.conditions = (mutate cluster.clock fsc).conditions
  · have unchanged : cluster.afterCall (.patchClaimStatus fsc.key fsc.conditions
        (mutate cluster.clock fsc).conditions) = cluster := by
      simp only [Cluster.afterCall, Cluster.answer, Cluster.patchClaimStatus, stored,
        if_pos same]
    refine ensures_request trivial (fun pick => ?_)
      (fun failure _ _ => ⟨failed failure, fun _ _ _ => rfl⟩) fun failure _ _ => ?_
    · rw [unchanged]
      simp only [Cluster.answer, Cluster.patchClaimStatus, stored, if_pos same]
      exact ⟨empty same.symm, fun _ impossible => by cases impossible⟩
    · rw [unchanged]
      exact ⟨failed failure, fun _ _ _ => rfl⟩
  · refine ensures_noticed (isRequested_of_claim target ?_)
      fun failure => ⟨failed failure, fun _ _ _ => rfl⟩
    rw [stored, Cluster.claim?_patchClaimStatus_of_different stored same]
    intro equal
    have conditions := congrArg (Option.map FileSystemClaim.conditions) equal
    exact same (Option.some.inj conditions)

/-- A condition that is not kept is noticed when it is reported. -/
theorem ensures_reportCondition_unnoticed
    {conditionType : ConditionType} {status : ConditionStatus} {reason : Reason}
    {message : String} {post : Except Failure Bool → Cluster → Prop}
    (target : fsc.key.ns = "ibm-spectrum-scale")
    (stored : cluster.claim? fsc.key = some fsc)
    (changes : keepsCondition fsc conditionType status reason message = false)
    (failed : ∀ failure, post (.error failure) cluster) :
    Ensures (unnoticed fsc.key) (reportCondition fsc conditionType status reason message)
      post cluster := by
  rw [ensures_bind]
  refine ensures_patchFSCStatus_unnoticed target stored failed fun same => ?_
  have found := findStatusCondition_withCondition conditionType status reason message
    cluster.clock fsc conditionType
  rw [same, if_pos rfl] at found
  simp [keepsCondition, alreadyRecorded, found] at changes

/-- Finalizers that are not the same are noticed. -/
theorem ensures_patchFSCSpec_unnoticed
    {mutate : FileSystemClaim → FileSystemClaim} {post : Except Failure Unit → Cluster → Prop}
    (target : fsc.key.ns = "ibm-spectrum-scale")
    (stored : cluster.claim? fsc.key = some fsc)
    (different : fsc.metadata.finalizers ≠ (mutate fsc).metadata.finalizers)
    (failed : ∀ failure, post (.error failure) cluster) :
    Ensures (unnoticed fsc.key) (patchFSCSpec fsc mutate) post cluster := by
  refine ensures_retryOnConflict 4 ?_
  rw [ensures_bind]
  refine ensures_read admitsReads_unnoticed rfl (fun _ => ?_)
    fun failure _ _ => ⟨failed failure, fun _ _ _ => rfl⟩
  simp only [Cluster.answer, stored, onSuccess_ok]
  refine ensures_noticed (isRequested_of_claim target ?_)
    fun failure => ⟨failed failure, fun _ _ _ => rfl⟩
  rw [stored, Cluster.claim?_patchClaimFinalizers_of_different stored different]
  split
  · exact fun impossible => by cases impossible
  · intro equal
    have finalizers := congrArg (Option.map fun claim => claim.metadata.finalizers) equal
    exact different (Option.some.inj finalizers)

end Writes

end FusionAccess
