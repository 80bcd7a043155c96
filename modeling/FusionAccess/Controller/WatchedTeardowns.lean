import FusionAccess.Controller.ClaimRequests
import FusionAccess.Controller.ForeignStorageClasses
import FusionAccess.Controller.TeardownCompletes

/-!
# Teardowns that nobody asks about

A teardown waits with a delay for volumes, for the release of the data, and for Filesystems
and LocalDisks to go. It waits without a delay for the StorageClass, whose end is noticed by
the labels that it has.
-/

namespace FusionAccess

open Kubernetes Interaction Fallible

/-! ## Labels of the StorageClass -/

/-- A StorageClass with the name of the claim has the labels of the claim. -/
def CarriesLabels (key : NamespacedName) (cluster : Cluster) : Prop :=
  ∀ storageClass, cluster.storageClass? key.name = some storageClass →
    key ∈ enqueueFSCByStorageClass storageClass

/-- The StorageClass of the claim has its labels, and is there until its finalizers go. -/
def AwaitsStorageClass (key : NamespacedName) (cluster : Cluster) : Prop :=
  ∃ storageClass, cluster.storageClass? key.name = some storageClass ∧
    key ∈ enqueueFSCByStorageClass storageClass ∧
      isLeaving storageClass.metadata = true

theorem AwaitsStorageClass.labelled
    {key : NamespacedName} {cluster : Cluster} (awaits : AwaitsStorageClass key cluster) :
    CarriesLabels key cluster := by
  obtain ⟨storageClass, stored, labelled, _⟩ := awaits
  intro found stored'
  rw [stored] at stored'
  obtain rfl := Option.some.inj stored'
  exact labelled

section Labels

variable {key : NamespacedName} {cluster : Cluster} {fsc : FileSystemClaim}

theorem CarriesLabels.elsewhere
    {call : Call} (labelled : CarriesLabels key cluster)
    (elsewhere : call.part? ≠ some .storageClasses) :
    CarriesLabels key (cluster.afterCall call) := by
  unfold CarriesLabels Cluster.storageClass?
  rw [cluster.storageClasses_afterCall elsewhere]
  exact labelled

theorem CarriesLabels.deleteStorageClass (labelled : CarriesLabels key cluster) :
    CarriesLabels key (cluster.afterCall (.deleteStorageClass key.name)) := by
  intro storageClass found
  cases stored : cluster.storageClass? key.name with
  | none =>
      simp only [Cluster.afterCall, Cluster.answer, Cluster.deleteStorageClass, stored] at found
      cases found
  | some current =>
      rw [cluster.storageClass?_deleteStorageClass stored] at found
      split at found
      · cases found
      · obtain rfl := Option.some.inj found
        exact labelled current stored

/-- A StorageClass that is written with the labels of the claim has them. -/
theorem CarriesLabels.createStorageClass
    {storageClass : StorageClass} (labelled : CarriesLabels key cluster)
    (named : storageClass.name = key.name)
    (labels : key ∈ enqueueFSCByStorageClass storageClass) :
    CarriesLabels key (cluster.afterCall (.createStorageClass storageClass)) := by
  intro later found
  rw [← named] at found
  cases stored : cluster.storageClass? storageClass.name with
  | none =>
      rw [cluster.storageClass?_createStorageClass stored] at found
      obtain rfl := Option.some.inj found
      exact labels
  | some current =>
      simp only [Cluster.afterCall, Cluster.answer, Cluster.createStorageClass, stored] at found
      exact labelled later (named ▸ stored.trans found)

theorem carriesLabels_patchStorageClass
    {storageClass : StorageClass}
    (named : storageClass.name = key.name)
    (labels : key ∈ enqueueFSCByStorageClass storageClass) :
    CarriesLabels key (cluster.afterCall (.patchStorageClass storageClass)) := by
  intro later found
  rw [← named] at found
  cases stored : cluster.storageClass? storageClass.name with
  | none =>
      simp only [Cluster.afterCall, Cluster.answer, Cluster.patchStorageClass, stored] at found
      cases found
  | some current =>
      rw [cluster.storageClass?_patchStorageClass stored] at found
      obtain rfl := Option.some.inj found
      exact labels

end Labels

/-! ## Passes keep the labels -/

section Pass

variable {fsc : FileSystemClaim}

theorem safe_carriesLabels_elsewhere
    {key : NamespacedName} {call : Call} (elsewhere : call.part? ≠ some .storageClasses) :
    Safe free (CarriesLabels key) (request call) :=
  (safe_request (fun _ _ => trivial) fun _ labelled => labelled.elsewhere elsewhere).safe

theorem allowsReports_carriesLabels
    {key : NamespacedName} {reports : ConditionType → ConditionStatus → Reason → Prop} :
    AllowsReports free (CarriesLabels key) fsc reports :=
  allowsReports_of_patch admitsReads_free fun _ _ _ labelled _ _ =>
    ⟨trivial, labelled.elsewhere (by simp [Call.part?])⟩

theorem safe_reconcileClaim_carriesLabels
    (r : FileSystemClaimReconciler)
    (target : fsc.key.ns = "ibm-spectrum-scale")
    (named : fsc.metadata.name ≠ "") :
    Safe free (CarriesLabels fsc.key) (reconcileClaim r fsc) := by
  have finalizers : ∀ mutate, Safe free (CarriesLabels fsc.key) (patchFSCSpec fsc mutate) :=
    fun _ => safe_patchFSCSpec admitsReads_free fun _ _ labelled _ =>
      ⟨trivial, labelled.elsewhere (by simp [Call.part?])⟩
  have reads : ReadsSafely free (CarriesLabels fsc.key) := readsSafely_of_admits admitsReads_free
  refine safe_reconcileClaim (fun _ => finalizers addFinalizer) (fun _ _ => ?_)
    (safe_ensureLocalDisks reads allowsReports_carriesLabels allowsReports_carriesLabels
      allowsReports_carriesLabels fun _ _ _ => safe_carriesLabels_elsewhere (by simp [Call.part?])) ?_
  · exact {
      reads := reads
      reports := allowsReports_carriesLabels
      deletesStorageClass := (safe_request (fun _ _ => trivial)
        fun _ labelled => labelled.deleteStorageClass).safe
      deletes := fun _ kind => safe_carriesLabels_elsewhere (by simp [Call.part?])
      dropsFinalizer := finalizers dropFinalizer }
  · exact {
      reads := admitsReads_free
      reports := allowsReports_carriesLabels
      confirms := allowsReports_owning admitsReads_free
        fun _ _ _ owning _ _ => ⟨trivial, owning.1.elsewhere (by simp [Call.part?])⟩
      createsFilesystem := fun _ => safe_carriesLabels_elsewhere (by simp [Call.part?])
      patchesFilesystem := fun _ _ => safe_carriesLabels_elsewhere (by simp [Call.part?])
      createsStorageClass := (safe_request (fun _ _ => trivial) fun _ labelled =>
        labelled.createStorageClass rfl (mem_enqueueFSCByStorageClass target named rfl)).safe
      patchesStorageClass := by
        intro current same
        refine (safe_request (fun _ _ => trivial) fun state _ => ?_).safe
        exact carriesLabels_patchStorageClass same (mem_enqueueFSCByStorageClass target named rfl) }

end Pass

/-! ## Teardowns that nothing is noticed of -/

section Steps

/-- A step ends in a delay, or the StorageClass is awaited. -/
def EndsWaiting
    (key : NamespacedName) (result : Except Failure Verdict) (final : Cluster) : Prop :=
  ∀ verdict, result = .ok verdict →
    0 < verdict.requeueAfter ∨ verdict.changed = true ∧ AwaitsStorageClass key final

theorem endsWaiting_error (key : NamespacedName) (failure : Failure) (final : Cluster) :
    EndsWaiting key (.error failure) final := by
  intro verdict impossible
  cases impossible

theorem endsWaiting_delay
    (key : NamespacedName) {verdict : Verdict} (positive : 0 < verdict.requeueAfter)
    (final : Cluster) : EndsWaiting key (.ok verdict) final := by
  rintro _ ⟨⟩
  exact Or.inl positive

/-- After a step that ends the pass nothing more is done. -/
theorem EndsWaiting.ends
    {key : NamespacedName} {result : Except Failure Verdict} {final : Cluster}
    {next : Verdict → Act Verdict} (waiting : EndsWaiting key result final) :
    onSuccess
      (fun verdict => Ensures (unnoticed key)
        (if verdict.stops = true then return verdict else next verdict) (EndsWaiting key))
      (EndsWaiting key) result final := by
  cases result with
  | error failure => exact waiting
  | ok verdict =>
      have stops : verdict.stops = true := by
        rw [Verdict.stops, Bool.or_eq_true, decide_eq_true_eq]
        exact (waiting verdict rfl).imp_right And.left
      rw [onSuccess_ok, if_pos stops]
      exact waiting

variable {cluster : Cluster} {fsc : FileSystemClaim}

/-- A block is followed by a delay. -/
theorem ensures_blockDeletion_unnoticed
    {key : NamespacedName} {reason : Reason} {message : String}
    {post : Except Failure Verdict → Cluster → Prop}
    (failed : ∀ failure final, post (.error failure) final)
    (waits : ∀ verdict final, 0 < verdict.requeueAfter → post (.ok verdict) final) :
    Ensures (unnoticed key) (blockDeletion fsc reason message) post cluster := by
  unfold blockDeletion
  refine ensures_bind_of_free (fun _ _ => trivial) _ _ _ _ failed fun changed final => ?_
  rw [ensures_bind]
  exact ensures_local trivial rfl rfl fun pick =>
    waits _ _ (calculateDeletionBackoff_pos fsc reason final.clock)

/-- A StorageClass with the labels of the claim is noticed when it is deleted, unless it
was leaving already. -/
theorem ensures_requestDelete_unnoticed
    {storageClass : StorageClass} {post : Except Failure Unit → Cluster → Prop}
    (present : cluster.storageClass? fsc.key.name = some storageClass)
    (labelled : fsc.key ∈ enqueueFSCByStorageClass storageClass)
    (failed : ∀ failure final, post (.error failure) final)
    (awaits : ∀ final, AwaitsStorageClass fsc.key final → post (.ok ()) final) :
    Ensures (unnoticed fsc.key) (request (.deleteStorageClass storageClass.name)) post
      cluster := by
  obtain ⟨member, named⟩ := Registry.find?_eq_some present
  have found : cluster.storageClass? storageClass.name = some storageClass :=
    (congrArg _ named).trans present
  have later := cluster.storageClass?_deleteStorageClass found
  by_cases free : storageClass.metadata.finalizers = []
  · rw [if_pos free] at later
    exact ensures_noticed (isRequested_of_storageClass_none member later labelled)
      fun failure => failed failure cluster
  rw [if_neg free] at later
  by_cases same : unversioned storageClass = unversioned
      { storageClass with metadata := cluster.terminate storageClass.metadata }
  · refine ensures_request trivial (fun pick => ?_) (fun failure _ _ => failed failure _)
      fun failure _ _ => failed failure _
    have answered : (cluster.answer pick (.deleteStorageClass storageClass.name)).2 =
        .ok () := by
      simp only [Cluster.answer, Cluster.deleteStorageClass, found]
      split <;> rfl
    rw [answered]
    refine awaits _ ⟨{ storageClass with
      metadata := cluster.terminate storageClass.metadata }, ?_, labelled, ?_⟩
    · exact (congrArg _ named.symm).trans later
    · exact isLeaving_terminate cluster storageClass.metadata
  · exact ensures_noticed (isRequested_of_storageClass member later same labelled)
      fun failure => failed failure cluster

variable
  (target : fsc.key.ns = "ibm-spectrum-scale")
  (stored : cluster.claim? fsc.key = some fsc)

include target stored

/-- A deletion that is not marked is noticed when it is. -/
theorem ensures_markDeletionRequested_unnoticed
    {post : Except Failure Bool → Cluster → Prop}
    (failed : ∀ failure, post (.error failure) cluster)
    (marked : post (.ok false) cluster) :
    Ensures (unnoticed fsc.key) (markDeletionRequested fsc) post cluster := by
  unfold markDeletionRequested
  rw [ensures_ite, ensures_pure]
  exact ⟨fun _ => ensures_updateCondition (fun _ => marked) fun changes =>
    ensures_reportCondition_unnoticed target stored changes failed, fun _ => marked⟩

/-- So is the end of a child when it is recorded. -/
theorem ensures_recordDeletion_unnoticed
    {conditionType : ConditionType} {reason : Reason} {message : String}
    {post : Except Failure Bool → Cluster → Prop}
    (coherent : Coherent fsc.conditions)
    (isTrue : isConditionTrue fsc conditionType = true)
    (failed : ∀ failure, post (.error failure) cluster) :
    Ensures (unnoticed fsc.key)
      (updateConditionIfChanged fsc conditionType .isFalse reason message) post cluster := by
  refine ensures_updateCondition (fun kept => ?_) fun changes =>
    ensures_reportCondition_unnoticed target stored changes failed
  rw [coherent.changes_of_true isTrue] at kept
  cases kept

theorem ensures_deleteStorageClass_unnoticed
    {post : Except Failure Bool → Cluster → Prop}
    (coherent : Coherent fsc.conditions)
    (labelled : CarriesLabels fsc.key cluster)
    (failed : ∀ failure final, post (.error failure) final)
    (passes : post (.ok false) cluster)
    (awaits : ∀ final, AwaitsStorageClass fsc.key final → post (.ok true) final) :
    Ensures (unnoticed fsc.key) (deleteStorageClass fsc) post cluster := by
  unfold deleteStorageClass
  simp only [ensures_ite, ensures_pure, ensures_bind, ensures_attempt]
  refine ⟨fun _ => passes, fun created => ?_⟩
  have isTrue : isConditionTrue fsc .storageClassCreated = true := by simpa using created
  refine ensures_read admitsReads_unnoticed rfl (fun pick => ?_) fun failure transient _ => ?_
  · cases found : cluster.storageClass? fsc.metadata.name with
    | none =>
        simp only [Cluster.answer, found, onSuccess_ok, ensures_ite, ensures_throw]
        exact ⟨fun _ => failed _ _, fun _ => ensures_recordDeletion_unnoticed target stored
          coherent isTrue fun failure => failed failure _⟩
    | some storageClass =>
        simp only [Cluster.answer, found, onSuccess_ok, ensures_bind]
        exact ensures_requestDelete_unnoticed found (labelled storageClass found)
          (fun failure final => failed failure final) awaits
  · simp only [onSuccess_ok, ensures_ite, ensures_throw]
    exact ⟨fun _ => failed _ _, fun present => absurd transient.1 present⟩

theorem ensures_deleteFilesystem_unnoticed
    {post : Except Failure Verdict → Cluster → Prop}
    (coherent : Coherent fsc.conditions)
    (failed : ∀ failure final, post (.error failure) final)
    (waits : ∀ verdict final, 0 < verdict.requeueAfter → post (.ok verdict) final)
    (passes : post (.ok {}) cluster) :
    Ensures (unnoticed fsc.key) (deleteFilesystem fsc) post cluster := by
  unfold deleteFilesystem
  simp only [ensures_ite, ensures_pure, ensures_bind]
  refine ⟨fun _ => passes, fun created => ?_⟩
  refine ensures_listOwnedResources admitsReads_unnoticed ?_ fun failure _ _ _ => failed failure _
  rw [onSuccess_ok]
  cases ownedBy cluster fsc .filesystem with
  | nil =>
      simp only [ensures_bind]
      exact ensures_recordDeletion_unnoticed target stored coherent (by simpa using created)
        fun failure => failed failure _
  | cons fs rest =>
      exact ensures_bind_of_free (fun _ _ => trivial) _ _ _ _ failed
        fun _ final => waits _ final (by decide)

theorem ensures_deleteLocalDisks_unnoticed
    {post : Except Failure Verdict → Cluster → Prop}
    (coherent : Coherent fsc.conditions)
    (failed : ∀ failure final, post (.error failure) final)
    (waits : ∀ verdict final, 0 < verdict.requeueAfter → post (.ok verdict) final)
    (passes : post (.ok {}) cluster) :
    Ensures (unnoticed fsc.key) (deleteLocalDisks fsc) post cluster := by
  unfold deleteLocalDisks
  simp only [ensures_ite, ensures_pure, ensures_bind]
  refine ⟨fun _ => passes, fun created => ?_⟩
  refine ensures_listOwnedResources admitsReads_unnoticed ?_ fun failure _ _ _ => failed failure _
  simp only [onSuccess_ok, ensures_ite]
  refine ⟨fun _ => ensures_bind_of_free (fun _ _ => trivial) _ _ _ _ failed
    fun _ final => waits _ final (by decide), fun _ => ?_⟩
  rw [ensures_bind]
  exact ensures_recordDeletion_unnoticed target stored coherent (by simpa using created)
    fun failure => failed failure _

/-- A teardown of which nothing is noticed ends in a delay, or it awaits the StorageClass. -/
theorem ensures_handleDeletion_unnoticed
    (coherent : Coherent fsc.conditions)
    (labelled : CarriesLabels fsc.key cluster)
    (tornDown : isTornDown fsc = true) :
    Ensures (unnoticed fsc.key) (handleDeletion fsc) (EndsWaiting fsc.key) cluster := by
  have failed := endsWaiting_error fsc.key
  rw [isTornDown, Bool.and_eq_true] at tornDown
  unfold handleDeletion
  rw [if_neg (by simp [tornDown.1]), if_neg (by simp [tornDown.2]), ensures_bind]
  refine ensures_markDeletionRequested_unnoticed target stored (fun failure => failed _ _) ?_
  rw [onSuccess_ok, if_neg (by simp), ensures_bind]
  refine ensures_checkStorageClassUsage_exits admitsReads_unnoticed
    (fun _ _ _ => ensures_blockDeletion_unnoticed (fun _ _ => (failed _ _).ends)
      fun _ final positive => (endsWaiting_delay _ positive final).ends)
    (fun _ failure => failed _ _) fun unused => ?_
  rw [onSuccess_ok, if_neg (by simp [Verdict.stops]), ensures_bind]
  refine ensures_checkFilesystemDeletionLabel_exits admitsReads_unnoticed unused
    (fun _ _ _ => ensures_blockDeletion_unnoticed (fun _ _ => (failed _ _).ends)
      fun _ final positive => (endsWaiting_delay _ positive final).ends)
    (fun _ failure => failed _ _) fun _ => ?_
  rw [onSuccess_ok, if_neg (by simp [Verdict.stops]), ensures_bind]
  refine ensures_deleteStorageClass_unnoticed target stored coherent labelled
    (fun _ _ => failed _ _) ?_ fun final awaits => ?_
  rotate_left
  · rw [onSuccess_ok, if_pos rfl]
    rintro _ ⟨⟩
    exact Or.inr ⟨rfl, awaits⟩
  rw [onSuccess_ok, if_neg (by simp), ensures_bind]
  refine ensures_deleteFilesystem_unnoticed target stored coherent
    (fun _ _ => (failed _ _).ends)
    (fun _ final positive => (endsWaiting_delay _ positive final).ends) ?_
  rw [onSuccess_ok, if_neg (by simp [Verdict.stops]), ensures_bind]
  refine ensures_deleteLocalDisks_unnoticed target stored coherent
    (fun _ _ => (failed _ _).ends)
    (fun _ final positive => (endsWaiting_delay _ positive final).ends) ?_
  rw [onSuccess_ok, if_neg (by simp [Verdict.stops])]
  unfold removeFinalizer
  simp only [ensures_bind]
  refine ensures_patchFSCSpec_unnoticed target stored (fun same => ?_) fun _ => failed _ _
  -- the finalizer is still there, and is dropped
  obtain ⟨finalizer, listed, own⟩ := List.any_eq_true.mp tornDown.2
  rw [same] at listed
  exact of_decide_eq_true (List.mem_filter.mp listed).2 (of_decide_eq_true own)

end Steps

/-- A claim that is torn down awaits its StorageClass. -/
def TeardownAwaits (key : NamespacedName) (cluster : Cluster) : Prop :=
  ∀ fsc, cluster.claim? key = some fsc → isTornDown fsc = true →
    AwaitsStorageClass key cluster

/-- A pass that succeeds and of which nothing is noticed leaves no other teardown. -/
theorem ensures_reconcile_awaits
    {key : NamespacedName} {cluster : Cluster}
    (r : FileSystemClaimReconciler)
    (target : key.ns = "ibm-spectrum-scale")
    (coherent : AllCoherent cluster)
    (labelled : CarriesLabels key cluster) :
    Ensures (unnoticed key) (reconcile r key)
      (fun result final => result = .ok {} → TeardownAwaits key final) cluster := by
  refine ensures_reconcile admitsReads_unnoticed (fun absent => ?_) (fun fsc stored => ?_)
    fun failure _ _ _ => ?_
  · intro _ fsc stored
    rw [absent] at stored
    cases stored
  · obtain rfl : fsc.key = key := (Registry.find?_eq_some stored).2
    cases tornDown : isTornDown fsc with
    | true =>
        have deleting : isDeleting fsc = true := (Bool.and_eq_true_iff.mp tornDown).1
        unfold reconcileClaim handleFinalizers
        rw [if_pos deleting, ensures_bind, ensures_pure, onSuccess_ok, if_neg (by simp),
          ensures_bind]
        refine (ensures_handleDeletion_unnoticed target stored (coherent _ fsc stored)
          labelled tornDown).mono ?_
        rintro (failure | verdict) final waiting
        · exact fun impossible => by cases impossible
        rw [onSuccess_ok, ensures_ite, ensures_ite, ensures_pure, ensures_pure]
        refine ⟨fun delayed impossible => ?_, fun prompt => ⟨fun _ _ _ _ _ => ?_,
          fun unchanged => ?_⟩⟩
        · have none := congrArg Result.requeueAfter (Except.ok.inj impossible)
          exact absurd none (Nat.ne_of_gt delayed)
        · exact ((waiting verdict rfl).resolve_left prompt).2
        · exact absurd ((waiting verdict rfl).resolve_left prompt).1 unchanged
    | false =>
        -- the claim stays as it is, and is not torn down
        refine (ensures_claim?_unnoticed target _ cluster).mono
          fun result final same _ found stored' torn => ?_
        rw [same, stored] at stored'
        obtain rfl := Option.some.inj stored'
        rw [tornDown] at torn
        cases torn
  · intro impossible
    cases impossible

/-! ## Teardowns at rest -/

/-- What others may do: they keep the conditions of claims coherent, and the labels of the
StorageClass. -/
structure KeepsLabels (key : NamespacedName) (before after : Cluster) : Prop where
  coherent : AllCoherent before → AllCoherent after
  labelled : CarriesLabels key before → CarriesLabels key after

section Watched

variable {r : FileSystemClaimReconciler} {key : NamespacedName} {before after : Cluster}

/-- A teardown awaits the StorageClass until something is noticed. -/
theorem KeepsLabels.teardownAwaits
    (keeps : KeepsLabels key before after)
    (target : key.ns = "ibm-spectrum-scale")
    (silent : isRequested key before after = false)
    (awaits : TeardownAwaits key before) :
    TeardownAwaits key after := by
  intro fsc stored tornDown
  rw [claim?_of_not_requested target silent] at stored
  have waiting := awaits fsc stored tornDown
  have labels := keeps.labelled waiting.labelled
  obtain ⟨storageClass, present, labelled, leaving⟩ := waiting
  obtain ⟨member, named⟩ := Registry.find?_eq_some present
  have renamed : ∀ cluster : Cluster, cluster.storageClass? storageClass.name =
      cluster.storageClass? key.name := fun cluster => congrArg _ named
  cases later : after.storageClass? key.name with
  | none =>
      rw [isRequested_of_storageClass_none member ((renamed after).trans later) labelled]
        at silent
      cases silent
  | some current =>
      refine ⟨current, later, labels current later, ?_⟩
      by_contra stays
      rw [isRequested_of_storageClass member ((renamed after).trans later) ?_
        (labels current later)] at silent
      · cases silent
      · intro same
        have timestamps := congrArg
          (fun storageClass => storageClass.metadata.deletionTimestamp) same
        refine stays ?_
        rw [isLeaving] at leaving ⊢
        exact timestamps ▸ leaving

/-- Whenever no pass on a claim waits and the claim is being torn down, its StorageClass is
there with the labels of the claim, and is gone as soon as its finalizers are: its end is
noticed. -/
theorem teardown_awaits_storage_class_when_nothing_waits
    {initial cluster : Cluster} {fsc : FileSystemClaim}
    (target : key.ns = "ibm-spectrum-scale")
    (named : key.name ≠ "")
    (coherent : AllCoherent initial)
    (labelled : CarriesLabels key initial)
    (reached : (claimWatch r key (KeepsLabels key) (fun _ => True)).Reached
      initial cluster false)
    (stored : cluster.claim? key = some fsc)
    (tornDown : isTornDown fsc = true) :
    AwaitsStorageClass key cluster := by
  have kept := @Watch.Reached.within _ _ _ _
    (fun state => AllCoherent state ∧ CarriesLabels key state) _ reached ⟨coherent, labelled⟩
    (fun _ _ _ changed kept => ⟨changed.1.coherent kept.1, changed.1.labelled kept.2⟩) ?_
  · refine (kept.2.settled ?_ ?_ : TeardownAwaits key cluster) fsc stored tornDown
    · rintro before after ⟨_, keeps, silent⟩ awaits
      exact keeps.teardownAwaits target silent.symm awaits
    · rintro before after ⟨⟨coherent, labelled⟩, _, choices, rfl, once⟩
      exact succeeded_of_not_isRepeated once.symm
        (ensures_reconcile_awaits r target coherent labelled) rfl
  · rintro before again after ⟨_, choices, rfl, _⟩ ⟨coherent, labelled⟩
    refine ⟨(@passLog_of_ensures _ _ ⟨key, choices, before⟩ _
      (ensures_reconcile_coherent r key coherent) fun _ _ => trivial).2, ?_⟩
    refine (@passLog_of_ensures _ _ ⟨key, choices, before⟩ _
      (ensures_reconcile_of_safe admitsReads_free (fun fsc stored => ?_) labelled)
      fun _ _ => trivial).2
    obtain rfl : fsc.key = key := (Registry.find?_eq_some stored).2
    exact safe_reconcileClaim_carriesLabels r target named

end Watched

/-- A cluster in which a finalizer holds the StorageClass of a discarded claim. -/
def heldCluster : Cluster :=
  { discardedCluster with
    storageClasses := discardedCluster.storageClasses.map fun storageClass =>
      { storageClass with metadata := { storageClass.metadata with
        finalizers := ["example.com/hold"] } } }

/-- Passes on the claim; nothing happens in between. -/
def held : Nat → Cluster
  | 0 => heldCluster
  | count + 1 =>
      (@Pass.outcome _ apiServer _ _ (reconciler {}) ⟨readyKey, calm, held count⟩).state

theorem reached_held (others : Cluster → Cluster → Prop) (count : Nat) :
    ∃ waiting, (claimWatch {} readyKey others fun _ => True).Reached heldCluster (held count)
      waiting := by
  induction count with
  | zero => exact ⟨true, .start⟩
  | succ count inductionHypothesis =>
      obtain ⟨_, reached⟩ := inductionHypothesis
      exact ⟨_, reached.settle ⟨trivial, calm, rfl, rfl⟩⟩

/-- The first pass marks the deletion, the second deletes the StorageClass, and the third
has nothing left to do. -/
theorem teardown_awaits_storage_class_when_nothing_waits_held :
    AwaitsStorageClass readyKey (held 3) := by
  have labelled : CarriesLabels readyKey heldCluster := by
    intro storageClass stored
    have listed := (Registry.find?_eq_some stored).1
    rw [List.mem_singleton.mp listed]
    decide
  obtain ⟨_, reached⟩ := reached_held (KeepsLabels readyKey) 2
  obtain ⟨fsc, stored, tornDown⟩ : ∃ fsc, (held 3).claim? readyKey = some fsc ∧
      isTornDown fsc = true := by
    have torn : ((held 3).claim? readyKey).any isTornDown = true := by decide +kernel
    exact (Option.any_eq_true _ _).mp torn
  exact teardown_awaits_storage_class_when_nothing_waits rfl (by decide)
    (allCoherent_of_discarded rfl) labelled
    (reached.settle ⟨trivial, calm, rfl, by decide +kernel⟩) stored tornDown

/-- Somebody else has made a StorageClass under the name of a claim that is marked. -/
def occupiedCluster : Cluster :=
  { held 1 with storageClasses := [foreignStorageClass] }

/-- The class lacks the labels. Its deletion ends a pass and is not noticed, and the teardown
stops. -/
theorem foreign_class_deletion_goes_unnoticed :
    isRepeated {} ⟨readyKey, calm, occupiedCluster⟩ = false ∧
      ¬TeardownAwaits readyKey (@Pass.outcome _ apiServer _ _ (reconciler {})
        ⟨readyKey, calm, occupiedCluster⟩).state := by
  refine ⟨by decide +kernel, fun awaits => ?_⟩
  have torn : ((@Pass.outcome _ apiServer _ _ (reconciler {})
      ⟨readyKey, calm, occupiedCluster⟩).state.claim? readyKey).any isTornDown = true := by
    decide +kernel
  have gone : (@Pass.outcome _ apiServer _ _ (reconciler {})
      ⟨readyKey, calm, occupiedCluster⟩).state.storageClass? readyKey.name = none := by
    decide +kernel
  obtain ⟨fsc, stored, tornDown⟩ := (Option.any_eq_true _ _).mp torn
  obtain ⟨storageClass, present, _⟩ := awaits fsc stored tornDown
  rw [gone] at present
  cases present

end FusionAccess
