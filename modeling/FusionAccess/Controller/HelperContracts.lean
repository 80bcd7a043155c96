import FusionAccess.Controller.Helpers
import FusionAccess.Kubernetes.Frames

/-!
# Contracts of the helpers

One rule for each helper of the controller. A rule names the exits of the
helper, with the state and the facts that hold there; a caller shows its
postcondition at each exit and never looks into the helper.
-/

namespace FusionAccess

open Kubernetes Interaction

/-- The contract under which no call fails. -/
def faultless : Contract apiServer where
  rely := fun _ _ choice => choice.fault = .none
  guard := fun _ _ => True

theorem not_faulty_faultless : ¬Faulty faultless := by
  rintro ⟨cluster, call, final, choice, relied, fault, _⟩
  exact fault relied

variable {C : Contract apiServer}

/-! ## Conditions -/

/-- Reading conditions after one of them was set. -/
theorem findStatusCondition_withCondition
    (conditionType : ConditionType) (status : ConditionStatus)
    (reason : Reason) (message : String) (now : Nat)
    (cur : FileSystemClaim) (other : ConditionType) :
    findStatusCondition
        (withCondition conditionType status reason message now cur).conditions
        other =
      if conditionType = other then
        some {
          type := conditionType, status, reason, message
          lastTransitionTime := now
          observedGeneration := cur.metadata.generation }
      else findStatusCondition cur.conditions other :=
  Registry.find?_upsert _

/-- With distinct types the first condition of a type is the only one. -/
theorem find?_of_isConditionTrue
    {fsc : FileSystemClaim} {conditionType : ConditionType}
    (distinct : (fsc.conditions.map Condition.type).Nodup)
    (isTrue : isConditionTrue fsc conditionType = true) :
    ∃ condition, findStatusCondition fsc.conditions conditionType =
      some condition ∧ condition.status = .isTrue := by
  unfold isConditionTrue at isTrue
  rw [List.any_eq_true] at isTrue
  obtain ⟨condition, member, matching⟩ := isTrue
  simp only [Bool.and_eq_true, decide_eq_true_eq] at matching
  refine ⟨condition, ?_, matching.2⟩
  rw [← matching.1]
  exact Registry.find?_eq_some_of_mem distinct member

/-- With distinct types a condition is true when the first one of the type is. -/
theorem isConditionTrue_iff
    {fsc : FileSystemClaim}
    (distinct : (fsc.conditions.map Condition.type).Nodup)
    (conditionType : ConditionType) :
    isConditionTrue fsc conditionType = true ↔
      ∃ condition, findStatusCondition fsc.conditions conditionType =
        some condition ∧ condition.status = .isTrue := by
  refine ⟨find?_of_isConditionTrue distinct, ?_⟩
  rintro ⟨condition, found, status⟩
  have listed := Registry.find?_eq_some found
  simp only [isConditionTrue, List.any_eq_true, Bool.and_eq_true, decide_eq_true_eq]
  exact ⟨condition, listed.1, listed.2, status⟩

/-! ## Retries and patches of the claim -/

/-- Retrying is harmless when an attempt that ends in a conflict has changed
nothing. -/
theorem ensures_retryOnConflict {α : Type}
    {attempted : Act α}
    {post : Except Failure α → Cluster → Prop}
    {cluster : Cluster}
    (steps : Nat)
    (attempt : Fallible.Ensures C attempted
      (fun result final => post result final ∧
        ∀ failure, result = .error failure → failure.reason = .conflict →
          final = cluster) cluster) :
    Fallible.Ensures C (retryOnConflict attempted (steps + 1)) post cluster := by
  induction steps with
  | zero =>
      rw [retryOnConflict]
      exact attempt.mono fun result final holds => holds.1
  | succ steps inductionHypothesis =>
      rw [retryOnConflict, Fallible.ensures_bind, Fallible.ensures_attempt]
      refine attempt.mono ?_
      rintro (failure | value) final ⟨holds, conflict⟩
      · simp only [Fallible.onSuccess_ok, Fallible.ensures_ite]
        refine ⟨fun isConflict => ?_, fun _ => holds⟩
        rw [conflict failure rfl isConflict]
        exact inductionHypothesis
      · exact holds

/-- The exits of `patchFSCStatus` on a stored claim. -/
theorem ensures_patchFSCStatus
    {fsc cur : FileSystemClaim}
    {mutate : Nat → FileSystemClaim → FileSystemClaim}
    {post : Except Failure Unit → Cluster → Prop}
    {cluster : Cluster}
    (admits : AdmitsReads C)
    (stored : cluster.claim? fsc.key = some cur)
    (guarded : C.guard cluster (.patchClaimStatus fsc.key cur.conditions
      (mutate cluster.clock cur).conditions))
    (success : post (.ok ()) (cluster.afterCall (.patchClaimStatus fsc.key
      cur.conditions (mutate cluster.clock cur).conditions)))
    (refused : ∀ (failure : Failure) (call : Call), failure.Transient →
      MayFail C cluster call cluster → post (.error failure) cluster)
    (lost : ∀ (failure : Failure) (call : Call), failure.Transient →
      MayFail C cluster call (cluster.afterCall (.patchClaimStatus fsc.key
        cur.conditions (mutate cluster.clock cur).conditions)) →
      post (.error failure) (cluster.afterCall (.patchClaimStatus fsc.key
        cur.conditions (mutate cluster.clock cur).conditions))) :
    Fallible.Ensures C (patchFSCStatus fsc mutate) post cluster := by
  refine ensures_retryOnConflict 4 ?_
  have unchanged : ∀ (call : Call) (failure : Failure), failure.Transient →
      MayFail C cluster call cluster →
      post (.error failure) cluster ∧
        ∀ other : Failure, (.error failure : Except Failure Unit) = .error other →
          other.reason = .conflict → cluster = cluster :=
    fun call failure transient mayFail =>
      ⟨refused failure call transient mayFail, fun _ _ _ => rfl⟩
  rw [Fallible.ensures_bind]
  refine ensures_read admits rfl (fun pick => ?_) (unchanged _)
  simp only [Cluster.answer, stored, Fallible.onSuccess_ok, Fallible.ensures_bind]
  refine ensures_local (admits _ _ rfl) rfl rfl fun pick => ?_
  simp only [Cluster.answer, Fallible.onSuccess_ok]
  refine ensures_request guarded (fun pick => ?_) (unchanged _) ?_
  · have answered : (cluster.answer pick (.patchClaimStatus fsc.key cur.conditions
        (mutate cluster.clock cur).conditions)).2 = .ok () := by
      simp only [Cluster.answer, Cluster.patchClaimStatus, stored]
      split <;> rfl
    rw [answered]
    exact ⟨success, fun failure impossible => by cases impossible⟩
  · intro failure unspecified mayFail
    refine ⟨lost failure _ ?_ mayFail, ?_⟩
    · simp [Failure.Transient, unspecified]
    · rintro other equal conflict
      cases equal
      rw [unspecified] at conflict
      cases conflict

/-- The exits of `patchFSCSpec` on a stored claim. -/
theorem ensures_patchFSCSpec
    {fsc cur : FileSystemClaim}
    {mutate : FileSystemClaim → FileSystemClaim}
    {post : Except Failure Unit → Cluster → Prop}
    {cluster : Cluster}
    (admits : AdmitsReads C)
    (stored : cluster.claim? fsc.key = some cur)
    (guarded : C.guard cluster (.patchClaimFinalizers fsc.key
      cur.metadata.finalizers (mutate cur).metadata.finalizers))
    (success : post (.ok ()) (cluster.afterCall (.patchClaimFinalizers fsc.key
      cur.metadata.finalizers (mutate cur).metadata.finalizers)))
    (refused : ∀ (failure : Failure) (call : Call), failure.Transient →
      MayFail C cluster call cluster → post (.error failure) cluster)
    (lost : ∀ (failure : Failure) (call : Call), failure.Transient →
      MayFail C cluster call (cluster.afterCall (.patchClaimFinalizers fsc.key
        cur.metadata.finalizers (mutate cur).metadata.finalizers)) →
      post (.error failure) (cluster.afterCall (.patchClaimFinalizers fsc.key
        cur.metadata.finalizers (mutate cur).metadata.finalizers))) :
    Fallible.Ensures C (patchFSCSpec fsc mutate) post cluster := by
  refine ensures_retryOnConflict 4 ?_
  have unchanged : ∀ (call : Call) (failure : Failure), failure.Transient →
      MayFail C cluster call cluster →
      post (.error failure) cluster ∧
        ∀ other : Failure, (.error failure : Except Failure Unit) = .error other →
          other.reason = .conflict → cluster = cluster :=
    fun call failure transient mayFail =>
      ⟨refused failure call transient mayFail, fun _ _ _ => rfl⟩
  rw [Fallible.ensures_bind]
  refine ensures_read admits rfl (fun pick => ?_) (unchanged _)
  simp only [Cluster.answer, stored, Fallible.onSuccess_ok]
  refine ensures_request guarded (fun pick => ?_) (unchanged _) ?_
  · have answered : (cluster.answer pick (.patchClaimFinalizers fsc.key
        cur.metadata.finalizers (mutate cur).metadata.finalizers)).2 = .ok () := by
      simp only [Cluster.answer, Cluster.patchClaimFinalizers, stored]
      split <;> rfl
    rw [answered]
    exact ⟨success, fun failure impossible => by cases impossible⟩
  · intro failure unspecified mayFail
    refine ⟨lost failure _ ?_ mayFail, ?_⟩
    · simp [Failure.Transient, unspecified]
    · rintro other equal conflict
      cases equal
      rw [unspecified] at conflict
      cases conflict

/-- `updateConditionIfChanged` leaves the claim as it is. -/
def keepsCondition
    (fsc : FileSystemClaim) (conditionType : ConditionType)
    (status : ConditionStatus) (reason : Reason) (message : String) : Bool :=
  alreadyRecorded fsc.conditions conditionType status reason message ||
    (hasConditionWithReason fsc.conditions conditionType .migrationComplete &&
      status = .isTrue)

/-- A condition that is kept when it should not be true has the reason. -/
theorem hasConditionWithReason_of_keepsCondition
    {fsc : FileSystemClaim}
    {conditionType : ConditionType}
    {reason : Reason}
    {message : String}
    (kept : keepsCondition fsc conditionType .isFalse reason message = true) :
    hasConditionWithReason fsc.conditions conditionType reason = true := by
  have recorded : alreadyRecorded fsc.conditions conditionType .isFalse reason
      message = true := by simpa [keepsCondition] using kept
  unfold alreadyRecorded at recorded
  unfold hasConditionWithReason
  cases found : findStatusCondition fsc.conditions conditionType with
  | none => simp [found] at recorded
  | some previous =>
      rw [found] at recorded
      simp only [Bool.and_eq_true] at recorded
      exact recorded.1.2

/-- The exits of `updateConditionIfChanged` on a stored claim, which need not
be the version that the pass works on. -/
theorem ensures_updateConditionIfChanged
    {fsc cur : FileSystemClaim}
    {conditionType : ConditionType}
    {status : ConditionStatus}
    {reason : Reason}
    {message : String}
    {post : Except Failure Bool → Cluster → Prop}
    {cluster : Cluster}
    (admits : AdmitsReads C)
    (stored : cluster.claim? fsc.key = some cur)
    (kept : keepsCondition fsc conditionType status reason message = true →
      post (.ok false) cluster)
    (guarded : keepsCondition fsc conditionType status reason message = false →
      C.guard cluster (.patchClaimStatus fsc.key cur.conditions
        (withCondition conditionType status reason message cluster.clock cur).conditions))
    (success : keepsCondition fsc conditionType status reason message = false →
      post (.ok true) (cluster.afterCall (.patchClaimStatus fsc.key cur.conditions
        (withCondition conditionType status reason message cluster.clock cur).conditions)))
    (refused : ∀ (failure : Failure) (call : Call), failure.Transient →
      MayFail C cluster call cluster → post (.error failure) cluster)
    (lost : ∀ (failure : Failure) (call : Call), failure.Transient →
      MayFail C cluster call (cluster.afterCall (.patchClaimStatus fsc.key
        cur.conditions (withCondition conditionType status reason message
          cluster.clock cur).conditions)) →
      keepsCondition fsc conditionType status reason message = false →
      post (.error failure) (cluster.afterCall (.patchClaimStatus fsc.key
        cur.conditions (withCondition conditionType status reason message
          cluster.clock cur).conditions))) :
    Fallible.Ensures C
      (updateConditionIfChanged fsc conditionType status reason message)
      post cluster := by
  unfold updateConditionIfChanged
  simp only [Fallible.ensures_ite, Fallible.ensures_pure, Fallible.ensures_bind]
  refine ⟨fun recorded => kept (by simp [keepsCondition, recorded]),
    fun notRecorded => ⟨fun migrated => kept ?_, fun notMigrated => ?_⟩⟩
  · rw [keepsCondition, migrated, Bool.or_true]
  · have changes : keepsCondition fsc conditionType status reason message = false := by
      rw [keepsCondition, Bool.or_eq_false_iff]
      exact ⟨by simpa using notRecorded, by simpa using notMigrated⟩
    refine ensures_patchFSCStatus admits stored (guarded changes)
      (success changes) refused fun failure call transient mayFail =>
        lost failure call transient mayFail changes

/-! ## Owned resources -/

/-- A call that does not write objects of a kind leaves their owners alone. -/
theorem ownedBy_afterCall
    {cluster : Cluster} {call : Call} {kind : Kind}
    (elsewhere : call.part? ≠ some (.objects kind))
    (fsc : FileSystemClaim) :
    ownedBy (cluster.afterCall call) fsc kind = ownedBy cluster fsc kind := by
  rw [ownedBy, cluster.objects_afterCall elsewhere, ownedBy]

/-- What a claim owns depends on its key only. -/
theorem ownedBy_of_key_eq
    {first second : FileSystemClaim}
    (same : first.key = second.key)
    (cluster : Cluster)
    (kind : Kind) :
    ownedBy cluster first kind = ownedBy cluster second kind := by
  simp only [FileSystemClaim.key, ObjectMeta.key, NamespacedName.mk.injEq] at same
  rw [ownedBy, same.1, same.2, ownedBy]

/-- Listing owned resources yields what the claim owns. -/
theorem ensures_listOwnedResources
    {fsc : FileSystemClaim}
    {kind : Kind}
    {post : Except Failure (List Unstructured) → Cluster → Prop}
    {cluster : Cluster}
    (admits : AdmitsReads C)
    (success : post (.ok (ownedBy cluster fsc kind)) cluster)
    (failed : ∀ (failure : Failure) (call : Call), failure.Transient →
      ReadMayFail C cluster call → post (.error failure) cluster) :
    Fallible.Ensures C (listOwnedResources fsc kind) post cluster := by
  unfold listOwnedResources
  simp only [Fallible.ensures_bind, Fallible.ensures_mapError]
  refine ensures_read admits rfl (fun pick => success) ?_
  intro failure transient mayFail
  exact failed _ _ transient ⟨rfl, mayFail⟩

/-- The object that `createResourceWithOwnership` creates. -/
def ownedObject
    (fsc : FileSystemClaim) (name : String) (spec : Value) : Unstructured where
  metadata := {
    name := name
    ns := fsc.metadata.ns
    ownerReferences := [ownerReference fsc]
    labels := ownershipLabels fsc [] }
  spec := some spec

theorem isOwnedByThisFSC_ownedObject
    (fsc : FileSystemClaim) (name : String) (spec : Value) :
    isOwnedByThisFSC (ownedObject fsc name spec) fsc.metadata.name = true := by
  simp [isOwnedByThisFSC, ownedObject, ownerReference]

/-- The creation of an object that the claim owns adds to what it owns. -/
theorem ownedBy_create
    {cluster : Cluster} {fsc : FileSystemClaim} {kind : Kind} {name : String}
    (free : cluster.object? kind ⟨fsc.metadata.ns, name⟩ = none)
    (spec : Value) :
    ownedBy (cluster.afterCall (.create kind (ownedObject fsc name spec))) fsc kind =
      ownedBy cluster fsc kind ++ [cluster.newObject (ownedObject fsc name spec)] := by
  have free' : cluster.object? kind (ownedObject fsc name spec).key = none := free
  have added := cluster.objects_create free'
  have owned : isOwnedByThisFSC (cluster.newObject (ownedObject fsc name spec))
      fsc.metadata.name = true := isOwnedByThisFSC_ownedObject fsc name spec
  have listed : (cluster.newObject (ownedObject fsc name spec)).metadata.ns =
      fsc.metadata.ns := rfl
  rw [ownedBy, added, List.filter_append, List.filter_append, ownedBy]
  simp [owned, listed]

/-- A patch of the spec of a stored object changes that object alone. -/
theorem ownedBy_patchSpec
    {cluster : Cluster} {kind : Kind} {key : NamespacedName} {object : Unstructured}
    (stored : cluster.object? kind key = some object)
    (fsc : FileSystemClaim) (spec : Value) :
    ownedBy (cluster.afterCall (.patchSpec kind key spec)) fsc kind =
      Registry.amend Unstructured.key key
        (fun stored => { stored with
          metadata := cluster.stamp stored.metadata, spec := some spec })
        (ownedBy cluster fsc kind) := by
  have patched : (cluster.afterCall (.patchSpec kind key spec)).objects kind =
      Registry.amend Unstructured.key key
        (fun stored => { stored with
          metadata := cluster.stamp stored.metadata, spec := some spec })
        (cluster.objects kind) := by
    simp only [Cluster.afterCall, Cluster.answer, Cluster.patchSpec, stored,
      Cluster.objects_withObjects]
  rw [ownedBy, patched, ownedBy]
  unfold Registry.amend
  rw [List.filter_map, List.filter_map]
  congr 1
  congr 1
  · funext other
    rw [Function.comp_apply]
    split <;> rfl
  · congr 1
    funext other
    rw [Function.comp_apply]
    split <;> rfl

/-- The owner reference can always be set, so one call remains. -/
theorem createResourceWithOwnership_eq
    (fsc : FileSystemClaim) (kind : Kind) (name : String) (spec : Value) :
    createResourceWithOwnership fsc kind name spec =
      request (.create kind (ownedObject fsc name spec)) := by
  have reference : setOwnerReference fsc { name, ns := fsc.metadata.ns } =
      .ok { name, ns := fsc.metadata.ns, ownerReferences := [ownerReference fsc] } := by
    simp [setOwnerReference, upsertOwnerRef]
  unfold createResourceWithOwnership
  simp only [reference]
  rfl

/-- The exits of `createResourceWithOwnership`. -/
theorem ensures_createResourceWithOwnership
    {fsc : FileSystemClaim}
    {kind : Kind}
    {name : String}
    {spec : Value}
    {post : Except Failure Unit → Cluster → Prop}
    {cluster : Cluster}
    (guarded : C.guard cluster (.create kind (ownedObject fsc name spec)))
    (success : cluster.object? kind ⟨fsc.metadata.ns, name⟩ = none →
      post (.ok ())
        (cluster.afterCall (.create kind (ownedObject fsc name spec))))
    (taken : ∀ object, cluster.object? kind ⟨fsc.metadata.ns, name⟩ = some object →
      ∀ failure : Failure, post (.error failure) cluster)
    (refused : ∀ (failure : Failure) (call : Call), failure.Transient →
      MayFail C cluster call cluster → post (.error failure) cluster)
    (lost : ∀ (failure : Failure) (call : Call), failure.Transient →
      MayFail C cluster call
        (cluster.afterCall (.create kind (ownedObject fsc name spec))) →
      post (.error failure)
        (cluster.afterCall (.create kind (ownedObject fsc name spec)))) :
    Fallible.Ensures C (createResourceWithOwnership fsc kind name spec) post
      cluster := by
  rw [createResourceWithOwnership_eq]
  refine ensures_request guarded (fun pick => ?_)
    (fun failure => refused failure _)
    fun failure unspecified =>
      lost failure _ (by simp [Failure.Transient, unspecified])
  have key : (ownedObject fsc name spec).key = ⟨fsc.metadata.ns, name⟩ := rfl
  cases free : cluster.object? kind ⟨fsc.metadata.ns, name⟩ with
  | none =>
      have created := success free
      simp only [Cluster.answer, Cluster.create, key, free]
      exact created
  | some object =>
      have unchanged : cluster.afterCall (.create kind (ownedObject fsc name spec)) =
          cluster := by
        simp only [Cluster.afterCall, Cluster.answer, Cluster.create, key, free]
      rw [unchanged]
      simp only [Cluster.answer, Cluster.create, key, free]
      exact taken object free _

/-- Where the name is free and the call cannot fail, the object is created. -/
theorem ensures_createResourceWithOwnership_free
    {fsc : FileSystemClaim}
    {kind : Kind}
    {name : String}
    {spec : Value}
    {post : Except Failure Unit → Cluster → Prop}
    {cluster : Cluster}
    (accepted : ∀ final, ¬MayFail C cluster (.create kind (ownedObject fsc name spec)) final)
    (free : cluster.object? kind ⟨fsc.metadata.ns, name⟩ = none)
    (guarded : C.guard cluster (.create kind (ownedObject fsc name spec)))
    (success : post (.ok ())
      (cluster.afterCall (.create kind (ownedObject fsc name spec)))) :
    Fallible.Ensures C (createResourceWithOwnership fsc kind name spec) post
      cluster := by
  rw [createResourceWithOwnership_eq]
  refine ensures_request guarded (fun pick => ?_)
    (fun _ _ mayFail => absurd mayFail (accepted _))
    fun _ _ mayFail => absurd mayFail (accepted _)
  have key : (ownedObject fsc name spec).key = ⟨fsc.metadata.ns, name⟩ := rfl
  simp only [Cluster.answer, Cluster.create, key, free]
  exact success

end FusionAccess
