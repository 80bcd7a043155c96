import FusionAccess.Controller.ListOrder

/-!
# Health of LocalDisks in any order

The condition of the LocalDisks is derived from the first one that is not
healthy. A LocalDisk that is not ready yet counts as creation in progress, one
that is in use elsewhere as a failed creation, so the reason depends on which of
them is listed first.
-/

namespace FusionAccess

open Kubernetes Interaction

/-! ## One LocalDisk -/

/-- The LocalDisk is not ready, or does not tell whether it is used. -/
def isPending (ld : Unstructured) : Bool :=
  !hasTrueCondition ld .ready ||
    (ld.conditions.bind fun conditions =>
      findStatusCondition conditions .used).isNone

/-- The LocalDisk is used by a Filesystem that is not one of the users. -/
def isUsedElsewhere (users : List String) (ld : Unstructured) : Bool :=
  hasTrueCondition ld .used && ld.filesystem ≠ "" && ld.filesystem ∉ users

/-- The LocalDisk is used, and no Filesystem is named. -/
def isUsedByNobody (ld : Unstructured) : Bool :=
  hasTrueCondition ld .used && ld.filesystem = ""

/-- How a LocalDisk fails its health check: `some true` is a hard failure. -/
def failureOf (users : List String) (ld : Unstructured) : Option Bool :=
  (checkResourceHealthy ld localDiskRequirements users).map (·.hardFailure)

/-- A pending LocalDisk fails softly, one in use elsewhere or by nobody fails
hard, and any other is healthy. -/
theorem failureOf_eq (users : List String) (ld : Unstructured) :
    failureOf users ld =
      if isPending ld then some false
      else if isUsedElsewhere users ld || isUsedByNobody ld then some true
      else none := by
  unfold failureOf checkResourceHealthy isPending isUsedElsewhere isUsedByNobody
    hasTrueCondition localDiskRequirements
  cases ld.conditions with
  | none => rfl
  | some conditions =>
      simp only [Option.bind_some, List.findSome?_cons, List.findSome?_nil]
      obtain noReady | ⟨ready, hasReady⟩ :=
        Option.eq_none_or_eq_some (findStatusCondition conditions .ready)
      · simp [checkRequiredCondition, checkResourceCondition, noReady]
      by_cases isReady : ready.status = .isTrue
      · have passes : checkRequiredCondition ld conditions users .ready = none := by
          simp [checkRequiredCondition, checkResourceCondition, hasReady, isReady]
        rw [passes]
        obtain noUsed | ⟨used, hasUsed⟩ :=
          Option.eq_none_or_eq_some (findStatusCondition conditions .used)
        · simp [checkRequiredCondition, noUsed]
        by_cases isUsed : used.status = .isTrue
        · by_cases unnamed : ld.filesystem = ""
          · simp [checkRequiredCondition, hasReady, hasUsed, isReady, isUsed, unnamed]
          · by_cases known : ld.filesystem ∈ users
            · simp [checkRequiredCondition, hasReady, hasUsed, isReady, isUsed, unnamed,
                known]
            · simp [checkRequiredCondition, hasReady, hasUsed, isReady, isUsed, unnamed,
                known]
        · simp [checkRequiredCondition, hasReady, hasUsed, isReady, isUsed]
      · simp [checkRequiredCondition, checkResourceCondition, hasReady, isReady]

/-! ## All LocalDisks of a claim -/

/-- Status and reason for the first failure. -/
def verdictOf : Option Bool → ConditionStatus × Reason
  | none => (.isTrue, .localDiskCreationSucceeded)
  | some true => (.isFalse, .localDiskCreationFailed)
  | some false => (.isFalse, .localDiskCreationInProgress)

/-- Status and reason that the sync wants. -/
def wantedVerdict (cluster : Cluster) (fsc : FileSystemClaim) (users : List String) :
    ConditionStatus × Reason :=
  ((wantedLocalDiskCondition cluster fsc users).1,
    (wantedLocalDiskCondition cluster fsc users).2.1)

/-- A call that is no read writes conditions of the claim: only the one of its
LocalDisks changes, to the wanted status and reason. The users are the Filesystems
of the claim, or none when they cannot be listed. -/
def WritesVerdict (cluster : Cluster) (fsc : FileSystemClaim) : Call → Prop
  | .patchClaimStatus _ original modified =>
      Touches (fun conditionType status reason =>
        conditionType = .localDiskCreated ∧
          ((status, reason) = wantedVerdict cluster fsc (ownFilesystems cluster fsc) ∨
            (status, reason) = wantedVerdict cluster fsc [])) original modified
  | call => call.isRead = true

/-- A run of `syncLocalDiskConditions` writes nothing but the wanted status and
reason. -/
theorem syncLocalDiskConditions_writes_verdict
    (fsc : FileSystemClaim) (choices : Nat → Choice) (cluster : Cluster) :
    ∀ event ∈ (Program.run apiServer (syncLocalDiskConditions fsc).run choices
        cluster).log, WritesVerdict cluster fsc event.request := by
  have covers : AdmitsReads (onlyCalls (WritesVerdict cluster fsc)) := by
    intro state call reads
    cases call <;> first | exact reads | cases reads
  have allowed := @allowsReports_of_patch _ (fun _ => True) fsc
    (fun conditionType status reason => conditionType = .localDiskCreated ∧
      ((status, reason) = wantedVerdict cluster fsc (ownFilesystems cluster fsc) ∨
        (status, reason) = wantedVerdict cluster fsc [])) covers
    fun state cur modified _ _ touches => ⟨touches, trivial⟩
  have ensures : Fallible.Ensures (onlyCalls (WritesVerdict cluster fsc))
      (syncLocalDiskConditions fsc) (fun _ _ => True) cluster := by
    apply ensures_syncLocalDiskConditions_exits covers fun _ _ => trivial
    intro users known
    refine ⟨fun _ => trivial, fun _ => ?_⟩
    have reported : wantedVerdict cluster fsc users =
          wantedVerdict cluster fsc (ownFilesystems cluster fsc) ∨
        wantedVerdict cluster fsc users = wantedVerdict cluster fsc [] := by
      rcases known with rfl | ⟨-, rfl⟩
      · exact Or.inl rfl
      · exact Or.inr rfl
    have patches := allowed (withCondition .localDiskCreated _ _
      (wantedLocalDiskCondition cluster fsc users).2.2) fun now cur =>
        (Touches.refl _ cur.conditions).withCondition ⟨rfl, reported⟩ _ now
    refine Fallible.Ensures.mono ((patches.andThen fun _ _ => Fallible.safe_pure true)
      cluster trivial) ?_
    exact fun _ _ _ => trivial
  exact (Program.Ensures.sound ensures choices fun _ _ => trivial).1

/-- Every order of the LocalDisks leads to the same status and reason, and a
LocalDisk in use elsewhere to a failure. -/
structure HealthOrderIrrelevant
    (cluster : Cluster) (fsc : FileSystemClaim) (users : List String) : Prop where
  same : ∀ first second, Reordered cluster first → Reordered cluster second →
    wantedVerdict first fsc users = wantedVerdict second fsc users
  usedElsewhere : ∀ ld ∈ ownedBy cluster fsc .localDisk,
    isUsedElsewhere (fsc.metadata.name :: users) ld = true →
      ∀ other, Reordered cluster other →
        wantedVerdict other fsc users = (.isFalse, .localDiskCreationFailed)

/-- Where some LocalDisk is pending, none is in use elsewhere, and one that is
used by nobody is pending itself. -/
def FailuresAgree
    (cluster : Cluster) (fsc : FileSystemClaim) (users : List String) : Prop :=
  (∃ ld ∈ ownedBy cluster fsc .localDisk, isPending ld = true) →
    ∀ ld ∈ ownedBy cluster fsc .localDisk,
      isUsedElsewhere (fsc.metadata.name :: users) ld = false ∧
        (isUsedByNobody ld = true → isPending ld = true)

theorem localDiskCondition_eq_verdictOf
    (owned : List Unstructured) (users : List String) :
    ((localDiskCondition owned users).1, (localDiskCondition owned users).2.1) =
      verdictOf (owned.findSome? (failureOf users)) := by
  have first : owned.findSome? (failureOf users) =
      (checkAllResourcesHealthy owned localDiskRequirements users).map
        (·.2.hardFailure) := by
    unfold checkAllResourcesHealthy
    induction owned with
    | nil => rfl
    | cons ld rest inductionHypothesis =>
        rw [List.findSome?_cons, List.findSome?_cons, failureOf]
        cases checkResourceHealthy ld localDiskRequirements users with
        | none => exact inductionHypothesis
        | some failure => rfl
  rw [first]
  unfold localDiskCondition
  cases checkAllResourcesHealthy owned localDiskRequirements users with
  | none => rfl
  | some failing =>
      obtain ⟨name, message, hardFailure⟩ := failing
      cases hardFailure <;> rfl

theorem wantedVerdict_eq
    {cluster : Cluster} {fsc : FileSystemClaim} {users : List String}
    (some : ownedBy cluster fsc .localDisk ≠ []) :
    wantedVerdict cluster fsc users = verdictOf
      ((ownedBy cluster fsc .localDisk).findSome?
        (failureOf (fsc.metadata.name :: users))) := by
  rw [← localDiskCondition_eq_verdictOf]
  unfold wantedVerdict wantedLocalDiskCondition
  rw [if_neg some]

/-- The LocalDisk that is listed first decides when it fails. -/
theorem exists_reordered_verdict
    {cluster : Cluster} {fsc : FileSystemClaim} {users : List String}
    {ld : Unstructured} {hardFailure : Bool}
    (owned : ld ∈ ownedBy cluster fsc .localDisk)
    (fails : failureOf (fsc.metadata.name :: users) ld = some hardFailure) :
    ∃ other, Reordered cluster other ∧
      wantedVerdict other fsc users = verdictOf (some hardFailure) := by
  obtain ⟨other, others, reordered, listed⟩ := exists_reordered_cons owned
  refine ⟨other, reordered, ?_⟩
  have some : ownedBy other fsc .localDisk ≠ [] := by
    rw [listed]
    exact List.cons_ne_nil _ _
  rw [wantedVerdict_eq some, listed, List.findSome?_cons, fails]

/-- When all failures are of one kind, any order leads to it. -/
theorem wantedVerdict_of_uniform
    {cluster other : Cluster} {fsc : FileSystemClaim} {users : List String}
    {ld : Unstructured} {hardFailure : Bool}
    (reordered : Reordered cluster other)
    (owned : ld ∈ ownedBy cluster fsc .localDisk)
    (fails : failureOf (fsc.metadata.name :: users) ld = some hardFailure)
    (uniform : ∀ ld ∈ ownedBy cluster fsc .localDisk,
      ∀ kind, failureOf (fsc.metadata.name :: users) ld = some kind →
        kind = hardFailure) :
    wantedVerdict other fsc users = verdictOf (some hardFailure) := by
  have listed := reordered.mem_iff.mpr owned
  rw [wantedVerdict_eq (List.ne_nil_of_mem listed)]
  cases first : (ownedBy other fsc .localDisk).findSome?
      (failureOf (fsc.metadata.name :: users)) with
  | none =>
      rw [List.findSome?_eq_none_iff] at first
      rw [first ld listed] at fails
      cases fails
  | some kind =>
      obtain ⟨failing, member, failure⟩ := List.exists_of_findSome?_eq_some first
      rw [uniform failing (reordered.mem_iff.mp member) kind failure]

/-- Without a failure the LocalDisks are healthy in any order. -/
theorem wantedVerdict_of_healthy
    {cluster first second : Cluster} {fsc : FileSystemClaim} {users : List String}
    (reorderedFirst : Reordered cluster first)
    (reorderedSecond : Reordered cluster second)
    (healthy : ∀ ld ∈ ownedBy cluster fsc .localDisk,
      failureOf (fsc.metadata.name :: users) ld = none) :
    wantedVerdict first fsc users = wantedVerdict second fsc users := by
  by_cases none : ownedBy cluster fsc .localDisk = []
  · unfold wantedVerdict wantedLocalDiskCondition
    rw [if_pos (reorderedFirst.ownedLocalDisks_eq_nil_iff.mpr none),
      if_pos (reorderedSecond.ownedLocalDisks_eq_nil_iff.mpr none)]
  · have verdict : ∀ other, Reordered cluster other →
        wantedVerdict other fsc users = verdictOf Option.none := by
      intro other reordered
      rw [wantedVerdict_eq fun empty =>
        none (reordered.ownedLocalDisks_eq_nil_iff.mp empty)]
      congr 1
      rw [List.findSome?_eq_none_iff]
      intro ld listed
      exact healthy ld (reordered.mem_iff.mp listed)
    rw [verdict first reorderedFirst, verdict second reorderedSecond]

/-- A pending LocalDisk fails softly. -/
theorem failureOf_of_isPending
    (users : List String) {ld : Unstructured} (isWaiting : isPending ld = true) :
    failureOf users ld = some false := by
  rw [failureOf_eq, if_pos isWaiting]

/-- If the order makes no difference, the failures agree. -/
theorem failuresAgree_of_irrelevant
    {cluster : Cluster} {fsc : FileSystemClaim} {users : List String}
    (irrelevant : HealthOrderIrrelevant cluster fsc users) :
    FailuresAgree cluster fsc users := by
  intro pending ld owned
  obtain ⟨waiting, waitingOwned, isWaiting⟩ := pending
  have soft := failureOf_of_isPending (fsc.metadata.name :: users) isWaiting
  obtain ⟨softly, softFirst, softVerdict⟩ := exists_reordered_verdict waitingOwned soft
  constructor
  · by_contra elsewhere
    have failed := irrelevant.usedElsewhere ld owned (by simpa using elsewhere) softly
      softFirst
    rw [softVerdict] at failed
    cases failed
  · intro byNobody
    by_contra notPending
    have hard : failureOf (fsc.metadata.name :: users) ld = some true := by
      rw [failureOf_eq, if_neg notPending, byNobody, Bool.or_true, if_pos rfl]
    obtain ⟨hardly, hardFirst, hardVerdict⟩ := exists_reordered_verdict owned hard
    have same := irrelevant.same softly hardly softFirst hardFirst
    rw [softVerdict, hardVerdict] at same
    cases same

/-- Where a LocalDisk is pending and the failures agree, all of them are soft. -/
theorem irrelevant_of_pending
    {cluster : Cluster} {fsc : FileSystemClaim} {users : List String}
    (agree : FailuresAgree cluster fsc users)
    (pending : ∃ ld ∈ ownedBy cluster fsc .localDisk, isPending ld = true) :
    HealthOrderIrrelevant cluster fsc users := by
  have others := agree pending
  obtain ⟨waiting, waitingOwned, isWaiting⟩ := pending
  have soft := failureOf_of_isPending (fsc.metadata.name :: users) isWaiting
  have uniform : ∀ ld ∈ ownedBy cluster fsc .localDisk, ∀ kind,
      failureOf (fsc.metadata.name :: users) ld = some kind → kind = false := by
    intro ld owned kind failure
    obtain ⟨notElsewhere, byNobody⟩ := others ld owned
    rw [failureOf_eq, notElsewhere, Bool.false_or] at failure
    by_cases isPending' : isPending ld = true
    · rw [if_pos isPending'] at failure
      exact (Option.some.inj failure).symm
    · rw [if_neg isPending', if_neg fun used => isPending' (byNobody used)] at failure
      cases failure
  constructor
  · intro first second reorderedFirst reorderedSecond
    rw [wantedVerdict_of_uniform reorderedFirst waitingOwned soft uniform,
      wantedVerdict_of_uniform reorderedSecond waitingOwned soft uniform]
  · intro ld owned elsewhere
    rw [(others ld owned).1] at elsewhere
    cases elsewhere

/-- Where no LocalDisk is pending, all failures are hard. -/
theorem irrelevant_of_none_pending
    {cluster : Cluster} {fsc : FileSystemClaim} {users : List String}
    (settled : ∀ ld ∈ ownedBy cluster fsc .localDisk, ¬ isPending ld = true) :
    HealthOrderIrrelevant cluster fsc users := by
  have uniform : ∀ ld ∈ ownedBy cluster fsc .localDisk, ∀ kind,
      failureOf (fsc.metadata.name :: users) ld = some kind → kind = true := by
    intro ld owned kind failure
    rw [failureOf_eq, if_neg (settled ld owned)] at failure
    split at failure
    · exact (Option.some.inj failure).symm
    · cases failure
  constructor
  · intro first second reorderedFirst reorderedSecond
    by_cases failing : ∃ ld ∈ ownedBy cluster fsc .localDisk,
        failureOf (fsc.metadata.name :: users) ld ≠ none
    · obtain ⟨ld, owned, fails⟩ := failing
      obtain ⟨kind, failure⟩ := Option.ne_none_iff_exists'.mp fails
      rw [uniform ld owned kind failure] at failure
      rw [wantedVerdict_of_uniform reorderedFirst owned failure uniform,
        wantedVerdict_of_uniform reorderedSecond owned failure uniform]
    · push Not at failing
      exact wantedVerdict_of_healthy reorderedFirst reorderedSecond failing
  · intro ld owned elsewhere other reordered
    have hard : failureOf (fsc.metadata.name :: users) ld = some true := by
      rw [failureOf_eq, if_neg (settled ld owned), elsewhere, Bool.true_or, if_pos rfl]
    exact wantedVerdict_of_uniform reordered owned hard uniform

/-- The order of the LocalDisks makes no difference just if their failures
agree. -/
theorem health_order_irrelevant_iff
    (cluster : Cluster) (fsc : FileSystemClaim) (users : List String) :
    HealthOrderIrrelevant cluster fsc users ↔ FailuresAgree cluster fsc users := by
  refine ⟨failuresAgree_of_irrelevant, fun agree => ?_⟩
  by_cases pending : ∃ ld ∈ ownedBy cluster fsc .localDisk, isPending ld = true
  · exact irrelevant_of_pending agree pending
  · exact irrelevant_of_none_pending fun ld owned isPending' =>
      pending ⟨ld, owned, isPending'⟩

/-- A claim with a LocalDisk in use elsewhere and one that is not ready yet. -/
def mixedCluster : Cluster :=
  { readyCluster with
    localDisks := [
      { ownedObject readyClaim "uuid.1" (localDiskSpec "/dev/sdb" "node") with
        conditions := some [metCondition .ready, metCondition .used]
        filesystem := "other" },
      { ownedObject readyClaim "uuid.2" (localDiskSpec "/dev/sdc" "node") with
        conditions := some [] }] }

/-- The reason depends on which of them is listed first. -/
theorem health_depends_on_order : ¬ HealthOrderIrrelevant mixedCluster readyClaim ["fs"] := by
  intro irrelevant
  have reversed : Reordered mixedCluster
      { mixedCluster with localDisks := mixedCluster.localDisks.reverse } :=
    ⟨mixedCluster.localDisks.reverse, List.reverse_perm _, rfl⟩
  have same := irrelevant.same _ _ (Reordered.refl mixedCluster) reversed
  revert same
  decide

end FusionAccess
