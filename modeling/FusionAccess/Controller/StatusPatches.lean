import FusionAccess.Interaction.Interleaving
import FusionAccess.Kubernetes.Cache
import FusionAccess.Controller.HelperContracts

/-!
# Concurrent status patches

A status patch replaces the whole array of conditions by the one that was
computed from the version read, and nothing in it makes the API server notice
that another version is stored by then. It therefore keeps the conditions that
it does not name exactly when the version read agrees with the stored one on
them, or when the patch is empty.
-/

namespace FusionAccess

open Kubernetes Interaction

/-- A change of a claim's status as it is handed to `patchFSCStatus`, with the
condition types that it names: it leaves all others alone. -/
structure StatusPatch where
  fsc : FileSystemClaim
  mutate : Nat → FileSystemClaim → FileSystemClaim
  named : List ConditionType
  leavesOthers : ∀ now cur, ∀ conditionType ∉ named,
    findStatusCondition (mutate now cur).conditions conditionType =
      findStatusCondition cur.conditions conditionType

/-- The change that sets one condition. -/
def conditionPatch
    (fsc : FileSystemClaim) (conditionType : ConditionType)
    (status : ConditionStatus) (reason : Reason) (message : String) :
    StatusPatch where
  fsc := fsc
  mutate := withCondition conditionType status reason message
  named := [conditionType]
  leavesOthers := by
    intro now cur other unnamed
    have different : conditionType ≠ other := by
      rintro rfl
      exact unnamed (List.mem_singleton_self _)
    rw [findStatusCondition_withCondition, if_neg different]

/-- The calls of `patchFSCStatus`, one program per change. -/
def statusPatcher : StatusPatch → Program kubernetes (Except Failure Unit) :=
  fun patch => (patchFSCStatus patch.fsc patch.mutate).run

/-- A read, or a status patch between versions that differ in named conditions
only. -/
def PatchesOnly (named : List ConditionType) (call : Call) : Prop :=
  call.isRead = true ∨
    ∃ key original modified, call = .patchClaimStatus key original modified ∧
      ∀ conditionType ∉ named,
        findStatusCondition modified conditionType =
          findStatusCondition original conditionType

theorem issues_request {calls : Call → Prop} {call : Call} (issued : calls call) :
    Fallible.Issues calls (request call) :=
  ⟨issued, fun _ => trivial⟩

theorem issues_retryOnConflict {α : Type}
    {calls : Call → Prop}
    {attempted : Act α}
    (steps : Nat)
    (issues : Fallible.Issues calls attempted) :
    Fallible.Issues calls (retryOnConflict attempted (steps + 1)) := by
  induction steps with
  | zero => exact issues
  | succ steps inductionHypothesis =>
      rw [retryOnConflict]
      refine issues.attempt.bind ?_
      rintro (failure | value)
      · dsimp only
        split
        · exact inductionHypothesis
        · exact Fallible.issues_throw failure
      · exact Fallible.issues_pure value

/-- Whatever it reads, a status patch changes named conditions only. -/
theorem issues_statusPatcher (patch : StatusPatch) :
    (statusPatcher patch).Issues (PatchesOnly patch.named) := by
  refine issues_retryOnConflict 4 ?_
  refine (issues_request (Or.inl rfl)).bind fun cur => ?_
  refine (issues_request (Or.inl rfl)).bind fun now => ?_
  exact issues_request (Or.inr ⟨_, _, _, rfl, patch.leavesOthers now cur⟩)

/-! ## What a patch keeps -/

/-- Two versions of the conditions agree on the types that are not named. -/
def agreeOutside
    (named : List ConditionType) (first second : List Condition) : Bool :=
  (first ++ second).all fun condition =>
    condition.type ∈ named ||
      findStatusCondition first condition.type =
        findStatusCondition second condition.type

theorem agreeOutside_iff
    (named : List ConditionType) (first second : List Condition) :
    agreeOutside named first second = true ↔
      ∀ conditionType ∉ named,
        findStatusCondition first conditionType =
          findStatusCondition second conditionType := by
  simp only [agreeOutside, List.all_eq_true, Bool.or_eq_true, decide_eq_true_eq]
  constructor
  · intro agree conditionType unnamed
    by_cases listed : ∃ condition ∈ first ++ second, condition.type = conditionType
    · obtain ⟨condition, member, rfl⟩ := listed
      exact (agree condition member).resolve_left unnamed
    · have absent : ∀ conditions : List Condition,
          (∀ condition ∈ conditions, condition ∈ first ++ second) →
            findStatusCondition conditions conditionType = none := by
        intro conditions included
        rw [findStatusCondition, Registry.find?_eq_none]
        intro condition member same
        exact listed ⟨condition, included condition member, same⟩
      rw [absent first fun condition => List.mem_append_left _,
        absent second fun condition => List.mem_append_right _]
  · intro agree condition _
    by_cases isNamed : condition.type ∈ named
    · exact Or.inl isNamed
    · exact Or.inr (agree condition.type isNamed)

/-- The condition of a type that is stored for a claim. -/
def conditionOf
    (cluster : Cluster) (key : NamespacedName) (conditionType : ConditionType) :
    Option Condition :=
  (cluster.claim? key).bind fun claim =>
    findStatusCondition claim.conditions conditionType

/-- Exactly when a patch keeps the conditions that are not named. -/
theorem keeps_unnamed_iff
    {cluster : Cluster} {key : NamespacedName} {claim : FileSystemClaim}
    {named : List ConditionType} {original modified : List Condition}
    (stored : cluster.claim? key = some claim)
    (namedOnly : ∀ conditionType ∉ named,
      findStatusCondition modified conditionType =
        findStatusCondition original conditionType) :
    (∀ conditionType ∉ named,
        conditionOf (cluster.afterCall (.patchClaimStatus key original modified))
            key conditionType =
          conditionOf cluster key conditionType) ↔
      original = modified ∨ agreeOutside named original claim.conditions = true := by
  obtain ⟨patched, found, _, conditions⟩ :=
    Cluster.claim?_patchClaimStatus stored original modified
  simp only [conditionOf, found, stored, Option.bind_some, conditions]
  by_cases empty : original = modified
  · simp [empty]
  · rw [agreeOutside_iff]
    simp only [empty, if_false, false_or]
    constructor
    · intro keeps conditionType unnamed
      rw [← namedOnly conditionType unnamed]
      exact keeps conditionType unnamed
    · intro agree conditionType unnamed
      rw [namedOnly conditionType unnamed]
      exact agree conditionType unnamed

/-! ## Interleavings -/

/-- The version that the patch started from agrees with the stored one on what
the patch does not name, or the patch is empty. -/
def UpToDate (occurrence : Occurrence cachedServer StatusPatch) : Prop :=
  match occurrence.event.request with
  | .patchClaimStatus key original modified =>
      original = modified ∨
        ∀ claim ∈ occurrence.event.before.stored.claim? key,
          agreeOutside occurrence.index.named original claim.conditions = true
  | _ => True

instance (occurrence : Occurrence cachedServer StatusPatch) :
    Decidable (UpToDate occurrence) := by
  unfold UpToDate
  split <;> infer_instance

/-- A condition that one patch has written is not reverted by a later call of a
patch that names other condition types. -/
def NeverReverted (log : List (Occurrence cachedServer StatusPatch)) : Prop :=
  ∀ (i j : Nat) (first later : Occurrence cachedServer StatusPatch),
    i < j → log[i]? = some first → log[j]? = some later →
      ∀ key original modified conditionType,
        first.event.request = .patchClaimStatus key original modified →
        conditionType ∈ first.index.named → conditionType ∉ later.index.named →
        conditionOf later.event.before.stored key conditionType =
            conditionOf first.event.after.stored key conditionType →
          conditionOf later.event.after.stored key conditionType =
            conditionOf first.event.after.stored key conditionType

/-- A call that starts from an up-to-date version keeps every condition that it
does not name. -/
theorem keeps_of_upToDate
    {occurrence : Occurrence cachedServer StatusPatch}
    (patchesOnly : PatchesOnly occurrence.index.named occurrence.event.request)
    (upToDate : UpToDate occurrence)
    (key : NamespacedName)
    {conditionType : ConditionType}
    (unnamed : conditionType ∉ occurrence.index.named) :
    conditionOf occurrence.event.after.stored key conditionType =
      conditionOf occurrence.event.before.stored key conditionType := by
  obtain ⟨index, before, call, choice⟩ := occurrence
  rcases stored_serveCached choice before call with carriedOut | unchanged
  · change conditionOf (serveCached choice before call).1.stored key conditionType = _
    rw [carriedOut]
    rcases patchesOnly with reads | ⟨patched, original, modified, rfl, namedOnly⟩
    · rw [before.stored.afterCall_of_isRead reads]
    · by_cases same : key = patched
      · subst same
        cases stored : before.stored.claim? key with
        | none =>
            have untouched : before.stored.afterCall
                (.patchClaimStatus key original modified) = before.stored := by
              simp only [Cluster.afterCall, Cluster.answer,
                Cluster.patchClaimStatus, stored]
            rw [untouched]
        | some claim =>
            refine (keeps_unnamed_iff stored namedOnly).mpr ?_ conditionType unnamed
            exact upToDate.imp_right fun agree => agree claim stored
      · rw [conditionOf, Cluster.claim?_patchClaimStatus_of_ne same, conditionOf]
  · change conditionOf (serveCached choice before call).1.stored key conditionType = _
    rw [unchanged]

/-- In every interleaving of status patches with each other and with any other
writes, in which reads may be stale but no patch starts from a version that is
outdated in what it does not name, no written condition is reverted. -/
theorem conditions_never_reverted
    (initial : Versions)
    (turns : List (Turn cachedServer StatusPatch))
    (upToDate : ∀ occurrence ∈ (interleave statusPatcher initial turns).log,
      UpToDate occurrence) :
    NeverReverted (interleave statusPatcher initial turns).log := by
  have bounded := bounded_interleave issues_statusPatcher initial turns
  intro i j first later _ _ foundLater key original modified conditionType _ _
    unnamed same
  have member := List.mem_of_getElem? foundLater
  have keeps := keeps_of_upToDate (bounded.log later member)
    (upToDate later member) key unnamed
  rw [keeps, same]

/-! ## Two patches of a claim -/

/-- A claim without conditions. -/
def newClaim : FileSystemClaim where
  metadata := { name := "fs", ns := "ibm-spectrum-scale" }
  devices := ["/dev/sdb"]

/-- The cluster that stores the claim. -/
def newVersions : Versions where
  stored := { claims := [newClaim] }

/-- The report on its LocalDisks. -/
def localDiskPatch : StatusPatch :=
  conditionPatch newClaim .localDiskCreated .isFalse .localDiskCreationInProgress
    "Waiting for LocalDisk objects to appear"

/-- The report on the claim as a whole. -/
def readyPatch : StatusPatch :=
  conditionPatch newClaim .ready .isFalse .provisioningInProgress
    "Provisioning in progress"

/-- One patch after the other; the cache from which the second one reads lags
behind by the given number of versions. -/
def oneAfterTheOther (age : Nat) : List (Turn cachedServer StatusPatch) :=
  [.launch localDiskPatch, .step 0 ({}, 0), .step 0 ({}, 0), .step 0 ({}, 0),
    .launch readyPatch, .step 1 ({}, age), .step 1 ({}, 0), .step 1 ({}, 0)]

/-- Patches that read the latest version revert nothing. -/
theorem conditions_never_reverted_latest :
    NeverReverted
      (interleave statusPatcher newVersions (oneAfterTheOther 0)).log :=
  conditions_never_reverted newVersions (oneAfterTheOther 0) (by decide)

/-- A read that misses the first patch makes the second one revert it. -/
theorem stale_read_reverts :
    ¬ ∀ (initial : Versions) (turns : List (Turn cachedServer StatusPatch)),
      NeverReverted (interleave statusPatcher initial turns).log := by
  intro never
  have reverts := never newVersions (oneAfterTheOther 1) 2 5 _ _ (by decide)
    rfl rfl readyPatch.fsc.key _ _ .localDiskCreated rfl (by decide) (by decide)
  revert reverts
  decide

end FusionAccess
