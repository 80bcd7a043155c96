import FusionAccess.Controller.Migration
import FusionAccess.Controller.StepExits

/-!
# What the conditions of a claim tell about each other

Only the controller and the migration write conditions of claims. Whatever
passes have gone before, each type occurs once, what the migration has recorded
is true, and LocalDisks are remembered only where the devices are remembered
as validated.
-/

namespace FusionAccess

open Kubernetes Interaction Fallible

/-! ## Coherent conditions -/

/-- The first condition of the type is true. -/
def RecordsTrue (conditions : List Condition) (conditionType : ConditionType) : Prop :=
  ∃ condition, findStatusCondition conditions conditionType = some condition ∧
    condition.status = .isTrue

theorem recordsTrue_iff
    {fsc : FileSystemClaim}
    (distinct : (fsc.conditions.map Condition.type).Nodup)
    (conditionType : ConditionType) :
    RecordsTrue fsc.conditions conditionType ↔
      isConditionTrue fsc conditionType = true :=
  (isConditionTrue_iff distinct conditionType).symm

/-- The condition says that LocalDisks are there or on their way. -/
def mentionsLocalDisks (status : ConditionStatus) (reason : Reason) : Bool :=
  status = .isTrue || reason = .localDiskCreationInProgress

/-- The conditions as passes leave them. -/
structure Coherent (conditions : List Condition) : Prop where
  distinct : (conditions.map Condition.type).Nodup
  migrated : ∀ conditionType condition,
    findStatusCondition conditions conditionType = some condition →
      condition.reason = .migrationComplete → condition.status = .isTrue
  validated : ∀ condition,
    findStatusCondition conditions .localDiskCreated = some condition →
      mentionsLocalDisks condition.status condition.reason = true →
        RecordsTrue conditions .deviceValidated

theorem coherent_nil : Coherent [] where
  distinct := List.nodup_nil
  migrated := by
    intro conditionType condition impossible
    cases impossible
  validated := by
    intro condition impossible
    cases impossible

theorem coherent_migrationConditions (now : Nat) (group : LegacyResourceGroup) :
    Coherent (migrationConditions now group) where
  distinct := by
    unfold migrationConditions
    split <;> simp [migratedCondition]
  migrated := by
    intro conditionType condition found _
    have listed := (Registry.find?_eq_some found).1
    unfold migrationConditions at listed
    split at listed
    all_goals
      simp only [List.cons_append, List.nil_append, List.append_nil, List.mem_cons,
        List.not_mem_nil, or_false] at listed
      rcases listed with rfl | rfl | rfl | rfl | rfl <;> rfl
  validated := fun _ _ _ => ⟨_, rfl, rfl⟩

/-- A status write keeps the conditions coherent when it reports nothing in the
name of the migration, and LocalDisks only where the devices are validated. -/
theorem Coherent.touches
    {reports : ConditionType → ConditionStatus → Reason → Prop}
    {original modified : List Condition}
    (coherent : Coherent original)
    (touches : Touches reports original modified)
    (migrated : ∀ conditionType status reason, reports conditionType status reason →
      reason = .migrationComplete → status = .isTrue)
    (validated : ∀ condition,
      findStatusCondition modified .localDiskCreated = some condition →
        mentionsLocalDisks condition.status condition.reason = true →
          RecordsTrue modified .deviceValidated) :
    Coherent modified where
  distinct := touches.distinct coherent.distinct
  migrated := by
    intro conditionType condition found reason
    rcases touches.lookup conditionType with same | ⟨reported, found', admitted⟩
    · rw [same] at found
      exact coherent.migrated conditionType condition found reason
    · rw [found] at found'
      cases found'
      exact migrated _ _ _ admitted reason
  validated := validated

/-! ## Claims -/

/-- The conditions of all claims are coherent. -/
def AllCoherent (cluster : Cluster) : Prop :=
  ∀ key fsc, cluster.claim? key = some fsc → Coherent fsc.conditions

/-- The conditions of all claims are coherent, and those of one claim have a
property. -/
structure Holding
    (property : List Condition → Prop) (key : NamespacedName) (cluster : Cluster) :
    Prop where
  coherent : AllCoherent cluster
  property : ∀ cur, cluster.claim? key = some cur → property cur.conditions

/-- Conditions a claim may start with: none, or those of the migration. -/
def AreInitial (conditions : List Condition) : Prop :=
  conditions = [] ∨ ∃ now group, conditions = migrationConditions now group

theorem coherent_of_areInitial
    {conditions : List Condition} (initial : AreInitial conditions) :
    Coherent conditions := by
  rcases initial with rfl | ⟨now, group, rfl⟩
  · exact coherent_nil
  · exact coherent_migrationConditions now group

/-- Conditions of claims are left to the controller: those of a claim stay as
they were unless the claim is new or has just been migrated. -/
def LeavesConditions (before after : Cluster) : Prop :=
  ∀ key fsc, after.claim? key = some fsc → AreInitial fsc.conditions ∨
    ∃ earlier, before.claim? key = some earlier ∧ fsc.conditions = earlier.conditions

theorem AllCoherent.mono
    {before after : Cluster}
    (coherent : AllCoherent before)
    (leaves : LeavesConditions before after) :
    AllCoherent after := by
  intro key fsc stored
  rcases leaves key fsc stored with initial | ⟨earlier, stored', same⟩
  · exact coherent_of_areInitial initial
  · rw [same]
    exact coherent key earlier stored'

section Calls

variable {property : List Condition → Prop} {key : NamespacedName} {cluster : Cluster}

theorem Holding.elsewhere
    {call : Call}
    (holding : Holding property key cluster)
    (claims : call.part? ≠ some .claims) :
    Holding property key (cluster.afterCall call) where
  coherent := by
    intro other fsc stored
    rw [cluster.claim?_afterCall claims] at stored
    exact holding.coherent other fsc stored
  property := by
    intro cur stored
    rw [cluster.claim?_afterCall claims] at stored
    exact holding.property cur stored

theorem Holding.patchClaimFinalizers
    (holding : Holding property key cluster)
    (original modified : List String) :
    Holding property key
      (cluster.afterCall (.patchClaimFinalizers key original modified)) where
  coherent := by
    intro other fsc found
    obtain ⟨cur, stored, _, same⟩ := Cluster.claim?_patchClaimFinalizers found
    rw [same]
    exact holding.coherent other cur stored
  property := by
    intro patched found
    obtain ⟨cur, stored, _, same⟩ := Cluster.claim?_patchClaimFinalizers found
    rw [same]
    exact holding.property cur stored

theorem Holding.patchClaimStatus
    {cur : FileSystemClaim} {modified : List Condition}
    (holding : Holding property key cluster)
    (stored : cluster.claim? key = some cur)
    (coherent : Coherent modified)
    (holds : property modified) :
    Holding property key
      (cluster.afterCall (.patchClaimStatus key cur.conditions modified)) := by
  obtain ⟨patched, found, _, same⟩ :=
    Cluster.claim?_patchClaimStatus_stored stored modified
  refine ⟨fun other fsc found' => ?_, fun fsc found' => ?_⟩
  · by_cases named : other = key
    · subst named
      rw [found] at found'
      cases found'
      rwa [same]
    · rw [Cluster.claim?_patchClaimStatus_of_ne named] at found'
      exact holding.coherent other fsc found'
  · rw [found] at found'
    cases found'
    rwa [same]

end Calls

/-! ## Passes -/

section Pass

variable {property : List Condition → Prop} {fsc : FileSystemClaim}

theorem safe_elsewhere_holding {call : Call} (claims : call.part? ≠ some .claims) :
    Safe free (Holding property fsc.key) (request call) :=
  (safe_request (fun _ _ => trivial) fun _ holding => holding.elsewhere claims).safe

theorem safe_patchFSCSpec_holding (mutate : FileSystemClaim → FileSystemClaim) :
    Safe free (Holding property fsc.key) (patchFSCSpec fsc mutate) :=
  safe_patchFSCSpec admitsReads_free fun _ _ holding _ =>
    ⟨trivial, holding.patchClaimFinalizers _ _⟩

/-- Reports of the controller are safe when they keep the property, and when the
property says that the devices are validated wherever they mention LocalDisks. -/
theorem allowsReports_holding
    {reports : ConditionType → ConditionStatus → Reason → Prop}
    (migrated : ∀ conditionType status reason, reports conditionType status reason →
      reason = .migrationComplete → status = .isTrue)
    (kept : ∀ original modified, Touches reports original modified →
      Coherent original → property original → property modified ∧
        ∀ condition, findStatusCondition modified .localDiskCreated = some condition →
          mentionsLocalDisks condition.status condition.reason = true →
            RecordsTrue modified .deviceValidated) :
    AllowsReports free (Holding property fsc.key) fsc reports := by
  refine allowsReports_of_patch admitsReads_free
    fun state cur modified holding stored touches => ⟨trivial, ?_⟩
  have coherent := holding.coherent _ _ stored
  obtain ⟨holds, validated⟩ := kept _ _ touches coherent (holding.property _ stored)
  exact holding.patchClaimStatus stored (coherent.touches touches migrated validated) holds

/-- With the devices validated everything may be reported but their validation. -/
theorem allowsReports_validated
    {reports : ConditionType → ConditionStatus → Reason → Prop}
    (others : ∀ status reason, ¬reports .deviceValidated status reason) :
    AllowsReports free (Holding (RecordsTrue · .deviceValidated) fsc.key) fsc
      (ofPass reports) := by
  refine allowsReports_holding (fun _ _ _ reported same => absurd same reported.2)
    fun original modified touches _ ⟨condition, found, status⟩ => ?_
  have unchanged : RecordsTrue modified .deviceValidated := by
    refine ⟨condition, ?_, status⟩
    rcases touches.lookup .deviceValidated with same | ⟨_, _, reported, _⟩
    · rw [same, found]
    · exact absurd reported (others _ _)
  exact ⟨unchanged, fun _ _ _ => unchanged⟩

/-- The conditions mention no LocalDisks. -/
def MentionsNone (conditions : List Condition) : Prop :=
  ∀ condition, findStatusCondition conditions .localDiskCreated = some condition →
    mentionsLocalDisks condition.status condition.reason = false

/-- Where no LocalDisks are mentioned anything else may be reported. -/
theorem allowsReports_mentionsNone
    {reports : ConditionType → ConditionStatus → Reason → Prop}
    (others : ∀ status reason, ¬reports .localDiskCreated status reason) :
    AllowsReports free (Holding MentionsNone fsc.key) fsc (ofPass reports) := by
  refine allowsReports_holding (fun _ _ _ reported same => absurd same reported.2)
    fun original modified touches _ none => ?_
  have unchanged : MentionsNone modified := by
    intro condition found
    rcases touches.lookup .localDiskCreated with same | ⟨_, _, reported, _⟩
    · exact none condition (same ▸ found)
    · exact absurd reported (others _ _)
  refine ⟨unchanged, fun condition found mentions => ?_⟩
  rw [unchanged condition found] at mentions
  cases mentions

/-- The teardown mentions LocalDisks no more. -/
theorem allowsTeardown_coherent :
    AllowsTeardown free (Holding (fun _ => True) fsc.key) fsc where
  reads := readsSafely_of_admits admitsReads_free
  reports := by
    refine allowsReports_holding ?_ fun original modified touches coherent _ =>
      ⟨trivial, fun condition found mentions => ?_⟩
    · intro conditionType status reason reported same
      subst same
      have blocked : conditionType = .deletionBlocked ∧ status = .isTrue := by
        simpa [reportsTeardown] using reported
      exact blocked.2
    rcases touches.lookup .localDiskCreated with same | ⟨reported, found', admitted⟩
    · obtain ⟨validated, stored, status⟩ :=
        coherent.validated condition (same ▸ found) mentions
      refine ⟨validated, ?_, status⟩
      rcases touches.lookup .deviceValidated with same' | ⟨_, _, admitted⟩
      · rw [same', stored]
      · simp [reportsTeardown] at admitted
    · rw [found] at found'
      cases found'
      obtain ⟨isFalse, reason⟩ : condition.status = .isFalse ∧
          condition.reason = .localDiskDeleted := by
        simpa [reportsTeardown] using admitted
      simp [mentionsLocalDisks, isFalse, reason] at mentions
  deletesStorageClass := safe_elsewhere_holding (by simp [Call.part?])
  deletes := fun _ _ => safe_elsewhere_holding (by simp [Call.part?])
  dropsFinalizer := safe_patchFSCSpec_holding dropFinalizer

/-- Where the devices are validated, a pass keeps them so. -/
theorem ensures_provision_validated
    {cluster : Cluster}
    (validated : isConditionTrue fsc .deviceValidated = true)
    (holding : Holding (RecordsTrue · .deviceValidated) fsc.key cluster) :
    Ensures free (provision fsc)
      (fun _ final => Holding (RecordsTrue · .deviceValidated) fsc.key final)
      cluster := by
  have admits := admitsReads_free
  have reads : ReadsSafely free (Holding (RecordsTrue · .deviceValidated) fsc.key) :=
    readsSafely_of_admits admits
  have elsewhere : ∀ {call : Call}, call.part? ≠ some .claims →
      Safe free (Holding (RecordsTrue · .deviceValidated) fsc.key) (request call) :=
    safe_elsewhere_holding
  have reported : ∀ {reports : ConditionType → ConditionStatus → Reason → Prop},
      (∀ status reason, ¬reports .deviceValidated status reason) →
      AllowsReports free (Holding (RecordsTrue · .deviceValidated) fsc.key) fsc
        (ofPass reports) := allowsReports_validated
  have localDisks : Safe free (Holding (RecordsTrue · .deviceValidated) fsc.key)
      (ensureLocalDisks fsc) := by
    refine safe_ensureLocalDisks_of_validation reads ?_
      (fun invalid => by rw [validated] at invalid; cases invalid)
      (reported (by simp [reportsFailure, ResourceType.conditionType]))
      fun _ _ _ _ _ => elsewhere (by simp [Call.part?])
    have immutable := @allowsReports_validated fsc reportsImmutable
      (by simp [reportsImmutable])
    refine immutable.mono ?_
    rintro conditionType status reason ⟨rfl, rfl, rfl⟩
    exact ⟨⟨rfl, rfl, rfl⟩, by simp⟩
  exact ensures_provision_of_reports reads (fun others _ => reported others)
    ((localDisks cluster holding).mono fun _ _ ensured => ensured.2)
    (fun _ => elsewhere (by simp [Call.part?])) (fun _ _ => elsewhere (by simp [Call.part?]))
    (elsewhere (by simp [Call.part?])) fun _ => elsewhere (by simp [Call.part?])

/-- Before the devices are validated, a pass does no more than validate them. -/
theorem ensures_provision_unvalidated
    {cluster : Cluster}
    (invalid : isConditionTrue fsc .deviceValidated = false)
    (notCreated : isConditionTrue fsc .localDiskCreated = false)
    (notAwaiting : awaitsLocalDisks fsc = false)
    (holding : Holding MentionsNone fsc.key cluster) :
    Ensures free (provision fsc)
      (fun _ final => Holding MentionsNone fsc.key final) cluster := by
  have validation : Ensures free (recordValidation fsc)
      (fun result final => (True ∧ Holding MentionsNone fsc.key final) ∧
        GoesOn cluster False result final) cluster := by
    have safe : Safe free (Holding MentionsNone fsc.key) (recordValidation fsc) :=
      safe_validation (readsSafely_of_admits admitsReads_free)
        (allowsReports_mentionsNone (by simp [reportsValidation]))
    refine (safe cluster holding).and (goesOn_afterAttempt ?_)
    rintro (failure | _) final
    · exact goesOn_after _ _
    · exact goesOn_after _ _
  refine ensures_provision_orElse (ensures_ensureLocalDisks_exits admitsReads_free
    (fun _ _ => holding) (fun created => ?_) (fun created => ?_) (fun _ awaiting => ?_)
    (fun _ _ _ => validation.mono ?_) fun _ _ validated => ?_)
  · rw [notCreated] at created
    cases created
  · rw [notCreated] at created
    cases created
  · rw [notAwaiting] at awaiting
    cases awaiting
  · rintro (failure | _ | _) final ⟨⟨_, holds⟩, ends⟩
    · exact holds
    · exact absurd (ends rfl).2 id
    · exact holds
  · rw [invalid] at validated
    cases validated

/-- Every pass leaves the conditions of all claims coherent. -/
theorem ensures_reconcile_coherent
    {cluster : Cluster}
    (r : FileSystemClaimReconciler)
    (key : NamespacedName)
    (coherent : AllCoherent cluster) :
    Ensures free (reconcile r key) (fun _ final => AllCoherent final) cluster := by
  refine ensures_reconcile admitsReads_free (fun _ => coherent) (fun fsc stored => ?_)
    fun _ _ _ _ => coherent
  obtain rfl : fsc.key = key := (Registry.find?_eq_some stored).2
  have conditions := coherent _ fsc stored
  by_cases leaving : isDeleting fsc = true ∧ hasFinalizer fsc = true
  · have safe := safe_reconcileClaim_of_teardown (r := r) leaving.1
      (safe_handleDeletion leaving.1 leaving.2 (@allowsTeardown_coherent fsc))
    refine (safe cluster ⟨coherent, fun _ _ => trivial⟩).mono ?_
    exact fun _ _ ensured => ensured.2.coherent
  have goesOn : isDeleting fsc = true → hasFinalizer fsc = false := by
    intro deleting
    simpa [deleting] using leaving
  have only : ∀ cur, cluster.claim? fsc.key = some cur → cur = fsc := by
    intro cur found
    rw [stored] at found
    cases found
    rfl
  cases validated : isConditionTrue fsc .deviceValidated with
  | true =>
      have holding : Holding (RecordsTrue · .deviceValidated) fsc.key cluster := by
        refine ⟨coherent, fun cur found => ?_⟩
        rw [only cur found]
        exact find?_of_isConditionTrue conditions.distinct validated
      have ready := @allowsReports_validated fsc reportsReady (by simp [reportsReady])
      refine (ensures_reconcileClaim_of_provision goesOn
        (fun _ => safe_patchFSCSpec_holding addFinalizer)
        (fun _ => ensures_provision_validated validated holding)
        (safe_syncFSCReady (ready.mono ?_)) holding).mono fun _ _ holds => holds.coherent
      rintro conditionType status reason ⟨rfl, succeeded⟩
      exact ⟨⟨rfl, succeeded⟩, by rcases succeeded with rfl | rfl <;> simp⟩
  | false =>
      have unmentioned : MentionsNone fsc.conditions := by
        intro condition found
        by_contra mentions
        have recorded := conditions.validated condition found (by simpa using mentions)
        rw [recordsTrue_iff conditions.distinct, validated] at recorded
        cases recorded
      have holding : Holding MentionsNone fsc.key cluster := by
        refine ⟨coherent, fun cur found => ?_⟩
        rw [only cur found]
        exact unmentioned
      have notCreated : isConditionTrue fsc .localDiskCreated = false := by
        by_contra created
        obtain ⟨condition, found, status⟩ :=
          find?_of_isConditionTrue conditions.distinct (by simpa using created)
        simpa [mentionsLocalDisks, status] using unmentioned condition found
      have notAwaiting : awaitsLocalDisks fsc = false := by
        unfold awaitsLocalDisks hasConditionWithReason
        cases found : findStatusCondition fsc.conditions .localDiskCreated with
        | none => rfl
        | some condition =>
            have none := unmentioned condition found
            simp only [mentionsLocalDisks, Bool.or_eq_false_iff] at none
            exact none.2
      have ready := @allowsReports_mentionsNone fsc reportsReady (by simp [reportsReady])
      refine (ensures_reconcileClaim_of_provision goesOn
        (fun _ => safe_patchFSCSpec_holding addFinalizer)
        (fun _ => ensures_provision_unvalidated validated notCreated notAwaiting holding)
        (safe_syncFSCReady (ready.mono ?_)) holding).mono fun _ _ holds => holds.coherent
      rintro conditionType status reason ⟨rfl, succeeded⟩
      exact ⟨⟨rfl, succeeded⟩, by rcases succeeded with rfl | rfl <;> simp⟩

end Pass

end FusionAccess
