import FusionAccess.Controller.Stalls

/-!
# Types of conditions

The conditions of a claim are written by the migration, all at once, and by calls of
`UpdateCondition`, one after the other. Neither lists a type twice, so that the two
lookups of a condition agree. The reason of the migration is given to true conditions
only, and so a condition that is kept for this reason has the status that is asked for.
-/

namespace FusionAccess

open Kubernetes Interaction Fallible

/-! ## Written conditions -/

/-- The arguments of a call of `UpdateCondition`. -/
structure ConditionReport where
  now : Nat
  conditionType : ConditionType
  status : ConditionStatus
  reason : Reason
  message : String
  generation : Nat

/-- The conditions after the call. -/
def ConditionReport.update
    (report : ConditionReport) (conditions : List Condition) : List Condition :=
  updateCondition report.now conditions report.conditionType report.status report.reason
    report.message report.generation

/-- The call does not deny anything in the name of the migration. -/
def ConditionReport.SparesMigration (report : ConditionReport) : Prop :=
  report.reason = .migrationComplete → report.status = .isTrue

/-- The conditions that are reached by the write of the migration and by admitted calls
of `UpdateCondition`, in any order and number. -/
inductive Written (admitted : ConditionReport → Prop) : List Condition → Prop
  | created : Written admitted []
  | migrated (now : Nat) (group : LegacyResourceGroup) :
      Written admitted (migrationConditions now group)
  | updated {conditions : List Condition}
      (before : Written admitted conditions)
      (report : ConditionReport)
      (admits : admitted report) :
      Written admitted (report.update conditions)

variable {admitted : ConditionReport → Prop} {conditions : List Condition}

theorem Written.distinct (written : Written admitted conditions) :
    (conditions.map Condition.type).Nodup := by
  induction written with
  | created => exact List.nodup_nil
  | migrated now group => exact (coherent_migrationConditions now group).distinct
  | updated _ report _ inductionHypothesis =>
      exact Registry.nodup_upsert _ inductionHypothesis

theorem Written.migratedTrue
    (written : Written ConditionReport.SparesMigration conditions) :
    MigratedTrue conditions := by
  induction written with
  | created =>
      intro conditionType condition found
      cases found
  | migrated now group => exact (coherent_migrationConditions now group).migrated
  | updated _ report spares inductionHypothesis =>
      intro conditionType condition found reason
      rw [ConditionReport.update, findStatusCondition, updateCondition,
        Registry.find?_upsert] at found
      split at found
      · cases found
        exact spares reason
      · exact inductionHypothesis conditionType condition found reason

/-! ## Lookups -/

/-- No type occurs twice, and the two lookups of a condition agree. -/
structure LookupsAgree (conditions : List Condition) : Prop where
  distinct : (conditions.map Condition.type).Nodup
  agree : ∀ fsc : FileSystemClaim, fsc.conditions = conditions → ∀ conditionType,
    isConditionTrue fsc conditionType =
      (findStatusCondition conditions conditionType).any fun condition =>
        condition.status = .isTrue

theorem lookupsAgree_of_distinct (distinct : (conditions.map Condition.type).Nodup) :
    LookupsAgree conditions where
  distinct := distinct
  agree := by
    rintro fsc rfl conditionType
    rw [Bool.eq_iff_iff, isConditionTrue_iff distinct, Option.any_eq_true]
    simp only [decide_eq_true_eq]

/-! ## Requests -/

/-- Whenever `updateConditionIfChanged` returns without an error, the stored condition
of the type has the requested status. -/
def ReportsAsRequested (cluster : Cluster) (fsc : FileSystemClaim) : Prop :=
  ∀ conditionType status reason message,
    Ensures free (updateConditionIfChanged fsc conditionType status reason message)
      (fun result final => ∀ changed, result = .ok changed →
        ∃ stored condition, final.claim? fsc.key = some stored ∧
          findStatusCondition stored.conditions conditionType = some condition ∧
          condition.status = status) cluster

theorem reportsAsRequested_of_migratedTrue
    {cluster : Cluster} {fsc : FileSystemClaim}
    (stored : cluster.claim? fsc.key = some fsc)
    (migrated : MigratedTrue fsc.conditions) :
    ReportsAsRequested cluster fsc := by
  intro conditionType status reason message
  refine ensures_updateConditionIfChanged admitsReads_free stored (fun kept => ?_)
    (fun _ => trivial) (fun _ => ?_) (fun failure _ _ _ => ?_) fun failure _ _ _ _ => ?_
  · rintro changed ⟨⟩
    obtain ⟨condition, found, requested⟩ := status_of_keepsCondition migrated kept
    exact ⟨fsc, condition, stored, found, requested⟩
  · rintro changed ⟨⟩
    obtain ⟨patched, found, _, conditions⟩ := Cluster.claim?_patchClaimStatus_stored stored
      (withCondition conditionType status reason message cluster.clock fsc).conditions
    have reported := findStatusCondition_withCondition conditionType status reason message
      cluster.clock fsc conditionType
    rw [if_pos rfl, ← conditions] at reported
    exact ⟨patched, _, found, reported, rfl⟩
  · rintro changed ⟨⟩
  · rintro changed ⟨⟩

/-- The types of conditions are unique and lookups agree in whatever the migration and
calls of `UpdateCondition` have written. When no call denies anything in the name of the
migration, `updateConditionIfChanged` succeeds only with the requested status stored;
so it does in every state that passes of the controller reach. -/
theorem condition_types_unique :
    (∀ conditions, Written (fun _ => True) conditions → LookupsAgree conditions) ∧
      (∀ (cluster : Cluster) (fsc : FileSystemClaim),
        Written ConditionReport.SparesMigration fsc.conditions →
        cluster.claim? fsc.key = some fsc → ReportsAsRequested cluster fsc) ∧
      ∀ (r : FileSystemClaimReconciler) (initial state : Cluster)
        (passes : List (Pass apiServer NamespacedName)),
        (∀ key fsc, initial.claim? key = some fsc → AreInitial fsc.conditions) →
        Run (reconciler r) LeavesConditions initial passes state →
        ∀ fsc, state.claim? fsc.key = some fsc →
          LookupsAgree fsc.conditions ∧ ReportsAsRequested state fsc := by
  refine ⟨fun conditions written => lookupsAgree_of_distinct written.distinct,
    fun cluster fsc written stored =>
      reportsAsRequested_of_migratedTrue stored written.migratedTrue, ?_⟩
  intro r initial state passes starts run fsc stored
  have started : AllCoherent initial := fun key fsc stored =>
    coherent_of_areInitial (starts key fsc stored)
  have preserved : ∀ pass : Pass apiServer NamespacedName, True →
      AllCoherent pass.start → AllCoherent (pass.outcome (reconciler r)).state := by
    intro pass _ coherent
    exact (passLog_of_ensures (ensures_reconcile_coherent r pass.index coherent)
      fun _ _ => trivial).2
  have coherent := (run.invariant started (fun _ _ leaves coherent => coherent.mono leaves)
    preserved fun _ _ => trivial).1
  have conditions := coherent _ fsc stored
  exact ⟨lookupsAgree_of_distinct conditions.distinct,
    reportsAsRequested_of_migratedTrue stored conditions.migrated⟩

/-- A claim as the migration has written it, and the same conditions after a failure. -/
theorem condition_types_unique_migratedCluster :
    LookupsAgree (ConditionReport.update ⟨1, .ready, .isFalse, .provisioningFailed, "", 0⟩
      migratedClaim.conditions) ∧ ReportsAsRequested migratedCluster migratedClaim :=
  ⟨condition_types_unique.1 _ (.updated (.migrated _ _) _ trivial),
    condition_types_unique.2.1 migratedCluster migratedClaim (.migrated _ _) (by decide)⟩

end FusionAccess
