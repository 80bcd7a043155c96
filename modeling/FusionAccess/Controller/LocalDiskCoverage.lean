import FusionAccess.Controller.LocalDiskCreation

/-!
# The LocalDisks of all devices

The condition that the LocalDisks are created is meant to say that there is one
for each device of the claim. It is derived from the LocalDisks that exist, so
it is true as soon as those are ready, also when the creation has stopped in
between.
-/

namespace FusionAccess

open Kubernetes Interaction Fallible

/-- Each device of the claim is the device of one of its LocalDisks. -/
abbrev covering : Fitting where
  fits owned devices := devices ⊆ owned
  grows := fun fits _ => List.subset_append_of_subset_left _ fits

/-- The call sets the condition of the LocalDisks of a claim to true. -/
def confirmsLocalDisks (key : NamespacedName) : Call → Bool
  | .patchClaimStatus patched original modified =>
      patched = key &&
        (match findStatusCondition modified .localDiskCreated with
          | some condition => condition.status = .isTrue &&
              findStatusCondition original .localDiskCreated ≠ some condition
          | none => false)
  | _ => false

/-- Each device of the claim is the device of a LocalDisk that it owns. -/
def isCovered (cluster : Cluster) (key : NamespacedName) : Bool :=
  (cluster.claim? key).all fun fsc =>
    fsc.devices.all fun devicePath =>
      (ownedBy cluster fsc .localDisk).any fun ld =>
        ld.specString "device" = devicePath

/-- When the pass sets the condition of the LocalDisks to true, each device has
a LocalDisk. -/
def ConfirmsCovered
    (r : FileSystemClaimReconciler) (pass : Pass apiServer NamespacedName) : Prop :=
  ∀ event ∈ passLog r pass, confirmsLocalDisks pass.index event.request = true →
    isCovered event.before pass.index = true

theorem isCovered_of_covering
    {cluster : Cluster} {key : NamespacedName} {cur : FileSystemClaim}
    (stored : cluster.claim? key = some cur)
    (covers : cur.devices ⊆ devicesOf cluster cur) :
    isCovered cluster key = true := by
  simp only [isCovered, stored, Option.all_some, List.all_eq_true, List.any_eq_true,
    decide_eq_true_eq]
  intro devicePath member
  obtain ⟨ld, owned, same⟩ := List.mem_map.mp (covers member)
  exact ⟨ld, owned, same⟩

/-- The contract by which the condition is set to true only when all devices are
covered, in an environment in which calls fail only on whole claims. -/
abbrev coversDevices (key : NamespacedName) : Contract apiServer where
  rely := fun state call choice => call.remote = true → choice.fault ≠ .none →
    Whole covering key (serve choice state call).1
  guard := fun state call => confirmsLocalDisks key call = true →
    isCovered state key = true

theorem failsWhole_coversDevices (key : NamespacedName) :
    FailsWhole (coversDevices key) covering key where
  calls := by
    intro state call notPatch confirms
    cases call <;> simp_all [isStatusPatch, confirmsLocalDisks]
  faults := by
    rintro state call final ⟨choice, relied, faulty, remote, rfl⟩
    exact relied remote faulty

/-- A report that does not make the condition true is guarded. -/
theorem guardsReports_coversDevices
    {reports : ConditionType → ConditionStatus → Reason → Prop}
    (key : NamespacedName)
    (denies : ∀ status reason, reports .localDiskCreated status reason →
      status = .isFalse) :
    GuardsReports (coversDevices key) key reports := by
  intro state cur modified _ touches confirms
  simp only [confirmsLocalDisks, decide_true, Bool.true_and] at confirms
  rcases touches.lookup .localDiskCreated with same | ⟨condition, found, reported⟩
  · rw [same] at confirms
    cases original : findStatusCondition cur.conditions .localDiskCreated <;>
      simp [original] at confirms
  · rw [found] at confirms
    simp [denies _ _ reported] at confirms

/-- In every run in which LocalDisks are created for all devices of the claim or
for none, calls fail and others act only so that the claim stays whole, the
condition of the LocalDisks becomes true only when there is one for each
device. -/
theorem local_disks_complete
    (r : FileSystemClaimReconciler)
    (key : NamespacedName)
    (environment : Cluster → Cluster → Prop)
    (initial : Cluster)
    (initially : Whole covering key initial)
    (moves : ∀ before after, environment before after →
      Whole covering key before → Whole covering key after) :
    Throughout (reconciler r) environment initial (CreatesWhole covering r key)
      (ConfirmsCovered r) := by
  have ensures : ∀ pass, CreatesWhole covering r key pass →
      Whole covering key pass.start →
        (∀ event ∈ passLog r pass, (coversDevices key).Kept event) ∧
          Whole covering key (pass.outcome (reconciler r)).state := by
    intro pass creates whole
    have index := creates.index
    subst index
    have reconciles : Ensures (coversDevices pass.index) (reconcile r pass.index)
        (fun _ final => Whole covering pass.index final) pass.start := by
      refine ensures_reconcile_whole (failsWhole_coversDevices pass.index)
        (guardsReports_coversDevices _ fun _ _ reported => reported.1 rfl)
        (guardsReports_coversDevices _ ?_) ?_ ?_ ?_ creates.creation whole
      · rintro status reason (⟨impossible, _⟩ | ⟨impossible, _⟩ | ⟨isFalse, _⟩)
        · cases impossible
        · cases impossible
        · exact isFalse
      · intro state cur modified complete owned stored _ _
        refine isCovered_of_covering stored ?_
        refine (complete cur stored).resolve_left fun none => owned ?_
        exact List.map_eq_nil_iff.mp none
      · intro fsc stored live _
        have named : fsc.key = pass.index := (Registry.find?_eq_some stored).2
        rw [← named] at whole ⊢
        have terms := failsWhole_coversDevices fsc.key
        refine Ensures.mono (safe_checkDevices (readsSafely_of_admits terms.calls.admitsReads)
          (terms.allowsReports (guardsReports_coversDevices fsc.key ?_)) pass.start
          (whole.complete (named ▸ stored) live)) fun _ _ ensured => ensured.2
        rintro status reason ⟨impossible, _⟩
        cases impossible
      · exact creates.retains
    exact passLog_of_ensures reconciles creates.failures
  refine throughout (Whole covering key) initially moves
    (fun pass creates whole => (ensures pass creates whole).2) ?_
  intro pass creates whole event member confirms
  have kept := (ensures pass creates whole).1 event member
  rw [creates.index] at confirms ⊢
  exact kept confirms

/-- A claim whose LocalDisk has become ready. -/
def confirmingCluster : Cluster :=
  { readyCluster with
    claims := [{ readyClaim with
      conditions := [
        { type := .deviceValidated, status := .isTrue
          reason := .deviceValidationSucceeded },
        { type := .localDiskCreated, status := .isFalse
          reason := .localDiskCreationInProgress }] }] }

/-- The condition of a claim with all its LocalDisks becomes true. -/
theorem local_disks_complete_confirming :
    ConfirmsCovered {} ⟨readyKey, calm, confirmingCluster⟩ := by
  have started : Run (S := apiServer) (reconciler {}) undisturbed confirmingCluster
    [] confirmingCluster := .start
  refine local_disks_complete {} readyKey undisturbed confirmingCluster (by decide)
    (fun _ _ impossible => impossible.elim) _ _ (started.pass readyKey calm) ?_ _
    (List.mem_singleton_self _)
  rw [List.nil_append, List.forall_mem_singleton]
  exact ⟨rfl, by unfold RetainsFinalizer; decide, by decide, by decide⟩

/-! ## A part of the LocalDisks -/

/-- A claim for two disks, of which only one has a known WWN. -/
def halfKnownCluster : Cluster where
  claims := [{
    metadata := readyClaim.metadata
    devices := ["/dev/sdb", "/dev/sdc"] }]
  nodes := readyCluster.nodes
  discoveryResults := [⟨{ name := "discovery-result-node", ns := "operator" },
    [⟨"/dev/sdb", "uuid.1"⟩, ⟨"/dev/sdc", ""⟩]⟩]
  deploymentNamespace := some "operator"

/-- Both disks pass the validation, one LocalDisk is created, it becomes ready,
and the condition is true although the other disk has no LocalDisk. -/
theorem half_of_the_local_disks :
    ¬ ∀ initial, Whole covering readyKey initial →
      Throughout (reconciler {}) reportsLocalDisks initial (fun _ => True)
        (ConfirmsCovered {}) := by
  intro throughout
  have new : Run (S := apiServer) (reconciler {}) reportsLocalDisks halfKnownCluster []
    halfKnownCluster := .start
  have created := (new.pass readyKey calm).pass readyKey calm
  have healthy := created.move ⟨⟨"ibm-spectrum-scale", "uuid.1"⟩,
    [metCondition .ready, metCondition .used], "fs", rfl⟩
  have confirms := throughout halfKnownCluster (by decide) _ _
    (healthy.pass readyKey calm) (fun _ _ => trivial) _
    (List.mem_append_right _ (List.mem_singleton_self _))
  revert confirms
  unfold ConfirmsCovered
  decide

end FusionAccess
