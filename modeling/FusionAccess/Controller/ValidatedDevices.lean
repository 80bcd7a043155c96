import FusionAccess.Controller.DeviceImmutability
import FusionAccess.Controller.DeviceValidation

/-!
# Devices that are validated once

The devices of a claim are validated once, and the result is remembered in a
condition; the LocalDisks are created in a later pass from the devices that the
claim has then. Each of them is for a shared device as long as a validated
claim is not given devices that are not shared.
-/

namespace FusionAccess

open Kubernetes Interaction Fallible

/-- The call creates no LocalDisk but for a device that the discovery results
of all storage nodes list. -/
def createsShared (state : Cluster) : Call → Bool
  | .create .localDisk object => isShared state (object.specString "device")
  | _ => true

/-- The pass creates LocalDisks for shared devices only. -/
def CreatesSharedDisks
    (r : FileSystemClaimReconciler) (pass : Pass apiServer NamespacedName) : Prop :=
  ∀ event ∈ passLog r pass, createsShared event.before event.request = true

instance (r : FileSystemClaimReconciler) (pass : Pass apiServer NamespacedName) :
    Decidable (CreatesSharedDisks r pass) :=
  inferInstanceAs (Decidable (∀ event ∈ passLog r pass, _ = true))

/-! ## Claims whose devices are validated -/

/-- A claim has distinct types of conditions, and its devices are shared if
they are recorded as validated. -/
structure Vetted (cluster : Cluster) (fsc : FileSystemClaim) : Prop where
  distinct : (fsc.conditions.map Condition.type).Nodup
  shared : isConditionTrue fsc .deviceValidated = true →
    ∀ device ∈ fsc.devices, isShared cluster device = true

/-- All claims are vetted. -/
def AllVetted (cluster : Cluster) : Prop :=
  ∀ key fsc, cluster.claim? key = some fsc → Vetted cluster fsc

/-- Nodes and discovery results are the same. -/
structure FixesDiscovery (before after : Cluster) : Prop where
  nodes : after.nodes = before.nodes
  discoveryResults : after.discoveryResults = before.discoveryResults
  deploymentNamespace : after.deploymentNamespace = before.deploymentNamespace

theorem FixesDiscovery.isShared
    {before after : Cluster}
    (same : FixesDiscovery before after)
    (device : String) :
    isShared after device = isShared before device := by
  rw [FusionAccess.isShared, storageNodes, same.nodes, FusionAccess.isShared,
    storageNodes]
  congr 1
  funext nodeName
  rw [listsDevice, nodeResult?, same.deploymentNamespace, same.discoveryResults,
    listsDevice, nodeResult?]

theorem fixesDiscovery_afterCall (cluster : Cluster) (call : Call) :
    FixesDiscovery cluster (cluster.afterCall call) :=
  have same := cluster.sameSurroundings_afterCall call
  ⟨same.nodes, same.discoveryResults, same.deploymentNamespace⟩

theorem FixesDiscovery.trans
    {first second third : Cluster}
    (earlier : FixesDiscovery first second)
    (later : FixesDiscovery second third) :
    FixesDiscovery first third where
  nodes := later.nodes.trans earlier.nodes
  discoveryResults := later.discoveryResults.trans earlier.discoveryResults
  deploymentNamespace := later.deploymentNamespace.trans earlier.deploymentNamespace

/-- What is known of a claim depends on its devices and conditions. -/
theorem Vetted.of_same
    {before after : Cluster} {old new : FileSystemClaim}
    (vetted : Vetted before old)
    (discovery : FixesDiscovery before after)
    (devices : new.devices = old.devices)
    (conditions : new.conditions = old.conditions) :
    Vetted after new where
  distinct := conditions ▸ vetted.distinct
  shared := by
    rw [isConditionTrue, conditions, devices]
    intro validated device member
    rw [discovery.isShared]
    exact vetted.shared validated device member

/-- A state of a pass: nodes and discovery results are those of the start, the
claims have the same spec, and all of them are vetted. -/
structure Vetting (start state : Cluster) : Prop where
  discovery : FixesDiscovery start state
  keeps : ∀ key, Cluster.KeepsSpec key start state
  vetted : AllVetted state

section Vetting

variable {start state : Cluster} {fsc : FileSystemClaim}

theorem vetting_start (vetted : AllVetted start) : Vetting start start :=
  ⟨⟨rfl, rfl, rfl⟩,
    fun _ fsc found => ⟨fsc, found, Cluster.SameSpec.refl fsc⟩, vetted⟩

/-- A call keeps the claims vetted when those that it leaves are. -/
theorem Vetting.afterCall
    {call : Call}
    (vetting : Vetting start state)
    (keeps : ∀ key, Cluster.KeepsSpec key state (state.afterCall call))
    (vetted : AllVetted (state.afterCall call)) :
    Vetting start (state.afterCall call) where
  discovery := vetting.discovery.trans (fixesDiscovery_afterCall state call)
  keeps := by
    intro key patched found
    obtain ⟨cur, stored, spec⟩ := keeps key patched found
    obtain ⟨old, storedOld, earlier⟩ := vetting.keeps key cur stored
    exact ⟨old, storedOld, earlier.trans spec⟩
  vetted := vetted

theorem Vetting.elsewhere
    {call : Call}
    (vetting : Vetting start state)
    (elsewhere : call.part? ≠ some .claims) :
    Vetting start (state.afterCall call) := by
  refine vetting.afterCall (Cluster.keepsSpec_afterCall elsewhere) ?_
  intro key fsc found
  rw [state.claim?_afterCall elsewhere] at found
  exact (vetting.vetted key fsc found).of_same
    (fixesDiscovery_afterCall state call) rfl rfl

theorem Vetting.patchClaimFinalizers
    (vetting : Vetting start state)
    (key : NamespacedName) (original modified : List String) :
    Vetting start
      (state.afterCall (.patchClaimFinalizers key original modified)) := by
  refine vetting.afterCall
    (fun _ => Cluster.keepsSpec_patchClaimFinalizers _ _ _ _) ?_
  intro other patched found
  obtain ⟨cur, stored, spec, conditions⟩ := Cluster.claim?_patchClaimFinalizers found
  exact (vetting.vetted other cur stored).of_same
    (fixesDiscovery_afterCall state _) spec.devices conditions

/-- A status patch records devices as validated only if they are shared. -/
theorem Vetting.patchClaimStatus
    {key : NamespacedName} {cur : FileSystemClaim} {modified : List Condition}
    {reports : ConditionType → ConditionStatus → Reason → Prop}
    (vetting : Vetting start state)
    (stored : state.claim? key = some cur)
    (touches : Touches reports cur.conditions modified)
    (accepts : ∀ status reason, reports .deviceValidated status reason →
      status = .isFalse ∨ ∀ device ∈ cur.devices, isShared start device = true) :
    Vetting start
      (state.afterCall (.patchClaimStatus key cur.conditions modified)) := by
  refine vetting.afterCall (fun _ => Cluster.keepsSpec_patchClaimStatus _ _ _ _) ?_
  intro other patched found
  have discovery := fixesDiscovery_afterCall state
    (.patchClaimStatus key cur.conditions modified)
  by_cases different : other ≠ key
  · rw [Cluster.claim?_patchClaimStatus_of_ne different] at found
    exact (vetting.vetted other patched found).of_same discovery rfl rfl
  simp only [ne_eq, Decidable.not_not] at different
  subst different
  obtain ⟨claim, foundClaim, spec, conditions⟩ :=
    Cluster.claim?_patchClaimStatus_stored stored modified
  rw [found] at foundClaim
  cases foundClaim
  have vetted := vetting.vetted other cur stored
  have distinct : (patched.conditions.map Condition.type).Nodup :=
    conditions ▸ touches.distinct vetted.distinct
  refine ⟨distinct, fun validated device member => ?_⟩
  rw [spec.devices] at member
  rw [(vetting.discovery.trans discovery).isShared]
  obtain ⟨condition, listed, status⟩ := (isConditionTrue_iff distinct _).mp validated
  rw [conditions] at listed
  rcases touches.lookup .deviceValidated with same | ⟨reported, listed', admitted⟩
  · -- the condition is the one that was stored
    rw [same] at listed
    rw [← vetting.discovery.isShared]
    exact vetted.shared ((isConditionTrue_iff vetted.distinct _).mpr
      ⟨condition, listed, status⟩) device member
  · rw [listed] at listed'
    cases listed'
    refine (accepts _ _ admitted).resolve_left (fun isFalse => ?_) device member
    rw [status] at isFalse
    cases isFalse

/-! ## Passes -/

/-- The contract by which LocalDisks are created for shared devices only. -/
abbrev onlyShared : Contract apiServer :=
  Contract.demand fun state call => createsShared state call = true

theorem admitsReads_onlyShared : AdmitsReads onlyShared := by
  intro state call reads
  cases call <;> first | rfl | simp [Call.isRead] at reads

/-- Reports that do not concern the validation, or deny it, are safe. -/
theorem allowsReports_vetting
    {reports : ConditionType → ConditionStatus → Reason → Prop}
    (stored : start.claim? fsc.key = some fsc)
    (accepts : ∀ status reason, reports .deviceValidated status reason →
      status = .isFalse ∨ ∀ device ∈ fsc.devices, isShared start device = true) :
    AllowsReports onlyShared (Vetting start) fsc reports := by
  refine allowsReports_of_patch admitsReads_onlyShared
    fun state cur modified vetting found touches => ⟨rfl, ?_⟩
  obtain ⟨old, storedOld, spec⟩ := vetting.keeps fsc.key cur found
  rw [stored] at storedOld
  cases storedOld
  refine vetting.patchClaimStatus found touches ?_
  rwa [spec.devices]

theorem safe_elsewhere
    {call : Call}
    (guarded : ∀ state, createsShared state call = true)
    (elsewhere : call.part? ≠ some .claims) :
    Safe onlyShared (Vetting start) (request call) :=
  (safe_request (fun state _ => guarded state)
    fun _ vetting => vetting.elsewhere elsewhere).safe

/-- Devices are recorded as validated when they are shared. -/
theorem safe_recordValidation (stored : start.claim? fsc.key = some fsc) :
    Safe onlyShared (Vetting start) (recordValidation fsc) := by
  intro state vetting
  unfold recordValidation
  rw [ensures_bind, ensures_attempt]
  refine (ensures_validateDevices admitsReads_onlyShared fsc).mono ?_
  rintro (failure | _) final ⟨rfl, known⟩
  · have rejects : AllowsReports onlyShared (Vetting start) fsc
        fun conditionType status _ =>
          conditionType = .deviceValidated → status = .isFalse :=
      allowsReports_vetting stored fun _ _ reported => Or.inl (reported rfl)
    have patch : Safe onlyShared (Vetting start) (handleValidationError fsc failure) :=
      rejects _ fun _ cur => ((Touches.refl _ cur.conditions).withCondition
        (fun _ => rfl) _ _).withCondition (fun _ => rfl) _ _
    exact (patch.andThen fun _ _ => safe_pure true) final vetting
  · have shared : ∀ device ∈ fsc.devices, isShared start device = true := by
      intro device member
      rw [← vetting.discovery.isShared]
      exact (validates_iff.mp known).2 device member
    have accepts : AllowsReports onlyShared (Vetting start) fsc fun _ _ _ => True :=
      allowsReports_vetting stored fun _ _ _ => Or.inr shared
    exact ((safe_updateConditionIfChanged accepts trivial _).andThen
      fun _ _ => safe_pure true) final vetting

/-- A pass on a vetted claim creates LocalDisks for shared devices only and
leaves the claims vetted. -/
theorem safe_reconcileClaim_vetting
    (r : FileSystemClaimReconciler)
    (stored : start.claim? fsc.key = some fsc)
    (vetted : Vetted start fsc) :
    Safe onlyShared (Vetting start) (reconcileClaim r fsc) := by
  have admits := admitsReads_onlyShared
  have reads : ReadsSafely onlyShared (Vetting start) := readsSafely_of_admits admits
  have others : ∀ {reports : ConditionType → ConditionStatus → Reason → Prop},
      (∀ status reason, ¬reports .deviceValidated status reason) →
      AllowsReports onlyShared (Vetting start) fsc reports :=
    fun other => allowsReports_vetting stored
      fun status reason reported => absurd reported (other status reason)
  have finalizers : ∀ mutate, Safe onlyShared (Vetting start) (patchFSCSpec fsc mutate) :=
    fun _ => safe_patchFSCSpec admits fun _ _ vetting _ =>
      ⟨rfl, vetting.patchClaimFinalizers _ _ _⟩
  have localDisks : Safe onlyShared (Vetting start) (ensureLocalDisks fsc) := by
    refine safe_ensureLocalDisks_of_validation reads
      (others (by simp [reportsImmutable])) (fun _ => safe_recordValidation stored)
      (others (by simp [reportsFailure, ResourceType.conditionType])).ofPass ?_
    intro validated devicePath member name nodeName
    refine (safe_request (fun state vetting => ?_)
      fun _ vetting => vetting.elsewhere (by simp [Call.part?])).safe
    change isShared state devicePath = true
    rw [vetting.discovery.isShared]
    exact vetted.shared validated devicePath member
  refine safe_reconcileClaim_of_provision (fun _ => finalizers addFinalizer)
    (fun _ _ => ?_) (fun state vetting => ensures_provision_of_safe
      ((localDisks state vetting).mono fun _ _ safe => safe.2) ?_ ?_ ?_ ?_)
    (safe_syncFSCReady (others (by simp [reportsReady])))
  · exact {
      reads := reads
      reports := others (by simp [reportsTeardown])
      deletesStorageClass := safe_elsewhere (fun _ => rfl) (by simp [Call.part?])
      deletes := fun _ _ => safe_elsewhere (fun _ => rfl) (by simp [Call.part?])
      dropsFinalizer := finalizers dropFinalizer }
  · exact safe_syncLocalDiskConditions admits (others (by simp)).ofPass
      (allowsReports_owning admits fun state cur modified owning found touches =>
        ⟨rfl, owning.1.patchClaimStatus found touches fun _ _ impossible => by
          cases impossible⟩).ofPass
  · exact safe_ensureFileSystem reads
      (others (by simp [reportsFailure, ResourceType.conditionType])).ofPass
      (fun _ => safe_elsewhere (fun _ => rfl) (by simp [Call.part?]))
      fun _ _ => safe_elsewhere (fun _ => rfl) (by simp [Call.part?])
  · exact safe_syncFilesystemConditions reads (others (by simp)).ofPass
  · exact safe_ensureStorageClass reads
      (others (by simp [reportsStorageClass, reportsFailure,
        ResourceType.conditionType])).ofPass
      (safe_elsewhere (fun _ => rfl) (by simp [Call.part?]))
      fun _ _ => safe_elsewhere (fun _ => rfl) (by simp [Call.part?])

end Vetting

/-! ## Runs of admitted updates -/

/-- A claim whose devices are recorded as validated is given shared devices
only. -/
def RetainsSharing (key : NamespacedName) (before after : Cluster) : Prop :=
  ∀ old new, before.claim? key = some old → after.claim? key = some new →
    isConditionTrue old .deviceValidated = true →
      ∀ device ∈ new.devices, isShared before device = true

/-- Nodes, discovery results, and the devices and conditions of claims stay as
they are; new claims have no conditions. -/
structure LeavesClaims (before after : Cluster) : Prop where
  discovery : FixesDiscovery before after
  claims : ∀ key new, after.claim? key = some new →
    new.conditions = [] ∨
      ∃ old, before.claim? key = some old ∧ new.devices = old.devices ∧
        new.conditions = old.conditions

theorem LeavesClaims.allVetted
    {before after : Cluster}
    (leaves : LeavesClaims before after)
    (vetted : AllVetted before) :
    AllVetted after := by
  intro key new found
  rcases leaves.claims key new found with none | ⟨old, stored, devices, conditions⟩
  · exact ⟨by simp [none], by simp [isConditionTrue, none]⟩
  · exact (vetted key old stored).of_same leaves.discovery devices conditions

/-- An update that gives validated claims shared devices only leaves all claims
vetted. -/
theorem allVetted_of_updatesDevices
    {key : NamespacedName} {before after : Cluster}
    (updates : updatesDevices key before after)
    (retains : RetainsSharing key before after)
    (vetted : AllVetted before) :
    AllVetted after := by
  obtain ⟨old, devices, stored, _, rfl⟩ := updates
  have discovery : FixesDiscovery before (before.updateDevices key devices) :=
    ⟨rfl, rfl, rfl⟩
  intro other fsc found
  by_cases same : other = key
  · subst same
    obtain ⟨new, foundNew, _, _, conditions, _⟩ :=
      Cluster.claim?_updateDevices stored devices
    rw [found] at foundNew
    cases foundNew
    refine ⟨conditions ▸ (vetted other old stored).distinct, ?_⟩
    intro validated device member
    rw [discovery.isShared]
    refine retains old fsc stored found ?_ device member
    rwa [isConditionTrue, ← conditions]
  · rw [Cluster.claim?_updateDevices_of_ne same] at found
    exact (vetted other fsc found).of_same discovery rfl rfl

/-- In every run of passes on any claims, admitted updates and other events in
which no validated claim is given a device that is not shared, LocalDisks are
created for shared devices only. -/
theorem only_shared_devices_created
    (r : FileSystemClaimReconciler)
    (initial : Cluster)
    (vetted : AllVetted initial) :
    Throughout (reconciler r)
      (fun before after =>
        (∃ key, updatesDevices key before after ∧ RetainsSharing key before after) ∨
          LeavesClaims before after)
      initial (fun _ => True) (CreatesSharedDisks r) := by
  have ensures : ∀ pass, AllVetted pass.start →
      (∀ event ∈ passLog r pass, onlyShared.Kept event) ∧
        Vetting pass.start (pass.outcome (reconciler r)).state := by
    intro pass vetted
    refine passLog_of_ensures (ensures_reconcile_of_safe admitsReads_onlyShared
      (fun fsc stored => ?_) (vetting_start vetted)) fun _ _ => trivial
    have named : fsc.key = pass.index := (Registry.find?_eq_some stored).2
    exact safe_reconcileClaim_vetting r (named ▸ stored) (vetted _ fsc stored)
  refine throughout AllVetted vetted ?_
    (fun pass _ vetted => (ensures pass vetted).2.vetted)
    fun pass _ vetted => (ensures pass vetted).1
  rintro before after (⟨key, updates, retains⟩ | leaves) vetted
  · exact allVetted_of_updatesDevices updates retains vetted
  · exact leaves.allVetted vetted

/-! ## Two storage nodes -/

/-- A validated claim for the disk that both storage nodes list; the second disk
is local to the first node. -/
def partlySharedCluster : Cluster :=
  { undecidedCluster with
    claims := [{
      metadata := readyClaim.metadata
      devices := ["/dev/sdb"]
      conditions := [{
        type := .deviceValidated, status := .isTrue
        reason := .deviceValidationSucceeded }] }]
    nodes := ["a", "b"].map fun name => ⟨name, [(workerNodeRoleLabel, ""),
      (scaleStorageRoleLabel, scaleStorageRoleValue)]⟩
    discoveryResults := [
      ⟨{ name := "discovery-result-a", ns := "operator" },
        [⟨"/dev/sdb", "uuid.1"⟩, ⟨"/dev/sdc", "uuid.2"⟩]⟩,
      ⟨{ name := "discovery-result-b", ns := "operator" },
        [⟨"/dev/sdb", "uuid.1"⟩]⟩] }

theorem allVetted_partlySharedCluster : AllVetted partlySharedCluster := by
  intro key fsc stored
  have only : fsc ∈ partlySharedCluster.claims := (Registry.find?_eq_some stored).1
  rw [List.mem_singleton.mp only]
  exact ⟨by decide, by decide⟩

/-- The LocalDisk of the validated device is created. -/
theorem only_shared_devices_created_validated :
    CreatesSharedDisks {} ⟨readyKey, calm, partlySharedCluster⟩ := by
  have new : Run (S := apiServer) (reconciler {})
    (fun before after =>
      (∃ key, updatesDevices key before after ∧ RetainsSharing key before after) ∨
        LeavesClaims before after)
    partlySharedCluster [] partlySharedCluster := .start
  exact only_shared_devices_created {} partlySharedCluster
    allVetted_partlySharedCluster _ _ (new.pass readyKey calm) (fun _ _ => trivial) _
    (List.mem_append_right _ (List.mem_singleton_self _))

/-- The claim is given the other disk after the validation, and the pass looks
at the first node only. -/
theorem unshared_device_created :
    ¬ ∀ initial, AllVetted initial →
      Throughout (reconciler {})
        (fun before after => ∃ key, updatesDevices key before after)
        initial (fun _ => True) (CreatesSharedDisks {}) := by
  intro throughout
  have new : Run (S := apiServer) (reconciler {})
    (fun before after => ∃ key, updatesDevices key before after)
    partlySharedCluster [] partlySharedCluster := .start
  have updated := new.move ⟨readyKey, _, ["/dev/sdc"], rfl, by decide, rfl⟩
  have shared := throughout partlySharedCluster allVetted_partlySharedCluster _ _
    (updated.pass readyKey calm) (fun _ _ => trivial) _
    (List.mem_append_right _ (List.mem_singleton_self _))
  revert shared
  decide

end FusionAccess
