import FusionAccess.Controller.LocalDiskCreation
import FusionAccess.Controller.Webhook

/-!
# Settled claims

A claim is settled when it owns the LocalDisks of its devices or none, and its
condition about the LocalDisks is true only where it owns some. Updates of the
devices that the webhook admits, and whatever leaves the claim and its LocalDisks
alone, keep a claim settled.
-/

namespace FusionAccess

open Kubernetes Interaction Fallible

/-- The LocalDisks are those of the devices of the claim. -/
abbrev exactly : Fitting where
  fits owned devices := (owned.filter (· ≠ "")).toFinset = devices.toFinset
  grows := by
    intro owned devices more fits part
    rw [List.filter_append, List.toFinset_append, fits, Finset.union_eq_left]
    intro devicePath member
    rw [List.mem_toFinset] at member ⊢
    exact part (List.mem_of_mem_filter member)

/-! ## Reports of a modification -/

/-- The call reports that the devices were modified. -/
def reportsModification : Call → Bool
  | .patchClaimStatus _ original modified =>
      match findStatusCondition modified .ready with
      | some condition => condition.reason = .immutableFieldModified &&
          findStatusCondition original .ready ≠ some condition
      | none => false
  | _ => false

/-- Only status patches report a modification. -/
theorem reportsModification_of_not_patch
    {call : Call} (notPatch : isStatusPatch call = false) :
    reportsModification call = false := by
  cases call <;> simp_all [isStatusPatch, reportsModification]

/-- A status patch that concerns no modification reports none. -/
theorem reportsModification_of_touches
    {key : NamespacedName} {original modified : List Condition}
    {reports : ConditionType → ConditionStatus → Reason → Prop}
    (touches : Touches reports original modified)
    (other : ∀ status reason, reports .ready status reason →
      reason ≠ .immutableFieldModified) :
    reportsModification (.patchClaimStatus key original modified) = false := by
  simp only [reportsModification]
  rcases touches.lookup .ready with same | ⟨condition, found, reported⟩
  · rw [same]
    cases findStatusCondition original .ready <;> simp
  · simp [found, other _ _ reported]

/-! ## What the condition of the LocalDisks records -/

/-- When the condition of the LocalDisks is true the claim has some, unless it
is being deleted. -/
def Recorded (key : NamespacedName) (cluster : Cluster) : Prop :=
  ∀ cur, cluster.claim? key = some cur →
    isDeleting cur = true ∨
      (cur.conditions.map Condition.type).Nodup ∧
        (isConditionTrue cur .localDiskCreated = true →
          ownedBy cluster cur .localDisk ≠ [])

instance (key : NamespacedName) (cluster : Cluster) :
    Decidable (Recorded key cluster) :=
  inferInstanceAs (Decidable (∀ cur ∈ cluster.claim? key, _ ∨ _ ∧ (_ → _)))

section Recorded

variable {key : NamespacedName} {state : Cluster}

/-- A change that keeps spec and conditions of the claim and does not take away
LocalDisks keeps the record. -/
theorem Recorded.of_same
    {after : Cluster}
    (recorded : Recorded key state)
    (claim : ∀ patched, after.claim? key = some patched →
      isDeleting patched = true ∨
        ∃ cur, state.claim? key = some cur ∧ patched.key = cur.key ∧
          isDeleting patched = isDeleting cur ∧ patched.conditions = cur.conditions)
    (localDisks : ∀ cur : FileSystemClaim, cur.key = key →
      ownedBy state cur .localDisk ≠ [] → ownedBy after cur .localDisk ≠ []) :
    Recorded key after := by
  intro patched found
  rcases claim patched found with deleting | ⟨cur, stored, sameKey, sameDeleting, same⟩
  · exact Or.inl deleting
  · rw [sameDeleting, same, isConditionTrue, same, ownedBy_of_key_eq sameKey]
    exact (recorded cur stored).imp_right fun records =>
      ⟨records.1, fun isTrue =>
        localDisks cur (Registry.find?_eq_some stored).2 (records.2 isTrue)⟩

/-- The conditions of the claim are those of the version that was read, unless it
is being deleted. -/
def Seen (key : NamespacedName) (cur : FileSystemClaim) (cluster : Cluster) : Prop :=
  ∀ new, cluster.claim? key = some new →
    isDeleting new = true ∨ new.conditions = cur.conditions

/-- A status patch keeps the record when it reports LocalDisks only where there
are some. -/
theorem Recorded.patchClaimStatus
    {cur : FileSystemClaim} {modified : List Condition}
    {reports : ConditionType → ConditionStatus → Reason → Prop}
    (recorded : Recorded key state)
    (seen : Seen key cur state)
    (touches : Touches reports cur.conditions modified)
    (denies : ∀ status reason, reports .localDiskCreated status reason →
      status = .isFalse ∨
        ∀ new, state.claim? key = some new → ownedBy state new .localDisk ≠ []) :
    Recorded key (state.afterCall (.patchClaimStatus key cur.conditions modified)) := by
  intro patched found
  obtain ⟨new, stored, spec⟩ :=
    Cluster.keepsSpec_patchClaimStatus key key cur.conditions modified patched found
  rw [isDeleting, spec.deletionTimestamp, ← isDeleting, ownedBy_of_key_eq spec.key,
    ownedBy_afterCall (by simp [Call.part?])]
  rcases seen new stored with deleting | sameConditions
  · exact Or.inl deleting
  rw [← sameConditions] at found touches
  obtain ⟨other, foundOther, _, conditions⟩ :=
    Cluster.claim?_patchClaimStatus_stored stored modified
  rw [found] at foundOther
  cases foundOther
  refine (recorded new stored).imp_right fun records => ?_
  have distinct : (patched.conditions.map Condition.type).Nodup :=
    conditions ▸ touches.distinct records.1
  refine ⟨distinct, fun isTrue => ?_⟩
  obtain ⟨condition, listed, status⟩ := (isConditionTrue_iff distinct _).mp isTrue
  rw [conditions] at listed
  rcases touches.lookup .localDiskCreated with same | ⟨reported, listed', admitted⟩
  · rw [same] at listed
    exact records.2 ((isConditionTrue_iff records.1 _).mpr ⟨condition, listed, status⟩)
  · rw [listed] at listed'
    cases listed'
    refine (denies _ _ admitted).resolve_left (fun isFalse => ?_) new stored
    rw [status] at isFalse
    cases isFalse

theorem Recorded.afterCall
    {call : Call}
    (recorded : Recorded key state)
    (claims : call.part? ≠ some .claims)
    (localDisks : call.part? ≠ some (.objects .localDisk)) :
    Recorded key (state.afterCall call) := by
  refine recorded.of_same (fun patched found => ?_) fun cur _ some => ?_
  · rw [state.claim?_afterCall claims] at found
    exact Or.inr ⟨patched, found, rfl, rfl, rfl⟩
  · rwa [ownedBy_afterCall localDisks]

/-- The creation of objects takes none away. -/
theorem ownedBy_subset_create
    (cluster : Cluster) (kind : Kind) (object : Unstructured) (fsc : FileSystemClaim) :
    ownedBy cluster fsc kind ⊆
      ownedBy (cluster.afterCall (.create kind object)) fsc kind := by
  cases stored : cluster.object? kind object.key with
  | some taken =>
      have unchanged : cluster.afterCall (.create kind object) = cluster := by
        simp only [Cluster.afterCall, Cluster.answer, Cluster.create, stored]
      rw [unchanged]
      exact List.Subset.refl _
  | none =>
      rw [ownedBy, ownedBy, cluster.objects_create stored, List.filter_append,
        List.filter_append]
      exact List.subset_append_left _ _

theorem Recorded.create
    (recorded : Recorded key state) (object : Unstructured) :
    Recorded key (state.afterCall (.create .localDisk object)) := by
  refine recorded.of_same (fun patched found => ?_) fun cur _ some => ?_
  · rw [state.claim?_afterCall (by simp [Call.part?])] at found
    exact Or.inr ⟨patched, found, rfl, rfl, rfl⟩
  · intro none
    apply some
    rw [← List.subset_nil, ← none]
    exact ownedBy_subset_create state .localDisk object cur

theorem Recorded.patchClaimFinalizers
    (recorded : Recorded key state)
    (patchedKey : NamespacedName) (original modified : List String) :
    Recorded key
      (state.afterCall (.patchClaimFinalizers patchedKey original modified)) := by
  refine recorded.of_same (fun patched found => ?_) fun cur _ some => ?_
  · obtain ⟨cur, stored, spec, conditions⟩ := Cluster.claim?_patchClaimFinalizers found
    refine Or.inr ⟨cur, stored, spec.key, ?_, conditions⟩
    rw [isDeleting, spec.deletionTimestamp, isDeleting]
  · rwa [ownedBy_afterCall (by simp [Call.part?])]

theorem Gone.recorded (gone : Gone key state) : Recorded key state :=
  fun cur stored => Or.inl (gone cur stored)

end Recorded

/-! ## Settled claims -/

/-- The claim owns the LocalDisks of its devices or none, and none while the
condition of the LocalDisks is true only when it is being deleted. -/
structure Settled (key : NamespacedName) (cluster : Cluster) : Prop where
  whole : Whole exactly key cluster
  recorded : Recorded key cluster

theorem Gone.settled {key : NamespacedName} {state : Cluster} (gone : Gone key state) :
    Settled key state :=
  ⟨gone.whole, gone.recorded⟩

section Settled

variable {key : NamespacedName} {state : Cluster}

theorem Whole.of_keepsSpec
    {F : Fitting} {after : Cluster}
    (whole : Whole F key state)
    (keeps : Cluster.KeepsSpec key state after)
    (same : after.objects .localDisk = state.objects .localDisk) :
    Whole F key after := by
  intro patched found
  obtain ⟨cur, stored, spec⟩ := keeps patched found
  rw [isDeleting, spec.deletionTimestamp, HasAllOrNone, spec.devices,
    devicesOf_of_objects_eq same, devicesOf_of_key_eq spec.key]
  exact whole cur stored

theorem Settled.afterCall
    {call : Call}
    (settled : Settled key state)
    (claims : call.part? ≠ some .claims)
    (localDisks : call.part? ≠ some (.objects .localDisk)) :
    Settled key (state.afterCall call) :=
  ⟨settled.whole.of_keepsSpec (Cluster.keepsSpec_afterCall claims key)
      (state.objects_afterCall localDisks),
    settled.recorded.afterCall claims localDisks⟩

theorem Settled.patchClaimFinalizers
    (settled : Settled key state)
    (patchedKey : NamespacedName) (original modified : List String) :
    Settled key (state.afterCall (.patchClaimFinalizers patchedKey original modified)) :=
  ⟨settled.whole.of_keepsSpec (Cluster.keepsSpec_patchClaimFinalizers _ _ _ _)
      (state.objects_afterCall (by simp [Call.part?])),
    settled.recorded.patchClaimFinalizers _ _ _⟩

theorem Settled.patchClaimStatus
    {cur : FileSystemClaim} {modified : List Condition}
    {reports : ConditionType → ConditionStatus → Reason → Prop}
    (settled : Settled key state)
    (seen : Seen key cur state)
    (touches : Touches reports cur.conditions modified)
    (denies : ∀ status reason, reports .localDiskCreated status reason →
      status = .isFalse ∨
        ∀ new, state.claim? key = some new → ownedBy state new .localDisk ≠ []) :
    Settled key (state.afterCall (.patchClaimStatus key cur.conditions modified)) :=
  ⟨settled.whole.of_keepsSpec (Cluster.keepsSpec_patchClaimStatus _ _ _ _)
      (state.objects_afterCall (by simp [Call.part?])),
    settled.recorded.patchClaimStatus seen touches denies⟩

end Settled

/-! ## What happens between two calls -/

/-- The devices of the claim are updated and the webhook admits that. -/
def updatesDevices (key : NamespacedName) (before after : Cluster) : Prop :=
  ∃ old devices, before.claim? key = some old ∧
    validateUpdate old { old with devices } = .ok () ∧
      after = before.updateDevices key devices

/-- While the claim owns LocalDisks the set of its devices stays the same. -/
def RetainsDevices (key : NamespacedName) (before after : Cluster) : Prop :=
  ∀ old new, before.claim? key = some old → after.claim? key = some new →
    devicesOf before old = [] ∨ new.devices.toFinset = old.devices.toFinset

/-- Neither the claim, unless it is deleted, nor the devices of its LocalDisks are
changed. -/
structure LeavesAlone (key : NamespacedName) (before after : Cluster) : Prop where
  claim : ∀ new, after.claim? key = some new →
    isDeleting new = true ∨
      ∃ old, before.claim? key = some old ∧ Cluster.SameSpec old new ∧
        new.conditions = old.conditions
  localDisks : ∀ fsc : FileSystemClaim, fsc.key = key →
    devicesOf after fsc = devicesOf before fsc

/-- The claim, unless it is deleted, keeps its conditions, and with LocalDisks the
set of its devices; the devices of its LocalDisks are not changed. -/
structure Tolerated (key : NamespacedName) (before after : Cluster) : Prop where
  claim : ∀ new, after.claim? key = some new →
    isDeleting new = true ∨
      ∃ old, before.claim? key = some old ∧ isDeleting new = isDeleting old ∧
        new.conditions = old.conditions ∧
          (devicesOf before old = [] ∨ new.devices.toFinset = old.devices.toFinset)
  localDisks : ∀ fsc : FileSystemClaim, fsc.key = key →
    devicesOf after fsc = devicesOf before fsc

theorem owned_of_devicesOf_eq
    {before after : Cluster} {fsc : FileSystemClaim}
    (same : devicesOf after fsc = devicesOf before fsc)
    (owned : ownedBy before fsc .localDisk ≠ []) :
    ownedBy after fsc .localDisk ≠ [] := by
  intro none
  rw [devicesOf, none, devicesOf] at same
  exact owned (List.map_eq_nil_iff.mp same.symm)

theorem key_of_claim?
    {cluster : Cluster} {key : NamespacedName} {fsc : FileSystemClaim}
    (stored : cluster.claim? key = some fsc) :
    fsc.key = key :=
  (Registry.find?_eq_some stored).2

section Tolerated

variable {key : NamespacedName} {before after : Cluster}

theorem Tolerated.refl (key : NamespacedName) (cluster : Cluster) :
    Tolerated key cluster cluster :=
  ⟨fun new found => Or.inr ⟨new, found, rfl, rfl, Or.inr rfl⟩, fun _ _ => rfl⟩

theorem Tolerated.trans
    {third : Cluster}
    (earlier : Tolerated key before after)
    (later : Tolerated key after third) :
    Tolerated key before third where
  claim := by
    intro new found
    rcases later.claim new found with deleting | ⟨between, stored, deletion, conditions, devices⟩
    · exact Or.inl deleting
    rcases earlier.claim between stored with
      deleting | ⟨old, storedOld, deletion', conditions', devices'⟩
    · exact Or.inl (deletion.trans deleting)
    refine Or.inr ⟨old, storedOld, deletion.trans deletion', conditions.trans conditions', ?_⟩
    rw [earlier.localDisks between (key_of_claim? stored), devicesOf_of_key_eq
      ((key_of_claim? stored).trans (key_of_claim? storedOld).symm)] at devices
    rcases devices with none | same
    · exact Or.inl none
    · exact devices'.imp_right same.trans
  localDisks := fun fsc named =>
    (later.localDisks fsc named).trans (earlier.localDisks fsc named)

theorem tolerated_of_leavesAlone (alone : LeavesAlone key before after) :
    Tolerated key before after where
  claim := fun new found => (alone.claim new found).imp_right
    fun ⟨old, stored, spec, conditions⟩ => ⟨old, stored,
      by rw [isDeleting, spec.deletionTimestamp, isDeleting], conditions,
      Or.inr (by rw [spec.devices])⟩
  localDisks := alone.localDisks

theorem tolerated_of_updatesDevices
    (updates : updatesDevices key before after)
    (retains : RetainsDevices key before after) :
    Tolerated key before after := by
  obtain ⟨old, devices, stored, _, rfl⟩ := updates
  obtain ⟨new, found, _, _, conditions, deletion⟩ :=
    Cluster.claim?_updateDevices stored devices
  refine ⟨fun other foundOther => Or.inr ⟨old, stored, ?_⟩, fun fsc _ =>
    devicesOf_of_objects_eq rfl fsc⟩
  rw [found] at foundOther
  cases foundOther
  refine ⟨?_, conditions, retains old new stored found⟩
  rw [isDeleting, deletion, isDeleting]

theorem Tolerated.gone
    (tolerated : Tolerated key before after)
    (gone : Gone key before) :
    Gone key after := by
  intro new found
  rcases tolerated.claim new found with deleting | ⟨old, stored, deletion, _⟩
  · exact deleting
  · exact deletion.trans (gone old stored)

theorem Tolerated.seen
    {cur : FileSystemClaim}
    (tolerated : Tolerated key before after)
    (seen : Seen key cur before) :
    Seen key cur after := by
  intro new found
  rcases tolerated.claim new found with deleting | ⟨old, stored, deletion, conditions, _⟩
  · exact Or.inl deleting
  · rw [deletion, conditions]
    exact seen old stored

theorem Tolerated.recorded
    (tolerated : Tolerated key before after)
    (recorded : Recorded key before) :
    Recorded key after := by
  refine recorded.of_same (fun new found => ?_) fun fsc named =>
    owned_of_devicesOf_eq (tolerated.localDisks fsc named)
  refine (tolerated.claim new found).imp_right ?_
  rintro ⟨old, stored, deletion, conditions, _⟩
  exact ⟨old, stored, (key_of_claim? found).trans (key_of_claim? stored).symm,
    deletion, conditions⟩

/-- A settled claim stays settled. -/
theorem Tolerated.settled
    (tolerated : Tolerated key before after)
    (settled : Settled key before) :
    Settled key after := by
  refine ⟨fun new found => ?_, tolerated.recorded settled.recorded⟩
  rcases tolerated.claim new found with deleting | ⟨old, stored, deletion, _, devices⟩
  · exact Or.inl deleting
  have sameKey := (key_of_claim? found).trans (key_of_claim? stored).symm
  rw [deletion, HasAllOrNone, tolerated.localDisks new (key_of_claim? found),
    devicesOf_of_key_eq sameKey]
  rcases settled.whole old stored with deleting | none | fits
  · exact Or.inl deleting
  · exact Or.inr (Or.inl none)
  · exact Or.inr (devices.imp_right fun same => fits.trans same.symm)

end Tolerated

/-- While LocalDisks are created for the claim nothing is changed that the plan
depends on. -/
structure Undisturbing (key : NamespacedName) (before after : Cluster) : Prop where
  alone : LeavesAlone key before after
  inventory : SameInventory before after
  names : ∀ name, name ∈ localDiskNames after ↔ name ∈ localDiskNames before

end FusionAccess
