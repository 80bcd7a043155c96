import FusionAccess.Controller.MigrationResume
import FusionAccess.Controller.LocalDiskCreation

/-!
# Devices of migrated claims

Whether a migrated group ends with a claim whose devices are the devices of
its LocalDisks. A claim that exists already keeps its own devices, and
LocalDisks that name a claim of this name as their owner are not candidates,
so this is decided by what the migration finds.
-/

namespace FusionAccess

open Kubernetes Interaction Registry

/-- The migration of one group under an environment. -/
abbrev groupRun (base : Cluster) (name : String) (choices : Nat → Choice) :
    Outcome apiServer (Except Failure Unit) :=
  (migrateResourceGroup (validGroup base name)).run.run apiServer choices base

/-- The LocalDisks that a claim owns have the devices of the claim. -/
def MatchesDisks (cluster : Cluster) (key : NamespacedName) : Prop :=
  ∃ fsc, cluster.claim? key = some fsc ∧
    ownedDevices (ownedBy cluster fsc .localDisk) = fsc.devices.toFinset

/-- The devices of the claim that a group gets: those of a claim that exists,
and otherwise those of the group. -/
def claimDevices (base : Cluster) (name : String) : List String :=
  match base.claim? (migrationKey name) with
  | some fsc => fsc.devices
  | none => (legacyGroup base name).devicePaths

/-- The disk is owned once the group of a filesystem is migrated: it names a
claim of this name already, or it is a candidate of the group. -/
def endsOwned (name : String) (ld : Unstructured) : Bool :=
  ld.metadata.ns = migrationNamespace &&
    (isOwnedByThisFSC ld name || (isV1LocalDisk ld && ld.filesystem = name))

/-- What the migration finds lets the devices match in the end. -/
def findsMatchingDevices (base : Cluster) (name : String) : Bool :=
  ownedDevices (base.localDisks.filter (endsOwned name)) =
    (claimDevices base name).toFinset

section Group

variable {base final : Cluster} {name : String} {group : GroupProgress}

/-- Only disks of the group are adopted. -/
theorem adopted_iff_of_done
    (distinct : DistinctNames base)
    (reached : Reached base (Function.update untouched name group) final)
    (done : ResourcesDone base name group)
    {ld : Unstructured}
    (listed : ld ∈ base.localDisks) :
    ld.key ∈ (Function.update untouched name group ld.filesystem).adopted ↔
      ld ∈ legacyDisks base name := by
  constructor
  · intro adopted
    have member := (reached.adopted_mem distinct listed adopted).2
    by_cases same : ld.filesystem = name
    · rwa [same] at member
    · rw [Function.update_of_ne same] at adopted
      exact absurd adopted List.not_mem_nil
  · intro member
    rw [(mem_legacyDisks.mp member).2.2.2, Function.update_self]
    exact done.adopted ld member

/-- A migrated group has the claim it found or a claim for its devices. -/
theorem claim?_of_done
    (reached : Reached base (Function.update untouched name group) final)
    (migrated : migrates base name = true)
    (done : ResourcesDone base name group) :
    ∃ fsc, final.claim? (migrationKey name) = some fsc ∧
      fsc.devices = claimDevices base name := by
  obtain ⟨ld, member⟩ := List.exists_mem_of_ne_nil _
    (legacyDisks_ne_nil_of_migrates migrated)
  have sound := reached.sound name
  rw [Function.update_self] at sound
  obtain ⟨_, _, claimed⟩ := sound.adopted _ (done.adopted ld member)
  unfold claimDevices
  cases found : base.claim? (migrationKey name) with
  | some fsc => exact ⟨fsc, reached.represents.kept _ fsc found, rfl⟩
  | none =>
      have created := reached.represents.created name found
      rw [Function.update_self] at created
      rw [found] at claimed
      cases stage : group.claim with
      | absent => simp [stage] at claimed
      | bare =>
          rw [stage] at created
          obtain ⟨fsc, stored, ⟨_, _, _, _, devices⟩, _⟩ := created
          exact ⟨fsc, stored, devices⟩
      | recorded =>
          rw [stage] at created
          obtain ⟨fsc, _, stored, ⟨_, _, _, _, devices⟩, _⟩ := created
          exact ⟨fsc, stored, devices⟩

/-- Adoption leaves the spec of an object alone. -/
theorem Adopted.specString_eq
    {old new : Unstructured}
    (adopted : Adopted final name old new)
    (field : String) :
    new.specString field = old.specString field := by
  obtain ⟨fsc, timestamp, version, _, rfl⟩ := adopted
  rfl

/-- An adopted disk is owned by the claim that adopted it. -/
theorem isOwnedByThisFSC_of_adopted
    {old new : Unstructured}
    (adopted : Adopted final name old new) :
    isOwnedByThisFSC new name = true := by
  obtain ⟨fsc, timestamp, version, stored, rfl⟩ := adopted
  have named : fsc.metadata.name = name :=
    congrArg NamespacedName.name (find?_eq_some stored).2
  rw [isOwnedByThisFSC, List.any_eq_true]
  refine ⟨ownerReference fsc, mem_upsertOwnerRef _ _, ?_⟩
  simp [ownerReference, named]

/-- The devices of the LocalDisks that a migrated claim owns. -/
theorem ownedDevices_of_done
    (distinct : DistinctNames base)
    (reached : Reached base (Function.update untouched name group) final)
    (done : ResourcesDone base name group)
    {fsc : FileSystemClaim}
    (stored : final.claim? (migrationKey name) = some fsc) :
    ownedDevices (ownedBy final fsc .localDisk) =
      ownedDevices (base.localDisks.filter (endsOwned name)) := by
  have named : fsc.metadata.name = name :=
    congrArg NamespacedName.name (find?_eq_some stored).2
  have spaced : fsc.metadata.ns = migrationNamespace :=
    congrArg NamespacedName.ns (find?_eq_some stored).2
  have devices :
      (ownedBy final fsc .localDisk).map (fun ld => ld.specString "device") =
        (base.localDisks.filter (endsOwned name)).map
          fun ld => ld.specString "device" := by
    rw [ownedBy, List.filter_filter, named, spaced]
    refine map_filter_eq_of_forall₂ reached.represents.localDisks
      fun old listed new version => ?_
    have adopted := adopted_iff_of_done distinct reached done listed
    by_cases marked : old ∈ legacyDisks base name
    · obtain ⟨_, oldSpace, candidate, inGroup⟩ := mem_legacyDisks.mp marked
      have changed : Adopted final old.filesystem old new :=
        version.1 (adopted.mpr marked)
      rw [inGroup] at changed
      have newSpace : new.metadata.ns = old.metadata.ns :=
        congrArg NamespacedName.ns changed.key_eq
      have owned := isOwnedByThisFSC_of_adopted changed
      refine ⟨?_, changed.specString_eq "device"⟩
      simp [endsOwned, newSpace, oldSpace, owned, candidate, inGroup]
    · have same : new = old := version.2 fun changed => marked (adopted.mp changed)
      subst same
      refine ⟨?_, rfl⟩
      have notCandidate : new.metadata.ns = migrationNamespace →
          (isV1LocalDisk new && decide (new.filesystem = name)) = false := by
        intro inNamespace
        by_contra candidate
        simp only [Bool.not_eq_false, Bool.and_eq_true, decide_eq_true_eq] at candidate
        exact marked (mem_legacyDisks.mpr
          ⟨listed, inNamespace, candidate.1, candidate.2⟩)
      by_cases inNamespace : new.metadata.ns = migrationNamespace
      · simp [endsOwned, inNamespace, notCandidate inNamespace]
      · simp [endsOwned, inNamespace]
  rw [ownedDevices, ownedDevices, devices]

end Group

/-- Whenever the migration of a group succeeds, its claim has the devices of
the LocalDisks that it then owns if and only if the devices of the claim that
is found, or else of the group, are those of the disks found. -/
theorem migrated_claim_matches
    {base : Cluster}
    (distinct : DistinctNames base)
    {name : String}
    (migrated : migrates base name = true)
    (choices : Nat → Choice)
    (succeeds : (groupRun base name choices).value = .ok ()) :
    MatchesDisks (groupRun base name choices).state (migrationKey name) ↔
      findsMatchingDevices base name = true := by
  have ensured := ensures_migrateResourceGroup (C := free)
    (fun _ _ _ _ => trivial) distinct (reached_untouched base) rfl migrated
  have advanced := (Program.Ensures.sound ensured choices fun _ _ => trivial).2
  rw [succeeds] at advanced
  obtain ⟨group, reached, done, _⟩ := advanced
  obtain ⟨fsc, stored, devices⟩ := claim?_of_done reached migrated done
  have owned := ownedDevices_of_done distinct reached done stored
  simp only [findsMatchingDevices, decide_eq_true_eq, ← owned, ← devices]
  constructor
  · rintro ⟨other, storedOther, agree⟩
    rw [stored] at storedOther
    cases storedOther
    exact agree
  · exact fun agree => ⟨fsc, stored, agree⟩

/-- A group without a claim, in a cluster of v1.0. -/
theorem migrated_claim_matches_legacyCluster :
    MatchesDisks (groupRun legacyCluster "fs" calm).state (migrationKey "fs") :=
  (migrated_claim_matches distinctNames_legacyCluster (by decide) calm
    (by decide)).mpr (by decide)

/-- The same cluster with a claim that a user has written for another disk. -/
def claimedCluster : Cluster :=
  { legacyCluster with
    claims := [{
      metadata := { name := "fs", ns := migrationNamespace, resourceVersion := 4 }
      devices := ["/dev/sdc"] }] }

/-- The claim keeps its device and owns the LocalDisk of another. -/
theorem migrated_claim_mismatch :
    DistinctNames claimedCluster ∧ migrates claimedCluster "fs" = true ∧
      (groupRun claimedCluster "fs" calm).value = .ok () ∧
        ¬MatchesDisks (groupRun claimedCluster "fs" calm).state
          (migrationKey "fs") := by
  refine ⟨⟨by decide, by decide, by decide⟩, by decide, by decide, ?_⟩
  rintro ⟨fsc, stored, agree⟩
  have found : ((groupRun claimedCluster "fs" calm).state.claim?
      (migrationKey "fs")).all fun fsc => ownedDevices (ownedBy
        (groupRun claimedCluster "fs" calm).state fsc .localDisk) ≠
          fsc.devices.toFinset := by decide
  rw [stored] at found
  simp [agree] at found

end FusionAccess
