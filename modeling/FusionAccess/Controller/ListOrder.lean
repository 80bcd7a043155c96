import FusionAccess.Controller.StepExits
import FusionAccess.Registry.Readings

/-!
# The order of a list

The API server lists objects in no particular order. A cluster whose LocalDisks
are listed in another order is the same cluster, so nothing that the operator
computes from them should depend on the order.
-/

namespace FusionAccess

open Kubernetes Interaction Registry

/-- The same cluster, with its LocalDisks listed in another order. -/
def Reordered (cluster other : Cluster) : Prop :=
  ∃ disks : List Unstructured, disks.Perm cluster.localDisks ∧
    other = { cluster with localDisks := disks }

section Reordered

variable {cluster other : Cluster} {fsc : FileSystemClaim}

theorem Reordered.refl (cluster : Cluster) : Reordered cluster cluster :=
  ⟨cluster.localDisks, List.Perm.refl _, rfl⟩

/-- The claim owns the same LocalDisks, in another order. -/
theorem Reordered.perm (reordered : Reordered cluster other) :
    (ownedBy other fsc .localDisk).Perm (ownedBy cluster fsc .localDisk) := by
  obtain ⟨disks, permutes, rfl⟩ := reordered
  unfold ownedBy
  apply List.Perm.filter
  apply List.Perm.filter
  exact permutes

theorem Reordered.mem_iff
    (reordered : Reordered cluster other) {ld : Unstructured} :
    ld ∈ ownedBy other fsc .localDisk ↔ ld ∈ ownedBy cluster fsc .localDisk :=
  reordered.perm.mem_iff

/-- The Filesystems are not touched. -/
theorem Reordered.filesystems (reordered : Reordered cluster other) :
    other.filesystems = cluster.filesystems := by
  obtain ⟨disks, -, rfl⟩ := reordered
  rfl

theorem Reordered.ownedFilesystems (reordered : Reordered cluster other) :
    ownedBy other fsc .filesystem = ownedBy cluster fsc .filesystem := by
  obtain ⟨disks, -, rfl⟩ := reordered
  rfl

theorem Reordered.ownedLocalDisks_eq_nil_iff (reordered : Reordered cluster other) :
    ownedBy other fsc .localDisk = [] ↔ ownedBy cluster fsc .localDisk = [] := by
  constructor
  · intro none
    have permutes := @Reordered.perm _ _ fsc reordered
    rw [none] at permutes
    exact permutes.nil_eq.symm
  · intro none
    have permutes := @Reordered.perm _ _ fsc reordered
    rw [none] at permutes
    exact permutes.eq_nil

/-- Any LocalDisk of a claim can be listed first. -/
theorem exists_reordered_cons
    {ld : Unstructured} (owned : ld ∈ ownedBy cluster fsc .localDisk) :
    ∃ other others, Reordered cluster other ∧
      ownedBy other fsc .localDisk = ld :: others := by
  unfold ownedBy at owned
  obtain ⟨inNamespace, isOwned⟩ := List.mem_filter.mp owned
  obtain ⟨stored, sameNamespace⟩ := List.mem_filter.mp inNamespace
  obtain ⟨disks, permutes⟩ := exists_perm_cons stored
  refine ⟨{ cluster with localDisks := ld :: disks }, ?_, ⟨ld :: disks, permutes, rfl⟩, ?_⟩
  · exact (disks.filter fun object =>
      object.metadata.ns = fsc.metadata.ns).filter fun object =>
        isOwnedByThisFSC object fsc.metadata.name
  · change List.filter _ (List.filter _ (ld :: disks)) = _
    rw [List.filter_cons, if_pos sameNamespace, List.filter_cons, if_pos isOwned]

end Reordered
end FusionAccess
