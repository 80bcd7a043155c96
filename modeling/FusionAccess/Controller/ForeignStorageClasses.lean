import FusionAccess.Controller.Passes

/-!
# StorageClasses of others

A StorageClass belongs to a claim by its name: passes of a claim change and
delete the StorageClass with the name of the claim and no other. The ownership
labels are set on that class but never looked at, so a class that somebody else
made under the same name is changed and deleted as well.
-/

namespace FusionAccess

open Kubernetes Interaction Fallible

/-- The name of the StorageClass that a call changes or deletes. -/
def changedStorageClass? : Call → Option String
  | .patchStorageClass storageClass => some storageClass.name
  | .updateStorageClass storageClass => some storageClass.name
  | .deleteStorageClass name => some name
  | _ => none

/-- The StorageClass carries the ownership labels of the claim. -/
def isLabelledFor (fsc : FileSystemClaim) (storageClass : StorageClass) : Bool :=
  storageClass.metadata.labels.get? fileSystemClaimOwnedByNameLabel =
      some fsc.metadata.name &&
    storageClass.metadata.labels.get? fileSystemClaimOwnedByNamespaceLabel =
      some fsc.metadata.ns

/-- A pass never changes or deletes a StorageClass without the labels of its
claim. -/
def SparesUnlabelled
    (r : FileSystemClaimReconciler) (pass : Pass apiServer NamespacedName) : Prop :=
  ∀ fsc ∈ pass.start.claim? pass.index, ∀ event ∈ passLog r pass,
    ∀ storageClass ∈ event.before.storageClasses,
      changedStorageClass? event.request = some storageClass.name →
        isLabelledFor fsc storageClass = true

/-- A pass never changes or deletes a StorageClass with another name than that
of its claim. -/
def SparesOtherNames
    (r : FileSystemClaimReconciler) (pass : Pass apiServer NamespacedName) : Prop :=
  ∀ event ∈ passLog r pass, ∀ name,
    changedStorageClass? event.request = some name → name = pass.index.name

/-- Passes within this bound change the StorageClass of the given name only. -/
def ChangesOnly (name : String) (call : Call) : Prop :=
  ∀ other, changedStorageClass? call = some other → other = name

section Bounds

variable {fsc : FileSystemClaim}

/-- The contract by which only the StorageClass of the claim is changed. -/
abbrev ownStorageClass (fsc : FileSystemClaim) : Contract apiServer :=
  onlyCalls (ChangesOnly fsc.metadata.name)

theorem changesOnly_of_isRead (name : String) :
    ∀ call : Call, call.isRead = true → ChangesOnly name call := by
  intro call reads other changes
  cases call <;> simp_all [Call.isRead, changedStorageClass?]

theorem coversReports_changesOnly (fsc : FileSystemClaim) :
    CoversReports (ChangesOnly fsc.metadata.name) fsc where
  reads := changesOnly_of_isRead fsc.metadata.name
  reports := fun _ _ _ changes => by cases changes

theorem safe_unchanged {call : Call} (elsewhere : changedStorageClass? call = none) :
    Safe (ownStorageClass fsc) (fun _ => True) (request call) :=
  (safe_call fun _ changes => by simp [elsewhere] at changes).safe

theorem allowsTeardown_changesOnly (fsc : FileSystemClaim) :
    AllowsTeardown (ownStorageClass fsc) (fun _ => True) fsc where
  reads := readsSafely_of_admits (coversReports_changesOnly fsc).admitsReads
  reports := (coversReports_changesOnly fsc).allowsReports _
  deletesStorageClass :=
    (safe_call fun _ changes => (Option.some.inj changes).symm).safe
  deletes := fun _ _ => safe_unchanged rfl
  dropsFinalizer := (coversReports_changesOnly fsc).patchesFinalizers
    fun _ _ changes => by cases changes

theorem allowsProvisioning_changesOnly (fsc : FileSystemClaim) :
    AllowsProvisioning (ownStorageClass fsc) (fun _ => True) fsc where
  reads := (coversReports_changesOnly fsc).admitsReads
  reports := (coversReports_changesOnly fsc).allowsReports _
  confirms := allowsReports_owning (coversReports_changesOnly fsc).admitsReads
    fun _ _ _ _ _ _ => ⟨(coversReports_changesOnly fsc).reports _ _, trivial⟩
  createsFilesystem := fun _ => safe_unchanged rfl
  patchesFilesystem := fun _ _ => safe_unchanged rfl
  createsStorageClass := safe_unchanged rfl
  patchesStorageClass := by
    intro current named
    refine (safe_call fun other changes => ?_).safe
    rw [← named]
    exact (Option.some.inj changes).symm

end Bounds

/-- In every run, passes change and delete no StorageClass but the one with the
name of their claim. -/
theorem other_storage_classes_untouched
    (r : FileSystemClaimReconciler)
    (environment : Cluster → Cluster → Prop)
    (initial : Cluster) :
    Throughout (reconciler r) environment initial (fun _ => True)
      (SparesOtherNames r) := by
  refine throughout (fun _ => True) trivial (fun _ _ _ _ => trivial)
    (fun _ _ _ => trivial) ?_
  intro pass _ _
  refine issued_of_safe (changesOnly_of_isRead pass.index.name) fun fsc stored => ?_
  have named : fsc.metadata.name = pass.index.name :=
    congrArg NamespacedName.name (Registry.find?_eq_some stored).2
  rw [← named]
  have covers := coversReports_changesOnly fsc
  refine safe_reconcileClaim (fun _ => ?_)
    (fun _ _ => allowsTeardown_changesOnly fsc)
    (safe_ensureLocalDisks (readsSafely_of_admits covers.admitsReads) (covers.allowsReports _)
      (covers.allowsReports _) (covers.allowsReports _)
      fun _ _ _ => safe_unchanged rfl)
    (allowsProvisioning_changesOnly fsc)
  exact covers.patchesFinalizers fun _ _ changes => by cases changes

/-- A StorageClass that somebody made for another provisioner. -/
def foreignStorageClass : StorageClass where
  metadata := { name := "fs" }
  provisioner := "example.com/nfs"

/-- A provisioned claim next to a StorageClass that is not its own. -/
def foreignCluster : Cluster :=
  { readyCluster with
    filesystems := [releasedFilesystem], storageClasses := [foreignStorageClass] }

/-- The next pass makes the class its own, and if the claim is deleted first
the class is deleted with it: neither is prevented by the missing labels. -/
theorem foreign_storage_class_changed_and_deleted :
    ¬ Throughout (reconciler {}) undisturbed foreignCluster (fun _ => True)
        (SparesUnlabelled {}) ∧
      ¬ Throughout (reconciler {}) undisturbed
        (foreignCluster.deleteClaim readyKey) (fun _ => True)
        (SparesUnlabelled {}) := by
  refine ⟨fun throughout => ?_, fun throughout => ?_⟩
  · have new : Run (S := apiServer) (reconciler {}) undisturbed foreignCluster []
      foreignCluster := .start
    have spares := throughout _ _ (new.pass readyKey calm) (fun _ _ => trivial)
      _ (List.mem_append_right _ (List.mem_singleton_self _))
    revert spares
    unfold SparesUnlabelled
    decide
  · have deleted : Run (S := apiServer) (reconciler {}) undisturbed
      (foreignCluster.deleteClaim readyKey) []
      (foreignCluster.deleteClaim readyKey) := .start
    have marked := deleted.pass readyKey calm
    have spares := throughout _ _ (marked.pass readyKey calm) (fun _ _ => trivial)
      _ (List.mem_append_right _ (List.mem_singleton_self _))
    revert spares
    unfold SparesUnlabelled
    decide

end FusionAccess
