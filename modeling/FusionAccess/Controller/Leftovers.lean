import FusionAccess.Controller.SharedDisks

/-!
# Claims that are created anew

A claim may be deleted while its LocalDisks and Filesystems stay for a while. If
another claim of the name is created, the controller takes what is left for its
own: owners are told apart by kind, API version and name, not by their UIDs. The
passes for the new claim never add to what is left.
-/

namespace FusionAccess

open Kubernetes Interaction Fallible

/-! ## What is left of a claim -/

/-- All references of the object to FileSystemClaims carry the UID. -/
def CarriesOnly (uid : Nat) (object : Unstructured) : Prop :=
  ∀ reference ∈ object.metadata.ownerReferences,
    reference.kind = fileSystemClaimKind →
      reference.apiVersion = fileSystemClaimAPIVersion → reference.uid = uid

/-- The object is in the namespace of the key, names the claim as its owner, and
carries no other UID than the given one. -/
structure IsLeftover (key : NamespacedName) (uid : Nat) (object : Unstructured) : Prop where
  ns : object.metadata.ns = key.ns
  named : isOwnedByThisFSC object key.name = true
  carries : CarriesOnly uid object

/-- A stored claim has the key and the UID. -/
def StoresClaim (key : NamespacedName) (uid : Nat) (cluster : Cluster) : Prop :=
  ∃ fsc ∈ cluster.claims, fsc.key = key ∧ fsc.metadata.uid = uid

/-- The UID is not given again, and nothing becomes a leftover of its claim. -/
structure LeavesApart
    (key : NamespacedName) (uid : Nat) (before after : Cluster) : Prop where
  claims : StoresClaim key uid after → StoresClaim key uid before
  objects : ∀ kind, ∀ object ∈ after.objects kind, IsLeftover key uid object →
    ∃ left ∈ before.objects kind, left.key = object.key ∧ IsLeftover key uid left

section Changes

variable {key : NamespacedName} {uid : Nat}

theorem LeavesApart.refl (cluster : Cluster) : LeavesApart key uid cluster cluster :=
  ⟨id, fun _ object listed leftover => ⟨object, listed, rfl, leftover⟩⟩

theorem LeavesApart.trans
    {first second third : Cluster}
    (earlier : LeavesApart key uid first second)
    (later : LeavesApart key uid second third) :
    LeavesApart key uid first third where
  claims := fun stored => earlier.claims (later.claims stored)
  objects := by
    intro kind object listed leftover
    obtain ⟨between, listedBetween, same, leftover'⟩ :=
      later.objects kind object listed leftover
    obtain ⟨left, listedFirst, same', leftover''⟩ :=
      earlier.objects kind between listedBetween leftover'
    exact ⟨left, listedFirst, same'.trans same, leftover''⟩

/-- Key and owners decide whether an object is left over. -/
theorem IsLeftover.of_same
    {object other : Unstructured}
    (leftover : IsLeftover key uid object)
    (sameKey : object.key = other.key)
    (owners : object.metadata.ownerReferences = other.metadata.ownerReferences) :
    IsLeftover key uid other where
  ns := by
    rw [← leftover.ns]
    exact (congrArg NamespacedName.ns sameKey).symm
  named := by
    rw [← isOwnedByThisFSC_of_owners_eq owners]
    exact leftover.named
  carries := by
    rw [CarriesOnly, ← owners]
    exact leftover.carries

/-- An object that is created for another claim is not left over. -/
theorem not_isLeftover_newObject
    {cluster : Cluster} {fsc : FileSystemClaim} {name : String} {spec : Value}
    (different : fsc.key = key → fsc.metadata.uid ≠ uid) :
    ¬IsLeftover key uid (cluster.newObject (ownedObject fsc name spec)) := by
  intro leftover
  have named := (isOwnedByThisFSC_newObject fsc name spec key.name).mp leftover.named
  have inNamespace : fsc.metadata.ns = key.ns := leftover.ns
  have carries : fsc.metadata.uid = uid :=
    leftover.carries (ownerReference fsc) (List.mem_singleton_self _) rfl rfl
  refine different ?_ carries
  change (⟨fsc.metadata.ns, fsc.metadata.name⟩ : NamespacedName) = key
  rw [inNamespace, named]

end Changes

/-! ## The calls of a pass -/

/-- The calls of passes on a claim: what they create is owned by the claim. -/
def OwnCall (fsc : FileSystemClaim) : Call → Prop
  | .create _ object => ∃ name spec, object = ownedObject fsc name spec
  | .update _ _ | .createClaim _ | .updateClaimStatus _ => False
  | _ => True

theorem ownCall_of_isRead
    (fsc : FileSystemClaim) {call : Call} (reads : call.isRead = true) :
    OwnCall fsc call := by
  cases call <;> trivial

section Calls

variable {key : NamespacedName} {uid : Nat} {cluster : Cluster} {fsc : FileSystemClaim}

theorem storesClaim_of_setFinalizers
    {patched : NamespacedName} {finalizers : List String}
    (stored : StoresClaim key uid (cluster.setFinalizers patched finalizers)) :
    StoresClaim key uid cluster := by
  obtain ⟨claim, member, named, carried⟩ := stored
  unfold Cluster.setFinalizers at member
  split at member
  · exact ⟨claim, member, named, carried⟩
  split at member
  · exact ⟨claim, (Registry.mem_remove.mp member).1, named, carried⟩
  · rcases Registry.mem_amend.mp member with ⟨earlier, _⟩ | ⟨old, earlier, _, rfl⟩
    · exact ⟨claim, earlier, named, carried⟩
    · exact ⟨old, earlier, named, carried⟩

theorem storesClaim_of_setConditions
    {patched : NamespacedName} {conditions : List Condition}
    (stored : StoresClaim key uid (cluster.setConditions patched conditions)) :
    StoresClaim key uid cluster := by
  obtain ⟨claim, member, named, carried⟩ := stored
  rcases Registry.mem_amend.mp member with ⟨earlier, _⟩ | ⟨old, earlier, _, rfl⟩
  · exact ⟨claim, earlier, named, carried⟩
  · exact ⟨old, earlier, named, carried⟩

/-- A claim that is stored after a call of a pass was stored before. -/
theorem storesClaim_of_afterCall
    {call : Call}
    (own : OwnCall fsc call)
    (stored : StoresClaim key uid (cluster.afterCall call)) :
    StoresClaim key uid cluster := by
  by_cases writes : call.part? = some .claims
  · cases call
    case createClaim | updateClaimStatus => exact own.elim
    case patchClaimFinalizers patched original modified =>
        simp only [Cluster.afterCall, Cluster.answer, Cluster.patchClaimFinalizers] at stored
        split at stored
        · exact stored
        split at stored
        · exact stored
        · exact storesClaim_of_setFinalizers stored
    case patchClaimStatus patched original modified =>
        simp only [Cluster.afterCall, Cluster.answer, Cluster.patchClaimStatus] at stored
        split at stored
        · exact stored
        split at stored
        · exact stored
        · exact storesClaim_of_setConditions stored
    all_goals cases writes
  · rw [StoresClaim, cluster.claims_afterCall writes] at stored
    exact stored

/-- The calls of passes on other claims add nothing to what is left. -/
theorem leavesApart_afterCall
    {call : Call}
    (different : fsc.key = key → fsc.metadata.uid ≠ uid)
    (own : OwnCall fsc call) :
    LeavesApart key uid cluster (cluster.afterCall call) := by
  refine ⟨storesClaim_of_afterCall own, fun kind object listed leftover => ?_⟩
  by_cases writes : call.part? = some (.objects kind)
  · cases call
    case create created new =>
        cases writes
        obtain ⟨name, spec, rfl⟩ := own
        cases taken : cluster.object? kind (ownedObject fsc name spec).key with
        | some other =>
            simp only [Cluster.afterCall, Cluster.answer, Cluster.create, taken] at listed
            exact ⟨object, listed, rfl, leftover⟩
        | none =>
            rw [cluster.objects_create taken] at listed
            rcases List.mem_append.mp listed with earlier | new
            · exact ⟨object, earlier, rfl, leftover⟩
            · rw [List.mem_singleton.mp new] at leftover
              exact absurd leftover (not_isLeftover_newObject different)
    case update => exact own.elim
    case patchSpec patched name spec =>
        cases writes
        simp only [Cluster.afterCall, Cluster.answer, Cluster.patchSpec] at listed
        split at listed
        · exact ⟨object, listed, rfl, leftover⟩
        rw [Cluster.objects_withObjects, Registry.mem_amend] at listed
        rcases listed with ⟨earlier, _⟩ | ⟨old, earlier, _, rfl⟩
        · exact ⟨object, earlier, rfl, leftover⟩
        · exact ⟨old, earlier, rfl, leftover.of_same rfl rfl⟩
    case delete deleted name =>
        cases writes
        obtain ⟨old, earlier, same⟩ := sameOwned_of_mem_delete listed
        exact ⟨old, earlier, same.key.symm, leftover.of_same same.key same.owners⟩
    all_goals cases writes
  · rw [cluster.objects_afterCall writes] at listed
    exact ⟨object, listed, rfl, leftover⟩

end Calls

/-! ## Passes that take turns -/

/-- What holds from the creation of the new claim on: nothing is added to what was
left then. -/
def apart (key : NamespacedName) (uid : Nat) (created : Cluster) :
    Discipline apiServer NamespacedName (Except Failure Result) where
  invariant := LeavesApart key uid created
  rely := fun _ _ _ => True
  peers := fun _ _ => True
  admitted := fun _ _ => True
  guarantee := fun _ _ => True
  ends := fun _ _ _ => True
  rely_refl := fun _ _ => trivial
  rely_trans := fun _ _ _ _ _ _ => trivial
  ends_stable := fun _ _ _ _ _ _ => trivial

section Pass

variable {key other : NamespacedName} {uid : Nat} {created : Cluster}
  {fsc : FileSystemClaim}

theorem served_of_leavesApart
    {event : Event apiServer}
    (apartBefore : LeavesApart key uid created event.before)
    (leaves : LeavesApart key uid event.before
      (event.before.afterCall event.request)) :
    (apart key uid created).Served other event := by
  refine ⟨apartBefore.trans ?_, fun _ _ => trivial, trivial⟩
  rcases after_cases event with carriedOut | unchanged
  · rw [carriedOut]
    exact leaves
  · rw [unchanged]
    exact LeavesApart.refl _

variable (different : fsc.key = key → fsc.metadata.uid ≠ uid)

include different

/-- Calls of a pass on another claim are safe whatever other passes do, and answered
honestly. -/
theorem safeThen_own {call : Call} (own : OwnCall fsc call) :
    SafeThen ((apart key uid created).contract other) (fun _ => True) (request call)
      (Honest call) := by
  intro state _
  refine ⟨fun before choice _ apartBefore _ => ?_, ?_⟩
  · exact served_of_leavesApart apartBefore (leavesApart_afterCall different own)
  · rintro ⟨before, choice⟩ _
    exact ⟨honest_serve choice before call, trivial⟩

theorem safe_own {call : Call} (own : OwnCall fsc call) :
    Safe ((apart key uid created).contract other) (fun _ => True) (request call) :=
  (safeThen_own different own).safe

theorem readsSafely_apart :
    ReadsSafely ((apart key uid created).contract other) (fun _ => True) :=
  fun _ reads => safeThen_own different (ownCall_of_isRead fsc reads)

/-- A pass on another claim adds nothing to what is left. -/
theorem safe_reconcileClaim_apart (r : FileSystemClaimReconciler) :
    Safe ((apart key uid created).contract other) (fun _ => True)
      (reconcileClaim r fsc) := by
  have reads : ReadsSafely ((apart key uid created).contract other) (fun _ => True) :=
    readsSafely_apart different
  have own : ∀ {call : Call}, OwnCall fsc call →
      Safe ((apart key uid created).contract other) (fun _ => True) (request call) :=
    safe_own different
  have reports : ∀ {reports}, AllowsReports ((apart key uid created).contract other)
      (fun _ => True) fsc reports :=
    allowsReports_of_calls reads fun _ _ => own trivial
  refine safe_reconcileClaim_of_provision
    (fun _ => safe_patchFSCSpec_of_calls reads fun _ _ => own trivial)
    (fun _ _ => {
      reads := reads
      reports := reports
      deletesStorageClass := own trivial
      deletes := fun _ _ => own trivial
      dropsFinalizer := safe_patchFSCSpec_of_calls reads fun _ _ => own trivial })
    (fun state _ => ?_) (safe_syncFSCReady reports)
  refine ensures_provision_of_reports reads (fun _ _ => reports)
    ((safe_ensureLocalDisks reads reports reports reports
      (fun _ _ _ => own ⟨_, _, rfl⟩) state trivial).mono fun _ _ safe => safe.2)
    (fun _ => own ⟨_, _, rfl⟩) (fun _ _ => own trivial) (own trivial) fun _ => own trivial

end Pass

/-- As long as the UID of the old claim is not given again, passes add nothing to
what is left of it. -/
theorem follows_reconcile_apart
    (r : FileSystemClaimReconciler)
    {key : NamespacedName} {uid : Nat} {created : Cluster}
    (replaced : ¬StoresClaim key uid created)
    (index : NamespacedName) (state : Cluster) :
    (apart key uid created).Follows index (reconciler r index) state := by
  change Ensures ((apart key uid created).contract index) (reconcile r index)
    (fun _ _ => True) state
  unfold reconcile
  rw [ensures_bind, ensures_attempt]
  refine ⟨fun before choice _ apartBefore _ => ?_, ?_⟩
  · refine served_of_leavesApart apartBefore ?_
    rw [before.afterCall_of_isRead rfl]
    exact LeavesApart.refl _
  · rintro ⟨before, choice⟩ ⟨_, apartBefore, _⟩
    rw [Program.ensures_done, onSuccess_ok]
    dsimp only
    cases reply : (serve choice before (.getClaim index)).2 with
    | error failure =>
        simp only [ensures_ite, ensures_pure, ensures_throw, implies_true, and_self]
    | ok fsc =>
        have answered := answer_of_serve_ok reply
        simp only [Cluster.answer] at answered
        split at answered
        next claim stored =>
          cases answered
          have member := (Registry.find?_eq_some stored).1
          have different : fsc.key = key → fsc.metadata.uid ≠ uid :=
            fun named carried => replaced (apartBefore.claims ⟨fsc, member, named, carried⟩)
          exact (safe_reconcileClaim_apart different r _ trivial).mono
            fun _ _ _ => trivial
        next => cases answered

/-! ## What passes take for their own -/

/-- The pass lists the objects of the kind, and keeps this one as its own. -/
structure TreatsAsOwned
    (occurrence : Occurrence apiServer NamespacedName) (kind : Kind)
    (object : Unstructured) : Prop where
  lists : occurrence.event.request = .list kind occurrence.index.ns
  stored : object ∈ occurrence.event.before.objects kind
  ns : object.metadata.ns = occurrence.index.ns
  owned : isOwnedByThisFSC object occurrence.index.name = true

/-- However passes on any claims take turns after a claim was created anew, what a
pass for it takes for its own without a reference to it was already there when it
was created. -/
theorem adopts_only_leftovers
    (r : FileSystemClaimReconciler)
    {key : NamespacedName} {uid : Nat} {created : Cluster}
    (replaced : ¬StoresClaim key uid created)
    {current : Interleaving apiServer NamespacedName (Except Failure Result)}
    (reached : Interleaved (reconciler r) (fun _ _ => True) (LeavesApart key uid) created
      current) :
    ∀ occurrence ∈ current.log, occurrence.index = key →
      ∀ kind object, TreatsAsOwned occurrence kind object → CarriesOnly uid object →
        ∃ left ∈ created.objects kind, left.key = object.key ∧ IsLeftover key uid left := by
  have upheld : (apart key uid created).Upheld current :=
    Discipline.sound (fun index state _ _ => follows_reconcile_apart r replaced index state)
      (fun _ _ leaves apartBefore => ⟨apartBefore.trans leaves, fun _ => trivial⟩)
      (LeavesApart.refl created) reached fun _ _ => trivial
  rintro occurrence member rfl kind object treats carries
  obtain ⟨apartBefore, _⟩ := upheld.log occurrence member
  exact apartBefore.objects kind object treats.stored ⟨treats.ns, treats.owned, carries⟩

/-! ## A claim whose finalizer was stripped -/

/-- Someone strips the finalizer of the claim and deletes it, and a user creates it
anew; its LocalDisk and its Filesystem are still there. -/
def recreatedCluster : Cluster :=
  (((readyCluster.setFinalizers readyKey []).deleteClaim readyKey).createClaim
    { metadata := { name := "fs", ns := "ibm-spectrum-scale" }
      devices := ["/dev/sdb"] }).1

/-- Three passes on the new claim: they add the finalizer, validate the device and
look for the LocalDisk. -/
def readoption : List (Turn apiServer NamespacedName) :=
  (List.range 3).flatMap fun position =>
    .launch readyKey :: List.replicate 11 (.step position {})

theorem interleaved_readoption :
    Interleaved (reconciler {}) (fun _ _ => True) (LeavesApart readyKey 0) recreatedCluster
      (interleave (reconciler {}) recreatedCluster readoption) := by
  refine interleaved_interleave _ _ _ ?_
  rintro turn member change rfl
  simp [readoption] at member

theorem replaced_recreatedCluster : ¬StoresClaim readyKey 0 recreatedCluster := by
  rintro ⟨fsc, member, _, carried⟩
  have fresh : ∀ fsc ∈ recreatedCluster.claims, fsc.metadata.uid ≠ 0 := by decide
  exact fresh fsc member carried

/-- A pass takes an object for its own that carries only the UID. -/
def adopts (uid : Nat) (occurrence : Occurrence apiServer NamespacedName) : Bool :=
  match occurrence.event.request with
  | .list kind ns =>
      ns = occurrence.index.ns &&
        (occurrence.event.before.objects kind).any fun object =>
          object.metadata.ns = occurrence.index.ns &&
            isOwnedByThisFSC object occurrence.index.name &&
              object.metadata.ownerReferences.all fun reference =>
                reference.kind = fileSystemClaimKind →
                  reference.apiVersion = fileSystemClaimAPIVersion → reference.uid = uid
  | _ => false

theorem treatsAsOwned_of_adopts
    {uid : Nat} {occurrence : Occurrence apiServer NamespacedName}
    (taken : adopts uid occurrence = true) :
    ∃ kind object, TreatsAsOwned occurrence kind object ∧ CarriesOnly uid object := by
  unfold adopts at taken
  split at taken
  next kind ns lists =>
    simp only [Bool.and_eq_true, decide_eq_true_eq, List.any_eq_true, List.all_eq_true]
      at taken
    obtain ⟨rfl, object, stored, ⟨inNamespace, owned⟩, carries⟩ := taken
    exact ⟨kind, object, ⟨lists, stored, inNamespace, owned⟩, carries⟩
  next => cases taken

theorem exists_adoption_readoption :
    ∃ occurrence ∈ (interleave (reconciler {}) recreatedCluster readoption).log,
      occurrence.index = readyKey ∧
        ∃ kind object, TreatsAsOwned occurrence kind object ∧ CarriesOnly 0 object := by
  have taken : (interleave (reconciler {}) recreatedCluster readoption).log.any
      (fun occurrence => occurrence.index = readyKey && adopts 0 occurrence) = true := by
    decide +kernel
  obtain ⟨occurrence, member, holds⟩ := List.any_eq_true.mp taken
  rw [Bool.and_eq_true, decide_eq_true_eq] at holds
  exact ⟨occurrence, member, holds.1, treatsAsOwned_of_adopts holds.2⟩

/-- An object that one of the passes takes for its own was left behind. -/
theorem adopts_only_leftovers_recreated :
    ∃ occurrence ∈ (interleave (reconciler {}) recreatedCluster readoption).log,
      ∃ kind object, TreatsAsOwned occurrence kind object ∧ CarriesOnly 0 object ∧
        ∃ left ∈ recreatedCluster.objects kind,
          left.key = object.key ∧ IsLeftover readyKey 0 left := by
  obtain ⟨occurrence, member, index, kind, object, treats, carries⟩ :=
    exists_adoption_readoption
  exact ⟨occurrence, member, kind, object, treats, carries,
    adopts_only_leftovers {} replaced_recreatedCluster interleaved_readoption occurrence
      member index kind object treats carries⟩

/-- The third of these passes takes the LocalDisk of the old claim for its own. -/
theorem leftover_adopted :
    (readyCluster.claim? readyKey).map (·.metadata.uid) = some 0 ∧
      ¬StoresClaim readyKey 0 recreatedCluster ∧
      Interleaved (reconciler {}) (fun _ _ => True) (LeavesApart readyKey 0)
        recreatedCluster (interleave (reconciler {}) recreatedCluster readoption) ∧
      ∃ occurrence ∈ (interleave (reconciler {}) recreatedCluster readoption).log,
        occurrence.index = readyKey ∧
          ∃ kind object, TreatsAsOwned occurrence kind object ∧ CarriesOnly 0 object :=
  ⟨by decide, replaced_recreatedCluster, interleaved_readoption, exists_adoption_readoption⟩

end FusionAccess
