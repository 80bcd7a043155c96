import FusionAccess.Controller.AuditTrail
import FusionAccess.Controller.Recovery

/-!
# Passes during a migration

A claim is visible to the controller as soon as the migration has created it: before
its status is written, and before the LocalDisks and the Filesystem belong to it. A
pass that writes the claim in the first gap makes the migration lose the status, and
one that looks for the Filesystem in the second reports that it could not be created.
All other passes leave the conditions of the migration alone.
-/

namespace FusionAccess

open Kubernetes Interaction Fallible Registry

/-! ## Taking turns with the migration -/

/-- Who takes turns: the migration of a group, and passes on its claim. -/
inductive Party
  | migration
  | pass (r : FileSystemClaimReconciler)

/-- What a party does. -/
def party (group : LegacyResourceGroup) :
    Party → Program kubernetes (Except Failure (Option Result))
  | .migration => ((fun _ => none) <$> migrateResourceGroup group).run
  | .pass r => (some <$> reconcile r (migrationKey group.filesystemName)).run

/-- The parties may be under way together: the group is migrated only once. -/
def Party.together : Party → Party → Prop
  | .migration, .migration => False
  | _, _ => True

instance (first second : Party) : Decidable (first.together second) :=
  match first, second with
  | .migration, .migration => .isFalse id
  | .migration, .pass _ | .pass _, _ => .isTrue trivial

/-- The conditions that the migration vouches for. -/
def migratedTypes : List ConditionType :=
  [.deviceValidated, .localDiskCreated, .fileSystemCreated]

/-- The conditions are true with the reason of the migration. -/
def SaysMigrated (conditions : List Condition) : Prop :=
  ∀ conditionType ∈ migratedTypes, ∃ condition,
    findStatusCondition conditions conditionType = some condition ∧
      condition.status = .isTrue ∧ condition.reason = .migrationComplete

/-- The conditions that a child of the kind has to meet. -/
def requirements : Kind → List ConditionType
  | .localDisk => localDiskRequirements
  | .filesystem => filesystemRequirements

/-- The keys of the objects of a group. -/
def groupKeys (group : LegacyResourceGroup) : Kind → List NamespacedName
  | .localDisk => group.localDisks.map Unstructured.key
  | .filesystem => group.filesystem.toList.map Unstructured.key

/-- The object belongs to the claim of the group. -/
def BelongsToClaim (group : LegacyResourceGroup) (object : Unstructured) : Prop :=
  object.metadata.ns = migrationNamespace ∧
    isOwnedByThisFSC object group.filesystemName = true

/-- What is in the group or belongs to its claim is healthy. -/
def ChildrenHealthy (group : LegacyResourceGroup) (state : Cluster) : Prop :=
  ∀ kind, ∀ object ∈ state.objects kind,
    object.key ∈ groupKeys group kind ∨ BelongsToClaim group object →
      checkResourceHealthy object (requirements kind) [group.filesystemName] = none

/-- The group is one that `validateResourceGroup` lets pass. -/
structure IsValidated (group : LegacyResourceGroup) : Prop where
  checked : checkResourceGroup group = none
  named : ∀ fs, group.filesystem = some fs → fs.key = migrationKey group.filesystemName

/-- The claim does not exist yet, the children are healthy, and a Filesystem that
names the claim as its owner has the name of the claim. -/
structure IsUnclaimed (group : LegacyResourceGroup) (state : Cluster) : Prop where
  claim : state.claim? (migrationKey group.filesystemName) = none
  healthy : ChildrenHealthy group state
  names : ((state.objects .filesystem).map Unstructured.key).Nodup
  filesystem : ∀ fs ∈ state.objects .filesystem, BelongsToClaim group fs →
    fs.key = migrationKey group.filesystemName

/-- The storage product reports, and the children stay healthy. -/
structure ReportsHealthy
    (group : LegacyResourceGroup) (before after : Cluster) : Prop where
  unedited : Unedited before after
  healthy : ChildrenHealthy group after

/-- No pass writes the claim while it has no conditions, no pass tries to create the
Filesystem, and the status write of the migration is not refused. -/
def Undisturbed (group : LegacyResourceGroup) : Party → Event apiServer → Prop
  | .migration, event => ∀ claim, event.request = .updateClaimStatus claim →
      ∀ refusal message, event.choice.fault ≠ .refused refusal message
  | .pass _, event =>
      (∀ object, event.request ≠ .create .filesystem object) ∧
        ∀ fsc, event.before.claim? (migrationKey group.filesystemName) = some fsc →
          fsc.conditions = [] →
            event.after.claim? (migrationKey group.filesystemName) = some fsc

/-- The status write of the migration is refused. -/
def refusesStatus (event : Event apiServer) : Bool :=
  match event.request, event.choice.fault with
  | .updateClaimStatus _, .refused _ _ => true
  | _, _ => false

/-- The Filesystem is to be created. -/
def createsFilesystem (event : Event apiServer) : Bool :=
  match event.request with
  | .create .filesystem _ => true
  | _ => false

theorem refusesStatus_eq_false_iff (event : Event apiServer) :
    refusesStatus event = false ↔ ∀ claim, event.request = .updateClaimStatus claim →
      ∀ refusal message, event.choice.fault ≠ .refused refusal message := by
  unfold refusesStatus
  split
  next request fault =>
    simp only [Bool.true_eq_false, false_iff]
    exact fun accepted => accepted _ request _ _ fault
  next others =>
    simp only [true_iff]
    exact fun claim request refusal message fault => others _ _ _ request fault

theorem createsFilesystem_eq_false_iff (event : Event apiServer) :
    createsFilesystem event = false ↔
      ∀ object, event.request ≠ .create .filesystem object := by
  unfold createsFilesystem
  split
  next request =>
    simp only [Bool.true_eq_false, false_iff]
    exact fun others => others _ request
  next others =>
    simp only [true_iff]
    exact others

instance (group : LegacyResourceGroup) (index : Party) (event : Event apiServer) :
    Decidable (Undisturbed group index event) :=
  match index with
  | .migration => decidable_of_iff _ (refusesStatus_eq_false_iff event)
  | .pass _ => decidable_of_iff
      (createsFilesystem event = false ∧
        ∀ fsc ∈ event.before.claim? (migrationKey group.filesystemName),
          fsc.conditions = [] →
            event.after.claim? (migrationKey group.filesystemName) = some fsc)
      (and_congr_left' (createsFilesystem_eq_false_iff event))

/-! ## What holds between any two calls -/

/-- The claim says that everything is migrated. -/
def Migrated (group : LegacyResourceGroup) (state : Cluster) : Prop :=
  ∃ fsc, state.claim? (migrationKey group.filesystemName) = some fsc ∧
    SaysMigrated fsc.conditions

/-- The claim has an object of the kind. -/
def Has (group : LegacyResourceGroup) (kind : Kind) (state : Cluster) : Prop :=
  ∃ object ∈ state.objects kind, BelongsToClaim group object

/-- The claim of a group: it is as the migration creates it, or its conditions are
those of the migration. -/
structure IsClaimOf (group : LegacyResourceGroup) (fsc : FileSystemClaim) : Prop where
  live : isDeleting fsc = false
  devices : fsc.devices = group.devicePaths
  stage : fsc.conditions = [] ∧ fsc.metadata.finalizers = [] ∨ SaysMigrated fsc.conditions

/-- The claim is one of the group, and what belongs to it is healthy. -/
structure Coexists (group : LegacyResourceGroup) (state : Cluster) : Prop where
  claim : ∀ fsc, state.claim? (migrationKey group.filesystemName) = some fsc →
    IsClaimOf group fsc
  healthy : ChildrenHealthy group state
  names : ((state.objects .filesystem).map Unstructured.key).Nodup
  filesystem : ∀ fs ∈ state.objects .filesystem, BelongsToClaim group fs →
    fs.key = migrationKey group.filesystemName

/-- What a pass expects of the others: what is migrated stays so, and the claim keeps
its children. -/
structure KeepsMigrated (group : LegacyResourceGroup) (before after : Cluster) : Prop where
  migrated : Migrated group before → Migrated group after
  children : ∀ kind, Has group kind before → Has group kind after

/-- What the migration expects besides: it alone creates the claim, and until it has
written the status the claim stays as it is. -/
structure KeepsBare (group : LegacyResourceGroup) (before after : Cluster) : Prop
    extends KeepsMigrated group before after where
  absent : before.claim? (migrationKey group.filesystemName) = none →
    after.claim? (migrationKey group.filesystemName) = none
  bare : ∀ fsc, before.claim? (migrationKey group.filesystemName) = some fsc →
    fsc.conditions = [] →
      after.claim? (migrationKey group.filesystemName) = some fsc

section Relations

variable {group : LegacyResourceGroup} {before after : Cluster}

theorem KeepsMigrated.refl (state : Cluster) : KeepsMigrated group state state :=
  ⟨id, fun _ => id⟩

theorem KeepsMigrated.trans
    {first second third : Cluster}
    (earlier : KeepsMigrated group first second)
    (later : KeepsMigrated group second third) :
    KeepsMigrated group first third :=
  ⟨fun migrated => later.migrated (earlier.migrated migrated),
    fun kind has => later.children kind (earlier.children kind has)⟩

theorem KeepsBare.refl (state : Cluster) : KeepsBare group state state :=
  ⟨.refl state, id, fun _ stored _ => stored⟩

theorem KeepsBare.trans
    {first second third : Cluster}
    (earlier : KeepsBare group first second)
    (later : KeepsBare group second third) :
    KeepsBare group first third where
  toKeepsMigrated := earlier.toKeepsMigrated.trans later.toKeepsMigrated
  absent := fun none => later.absent (earlier.absent none)
  bare := fun fsc stored empty => later.bare fsc (earlier.bare fsc stored empty) empty

/-- A later version of an object: it has the owners that it had, or it is one of the
group and belongs to the claim now. -/
structure Adopts
    (group : LegacyResourceGroup) (kind : Kind) (old new : Unstructured) : Prop where
  key : new.key = old.key
  owners : new.metadata.ownerReferences = old.metadata.ownerReferences ∨
    old.key ∈ groupKeys group kind ∧
      isOwnedByThisFSC new group.filesystemName = true

theorem Adopts.refl (kind : Kind) (object : Unstructured) :
    Adopts group kind object object :=
  ⟨rfl, Or.inl rfl⟩

theorem Adopts.ns {kind : Kind} {old new : Unstructured}
    (adopts : Adopts group kind old new) :
    new.metadata.ns = old.metadata.ns :=
  congrArg NamespacedName.ns adopts.key

theorem Adopts.keeps {kind : Kind} {old new : Unstructured}
    (adopts : Adopts group kind old new)
    (belongs : BelongsToClaim group old) :
    BelongsToClaim group new := by
  refine ⟨adopts.ns.trans belongs.1, ?_⟩
  rcases adopts.owners with same | ⟨_, owned⟩
  · rw [isOwnedByThisFSC_of_owners_eq same]
    exact belongs.2
  · exact owned

/-- What belongs to the claim did so before, or is one of the group. -/
theorem Adopts.earlier {kind : Kind} {old new : Unstructured}
    (adopts : Adopts group kind old new)
    (belongs : BelongsToClaim group new) :
    old.key ∈ groupKeys group kind ∨ BelongsToClaim group old := by
  rcases adopts.owners with same | ⟨inGroup, _⟩
  · right
    rw [BelongsToClaim, ← adopts.ns, ← isOwnedByThisFSC_of_owners_eq same]
    exact belongs
  · exact Or.inl inGroup

/-- Objects that are adopted keep their health when they keep their status. -/
theorem ChildrenHealthy.of_adopts
    (healthy : ChildrenHealthy group before)
    (adopts : ∀ kind, List.Forall₂ (fun old new => Adopts group kind old new ∧
        new.conditions = old.conditions ∧ new.filesystem = old.filesystem)
      (before.objects kind) (after.objects kind)) :
    ChildrenHealthy group after := by
  intro kind new listed child
  obtain ⟨old, listedOld, changed, conditions, filesystem⟩ :=
    exists_of_forall₂ (adopts kind).flip listed
  have childOld : old.key ∈ groupKeys group kind ∨ BelongsToClaim group old := by
    rcases child with inGroup | belongs
    · exact Or.inl (changed.key ▸ inGroup)
    · exact changed.earlier belongs
  have checked := healthy kind old listedOld childOld
  have sameCheck : ∀ conditions users, checkRequiredCondition new conditions users =
      checkRequiredCondition old conditions users := by
    intro conditions users
    funext conditionType
    cases conditionType <;> simp [checkRequiredCondition, filesystem]
  rw [checkResourceHealthy, conditions]
  rw [checkResourceHealthy] at checked
  simpa only [sameCheck] using checked

theorem groupKeys_filesystem
    (validated : IsValidated group) {key : NamespacedName}
    (member : key ∈ groupKeys group .filesystem) :
    key = migrationKey group.filesystemName := by
  simp only [groupKeys, List.mem_map, Option.mem_toList] at member
  obtain ⟨fs, isGroup, rfl⟩ := member
  exact validated.named fs isGroup

/-- What changes by adoption only is as before apart from the claim. -/
theorem Coexists.of_adopts
    (validated : IsValidated group)
    (coexists : Coexists group before)
    (claim : ∀ fsc, after.claim? (migrationKey group.filesystemName) = some fsc →
      IsClaimOf group fsc)
    (adopts : ∀ kind, List.Forall₂ (Adopts group kind)
      (before.objects kind) (after.objects kind))
    (healthy : ChildrenHealthy group after) :
    Coexists group after where
  claim := claim
  healthy := healthy
  names := by
    have sameKeys : (after.objects .filesystem).map Unstructured.key =
        (before.objects .filesystem).map Unstructured.key := by
      have all := adopts .filesystem
      generalize before.objects .filesystem = lefts at all ⊢
      generalize after.objects .filesystem = rights at all ⊢
      induction all with
      | nil => rfl
      | cons head _ inductionHypothesis =>
          rw [List.map_cons, List.map_cons, head.key, inductionHypothesis]
    rw [sameKeys]
    exact coexists.names
  filesystem := by
    intro fs listed belongs
    obtain ⟨old, listedOld, changed⟩ := exists_of_forall₂ (adopts .filesystem).flip listed
    rw [changed.key]
    rcases changed.earlier belongs with inGroup | belongsOld
    · exact groupKeys_filesystem validated inGroup
    · exact coexists.filesystem old listedOld belongsOld

theorem has_of_adopts {kind : Kind}
    (adopts : List.Forall₂ (Adopts group kind) (before.objects kind) (after.objects kind))
    (has : Has group kind before) :
    Has group kind after := by
  obtain ⟨old, listed, belongs⟩ := has
  obtain ⟨new, listedNew, changed⟩ := exists_of_forall₂ adopts listed
  exact ⟨new, listedNew, changed.keeps belongs⟩

end Relations

/-! ## Single calls -/

section Calls

variable {group : LegacyResourceGroup} {state : Cluster}

/-- The call creates and deletes no LocalDisks and Filesystems, and it replaces one
only when it adopts one of the group. -/
def AdoptingCall (group : LegacyResourceGroup) : Call → Prop
  | .update kind object => object.key ∈ groupKeys group kind ∧
      isOwnedByThisFSC object group.filesystemName = true
  | .create _ _ | .delete _ _ => False
  | _ => True

theorem forall₂_amend
    {related : Unstructured → Unstructured → Prop} {name : NamespacedName}
    {change : Unstructured → Unstructured}
    (unchanged : ∀ object, related object object)
    (changed : ∀ object, object.key = name → related object (change object))
    (objects : List Unstructured) :
    List.Forall₂ related objects (amend Unstructured.key name change objects) := by
  rw [amend, List.forall₂_map_right_iff, List.forall₂_same]
  intro object _
  split
  next same => exact changed object same
  next => exact unchanged object

/-- Such a call adopts objects and leaves their status. -/
theorem adopts_afterCall
    {call : Call} (adopting : AdoptingCall group call) (kind : Kind) :
    List.Forall₂ (fun old new => Adopts group kind old new ∧
        new.conditions = old.conditions ∧ new.filesystem = old.filesystem)
      (state.objects kind) ((state.afterCall call).objects kind) := by
  have unchanged : ∀ object, Adopts group kind object object ∧
      object.conditions = object.conditions ∧ object.filesystem = object.filesystem :=
    fun object => ⟨.refl kind object, rfl, rfl⟩
  by_cases elsewhere : call.part? ≠ some (.objects kind)
  · rw [state.objects_afterCall elsewhere]
    exact List.forall₂_same.mpr fun object _ => unchanged object
  have writes := not_not.mp elsewhere
  cases call <;> simp only [Call.part?, Option.some.injEq, Part.objects.injEq,
    reduceCtorEq] at writes
  case create => exact adopting.elim
  case delete => exact adopting.elim
  case update object =>
      subst writes
      simp only [Cluster.afterCall, Cluster.answer, Cluster.update]
      split
      · exact List.forall₂_same.mpr fun object _ => unchanged object
      split
      · exact List.forall₂_same.mpr fun object _ => unchanged object
      rw [Cluster.objects_withObjects]
      refine forall₂_amend unchanged (fun old named => ⟨⟨?_, Or.inr ⟨?_, ?_⟩⟩, rfl, rfl⟩) _
      · exact named.symm
      · rw [named]
        exact adopting.1
      · exact adopting.2
  case patchSpec key spec =>
      subst writes
      simp only [Cluster.afterCall, Cluster.answer, Cluster.patchSpec]
      split
      · exact List.forall₂_same.mpr fun object _ => unchanged object
      rw [Cluster.objects_withObjects]
      exact forall₂_amend unchanged (fun _ _ => ⟨⟨rfl, Or.inl rfl⟩, rfl, rfl⟩) _

/-- An adopting call that leaves the claim as it should be. -/
theorem Coexists.afterCall
    {call : Call}
    (validated : IsValidated group)
    (coexists : Coexists group state)
    (adopting : AdoptingCall group call)
    (claim : ∀ fsc,
      (state.afterCall call).claim? (migrationKey group.filesystemName) = some fsc →
        IsClaimOf group fsc)
    (migrated : Migrated group state → Migrated group (state.afterCall call)) :
    Coexists group (state.afterCall call) ∧
      KeepsMigrated group state (state.afterCall call) := by
  have adopts := @adopts_afterCall group state call adopting
  have owners : ∀ kind, List.Forall₂ (Adopts group kind)
      (state.objects kind) ((state.afterCall call).objects kind) :=
    fun kind => (adopts kind).imp fun _ _ changed => changed.1
  exact ⟨coexists.of_adopts validated claim owners (coexists.healthy.of_adopts adopts),
    migrated, fun kind => has_of_adopts (owners kind)⟩

/-- An adopting call that does not write claims. -/
theorem Coexists.elsewhere
    {call : Call}
    (validated : IsValidated group)
    (coexists : Coexists group state)
    (adopting : AdoptingCall group call)
    (claims : call.part? ≠ some .claims) :
    Coexists group (state.afterCall call) ∧
      KeepsMigrated group state (state.afterCall call) := by
  have same : (state.afterCall call).claim? (migrationKey group.filesystemName) =
      state.claim? (migrationKey group.filesystemName) := state.claim?_afterCall claims _
  refine coexists.afterCall validated adopting (fun fsc stored => ?_) fun migrated => ?_
  · rw [same] at stored
    exact coexists.claim fsc stored
  · rw [Migrated, same]
    exact migrated

/-- The calls of a pass on the claim, apart from the creation of a Filesystem. -/
def PassCall (group : LegacyResourceGroup) : Call → Prop
  | .patchClaimFinalizers key _ _ => key = migrationKey group.filesystemName
  | .patchClaimStatus key _ modified =>
      key = migrationKey group.filesystemName ∧ SaysMigrated modified
  | .createClaim _ | .updateClaimStatus _ | .update _ _ | .create _ _ | .delete _ _ => False
  | _ => True

theorem passCall_of_isRead {call : Call} (reads : call.isRead = true) :
    PassCall group call := by
  cases call <;> trivial

theorem adoptingCall_of_passCall {call : Call} (passCall : PassCall group call) :
    AdoptingCall group call := by
  cases call <;> trivial

/-- A pass does not create the claim. -/
theorem claim?_passCall_absent
    {call : Call}
    (passCall : PassCall group call)
    (absent : state.claim? (migrationKey group.filesystemName) = none) :
    (state.afterCall call).claim? (migrationKey group.filesystemName) = none := by
  by_cases claims : call.part? ≠ some .claims
  · rwa [state.claim?_afterCall claims]
  have writes := not_not.mp claims
  cases call <;> simp only [Call.part?, Option.some.injEq, reduceCtorEq] at writes
  case createClaim => exact passCall.elim
  case updateClaimStatus => exact passCall.elim
  case patchClaimFinalizers key original modified =>
      have named : key = migrationKey group.filesystemName := passCall
      subst named
      simp only [Cluster.afterCall, Cluster.answer, Cluster.patchClaimFinalizers, absent]
  case patchClaimStatus key original modified =>
      have named : key = migrationKey group.filesystemName := passCall.1
      subst named
      simp only [Cluster.afterCall, Cluster.answer, Cluster.patchClaimStatus, absent]

/-- It leaves a migrated claim migrated. -/
theorem claim?_passCall_migrated
    {call : Call} {fsc : FileSystemClaim}
    (passCall : PassCall group call)
    (stored : state.claim? (migrationKey group.filesystemName) = some fsc)
    (live : isDeleting fsc = false)
    (migrated : SaysMigrated fsc.conditions) :
    ∃ kept, (state.afterCall call).claim? (migrationKey group.filesystemName) =
        some kept ∧ Cluster.SameSpec fsc kept ∧ SaysMigrated kept.conditions := by
  by_cases claims : call.part? ≠ some .claims
  · exact ⟨fsc, by rwa [state.claim?_afterCall claims], .refl fsc, migrated⟩
  have writes := not_not.mp claims
  cases call <;> simp only [Call.part?, Option.some.injEq, reduceCtorEq] at writes
  case createClaim => exact passCall.elim
  case updateClaimStatus => exact passCall.elim
  case patchClaimFinalizers key original modified =>
      have named : key = migrationKey group.filesystemName := passCall
      subst named
      by_cases same : original = modified
      · refine ⟨fsc, ?_, .refl fsc, migrated⟩
        simp only [Cluster.afterCall, Cluster.answer, Cluster.patchClaimFinalizers, stored,
          if_pos same]
      · have patched := Cluster.claim?_patchClaimFinalizers_of_different stored same
        rw [isDeleting] at live
        rw [live, Bool.false_and, if_neg (by simp)] at patched
        exact ⟨_, patched, ⟨rfl, rfl, rfl⟩, migrated⟩
  case patchClaimStatus key original modified =>
      obtain ⟨rfl, written⟩ := passCall
      obtain ⟨patched, found, sameSpec, conditions⟩ :=
        Cluster.claim?_patchClaimStatus stored original modified
      refine ⟨patched, found, sameSpec, ?_⟩
      rw [conditions]
      split
      · exact migrated
      · exact written

end Calls

/-! ## The discipline -/

/-- What the migration and the passes on its claim rely on and guarantee. -/
def races (group : LegacyResourceGroup) :
    Discipline apiServer Party (Except Failure (Option Result)) where
  invariant := Coexists group
  rely
    | .migration => KeepsBare group
    | .pass _ => KeepsMigrated group
  peers := Party.together
  admitted := Undisturbed group
  guarantee := fun _ _ => True
  ends
    | .migration, .ok _, state => Migrated group state
    | _, _, _ => True
  rely_refl := by
    rintro (_ | r) state
    · exact KeepsBare.refl state
    · exact KeepsMigrated.refl state
  rely_trans := by
    rintro (_ | r) first second third earlier later
    · exact KeepsBare.trans earlier later
    · exact KeepsMigrated.trans earlier later
  ends_stable := by
    rintro (_ | r) (failure | result) before after keeps
    · exact fun _ => trivial
    · exact keeps.migrated
    · exact fun _ => trivial
    · exact fun _ => trivial

section Discipline

variable {group : LegacyResourceGroup} {r : FileSystemClaimReconciler}

/-- A call of a pass, as long as the pass is undisturbed. -/
theorem served_passCall
    {event : Event apiServer}
    (validated : IsValidated group)
    (coexists : Coexists group event.before)
    (undisturbed : Undisturbed group (.pass r) event)
    (passCall : PassCall group event.request) :
    (races group).Served (.pass r) event ∧ KeepsMigrated group event.before event.after := by
  have changes : Coexists group event.after ∧ KeepsBare group event.before event.after := by
    rcases after_cases event with carriedOut | unchanged
    · have isClaim : ∀ fsc, event.after.claim? (migrationKey group.filesystemName) =
          some fsc → IsClaimOf group fsc := by
        intro fsc stored
        cases before : event.before.claim? (migrationKey group.filesystemName) with
        | none =>
            rw [carriedOut, claim?_passCall_absent passCall before] at stored
            cases stored
        | some claim =>
            have known := coexists.claim claim before
            rcases known.stage with ⟨empty, _⟩ | migrated
            · rw [undisturbed.2 claim before empty] at stored
              cases stored
              exact known
            · obtain ⟨kept, found, sameSpec, says'⟩ :=
                claim?_passCall_migrated passCall before known.live migrated
              rw [carriedOut, found] at stored
              cases stored
              refine ⟨?_, sameSpec.devices.trans known.devices, Or.inr says'⟩
              rw [isDeleting, sameSpec.deletionTimestamp]
              exact known.live
      have migrates : Migrated group event.before → Migrated group event.after := by
        rintro ⟨fsc, stored, migrated⟩
        obtain ⟨kept, found, _, says'⟩ := claim?_passCall_migrated passCall stored
          (coexists.claim fsc stored).live migrated
        exact ⟨kept, by rw [carriedOut, found], says'⟩
      have keeps := coexists.afterCall validated (adoptingCall_of_passCall passCall)
        (by rwa [← carriedOut]) (by rwa [← carriedOut])
      rw [← carriedOut] at keeps
      refine ⟨keeps.1, keeps.2, fun absent => ?_, undisturbed.2⟩
      rw [carriedOut, claim?_passCall_absent passCall absent]
    · rw [unchanged]
      exact ⟨coexists, .refl _⟩
  refine ⟨⟨changes.1, fun other _ => ?_, trivial⟩, changes.2.toKeepsMigrated⟩
  cases other with
  | migration => exact changes.2
  | pass r => exact changes.2.toKeepsMigrated

end Discipline

end FusionAccess
