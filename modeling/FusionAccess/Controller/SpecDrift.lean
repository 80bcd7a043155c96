import FusionAccess.Controller.ListOrder

/-!
# Drift of the Filesystem

The spec that a Filesystem has to have lists the LocalDisks of the claim in the
order in which they come, and is compared as a list. A Filesystem of several
disks therefore counts as drifted as soon as the disks are listed in another
order than before.
-/

namespace FusionAccess

open Kubernetes Interaction Fallible

/-! ## Specs -/

theorem buildFilesystemSpec_injective : Function.Injective buildFilesystemSpec := by
  intro first second same
  simp only [buildFilesystemSpec, Value.object.injEq, List.cons.injEq, Prod.mk.injEq,
    Value.array.injEq, and_true, true_and] at same
  apply List.map_injective_iff.mpr ?_ same
  intro one other equal
  exact Value.string.inj equal

/-- A list of one value several times has one order. -/
theorem eq_of_perm_of_uniform
    {α : Type} {first second : List α}
    (permutes : first.Perm second)
    (uniform : ∀ one ∈ second, ∀ other ∈ second, one = other) :
    first = second := by
  cases second with
  | nil => exact permutes.eq_nil
  | cons head tail =>
      have repeated : head :: tail = List.replicate (head :: tail).length head := by
        rw [List.eq_replicate_iff]
        refine ⟨rfl, ?_⟩
        intro other member
        exact uniform other member head List.mem_cons_self
      rw [repeated] at permutes ⊢
      exact List.perm_replicate.mp permutes

section Wanted

variable {cluster other : Cluster} {fsc : FileSystemClaim}

/-- LocalDisks of one name are listed in one order. -/
theorem wantedFilesystemSpec_of_uniform
    (uniform : ∀ first ∈ ownedBy cluster fsc .localDisk,
      ∀ second ∈ ownedBy cluster fsc .localDisk,
        first.metadata.name = second.metadata.name)
    (permutes : (ownedBy other fsc .localDisk).Perm (ownedBy cluster fsc .localDisk)) :
    wantedFilesystemSpec other fsc = wantedFilesystemSpec cluster fsc := by
  unfold wantedFilesystemSpec
  congr 1
  apply eq_of_perm_of_uniform (permutes.map _)
  intro one oneListed another anotherListed
  obtain ⟨first, firstOwned, rfl⟩ := List.mem_map.mp oneListed
  obtain ⟨second, secondOwned, rfl⟩ := List.mem_map.mp anotherListed
  exact uniform first firstOwned second secondOwned

/-- LocalDisks of two names can be listed so that another spec than the given one
is wanted. -/
theorem exists_reordered_wanted_ne
    {first second : Unstructured}
    (firstOwned : first ∈ ownedBy cluster fsc .localDisk)
    (secondOwned : second ∈ ownedBy cluster fsc .localDisk)
    (different : first.metadata.name ≠ second.metadata.name)
    (spec : Option Value) :
    ∃ other, Reordered cluster other ∧ spec ≠ some (wantedFilesystemSpec other fsc) := by
  obtain ⟨firstCluster, others, firstReordered, firstListed⟩ :=
    exists_reordered_cons firstOwned
  obtain ⟨secondCluster, others', secondReordered, secondListed⟩ :=
    exists_reordered_cons secondOwned
  by_cases wanted : spec = some (wantedFilesystemSpec firstCluster fsc)
  · refine ⟨secondCluster, secondReordered, ?_⟩
    intro same
    rw [wanted] at same
    have names := buildFilesystemSpec_injective (Option.some.inj same)
    rw [firstListed, secondListed, List.map_cons, List.map_cons] at names
    exact different (List.head_eq_of_cons_eq names)
  · exact ⟨firstCluster, firstReordered, wanted⟩

end Wanted

/-! ## Patches in a run -/

/-- A run of `ensureFileSystem`. -/
abbrev fileSystemRun
    (fsc : FileSystemClaim) (choices : Nat → Choice) (cluster : Cluster) :
    Outcome apiServer (Except Failure Bool) :=
  Program.run apiServer (ensureFileSystem fsc).run choices cluster

/-- Some call patches a Filesystem. -/
def Patches (log : List (Event apiServer)) : Prop :=
  ∃ event ∈ log, ∃ key spec, event.request = .patchSpec .filesystem key spec

/-- The claim owns one Filesystem, and its spec is not the wanted one. -/
def HasDrifted (cluster : Cluster) (fsc : FileSystemClaim) : Prop :=
  isConditionTrue fsc .localDiskCreated = true ∧
    ownedBy cluster fsc .localDisk ≠ [] ∧
    ∃ fs, ownedBy cluster fsc .filesystem = [fs] ∧
      fs.spec ≠ some (wantedFilesystemSpec cluster fsc)

theorem patches_cons_list
    {cluster : Cluster} {kind : Kind} {ns : String} {choice : Choice}
    {log : List (Event apiServer)} :
    Patches (⟨cluster, .list kind ns, choice⟩ :: log) ↔ Patches log := by
  unfold Patches
  simp

section Runs

variable {α : Type} {fsc : FileSystemClaim} {kind : Kind}
  {rewrite : Failure → Failure} {choices : Nat → Choice} {cluster : Cluster}

/-- A run goes on with what is listed. -/
theorem run_listed
    (continuation : List Unstructured → Act α)
    (answered : (choices 0).fault = .none) :
    Program.run apiServer
        ((listOwnedResources fsc kind).mapError rewrite >>= continuation).run
        choices cluster =
      let rest := Program.run apiServer (continuation (ownedBy cluster fsc kind)).run
        (fun index => choices (index + 1)) cluster
      ⟨rest.state, ⟨cluster, .list kind fsc.metadata.ns, choices 0⟩ :: rest.log,
        rest.value⟩ := by
  have served : serve (choices 0) cluster (.list kind fsc.metadata.ns) =
      (cluster, .ok ((cluster.objects kind).filter fun object =>
        object.metadata.ns = fsc.metadata.ns)) := by
    unfold serve
    rw [answered]
    rfl
  change Program.run apiServer
    (Program.call (I := kubernetes) (.list kind fsc.metadata.ns) _) choices cluster = _
  rw [Program.run]
  dsimp only
  rw [served]
  rfl

/-- A run ends when nothing can be listed. -/
theorem log_of_not_listed
    (continuation : List Unstructured → Act α)
    (failed : (choices 0).fault ≠ .none) :
    (Program.run apiServer
        ((listOwnedResources fsc kind).mapError rewrite >>= continuation).run
        choices cluster).log =
      [⟨cluster, .list kind fsc.metadata.ns, choices 0⟩] := by
  have served : ∃ failure, serve (choices 0) cluster (.list kind fsc.metadata.ns) =
      (cluster, .error failure) := by
    unfold serve
    cases fault : (choices 0).fault with
    | none => exact absurd fault failed
    | refused refusal message => exact ⟨_, rfl⟩
    | lost message => exact ⟨_, rfl⟩
  obtain ⟨failure, served⟩ := served
  change (Program.run apiServer
    (Program.call (I := kubernetes) (.list kind fsc.metadata.ns) _) choices cluster).log = _
  rw [Program.run]
  dsimp only
  rw [served]
  rfl

end Runs

/-! ## Calls that patch no Filesystem -/

/-- The call does not patch a Filesystem. -/
def PatchesNothing (call : Call) : Prop :=
  ∀ key spec, call ≠ .patchSpec .filesystem key spec

theorem coversReports_patchesNothing (fsc : FileSystemClaim) :
    CoversReports PatchesNothing fsc where
  reads := by
    intro call reads key spec equal
    rw [equal] at reads
    cases reads
  reports := fun _ _ _ _ equal => by cases equal

theorem not_patches_of_safe
    {α : Type} {program : Act α}
    (safe : Safe (onlyCalls PatchesNothing) (fun _ => True) program)
    (choices : Nat → Choice) (cluster : Cluster) :
    ¬ Patches (Program.run apiServer program.run choices cluster).log := by
  rintro ⟨event, member, key, spec, patches⟩
  have kept := (Program.Ensures.sound (safe cluster trivial) choices
    fun _ _ => trivial).1 event member
  exact kept key spec patches

theorem not_patches_nil : ¬ Patches [] := by
  rintro ⟨event, member, -⟩
  cases member

theorem patchesNothing_createFilesystem (fsc : FileSystemClaim) (spec : Value) :
    Safe (onlyCalls PatchesNothing) (fun _ => True) (createFilesystem fsc spec) := by
  have reports := (coversReports_patchesNothing fsc).allowsReports
    (ofPass (reportsFailure .filesystem))
  have creation : PatchesNothing (.create .filesystem
      (ownedObject fsc fsc.metadata.name spec)) := fun _ _ equal => by cases equal
  unfold createFilesystem
  rw [createResourceWithOwnership_eq]
  apply (safe_call creation).attempt
  rintro (failure | created) -
  · exact safe_reportFailure reports failure
  · exact (safe_updateConditionIfChanged reports ⟨⟨rfl, Or.inl rfl⟩, by simp⟩ _).andThen
      fun _ _ => safe_pure true

/-- A run patches a Filesystem just if both lists are answered and the Filesystem
has drifted. -/
theorem patches_iff
    {fsc : FileSystemClaim} {choices : Nat → Choice} {cluster : Cluster} :
    Patches (fileSystemRun fsc choices cluster).log ↔
      (choices 0).fault = .none ∧ (choices 1).fault = .none ∧
        HasDrifted cluster fsc := by
  have covers := coversReports_patchesNothing fsc
  unfold fileSystemRun ensureFileSystem
  by_cases created : isConditionTrue fsc .localDiskCreated = true
  swap
  · rw [if_pos (by simpa using created)]
    refine iff_of_false not_patches_nil ?_
    rintro ⟨-, -, isCreated, -⟩
    exact created isCreated
  rw [if_neg (by simp [created])]
  by_cases disksListed : (choices 0).fault = .none
  swap
  · rw [log_of_not_listed _ disksListed, patches_cons_list]
    exact iff_of_false not_patches_nil fun drifted => disksListed drifted.1
  rw [run_listed _ disksListed]
  dsimp only
  rw [patches_cons_list]
  by_cases none : ownedBy cluster fsc .localDisk = []
  · rw [if_pos (by rw [none]; rfl)]
    refine iff_of_false not_patches_nil ?_
    rintro ⟨-, -, -, some, -⟩
    exact some none
  rw [if_neg (by simpa using none)]
  by_cases filesystemsListed : (choices 1).fault = .none
  swap
  · rw [log_of_not_listed _ filesystemsListed, patches_cons_list]
    exact iff_of_false not_patches_nil fun drifted => filesystemsListed drifted.2.1
  rw [run_listed _ filesystemsListed]
  dsimp only
  rw [patches_cons_list]
  have wanted : buildFilesystemSpec ((ownedBy cluster fsc .localDisk).map fun ld =>
      ld.metadata.name) = wantedFilesystemSpec cluster fsc := rfl
  rw [wanted]
  match owned : ownedBy cluster fsc .filesystem with
  | [] =>
      refine iff_of_false (not_patches_of_safe ?_ _ _) ?_
      · exact patchesNothing_createFilesystem fsc _
      · rintro ⟨-, -, -, -, fs, found, -⟩
        rw [owned] at found
        cases found
  | [fs] =>
      dsimp only
      by_cases same : fs.spec = some (wantedFilesystemSpec cluster fsc)
      · rw [if_neg (not_not.mpr same)]
        refine iff_of_false not_patches_nil ?_
        rintro ⟨-, -, -, -, other, found, differs⟩
        rw [owned] at found
        cases found
        exact differs same
      · rw [if_pos same]
        refine iff_of_true ⟨_, List.mem_cons_self, fs.key, _, rfl⟩ ?_
        exact ⟨disksListed, filesystemsListed, created, none, fs, owned, same⟩
  | first :: second :: others =>
      refine iff_of_false (not_patches_of_safe ?_ _ _) ?_
      · exact safe_reportFailure (covers.allowsReports _) _
      · rintro ⟨-, -, -, -, fs, found, -⟩
        rw [owned] at found
        cases found

/-! ## Repairs -/

/-- The claim has no Filesystem and can create it, or it has one that has
drifted. -/
def NeedsRepair (cluster : Cluster) (fsc : FileSystemClaim) : Prop :=
  isConditionTrue fsc .localDiskCreated = true ∧
    ownedBy cluster fsc .localDisk ≠ [] ∧
    (ownedBy cluster fsc .filesystem = [] ∧ cluster.object? .filesystem fsc.key = none ∨
      ∃ fs, ownedBy cluster fsc .filesystem = [fs] ∧
        fs.spec ≠ some (wantedFilesystemSpec cluster fsc))

/-- The LocalDisks are as before, and the claim owns one Filesystem with the spec
that was wanted. -/
structure Repaired (before : Cluster) (fsc : FileSystemClaim) (after : Cluster) : Prop where
  localDisks : after.localDisks = before.localDisks
  filesystem : ∃ fs, ownedBy after fsc .filesystem = [fs] ∧
    fs.spec = some (wantedFilesystemSpec before fsc)

/-- The LocalDisks and the Filesystems are the same. -/
def SameObjects (before after : Cluster) : Prop :=
  ∀ kind, after.objects kind = before.objects kind

theorem SameObjects.ownedBy
    {before after : Cluster} (same : SameObjects before after)
    (fsc : FileSystemClaim) (kind : Kind) :
    ownedBy after fsc kind = ownedBy before fsc kind := by
  unfold FusionAccess.ownedBy
  rw [same kind]

theorem Repaired.ownedLocalDisks
    {before after : Cluster} {fsc : FileSystemClaim}
    (repaired : Repaired before fsc after) :
    ownedBy after fsc .localDisk = ownedBy before fsc .localDisk := by
  have same : after.objects .localDisk = before.objects .localDisk := repaired.localDisks
  unfold ownedBy
  rw [same]

theorem Repaired.ofSameObjects
    {before written after : Cluster} {fsc : FileSystemClaim}
    (repaired : Repaired before fsc written)
    (same : SameObjects written after) :
    Repaired before fsc after where
  localDisks := (same .localDisk).trans repaired.localDisks
  filesystem := by
    rw [same.ownedBy]
    exact repaired.filesystem

section Repairs

variable {C : Contract apiServer} {cluster : Cluster} {fsc : FileSystemClaim}

/-- Status writes leave the objects alone. -/
theorem allowsReports_sameObjects
    (admitted : ∀ state call, C.guard state call)
    (base : Cluster)
    (reports : ConditionType → ConditionStatus → Reason → Prop) :
    AllowsReports C (SameObjects base) fsc reports := by
  apply allowsReports_of_patch fun state call _ => admitted state call
  intro state cur modified same stored touches
  refine ⟨admitted _ _, ?_⟩
  intro kind
  rw [Cluster.objects_afterCall _ (by simp [Call.part?])]
  exact same kind

theorem repaired_create
    (unowned : ownedBy cluster fsc .filesystem = [])
    (free : cluster.object? .filesystem fsc.key = none) :
    Repaired cluster fsc (cluster.afterCall (.create .filesystem
      (ownedObject fsc fsc.metadata.name (wantedFilesystemSpec cluster fsc)))) where
  localDisks := by
    have elsewhere : Call.part? (.create .filesystem (ownedObject fsc fsc.metadata.name
        (wantedFilesystemSpec cluster fsc))) ≠ some (.objects .localDisk) := by
      simp [Call.part?]
    exact cluster.objects_afterCall elsewhere
  filesystem := by
    rw [ownedBy_create free, unowned]
    exact ⟨_, rfl, rfl⟩

theorem repaired_patch
    {fs : Unstructured} (owned : ownedBy cluster fsc .filesystem = [fs]) :
    Repaired cluster fsc (cluster.afterCall
      (.patchSpec .filesystem fs.key (wantedFilesystemSpec cluster fsc))) where
  localDisks := by
    have elsewhere : Call.part? (.patchSpec .filesystem fs.key
        (wantedFilesystemSpec cluster fsc)) ≠ some (.objects .localDisk) := by
      simp [Call.part?]
    exact cluster.objects_afterCall elsewhere
  filesystem := by
    have member : fs ∈ ownedBy cluster fsc .filesystem := by
      rw [owned]
      exact List.mem_cons_self
    have listed : fs ∈ cluster.objects .filesystem :=
      (List.mem_filter.mp (List.mem_filter.mp member).1).1
    have known : (cluster.object? .filesystem fs.key).isSome :=
      Registry.find?_isSome_of_mem listed
    obtain ⟨object, stored⟩ := Option.isSome_iff_exists.mp known
    rw [ownedBy_patchSpec stored, owned, Registry.amend_cons, if_pos rfl]
    exact ⟨_, rfl, rfl⟩

/-- How an execution ends: with a repair where there is need, and otherwise with
the objects as they were. A call that fails may prevent a repair. -/
def RepairsOrKeeps
    (C : Contract apiServer) (cluster : Cluster) (fsc : FileSystemClaim)
    (final : Cluster) : Prop :=
  SameObjects cluster final ∧ (NeedsRepair cluster fsc → Faulty C) ∨
    NeedsRepair cluster fsc ∧ Repaired cluster fsc final

/-- Reporting a failure is no repair. -/
theorem ensures_reportFailure_keeps
    (admitted : ∀ state call, C.guard state call)
    (excused : NeedsRepair cluster fsc → Faulty C)
    (err : Failure) :
    Ensures C (reportFailure fsc .filesystem err)
      (fun _ final => RepairsOrKeeps C cluster fsc final) cluster := by
  have safe : Safe C (SameObjects cluster) (reportFailure fsc .filesystem err) :=
    safe_reportFailure (allowsReports_sameObjects admitted cluster _) err
  refine (safe cluster fun _ => rfl).mono ?_
  intro result final ensured
  exact Or.inl ⟨ensured.2, excused⟩

theorem ensures_createFilesystem_repairs
    (admitted : ∀ state call, C.guard state call)
    (created : isConditionTrue fsc .localDiskCreated = true)
    (some : ownedBy cluster fsc .localDisk ≠ [])
    (unowned : ownedBy cluster fsc .filesystem = []) :
    Ensures C (createFilesystem fsc (wantedFilesystemSpec cluster fsc))
      (fun _ final => RepairsOrKeeps C cluster fsc final) cluster := by
  have keeps := fun excused => @ensures_reportFailure_keeps C cluster fsc admitted excused
  unfold createFilesystem
  rw [createResourceWithOwnership_eq, ensures_bind, ensures_attempt]
  cases stored : cluster.object? .filesystem fsc.key with
  | some object =>
      have taken : cluster.object? .filesystem (ownedObject fsc fsc.metadata.name
          (wantedFilesystemSpec cluster fsc)).key = Option.some object := stored
      have unneeded : NeedsRepair cluster fsc → Faulty C := by
        rintro ⟨-, -, ⟨-, free⟩ | ⟨fs, owned, -⟩⟩
        · rw [stored] at free
          cases free
        · rw [unowned] at owned
          cases owned
      have unchanged : cluster.afterCall (.create .filesystem (ownedObject fsc
          fsc.metadata.name (wantedFilesystemSpec cluster fsc))) = cluster := by
        simp only [Cluster.afterCall, Cluster.answer, Cluster.create, taken]
      apply ensures_request (admitted _ _)
      · intro pick
        rw [unchanged]
        simp only [Cluster.answer, Cluster.create, taken]
        exact keeps unneeded _
      · intro failure transient mayFail
        exact keeps unneeded failure
      · intro failure unspecified mayFail
        rw [unchanged]
        exact keeps unneeded failure
  | none =>
      have free : cluster.object? .filesystem (ownedObject fsc fsc.metadata.name
          (wantedFilesystemSpec cluster fsc)).key = none := stored
      have needed : NeedsRepair cluster fsc :=
        ⟨created, some, Or.inl ⟨unowned, stored⟩⟩
      have repaired := repaired_create unowned stored
      have reports := @allowsReports_sameObjects C fsc admitted (cluster.afterCall
        (.create .filesystem (ownedObject fsc fsc.metadata.name
          (wantedFilesystemSpec cluster fsc)))) (ofPass (reportsFailure .filesystem))
      apply ensures_request (admitted _ _)
      · intro pick
        simp only [Cluster.answer, Cluster.create, free]
        refine Ensures.mono (((safe_updateConditionIfChanged reports
          ⟨⟨rfl, Or.inl rfl⟩, by simp⟩ _).andThen fun _ _ => safe_pure true) _ fun _ => rfl) ?_
        intro result final ensured
        exact Or.inr ⟨needed, repaired.ofSameObjects ensured.2⟩
      · intro failure transient mayFail
        exact keeps (fun _ => ⟨_, _, _, mayFail⟩) failure
      · intro failure unspecified mayFail
        refine Ensures.mono (safe_reportFailure reports failure _ fun _ => rfl) ?_
        intro result final ensured
        exact Or.inr ⟨needed, repaired.ofSameObjects ensured.2⟩

theorem ensures_patchFilesystem_repairs
    {fs : Unstructured}
    (admitted : ∀ state call, C.guard state call)
    (needed : NeedsRepair cluster fsc)
    (owned : ownedBy cluster fsc .filesystem = [fs]) :
    Ensures C (patchFilesystem fs (wantedFilesystemSpec cluster fsc))
      (fun _ final => RepairsOrKeeps C cluster fsc final) cluster := by
  have repaired := repaired_patch owned
  unfold patchFilesystem
  rw [ensures_bind, ensures_mapError]
  apply ensures_request (admitted _ _)
  · intro pick
    cases (cluster.answer pick (.patchSpec .filesystem fs.key
        (wantedFilesystemSpec cluster fsc))).2 with
    | error failure => exact Or.inr ⟨needed, repaired⟩
    | ok _ => exact Or.inr ⟨needed, repaired⟩
  · intro failure transient mayFail
    exact Or.inl ⟨fun _ => rfl, fun _ => ⟨_, _, _, mayFail⟩⟩
  · intro failure unspecified mayFail
    exact Or.inr ⟨needed, repaired⟩

theorem ensures_ensureFileSystem_repairs
    (admitted : ∀ state call, C.guard state call) :
    Ensures C (ensureFileSystem fsc)
      (fun _ final => RepairsOrKeeps C cluster fsc final) cluster := by
  apply ensures_ensureFileSystem_exits fun state call _ => admitted state call
  · intro fails failure
    exact Or.inl ⟨fun _ => rfl, fun _ => fails.faulty⟩
  · intro skipped
    refine Or.inl ⟨fun _ => rfl, ?_⟩
    rintro ⟨created, some, -⟩
    rcases skipped with notCreated | none
    · rw [created] at notCreated
      cases notCreated
    · exact absurd none some
  · intro created some unowned
    exact ensures_createFilesystem_repairs admitted created some unowned
  · intro fs created some owned
    constructor
    · intro equal
      refine Or.inl ⟨fun _ => rfl, ?_⟩
      rintro ⟨-, -, ⟨unowned, -⟩ | ⟨other, found, differs⟩⟩
      · rw [unowned] at owned
        cases owned
      · rw [owned] at found
        cases found
        exact absurd equal differs
    · intro differs
      have needed : NeedsRepair cluster fsc :=
        ⟨created, some, Or.inr ⟨fs, owned, differs⟩⟩
      exact ensures_patchFilesystem_repairs admitted needed owned
  · intro created some several err
    apply ensures_reportFailure_keeps admitted
    rintro ⟨-, -, ⟨unowned, -⟩ | ⟨other, found, -⟩⟩
    · simp [unowned] at several
    · simp [found] at several

end Repairs

/-! ## Any order of the LocalDisks -/

/-- The order in which the LocalDisks are listed does not lead to patches: a run
patches under one order if it does under another, and after a run that has
written a Filesystem no order leads to a patch. -/
structure DriftIgnoresOrder (cluster : Cluster) (fsc : FileSystemClaim) : Prop where
  same : ∀ choices first second, Reordered cluster first → Reordered cluster second →
    (Patches (fileSystemRun fsc choices first).log ↔
      Patches (fileSystemRun fsc choices second).log)
  settled : ∀ choices first, Reordered cluster first →
    (fileSystemRun fsc choices first).state.filesystems ≠ first.filesystems →
      ∀ later, later.key = fsc.key →
        ∀ other, Reordered (fileSystemRun fsc choices first).state other →
          ∀ laterChoices, ¬ Patches (fileSystemRun later laterChoices other).log

/-- If the LocalDisks are created, they share one name, or the claim does not get
as far as to compare or create its Filesystem. -/
def OrderIsImmaterial (cluster : Cluster) (fsc : FileSystemClaim) : Prop :=
  isConditionTrue fsc .localDiskCreated = true →
    (∀ first ∈ ownedBy cluster fsc .localDisk, ∀ second ∈ ownedBy cluster fsc .localDisk,
      first.metadata.name = second.metadata.name) ∨
    1 < (ownedBy cluster fsc .filesystem).length ∨
    ownedBy cluster fsc .filesystem = [] ∧ (cluster.object? .filesystem fsc.key).isSome

section Orders

variable {cluster first second : Cluster} {fsc : FileSystemClaim} {choices : Nat → Choice}

theorem Reordered.object?
    (reordered : Reordered cluster first) (key : NamespacedName) :
    first.object? .filesystem key = cluster.object? .filesystem key := by
  obtain ⟨disks, -, rfl⟩ := reordered
  rfl

theorem HasDrifted.ofReordered
    (immaterial : OrderIsImmaterial cluster fsc)
    (reorderedFirst : Reordered cluster first)
    (reorderedSecond : Reordered cluster second)
    (drifted : HasDrifted first fsc) :
    HasDrifted second fsc := by
  obtain ⟨created, some, fs, owned, differs⟩ := drifted
  rw [reorderedFirst.ownedFilesystems] at owned
  rcases immaterial created with uniform | several | ⟨unowned, -⟩
  · refine ⟨created, ?_, fs, ?_, ?_⟩
    · rw [ne_eq, reorderedSecond.ownedLocalDisks_eq_nil_iff]
      rwa [ne_eq, reorderedFirst.ownedLocalDisks_eq_nil_iff] at some
    · rw [reorderedSecond.ownedFilesystems, owned]
    · rw [wantedFilesystemSpec_of_uniform uniform reorderedSecond.perm]
      rwa [wantedFilesystemSpec_of_uniform uniform reorderedFirst.perm] at differs
  · simp [owned] at several
  · rw [owned] at unowned
    cases unowned

/-- Only LocalDisks of one name leave a repair to do. -/
theorem uniform_of_needsRepair
    (immaterial : OrderIsImmaterial cluster fsc)
    (reordered : Reordered cluster first)
    (needed : NeedsRepair first fsc) :
    ∀ one ∈ ownedBy cluster fsc .localDisk, ∀ other ∈ ownedBy cluster fsc .localDisk,
      one.metadata.name = other.metadata.name := by
  obtain ⟨created, -, need⟩ := needed
  rw [reordered.ownedFilesystems, reordered.object?] at need
  rcases immaterial created with uniform | several | ⟨unowned, taken⟩
  · exact uniform
  · rcases need with ⟨unowned, -⟩ | ⟨fs, owned, -⟩
    · simp [unowned] at several
    · simp [owned] at several
  · rcases need with ⟨-, free⟩ | ⟨fs, owned, -⟩
    · simp [free] at taken
    · rw [owned] at unowned
      cases unowned

/-- A repair settles the Filesystem for every order of LocalDisks of one name. -/
theorem not_hasDrifted_of_repaired
    {later : FileSystemClaim} {repaired other : Cluster}
    (uniform : ∀ one ∈ ownedBy cluster fsc .localDisk,
      ∀ other ∈ ownedBy cluster fsc .localDisk, one.metadata.name = other.metadata.name)
    (sameKey : later.key = fsc.key)
    (reordered : Reordered cluster first)
    (settles : Repaired first fsc repaired)
    (reorderedOther : Reordered repaired other) :
    ¬ HasDrifted other later := by
  rintro ⟨-, -, fs, owned, differs⟩
  obtain ⟨wanted, wantedOwned, spec⟩ := settles.filesystem
  rw [ownedBy_of_key_eq sameKey, reorderedOther.ownedFilesystems, wantedOwned] at owned
  cases owned
  have permutes : (ownedBy other fsc .localDisk).Perm (ownedBy cluster fsc .localDisk) := by
    refine reorderedOther.perm.trans ?_
    rw [settles.ownedLocalDisks]
    exact reordered.perm
  have sameWanted : wantedFilesystemSpec other later = wantedFilesystemSpec other fsc := by
    unfold wantedFilesystemSpec
    rw [ownedBy_of_key_eq sameKey]
  rw [spec, sameWanted, wantedFilesystemSpec_of_uniform uniform permutes,
    wantedFilesystemSpec_of_uniform uniform reordered.perm] at differs
  exact differs rfl

/-- A repair changes what is stored. -/
theorem filesystems_ne_of_repaired
    {repaired : Cluster}
    (needed : NeedsRepair first fsc)
    (settles : Repaired first fsc repaired) :
    repaired.filesystems ≠ first.filesystems := by
  intro unchanged
  obtain ⟨-, -, need⟩ := needed
  obtain ⟨wanted, wantedOwned, spec⟩ := settles.filesystem
  have same : repaired.objects .filesystem = first.objects .filesystem := unchanged
  have owned : ownedBy repaired fsc .filesystem = ownedBy first fsc .filesystem := by
    unfold ownedBy
    rw [same]
  rw [← owned, wantedOwned] at need
  rcases need with ⟨unowned, -⟩ | ⟨fs, found, differs⟩
  · cases unowned
  · cases found
    exact differs spec

/-- After a repair, LocalDisks of two names can be listed in such an order that
the Filesystem is patched once more. -/
theorem exists_patch_after_repair
    {one other : Unstructured}
    (needed : NeedsRepair first fsc)
    (oneOwned : one ∈ ownedBy first fsc .localDisk)
    (otherOwned : other ∈ ownedBy first fsc .localDisk)
    (different : one.metadata.name ≠ other.metadata.name) :
    (fileSystemRun fsc calm first).state.filesystems ≠ first.filesystems ∧
      ∃ later, Reordered (fileSystemRun fsc calm first).state later ∧
        Patches (fileSystemRun fsc calm later).log := by
  have ensures : Ensures faultless (ensureFileSystem fsc)
      (fun _ final => RepairsOrKeeps faultless first fsc final) first :=
    ensures_ensureFileSystem_repairs fun _ _ => trivial
  have relied : ∀ event ∈ (fileSystemRun fsc calm first).log,
      faultless.Relied event := by
    intro event member
    obtain ⟨index, chosen⟩ := Program.choice_of_mem_log member
    change event.choice.fault = .none
    rw [chosen, calm]
  rcases (Program.Ensures.sound ensures calm relied).2 with
    ⟨-, faulty⟩ | ⟨-, repaired⟩
  · exact absurd (faulty needed) not_faulty_faultless
  refine ⟨filesystems_ne_of_repaired needed repaired, ?_⟩
  obtain ⟨wanted, wantedOwned, spec⟩ := repaired.filesystem
  rw [← repaired.ownedLocalDisks] at oneOwned otherOwned
  obtain ⟨later, reordered, differs⟩ :=
    exists_reordered_wanted_ne oneOwned otherOwned different wanted.spec
  refine ⟨later, reordered, patches_iff.mpr ⟨rfl, rfl, needed.1, ?_, wanted, ?_, differs⟩⟩
  · rw [ne_eq, reordered.ownedLocalDisks_eq_nil_iff]
    exact List.ne_nil_of_mem oneOwned
  · rw [reordered.ownedFilesystems]
    exact wantedOwned

end Orders

/-- The order of the LocalDisks leads to no patch just if it is immaterial. -/
theorem drift_ignores_order_iff (cluster : Cluster) (fsc : FileSystemClaim) :
    DriftIgnoresOrder cluster fsc ↔ OrderIsImmaterial cluster fsc := by
  constructor
  · intro ignores created
    by_contra material
    push Not at material
    obtain ⟨⟨one, oneOwned, other, otherOwned, different⟩, atMostOne, creatable⟩ := material
    have needed : ∃ first, Reordered cluster first ∧ NeedsRepair first fsc := by
      match owned : ownedBy cluster fsc .filesystem with
      | [] =>
          refine ⟨cluster, Reordered.refl cluster, created, List.ne_nil_of_mem oneOwned, ?_⟩
          exact Or.inl ⟨owned, by simpa using creatable owned⟩
      | [fs] =>
          obtain ⟨first, reordered, differs⟩ :=
            exists_reordered_wanted_ne oneOwned otherOwned different fs.spec
          refine ⟨first, reordered, created, ?_, Or.inr ⟨fs, ?_, differs⟩⟩
          · rw [ne_eq, reordered.ownedLocalDisks_eq_nil_iff]
            exact List.ne_nil_of_mem oneOwned
          · rw [reordered.ownedFilesystems]
            exact owned
      | _ :: _ :: _ => simp [owned] at atMostOne
    obtain ⟨first, reordered, needed⟩ := needed
    obtain ⟨written, later, reorderedLater, patches⟩ :=
      exists_patch_after_repair needed (reordered.mem_iff.mpr oneOwned)
        (reordered.mem_iff.mpr otherOwned) different
    exact ignores.settled calm first reordered written fsc rfl later reorderedLater calm
      patches
  · intro immaterial
    constructor
    · intro choices first second reorderedFirst reorderedSecond
      rw [patches_iff, patches_iff]
      refine and_congr_right fun _ => and_congr_right fun _ => ⟨?_, ?_⟩
      · exact HasDrifted.ofReordered immaterial reorderedFirst reorderedSecond
      · exact HasDrifted.ofReordered immaterial reorderedSecond reorderedFirst
    · intro choices first reordered written later sameKey other reorderedOther
        laterChoices patches
      have ensures : Ensures free (ensureFileSystem fsc)
          (fun _ final => RepairsOrKeeps free first fsc final) first :=
        ensures_ensureFileSystem_repairs fun _ _ => trivial
      rcases (Program.Ensures.sound ensures choices fun _ _ => trivial).2 with
        ⟨same, -⟩ | ⟨needed, repaired⟩
      · exact written (same .filesystem)
      · have uniform := uniform_of_needsRepair immaterial reordered needed
        exact not_hasDrifted_of_repaired uniform sameKey reordered repaired reorderedOther
          (patches_iff.mp patches).2.2

/-- A claim for two devices. -/
def stripedClaim : FileSystemClaim :=
  { readyClaim with devices := ["/dev/sdb", "/dev/sdc"] }

/-- Its Filesystem was created from the LocalDisks in the order in which they are
listed. -/
def stripedCluster : Cluster :=
  { readyCluster with
    claims := [stripedClaim]
    localDisks := [
      ownedObject stripedClaim "uuid.1" (localDiskSpec "/dev/sdb" "node"),
      ownedObject stripedClaim "uuid.2" (localDiskSpec "/dev/sdc" "node")]
    filesystems := [
      ownedObject stripedClaim "fs" (buildFilesystemSpec ["uuid.1", "uuid.2"])] }

/-- Listed the other way round, the LocalDisks lead to a patch. -/
theorem drift_depends_on_order : ¬ DriftIgnoresOrder stripedCluster stripedClaim := by
  intro ignores
  have reversed : Reordered stripedCluster
      { stripedCluster with localDisks := stripedCluster.localDisks.reverse } :=
    ⟨stripedCluster.localDisks.reverse, List.reverse_perm _, rfl⟩
  have patches := (ignores.same calm _ _ reversed (Reordered.refl stripedCluster)).mp
    (patches_iff.mpr ⟨rfl, rfl, by decide, by decide,
      ownedObject stripedClaim "fs" (buildFilesystemSpec ["uuid.1", "uuid.2"]), rfl,
      by decide⟩)
  obtain ⟨-, -, -, -, fs, owned, differs⟩ := patches_iff.mp patches
  cases owned
  exact differs rfl

end FusionAccess
