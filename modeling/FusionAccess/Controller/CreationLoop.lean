import FusionAccess.Controller.SharedDisks
import FusionAccess.Controller.StepExits
import FusionAccess.Registry.Additions

/-!
# The LocalDisks that the creation loop leaves behind

When all devices can be named and no call fails, the loop creates LocalDisks in the
order of the devices until it comes to one that is there already, and returns. What
it leaves behind is told from the state in which it starts.
-/

namespace FusionAccess

open Kubernetes Interaction Fallible

/-! ## The state in which the loop starts -/

/-- The names of the LocalDisks for the devices of a claim. -/
def wantedNames (cluster : Cluster) (fsc : FileSystemClaim) (nodeName : String) :
    List String :=
  fsc.devices.filterMap fun devicePath => localDiskName? cluster devicePath nodeName

/-- A LocalDisk of the name is stored in the namespace of the claim. -/
def isThere (cluster : Cluster) (fsc : FileSystemClaim) (name : String) : Bool :=
  (cluster.object? .localDisk ⟨fsc.metadata.ns, name⟩).isSome

/-- The pass on the claim gets to the creation of LocalDisks, and all of its devices
can be named. -/
structure StartsLoop (cluster : Cluster) (fsc : FileSystemClaim) (nodeName : String) :
    Prop where
  stored : cluster.claim? fsc.key = some fsc
  notCreated : isConditionTrue fsc .localDiskCreated = false
  notAwaiting : awaitsLocalDisks fsc = false
  validated : isConditionTrue fsc .deviceValidated = true
  nodes : storageNodes cluster ≠ []
  named : ∀ devicePath ∈ fsc.devices,
    (localDiskName? cluster devicePath nodeName).isSome

/-! ## The invariant of the loop -/

/-- The claim reports a reason why its LocalDisks are not created. -/
def ReportsReason (reason : Reason) (key : NamespacedName) (cluster : Cluster) : Prop :=
  ∃ fsc, cluster.claim? key = some fsc ∧
    ∃ condition, findStatusCondition fsc.conditions .localDiskCreated = some condition ∧
      condition.status = .isFalse ∧ condition.reason = reason

/-- How far the loop has come: LocalDisks of the given names have been created, and
nothing else has happened to LocalDisks. -/
structure MadeDisks
    (start : Cluster) (fsc : FileSystemClaim) (made : List String) (state : Cluster) :
    Prop where
  surroundings : Cluster.SameSurroundings start state
  stays : ∀ key ld, start.object? .localDisk key = some ld →
    state.object? .localDisk key = some ld
  owned : ∀ name ∈ made, ∃ ld,
    state.object? .localDisk ⟨fsc.metadata.ns, name⟩ = some ld ∧
      isOwnedByThisFSC ld fsc.metadata.name = true
  others : ∀ name, isThere state fsc name = true →
    isThere start fsc name = true ∨ name ∈ made
  claim : if made = [] then state.claim? fsc.key = start.claim? fsc.key
    else ReportsReason .localDiskCreationInProgress fsc.key state

section Loop

variable {start state : Cluster} {fsc : FileSystemClaim} {nodeName name devicePath : String}
  {made : List String}

theorem madeDisks_start (start : Cluster) (fsc : FileSystemClaim) :
    MadeDisks start fsc [] start where
  surroundings := Cluster.SameSurroundings.refl start
  stays := fun _ _ stored => stored
  owned := by simp
  others := fun _ there => Or.inl there
  claim := by rw [if_pos rfl]

theorem MadeDisks.exists_claim
    (disks : MadeDisks start fsc made state)
    (stored : start.claim? fsc.key = some fsc) :
    ∃ cur, state.claim? fsc.key = some cur := by
  have claim := disks.claim
  split at claim
  · exact ⟨fsc, claim.trans stored⟩
  · obtain ⟨cur, found, _⟩ := claim
    exact ⟨cur, found⟩

/-- A LocalDisk is there when it was at the start or has been created. -/
theorem MadeDisks.isThere_iff
    (disks : MadeDisks start fsc made state) :
    isThere state fsc name = true ↔ isThere start fsc name = true ∨ name ∈ made := by
  refine ⟨disks.others name, ?_⟩
  rintro (there | member)
  · obtain ⟨ld, stored⟩ := Option.isSome_iff_exists.mp there
    rw [isThere, disks.stays _ ld stored]
    rfl
  · obtain ⟨ld, stored, _⟩ := disks.owned name member
    rw [isThere, stored]
    rfl

/-- The LocalDisks after one more has been created. -/
theorem object?_create
    (free : state.object? .localDisk ⟨fsc.metadata.ns, name⟩ = none)
    (spec : Value) (key : NamespacedName) :
    (state.afterCall (.create .localDisk (ownedObject fsc name spec))).object?
        .localDisk key =
      (state.object? .localDisk key).or
        (if key = ⟨fsc.metadata.ns, name⟩ then
          some (state.newObject (ownedObject fsc name spec)) else none) := by
  have free' : state.object? .localDisk (ownedObject fsc name spec).key = none := free
  rw [Cluster.object?, state.objects_create free', Registry.find?_append, Cluster.object?]
  congr 1
  have newKey : (state.newObject (ownedObject fsc name spec)).key =
      ⟨fsc.metadata.ns, name⟩ := rfl
  rw [Registry.find?_cons, newKey]
  by_cases same : key = ⟨fsc.metadata.ns, name⟩
  · rw [if_pos same, if_pos same.symm]
  · rw [if_neg same, if_neg fun equal => same equal.symm]
    rfl

/-- The next LocalDisk is created, and the claim reports it. -/
theorem MadeDisks.create
    {cur : FileSystemClaim} {spec : Value} {message : String} {now : Nat}
    (disks : MadeDisks start fsc made state)
    (free : state.object? .localDisk ⟨fsc.metadata.ns, name⟩ = none)
    (stored : state.claim? fsc.key = some cur) :
    MadeDisks start fsc (made ++ [name])
      ((state.afterCall (.create .localDisk (ownedObject fsc name spec))).afterCall
        (.patchClaimStatus fsc.key cur.conditions
          (withCondition .localDiskCreated .isFalse .localDiskCreationInProgress message
            now cur).conditions)) := by
  have kept : ∀ key, ((state.afterCall (.create .localDisk (ownedObject fsc name
      spec))).afterCall (.patchClaimStatus fsc.key cur.conditions
        (withCondition .localDiskCreated .isFalse .localDiskCreationInProgress message
          now cur).conditions)).object? .localDisk key =
      (state.object? .localDisk key).or
        (if key = ⟨fsc.metadata.ns, name⟩ then
          some (state.newObject (ownedObject fsc name spec)) else none) := by
    intro key
    rw [← object?_create free spec key, Cluster.object?,
      Cluster.objects_afterCall _ (by simp [Call.part?]), Cluster.object?]
  have storedNow : (state.afterCall (.create .localDisk
      (ownedObject fsc name spec))).claim? fsc.key = some cur := by
    rw [state.claim?_afterCall (by simp [Call.part?]), stored]
  refine ⟨?_, fun key ld before => ?_, fun other member => ?_, fun other there => ?_, ?_⟩
  · exact (disks.surroundings.trans (Cluster.sameSurroundings_afterCall _ _)).trans
      (Cluster.sameSurroundings_afterCall _ _)
  · rw [kept, disks.stays key ld before, Option.some_or]
  · rw [kept]
    rcases List.mem_append.mp member with earlier | new
    · obtain ⟨ld, found, owned⟩ := disks.owned other earlier
      exact ⟨ld, by rw [found, Option.some_or], owned⟩
    · rw [List.mem_singleton.mp new, free, if_pos rfl, Option.none_or]
      exact ⟨_, rfl, (isOwnedByThisFSC_newObject fsc name spec _).mpr rfl⟩
  · by_cases same : other = name
    · exact Or.inr (by simp [same])
    · rw [isThere, kept, if_neg (by simpa using same), Option.or_none] at there
      exact (disks.others other there).imp_right (List.mem_append_left _)
  · rw [if_neg (by simp)]
    obtain ⟨patched, found, _, conditions⟩ :=
      Cluster.claim?_patchClaimStatus_stored storedNow (withCondition .localDiskCreated
        .isFalse .localDiskCreationInProgress message now cur).conditions
    have reported := findStatusCondition_withCondition .localDiskCreated .isFalse
      .localDiskCreationInProgress message now cur .localDiskCreated
    rw [if_pos rfl, ← conditions] at reported
    exact ⟨patched, found, _, reported, rfl, rfl⟩

/-- A call does not fail, and if it draws a node, then this one. -/
def Draws (start : Cluster) (nodeName : String) (call : Call) (choice : Choice) : Prop :=
  choice.fault = .none ∧
    ∀ bound, call = .randomIndex bound → drawnNode start choice.pick = nodeName

/-- The contract by which no call fails and the node is drawn. -/
def drawing (start : Cluster) (nodeName : String) : Contract apiServer where
  rely := fun _ => Draws start nodeName
  guard := fun _ _ => True

theorem not_faulty_drawing : ¬Faulty (drawing start nodeName) := by
  rintro ⟨cluster, call, final, choice, relied, fault, _⟩
  exact fault relied.1

theorem not_failsReads_drawing : ¬FailsReads (drawing start nodeName) :=
  fun fails => not_faulty_drawing fails.faulty

theorem not_mayFail_drawing {state : Cluster} {call : Call} (final : Cluster) :
    ¬MayFail (drawing start nodeName) state call final :=
  fun mayFail => not_faulty_drawing ⟨_, _, _, mayFail⟩

/-- The loop creates what its names tell. -/
theorem ensures_createLocalDisks_made
    (stored : start.claim? fsc.key = some fsc)
    (notAwaiting : awaitsLocalDisks fsc = false)
    (devices : List String) (requeue : Bool)
    (named : ∀ devicePath ∈ devices,
      (localDiskName? start devicePath nodeName).isSome)
    (disks : MadeDisks start fsc made state) :
    Ensures (drawing start nodeName) (createLocalDisks fsc nodeName devices requeue)
      (fun _ final => MadeDisks start fsc
        (Registry.added (isThere start fsc) made
          (devices.filterMap fun devicePath => localDiskName? start devicePath nodeName))
        final) state := by
  -- induction on the devices that remain; `disks` is the invariant of the loop
  induction devices generalizing made requeue state with
  | nil => exact disks
  | cons devicePath devices inductionHypothesis =>
      have admits : AdmitsReads (drawing start nodeName) := fun _ _ _ => trivial
      obtain ⟨next, isNext⟩ := Option.isSome_iff_exists.mp (named devicePath (by simp))
      have isNow : localDiskName? state devicePath nodeName = some next := by
        rw [localDiskName?_of_sameSurroundings disks.surroundings, isNext]
      have names : (devicePath :: devices).filterMap
          (fun devicePath => localDiskName? start devicePath nodeName) =
            next :: devices.filterMap fun devicePath =>
              localDiskName? start devicePath nodeName := List.filterMap_cons_some isNext
      rw [names]
      refine ensures_createLocalDisks_cons admits
        (fun faulty => absurd faulty not_failsReads_drawing) (fun unknown => ?_)
        (fun name' isName present => ?_) fun name' isName free => ?_
      · rcases unknown with nameless | faulty
        · rw [isNow] at nameless
          cases nameless
        · exact absurd faulty not_failsReads_drawing
      · rw [isNow] at isName
        cases isName
        rw [Registry.added_of_taken (disks.others next present)]
        exact disks
      · rw [isNow] at isName
        cases isName
        have missing : ¬(isThere start fsc next = true ∨ next ∈ made) := by
          rw [← disks.isThere_iff, isThere, free]
          simp
        rw [Registry.added_of_free missing]
        obtain ⟨cur, found⟩ := disks.exists_claim stored
        have changes : keepsCondition fsc .localDiskCreated .isFalse
            .localDiskCreationInProgress
            "LocalDisks created, waiting for them to become ready" = false := by
          by_contra kept
          have awaits := hasConditionWithReason_of_keepsCondition (by simpa using kept)
          rw [awaitsLocalDisks, awaits] at notAwaiting
          cases notAwaiting
        rw [ensures_bind, ensures_attempt]
        refine ensures_createResourceWithOwnership_free not_mayFail_drawing free trivial ?_
        rw [onSuccess_ok, ensures_bind]
        have foundNow : (state.afterCall (.create .localDisk (ownedObject fsc next
            (localDiskSpec devicePath nodeName)))).claim? fsc.key = some cur := by
          rw [state.claim?_afterCall (by simp [Call.part?]), found]
        refine ensures_updateConditionIfChanged admits foundNow (fun kept => ?_)
          (fun _ => trivial) (fun _ => ?_) (fun _ _ _ mayFail => ?_)
          fun _ _ _ mayFail _ => ?_
        · rw [changes] at kept
          cases kept
        · exact inductionHypothesis true
            (fun other member => named other (List.mem_cons_of_mem _ member))
            (disks.create free found)
        · exact absurd ⟨_, _, _, mayFail⟩ not_faulty_drawing
        · exact absurd ⟨_, _, _, mayFail⟩ not_faulty_drawing

end Loop

/-! ## The creation as a whole -/

section Creation

variable {cluster final : Cluster} {fsc : FileSystemClaim} {nodeName : String}
  {names made : List String}

/-- The creation of LocalDisks makes what the loop does. -/
theorem ensures_ensureLocalDisks_made (starts : StartsLoop cluster fsc nodeName) :
    Ensures (drawing cluster nodeName) (ensureLocalDisks fsc)
      (fun _ final => MadeDisks cluster fsc
        (Registry.added (isThere cluster fsc) [] (wantedNames cluster fsc nodeName)) final)
      cluster := by
  have never : ∀ {Q : Prop}, FailsReads (drawing cluster nodeName) → Q :=
    fun faulty => absurd faulty not_failsReads_drawing
  refine ensures_ensureLocalDisks_exits (fun _ _ _ => trivial) never
    (fun created => ?_) (fun created => ?_) (fun _ awaits => ?_) (fun _ _ invalid => ?_)
    fun _ _ _ => ⟨fun reason => ?_, fun drawn _ draws => ?_⟩
  · rw [starts.notCreated] at created
    cases created
  · rw [starts.notCreated] at created
    cases created
  · rw [starts.notAwaiting] at awaits
    cases awaits
  · rw [starts.validated] at invalid
    cases invalid
  · exact (reason.resolve_right not_failsReads_drawing |> starts.nodes).elim
  · obtain ⟨bound, choice, relied, same⟩ := draws
    rw [same, relied.2 bound rfl]
    exact ensures_createLocalDisks_made starts.stored starts.notAwaiting _ _ starts.named
      (madeDisks_start cluster fsc)

/-- The claim owns the LocalDisks of the names, as far as they are there. -/
def OwnsAll (cluster : Cluster) (fsc : FileSystemClaim) (names : List String) : Prop :=
  ∀ name ∈ names, ∀ ld, cluster.object? .localDisk ⟨fsc.metadata.ns, name⟩ = some ld →
    isOwnedByThisFSC ld fsc.metadata.name = true

/-- All LocalDisks of the names are there, and they are owned by the claim unless it
reports that their creation has failed. -/
structure HasAllDisks
    (cluster : Cluster) (fsc : FileSystemClaim) (names : List String) : Prop where
  there : ∀ name ∈ names, isThere cluster fsc name = true
  owned : OwnsAll cluster fsc names ∨
    ReportsReason .localDiskCreationFailed fsc.key cluster

/-- All LocalDisks are there when the loop leaves no gap. -/
theorem MadeDisks.there_iff
    (disks : MadeDisks cluster fsc
      (Registry.added (isThere cluster fsc) [] names) final) :
    (∀ name ∈ names, isThere final fsc name = true) ↔
      Registry.gapless (isThere cluster fsc) [] names = true := by
  rw [Registry.gapless_iff]
  exact forall₂_congr fun name _ => disks.isThere_iff

/-- The claim owns all LocalDisks when it owns those that were there. -/
theorem MadeDisks.ownsAll_iff (disks : MadeDisks cluster fsc made final) :
    OwnsAll final fsc names ↔ OwnsAll cluster fsc names := by
  constructor
  · intro owns name member ld stored
    exact owns name member ld (disks.stays _ ld stored)
  · intro owns name member ld found
    have there : isThere final fsc name = true := by
      rw [isThere, found]
      rfl
    rcases disks.others name there with before | new
    · obtain ⟨earlier, stored⟩ := Option.isSome_iff_exists.mp before
      have same := disks.stays _ earlier stored
      rw [found] at same
      cases same
      exact owns name member ld stored
    · obtain ⟨created, stored, owned⟩ := disks.owned name new
      rw [found] at stored
      cases stored
      exact owned

/-- The claim reports a failure when it did and nothing has been created since. -/
theorem MadeDisks.reportsReason_iff (disks : MadeDisks cluster fsc made final) :
    ReportsReason .localDiskCreationFailed fsc.key final ↔
      made = [] ∧ ReportsReason .localDiskCreationFailed fsc.key cluster := by
  have claim := disks.claim
  split at claim
  next none =>
    rw [ReportsReason, claim]
    exact ⟨fun reports => ⟨none, reports⟩, And.right⟩
  next some =>
    refine ⟨fun reports => ?_, fun reports => absurd reports.1 some⟩
    obtain ⟨cur, stored, condition, found, _, reason⟩ := claim
    obtain ⟨cur', stored', condition', found', _, reason'⟩ := reports
    rw [stored] at stored'
    cases stored'
    rw [found] at found'
    cases found'
    rw [reason] at reason'
    cases reason'

/-- When no call fails, the creation leaves all LocalDisks behind if and only if
nothing is missing behind the first one that is there, and those that were there are
owned by the claim, or else the first one was there and the claim reported a failure
already. -/
theorem creation_complete_iff
    (starts : StartsLoop cluster fsc nodeName)
    {choices : Nat → Choice}
    (succeeds : ∀ event ∈
      (Program.run apiServer (ensureLocalDisks fsc).run choices cluster).log,
        Draws cluster nodeName event.request event.choice) :
    HasAllDisks (Program.run apiServer (ensureLocalDisks fsc).run choices cluster).state
        fsc (wantedNames cluster fsc nodeName) ↔
      Registry.gapless (isThere cluster fsc) [] (wantedNames cluster fsc nodeName) = true ∧
        (OwnsAll cluster fsc (wantedNames cluster fsc nodeName) ∨
          (∀ first ∈ (wantedNames cluster fsc nodeName).head?,
            isThere cluster fsc first = true) ∧
              ReportsReason .localDiskCreationFailed fsc.key cluster) := by
  have disks :=
    (Program.Ensures.sound (ensures_ensureLocalDisks_made starts) choices succeeds).2
  constructor
  · rintro ⟨there, owned⟩
    refine ⟨disks.there_iff.mp there, owned.imp disks.ownsAll_iff.mp fun reports => ?_⟩
    obtain ⟨none, reported⟩ := disks.reportsReason_iff.mp reports
    exact ⟨Registry.added_nil_iff.mp none, reported⟩
  · rintro ⟨gapless, owned⟩
    refine ⟨disks.there_iff.mpr gapless, owned.imp disks.ownsAll_iff.mpr ?_⟩
    rintro ⟨first, reported⟩
    exact disks.reportsReason_iff.mpr ⟨Registry.added_nil_iff.mpr first, reported⟩

end Creation

/-! ## Two disks -/

/-- A validated claim for two disks. -/
def twoDisksClaim : FileSystemClaim where
  metadata := readyClaim.metadata
  devices := ["/dev/sdb", "/dev/sdc"]
  conditions := [{
    type := .deviceValidated, status := .isTrue
    reason := .deviceValidationSucceeded }]

/-- The claim is stored, and some LocalDisks are there. -/
def twoDisksCluster (localDisks : List Unstructured) : Cluster :=
  { readyCluster with
    claims := [twoDisksClaim]
    localDisks := localDisks
    filesystems := []
    storageClasses := []
    discoveryResults := [⟨{ name := "discovery-result-node", ns := "operator" },
      [⟨"/dev/sdb", "uuid.1"⟩, ⟨"/dev/sdc", "uuid.2"⟩]⟩] }

theorem startsLoop_twoDisksCluster (localDisks : List Unstructured) :
    StartsLoop (twoDisksCluster localDisks) twoDisksClaim "node" where
  stored := rfl
  notCreated := by decide
  notAwaiting := by decide
  validated := by decide
  nodes := by
    have one : storageNodes (twoDisksCluster localDisks) = ["node"] := rfl
    simp [one]
  named := by
    rintro devicePath (_ | ⟨_, _ | ⟨_, ⟨⟩⟩⟩) <;> rfl

theorem draws_twoDisksCluster (localDisks : List Unstructured) :
    ∀ event ∈ (Program.run apiServer (ensureLocalDisks twoDisksClaim).run calm
        (twoDisksCluster localDisks)).log,
      Draws (twoDisksCluster localDisks) "node" event.request event.choice := by
  intro event member
  obtain ⟨index, chosen⟩ := Program.choice_of_mem_log member
  rw [chosen]
  exact ⟨rfl, fun _ _ => rfl⟩

/-- Both LocalDisks are created when none is there. -/
theorem creation_complete_iff_none :
    HasAllDisks (Program.run apiServer (ensureLocalDisks twoDisksClaim).run calm
        (twoDisksCluster [])).state twoDisksClaim
      (wantedNames (twoDisksCluster []) twoDisksClaim "node") :=
  (creation_complete_iff (startsLoop_twoDisksCluster [])
    (draws_twoDisksCluster [])).mpr
    ⟨by decide, Or.inl (by intro name _ ld stored; cases stored)⟩

/-- The LocalDisk of the second device is not created when that of the first one is
there. -/
theorem creation_incomplete :
    ¬ ∀ {cluster : Cluster} {fsc : FileSystemClaim} {nodeName : String},
      StartsLoop cluster fsc nodeName →
      ∀ choices : Nat → Choice,
        (∀ event ∈ (Program.run apiServer (ensureLocalDisks fsc).run choices cluster).log,
          Draws cluster nodeName event.request event.choice) →
        HasAllDisks (Program.run apiServer (ensureLocalDisks fsc).run choices cluster).state
          fsc (wantedNames cluster fsc nodeName) := by
  intro complete
  have all := complete (startsLoop_twoDisksCluster [readyLocalDisk]) calm
    (draws_twoDisksCluster _)
  have missing := all.there "uuid.2" (by decide)
  revert missing
  decide

end FusionAccess
