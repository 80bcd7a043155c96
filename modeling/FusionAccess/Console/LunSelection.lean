import FusionAccess.Console.Luns

/-!
# The selection of LUNs

A form lists the LUNs and keeps which of them are selected. When discovery results
or LocalDisks change, the list is made anew, and the selection is carried over by
WWN. The user selects a LUN of a list as it was shown; what is then looked up in the
current list is its path.
-/

namespace Console

open Kubernetes Discovery

/-! ## The state of the form -/

/-- What happens to the list of LUNs. -/
inductive LunEvent
  | refresh (lvdrs : List DiscoveryResult) (localDisks : List Unstructured)
  | setSelected (lun : Lun) (isSelected : Bool)
  | setAllSelected (isSelecting : Bool)

/-- The new LUNs, with the selection of the current ones. -/
def refreshLuns (newLuns currentLuns : List Lun) : List Lun :=
  let currentlySelectedLunsWwns := (currentLuns.filter Lun.isSelected).map Lun.wwn
  newLuns.map fun lun => { lun with
    isSelected := decide (lun.wwn ∈ currentlySelectedLunsWwns) }

/-- `setSelected`: the first LUN with the path is set. -/
def setSelected (lun : Lun) (isSelected : Bool) : List Lun → List Lun
  | [] => []
  | head :: tail =>
      if head.path = lun.path then { head with isSelected } :: tail
      else head :: setSelected lun isSelected tail

/-- `setAllSelected`. -/
def setAllSelected (isSelecting : Bool) (current : List Lun) : List Lun :=
  current.map fun lun => { lun with isSelected := isSelecting }

/-- `isSelected`. -/
def isSelected (luns : List Lun) (lun : Lun) : Bool :=
  ((luns.find? fun listed => listed.path = lun.path).map Lun.isSelected).getD false

/-- The list after an event. -/
def LunEvent.apply (gib : Int → String) : LunEvent → List Lun → List Lun
  | .refresh lvdrs localDisks, current =>
      refreshLuns (makeLuns gib lvdrs localDisks) current
  | .setSelected lun isSelected, current => Console.setSelected lun isSelected current
  | .setAllSelected isSelecting, current => Console.setAllSelected isSelecting current

/-! ## Runs -/

/-- An event and the list that it happens to. -/
structure LunStep where
  before : List Lun
  event : LunEvent

/-- The LUN of a call of `setSelected` has been shown. -/
def LunEvent.Shown (history : List LunStep) (current : List Lun) : LunEvent → Prop
  | .setSelected lun _ => lun ∈ current ∨ ∃ step ∈ history, lun ∈ step.before
  | _ => True

/-- The steps of a form, the latest first, and the list they lead to. -/
inductive LunRun (gib : Int → String) : List LunStep → List Lun → Prop
  | start : LunRun gib [] []
  | step {history : List LunStep} {current : List Lun}
      (before : LunRun gib history current)
      (event : LunEvent)
      (shown : event.Shown history current) :
      LunRun gib (⟨current, event⟩ :: history) (event.apply gib current)

/-- What the user has last chosen for a disk since it was newly listed. -/
def lastChoice (wwn : String) : List LunStep → Bool
  | [] => false
  | ⟨before, .refresh _ _⟩ :: earlier =>
      if wwn ∈ before.map Lun.wwn then lastChoice wwn earlier else false
  | ⟨_, .setSelected lun isSelected⟩ :: earlier =>
      if lun.wwn = wwn then isSelected else lastChoice wwn earlier
  | ⟨_, .setAllSelected isSelecting⟩ :: _ => isSelecting

/-- The listed LUNs are selected as the user has chosen for their disks. -/
def SelectionFollowsDisk (history : List LunStep) (luns : List Lun) : Prop :=
  ∀ lun ∈ luns, lun.isSelected = lastChoice lun.wwn history ∧
    isSelected luns lun = lastChoice lun.wwn history

/-- A refresh does not list two disks under one path, and in a call of `setSelected`
path and WWN of the LUN belong to the same listed LUN, if to any. -/
def LunStep.Unambiguous (gib : Int → String) : LunStep → Prop
  | ⟨_, .refresh lvdrs localDisks⟩ => ((makeLuns gib lvdrs localDisks).map Lun.path).Nodup
  | ⟨before, .setSelected lun _⟩ =>
      ∀ listed ∈ before, listed.path = lun.path ↔ listed.wwn = lun.wwn
  | ⟨_, .setAllSelected _⟩ => True

/-! ## Single events -/

section Events

variable {gib : Int → String} {history : List LunStep} {current : List Lun}

theorem map_path_apply_refresh (lvdrs : List DiscoveryResult) (localDisks : List Unstructured) :
    ((LunEvent.refresh lvdrs localDisks).apply gib current).map Lun.path =
      (makeLuns gib lvdrs localDisks).map Lun.path := by
  rw [LunEvent.apply, refreshLuns, List.map_map]
  rfl

theorem map_path_setSelected (lun : Lun) (isSelected : Bool) :
    (setSelected lun isSelected current).map Lun.path = current.map Lun.path := by
  induction current with
  | nil => rfl
  | cons head tail inductionHypothesis =>
      rw [setSelected]
      split
      · rfl
      · rw [List.map_cons, List.map_cons, inductionHypothesis]

theorem map_path_setAllSelected (isSelecting : Bool) :
    (setAllSelected isSelecting current).map Lun.path = current.map Lun.path := by
  rw [setAllSelected, List.map_map]
  rfl

/-- A refresh carries the choice for a disk over, if it has been listed. -/
theorem isSelected_refresh
    (carried : ∀ lun ∈ current, lun.isSelected = lastChoice lun.wwn history)
    {lvdrs : List DiscoveryResult} {localDisks : List Unstructured} (wwn : String) :
    decide (wwn ∈ (current.filter Lun.isSelected).map Lun.wwn) =
      lastChoice wwn (⟨current, .refresh lvdrs localDisks⟩ :: history) := by
  rw [lastChoice]
  by_cases listed : wwn ∈ current.map Lun.wwn
  · rw [if_pos listed]
    obtain ⟨lun, member, rfl⟩ := List.mem_map.mp listed
    cases choice : lastChoice lun.wwn history with
    | true =>
        have selected : lun ∈ current.filter Lun.isSelected :=
          List.mem_filter.mpr ⟨member, (carried lun member).trans choice⟩
        exact decide_eq_true (List.mem_map_of_mem selected)
    | false =>
        apply decide_eq_false
        intro selected
        obtain ⟨other, kept, disk⟩ := List.mem_map.mp selected
        obtain ⟨otherMember, isSelected⟩ := List.mem_filter.mp kept
        rw [carried other otherMember, disk, choice] at isSelected
        cases isSelected
  · rw [if_neg listed]
    apply decide_eq_false
    intro selected
    obtain ⟨other, kept, disk⟩ := List.mem_map.mp selected
    exact listed (List.mem_map.mpr ⟨other, List.mem_of_mem_filter kept, disk⟩)

/-- With distinct paths the LUN with the path is set. -/
theorem setSelected_eq_amend
    (distinct : (current.map Lun.path).Nodup) (lun : Lun) (isSelected : Bool) :
    setSelected lun isSelected current =
      Registry.amend Lun.path lun.path (fun listed => { listed with isSelected })
        current := by
  induction current with
  | nil => rfl
  | cons head tail inductionHypothesis =>
      rw [List.map_cons, List.nodup_cons] at distinct
      rw [setSelected, Registry.amend_cons]
      split
      next same =>
        have others : Registry.amend Lun.path lun.path
            (fun listed => { listed with isSelected }) tail = tail := by
          unfold Registry.amend
          rw [List.map_congr_left, List.map_id]
          intro other listed
          have different : other.path ≠ lun.path := by
            intro again
            rw [same, ← again] at distinct
            exact distinct.1 (List.mem_map_of_mem listed)
          rw [if_neg different]
          rfl
        rw [others]
      · rw [inductionHypothesis distinct.2]

/-- With distinct paths a listed LUN is found by its path. -/
theorem isSelected_of_mem
    (distinct : (current.map Lun.path).Nodup) {lun : Lun} (listed : lun ∈ current) :
    isSelected current lun = lun.isSelected := by
  have found := Registry.find?_eq_some_of_mem distinct listed
  unfold Registry.find? at found
  rw [isSelected, found]
  rfl

end Events

/-! ## Whole runs -/

/-- The paths of a list are distinct. -/
theorem nodup_path_of_run
    {gib : Int → String} {history : List LunStep} {luns : List Lun}
    (run : LunRun gib history luns)
    (unambiguous : ∀ step ∈ history, step.Unambiguous gib) :
    (luns.map Lun.path).Nodup := by
  induction run with
  | start => exact List.nodup_nil
  | step before event shown inductionHypothesis =>
      rw [List.forall_mem_cons] at unambiguous
      have earlier := inductionHypothesis unambiguous.2
      cases event with
      | refresh lvdrs localDisks =>
          rw [map_path_apply_refresh]
          exact unambiguous.1
      | setSelected lun isSelected =>
          rw [LunEvent.apply, map_path_setSelected]
          exact earlier
      | setAllSelected isSelecting =>
          rw [LunEvent.apply, map_path_setAllSelected]
          exact earlier

/-- Each listed LUN carries the last choice for its disk. -/
theorem isSelected_eq_lastChoice
    {gib : Int → String} {history : List LunStep} {luns : List Lun}
    (run : LunRun gib history luns)
    (unambiguous : ∀ step ∈ history, step.Unambiguous gib) :
    ∀ lun ∈ luns, lun.isSelected = lastChoice lun.wwn history := by
  induction run with
  | start =>
      intro lun listed
      cases listed
  | @step history current before event shown inductionHypothesis =>
      rw [List.forall_mem_cons] at unambiguous
      have carried := inductionHypothesis unambiguous.2
      have distinct := nodup_path_of_run before unambiguous.2
      intro lun listed
      cases event with
      | refresh lvdrs localDisks =>
          obtain ⟨newLun, -, rfl⟩ := List.mem_map.mp listed
          exact isSelected_refresh carried newLun.wwn
      | setSelected chosen isSelected =>
          rw [LunEvent.apply, setSelected_eq_amend distinct, Registry.mem_amend] at listed
          rw [lastChoice]
          obtain ⟨kept, other⟩ | ⟨original, kept, same, rfl⟩ := listed
          · have different : chosen.wwn ≠ lun.wwn := by
              intro disk
              exact other ((unambiguous.1 lun kept).mpr disk.symm)
            rw [if_neg different]
            exact carried lun kept
          · have disk : original.wwn = chosen.wwn :=
              (unambiguous.1 original kept).mp same
            rw [if_pos disk.symm]
      | setAllSelected isSelecting =>
          obtain ⟨kept, -, rfl⟩ := List.mem_map.mp listed
          rfl

/-- In every run in which paths and WWNs belong together at each step, a listed LUN
is selected just if the last choice since its disk was newly listed selected it. -/
theorem selection_follows_disk
    {gib : Int → String} {history : List LunStep} {luns : List Lun}
    (run : LunRun gib history luns)
    (unambiguous : ∀ step ∈ history, step.Unambiguous gib) :
    SelectionFollowsDisk history luns := by
  intro lun listed
  have carried := isSelected_eq_lastChoice run unambiguous lun listed
  refine ⟨carried, ?_⟩
  rw [isSelected_of_mem (nodup_path_of_run run unambiguous) listed]
  exact carried

/-! ## A path that changes hands -/

/-- A discovery result with the given disks. -/
def resultWith (disks : List (String × String)) : DiscoveryResult where
  metadata := { name := "discovery-result-worker-0", ns := fusionAccessNamespace }
  nodeName := "worker-0"
  discoveredDevices := disks.map fun disk => { path := disk.1, wwn := disk.2 }

/-- The size of a disk that is not known. -/
def noSize (_ : Int) : String := "0.00"

/-- The LUN of a disk. -/
def lunOf (path wwn : String) (isSelected : Bool) : Lun :=
  ⟨isSelected, "worker-0", path, wwn, "0.00 GiB"⟩

/-- Groups of devices whose WWNs have letters keep their order. -/
theorem representatives_of_letters
    {lvdrs : List DiscoveryResult}
    (letters : ∀ dd ∈ makeDiscoveredDevicesWithNodeName lvdrs,
      dd.wwn.toList.any (fun character => !character.isDigit) = true) :
    getSharedDiscoveredDevicesRepresentatives lvdrs =
      ((Registry.groupBy DeviceOnNode.wwn (makeDiscoveredDevicesWithNodeName lvdrs)).filter
        fun group => group.2.length = lvdrs.length).filterMap fun group => group.2.head? := by
  rw [getSharedDiscoveredDevicesRepresentatives, objectEntries_of_no_index]
  intro group member
  obtain ⟨some, same⟩ := Registry.mem_groupBy.mp member
  obtain ⟨dd, grouped⟩ := List.exists_mem_of_ne_nil _ some
  rw [same, List.mem_filter, decide_eq_true_eq] at grouped
  rw [← grouped.2]
  obtain ⟨character, listed, isLetter⟩ := List.any_eq_true.mp (letters dd grouped.1)
  exact arrayIndex?_of_letter ⟨character, listed, by simpa using isLetter⟩

theorem makeLuns_first :
    makeLuns noSize [resultWith [("/dev/sdb", "uuid.1")]] [] =
      [lunOf "/dev/sdb" "uuid.1" false] := by
  rw [makeLuns, representatives_of_letters (by decide)]
  rfl

theorem makeLuns_second :
    makeLuns noSize [resultWith [("/dev/sdb", "uuid.2"), ("/dev/sdc", "uuid.1")]] [] =
      [lunOf "/dev/sdb" "uuid.2" false, lunOf "/dev/sdc" "uuid.1" false] := by
  rw [makeLuns, representatives_of_letters (by decide)]
  rfl

/-- The steps of a form with one disk. -/
def oneDisk : List LunStep := [⟨[], .refresh [resultWith [("/dev/sdb", "uuid.1")]] []⟩]

theorem run_oneDisk : LunRun noSize oneDisk [lunOf "/dev/sdb" "uuid.1" false] := by
  have run := (LunRun.start : LunRun noSize [] []).step
    (.refresh [resultWith [("/dev/sdb", "uuid.1")]] []) trivial
  rw [LunEvent.apply, makeLuns_first] at run
  exact run

/-- The user selects the disk, and then its path is given to a new one. -/
def moved : List LunStep :=
  [⟨[lunOf "/dev/sdb" "uuid.1" true],
    .refresh [resultWith [("/dev/sdb", "uuid.2"), ("/dev/sdc", "uuid.1")]] []⟩,
    ⟨[lunOf "/dev/sdb" "uuid.1" false],
      .setSelected (lunOf "/dev/sdb" "uuid.1" false) true⟩] ++ oneDisk

theorem run_moved :
    LunRun noSize moved [lunOf "/dev/sdb" "uuid.2" false, lunOf "/dev/sdc" "uuid.1" true] := by
  have chosen := run_oneDisk.step (.setSelected (lunOf "/dev/sdb" "uuid.1" false) true)
    (Or.inl List.mem_cons_self)
  have run := chosen.step (.refresh
    [resultWith [("/dev/sdb", "uuid.2"), ("/dev/sdc", "uuid.1")]] []) trivial
  rw [LunEvent.apply, makeLuns_second] at run
  exact run

/-- The selection goes with the disk to its new path. -/
theorem selection_follows_disk_moved :
    SelectionFollowsDisk moved
      [lunOf "/dev/sdb" "uuid.2" false, lunOf "/dev/sdc" "uuid.1" true] := by
  apply selection_follows_disk run_moved
  intro step member
  rcases member with _ | ⟨_, _ | ⟨_, _ | ⟨_, none⟩⟩⟩
  · rw [LunStep.Unambiguous, makeLuns_second]
    decide
  · rw [LunStep.Unambiguous]
    decide
  · rw [LunStep.Unambiguous, makeLuns_first]
    decide
  · cases none

/-- The path of the disk is given to another one. -/
def reassigned : List LunStep :=
  ⟨[lunOf "/dev/sdb" "uuid.1" false],
    .refresh [resultWith [("/dev/sdb", "uuid.2"), ("/dev/sdc", "uuid.1")]] []⟩ :: oneDisk

theorem run_reassigned :
    LunRun noSize reassigned
      [lunOf "/dev/sdb" "uuid.2" false, lunOf "/dev/sdc" "uuid.1" false] := by
  have run := run_oneDisk.step (.refresh
    [resultWith [("/dev/sdb", "uuid.2"), ("/dev/sdc", "uuid.1")]] []) trivial
  rw [LunEvent.apply, makeLuns_second] at run
  exact run

/-- The user selects the disk as it was shown before, and the other one is
selected. -/
theorem other_disk_selected :
    ∃ history luns, LunRun noSize history luns ∧ ¬ SelectionFollowsDisk history luns := by
  have shown : (LunEvent.setSelected (lunOf "/dev/sdb" "uuid.1" false) true).Shown
      reassigned [lunOf "/dev/sdb" "uuid.2" false, lunOf "/dev/sdc" "uuid.1" false] :=
    Or.inr ⟨_, List.mem_cons_self, List.mem_cons_self⟩
  refine ⟨_, _, run_reassigned.step _ shown, ?_⟩
  intro follows
  have chosen := (follows (lunOf "/dev/sdb" "uuid.2" true) List.mem_cons_self).1
  revert chosen
  decide

end Console
