import FusionAccess.Controller.Helpers
import FusionAccess.Interaction.Interleaving

/-!
# The selection of storage nodes

The console marks a node as a storage node by a label. It sends all labels of the
node as it knows it, with this one set or deleted, in place of those that are
stored. Meanwhile others write labels of the node.
-/

namespace Console

open Kubernetes Interaction FusionAccess

/-! ## The row of a node -/

/-- What the checkbox of a row shows. -/
inductive RowStatus
  | selected
  | unselected
  | selectionPending
  deriving DecidableEq

/-- `hasLabel` of `STORAGE_ROLE_LABEL`. -/
def hasStorageRole (node : Node) : Bool :=
  node.labels.get? scaleStorageRoleLabel = some scaleStorageRoleValue

/-- The status of a row according to the labels of its node. -/
def statusOf (node : Node) : RowStatus :=
  if hasStorageRole node then .selected else .unselected

/-- `toggleNodeStorageRoleLabel`. -/
def toggleNodeStorageRoleLabel (node : Node) (shouldBeSelected : Bool) : StringMap :=
  if shouldBeSelected then node.labels.set scaleStorageRoleLabel scaleStorageRoleValue
  else Registry.remove Prod.fst scaleStorageRoleLabel node.labels

/-- The request of the row: a JSON Patch with the one operation `replace` of
`/metadata/labels`, without a test of what is replaced. -/
inductive NodeRequest
  | replaceLabels (name : String) (labels : StringMap)

/-- The interface of the console to the API server. -/
abbrev nodesApi : Interface where
  Call := NodeRequest
  Reply := fun _ => Except Failure Unit

/-- An alert that the console shows. -/
structure Alert where
  title : String
  description : String
  variant : String
  deriving DecidableEq

/-- A click on the checkbox: the node as the watch has delivered it last, what the
row shows, and the new state of the checkbox. -/
structure Click where
  node : Node
  status : RowStatus
  checked : Bool

/-- `handleNodeSelectionChange`: the status that the row shows in the end, and an
alert. -/
def handleNodeSelectionChange (click : Click) :
    Program nodesApi (RowStatus × Option Alert) :=
  if click.status = .selectionPending then pure (click.status, none)
  else do
    let reply ← Program.issue (I := nodesApi) (.replaceLabels click.node.name
      (toggleNodeStorageRoleLabel click.node click.checked))
    match reply with
    | .ok () => pure (if click.checked then .selected else .unselected, none)
    | .error failure => pure (statusOf click.node, some {
        title := "Failed to update node selection"
        description := failure.message
        variant := "danger" })

/-! ## The API server -/

/-- The nodes after the labels of one are replaced. There is nothing to replace on a
node without labels. -/
def replaceLabels (nodes : List Node) (name : String) (labels : StringMap) :
    List Node × Except Failure Unit :=
  match Registry.find? Node.name name nodes with
  | none => (nodes, .error (notFound "nodes" name))
  | some node =>
      if node.labels = [] then
        (nodes, .error (errorf "replace operation does not apply: doc is missing path"))
      else
        (Registry.amend Node.name name (fun stored => { stored with labels := labels })
          nodes, .ok ())

/-- The API server, as far as labels of nodes go. -/
abbrev nodesServer : Server nodesApi where
  State := List Node
  Choice := Fault
  serve := fun fault nodes request =>
    match request with
    | .replaceLabels name labels =>
        match fault with
        | .none => replaceLabels nodes name labels
        | .refused refusal message => (nodes, .error (refusal.failure message))
        | .lost message => ((replaceLabels nodes name labels).1, .error (errorf message))

/-! ## Labels that are kept -/

/-- The value of a label of a node. -/
def label? (nodes : List Node) (name key : String) : Option String :=
  (Registry.find? Node.name name nodes).bind fun node => node.labels.get? key

/-- Whatever others have written, only the label of the storage role changes. -/
def ChangesOnlyRole (event : Event nodesServer) : Prop :=
  ∀ name key, key ≠ scaleStorageRoleLabel →
    label? event.after name key = label? event.before name key

/-- If the patch is carried out, the console knows all labels that the node has at
this moment, apart from the storage role. -/
def KnowsLabels (occurrence : Occurrence nodesServer Click) : Prop :=
  (∀ refusal message, occurrence.event.choice ≠ .refused refusal message) →
    ∀ stored, Registry.find? Node.name occurrence.index.node.name
        occurrence.event.before = some stored →
      stored.labels ≠ [] → ∀ key, key ≠ scaleStorageRoleLabel →
        occurrence.index.node.labels.get? key = stored.labels.get? key

/-- The new labels are the known ones, apart from the storage role. -/
theorem get?_toggleNodeStorageRoleLabel
    (node : Node) (shouldBeSelected : Bool) {key : String}
    (other : key ≠ scaleStorageRoleLabel) :
    (toggleNodeStorageRoleLabel node shouldBeSelected).get? key =
      node.labels.get? key := by
  unfold toggleNodeStorageRoleLabel
  split
  · rw [StringMap.get?_set, if_neg other.symm]
  · rw [StringMap.get?, Registry.find?_remove_of_ne other, StringMap.get?]

/-- The storage role itself becomes what the user has chosen. -/
theorem hasStorageRole_toggleNodeStorageRoleLabel
    (node : Node) (shouldBeSelected : Bool) :
    hasStorageRole
      { node with labels := toggleNodeStorageRoleLabel node shouldBeSelected } =
        shouldBeSelected := by
  cases shouldBeSelected with
  | true =>
      simp [hasStorageRole, toggleNodeStorageRoleLabel, StringMap.get?_set]
  | false =>
      simp [hasStorageRole, toggleNodeStorageRoleLabel, StringMap.get?,
        Registry.find?_remove_self]

/-- Labels after a replacement that is carried out. -/
theorem label?_replaceLabels
    {nodes : List Node} {name : String} {stored : Node}
    (found : Registry.find? Node.name name nodes = some stored)
    (labelled : stored.labels ≠ [])
    (labels : StringMap) (other key : String) :
    label? (replaceLabels nodes name labels).1 other key =
      if other = name then labels.get? key else label? nodes other key := by
  have amended : (replaceLabels nodes name labels).1 =
      Registry.amend Node.name name (fun stored => { stored with labels := labels })
        nodes := by
    simp only [replaceLabels, found, if_neg labelled]
  rw [amended, label?]
  by_cases same : other = name
  · subst same
    rw [Registry.find?_amend_self, found, if_pos rfl]
    · rfl
    · exact fun _ named => named
  · rw [Registry.find?_amend_of_ne _ same, if_neg same, label?]
    exact fun _ named => named

/-- Clicks issue only the patch for their node. -/
theorem issues_handleNodeSelectionChange (click : Click) :
    (handleNodeSelectionChange click).Issues fun request : NodeRequest =>
      request = .replaceLabels click.node.name
        (toggleNodeStorageRoleLabel click.node click.checked) := by
  unfold handleNodeSelectionChange
  split
  · trivial
  · refine ⟨rfl, fun reply => ?_⟩
    rcases reply with failure | _ <;> trivial

/-- The patch of a click keeps the other labels if and only if the console knows
them. -/
theorem keepsLabels_iff (nodes : List Node) (click : Click) :
    (∀ name key, key ≠ scaleStorageRoleLabel →
        label? (replaceLabels nodes click.node.name
          (toggleNodeStorageRoleLabel click.node click.checked)).1 name key =
            label? nodes name key) ↔
      ∀ stored, Registry.find? Node.name click.node.name nodes = some stored →
        stored.labels ≠ [] → ∀ key, key ≠ scaleStorageRoleLabel →
          click.node.labels.get? key = stored.labels.get? key := by
  cases found : Registry.find? Node.name click.node.name nodes with
  | none => simp [replaceLabels, found]
  | some stored =>
      by_cases labelled : stored.labels = []
      · simp [replaceLabels, found, labelled]
      have known : ∀ key, label? nodes click.node.name key = stored.labels.get? key := by
        intro key
        rw [label?, found, Option.bind_some]
      constructor
      · rintro kept other ⟨⟩ _ key different
        have same := kept click.node.name key different
        rwa [label?_replaceLabels found labelled, if_pos rfl, known,
          get?_toggleNodeStorageRoleLabel _ _ different] at same
      · intro knows name key different
        rw [label?_replaceLabels found labelled]
        by_cases same : name = click.node.name
        · rw [if_pos same, same, known, get?_toggleNodeStorageRoleLabel _ _ different]
          exact knows stored rfl labelled key different
        · rw [if_neg same]

/-- However clicks in any sessions and writes by others are interleaved, a patch
changes only the storage role if and only if the console knows the other labels when
the patch is carried out. -/
theorem toggle_changes_only_role
    (initial : List Node) (turns : List (Turn nodesServer Click)) :
    ∀ occurrence ∈ (interleave handleNodeSelectionChange initial turns).log,
      ChangesOnlyRole occurrence.event ↔ KnowsLabels occurrence := by
  rintro ⟨click, nodes, request, fault⟩ member
  have patch := (bounded_interleave issues_handleNodeSelectionChange initial turns).log
    _ member
  dsimp only at patch
  subst patch
  cases fault with
  | none =>
      refine (keepsLabels_iff nodes click).trans ⟨fun knows _ => knows, fun knows => ?_⟩
      exact knows fun _ _ => by simp
  | refused refusal message =>
      exact ⟨fun _ carriedOut => absurd rfl (carriedOut refusal message),
        fun _ _ _ _ => rfl⟩
  | lost message =>
      refine (keepsLabels_iff nodes click).trans ⟨fun knows _ => knows, fun knows => ?_⟩
      exact knows fun _ _ => by simp

/-! ## A label that is lost -/

/-- A worker node. -/
def workerNode : Node := ⟨"node", [(workerNodeRoleLabel, "")]⟩

/-- A user selects the node, and the patch is carried out. -/
def undisturbedSelection : List (Turn nodesServer Click) :=
  [.launch ⟨workerNode, .unselected, true⟩, .step 0 .none]

/-- The patch leaves all other labels alone. -/
theorem toggle_changes_only_role_undisturbed :
    ∃ occurrence ∈
        (interleave handleNodeSelectionChange [workerNode] undisturbedSelection).log,
      ChangesOnlyRole occurrence.event := by
  refine ⟨_, List.mem_singleton_self _, (toggle_changes_only_role [workerNode]
    undisturbedSelection _ (List.mem_singleton_self _)).mpr ?_⟩
  rintro _ stored ⟨⟩ _ key _
  rfl

/-- The node after the kubelet has written another label. -/
def zonedNode : Node :=
  ⟨"node", [(workerNodeRoleLabel, ""), ("topology.kubernetes.io/zone", "a")]⟩

/-- A user selects the node. Before the patch is carried out, the zone is written. -/
def selection : List (Turn nodesServer Click) :=
  [.launch ⟨workerNode, .unselected, true⟩, .move fun _ => [zonedNode], .step 0 .none]

/-- The patch deletes the zone. -/
theorem label_lost :
    ∃ occurrence ∈ (interleave handleNodeSelectionChange [workerNode] selection).log,
      label? occurrence.event.before "node" "topology.kubernetes.io/zone" = some "a" ∧
        label? occurrence.event.after "node" "topology.kubernetes.io/zone" = none ∧
          ¬ChangesOnlyRole occurrence.event := by
  refine ⟨_, List.mem_singleton_self _, by decide, by decide, fun keeps => ?_⟩
  have kept := keeps "node" "topology.kubernetes.io/zone" (by decide)
  revert kept
  decide

end Console
