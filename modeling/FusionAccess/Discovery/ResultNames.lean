import FusionAccess.Controller.DeviceValidation
import FusionAccess.Controller.Passes
import FusionAccess.Discovery.Publication
import FusionAccess.Kubernetes.Names

/-!
# The names of discovery results

A daemon creates the result of its node and writes its status; the controller looks the
result up. Both derive the name from the name of the node, and only the daemon replaces
a long one by its hash.
-/

namespace Discovery

open FusionAccess Kubernetes Interaction Fallible

/-- The call asks the API server for no discovery result but those of the given names. -/
def LooksUp (names : String → Prop) : Call → Prop
  | .getDiscoveryResult key => names key.name
  | _ => True

/-- The same for a call of the daemon, which may also write them. -/
def Addresses (names : String → Prop) : Request → Prop
  | .getDiscoveryResult key => names key.name
  | .createDiscoveryResult result => names result.metadata.name
  | .updateDiscoveryResultStatus result => names result.metadata.name
  | _ => True

/-- The name under which the daemon creates the result of its node. -/
def createdName (env : Environment) : String :=
  (newDiscoveryResultInstance env).metadata.name

/-- Controller and daemon use one name for the result of the daemon's node, and the API
server takes it. -/
structure NamesAgree (env : Environment) : Prop where
  validateDevices : ∀ (cluster : Cluster) (fsc : FileSystemClaim) choices,
    (∀ nodeName ∈ storageNodes cluster, nodeName = env.myNodeName) →
      ∀ event ∈ ((FusionAccess.validateDevices fsc).run.run apiServer choices cluster).log,
        LooksUp (· = createdName env) event.request
  getDeviceWWN : ∀ (cluster : Cluster) (devicePath : String) choices,
    ∀ event ∈ ((FusionAccess.getDeviceWWN devicePath env.myNodeName).run.run apiServer
      choices cluster).log, LooksUp (· = createdName env) event.request
  updateStatus : ∀ (store : Store) (discovery : DeviceDiscovery) choices,
    ∀ event ∈ ((Discovery.updateStatus env discovery).run.run nodeServer choices store).log,
      Addresses (· = createdName env) event.request
  short : (createdName env).length ≤ 253

/-! ## The controller -/

section Controller

variable {names : String → Prop}

theorem safe_getDeploymentNamespace_lookingUp :
    Safe (onlyCalls (LooksUp names)) (fun _ => True) getDeploymentNamespace := by
  unfold getDeploymentNamespace
  refine (safe_call trivial).andThen ?_
  rintro (_ | ns) _
  · exact safe_throw _
  · exact safe_pure ns

theorem safe_getDiscoveryResult_lookingUp
    {key : NamespacedName} (named : names key.name) :
    Safe (onlyCalls (LooksUp names)) (fun _ => True) (request (.getDiscoveryResult key)) :=
  (@safe_call (LooksUp names) (.getDiscoveryResult key) named).safe

/-- `getDeviceWWN` looks up the result of its node. -/
theorem safe_getDeviceWWN_lookingUp
    {nodeName : String} (named : names (discoveryResultName nodeName)) (devicePath : String) :
    Safe (onlyCalls (LooksUp names)) (fun _ => True) (getDeviceWWN devicePath nodeName) := by
  unfold getDeviceWWN
  refine (SafeThen.mapError safe_getDeploymentNamespace_lookingUp
    fun _ _ => trivial).andThen fun operatorNamespace _ => ?_
  refine (SafeThen.mapError (safe_getDiscoveryResult_lookingUp named)
    fun _ _ => trivial).andThen fun lvdr _ => ?_
  split
  · exact safe_pure _
  · exact safe_throw _

/-- `validateDevices` looks up the results of the storage nodes. -/
theorem safe_collectDiscoveryResults_lookingUp
    {nodes : List Node}
    (named : ∀ node ∈ nodes, isStorageNode node = true →
      names (discoveryResultName node.name)) :
    Safe (onlyCalls (LooksUp names)) (fun _ => True) (collectDiscoveryResults nodes) := by
  induction nodes with
  | nil => exact safe_pure []
  | cons node nodes inductionHypothesis =>
      rw [List.forall_mem_cons] at named
      rw [collectDiscoveryResults]
      refine safeThen_ite (fun storage => ?_) fun _ => inductionHypothesis named.2
      refine (SafeThen.mapError safe_getDeploymentNamespace_lookingUp
        fun _ _ => trivial).andThen fun operatorNamespace _ => ?_
      refine (SafeThen.mapError (safe_getDiscoveryResult_lookingUp (named.1 storage))
        fun _ _ => trivial).andThen fun lvdr _ => ?_
      exact (inductionHypothesis named.2).andThen fun lvdrs _ => safe_pure _

theorem ensures_validateDevices_lookingUp
    {cluster : Cluster}
    (named : ∀ nodeName ∈ storageNodes cluster, names (discoveryResultName nodeName))
    (fsc : FileSystemClaim) :
    Ensures (onlyCalls (LooksUp names)) (validateDevices fsc) (fun _ _ => True) cluster := by
  have stored : ∀ node ∈ cluster.nodes, isStorageNode node = true →
      names (discoveryResultName node.name) := fun node member storage =>
    named node.name (List.mem_map_of_mem (List.mem_filter.mpr ⟨member, storage⟩))
  unfold validateDevices
  rw [ensures_bind, ensures_mapError]
  refine ensures_query trivial rfl (fun pick => ?_) fun _ _ _ => trivial
  simp only [Cluster.answer, Except.mapError, onSuccess_ok]
  rw [ensures_bind]
  refine (safe_collectDiscoveryResults_lookingUp stored cluster trivial).mono ?_
  rintro (failure | lvdrs) final _
  · trivial
  · rw [onSuccess_ok, ensures_ite]
    refine ⟨fun _ => trivial, fun _ => ?_⟩
    split <;> trivial

end Controller

/-! ## The daemon -/

section Daemon

variable {env : Environment} {names : String → Prop}

/-- `updateStatus` reads and writes the result under the key of the daemon's node. -/
theorem ensures_updateStatus_addressing
    (named : names env.resultKey.name) (discovery : DeviceDiscovery) (store : Store) :
    Ensures (Contract.demand fun _ request => Addresses names request : Contract nodeServer)
      (updateStatus env discovery) (fun _ _ => True) store := by
  unfold updateStatus
  rw [ensures_bind, ensures_attempt]
  refine ensures_ask_guarded named (fun lsblk => ?_) fun failure final _ _ => ?_
  · cases found : store.result? env.resultKey with
    | none =>
        simp only [Store.answer, found, onSuccess_ok, ensures_ite]
        exact ⟨fun _ => trivial, fun _ => trivial⟩
    | some resultCR =>
        have key : resultCR.key = env.resultKey := (Registry.find?_eq_some found).2
        have written : names (withDevices discovery store.clock resultCR).key.name := by
          rw [key_withDevices, key]
          exact named
        simp only [Store.answer, found, onSuccess_ok, ensures_bind]
        refine ensures_ask_guarded trivial (fun lsblk => ?_) fun _ _ _ _ => trivial
        simp only [Store.answer, onSuccess_ok, ensures_mapError]
        exact ensures_ask_guarded written (fun _ => trivial) fun _ _ _ _ => trivial
  · simp only [onSuccess_ok, ensures_ite]
    exact ⟨fun _ => trivial, fun _ => trivial⟩

theorem createdName_eq (env : Environment) :
    createdName env = truncateNodeName env.hash resultCRName env.myNodeName := rfl

/-- A name that is not too long is kept. -/
theorem createdName_of_short
    (short : env.myNodeName.utf8ByteSize ≤ 236) :
    createdName env = discoveryResultName env.myNodeName := by
  rw [createdName_eq, truncateNodeName, if_neg]
  · rfl
  · have size : (resultCRName "").utf8ByteSize = 17 := by decide
    rw [size, dns1123SubdomainMaxLength]
    omega

/-- A long name is replaced by its hash. -/
theorem createdName_of_long
    (long : 236 < env.myNodeName.utf8ByteSize) :
    createdName env = discoveryResultName (env.hash env.myNodeName) := by
  rw [createdName_eq, truncateNodeName, if_pos]
  · rfl
  · have size : (resultCRName "").utf8ByteSize = 17 := by decide
    rw [size, dns1123SubdomainMaxLength]
    omega

theorem discoveryResultName_eq (nodeName : String) :
    discoveryResultName nodeName = "discovery-result-" ++ nodeName := by
  -- the equation of the definition, which `simp` would prove first, takes seconds
  delta discoveryResultName
  simp only [ToString.toString]

theorem length_discoveryResultName (nodeName : String) :
    (discoveryResultName nodeName).length = 17 + nodeName.length := by
  have prefixed : "discovery-result-".length = 17 := by decide
  rw [discoveryResultName_eq, String.length_append, prefixed]

/-- Where the name is kept, everyone uses it. -/
theorem namesAgree_of_kept
    (kept : createdName env = discoveryResultName env.myNodeName)
    (short : (createdName env).length ≤ 253) :
    NamesAgree env where
  validateDevices := by
    intro cluster fsc choices nodes
    have named : ∀ nodeName ∈ storageNodes cluster,
        discoveryResultName nodeName = createdName env := fun nodeName member => by
      rw [nodes nodeName member, kept]
    have ensures := @ensures_validateDevices_lookingUp (· = createdName env) cluster named fsc
    exact (Program.Ensures.sound ensures choices fun _ _ => trivial).1
  getDeviceWWN := by
    intro cluster devicePath choices
    have safe := @safe_getDeviceWWN_lookingUp (· = createdName env) env.myNodeName
      kept.symm devicePath
    exact (Program.Ensures.sound (safe cluster trivial) choices fun _ _ => trivial).1
  updateStatus := by
    intro store discovery choices
    have ensures := @ensures_updateStatus_addressing env (· = createdName env) rfl
      discovery store
    exact (Program.Ensures.sound ensures choices fun _ _ => trivial).1
  short := short

/-- A cluster that tells the controller its namespace. -/
def deployedCluster : Cluster where
  deploymentNamespace := some "operator"

/-- In it `getDeviceWWN` gets as far as the result of its node. -/
theorem looksUp_of_getDeviceWWN
    {names : String → Prop} {nodeName devicePath : String}
    (looksUp : ∀ event ∈ ((getDeviceWWN devicePath nodeName).run.run apiServer calm
      deployedCluster).log, LooksUp names event.request) :
    names (discoveryResultName nodeName) :=
  looksUp ⟨deployedCluster, .getDiscoveryResult ⟨"operator", discoveryResultName nodeName⟩, {}⟩
    (.tail _ (.head _))

/-- Where the name is hashed, the controller does not. -/
theorem not_namesAgree_of_long
    (long : 236 < env.myNodeName.utf8ByteSize)
    (different : (env.hash env.myNodeName).length ≠ env.myNodeName.length) :
    ¬NamesAgree env := by
  intro agree
  have looked : discoveryResultName env.myNodeName = createdName env :=
    looksUp_of_getDeviceWWN (agree.getDeviceWWN deployedCluster "" calm)
  have lengths := congrArg String.length (looked.trans (createdName_of_long long))
  rw [length_discoveryResultName, length_discoveryResultName] at lengths
  omega

end Daemon

/-- For nodes with valid names, and a hash of 32 characters, controller and daemon agree if
and only if the name of the node has at most 236 characters. -/
theorem result_names_agree_iff
    (env : Environment)
    (valid : IsSubdomain env.myNodeName)
    (hashed : ∀ text, (env.hash text).length = 32) :
    NamesAgree env ↔ env.myNodeName.length ≤ 236 := by
  have size := valid.utf8ByteSize_eq
  constructor
  · intro agree
    by_contra long
    refine not_namesAgree_of_long (by omega) ?_ agree
    rw [hashed]
    omega
  · intro short
    have kept := @createdName_of_short env (by omega)
    refine namesAgree_of_kept kept ?_
    rw [kept, length_discoveryResultName]
    omega

/-- A hash with one value, the one for `worker-0`. -/
def workerHash (_ : String) : String := "fc8e34e0d6c82339890b8c17cec81a65"

theorem length_workerHash (text : String) : (workerHash text).length = 32 := by
  unfold workerHash
  decide

/-- A node with a short name. -/
theorem result_names_agree_worker :
    NamesAgree { myNodeName := "worker-0", hash := workerHash } :=
  (result_names_agree_iff { myNodeName := "worker-0", hash := workerHash }
    (by decide) length_workerHash).mpr (by decide)

/-- A long name is valid. -/
theorem isSubdomain_replicate
    {count : Nat} (some : 0 < count) (short : count ≤ 253) :
    IsSubdomain (String.ofList (List.replicate count 'a')) := by
  have characters : ∀ char ∈ List.replicate count 'a', char = 'a' := fun char member =>
    List.eq_of_mem_replicate member
  refine ⟨by simpa using short, ?_⟩
  rw [String.toList_ofList, labels_iff, isChain_delimited]
  refine ⟨fun char member => ?_, ?_, fun char isFirst => ?_, fun char isLast => ?_,
    isChain_of_no_dots fun char member => ?_⟩
  · rw [characters char member]
    decide
  · exact List.ne_nil_of_length_pos (by simpa using some)
  · rw [characters char (List.mem_of_mem_head? isFirst)]
    decide
  · rw [characters char (List.mem_of_mem_getLast? isLast)]
    decide
  · rw [characters char member]
    decide

/-- From 237 characters on the controller looks for a result that does not exist. -/
theorem result_names_differ :
    ¬ ∀ env : Environment, IsSubdomain env.myNodeName →
      (∀ text, (env.hash text).length = 32) → NamesAgree env := by
  intro agree
  have size : (String.ofList (List.replicate 237 'a')).length = 237 := by
    rw [String.length_ofList, List.length_replicate]
  have valid := @isSubdomain_replicate 237 (by decide) (by decide)
  refine not_namesAgree_of_long ?_ ?_ (agree
    { myNodeName := String.ofList (List.replicate 237 'a'), hash := workerHash }
      valid length_workerHash)
  · rw [valid.utf8ByteSize_eq, size]
    decide
  · rw [size]
    decide

end Discovery
