import FusionAccess.Controller.Safety

/-!
# Passes of the controller

How a contract of the handlers becomes a property of whole passes, and passes
of any claims in any order become runs.
-/

namespace FusionAccess

open Kubernetes Interaction Fallible

/-- The passes of the controller, one program per requested claim. -/
def reconciler (r : FileSystemClaimReconciler) :
    NamespacedName → Program kubernetes (Except Failure Result) :=
  fun key => (reconcile r key).run

/-- The calls of a pass and what it left behind. -/
abbrev passLog
    (r : FileSystemClaimReconciler) (pass : Pass apiServer NamespacedName) :
    List (Event apiServer) :=
  (pass.outcome (reconciler r)).log

/-- The choices of an environment that lets nothing go wrong. -/
def calm : Nat → Choice := fun _ => {}

variable {C : Contract apiServer} {r : FileSystemClaimReconciler}

/-- A pass reads the claim and goes on with the version it read. -/
theorem ensures_reconcile
    {key : NamespacedName}
    {post : Except Failure Result → Cluster → Prop}
    {cluster : Cluster}
    (admits : AdmitsReads C)
    (missing : cluster.claim? key = none → post (.ok {}) cluster)
    (found : ∀ fsc, cluster.claim? key = some fsc →
      Fallible.Ensures C (reconcileClaim r fsc) post cluster)
    (failed : ∀ (failure : Failure) (call : Call), failure.Transient →
      ReadMayFail C cluster call → post (.error failure) cluster) :
    Fallible.Ensures C (reconcile r key) post cluster := by
  unfold reconcile
  simp only [Fallible.ensures_bind, Fallible.ensures_attempt]
  refine ensures_read admits rfl (fun pick => ?_) ?_
  · cases stored : cluster.claim? key with
    | none =>
        simp only [Cluster.answer, stored, Fallible.onSuccess_ok,
          Fallible.ensures_ite, Fallible.ensures_pure]
        exact ⟨fun _ => missing stored, fun present => absurd rfl present⟩
    | some fsc =>
        simp only [Cluster.answer, stored, Fallible.onSuccess_ok]
        exact found fsc stored
  · intro failure transient mayFail
    simp only [Fallible.onSuccess_ok, Fallible.ensures_ite, Fallible.ensures_pure,
      Fallible.ensures_throw]
    exact ⟨fun absent => absurd absent transient.1,
      fun _ => failed failure _ transient ⟨rfl, mayFail⟩⟩

/-- What a pass ensures holds of its calls and of the state it leaves. -/
theorem passLog_of_ensures
    {pass : Pass apiServer NamespacedName}
    {post : Except Failure Result → Cluster → Prop}
    (ensures : Fallible.Ensures C (reconcile r pass.index) post pass.start)
    (relied : ∀ event ∈ passLog r pass, C.Relied event) :
    (∀ event ∈ passLog r pass, C.Kept event) ∧
      post (pass.outcome (reconciler r)).value (pass.outcome (reconciler r)).state :=
  Program.Ensures.sound ensures pass.choices relied

/-- A pass is safe when what it does with the claim it reads is. -/
theorem ensures_reconcile_of_safe
    {key : NamespacedName}
    {cluster : Cluster}
    {invariant : Cluster → Prop}
    (admits : AdmitsReads C)
    (safe : ∀ fsc, cluster.claim? key = some fsc →
      Safe C invariant (reconcileClaim r fsc))
    (holds : invariant cluster) :
    Ensures C (reconcile r key) (fun _ final => invariant final) cluster := by
  refine ensures_reconcile admits (fun _ => holds) (fun fsc stored => ?_)
    fun _ _ _ _ => holds
  exact (safe fsc stored cluster holds).mono fun _ _ ensured => ensured.2

/-- If the claim of the pass is being deleted, it still has the operator's
finalizer. -/
def RetainsFinalizer (pass : Pass apiServer NamespacedName) : Prop :=
  ∀ fsc ∈ pass.start.claim? pass.index, isDeleting fsc = true →
    hasFinalizer fsc = true

/-! ## Passes that issue only certain calls -/

/-- The contract by which only certain calls are issued, whatever the state. -/
abbrev onlyCalls (calls : Call → Prop) : Contract apiServer :=
  Contract.demand fun _ call => calls call

section Calls

variable {calls : Call → Prop} {fsc : FileSystemClaim}

/-- The calls contain all reads and all status writes of a claim. -/
structure CoversReports (calls : Call → Prop) (fsc : FileSystemClaim) : Prop where
  reads : ∀ call : Call, call.isRead = true → calls call
  reports : ∀ original modified, calls (.patchClaimStatus fsc.key original modified)

theorem safe_call {call : Call} (allowed : calls call) :
    SafeThen (onlyCalls calls) (fun _ => True) (request call) (Honest call) :=
  safe_request (fun _ _ => allowed) fun _ _ => trivial

theorem CoversReports.admitsReads (covers : CoversReports calls fsc) :
    AdmitsReads (onlyCalls calls) :=
  fun _ => covers.reads

theorem CoversReports.allowsReports
    (covers : CoversReports calls fsc)
    (reports : ConditionType → ConditionStatus → Reason → Prop) :
    AllowsReports (onlyCalls calls) (fun _ => True) fsc reports :=
  allowsReports_of_patch covers.admitsReads fun _ _ _ _ _ _ =>
    ⟨covers.reports _ _, trivial⟩

theorem CoversReports.patchesFinalizers
    (covers : CoversReports calls fsc)
    {mutate : FileSystemClaim → FileSystemClaim}
    (patches : ∀ cur : FileSystemClaim, calls (.patchClaimFinalizers fsc.key
      cur.metadata.finalizers (mutate cur).metadata.finalizers)) :
    Safe (onlyCalls calls) (fun _ => True) (patchFSCSpec fsc mutate) :=
  safe_patchFSCSpec covers.admitsReads fun _ cur _ _ => ⟨patches cur, trivial⟩

/-- What a pass issues is one of the calls when its parts are safe for them. -/
theorem issued_of_safe
    {pass : Pass apiServer NamespacedName}
    (reads : ∀ call : Call, call.isRead = true → calls call)
    (safe : ∀ fsc, pass.start.claim? pass.index = some fsc →
      Safe (onlyCalls calls) (fun _ => True) (reconcileClaim r fsc)) :
    ∀ event ∈ passLog r pass, calls event.request :=
  (passLog_of_ensures
    (ensures_reconcile_of_safe (fun _ => reads) safe trivial)
    fun _ _ => trivial).1

end Calls

/-! ## A provisioned claim -/

/-- The key of a claim. -/
def readyKey : NamespacedName := ⟨"ibm-spectrum-scale", "fs"⟩

/-- A claim for one disk with everything in place. -/
def readyClaim : FileSystemClaim where
  metadata := {
    name := "fs", ns := "ibm-spectrum-scale"
    finalizers := [fileSystemClaimFinalizer] }
  devices := ["/dev/sdb"]
  conditions := [
    { type := .deviceValidated, status := .isTrue
      reason := .deviceValidationSucceeded
      message := "Device/s validation succeeded" },
    { type := .localDiskCreated, status := .isTrue
      reason := .localDiskCreationSucceeded
      message := "All 1 LocalDisks are Ready; if used, they are used by this Filesystem." },
    { type := .fileSystemCreated, status := .isTrue
      reason := .fileSystemCreationSucceeded
      message := "Filesystem is Success=True and Healthy=True" },
    { type := .storageClassCreated, status := .isTrue
      reason := .storageClassCreationSucceeded
      message := "StorageClass present" },
    { type := .ready, status := .isTrue, reason := .provisioningSucceeded
      message := "All resources created and ready" }]

/-- A condition of a child that is met. -/
def metCondition (conditionType : ConditionType) : Condition where
  type := conditionType
  status := .isTrue
  reason := .other "Met"

/-- The LocalDisk of the claim. -/
def readyLocalDisk : Unstructured :=
  { ownedObject readyClaim "uuid.1" (localDiskSpec "/dev/sdb" "node") with
    conditions := some [metCondition .ready, metCondition .used]
    filesystem := "fs" }

/-- The Filesystem of the claim. -/
def readyFilesystem : Unstructured :=
  { ownedObject readyClaim "fs" (buildFilesystemSpec ["uuid.1"]) with
    conditions := some [metCondition .success, metCondition .healthy] }

/-- The same Filesystem after a user permitted its deletion. -/
def releasedFilesystem : Unstructured :=
  { readyFilesystem with
    metadata := { readyFilesystem.metadata with
      labels := readyFilesystem.metadata.labels.set fileSystemDeletionLabel "" } }

/-- A cluster in which the claim is provisioned. -/
def readyCluster : Cluster where
  claims := [readyClaim]
  localDisks := [readyLocalDisk]
  filesystems := [readyFilesystem]
  storageClasses := [buildStorageClass readyClaim "fs" "fs"]
  nodes := [⟨"node", [(workerNodeRoleLabel, ""),
    (scaleStorageRoleLabel, scaleStorageRoleValue)]⟩]
  discoveryResults := [⟨{ name := "discovery-result-node", ns := "operator" },
    [⟨"/dev/sdb", "uuid.1"⟩]⟩]
  deploymentNamespace := some "operator"

/-- A pass in which nothing goes wrong. -/
def calmPass (key : NamespacedName) (pick : Nat) (start : Cluster) :
    Pass apiServer NamespacedName :=
  ⟨key, fun _ => { pick }, start⟩

/-- Every call of a calm pass is served with its choice. -/
theorem choice_of_calmPass
    {r : FileSystemClaimReconciler} {key : NamespacedName} {pick : Nat} {start : Cluster}
    {event : Event apiServer}
    (member : event ∈ passLog r (calmPass key pick start)) :
    event.choice = { pick } := by
  obtain ⟨_, chosen⟩ := Program.choice_of_mem_log member
  exact chosen

/-- Nothing changes but what the passes change. -/
def undisturbed (_ _ : Cluster) : Prop := False

/-- A claim that is being deleted. -/
def discardedClaim : FileSystemClaim :=
  { readyClaim with metadata := { readyClaim.metadata with deletionTimestamp := some 0 } }

/-- The deletion of its Filesystem is permitted. -/
def discardedCluster : Cluster :=
  { readyCluster with claims := [discardedClaim], filesystems := [releasedFilesystem] }

/-- Passes on the claim; nothing happens in between. -/
def discarded : Nat → Cluster
  | 0 => discardedCluster
  | count + 1 => ((calmPass readyKey 0 (discarded count)).outcome (reconciler {})).state

/-- The passes on it, one after the other. -/
def discardedPasses (count : Nat) : List (Pass apiServer NamespacedName) :=
  (List.range count).map fun index => calmPass readyKey 0 (discarded index)

/-- They are a run. -/
theorem run_discarded (count : Nat) :
    Run (reconciler {}) undisturbed discardedCluster (discardedPasses count)
      (discarded count) := by
  induction count with
  | zero => exact .start
  | succ count inductionHypothesis =>
      rw [discardedPasses, List.range_succ, List.map_append]
      exact inductionHypothesis.pass readyKey fun _ => { pick := 0 }

/-- Claims are deleted by their users. -/
def deletesClaims (before after : Cluster) : Prop :=
  ∃ key, after = before.deleteClaim key

/-- The storage product reports on LocalDisks. -/
def reportsLocalDisks (before after : Cluster) : Prop :=
  ∃ key conditions filesystem,
    after = before.reportLocalDisk key conditions filesystem

/-- A pass on a provisioned claim only reads. -/
example : (passLog {} ⟨readyKey, calm, readyCluster⟩).all
    (fun event => event.request.isRead) = true := by decide

end FusionAccess
