import FusionAccess.Discovery.LocalVolumeDiscovery

/-!
# A DaemonSet that cannot be applied

When the DaemonSet cannot be applied, the controller reports this in the status of the
LocalVolumeDiscovery and goes on to look at the DaemonSet that is stored. If all of its
daemons are ready, the report of the failure is replaced by one of success.
-/

namespace Discovery

open Kubernetes Interaction Fallible

/-! ## What is reported -/

/-- The status has a condition that the discovery is available. -/
def LocalVolumeDiscovery.IsAvailable (lvd : LocalVolumeDiscovery) : Prop :=
  ∃ condition ∈ lvd.conditions,
    condition.type = availableType ∧ condition.status = .isTrue

/-- A pass neither leaves the LocalVolumeDiscovery available nor ends for good. -/
structure NotReported
    (request : NamespacedName) (value : Except Failure Result) (final : DiscoverySite) :
    Prop where
  unavailable : ∀ lvd, final.localVolumeDiscovery? request = some lvd → ¬lvd.IsAvailable
  retried : ∀ result, value = .ok result → result.requeue = true ∨ result.requeueAfter ≠ 0

/-- The numbers of daemons of a DaemonSet. -/
def DaemonSet.counts (ds : DaemonSet) : Nat × Nat :=
  (ds.desiredNumberScheduled, ds.numberReady)

/-- The stored DaemonSet has daemons, and all of them are ready. -/
def AllReady (site : DiscoverySite) (ns : String) : Prop :=
  ∃ ds, site.daemonSet? ⟨ns, deviceFinderDiscovery⟩ = some ds ∧
    ds.desiredNumberScheduled ≠ 0 ∧ ds.desiredNumberScheduled = ds.numberReady

/-- A call with the fault is carried out, though its reply may be lost. -/
def CarriedOut (fault : Fault) : Prop :=
  ∀ refusal message, fault ≠ .refused refusal message

@[simp] theorem carriedOut_none : CarriedOut .none := by
  intro refusal message same
  cases same

@[simp] theorem carriedOut_lost (message : String) : CarriedOut (.lost message) := by
  intro refusal text same
  cases same

@[simp] theorem not_carriedOut_refused (refusal : Refusal) (message : String) :
    ¬CarriedOut (.refused refusal message) :=
  fun carriedOut => carriedOut refusal message rfl

/-- A LocalVolumeDiscovery as a report is stored in it. -/
def DiscoverySite.reported
    (site : DiscoverySite) (lvd : LocalVolumeDiscovery) (report : Report) :
    LocalVolumeDiscovery :=
  site.withStatus (lvd.reporting report site.clock) lvd

/-- The state once a report is stored. -/
def DiscoverySite.afterReport
    (site : DiscoverySite) (lvd : LocalVolumeDiscovery) (report : Report) : DiscoverySite :=
  (site.updateStatus (lvd.reporting report site.clock)).1

section Reports

variable {site : DiscoverySite} {lvd : LocalVolumeDiscovery} {report : Report}

theorem updateStatus_reporting
    (stored : site.localVolumeDiscovery? lvd.key = some lvd) :
    site.updateStatus (lvd.reporting report site.clock) =
      (site.afterReport lvd report, .ok (site.reported lvd report)) := by
  have found : site.localVolumeDiscovery? (lvd.reporting report site.clock).key =
      some lvd := stored
  have current : ¬lvd.metadata.resourceVersion ≠
      (lvd.reporting report site.clock).metadata.resourceVersion := not_not.mpr rfl
  unfold DiscoverySite.afterReport DiscoverySite.updateStatus
  dsimp only
  rw [found]
  dsimp only
  rw [if_neg current]
  rfl

/-- The report is found where the LocalVolumeDiscovery was. -/
theorem localVolumeDiscovery?_afterReport
    (stored : site.localVolumeDiscovery? lvd.key = some lvd) :
    (site.afterReport lvd report).localVolumeDiscovery? lvd.key =
      some (site.reported lvd report) := by
  have found : site.localVolumeDiscovery? (lvd.reporting report site.clock).key =
      some lvd := stored
  have current : ¬lvd.metadata.resourceVersion ≠
      (lvd.reporting report site.clock).metadata.resourceVersion := not_not.mpr rfl
  have amended : (site.afterReport lvd report).localVolumeDiscoveries =
      Registry.amend LocalVolumeDiscovery.key lvd.key
        (site.withStatus (lvd.reporting report site.clock)) site.localVolumeDiscoveries := by
    unfold DiscoverySite.afterReport DiscoverySite.updateStatus
    dsimp only
    rw [found]
    dsimp only
    rw [if_neg current]
    rfl
  rw [DiscoverySite.localVolumeDiscovery?, amended, Registry.find?_amend_self]
  · have listed : Registry.find? LocalVolumeDiscovery.key lvd.key
        site.localVolumeDiscoveries = some lvd := stored
    rw [listed]
    rfl
  · exact fun _ same => same

theorem daemonSets_afterReport :
    (site.afterReport lvd report).daemonSets = site.daemonSets := by
  unfold DiscoverySite.afterReport DiscoverySite.updateStatus
  dsimp only
  split
  · rfl
  · split <;> rfl

theorem isAvailable_reported_iff :
    (site.reported lvd report).IsAvailable ↔
      report.conditionType = availableType ∧ report.status = .isTrue := by
  constructor
  · rintro ⟨condition, listed, available⟩
    rw [List.mem_singleton.mp listed] at available
    exact available
  · intro available
    exact ⟨report.condition site.clock, List.mem_singleton.mpr rfl, available⟩

/-- The report of a failure is none of the reports about the daemons. -/
theorem not_shows_of_failure
    {err : Failure}
    (shown : lvd.shows (applyFailed err) = true)
    (different : (applyFailed err).message ≠ report.message) :
    lvd.shows report = false := by
  unfold LocalVolumeDiscovery.shows at shown ⊢
  cases first : lvd.conditions.head? with
  | none => rfl
  | some condition =>
      rw [first, Option.any_some, decide_eq_true_eq] at shown
      rw [Option.any_some, decide_eq_false_iff_not, shown]
      exact different

end Reports

/-! ## What calls leave alone -/

section Frames

variable {site : DiscoverySite} {ns : String}

/-- The LocalVolumeDiscoveries are the given ones, and all daemons are ready or not. -/
def Unmoved
    (lvds : List LocalVolumeDiscovery) (ns : String) (ready : Prop) (site : DiscoverySite) :
    Prop :=
  site.localVolumeDiscoveries = lvds ∧ (AllReady site ns ↔ ready)

/-- Only the numbers of daemons that are scheduled and ready matter. -/
theorem allReady_iff :
    AllReady site ns ↔
      ∃ desired, desired ≠ 0 ∧
        (site.daemonSet? ⟨ns, deviceFinderDiscovery⟩).map DaemonSet.counts =
          some (desired, desired) := by
  constructor
  · rintro ⟨ds, found, some, same⟩
    refine ⟨ds.desiredNumberScheduled, some, ?_⟩
    rw [found, Option.map_some, DaemonSet.counts, ← same]
  · rintro ⟨desired, some, counted⟩
    obtain ⟨ds, found, counts⟩ := Option.map_eq_some_iff.mp counted
    obtain ⟨isDesired, isReady⟩ := Prod.mk.inj counts
    exact ⟨ds, found, isDesired ▸ some, isDesired.trans isReady.symm⟩

/-- A new DaemonSet has no daemons. -/
theorem allReady_createDaemonSet (ds : DaemonSet) :
    AllReady (site.createDaemonSet ds).1 ns ↔ AllReady site ns := by
  unfold DiscoverySite.createDaemonSet
  cases stored : site.daemonSet? ds.key with
  | some _ => exact Iff.rfl
  | none =>
      dsimp only
      rw [allReady_iff, allReady_iff]
      unfold DiscoverySite.daemonSet? at stored ⊢
      dsimp only
      rw [Registry.find?_append]
      have alone : ∀ new : DaemonSet, new.key = ds.key →
          Registry.find? DaemonSet.key ⟨ns, deviceFinderDiscovery⟩ [new] =
            if ds.key = ⟨ns, deviceFinderDiscovery⟩ then some new else none := by
        intro new isKey
        rw [Registry.find?_cons, isKey, Registry.find?_nil]
      rw [alone]
      · by_cases same : ds.key = ⟨ns, deviceFinderDiscovery⟩
        · rw [if_pos same, ← same, stored, Option.none_or]
          simp [DaemonSet.counts]
        · rw [if_neg same, Option.or_none]
      · rfl

/-- An update of a DaemonSet keeps its status. -/
theorem allReady_updateDaemonSet (ds : DaemonSet) :
    AllReady (site.updateDaemonSet ds).1 ns ↔ AllReady site ns := by
  unfold DiscoverySite.updateDaemonSet
  split
  · exact Iff.rfl
  · split
    · exact Iff.rfl
    · rw [allReady_iff, allReady_iff]
      unfold DiscoverySite.daemonSet?
      dsimp only
      by_cases same : (⟨ns, deviceFinderDiscovery⟩ : NamespacedName) = ds.key
      · rw [same, Registry.find?_amend_self, Option.map_map]
        · rfl
        · exact fun _ isKey => isKey
      · rw [Registry.find?_amend_of_ne _ same]
        exact fun _ isKey => isKey

/-- No call but the update of a status touches the LocalVolumeDiscoveries, and none makes
daemons ready. -/
theorem unmoved_answer
    {lvds : List LocalVolumeDiscovery} {ready : Prop} {request : ControllerRequest}
    (other : ∀ lvd, request ≠ .updateLocalVolumeDiscoveryStatus lvd)
    (unmoved : Unmoved lvds ns ready site) :
    Unmoved lvds ns ready (site.answer request).1 := by
  cases request with
  | updateLocalVolumeDiscoveryStatus lvd => exact absurd rfl (other lvd)
  | createDaemonSet ds =>
      refine ⟨?_, (allReady_createDaemonSet ds).trans unmoved.2⟩
      rw [← unmoved.1]
      change (site.createDaemonSet ds).1.localVolumeDiscoveries = _
      unfold DiscoverySite.createDaemonSet
      split <;> rfl
  | updateDaemonSet ds =>
      refine ⟨?_, (allReady_updateDaemonSet ds).trans unmoved.2⟩
      rw [← unmoved.1]
      change (site.updateDaemonSet ds).1.localVolumeDiscoveries = _
      unfold DiscoverySite.updateDaemonSet
      split
      · rfl
      · split <;> rfl
  | deleteDiscoveryResult key =>
      have kept : (site.deleteResult key).1.localVolumeDiscoveries =
          site.localVolumeDiscoveries ∧
            (site.deleteResult key).1.daemonSets = site.daemonSets := by
        unfold DiscoverySite.deleteResult
        split <;> exact ⟨rfl, rfl⟩
      have sameSets : (site.deleteResult key).1.daemonSet? = site.daemonSet? := by
        funext name
        rw [DiscoverySite.daemonSet?, DiscoverySite.daemonSet?, kept.2]
      refine ⟨kept.1.trans unmoved.1, ?_⟩
      change AllReady (site.deleteResult key).1 ns ↔ ready
      rw [AllReady, sameSets]
      exact unmoved.2
  | _ => exact unmoved

/-- Calls that do not update a status are safe. -/
theorem safe_command
    {lvds : List LocalVolumeDiscovery} {ready : Prop} {request : ControllerRequest}
    (other : ∀ lvd, request ≠ .updateLocalVolumeDiscoveryStatus lvd) :
    Safe (Contract.demand fun _ _ => True : Contract controllerServer)
      (Unmoved lvds ns ready) (command request) :=
  @Api.safe_ask controllerApi DiscoverySite DiscoverySite.answer _ request _ _
    (fun _ _ => trivial) (fun _ _ _ => trivial) (fun _ => unmoved_answer other)
    fun _ _ _ => trivial

theorem safe_orFail
    {lvds : List LocalVolumeDiscovery} {ready : Prop} {α : Type}
    (result : Except Failure α) :
    Safe (Contract.demand fun _ _ => True : Contract controllerServer)
      (Unmoved lvds ns ready) (orFail result) := by
  cases result with
  | ok value => exact safe_pure value
  | error failure => exact safe_throw failure

/-- `CreateOrUpdateDaemonset`. -/
theorem safe_createOrUpdateDaemonset
    {lvds : List LocalVolumeDiscovery} {ready : Prop}
    (daemonSetMutateFn : DaemonSet → Except Failure DaemonSet) :
    Safe (Contract.demand fun _ _ => True : Contract controllerServer)
      (Unmoved lvds ns ready) (createOrUpdateDaemonset daemonSetMutateFn) := by
  unfold createOrUpdateDaemonset
  refine (safe_orFail _).andThen fun ds _ => ?_
  refine SafeThen.attempt (safe_command (by simp)) fun result _ => ?_
  cases result with
  | error err =>
      refine safeThen_ite (fun _ => ?_) fun _ => safe_throw err
      refine (safe_orFail _).andThen fun mutated _ => ?_
      exact (safe_command (by simp)).andThen fun _ _ => safe_pure _
  | ok existing =>
      refine (safe_orFail _).andThen fun mutated _ => ?_
      refine safeThen_ite (fun _ => safe_pure _) fun _ => ?_
      exact (safe_command (by simp)).andThen fun _ _ => safe_pure _

/-- Induction on the results. -/
theorem safe_deleteOrphans
    {lvds : List LocalVolumeDiscovery} {ready : Prop}
    (nodeSelector : NodeSelector) (items : List DiscoveryResult) :
    Safe (Contract.demand fun _ _ => True : Contract controllerServer)
      (Unmoved lvds ns ready) (deleteOrphans nodeSelector items) := by
  induction items with
  | nil => exact safe_pure ()
  | cons item items inductionHypothesis =>
      unfold deleteOrphans
      refine (SafeThen.mapError (safe_command (by simp)) fun _ _ => trivial).andThen
        fun node _ => ?_
      refine (safe_orFail _).andThen fun isMatch _ => ?_
      refine safeThen_ite (fun _ => ?_) fun _ => inductionHypothesis
      exact (SafeThen.mapError (safe_command (by simp)) fun _ _ => trivial).andThen
        fun _ _ => inductionHypothesis

/-- `deleteOrphanDiscoveryResults`. -/
theorem safe_deleteOrphanDiscoveryResults
    {lvds : List LocalVolumeDiscovery} {ready : Prop} (lvd : LocalVolumeDiscovery) :
    Safe (Contract.demand fun _ _ => True : Contract controllerServer)
      (Unmoved lvds ns ready) (deleteOrphanDiscoveryResults lvd) := by
  unfold deleteOrphanDiscoveryResults
  cases lvd.nodeSelector with
  | none => exact safe_pure ()
  | some nodeSelector =>
      refine safeThen_ite (fun _ => safe_pure ()) fun _ => ?_
      exact (SafeThen.mapError (safe_command (by simp)) fun _ _ => trivial).andThen
        fun items _ => safe_deleteOrphans nodeSelector items

end Frames

/-! ## Reports under given choices -/

section Runs

variable {site : DiscoverySite} {lvd : LocalVolumeDiscovery} {report : Report}
  {choices : Nat → Fault} {request : NamespacedName}

/-- A report that is not shown yet is written by the second call, the first being a look
at the clock. -/
theorem leadsTo_updateDiscoveryStatus
    {post : Except Failure LocalVolumeDiscovery → DiscoverySite → (Nat → Fault) → Prop}
    (stored : site.localVolumeDiscovery? lvd.key = some lvd)
    (unseen : lvd.shows report = false) :
    LeadsTo (S := controllerServer) (updateDiscoveryStatus lvd report) choices post site ↔
      match choices 1 with
      | .none => post (.ok (site.reported lvd report)) (site.afterReport lvd report)
          (rest (rest choices))
      | .refused refusal message => post (.error (refusal.failure message)) site
          (rest (rest choices))
      | .lost message => post (.error (errorf message)) (site.afterReport lvd report)
          (rest (rest choices)) := by
  have written : site.answer (.updateLocalVolumeDiscoveryStatus
      (lvd.reporting report site.clock)) =
        (site.afterReport lvd report, .ok (site.reported lvd report)) :=
    updateStatus_reporting stored
  have served : LeadsTo (S := controllerServer)
      (command (.updateLocalVolumeDiscoveryStatus (lvd.reporting report site.clock)))
      (rest choices) post site ↔
        post (controllerServer.serve (choices 1) site (.updateLocalVolumeDiscoveryStatus
          (lvd.reporting report site.clock))).2
          (controllerServer.serve (choices 1) site (.updateLocalVolumeDiscoveryStatus
            (lvd.reporting report site.clock))).1 (rest (rest choices)) := Iff.rfl
  rw [updateDiscoveryStatus, if_neg (by rw [unseen]; exact Bool.false_ne_true), leadsTo_bind]
  refine served.trans ?_
  cases fault : choices 1 with
  | none =>
      have reply : controllerServer.serve .none site (.updateLocalVolumeDiscoveryStatus
          (lvd.reporting report site.clock)) = _ := written
      rw [reply]
  | refused refusal message => exact Iff.rfl
  | lost message =>
      have reply : controllerServer.serve (.lost message) site
          (.updateLocalVolumeDiscoveryStatus (lvd.reporting report site.clock)) =
            ((site.answer (.updateLocalVolumeDiscoveryStatus
              (lvd.reporting report site.clock))).1, .error (errorf message)) := rfl
      rw [reply, written]

/-- Only the LocalVolumeDiscovery that is stored at the end matters. -/
theorem notReported_iff
    {final : DiscoverySite} {value : Except Failure Result}
    (found : final.localVolumeDiscovery? request = some lvd)
    (retried : ∀ result, value = .ok result →
      result.requeue = true ∨ result.requeueAfter ≠ 0) :
    NotReported request value final ↔ ¬lvd.IsAvailable := by
  constructor
  · exact fun good => good.unavailable lvd found
  · refine fun unavailable => ⟨fun other isOther => ?_, retried⟩
    rw [found, Option.some.injEq] at isOther
    exact isOther ▸ unavailable

/-- The report about so many daemons. -/
def daemonsReport (desiredDaemons readyDaemons : Nat) : Report :=
  if desiredDaemons = 0 then noDaemons
  else if desiredDaemons ≠ readyDaemons then someDaemons readyDaemons desiredDaemons
  else allDaemons desiredDaemons readyDaemons

/-- `Reconcile` from where it looks at the daemons: it reports, and is done if all are
ready. -/
theorem reportDaemons_eq (lvd : LocalVolumeDiscovery) :
    reportDaemons lvd = (do
      let counts ← getDaemonSetStatus lvd.metadata.ns
      let lvd ← updateDiscoveryStatus lvd (daemonsReport counts.1 counts.2)
      if counts.1 ≠ 0 ∧ counts.1 = counts.2 then do
        deleteOrphanDiscoveryResults lvd
        return {}
      else return waitForRequeueIfDaemonsNotReady) := by
  unfold reportDaemons
  congr 1
  funext ⟨desiredDaemons, readyDaemons⟩
  dsimp only
  unfold daemonsReport
  by_cases none : desiredDaemons = 0
  · have waits : ¬(desiredDaemons ≠ 0 ∧ desiredDaemons = readyDaemons) := fun both =>
      both.1 none
    simp only [if_pos none, if_neg waits]
  · by_cases different : desiredDaemons ≠ readyDaemons
    · have waits : ¬(desiredDaemons ≠ 0 ∧ desiredDaemons = readyDaemons) := fun both =>
        different both.2
      simp only [if_neg none, if_pos different, if_neg waits]
    · have finished : desiredDaemons ≠ 0 ∧ desiredDaemons = readyDaemons :=
        ⟨none, not_not.mp different⟩
      simp only [if_neg none, if_neg different, if_pos finished]

/-- It is the only report of an available discovery. -/
theorem daemonsReport_available_iff (desiredDaemons readyDaemons : Nat) :
    ((daemonsReport desiredDaemons readyDaemons).conditionType = availableType ∧
        (daemonsReport desiredDaemons readyDaemons).status = .isTrue) ↔
      desiredDaemons ≠ 0 ∧ desiredDaemons = readyDaemons := by
  unfold daemonsReport
  split
  · simp_all [noDaemons]
  · split
    · simp_all [someDaemons]
    · simp_all [allDaemons]

/-- Its text begins differently from that of a failure. -/
theorem applyFailed_message_ne (err : Failure) (desiredDaemons readyDaemons : Nat) :
    (applyFailed err).message ≠ (daemonsReport desiredDaemons readyDaemons).message := by
  have failure : (applyFailed err).message.toList.head? = some 'f' := by
    rw [applyFailed, String.toList_append, List.head?_append]
    rfl
  have daemons : (daemonsReport desiredDaemons readyDaemons).message.toList.head? ≠
      some 'f' := by
    unfold daemonsReport
    split
    · decide
    · split
      · have begins : (someDaemons readyDaemons desiredDaemons).message.toList.head? =
            some 'r' := by
          simp only [someDaemons, String.toList_append, List.head?_append]
          rfl
        rw [begins]
        decide
      · have begins : (allDaemons desiredDaemons readyDaemons).message.toList.head? =
            some 's' := by
          simp only [allDaemons, String.toList_append, List.head?_append]
          rfl
        rw [begins]
        decide
  intro same
  exact daemons (same ▸ failure)

/-- The pass stores a report about the daemons. -/
def ReportsDaemons (later : Nat → Fault) (site : DiscoverySite) (ns : String) : Prop :=
  later 0 = .none ∧ (site.daemonSet? ⟨ns, deviceFinderDiscovery⟩).isSome = true ∧
    CarriedOut (later 2)

/-- The pass stores the report that all daemons are ready. -/
def ReportsSuccess (later : Nat → Fault) (site : DiscoverySite) (ns : String) : Prop :=
  later 0 = .none ∧ AllReady site ns ∧ CarriedOut (later 2)

/-- The numbers of daemons are those of the stored DaemonSet, if it can be read. -/
theorem leadsTo_getDaemonSetStatus (ns : String) :
    ∃ result : Except Failure (Nat × Nat),
      (∀ post : Except Failure (Nat × Nat) → DiscoverySite → (Nat → Fault) → Prop,
        LeadsTo (S := controllerServer) (getDaemonSetStatus ns) choices post site ↔
          post result site (rest choices)) ∧
      ∀ counts, result = .ok counts ↔ choices 0 = .none ∧
        ∃ ds, site.daemonSet? ⟨ns, deviceFinderDiscovery⟩ = some ds ∧ ds.counts = counts := by
  obtain ⟨reply, served⟩ : ∃ reply, controllerServer.serve (choices 0) site
      (.getDaemonSet ⟨ns, deviceFinderDiscovery⟩) = (site, reply) := by
    cases choices 0 <;> exact ⟨_, rfl⟩
  refine ⟨reply.map DaemonSet.counts, fun post => ?_, fun counts => ?_⟩
  · rw [getDaemonSetStatus, leadsTo_bind]
    refine (Api.leadsTo_ask _ site).trans ?_
    rw [served]
    cases reply <;> exact Iff.rfl
  · cases fault : choices 0 with
    | refused refusal message =>
        rw [fault] at served
        cases served
        simp [Except.map]
    | lost message =>
        rw [fault] at served
        cases served
        simp [Except.map]
    | none =>
        rw [fault] at served
        cases found : site.daemonSet? ⟨ns, deviceFinderDiscovery⟩ with
        | none =>
            have missing : controllerServer.serve .none site
                (.getDaemonSet ⟨ns, deviceFinderDiscovery⟩) =
                  (site, .error (notFound "daemonsets.apps" deviceFinderDiscovery)) := by
              change (site, _) = _
              rw [found]
            cases missing.symm.trans served
            simp [Except.map]
        | some ds =>
            have read : controllerServer.serve .none site
                (.getDaemonSet ⟨ns, deviceFinderDiscovery⟩) = (site, .ok ds) := by
              change (site, _) = _
              rw [found]
            cases read.symm.trans served
            simp [Except.map]

/-- The deletion of orphans leaves the status as it is reported. -/
theorem leadsTo_deleteOrphanDiscoveryResults
    (found : site.localVolumeDiscovery? request = some lvd)
    (available : lvd.IsAvailable) (other : LocalVolumeDiscovery) (result : Result) :
    ¬LeadsTo (S := controllerServer)
      (do
        deleteOrphanDiscoveryResults other
        return result)
      choices (fun value final _ => NotReported request value final) site := by
  have unmoved : Unmoved site.localVolumeDiscoveries "" (AllReady site "") site :=
    ⟨rfl, Iff.rfl⟩
  have safe := (@safe_deleteOrphanDiscoveryResults "" site.localVolumeDiscoveries
    (AllReady site "") other).andThen fun _ _ => safe_pure result
  have kept := @Program.LeadsTo.of_ensures _ _ _ choices _ _ _ _ (safe site unmoved)
  intro good
  refine NotReported.unavailable good lvd ?_ available
  rw [DiscoverySite.localVolumeDiscovery?, kept.2.1]
  exact found

/-- A report about the daemons is written, and the pass ends. -/
theorem leadsTo_report_iff
    {desiredDaemons readyDaemons : Nat}
    (stored : site.localVolumeDiscovery? lvd.key = some lvd)
    (unseen : lvd.shows (daemonsReport desiredDaemons readyDaemons) = false) :
    LeadsTo (S := controllerServer)
        (do
          let lvd ← updateDiscoveryStatus lvd (daemonsReport desiredDaemons readyDaemons)
          if desiredDaemons ≠ 0 ∧ desiredDaemons = readyDaemons then do
            deleteOrphanDiscoveryResults lvd
            return {}
          else return waitForRequeueIfDaemonsNotReady)
        choices (fun value final _ => NotReported lvd.key value final) site ↔
      (lvd.IsAvailable → CarriedOut (choices 1)) ∧
        ¬((desiredDaemons ≠ 0 ∧ desiredDaemons = readyDaemons) ∧
          CarriedOut (choices 1)) := by
  have isStored := @localVolumeDiscovery?_afterReport site lvd
    (daemonsReport desiredDaemons readyDaemons) stored
  have reported : (site.reported lvd (daemonsReport desiredDaemons readyDaemons)).IsAvailable ↔
      desiredDaemons ≠ 0 ∧ desiredDaemons = readyDaemons :=
    isAvailable_reported_iff.trans (daemonsReport_available_iff _ _)
  rw [leadsTo_bind, leadsTo_updateDiscoveryStatus stored unseen]
  cases choices 1 with
  | refused refusal message =>
      refine (notReported_iff stored (by simp)).trans ?_
      simp
  | lost message =>
      refine (notReported_iff isStored (by simp)).trans ?_
      rw [reported]
      simp
  | none =>
      dsimp only
      by_cases ready : desiredDaemons ≠ 0 ∧ desiredDaemons = readyDaemons
      · rw [if_pos ready, iff_false_intro (leadsTo_deleteOrphanDiscoveryResults isStored
          (reported.mpr ready) _ _)]
        constructor
        · exact False.elim
        · exact fun good => good.2 ⟨ready, carriedOut_none⟩
      · rw [if_neg ready, leadsTo_pure]
        refine (notReported_iff isStored (by simp [waitForRequeueIfDaemonsNotReady])).trans ?_
        rw [reported]
        simp

/-- Once the failure is shown, the pass is good unless it reports success, or does not
replace a status that is available. -/
theorem leadsTo_reportDaemons_iff
    {err : Failure}
    (stored : site.localVolumeDiscovery? lvd.key = some lvd)
    (shown : lvd.shows (applyFailed err) = true) :
    LeadsTo (S := controllerServer) (reportDaemons lvd) choices
        (fun value final _ => NotReported lvd.key value final) site ↔
      (lvd.IsAvailable → ReportsDaemons choices site lvd.metadata.ns) ∧
        ¬ReportsSuccess choices site lvd.metadata.ns := by
  obtain ⟨result, leads, counted⟩ :=
    @leadsTo_getDaemonSetStatus site choices lvd.metadata.ns
  rw [reportDaemons_eq, leadsTo_bind, leads]
  cases result with
  | error failure =>
      have silent : ∀ ds, choices 0 = .none →
          site.daemonSet? ⟨lvd.metadata.ns, deviceFinderDiscovery⟩ ≠ some ds := by
        intro ds isRead found
        cases (counted ds.counts).mpr ⟨isRead, ds, found, rfl⟩
      have noReport : ¬ReportsDaemons choices site lvd.metadata.ns := by
        rintro ⟨isRead, isStored, -⟩
        obtain ⟨ds, found⟩ := Option.isSome_iff_exists.mp isStored
        exact silent ds isRead found
      have noSuccess : ¬ReportsSuccess choices site lvd.metadata.ns := by
        rintro ⟨isRead, ⟨ds, found, -⟩, -⟩
        exact silent ds isRead found
      refine (notReported_iff stored (by simp)).trans ?_
      simp only [noReport, noSuccess, imp_false, not_false_eq_true, and_true]
  | ok counts =>
      obtain ⟨isRead, ds, found, rfl⟩ := (counted counts).mp rfl
      have reports : ReportsDaemons choices site lvd.metadata.ns ↔
          CarriedOut (choices 2) := by
        unfold ReportsDaemons
        rw [found]
        exact ⟨fun reports => reports.2.2, fun carriedOut => ⟨isRead, rfl, carriedOut⟩⟩
      have success : ReportsSuccess choices site lvd.metadata.ns ↔
          (ds.counts.1 ≠ 0 ∧ ds.counts.1 = ds.counts.2) ∧ CarriedOut (choices 2) := by
        unfold ReportsSuccess AllReady
        rw [found]
        constructor
        · rintro ⟨-, ⟨other, same, ready⟩, carriedOut⟩
          exact ⟨Option.some.inj same ▸ ready, carriedOut⟩
        · rintro ⟨ready, carriedOut⟩
          exact ⟨isRead, ⟨ds, rfl, ready⟩, carriedOut⟩
      rw [reports, success]
      exact leadsTo_report_iff stored
        (not_shows_of_failure shown (applyFailed_message_ne err _ _))

/-- What decides whether a pass is good that cannot apply the DaemonSet: the state in
which it starts, the one in which the attempt leaves it, and the faults of the later
calls. -/
def EndsUnavailable
    (lvd : LocalVolumeDiscovery) (err : Failure) (site applied : DiscoverySite)
    (later : Nat → Fault) : Prop :=
  if lvd.shows (applyFailed err) then
    (lvd.IsAvailable → ReportsDaemons later applied lvd.metadata.ns) ∧
      ¬ReportsSuccess later site lvd.metadata.ns
  else
    (lvd.IsAvailable → CarriedOut (later 1)) ∧
      (later 1 = .none → ¬ReportsSuccess (rest (rest later)) site lvd.metadata.ns)

/-- The pass from where the DaemonSet could not be applied. -/
theorem leadsTo_afterApply_iff
    {err : Failure}
    (stored : site.localVolumeDiscovery? lvd.key = some lvd) :
    LeadsTo (S := controllerServer) (afterApply lvd (.error err)) choices
        (fun value final _ => NotReported lvd.key value final) site ↔
      EndsUnavailable lvd err site site choices := by
  rw [afterApply, leadsTo_bind, EndsUnavailable]
  by_cases shown : lvd.shows (applyFailed err) = true
  · rw [if_pos shown, updateDiscoveryStatus, if_pos shown, leadsTo_pure]
    exact leadsTo_reportDaemons_iff stored shown
  · have isStored := @localVolumeDiscovery?_afterReport site lvd (applyFailed err) stored
    have unavailable : ¬(site.reported lvd (applyFailed err)).IsAvailable := by
      rw [isAvailable_reported_iff]
      simp [applyFailed]
    rw [if_neg shown, leadsTo_updateDiscoveryStatus stored (Bool.eq_false_iff.mpr shown)]
    cases choices 1 with
    | refused refusal message =>
        refine (notReported_iff stored (by simp)).trans ?_
        simp
    | lost message =>
        refine (notReported_iff isStored (by simp)).trans ?_
        simp [unavailable]
    | none =>
        have nowShown : (site.reported lvd (applyFailed err)).shows (applyFailed err) = true :=
          decide_eq_true rfl
        have next := @leadsTo_reportDaemons_iff (site.afterReport lvd (applyFailed err))
          (site.reported lvd (applyFailed err)) (rest (rest choices)) err isStored nowShown
        refine next.trans ?_
        have sameSets : (site.afterReport lvd (applyFailed err)).daemonSet? =
            site.daemonSet? := by
          funext key
          rw [DiscoverySite.daemonSet?, DiscoverySite.daemonSet?, daemonSets_afterReport]
        have success : ReportsSuccess (rest (rest choices))
            (site.afterReport lvd (applyFailed err)) lvd.metadata.ns ↔
              ReportsSuccess (rest (rest choices)) site lvd.metadata.ns := by
          rw [ReportsSuccess, ReportsSuccess, AllReady, AllReady, sameSets]
        rw [← success]
        constructor
        · exact fun good => ⟨fun _ => carriedOut_none, fun _ => good.2⟩
        · exact fun good => ⟨fun available => absurd available unavailable, good.2 rfl⟩

end Runs

/-! ## Passes -/

/-- The attempt of a pass to apply the DaemonSet, which follows the look at the
LocalVolumeDiscovery. -/
def applying
    (env : OperatorEnvironment) (request : NamespacedName) (lvd : LocalVolumeDiscovery)
    (choices : Nat → Fault) (site : DiscoverySite) :
    Outcome controllerServer (Except Failure (DaemonSet × OperationResult)) :=
  (createOrUpdateDaemonset (getDeviceFinderDiscoveryDSMutateFn env request lvd)).run.run
    controllerServer (rest choices) site

/-- What a pass leaves behind. -/
def reconciled
    (env : OperatorEnvironment) (request : NamespacedName) (choices : Nat → Fault)
    (site : DiscoverySite) : Outcome controllerServer (Except Failure Result) :=
  (reconcile env request).run.run controllerServer choices site

/-- A pass that fails to apply the DaemonSet leaves the LocalVolumeDiscovery not available,
and is tried again, just if it does not go on to report that all daemons are ready, and
if it writes some status where the old one was available. -/
theorem failed_apply_not_reported_iff
    {env : OperatorEnvironment} {request : NamespacedName} {lvd : LocalVolumeDiscovery}
    {choices : Nat → Fault} {site : DiscoverySite} {err : Failure}
    (stored : site.localVolumeDiscovery? request = some lvd)
    (isRead : choices 0 = .none)
    (failed : (applying env request lvd choices site).value = .error err) :
    NotReported request (reconciled env request choices site).value
        (reconciled env request choices site).state ↔
      EndsUnavailable lvd err site (applying env request lvd choices site).state
        fun index => choices (index + (applying env request lvd choices site).log.length + 1) := by
  have keyed : lvd.key = request := (Registry.find?_eq_some stored).2
  subst keyed
  have served : controllerServer.serve (choices 0) site
      (.getLocalVolumeDiscovery lvd.key) = (site, .ok lvd) := by
    rw [isRead]
    change (site, _) = _
    rw [stored]
  have unmoved : Unmoved site.localVolumeDiscoveries lvd.metadata.ns
      (AllReady site lvd.metadata.ns) site := ⟨rfl, Iff.rfl⟩
  have still : Unmoved site.localVolumeDiscoveries lvd.metadata.ns
      (AllReady site lvd.metadata.ns) (applying env lvd.key lvd choices site).state :=
    (@Program.LeadsTo.of_ensures _ controllerServer _ (rest choices) _ _ _ _ (safe_createOrUpdateDaemonset
      (getDeviceFinderDiscoveryDSMutateFn env lvd.key lvd) site unmoved)).2
  have found : (applying env lvd.key lvd choices site).state.localVolumeDiscovery? lvd.key =
      some lvd := by
    rw [DiscoverySite.localVolumeDiscovery?, still.1]
    exact stored
  have pass : LeadsTo (S := controllerServer) (reconcile env lvd.key) choices
      (fun value final _ => NotReported lvd.key value final) site ↔
        LeadsTo (S := controllerServer) (afterApply lvd (.error err))
          (fun index => choices (index + (applying env lvd.key lvd choices site).log.length + 1))
          (fun value final _ => NotReported lvd.key value final)
          (applying env lvd.key lvd choices site).state := by
    rw [reconcile, leadsTo_bind, leadsTo_attempt]
    refine (Api.leadsTo_ask _ site).trans ?_
    rw [served]
    dsimp only
    rw [leadsTo_bind, leadsTo_attempt, ← failed]
    exact Iff.rfl
  refine pass.trans ((leadsTo_afterApply_iff found).trans ?_)
  unfold EndsUnavailable ReportsSuccess
  rw [still.2]

/-! ## A DaemonSet that is already running -/

/-- The DaemonSet of the discovery with one container. -/
def discoveryDaemonSet : DaemonSet where
  metadata := { name := deviceFinderDiscovery, ns := "ibm-fusion-access" }
  spec := { template := { spec := { containers :=
    [{ name := "devicefinder-discovery", image := "devicefinder" }] } } }

/-- The DaemonSet with three daemons, all of them ready. -/
def runningDaemonSet : DaemonSet :=
  { discoveryDaemonSet with
    creationTimestamp := 1, desiredNumberScheduled := 3, numberReady := 3 }

/-- The discovery on all nodes. -/
def everyNodeDiscovery : LocalVolumeDiscovery where
  metadata := { name := "auto-discover-devices", ns := "ibm-fusion-access" }

/-- The template is at hand. -/
def templateAtHand : OperatorEnvironment where
  dsTemplate := fun _ => .ok { discoveryDaemonSet with hasContainer := List.cons_ne_nil _ _ }

/-- The call with the given number is refused. -/
def refusing (number index : Nat) : Fault :=
  if index = number then .refused .unspecified "daemonsets.apps is forbidden" else .none

/-- The DaemonSet while one of its three daemons is not ready. -/
def startingDaemonSet : DaemonSet := { runningDaemonSet with numberReady := 2 }

/-- While daemons are not ready a refused update is not reported as success. -/
theorem failed_apply_not_reported_iff_starting :
    NotReported everyNodeDiscovery.key
      (reconciled templateAtHand everyNodeDiscovery.key (refusing 2)
        { localVolumeDiscoveries := [everyNodeDiscovery]
          daemonSets := [startingDaemonSet] }).value
      (reconciled templateAtHand everyNodeDiscovery.key (refusing 2)
        { localVolumeDiscoveries := [everyNodeDiscovery]
          daemonSets := [startingDaemonSet] }).state := by
  refine (failed_apply_not_reported_iff rfl rfl rfl).mpr ?_
  refine ⟨?_, ?_⟩
  · rintro ⟨condition, listed, -⟩
    cases listed
  · rintro - ⟨-, ⟨ds, found, -, ready⟩, -⟩
    cases found
    revert ready
    decide

/-- The DaemonSet may not be updated, but the pass reports success and is done. -/
theorem refused_update_reported_as_success :
    (∃ err, (applying templateAtHand everyNodeDiscovery.key everyNodeDiscovery (refusing 2)
        { localVolumeDiscoveries := [everyNodeDiscovery]
          daemonSets := [runningDaemonSet] }).value = .error err) ∧
      ¬NotReported everyNodeDiscovery.key
        (reconciled templateAtHand everyNodeDiscovery.key (refusing 2)
          { localVolumeDiscoveries := [everyNodeDiscovery]
            daemonSets := [runningDaemonSet] }).value
        (reconciled templateAtHand everyNodeDiscovery.key (refusing 2)
          { localVolumeDiscoveries := [everyNodeDiscovery]
            daemonSets := [runningDaemonSet] }).state := by
  refine ⟨⟨_, rfl⟩, fun good => ?_⟩
  have ended : (reconciled templateAtHand everyNodeDiscovery.key (refusing 2)
      { localVolumeDiscoveries := [everyNodeDiscovery]
        daemonSets := [runningDaemonSet] }).value = .ok {} := by
    rfl
  have retried := good.retried {} ended
  simp at retried

end Discovery
