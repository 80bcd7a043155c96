import FusionAccess.Discovery.LocalVolumeDiscovery

/-!
# Orphan discovery results

Once all daemons are ready, the controller deletes the discovery results of the nodes
that the selector of the LocalVolumeDiscovery does not match. The loop over the results
ends with the first one whose node cannot be found, so that neither this result nor
those after it are deleted.
-/

namespace Discovery

open Kubernetes Interaction Fallible

/-! ## Which results are orphans -/

/-- The node of a result exists and matches the selector. -/
def TakesPart
    (site : DiscoverySite) (nodeSelector : NodeSelector) (result : DiscoveryResult) : Prop :=
  ∃ node, site.node? result.nodeName = some node ∧
    matchNodeSelectorTerms node nodeSelector = .ok true

/-- The node of a result exists and the selector can be evaluated for it. -/
def IsDecided
    (site : DiscoverySite) (nodeSelector : NodeSelector) (result : DiscoveryResult) : Prop :=
  ∃ node, site.node? result.nodeName = some node ∧
    ∃ isMatch, matchNodeSelectorTerms node nodeSelector = .ok isMatch

/-- The results in the namespace of a LocalVolumeDiscovery are rid of orphans, and
nothing else is deleted. -/
structure CleanedUp
    (lvd : LocalVolumeDiscovery) (nodeSelector : NodeSelector)
    (site final : DiscoverySite) : Prop where
  orphansGone : ∀ result ∈ site.results, result.metadata.ns = lvd.metadata.ns →
    ¬TakesPart site nodeSelector result → final.result? result.key = none
  othersStay : ∀ result ∈ site.results,
    (result.metadata.ns = lvd.metadata.ns → TakesPart site nodeSelector result) →
      final.result? result.key = some result

/-! ## The loop -/

@[simp] theorem ensures_orFail
    {α : Type} {C : Contract controllerServer} (result : Except Failure α)
    (post : Except Failure α → DiscoverySite → Prop) (site : DiscoverySite) :
    Ensures C (orFail result) post site ↔ post result site := by
  cases result <;> exact Iff.rfl

/-- The controller, while no call goes wrong. -/
abbrev unfailing : Contract controllerServer :=
  @Api.unfailing controllerApi DiscoverySite DiscoverySite.answer

theorem ensures_command
    (request : ControllerRequest)
    (post : Except Failure request.Yield → DiscoverySite → Prop) (site : DiscoverySite) :
    Ensures unfailing (command request) post site ↔
      post (site.answer request).2 (site.answer request).1 :=
  @Api.ensures_ask_unfailing controllerApi DiscoverySite DiscoverySite.answer request post site

/-- What the loop over distinct results leaves behind. -/
structure Swept
    (nodeSelector : NodeSelector) (items : List DiscoveryResult)
    (site final : DiscoverySite) : Prop where
  othersStay : ∀ key ∉ items.map DiscoveryResult.key, final.result? key = site.result? key
  participantsStay : ∀ item ∈ items, TakesPart site nodeSelector item →
    final.result? item.key = site.result? item.key
  orphansGone : (∀ item ∈ items, IsDecided site nodeSelector item) →
    ∀ item ∈ items, ¬TakesPart site nodeSelector item → final.result? item.key = none
  stopped : (∃ item ∈ items, ¬IsDecided site nodeSelector item) →
    ∃ item ∈ items, ¬IsDecided site nodeSelector item ∧
      final.result? item.key = site.result? item.key

namespace Swept

variable {nodeSelector : NodeSelector} {item : DiscoveryResult}
  {items : List DiscoveryResult} {site next final : DiscoverySite}

/-- The loop stops at a result that it cannot decide about. -/
theorem stop (undecided : ¬IsDecided site nodeSelector item) :
    Swept nodeSelector (item :: items) site site where
  othersStay := fun _ _ => rfl
  participantsStay := fun _ _ _ => rfl
  orphansGone := fun decided => absurd (decided item List.mem_cons_self) undecided
  stopped := fun _ => ⟨item, List.mem_cons_self, undecided, rfl⟩

/-- The loop goes on after a result that it has decided about, and that it has deleted
if it is an orphan. -/
theorem step
    (distinct : item.key ∉ items.map DiscoveryResult.key)
    (nodes : next.nodes = site.nodes)
    (frame : ∀ key, key ≠ item.key → next.result? key = site.result? key)
    (decided : IsDecided site nodeSelector item)
    (kept : TakesPart site nodeSelector item →
      next.result? item.key = site.result? item.key)
    (deleted : ¬TakesPart site nodeSelector item → next.result? item.key = none)
    (rest : Swept nodeSelector items next final) :
    Swept nodeSelector (item :: items) site final := by
  have node? : next.node? = site.node? := by
    funext name
    rw [DiscoverySite.node?, DiscoverySite.node?, nodes]
  have takesPart : TakesPart next nodeSelector = TakesPart site nodeSelector := by
    funext other
    rw [TakesPart, TakesPart, node?]
  have isDecided : IsDecided next nodeSelector = IsDecided site nodeSelector := by
    funext other
    rw [IsDecided, IsDecided, node?]
  have others : ∀ other ∈ items, next.result? other.key = site.result? other.key := by
    intro other listed
    apply frame
    intro same
    exact distinct (same ▸ List.mem_map_of_mem listed)
  have here := rest.othersStay item.key distinct
  obtain ⟨othersStay, participantsStay, orphansGone, stopped⟩ := rest
  rw [takesPart] at participantsStay orphansGone
  rw [isDecided] at orphansGone stopped
  refine ⟨?_, ?_, ?_, ?_⟩
  · intro key unlisted
    rw [List.map_cons, List.mem_cons, not_or] at unlisted
    rw [othersStay key unlisted.2, frame key unlisted.1]
  · intro other listed part
    rcases List.mem_cons.mp listed with rfl | listed
    · rw [here, kept part]
    · rw [participantsStay other listed part, others other listed]
  · intro allDecided other listed orphan
    rcases List.mem_cons.mp listed with rfl | listed
    · rw [here, deleted orphan]
    · apply orphansGone _ other listed orphan
      exact fun another member => allDecided another (List.mem_cons_of_mem _ member)
  · rintro ⟨other, listed, undecided⟩
    have inRest : other ∈ items := by
      rcases List.mem_cons.mp listed with rfl | inRest
      · exact absurd decided undecided
      · exact inRest
    obtain ⟨first, member, isFirst, unchanged⟩ := stopped ⟨other, inRest, undecided⟩
    refine ⟨first, List.mem_cons_of_mem _ member, isFirst, ?_⟩
    rw [unchanged, others first member]

end Swept

/-- The deletion of a stored result. -/
theorem deleteResult_of_stored
    {site : DiscoverySite} {key : NamespacedName} {result : DiscoveryResult}
    (stored : site.result? key = some result) :
    (site.deleteResult key).2 = .ok () ∧
      (site.deleteResult key).1.nodes = site.nodes ∧
      (site.deleteResult key).1.result? key = none ∧
      ∀ other, other ≠ key → (site.deleteResult key).1.result? other = site.result? other := by
  have deleted : site.deleteResult key =
      ({ site with
        results := Registry.remove DiscoveryResult.key key site.results
        revision := site.revision + 1 }, .ok ()) := by
    rw [DiscoverySite.deleteResult, stored]
  rw [deleted]
  exact ⟨rfl, rfl, Registry.find?_remove_self, fun _ different =>
    Registry.find?_remove_of_ne different⟩

/-- Induction on the results: each is decided about and deleted if it is an orphan, or
it ends the loop. -/
theorem ensures_deleteOrphans
    (nodeSelector : NodeSelector) (items : List DiscoveryResult) (site : DiscoverySite)
    (distinct : (items.map DiscoveryResult.key).Nodup)
    (stored : ∀ item ∈ items, site.result? item.key = some item) :
    Ensures unfailing (deleteOrphans nodeSelector items)
      (fun _ final => Swept nodeSelector items site final) site := by
  induction items generalizing site with
  | nil => exact ⟨by simp, by simp, by simp, by simp⟩
  | cons item items inductionHypothesis =>
      rw [List.map_cons, List.nodup_cons] at distinct
      have later := fun next => inductionHypothesis next distinct.2
      rw [List.forall_mem_cons] at stored
      rw [deleteOrphans, ensures_bind, ensures_mapError]
      refine (ensures_command (.getNode item.nodeName) _ site).mpr ?_
      dsimp only [DiscoverySite.answer]
      cases found : site.node? item.nodeName with
      | none =>
          refine Swept.stop ?_
          rintro ⟨node, isFound, -⟩
          rw [found] at isFound
          cases isFound
      | some node =>
          simp only [Except.mapError, onSuccess_ok, ensures_bind, ensures_orFail]
          cases matched : matchNodeSelectorTerms node nodeSelector with
          | error errs =>
              refine Swept.stop ?_
              rintro ⟨other, isFound, isMatch, evaluated⟩
              rw [found, Option.some.injEq] at isFound
              rw [← isFound, matched] at evaluated
              cases evaluated
          | ok isMatch =>
              have decided : IsDecided site nodeSelector item := ⟨node, found, isMatch, matched⟩
              have takesPart : TakesPart site nodeSelector item ↔ isMatch = true := by
                constructor
                · rintro ⟨other, isFound, evaluated⟩
                  rw [found, Option.some.injEq] at isFound
                  rw [← isFound, matched] at evaluated
                  exact Except.ok.inj evaluated
                · rintro rfl
                  exact ⟨node, found, matched⟩
              cases isMatch with
              | true =>
                  refine (later site stored.2).mono fun _ final rest => ?_
                  exact rest.step distinct.1 rfl (fun _ _ => rfl) decided (fun _ => rfl)
                    fun orphan => absurd (takesPart.mpr rfl) orphan
              | false =>
                  have deletion := deleteResult_of_stored stored.1
                  simp only [onSuccess_ok, Bool.not_false, if_true, ensures_bind,
                    ensures_mapError]
                  refine (ensures_command (.deleteDiscoveryResult item.key) _ site).mpr ?_
                  dsimp only [DiscoverySite.answer]
                  rw [deletion.1]
                  refine (later _ fun other listed => ?_).mono fun _ final rest => ?_
                  · rw [deletion.2.2.2 other.key, stored.2 other listed]
                    intro same
                    exact distinct.1 (same ▸ List.mem_map_of_mem listed)
                  · exact rest.step distinct.1 deletion.2.1 deletion.2.2.2 decided
                      (fun part => absurd (takesPart.mp part) Bool.false_ne_true)
                      fun _ => deletion.2.2.1

/-! ## Complete cleanup -/

/-- What `deleteOrphanDiscoveryResults` leaves behind when no call goes wrong. -/
def afterCleanup (lvd : LocalVolumeDiscovery) (site : DiscoverySite) : DiscoverySite :=
  ((deleteOrphanDiscoveryResults lvd).run.run controllerServer (fun _ => .none) site).state

variable {lvd : LocalVolumeDiscovery} {nodeSelector : NodeSelector} {site : DiscoverySite}

/-- The loop goes over the results in the namespace of the LocalVolumeDiscovery. -/
theorem swept_afterCleanup
    (distinct : (site.results.map DiscoveryResult.key).Nodup)
    (selector : lvd.nodeSelector = some nodeSelector)
    (nonempty : nodeSelector.nodeSelectorTerms ≠ []) :
    Swept nodeSelector (site.results.filter fun result => result.metadata.ns = lvd.metadata.ns)
      site (afterCleanup lvd site) := by
  have ensures : Ensures unfailing (deleteOrphanDiscoveryResults lvd)
      (fun _ final => Swept nodeSelector
        (site.results.filter fun result => result.metadata.ns = lvd.metadata.ns) site final)
      site := by
    simp only [deleteOrphanDiscoveryResults, selector]
    rw [if_neg nonempty, ensures_bind, ensures_mapError]
    refine (ensures_command (.listDiscoveryResults lvd.metadata.ns) _ site).mpr ?_
    dsimp only [DiscoverySite.answer, Except.mapError]
    refine ensures_deleteOrphans nodeSelector _ site ?_ ?_
    · exact distinct.sublist (List.filter_sublist.map _)
    · intro item listed
      exact Registry.find?_eq_some_of_mem distinct (List.mem_of_mem_filter listed)
  exact Api.run_of_ensures_unfailing ensures

/-- The orphans are all deleted, and nothing else is, just if each result in the
namespace has a node that exists and for which the selector can be evaluated. -/
theorem orphans_cleaned_up_iff
    (distinct : (site.results.map DiscoveryResult.key).Nodup)
    (selector : lvd.nodeSelector = some nodeSelector)
    (nonempty : nodeSelector.nodeSelectorTerms ≠ []) :
    CleanedUp lvd nodeSelector site (afterCleanup lvd site) ↔
      ∀ result ∈ site.results, result.metadata.ns = lvd.metadata.ns →
        IsDecided site nodeSelector result := by
  have swept := swept_afterCleanup distinct selector nonempty
  have inNamespace : ∀ result, result ∈ site.results.filter (fun result =>
      result.metadata.ns = lvd.metadata.ns) ↔
        result ∈ site.results ∧ result.metadata.ns = lvd.metadata.ns := by
    intro result
    rw [List.mem_filter, decide_eq_true_eq]
  have stored : ∀ result ∈ site.results, site.result? result.key = some result :=
    fun result listed => Registry.find?_eq_some_of_mem distinct listed
  constructor
  · intro cleaned
    by_contra undecided
    push Not at undecided
    obtain ⟨result, listed, sameNs, unknown⟩ := undecided
    -- the result that ends the loop is an orphan and is left
    obtain ⟨first, member, isFirst, unchanged⟩ :=
      swept.stopped ⟨result, (inNamespace result).mpr ⟨listed, sameNs⟩, unknown⟩
    rw [inNamespace] at member
    have orphan : ¬TakesPart site nodeSelector first := by
      rintro ⟨node, found, matched⟩
      exact isFirst ⟨node, found, true, matched⟩
    have gone := cleaned.orphansGone first member.1 member.2 orphan
    rw [unchanged, stored first member.1] at gone
    cases gone
  · intro decided
    constructor
    · intro result listed sameNs orphan
      apply swept.orphansGone _ result ((inNamespace result).mpr ⟨listed, sameNs⟩) orphan
      intro item member
      exact decided item ((inNamespace item).mp member).1 ((inNamespace item).mp member).2
    · intro result listed part
      rw [← stored result listed]
      by_cases sameNs : result.metadata.ns = lvd.metadata.ns
      · exact swept.participantsStay result ((inNamespace result).mpr ⟨listed, sameNs⟩)
          (part sameNs)
      · apply swept.othersStay
        intro member
        obtain ⟨other, inList, sameKey⟩ := List.mem_map.mp member
        have otherNs := ((inNamespace other).mp inList).2
        have same : other.metadata.ns = result.metadata.ns :=
          congrArg NamespacedName.ns sameKey
        exact sameNs (same ▸ otherNs)

/-! ## A node that is removed -/

/-- The discovery on the nodes that are labelled as storage nodes. -/
def storageNodeDiscovery : LocalVolumeDiscovery where
  metadata := { name := "auto-discover-devices", ns := "ibm-fusion-access" }
  nodeSelector := some ⟨[{ matchExpressions :=
    [{ key := "storage", operator := .exists }] }]⟩

/-- The result of the node `worker-1`. -/
def workerResult : DiscoveryResult where
  metadata := { name := "discovery-result-worker-1", ns := "ibm-fusion-access" }
  nodeName := "worker-1"

/-- The result of the node `worker-2`. -/
def storageResult : DiscoveryResult where
  metadata := { name := "discovery-result-worker-2", ns := "ibm-fusion-access" }
  nodeName := "worker-2"

/-- The node `worker-1` is not labelled as a storage node, and `worker-2` is. -/
def unlabelledSite : DiscoverySite where
  nodes := [⟨"worker-1", {}⟩, ⟨"worker-2", [("storage", "")]⟩]
  results := [workerResult, storageResult]

/-- The orphan is deleted, and the participant listed after it stays. -/
theorem orphans_cleaned_up_iff_unlabelled :
    (afterCleanup storageNodeDiscovery unlabelledSite).result? workerResult.key = none ∧
      (afterCleanup storageNodeDiscovery unlabelledSite).result? storageResult.key =
        some storageResult := by
  have cleaned : CleanedUp storageNodeDiscovery ⟨[{ matchExpressions :=
      [{ key := "storage", operator := .exists }] }]⟩ unlabelledSite
      (afterCleanup storageNodeDiscovery unlabelledSite) := by
    refine (orphans_cleaned_up_iff (by decide) rfl (by simp)).mpr ?_
    intro result listed _
    rcases List.mem_pair.mp listed with rfl | rfl
    · exact ⟨⟨"worker-1", {}⟩, rfl, false, by decide⟩
    · exact ⟨⟨"worker-2", [("storage", "")]⟩, rfl, true, by decide⟩
  constructor
  · apply cleaned.orphansGone workerResult List.mem_cons_self rfl
    rintro ⟨node, found, matched⟩
    cases found
    revert matched
    decide
  · apply cleaned.othersStay storageResult (by decide)
    intro _
    exact ⟨⟨"worker-2", [("storage", "")]⟩, rfl, by decide⟩

/-- The result of a node that has been removed is not deleted. -/
theorem result_of_removed_node_left :
    ¬CleanedUp storageNodeDiscovery ⟨[{ matchExpressions :=
        [{ key := "storage", operator := .exists }] }]⟩
      { results := [workerResult] }
      (afterCleanup storageNodeDiscovery { results := [workerResult] }) := by
  intro cleaned
  have gone := cleaned.orphansGone workerResult (by simp) rfl (by rintro ⟨_, found, _⟩; cases found)
  have left : (afterCleanup storageNodeDiscovery
      { results := [workerResult] }).result? workerResult.key = some workerResult := by
    decide
  rw [left] at gone
  cases gone

end Discovery
