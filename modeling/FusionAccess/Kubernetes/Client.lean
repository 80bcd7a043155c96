import FusionAccess.Interaction.Safe
import FusionAccess.Kubernetes.Cluster

/-!
# Contracts of single calls

How a client may reason about one call: which replies and which states it has
to expect from the API server, given what a contract relies on.
-/

namespace Kubernetes

open Interaction

/-- The call only reads. -/
def Call.isRead : Call → Bool
  | .getClaim _ | .list _ _ | .get _ _ | .getStorageClass _
  | .listPersistentVolumes | .listNodes | .getDiscoveryResult _
  | .lookupDeploymentNamespace | .now | .randomIndex _ => true
  | _ => false

/-- An error that says nothing about what is stored. -/
def Failure.Transient (failure : Failure) : Prop :=
  failure.reason ≠ .notFound ∧ failure.reason ≠ .alreadyExists

@[simp] theorem Failure.transient_wrap (message : String) (failure : Failure) :
    (failure.wrap message).Transient ↔ failure.Transient := Iff.rfl

@[simp] theorem Failure.reason_wrap (message : String) (failure : Failure) :
    (failure.wrap message).reason = failure.reason := rfl

theorem Failure.transient_errorf (message : String) :
    (errorf message).Transient := by
  simp [Failure.Transient, errorf]

theorem Refusal.transient_failure (message : String) (refusal : Refusal) :
    (refusal.failure message).Transient := by
  cases refusal <;> simp [Failure.Transient, Refusal.failure]

/-- The state after a call that is carried out. -/
def Cluster.afterCall (cluster : Cluster) (call : Call) : Cluster :=
  (cluster.answer 0 call).1

/-- A random number has no influence on what is stored. -/
theorem Cluster.answer_state (cluster : Cluster) (pick : Nat) (call : Call) :
    (cluster.answer pick call).1 = cluster.afterCall call := by
  cases call <;> rfl

theorem Cluster.afterCall_of_isRead
    (cluster : Cluster) {call : Call} (reads : call.isRead = true) :
    cluster.afterCall call = cluster := by
  cases call <;> first | rfl | simp [Call.isRead] at reads

variable {C : Contract apiServer}

/-- The contract admits that the call fails and leaves the given state. -/
def MayFail
    (C : Contract apiServer) (cluster : Cluster) (call : Call)
    (final : Cluster) : Prop :=
  ∃ choice : Choice,
    C.rely cluster call choice ∧ choice.fault ≠ .none ∧ call.remote = true ∧
      (serve choice cluster call).1 = final

/-- The contract admits that some call fails. -/
def Faulty (C : Contract apiServer) : Prop :=
  ∃ cluster call final, MayFail C cluster call final

/-- The contract admits that the call, which only reads, fails. -/
def ReadMayFail (C : Contract apiServer) (cluster : Cluster) (call : Call) : Prop :=
  call.isRead = true ∧ MayFail C cluster call cluster

/-- The contract admits that some call that only reads fails. -/
def FailsReads (C : Contract apiServer) : Prop :=
  ∃ cluster call, ReadMayFail C cluster call

theorem FailsReads.faulty (fails : FailsReads C) : Faulty C := by
  obtain ⟨cluster, call, _, mayFail⟩ := fails
  exact ⟨cluster, call, cluster, mayFail⟩

/-- The contract admits every call that only reads. -/
def AdmitsReads (C : Contract apiServer) : Prop :=
  ∀ (cluster : Cluster) (call : Call), call.isRead = true → C.guard cluster call

/-- The contract under which a client may do anything. -/
abbrev free : Contract apiServer := Contract.demand fun _ _ => True

theorem admitsReads_free : AdmitsReads free := fun _ _ _ => trivial

/-- A call is carried out, refused, or carried out without a reply. -/
theorem serve_cases (choice : Choice) (cluster : Cluster) (call : Call) :
    serve choice cluster call =
        (cluster.afterCall call, (cluster.answer choice.pick call).2) ∨
      choice.fault ≠ .none ∧ call.remote = true ∧
        ((∃ failure : Failure, failure.Transient ∧
            serve choice cluster call = (cluster, .error failure)) ∨
          ∃ failure : Failure, failure.reason = .unspecified ∧
            serve choice cluster call =
              (cluster.afterCall call, .error failure)) := by
  have state := cluster.answer_state choice.pick call
  unfold serve
  by_cases remote : call.remote = true
  · rw [if_pos remote]
    cases fault : choice.fault with
    | none => exact Or.inl (by rw [← state])
    | refused refusal message =>
        exact Or.inr ⟨by simp, remote, Or.inl
          ⟨_, refusal.transient_failure message, rfl⟩⟩
    | lost message =>
        exact Or.inr ⟨by simp, remote, Or.inr
          ⟨errorf message, rfl, by rw [← state]⟩⟩
  · rw [if_neg remote]
    exact Or.inl (by rw [← state])

/-- A call is carried out or leaves the state alone. -/
theorem serve_state (choice : Choice) (cluster : Cluster) (call : Call) :
    (serve choice cluster call).1 = cluster.afterCall call ∨
      (serve choice cluster call).1 = cluster := by
  rcases serve_cases choice cluster call with
    served | ⟨_, _, ⟨_, _, served⟩ | ⟨_, _, served⟩⟩
  · exact Or.inl (by rw [served])
  · exact Or.inr (by rw [served])
  · exact Or.inl (by rw [served])

/-- A call that is not refused is carried out. -/
theorem serve_state_of_accepted
    {choice : Choice}
    (accepted : ∀ refusal message, choice.fault ≠ .refused refusal message)
    (cluster : Cluster)
    (call : Call) :
    (serve choice cluster call).1 = cluster.afterCall call := by
  have state := cluster.answer_state choice.pick call
  unfold serve
  split
  · cases fault : choice.fault with
    | none => exact state
    | refused refusal message => exact absurd fault (accepted refusal message)
    | lost message => exact state
  · exact state

/-- The state after an event: its call was carried out or changed nothing. -/
theorem after_cases (event : Event apiServer) :
    event.after = event.before.afterCall event.request ∨ event.after = event.before :=
  serve_state event.choice event.before event.request

/-- A call that succeeds is carried out. -/
theorem answer_of_serve_ok
    {choice : Choice} {cluster : Cluster} {call : Call} {value : call.Yield}
    (succeeded : (serve choice cluster call).2 = .ok value) :
    (cluster.answer choice.pick call).2 = .ok value := by
  rcases serve_cases choice cluster call with
    served | ⟨_, _, ⟨_, _, served⟩ | ⟨_, _, served⟩⟩
  · rwa [served] at succeeded
  · rw [served] at succeeded
    cases succeeded
  · rw [served] at succeeded
    cases succeeded

/-- What has to be shown about one call: it is guarded, and the postcondition
survives success, refusal and a lost reply. -/
theorem ensures_request
    {call : Call}
    {post : Except Failure call.Yield → Cluster → Prop}
    {cluster : Cluster}
    (guarded : C.guard cluster call)
    (success : ∀ pick,
      post (cluster.answer pick call).2 (cluster.afterCall call))
    (refused : ∀ failure : Failure, failure.Transient →
      MayFail C cluster call cluster → post (.error failure) cluster)
    (lost : ∀ failure : Failure, failure.reason = .unspecified →
      MayFail C cluster call (cluster.afterCall call) →
        post (.error failure) (cluster.afterCall call)) :
    Fallible.Ensures C (request call) post cluster := by
  refine ⟨guarded, fun choice relied => ?_⟩
  change post (serve choice cluster call).2 (serve choice cluster call).1
  rcases serve_cases choice cluster call with
    served | ⟨faulty, remote, ⟨failure, transient, served⟩ |
      ⟨failure, unspecified, served⟩⟩
  · rw [served]
    exact success choice.pick
  · rw [served]
    exact refused failure transient ⟨choice, relied, faulty, remote, by rw [served]⟩
  · rw [served]
    exact lost failure unspecified ⟨choice, relied, faulty, remote, by rw [served]⟩

/-- A call that is refused for certain changes nothing. -/
theorem ensures_request_refused
    {call : Call}
    {post : Except Failure call.Yield → Cluster → Prop}
    {cluster : Cluster}
    (guarded : C.guard cluster call)
    (remote : call.remote = true)
    (refused : ∀ choice, C.rely cluster call choice →
      ∃ refusal message, choice.fault = .refused refusal message)
    (failed : ∀ failure : Failure, failure.Transient → post (.error failure) cluster) :
    Fallible.Ensures C (request call) post cluster := by
  refine ⟨guarded, fun choice relied => ?_⟩
  obtain ⟨refusal, message, fault⟩ := refused choice relied
  change post (serve choice cluster call).2 (serve choice cluster call).1
  unfold serve
  rw [if_pos remote, fault]
  exact failed _ (refusal.transient_failure message)

/-- A call that only reads leaves the state alone. -/
theorem ensures_query
    {call : Call}
    {post : Except Failure call.Yield → Cluster → Prop}
    {cluster : Cluster}
    (guarded : C.guard cluster call)
    (reads : call.isRead = true)
    (success : ∀ pick, post (cluster.answer pick call).2 cluster)
    (failed : ∀ failure : Failure, failure.Transient →
      MayFail C cluster call cluster → post (.error failure) cluster) :
    Fallible.Ensures C (request call) post cluster := by
  have unchanged := cluster.afterCall_of_isRead reads
  refine ensures_request guarded ?_ failed ?_
  · rw [unchanged]
    exact success
  · intro failure unspecified mayFail
    rw [unchanged] at mayFail ⊢
    refine failed failure ?_ mayFail
    simp [Failure.Transient, unspecified]

/-- The same where every read is admitted. -/
theorem ensures_read
    {call : Call}
    {post : Except Failure call.Yield → Cluster → Prop}
    {cluster : Cluster}
    (admits : AdmitsReads C)
    (reads : call.isRead = true)
    (success : ∀ pick, post (cluster.answer pick call).2 cluster)
    (failed : ∀ failure : Failure, failure.Transient →
      MayFail C cluster call cluster → post (.error failure) cluster) :
    Fallible.Ensures C (request call) post cluster :=
  ensures_query (admits cluster call reads) reads success failed

/-- Drawing a number yields the one that the environment has decided about. -/
theorem ensures_draw
    {bound : Nat}
    {post : Except Failure Nat → Cluster → Prop}
    {cluster : Cluster}
    (admits : AdmitsReads C)
    (success : ∀ choice, C.rely cluster (.randomIndex bound) choice →
      post (cluster.answer choice.pick (.randomIndex bound)).2 cluster)
    (failed : ∀ failure : Failure, failure.Transient →
      MayFail C cluster (.randomIndex bound) cluster → post (.error failure) cluster) :
    Fallible.Ensures C (request (.randomIndex bound)) post cluster := by
  refine ⟨admits _ _ rfl, fun choice relied => ?_⟩
  change post (serve choice cluster (.randomIndex bound)).2
    (serve choice cluster (.randomIndex bound)).1
  rcases serve_cases choice cluster (.randomIndex bound) with
    served | ⟨faulty, remote, ⟨failure, transient, served⟩ |
      ⟨failure, unspecified, served⟩⟩
  · rw [served]
    exact success choice relied
  · rw [served]
    exact failed failure transient ⟨choice, relied, faulty, remote, by rw [served]⟩
  · rw [served]
    refine failed failure (by simp [Failure.Transient, unspecified])
      ⟨choice, relied, faulty, remote, by rw [served]; rfl⟩

/-- A read in the process itself cannot fail. -/
theorem ensures_local
    {call : Call}
    {post : Except Failure call.Yield → Cluster → Prop}
    {cluster : Cluster}
    (guarded : C.guard cluster call)
    (reads : call.isRead = true)
    (isLocal : call.remote = false)
    (success : ∀ pick, post (cluster.answer pick call).2 cluster) :
    Fallible.Ensures C (request call) post cluster := by
  refine ⟨guarded, fun choice _ => ?_⟩
  change post (serve choice cluster call).2 (serve choice cluster call).1
  rcases serve_cases choice cluster call with served | ⟨_, remote, _⟩
  · rw [served, cluster.afterCall_of_isRead reads]
    exact success choice.pick
  · rw [isLocal] at remote
    cases remote

/-! ## Replies whatever the state -/

/-- What every reply tells: an object that was asked for has the key it was
asked for, and listed objects live in the namespace. -/
def Honest : (call : Call) → Except Failure call.Yield → Prop
  | .getClaim key, .ok claim => claim.key = key
  | .list _ ns, .ok items => ∀ item ∈ items, item.metadata.ns = ns
  | .get _ key, .ok object => object.key = key
  | .getStorageClass name, .ok storageClass => storageClass.name = name
  | _, _ => True

theorem honest_error (call : Call) (failure : Failure) :
    Honest call (.error failure) := by
  cases call <;> trivial

/-- The API server is honest. -/
theorem honest_answer (pick : Nat) (cluster : Cluster) (call : Call) :
    Honest call (cluster.answer pick call).2 := by
  cases call with
  | getClaim key =>
      simp only [Cluster.answer, Cluster.claim?]
      split
      next found => exact (Registry.find?_eq_some found).2
      next => trivial
  | list kind ns =>
      intro item member
      simpa using (List.mem_filter.mp member).2
  | get kind key =>
      simp only [Cluster.answer, Cluster.object?]
      split
      next found => exact (Registry.find?_eq_some found).2
      next => trivial
  | getStorageClass name =>
      simp only [Cluster.answer, Cluster.storageClass?]
      split
      next found => exact (Registry.find?_eq_some found).2
      next => trivial
  | _ => trivial

/-- A call is safe when it is guarded and preserves the invariant where it is
carried out. -/
theorem safe_request
    {invariant : Cluster → Prop}
    {call : Call}
    (guarded : ∀ state, invariant state → C.guard state call)
    (preserved : ∀ state, invariant state → invariant (state.afterCall call)) :
    Fallible.SafeThen C invariant (request call) (Honest call) := by
  intro state holds
  refine ensures_request (guarded state holds) (fun pick => ?_) ?_ ?_
  · exact ⟨honest_answer pick state call, preserved state holds⟩
  · exact fun failure _ _ => ⟨honest_error call failure, holds⟩
  · exact fun failure _ _ => ⟨honest_error call failure, preserved state holds⟩

/-- A call that only reads is safe when it is admitted. -/
theorem safe_read
    {invariant : Cluster → Prop}
    {call : Call}
    (admits : AdmitsReads C)
    (reads : call.isRead = true) :
    Fallible.SafeThen C invariant (request call) (Honest call) :=
  safe_request (fun state _ => admits state call reads) fun state holds => by
    rw [state.afterCall_of_isRead reads]
    exact holds

end Kubernetes
