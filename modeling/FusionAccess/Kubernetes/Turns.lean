import FusionAccess.Interaction.Interference
import FusionAccess.Kubernetes.Api

/-!
# Calls among other clients

A client that takes turns with others finds what is stored when its call is served. A read
leaves it alone; of a write it has to be shown what it does to the others.
-/

namespace Kubernetes

open Interaction

variable {ι α : Type} {D : Discipline apiServer ι α} {index : ι} {call : Call}

/-- A read changes nothing, whoever issues it. -/
theorem served_of_isRead
    {event : Event apiServer}
    (reads : event.request.isRead = true)
    (invariant : D.invariant event.before)
    (guarantee : D.guarantee index event) :
    D.Served index event := by
  have unchanged : event.after = event.before := by
    have cases := after_cases event
    rwa [event.before.afterCall_of_isRead reads, or_self] at cases
  refine ⟨?_, fun other _ => ?_, guarantee⟩
  · rw [unchanged]
    exact invariant
  · rw [unchanged]
    exact D.rely_refl other _

/-- What has to be shown about a read among others: the state may have changed as the
client expects, and then the read is answered or fails. -/
theorem ensures_read_among
    {post : Except Failure call.Yield → Cluster → Prop}
    {state : Cluster}
    (reads : call.isRead = true)
    (guarantee : ∀ event : Event apiServer, event.request = call →
      D.guarantee index event)
    (success : ∀ before pick, D.rely index state before → D.invariant before →
      post (before.answer pick call).2 before)
    (failed : ∀ before (failure : Failure), failure.Transient →
      D.rely index state before → D.invariant before → post (.error failure) before) :
    Fallible.Ensures (D.contract index) (request call) post state := by
  refine ⟨fun before choice _ invariant _ =>
    served_of_isRead reads invariant (guarantee _ rfl), ?_⟩
  rintro ⟨before, choice⟩ ⟨relied, invariant, _⟩
  change post (serve choice before call).2 (serve choice before call).1
  have same := before.afterCall_of_isRead reads
  rcases serve_cases choice before call with
    served | ⟨_, _, ⟨failure, transient, served⟩ | ⟨failure, unspecified, served⟩⟩
  · rw [served, same]
    exact success before choice.pick relied invariant
  · rw [served]
    exact failed before failure transient relied invariant
  · rw [served, same]
    exact failed before failure (by simp [Failure.Transient, unspecified]) relied invariant

namespace Api

variable {api : Api} {State : Type} {answer : Answer api State}
  {D : Discipline (server answer) ι α} {request : api.Request}

/-- A call leaves the state alone, or is carried out. -/
theorem after_cases (event : Event (server answer)) :
    event.after = event.before ∨ event.after = (answer event.before event.request).1 := by
  unfold Event.after
  rcases @serve_cases api State answer event.choice event.before event.request with
    ⟨_, served⟩ | ⟨_, _, _, _, served | served⟩
  · exact Or.inr (by rw [served])
  · exact Or.inl (by rw [served])
  · exact Or.inr (by rw [served])

/-- What has to be shown about a call among others. -/
theorem ensures_ask_among
    {post : Except Failure (api.Yield request) → State → Prop}
    {state : State}
    (served : ∀ before fault, D.rely index state before → D.invariant before →
      D.Served index ⟨before, request, fault⟩)
    (success : ∀ before, D.rely index state before → D.invariant before →
      post (answer before request).2 (answer before request).1)
    (failed : ∀ before (failure : Failure), failure.Transient →
      D.rely index state before → D.invariant before →
        ∀ final, final = before ∨ final = (answer before request).1 →
          post (.error failure) final) :
    Fallible.Ensures (D.contract index) (api.ask request) post state := by
  refine ⟨fun before fault relied invariant _ => served before fault relied invariant, ?_⟩
  rintro ⟨before, fault⟩ ⟨relied, invariant, _⟩
  change post ((server answer).serve fault before request).2
    ((server answer).serve fault before request).1
  rcases @serve_cases api State answer fault before request with
    ⟨_, isServed⟩ | ⟨_, _, failure, transient, isServed | isServed⟩
  · rw [isServed]
    exact success before relied invariant
  · rw [isServed]
    exact failed before failure transient relied invariant _ (Or.inl rfl)
  · rw [isServed]
    exact failed before failure transient relied invariant _ (Or.inr rfl)

end Api
end Kubernetes
