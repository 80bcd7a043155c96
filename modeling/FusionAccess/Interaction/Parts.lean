import FusionAccess.Interaction.Interleaving
import FusionAccess.Interaction.Safe

/-!
# Programs as parts of larger programs

A program that talks to one server is used by a program that talks to a larger one: its
calls are embedded, and the larger server answers them from a part of its state. What is
known of the small program carries over, and the state changes in this part only.
-/

namespace Interaction

/-- An interface whose calls are calls of another one. -/
structure Part (I J : Interface) where
  /-- A call as the larger interface has it. -/
  call : I.Call → J.Call
  /-- What the reply to it means. -/
  reply : (request : I.Call) → J.Reply (call request) → I.Reply request

variable {I J : Interface} {S : Server I} {T : Server J} {α β ε : Type}

namespace Program

/-- The program over the larger interface. -/
def within (part : Part I J) : Program I α → Program J α
  | .done value => .done value
  | .call request next =>
      .call (part.call request) fun reply => (next (part.reply request reply)).within part

end Program

/-- A server that serves a part of the calls of a larger one from a part of its state. -/
structure Component (S : Server I) (T : Server J) extends Part I J where
  /-- The part of the state. -/
  view : T.State → S.State
  /-- The state with another part. -/
  put : T.State → S.State → T.State
  /-- What is decided about a call of the part. -/
  choose : T.Choice → S.Choice
  put_view : ∀ state, put state (view state) = state
  view_put : ∀ state next, view (put state next) = next
  put_put : ∀ state first second, put (put state first) second = put state second
  served : ∀ choice state request,
    (T.serve choice state (call request)).1 =
      put state (S.serve (choose choice) (view state) request).1
  replied : ∀ choice state request,
    reply request (T.serve choice state (call request)).2 =
      (S.serve (choose choice) (view state) request).2

namespace Component

variable (component : Component S T) {C : Contract S} {D : Contract T}

/-- A contract of the larger server covers one of the part: it relies on no less about the
embedded calls, and admits what the other one admits. -/
structure Covers (C : Contract S) (D : Contract T) : Prop where
  relies : ∀ state request choice, D.rely state (component.call request) choice →
    C.rely (component.view state) request (component.choose choice)
  guards : ∀ state request, C.guard (component.view state) request →
    D.guard state (component.call request)

variable {component}

/-- What a program ensures on its own it ensures as a part, and the rest of the state stays
as it is. -/
theorem ensures_within
    {program : Program I α} {post : α → S.State → Prop} {state : T.State}
    (covers : component.Covers C D)
    (ensures : program.Ensures C post (component.view state)) :
    (program.within component.toPart).Ensures D
      (fun value final => ∃ next, final = component.put state next ∧ post value next)
      state := by
  induction program generalizing state with
  | done value => exact ⟨component.view state, (component.put_view state).symm, ensures⟩
  | call request next inductionHypothesis =>
      refine ⟨covers.guards state request ensures.1, fun choice relied => ?_⟩
      have rest := ensures.2 _ (covers.relies state request choice relied)
      change ((next (component.reply request _)).within component.toPart).Ensures D _ _
      rw [component.replied, component.served]
      refine (inductionHypothesis _ ?_).mono ?_
      · rw [component.view_put]
        exact rest
      · rintro value final ⟨last, isLast, holds⟩
        exact ⟨last, by rw [isLast, component.put_put], holds⟩

end Component

namespace Fallible

/-- The program over the larger interface. -/
def within (part : Part I J) (program : Fallible I ε α) : Fallible J ε α :=
  ExceptT.mk (Program.within part program.run)

variable {component : Component S T} {C : Contract S} {D : Contract T}

/-- What a program ensures on its own it ensures as a part. -/
theorem ensures_within
    {program : Fallible I ε α} {post : Except ε α → S.State → Prop} {state : T.State}
    (covers : component.Covers C D)
    (ensures : Ensures C program post (component.view state)) :
    Ensures D (program.within component.toPart)
      (fun result final => ∃ next, final = component.put state next ∧ post result next)
      state :=
  Component.ensures_within covers ensures

end Fallible
end Interaction
