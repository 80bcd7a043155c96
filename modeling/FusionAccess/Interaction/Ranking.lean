import FusionAccess.Interaction.Run
import Mathlib.Data.Nat.Digits.Defs
import Mathlib.Order.WellFounded

/-!
# Rankings

Calls that never raise a rank, and of which certain ones lower it below the
rank at the start, can be of this kind in finitely many passes only. The rank
of the start is the reference for all calls of a pass, so that a call may undo
a part of what another call of the same pass has gained.
-/

namespace Interaction

variable {I : Interface} {S : Server I} {α ρ : Type}

/-- The call does not raise a state above the reference, and does not raise it
to the reference from below; a call of the given kind lowers it below. -/
structure Lowers [LT ρ] [LE ρ]
    (rank : S.State → ρ) (kind : I.Call → Prop) (reference : ρ)
    (event : Event S) : Prop where
  atMost : rank event.before ≤ reference → rank event.after ≤ reference
  below : rank event.before < reference → rank event.after < reference
  lowers : kind event.request → rank event.after < reference

/-- A run of such calls does not raise the rank, and lowers it with a call of the
kind. -/
theorem Program.run_lowers [Preorder ρ]
    {rank : S.State → ρ}
    {kind : I.Call → Prop}
    {program : Program I α}
    {choices : Nat → S.Choice}
    {state : S.State}
    (lowers : ∀ event ∈ (program.run S choices state).log,
      Lowers rank kind (rank state) event) :
    rank (program.run S choices state).state ≤ rank state ∧
      ∀ event ∈ (program.run S choices state).log, kind event.request →
        rank (program.run S choices state).state < rank state := by
  have atMost := @Program.run_preserves _ α S (fun later => rank later ≤ rank state)
    program choices state fun event member => (lowers event member).atMost
  have below := @Program.run_preserves _ α S (fun later => rank later < rank state)
    program choices state fun event member => (lowers event member).below
  exact ⟨atMost.1 le_rfl, fun event member isKind =>
    below.2 event member ((lowers event member).lowers isKind)⟩

/-- A sequence that does not rise in a well-founded order falls finitely often. -/
theorem eventually_not_falling [Preorder ρ] [WellFoundedLT ρ]
    {sequence : Nat → ρ}
    {first : Nat}
    (falls : ∀ index, first ≤ index → sequence (index + 1) ≤ sequence index) :
    ∃ last, first ≤ last ∧
      ∀ index, last ≤ index → ¬sequence (index + 1) < sequence index := by
  obtain ⟨_, ⟨last, later, rfl⟩, least⟩ :=
    wellFounded_lt.has_min (Set.image sequence {index | first ≤ index})
      ⟨_, first, Nat.le_refl first, rfl⟩
  have reached : ∀ index, last ≤ index → sequence index ≤ sequence last := by
    intro index after
    induction index, after using Nat.le_induction with
    | base => exact le_rfl
    | succ index after inductionHypothesis =>
        exact (falls index (le_trans later after)).trans inductionHypothesis
  refine ⟨last, later, fun index after falling => ?_⟩
  exact least _ ⟨index + 1, le_trans later (Nat.le_succ_of_le after), rfl⟩
    (falling.trans_le (reached index after))

/-- The number with the given binary digits, the least significant ones first. -/
def binary (digits : List Bool) : Nat :=
  Nat.ofDigits 2 (digits.map Bool.toNat)

theorem binary_lt (digits : List Bool) : binary digits < 2 ^ digits.length := by
  have bounded : ∀ digit ∈ digits.map Bool.toNat, digit < 2 := by
    intro digit member
    obtain ⟨bit, -, rfl⟩ := List.mem_map.mp member
    exact Nat.lt_succ_of_le (Bool.toNat_le bit)
  simpa [binary] using Nat.ofDigits_lt_base_pow_length (by omega) bounded

/-- A number falls when a digit falls and the more significant ones stay. -/
theorem binary_falls
    {later now : List Bool}
    (same : later.length = now.length)
    (common : List Bool) :
    binary (later ++ false :: common) < binary (now ++ true :: common) := by
  have bounded := binary_lt later
  simp only [binary, List.map_append, List.map_cons, Nat.ofDigits_append,
    Nat.ofDigits_cons, List.length_map, same] at bounded ⊢
  simp only [Bool.toNat_false, Bool.toNat_true, Nat.mul_add]
  omega

end Interaction
