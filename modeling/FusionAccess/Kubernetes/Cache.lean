import FusionAccess.Kubernetes.Frames

/-!
# Reads from a cache

A client that watches claims reads them from its own memory, which lags behind
what is stored: a read may return any version that was stored before. All other
calls go to the API server.
-/

namespace Kubernetes

open Interaction

/-- What is stored, and what was stored earlier, the latest version first. -/
structure Versions where
  stored : Cluster
  earlier : List Cluster := []

namespace Versions

/-- The version of the given age; there is none before the first. -/
def ofAge (versions : Versions) (age : Nat) : Cluster :=
  (versions.stored :: versions.earlier).getD age versions.stored

/-- Store a new version. -/
def push (versions : Versions) (cluster : Cluster) : Versions :=
  ⟨cluster, versions.stored :: versions.earlier⟩

end Versions

/-- How a call is served when claims are read from a cache of the given age. -/
def serveCached
    (choice : Choice × Nat) (versions : Versions) :
    (call : Call) → Versions × Except Failure call.Yield
  | .getClaim key =>
      (versions, (serve choice.1 (versions.ofAge choice.2) (.getClaim key)).2)
  | call =>
      let answer := serve choice.1 versions.stored call
      (versions.push answer.1, answer.2)

/-- The API server behind a cache of claims. -/
abbrev cachedServer : Server kubernetes where
  State := Versions
  Choice := Choice × Nat
  serve := serveCached

/-- Behind a cache, too, a call is carried out on what is stored or not at
all. -/
theorem stored_serveCached
    (choice : Choice × Nat) (versions : Versions) (call : Call) :
    (serveCached choice versions call).1.stored =
        versions.stored.afterCall call ∨
      (serveCached choice versions call).1.stored = versions.stored := by
  have served : (serve choice.1 versions.stored call).1 =
        versions.stored.afterCall call ∨
      (serve choice.1 versions.stored call).1 = versions.stored := by
    rcases serve_cases choice.1 versions.stored call with
      served | ⟨_, _, ⟨failure, _, served⟩ | ⟨failure, _, served⟩⟩
    · exact Or.inl (by rw [served])
    · exact Or.inr (by rw [served])
    · exact Or.inl (by rw [served])
  cases call
  case getClaim => exact Or.inr rfl
  all_goals exact served

end Kubernetes
