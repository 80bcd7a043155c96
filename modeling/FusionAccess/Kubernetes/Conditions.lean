import FusionAccess.Kubernetes.Objects

/-!
# Setting conditions

The library for API objects sets a condition in a list of conditions: the first condition
of the type is replaced, and keeps its time unless its status changes.
-/

namespace Kubernetes

/-- The time of a condition that is set. -/
def transitionTime (now : Nat) (conditions : List Condition) (condition : Condition) : Nat :=
  match findStatusCondition conditions condition.type with
  | some existing =>
      if existing.status = condition.status then existing.lastTransitionTime else now
  | none => now

/-- `meta.SetStatusCondition`, for a condition without a time. -/
def setStatusCondition
    (now : Nat) (conditions : List Condition) (condition : Condition) : List Condition :=
  Registry.upsert Condition.type
    { condition with lastTransitionTime := transitionTime now conditions condition } conditions

/-- The status of the first condition of a type. -/
def statusOf? (conditions : List Condition) (conditionType : ConditionType) :
    Option ConditionStatus :=
  (findStatusCondition conditions conditionType).map Condition.status

/-- Reading the status of a type after a condition is set. -/
theorem statusOf?_setStatusCondition
    (now : Nat) (conditions : List Condition) (condition : Condition)
    (other : ConditionType) :
    statusOf? (setStatusCondition now conditions condition) other =
      if condition.type = other then some condition.status else statusOf? conditions other := by
  rw [statusOf?, setStatusCondition, findStatusCondition, Registry.find?_upsert]
  by_cases same : condition.type = other
  · rw [if_pos same, if_pos same]
    rfl
  · rw [if_neg same, if_neg same]
    rfl

/-- Types stay unique. -/
theorem nodup_setStatusCondition
    {conditions : List Condition}
    (distinct : (conditions.map Condition.type).Nodup)
    (now : Nat) (condition : Condition) :
    ((setStatusCondition now conditions condition).map Condition.type).Nodup :=
  Registry.nodup_upsert _ distinct

end Kubernetes
