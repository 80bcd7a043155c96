import Mathlib.Data.List.Basic

/-!
# Alerts

The store of a page keeps its alerts in a list, of which the page shows the first. An
alert about the requirements of a storage cluster is put in front and updated in place;
all others queue behind it, and dismissing an alert drops the first one. The list is
thus a queue with one place before it.
-/

namespace Console.Alerts

/-! ## The store -/

/-- The key of the alert about the requirements. -/
def requirementsKey : String := "minimum-shared-disks-and-nodes"

/-- `AlertProps["variant"]`. -/
inductive AlertVariant
  | success
  | danger
  | warning
  | info
  | custom

/-- The text of an alert, or a list of texts. -/
inductive AlertDescription
  | text (description : String)
  | items (descriptions : List String)

/-- What alerts do when they are dismissed: they dispatch `global/dismissAlert`. -/
inductive DismissCallback
  | dispatchDismissAlert

/-- `Alert`. -/
structure Alert where
  key : Option String := none
  variant : Option AlertVariant := none
  title : String
  description : Option AlertDescription := none
  dismiss : Option DismissCallback := none

/-- The state of the button; a field may be undefined. -/
structure Cta where
  isDisabled : Option Bool := none
  isLoading : Option Bool := none

/-- Part of the state of the button: `none` for a field that is not given. -/
structure PartialCta where
  isDisabled : Option (Option Bool) := none
  isLoading : Option (Option Bool) := none

/-- `State`. -/
structure State where
  docTitle : String
  alerts : List Alert := []
  cta : Cta := {}

/-- `Actions`, and whatever else an action may claim to be. -/
inductive Actions
  | updateDocTitle (payload : String)
  | addAlert (payload : Alert)
  | dismissAlert
  | updateCta (payload : PartialCta)
  | unknown (type : String)

/-- The alert is the one about the requirements. -/
def Alert.isRequirements (alert : Alert) : Bool :=
  alert.key = some requirementsKey

/-- The fields of the payload replace those of the button. -/
def Cta.spread (cta : Cta) (payload : PartialCta) : Cta where
  isDisabled := payload.isDisabled.getD cta.isDisabled
  isLoading := payload.isLoading.getD cta.isLoading

/-- `global/addAlert`. -/
def addAlert (payload : Alert) (alerts : List Alert) : List Alert :=
  if payload.isRequirements then
    match alerts.findIdx? Alert.isRequirements with
    | none => payload :: alerts
    | some 0 => alerts.set 0 payload
    | some (index + 1) => payload :: alerts.eraseIdx (index + 1)
  else alerts ++ [payload]

/-- `reducer`; for an unknown action it throws. -/
def reducer (draft : State) : Actions → Except String State
  | .updateDocTitle payload => .ok { draft with docTitle := payload }
  | .addAlert payload => .ok { draft with alerts := addAlert payload draft.alerts }
  | .dismissAlert => .ok { draft with alerts := draft.alerts.tail }
  | .updateCta payload => .ok { draft with cta := draft.cta.spread payload }
  | .unknown type =>
      .error s!"Unhandled action type: {type}. Please check the reducer."

/-- The action that a callback dispatches. -/
def DismissCallback.action : DismissCallback → Actions
  | .dispatchDismissAlert => .dismissAlert

section Translated

-- the translation service, which is given a text and what is filled in
variable (t : String → List (String × String) → String)

/-- `initialState`. -/
def initialState : State where
  docTitle := t "Fusion Access for SAN" []
  cta := { isDisabled := some true, isLoading := some false }

/-! ## The requirements -/

/-- `MINIMUM_AMOUNT_OF_NODES`. -/
def minimumAmountOfNodes : Nat := 3

/-- `MINIMUM_AMOUNT_OF_SHARED_DISKS`. -/
def minimumAmountOfSharedDisks : Nat := 1

/-- The alert for the two conditions that may be unmet. -/
def requirementsAlert (fewDisks fewNodes : Bool) : Alert where
  key := some requirementsKey
  title := t "Storage cluster requirements" []
  description := some (.items ([
    if fewDisks then
      t ("Selected nodes must share at least " ++
          "\x7b\x7bMINIMUM_AMOUNT_OF_SHARED_DISKS_LITERAL\x7d\x7d disk")
        [("MINIMUM_AMOUNT_OF_SHARED_DISKS_LITERAL", t "one" [])]
    else "",
    if fewNodes then
      t "At least \x7b\x7bMINIMUM_AMOUNT_OF_NODES_LITERAL\x7d\x7d nodes must be selected."
        [("MINIMUM_AMOUNT_OF_NODES_LITERAL", t "three" [])]
    else ""].filter (· ≠ "")))
  variant := some .warning
  dismiss := some .dispatchDismissAlert

/-- What the effect of `useValidateMinimumRequirements` dispatches. -/
def validateMinimumRequirements
    (loaded : Bool) (selectedNodesCount sharedDisksCount : Nat) (store : State) :
    List Actions :=
  let fewDisks := decide (sharedDisksCount < minimumAmountOfSharedDisks)
  let fewNodes := decide (selectedNodesCount < minimumAmountOfNodes)
  if !loaded then []
  else if fewDisks || fewNodes then
    [.updateCta { isDisabled := some (some true) },
      .addAlert (requirementsAlert t fewDisks fewNodes)]
  else
    .updateCta { isDisabled := some (some false) } ::
      (((store.alerts.find? Alert.isRequirements).bind Alert.dismiss).map
        DismissCallback.action).toList

end Translated

/-! ## Queues with a place before them -/

/-- The alert about the requirements, if there is one, and the queue behind it. -/
structure AlertQueue where
  requirements : Option Alert
  others : List Alert
  requirements_isRequirements : ∀ alert ∈ requirements, alert.isRequirements = true
  others_isRequirements : ∀ alert ∈ others, alert.isRequirements = false

namespace AlertQueue

/-- The alerts of a queue as a list. -/
def toList (queue : AlertQueue) : List Alert :=
  queue.requirements.toList ++ queue.others

/-- The queue without alerts. -/
def empty : AlertQueue where
  requirements := none
  others := []
  requirements_isRequirements := by simp
  others_isRequirements := by simp

/-- An alert takes the place in front, or queues. -/
def add (queue : AlertQueue) (payload : Alert) : AlertQueue :=
  if isRequirements : payload.isRequirements = true then
    { queue with
      requirements := some payload
      requirements_isRequirements := by simpa using isRequirements }
  else
    { queue with
      others := queue.others ++ [payload]
      others_isRequirements := by
        intro alert listed
        rcases List.mem_append.mp listed with queued | last
        · exact queue.others_isRequirements alert queued
        · rw [List.mem_singleton.mp last]
          exact Bool.eq_false_iff.mpr isRequirements }

/-- The place in front is cleared; when it is empty, the queue moves on. -/
def dismiss (queue : AlertQueue) : AlertQueue where
  requirements := none
  others := if queue.requirements.isSome then queue.others else queue.others.tail
  requirements_isRequirements := by simp
  others_isRequirements := by
    intro alert listed
    split at listed
    · exact queue.others_isRequirements alert listed
    · exact queue.others_isRequirements alert (List.mem_of_mem_tail listed)

/-- What an action does to the queue. -/
def act (queue : AlertQueue) : Actions → AlertQueue
  | .addAlert payload => queue.add payload
  | .dismissAlert => queue.dismiss
  | _ => queue

@[simp] theorem toList_empty : empty.toList = [] := rfl

theorem filter_toList (queue : AlertQueue) :
    queue.toList.filter (fun alert => !alert.isRequirements) = queue.others := by
  have front :
      queue.requirements.toList.filter (fun alert => !alert.isRequirements) = [] := by
    rw [List.filter_eq_nil_iff]
    intro alert listed
    simp [queue.requirements_isRequirements alert (Option.mem_toList.mp listed)]
  rw [toList, List.filter_append, front, List.nil_append, List.filter_eq_self]
  intro alert listed
  simp [queue.others_isRequirements alert listed]

theorem filter_isRequirements_toList (queue : AlertQueue) :
    queue.toList.filter Alert.isRequirements = queue.requirements.toList := by
  have front : queue.requirements.toList.filter Alert.isRequirements =
      queue.requirements.toList := by
    rw [List.filter_eq_self]
    intro alert listed
    exact queue.requirements_isRequirements alert (Option.mem_toList.mp listed)
  have behind : queue.others.filter Alert.isRequirements = [] := by
    rw [List.filter_eq_nil_iff]
    intro alert listed
    simp [queue.others_isRequirements alert listed]
  rw [toList, List.filter_append, front, behind, List.append_nil]

/-- An alert with the key is the first one of the list. -/
theorem eq_of_getElem?_toList
    {queue : AlertQueue} {index : Nat} {alert : Alert}
    (listed : queue.toList[index]? = some alert)
    (isRequirements : alert.isRequirements = true) :
    index = 0 ∧ queue.requirements = some alert := by
  have notQueued : alert ∉ queue.others := by
    intro queued
    rw [queue.others_isRequirements alert queued] at isRequirements
    cases isRequirements
  unfold toList at listed
  cases front : queue.requirements with
  | none =>
      rw [front] at listed
      exact absurd (List.mem_of_getElem? listed) notQueued
  | some first =>
      rw [front] at listed
      cases index with
      | zero => exact ⟨rfl, listed⟩
      | succ index =>
          have queued : queue.others[index]? = some alert := listed
          exact absurd (List.mem_of_getElem? queued) notQueued

/-- The key is looked up at the first index, or nowhere. -/
theorem findIdx?_toList (queue : AlertQueue) :
    queue.toList.findIdx? Alert.isRequirements =
      if queue.requirements.isSome then some 0 else none := by
  unfold toList
  cases front : queue.requirements with
  | none =>
      exact List.findIdx?_eq_none_iff.mpr queue.others_isRequirements
  | some first =>
      have isFirst := queue.requirements_isRequirements first front
      change (first :: queue.others).findIdx? Alert.isRequirements = some 0
      rw [List.findIdx?_cons, if_pos isFirst]

theorem find?_toList (queue : AlertQueue) :
    queue.toList.find? Alert.isRequirements = queue.requirements := by
  rw [← List.head?_filter, filter_isRequirements_toList, Option.head?_toList]

theorem addAlert_toList (queue : AlertQueue) (payload : Alert) :
    addAlert payload queue.toList = (queue.add payload).toList := by
  unfold addAlert add
  by_cases isRequirements : payload.isRequirements = true
  · rw [if_pos isRequirements, dif_pos isRequirements, findIdx?_toList]
    unfold toList
    cases front : queue.requirements with
    | none => rfl
    | some first => rfl
  · rw [if_neg isRequirements, dif_neg isRequirements]
    unfold toList
    rw [List.append_assoc]

theorem tail_toList (queue : AlertQueue) : queue.toList.tail = queue.dismiss.toList := by
  change (queue.requirements.toList ++ queue.others).tail =
    if queue.requirements.isSome then queue.others else queue.others.tail
  cases queue.requirements with
  | none => rfl
  | some first => rfl

end AlertQueue

/-! ## Runs of the store -/

/-- A reduced action acts on the queue. -/
theorem alerts_reducer
    {state next : State} {action : Actions} {queue : AlertQueue}
    (reduced : reducer state action = .ok next)
    (same : state.alerts = queue.toList) :
    next.alerts = (queue.act action).toList := by
  cases action with
  | updateDocTitle payload =>
      cases reduced
      exact same
  | addAlert payload =>
      cases reduced
      change Console.Alerts.addAlert payload state.alerts = _
      rw [same, AlertQueue.addAlert_toList]
      rfl
  | dismissAlert =>
      cases reduced
      change state.alerts.tail = _
      rw [same, AlertQueue.tail_toList]
      rfl
  | updateCta payload =>
      cases reduced
      exact same
  | unknown type => cases reduced

/-- The alerts of a store are those of a queue, whatever has been dispatched. -/
theorem alerts_of_run
    {state next : State} {actions : List Actions} {queue : AlertQueue}
    (run : actions.foldlM reducer state = .ok next)
    (same : state.alerts = queue.toList) :
    next.alerts = (actions.foldl AlertQueue.act queue).toList := by
  induction actions generalizing state queue with
  | nil =>
      cases run
      exact same
  | cons action rest inductionHypothesis =>
      rw [List.foldlM_cons] at run
      cases reduced : reducer state action with
      | error message =>
          rw [reduced] at run
          cases run
      | ok following =>
          rw [reduced] at run
          exact inductionHypothesis run (alerts_reducer reduced same)

/-- The alert in front was there before the action, or is what the action adds. -/
theorem AlertQueue.requirements_act
    {queue : AlertQueue} {action : Actions} {alert : Alert}
    (front : (queue.act action).requirements = some alert) :
    queue.requirements = some alert ∨ action = .addAlert alert := by
  cases action with
  | addAlert payload =>
      change (queue.add payload).requirements = some alert at front
      unfold add at front
      split at front
      · cases front
        exact Or.inr rfl
      · exact Or.inl front
  | dismissAlert => cases front
  | updateDocTitle payload => exact Or.inl front
  | updateCta payload => exact Or.inl front
  | unknown type => exact Or.inl front

theorem AlertQueue.requirements_run
    {queue : AlertQueue} {actions : List Actions} {alert : Alert}
    (front : (actions.foldl act queue).requirements = some alert) :
    queue.requirements = some alert ∨ .addAlert alert ∈ actions := by
  induction actions generalizing queue with
  | nil => exact Or.inl front
  | cons action rest inductionHypothesis =>
      rcases inductionHypothesis front with earlier | later
      · rcases requirements_act earlier with before | added
        · exact Or.inl before
        · exact Or.inr (by simp [added])
      · exact Or.inr (List.mem_cons_of_mem _ later)

/-- The alerts of a store are those of a queue whose front has been dispatched. -/
theorem exists_queue
    {t : String → List (String × String) → String}
    {actions : List Actions} {state : State}
    (reached : actions.foldlM reducer (initialState t) = .ok state) :
    ∃ queue : AlertQueue, state.alerts = queue.toList ∧
      ∀ alert, queue.requirements = some alert → .addAlert alert ∈ actions := by
  refine ⟨_, alerts_of_run reached AlertQueue.toList_empty.symm, fun alert front => ?_⟩
  refine (AlertQueue.requirements_run front).resolve_left fun before => ?_
  cases before

/-- At most one alert has the key, it is the first one, and its callback drops it and
no other. -/
theorem requirements_alert_dismissed_alone
    {t : String → List (String × String) → String}
    {actions : List Actions} {state : State}
    (reached : actions.foldlM reducer (initialState t) = .ok state) :
    (state.alerts.filter Alert.isRequirements).length ≤ 1 ∧
      ∀ index alert, state.alerts[index]? = some alert → alert.isRequirements = true →
        index = 0 ∧ ∃ rest, state.alerts = alert :: rest ∧
          (∀ other ∈ rest, other.isRequirements = false) ∧
          reducer state .dismissAlert = .ok { state with alerts := rest } ∧
          ∀ callback ∈ alert.dismiss,
            reducer state callback.action = .ok { state with alerts := rest } := by
  obtain ⟨queue, same, _⟩ := exists_queue reached
  constructor
  · rw [same, AlertQueue.filter_isRequirements_toList]
    exact Option.length_toList_le
  · intro index alert listed isRequirements
    rw [same] at listed
    obtain ⟨first, front⟩ := AlertQueue.eq_of_getElem?_toList listed isRequirements
    have split : state.alerts = alert :: queue.others := by
      rw [same, AlertQueue.toList, front]
      rfl
    have dropped :
        reducer state .dismissAlert = .ok { state with alerts := queue.others } := by
      rw [reducer, split, List.tail_cons]
    exact ⟨first, queue.others, split, queue.others_isRequirements, dropped,
      fun callback _ => dropped⟩

/-- An alert about a failed read, the requirements, and another failure behind them. -/
theorem requirements_alert_dismissed_alone_queued :
    ∃ state : State,
      state.alerts.map Alert.title =
        ["Storage cluster requirements", "Failed to load Nodes", "An error occurred"] ∧
      (state.alerts.filter Alert.isRequirements).length ≤ 1 ∧
      ∀ index alert, state.alerts[index]? = some alert → alert.isRequirements = true →
        index = 0 ∧ ∃ rest, state.alerts = alert :: rest ∧
          (∀ other ∈ rest, other.isRequirements = false) ∧
          reducer state .dismissAlert = .ok { state with alerts := rest } ∧
          ∀ callback ∈ alert.dismiss,
            reducer state callback.action = .ok { state with alerts := rest } :=
  ⟨_, rfl, @requirements_alert_dismissed_alone (fun text _ => text)
    [.addAlert { title := "Failed to load Nodes" },
      .addAlert (requirementsAlert (fun text _ => text) true true),
      .addAlert { title := "An error occurred" },
      .addAlert (requirementsAlert (fun text _ => text) false true)] _ rfl⟩

/-! ## The effect -/

theorem isRequirements_requirementsAlert
    {t : String → List (String × String) → String} (fewDisks fewNodes : Bool) :
    (requirementsAlert t fewDisks fewNodes).isRequirements = true :=
  decide_eq_true rfl

/-- The effect shows the requirements while they are unmet, and takes back what it has
shown when they are met; the other alerts stay as they are. -/
theorem alerts_validateMinimumRequirements
    {t : String → List (String × String) → String}
    {actions : List Actions} {state : State}
    (reached : actions.foldlM reducer (initialState t) = .ok state)
    (dismissible : ∀ payload, .addAlert payload ∈ actions →
      payload.isRequirements = true → payload.dismiss.isSome = true)
    (selectedNodesCount sharedDisksCount : Nat) :
    ∃ next,
      (validateMinimumRequirements t true selectedNodesCount sharedDisksCount state).foldlM
        reducer state = .ok next ∧
      next.alerts =
        (if sharedDisksCount < minimumAmountOfSharedDisks ∨
            selectedNodesCount < minimumAmountOfNodes then
          [requirementsAlert t (sharedDisksCount < minimumAmountOfSharedDisks)
            (selectedNodesCount < minimumAmountOfNodes)]
        else []) ++ state.alerts.filter fun alert => !alert.isRequirements := by
  obtain ⟨queue, same, added⟩ := exists_queue reached
  rw [same, AlertQueue.filter_toList]
  unfold validateMinimumRequirements
  by_cases unmet : sharedDisksCount < minimumAmountOfSharedDisks ∨
      selectedNodesCount < minimumAmountOfNodes
  · have shown : (decide (sharedDisksCount < minimumAmountOfSharedDisks) ||
        decide (selectedNodesCount < minimumAmountOfNodes)) = true := by
      simpa using unmet
    simp only [Bool.not_true, Bool.false_eq_true, if_false, shown, if_true, if_pos unmet]
    refine ⟨_, rfl, ?_⟩
    change addAlert (requirementsAlert t (sharedDisksCount < minimumAmountOfSharedDisks)
      (selectedNodesCount < minimumAmountOfNodes)) state.alerts = _
    rw [same, AlertQueue.addAlert_toList, AlertQueue.add,
      dif_pos (isRequirements_requirementsAlert _ _)]
    rfl
  · have hidden : (decide (sharedDisksCount < minimumAmountOfSharedDisks) ||
        decide (selectedNodesCount < minimumAmountOfNodes)) = false := by
      simpa using unmet
    simp only [Bool.not_true, Bool.false_eq_true, if_false, hidden, if_neg unmet]
    rw [List.nil_append, same, AlertQueue.find?_toList]
    cases front : queue.requirements with
    | none =>
        refine ⟨_, rfl, ?_⟩
        change state.alerts = _
        rw [same, AlertQueue.toList, front]
        rfl
    | some first =>
        have isFirst := queue.requirements_isRequirements first front
        obtain ⟨callback, dismiss⟩ :=
          Option.isSome_iff_exists.mp (dismissible first (added first front) isFirst)
        rw [Option.bind_some, dismiss]
        refine ⟨_, rfl, ?_⟩
        change state.alerts.tail = _
        rw [same, AlertQueue.toList, front]
        rfl

end Console.Alerts
