import FusionAccess.Interaction.Interleaving

/-!
# Programs that run one at a time

A program only starts when all others have ended, but the environment may change
the state between any two of its calls. What is shown of a program that is under
way, for each of its calls and for each change by the environment, then holds
throughout.
-/

namespace Interaction

variable {I : Interface} {S : Server I} {ι α : Type}

/-- The program has nothing left to do. -/
def Program.ended : Program I α → Bool
  | .done _ => true
  | .call _ _ => false

/-- What may be left of a program after some of its calls. -/
inductive Program.Residual (program : Program I α) : Program I α → Prop
  | start : Residual program program
  | call {request : I.Call} {next : I.Reply request → Program I α}
      (before : Residual program (.call request next))
      (reply : I.Reply request) :
      Residual program (next reply)

namespace Interleaving

/-- No program is under way. -/
def Idle (current : Interleaving S ι α) : Prop :=
  ∀ task ∈ current.tasks, task.rest.ended = true

instance (current : Interleaving S ι α) : Decidable current.Idle :=
  inferInstanceAs (Decidable (∀ task ∈ current.tasks, _ = _))

/-- One program is under way, and this is left of it. -/
def Runs (current : Interleaving S ι α) (index : ι) (rest : Program I α) : Prop :=
  rest.ended = false ∧ ∃ earlier, current.tasks = earlier ++ [⟨index, rest⟩] ∧
    ∀ task ∈ earlier, task.rest.ended = true

/-- A program that is under way with others that have ended is the one that runs. -/
theorem Runs.unique
    {current : Interleaving S ι α} {index : ι} {rest : Program I α}
    (runs : current.Runs index rest)
    {task : Task I ι α}
    (member : task ∈ current.tasks)
    (goesOn : task.rest.ended = false) :
    task = ⟨index, rest⟩ := by
  obtain ⟨_, earlier, tasks, ended⟩ := runs
  rw [tasks] at member
  rcases List.mem_append.mp member with listed | last
  · rw [ended task listed] at goesOn
    cases goesOn
  · exact List.mem_singleton.mp last

/-- A call of the program that runs. -/
theorem Runs.take_step
    (programs : ι → Program I α)
    {current : Interleaving S ι α} {index : ι}
    {request : I.Call} {next : I.Reply request → Program I α}
    (runs : current.Runs index (.call request next))
    {position : Nat} {task : Task I ι α}
    (found : current.tasks[position]? = some task)
    (goesOn : task.rest.ended = false)
    (choice : S.Choice) :
    ∃ earlier, (∀ task ∈ earlier, task.rest.ended = true) ∧
      current.take programs (.step position choice) =
        { state := (S.serve choice current.state request).1
          tasks := earlier ++ [⟨index, next (S.serve choice current.state request).2⟩]
          log := current.log ++ [⟨index, ⟨current.state, request, choice⟩⟩] } := by
  have same := runs.unique (List.mem_of_getElem? found) goesOn
  obtain ⟨_, earlier, tasks, ended⟩ := runs
  refine ⟨earlier, ended, ?_⟩
  -- the programs before the last have ended, so the position is the last
  have isLast : position = earlier.length := by
    rcases Nat.lt_trichotomy position earlier.length with before | last | behind
    · rw [tasks, List.getElem?_append_left before] at found
      rw [ended task (List.mem_of_getElem? found)] at goesOn
      cases goesOn
    · exact last
    · rw [tasks, List.getElem?_eq_none (by simp; omega)] at found
      cases found
  subst isLast
  subst same
  simp only [take, found]
  simp [tasks]

/-- An interleaving is idle or one program runs, and it then is as given. -/
inductive OneAtATime
    (idle : S.State → Prop) (running : ι → Program I α → S.State → Prop)
    (current : Interleaving S ι α) : Prop
  | resting (ended : current.Idle) (holds : idle current.state)
  | busy (index : ι) (rest : Program I α) (runs : current.Runs index rest)
      (holds : running index rest current.state)

variable {idle : S.State → Prop} {running : ι → Program I α → S.State → Prop}

/-- A program has started, or has received the reply to a call. -/
theorem oneAtATime_append
    {current : Interleaving S ι α} {earlier : List (Task I ι α)} {index : ι}
    {rest : Program I α}
    (ends : ∀ value, running index (.done value) current.state → idle current.state)
    (tasks : current.tasks = earlier ++ [⟨index, rest⟩])
    (ended : ∀ task ∈ earlier, task.rest.ended = true)
    (holds : running index rest current.state) :
    OneAtATime idle running current := by
  cases rest with
  | done value =>
      refine .resting (fun task member => ?_) (ends value holds)
      rw [tasks] at member
      rcases List.mem_append.mp member with listed | last
      · exact ended task listed
      · rw [List.mem_singleton.mp last]
        rfl
  | call request next => exact .busy index _ ⟨rfl, earlier, tasks, ended⟩ holds

/-- A step is a call of the program that runs, if it is one at all. -/
theorem OneAtATime.take_step
    (programs : ι → Program I α)
    {kept : Occurrence S ι → Prop} {current : Interleaving S ι α}
    {position : Nat} {choice : S.Choice}
    (alone : OneAtATime idle running current)
    (log : ∀ occurrence ∈ current.log, kept occurrence)
    (ends : ∀ index value state, running index (.done value) state → idle state)
    (steps : ∀ index request next, current.Runs index (.call request next) →
      current.tasks[position]? = some ⟨index, .call request next⟩ →
      running index (.call request next) current.state →
        kept ⟨index, ⟨current.state, request, choice⟩⟩ ∧
          running index (next (S.serve choice current.state request).2)
            (S.serve choice current.state request).1) :
    (∀ occurrence ∈ (current.take programs (.step position choice)).log,
        kept occurrence) ∧
      OneAtATime idle running (current.take programs (.step position choice)) := by
  cases found : current.tasks[position]? with
  | none =>
      simp only [take, found]
      exact ⟨log, alone⟩
  | some task =>
      obtain ⟨index, rest⟩ := task
      cases rest with
      | done value =>
          simp only [take, found]
          exact ⟨log, alone⟩
      | call request next =>
          cases alone with
          | resting ended _ => cases ended _ (List.mem_of_getElem? found)
          | busy other rest runs holds =>
              cases runs.unique (List.mem_of_getElem? found) rfl
              obtain ⟨keeps, goesOn⟩ := steps index request next runs found holds
              obtain ⟨earlier, ended, taken⟩ := runs.take_step programs found rfl choice
              rw [taken]
              refine ⟨?_, oneAtATime_append (fun value => ends index value _) rfl ended
                goesOn⟩
              rw [List.forall_mem_append, List.forall_mem_singleton]
              exact ⟨log, keeps⟩

end Interleaving

/-- Programs that run one at a time keep to what is shown of each call of the
program that runs, as long as the environment keeps what holds of it. -/
theorem Reached.oneAtATime
    {programs : ι → Program I α}
    {admitted : Interleaving S ι α → Turn S ι → Prop}
    {initial : S.State}
    {idle : S.State → Prop}
    {running : ι → Program I α → S.State → Prop}
    {kept : Occurrence S ι → Prop}
    {current : Interleaving S ι α}
    (reached : Reached programs admitted initial current)
    (initially : idle initial)
    (launches : ∀ current index, admitted current (.launch index) →
      current.Idle ∧ (idle current.state → running index (programs index) current.state))
    (steps : ∀ current index request next position choice,
      current.Runs index (.call request next) →
      current.tasks[position]? = some ⟨index, .call request next⟩ →
      admitted current (.step position choice) →
      running index (.call request next) current.state →
        kept ⟨index, ⟨current.state, request, choice⟩⟩ ∧
          running index (next (S.serve choice current.state request).2)
            (S.serve choice current.state request).1)
    (ends : ∀ index value state, running index (.done value) state → idle state)
    (movesIdle : ∀ current change, admitted current (.move change) →
      idle current.state → idle (change current.state))
    (movesRunning : ∀ current index rest change, current.Runs index rest →
      admitted current (.move change) → running index rest current.state →
        running index rest (change current.state)) :
    ∀ occurrence ∈ current.log, kept occurrence := by
  have both : (∀ occurrence ∈ current.log, kept occurrence) ∧
      current.OneAtATime idle running := by
    refine @Reached.invariant _ _ _ _ _ _ _ (fun current =>
      (∀ occurrence ∈ current.log, kept occurrence) ∧ current.OneAtATime idle running)
      _ reached ⟨by simp, .resting (by simp [Interleaving.Idle]) initially⟩ ?_
    rintro before turn ⟨log, alone⟩ admits
    cases turn with
    | launch index =>
        refine ⟨log, ?_⟩
        obtain ⟨rests, start⟩ := launches before index admits
        cases alone with
        | resting ended holds =>
            exact Interleaving.oneAtATime_append (fun value => ends index value _) rfl
              ended (start holds)
        | busy index rest runs holds =>
            obtain ⟨goesOn, earlier, tasks, _⟩ := runs
            have isEnded := rests ⟨index, rest⟩ (by simp [tasks])
            rw [goesOn] at isEnded
            cases isEnded
    | step position choice =>
        exact alone.take_step programs log ends fun index request next runs found =>
          steps before index request next position choice runs found admits
    | move change =>
        refine ⟨log, ?_⟩
        cases alone with
        | resting ended holds =>
            exact .resting ended (movesIdle before change admits holds)
        | busy index rest runs holds =>
            exact .busy index rest runs (movesRunning before index rest change runs admits holds)
  exact both.1

/-- A program takes several steps in a row. -/
theorem Reached.steps
    {programs : ι → Program I α}
    {admitted : Interleaving S ι α → Turn S ι → Prop}
    {initial : S.State} {current : Interleaving S ι α}
    (reached : Reached programs admitted initial current)
    (position : Nat)
    (choice : S.Choice)
    (count : Nat)
    (admits : ∀ taken < count,
      admitted ((List.replicate taken (.step position choice)).foldl
        (Interleaving.take programs) current) (.step position choice)) :
    Reached programs admitted initial
      ((List.replicate count (.step position choice)).foldl
        (Interleaving.take programs) current) := by
  induction count with
  | zero => exact reached
  | succ count inductionHypothesis =>
      rw [List.replicate_succ', List.foldl_append, List.foldl_cons, List.foldl_nil]
      refine (inductionHypothesis fun taken fewer => ?_).turn _ (admits count (by omega))
      exact admits taken (by omega)

end Interaction
