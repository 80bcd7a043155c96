import FusionAccess.Interaction.Interleaving
import FusionAccess.Interaction.Safe

/-!
# Rely-guarantee reasoning about interleavings

A program that takes turns with others finds the state changed when its next
call is served. A discipline says by which changes each program has to expect
that, and what the calls of each program guarantee to the others. Programs that
follow the discipline one by one follow it when they are interleaved.
-/

namespace Interaction

variable {I : Interface} {S : Server I} {ι α : Type}

/-- The server as one of several programs sees it: the state may be changed
before a call is served. -/
abbrev Server.shared (S : Server I) : Server I where
  State := S.State
  Choice := S.State × S.Choice
  serve := fun choice _ request => S.serve choice.2 choice.1 request

/-- What programs that take turns rely on and guarantee. -/
structure Discipline (S : Server I) (ι α : Type) where
  /-- What holds between any two calls. -/
  invariant : S.State → Prop
  /-- The changes that a program has to expect of the others. -/
  rely : ι → S.State → S.State → Prop
  /-- Two programs may be under way at the same time. -/
  peers : ι → ι → Prop
  /-- The calls that are considered. -/
  admitted : ι → Event S → Prop
  /-- What is known of each call of a program besides. -/
  guarantee : ι → Event S → Prop
  /-- What holds once a program has ended. -/
  ends : ι → α → S.State → Prop
  rely_refl : ∀ index state, rely index state state
  rely_trans : ∀ index first second third,
    rely index first second → rely index second third → rely index first third
  ends_stable : ∀ index value before after,
    rely index before after → ends index value before → ends index value after

namespace Discipline

variable (D : Discipline S ι α)

/-- A call keeps the invariant and does to the others what they rely on. -/
structure Served (index : ι) (event : Event S) : Prop where
  invariant : D.invariant event.after
  rely : ∀ other, D.peers index other → D.rely other event.before event.after
  guarantee : D.guarantee index event

/-- The contract of one program among others. -/
def contract (index : ι) : Contract S.shared where
  rely := fun state request choice =>
    D.rely index state choice.1 ∧ D.invariant choice.1 ∧
      D.admitted index ⟨choice.1, request, choice.2⟩
  guard := fun state request => ∀ before choice, D.rely index state before →
    D.invariant before → D.admitted index ⟨before, request, choice⟩ →
      D.Served index ⟨before, request, choice⟩

/-- The program follows the discipline when the others do. -/
def Follows (index : ι) (program : Program I α) (state : S.State) : Prop :=
  Program.Ensures (S := S.shared) (D.contract index) program (D.ends index) state

variable {D}

/-- Changes by others are no obstacle. -/
theorem Follows.stable
    {index : ι} {program : Program I α} {before after : S.State}
    (follows : D.Follows index program before)
    (changes : D.rely index before after) :
    D.Follows index program after := by
  cases program with
  | done value => exact D.ends_stable index value before after changes follows
  | call request next =>
      refine ⟨fun state choice relied =>
        follows.1 state choice (D.rely_trans _ _ _ _ changes relied),
        fun choice relied => ?_⟩
      exact follows.2 choice ⟨D.rely_trans _ _ _ _ changes relied.1, relied.2⟩

end Discipline

/-- The interleavings of programs that are reached when only peers are under
way together and the environment moves as given. -/
inductive Interleaved
    (programs : ι → Program I α) (peers : ι → ι → Prop)
    (environment : S.State → S.State → Prop) (initial : S.State) :
    Interleaving S ι α → Prop
  | start : Interleaved programs peers environment initial { state := initial }
  | launch {current : Interleaving S ι α}
      (before : Interleaved programs peers environment initial current)
      (index : ι)
      (together : ∀ task ∈ current.tasks,
        peers task.index index ∧ peers index task.index) :
      Interleaved programs peers environment initial
        (current.take programs (.launch index))
  | step {current : Interleaving S ι α}
      (before : Interleaved programs peers environment initial current)
      (position : Nat)
      (choice : S.Choice) :
      Interleaved programs peers environment initial
        (current.take programs (.step position choice))
  | move {current : Interleaving S ι α} {next : S.State}
      (before : Interleaved programs peers environment initial current)
      (moved : environment current.state next) :
      Interleaved programs peers environment initial
        { current with state := next }

/-- The program that starts in a turn. -/
def Turn.launched? : Turn S ι → Option ι
  | .launch index => some index
  | _ => none

/-- A step goes on with a program that has started. -/
theorem map_index_take_step
    (programs : ι → Program I α) (current : Interleaving S ι α)
    (position : Nat) (choice : S.Choice) :
    (current.take programs (.step position choice)).tasks.map Task.index =
      current.tasks.map Task.index := by
  unfold Interleaving.take
  dsimp only
  split
  next index request next found =>
    obtain ⟨inRange, same⟩ := List.getElem?_eq_some_iff.mp found
    have isRunning : position < (current.tasks.map Task.index).length := by
      rwa [List.length_map]
    rw [List.map_set]
    simpa only [List.getElem_map, same] using List.set_getElem_self isRunning
  next => rfl

/-- Turns without moves of the environment, when all programs that start are peers. -/
theorem interleaved_of_together
    {programs : ι → Program I α} {peers : ι → ι → Prop}
    (environment : S.State → S.State → Prop)
    (initial : S.State)
    (turns : List (Turn S ι))
    (together : (turns.filterMap Turn.launched?).Pairwise fun first second =>
      peers first second ∧ peers second first)
    (still : ∀ turn ∈ turns, ∀ change, turn ≠ .move change) :
    Interleaved programs peers environment initial (interleave programs initial turns) := by
  have extended : ∀ current : Interleaving S ι α,
      Interleaved programs peers environment initial current →
      (current.tasks.map Task.index ++ turns.filterMap Turn.launched?).Pairwise
        (fun first second => peers first second ∧ peers second first) →
      Interleaved programs peers environment initial
        (turns.foldl (Interleaving.take programs) current) := by
    clear together
    induction turns with
    | nil => exact fun _ reached _ => reached
    | cons turn turns inductionHypothesis =>
        intro current reached together
        rw [List.foldl_cons]
        have later := inductionHypothesis fun other member =>
          still other (List.mem_cons_of_mem _ member)
        cases turn with
        | launch index =>
            rw [List.filterMap_cons_some (show (Turn.launch index).launched? = some index
              from rfl)] at together
            refine later _ (reached.launch index fun task member => ?_) ?_
            · exact (List.pairwise_append.mp together).2.2 _
                (List.mem_map_of_mem member) _ List.mem_cons_self
            · simpa [Interleaving.take] using together
        | step position choice =>
            refine later _ (reached.step position choice) ?_
            rw [map_index_take_step]
            exact together
        | move change => exact absurd rfl (still _ (by simp) change)
  exact extended _ .start (by simpa using together)

/-- The same when any programs are peers. -/
theorem interleaved_interleave
    {programs : ι → Program I α}
    (environment : S.State → S.State → Prop)
    (initial : S.State)
    (turns : List (Turn S ι))
    (still : ∀ turn ∈ turns, ∀ change, turn ≠ .move change) :
    Interleaved programs (fun _ _ => True) environment initial
      (interleave programs initial turns) :=
  interleaved_of_together environment initial turns
    (List.pairwise_of_forall fun _ _ => ⟨trivial, trivial⟩) still

namespace Discipline

variable (D : Discipline S ι α)

/-- All that is under way follows the discipline, and so do all calls so far:
what a call has left has changed since as its observers expect. -/
structure Upheld (current : Interleaving S ι α) : Prop where
  invariant : D.invariant current.state
  tasks : ∀ (position : Nat) (task : Task I ι α),
    current.tasks[position]? = some task →
      D.Follows task.index task.rest current.state
  apart : ∀ (first second : Nat) (left right : Task I ι α), first ≠ second →
    current.tasks[first]? = some left → current.tasks[second]? = some right →
      D.peers left.index right.index
  log : ∀ occurrence ∈ current.log,
    D.invariant occurrence.event.before ∧
      D.Served occurrence.index occurrence.event ∧
        ∀ observer, (∀ index, D.peers index observer) →
          D.rely observer occurrence.event.after current.state

variable {D}

theorem Upheld.move
    {current : Interleaving S ι α} {next : S.State}
    (upheld : D.Upheld current)
    (invariant : D.invariant next)
    (changes : ∀ index, D.rely index current.state next) :
    D.Upheld { current with state := next } where
  invariant := invariant
  tasks := fun position task found =>
    (upheld.tasks position task found).stable (changes _)
  apart := upheld.apart
  log := fun occurrence member =>
    have known := upheld.log occurrence member
    ⟨known.1, known.2.1, fun observer observes =>
      D.rely_trans _ _ _ _ (known.2.2 observer observes) (changes observer)⟩

theorem Upheld.launch
    {programs : ι → Program I α} {current : Interleaving S ι α}
    (upheld : D.Upheld current)
    {index : ι}
    (follows : D.Follows index (programs index) current.state)
    (together : ∀ task ∈ current.tasks,
      D.peers task.index index ∧ D.peers index task.index) :
    D.Upheld (current.take programs (.launch index)) := by
  have cases : ∀ {position : Nat} {task : Task I ι α},
      (current.tasks ++ [⟨index, programs index⟩])[position]? = some task →
        current.tasks[position]? = some task ∨
          position = current.tasks.length ∧ task = ⟨index, programs index⟩ := by
    intro position task found
    rcases Nat.lt_or_ge position current.tasks.length with earlier | later
    · rw [List.getElem?_append_left earlier] at found
      exact Or.inl found
    · rw [List.getElem?_append_right later, List.getElem?_singleton] at found
      split at found
      · exact Or.inr ⟨by omega, (Option.some.inj found).symm⟩
      · cases found
  refine ⟨upheld.invariant, fun position task found => ?_,
    fun first second left right different foundLeft foundRight => ?_, upheld.log⟩
  · rcases cases found with earlier | ⟨_, rfl⟩
    · exact upheld.tasks position task earlier
    · exact follows
  · rcases cases foundLeft with earlierLeft | ⟨atLeft, rfl⟩ <;>
      rcases cases foundRight with earlierRight | ⟨atRight, rfl⟩
    · exact upheld.apart first second left right different earlierLeft earlierRight
    · exact (together left (List.mem_of_getElem? earlierLeft)).1
    · exact (together right (List.mem_of_getElem? earlierRight)).2
    · exact absurd (atLeft.trans atRight.symm) different

/-- A call of one program is what all others rely on. -/
theorem Upheld.step
    {programs : ι → Program I α} {current : Interleaving S ι α}
    (upheld : D.Upheld current)
    (position : Nat)
    (choice : S.Choice)
    (admitted : ∀ occurrence ∈ (current.take programs (.step position choice)).log,
      D.admitted occurrence.index occurrence.event) :
    D.Upheld (current.take programs (.step position choice)) := by
  unfold Interleaving.take at admitted ⊢
  dsimp only at admitted ⊢
  -- a program that has ended has nothing left to do
  split at admitted
  next index request next found =>
    have follows : D.Follows index (.call request next) current.state :=
      upheld.tasks position _ found
    have isAdmitted : D.admitted index ⟨current.state, request, choice⟩ :=
      admitted ⟨index, ⟨current.state, request, choice⟩⟩ (by simp)
    have served := follows.1 current.state choice (D.rely_refl _ _)
      upheld.invariant isAdmitted
    have changes : ∀ other, D.peers index other →
        D.rely other current.state (S.serve choice current.state request).1 :=
      served.rely
    have setAt : ∀ {other : Nat} {task : Task I ι α},
        (current.tasks.set position
          ⟨index, next (S.serve choice current.state request).2⟩)[other]? = some task →
          other = position ∧
              task = ⟨index, next (S.serve choice current.state request).2⟩ ∨
            other ≠ position ∧ current.tasks[other]? = some task := by
      intro other task set
      rw [List.getElem?_set] at set
      split at set
      next same =>
        split at set
        · exact Or.inl ⟨same.symm, (Option.some.inj set).symm⟩
        · cases set
      next different => exact Or.inr ⟨Ne.symm different, set⟩
    refine ⟨served.invariant, fun other task set => ?_,
      fun first second left right different foundLeft foundRight => ?_,
      fun occurrence member => ?_⟩
    · rcases setAt set with ⟨_, rfl⟩ | ⟨different, earlier⟩
      · exact follows.2 ⟨current.state, choice⟩
          ⟨D.rely_refl _ _, upheld.invariant, isAdmitted⟩
      · exact (upheld.tasks other task earlier).stable
          (changes _ (upheld.apart position other _ task different.symm found earlier))
    · rcases setAt foundLeft with ⟨rfl, rfl⟩ | ⟨_, earlierLeft⟩ <;>
        rcases setAt foundRight with ⟨rfl, rfl⟩ | ⟨_, earlierRight⟩
      · exact absurd rfl different
      · have apart := upheld.apart first second _ right different found earlierRight
        exact apart
      · have apart := upheld.apart first second left _ different earlierLeft found
        exact apart
      · exact upheld.apart first second left right different earlierLeft earlierRight
    · rcases List.mem_append.mp member with earlier | last
      · have known := upheld.log occurrence earlier
        exact ⟨known.1, known.2.1, fun observer observes =>
          D.rely_trans _ _ _ _ (known.2.2 observer observes)
            (changes observer (observes index))⟩
      · rw [List.mem_singleton.mp last]
        exact ⟨upheld.invariant, served, fun observer _ => D.rely_refl _ _⟩
  next => exact upheld

/-- Since the initial state there were only changes that a program has to expect of
its peers, for a program whose peers are all that are under way. -/
def Expected (D : Discipline S ι α) (initial : S.State)
    (current : Interleaving S ι α) : Prop :=
  ∀ observer, (∀ task ∈ current.tasks, D.peers task.index observer) →
    D.rely observer initial current.state

theorem Expected.step
    {programs : ι → Program I α} {initial : S.State} {current : Interleaving S ι α}
    (expected : Expected D initial current)
    (upheld : D.Upheld current)
    (position : Nat)
    (choice : S.Choice)
    (admitted : ∀ occurrence ∈ (current.take programs (.step position choice)).log,
      D.admitted occurrence.index occurrence.event) :
    Expected D initial (current.take programs (.step position choice)) := by
  unfold Interleaving.take at admitted ⊢
  dsimp only at admitted ⊢
  split at admitted
  next index request next found =>
    intro observer observes
    have served := (upheld.tasks position _ found).1 current.state choice
      (D.rely_refl _ _) upheld.invariant
      (admitted ⟨index, ⟨current.state, request, choice⟩⟩ (by simp))
    have isPeer : D.peers index observer :=
      observes _ (List.mem_set (List.getElem?_eq_some_iff.mp found).1 _)
    refine D.rely_trans _ _ _ _ (expected observer fun task member => ?_)
      (served.rely observer isPeer)
    obtain ⟨other, inRange, rfl⟩ := List.mem_iff_getElem.mp member
    by_cases same : other = position
    · subst same
      rw [List.getElem?_eq_getElem inRange, Option.some.injEq] at found
      rwa [found]
    · refine observes _ (List.mem_iff_getElem.mpr ⟨other, ?_, ?_⟩)
      · rwa [List.length_set]
      · exact List.getElem_set_ne (Ne.symm same) _
  next => exact expected

/-- Programs that follow the discipline one by one uphold it together, as long
as their calls are admitted and the environment does what all rely on. A program
is launched in a state that has changed as it has to expect. -/
theorem sound
    {programs : ι → Program I α}
    {environment : S.State → S.State → Prop}
    {initial : S.State}
    {current : Interleaving S ι α}
    (starts : ∀ index state, D.rely index initial state → D.invariant state →
      D.Follows index (programs index) state)
    (moves : ∀ before after, environment before after → D.invariant before →
      D.invariant after ∧ ∀ index, D.rely index before after)
    (initially : D.invariant initial)
    (reached : Interleaved programs D.peers environment initial current)
    (admitted : ∀ occurrence ∈ current.log,
      D.admitted occurrence.index occurrence.event) :
    D.Upheld current := by
  have both : D.Upheld current ∧ Expected D initial current := by
    induction reached with
    | start => exact ⟨⟨initially, by simp, by simp, by simp⟩,
        fun observer _ => D.rely_refl observer initial⟩
    | launch before index together inductionHypothesis =>
        obtain ⟨upheld, expected⟩ := inductionHypothesis admitted
        have relied := expected index fun task member => (together task member).1
        refine ⟨upheld.launch (starts index _ relied upheld.invariant) together,
          fun observer observes => expected observer fun task member => ?_⟩
        exact observes task (List.mem_append_left _ member)
    | @step current before position choice inductionHypothesis =>
        have earlier := inductionHypothesis fun occurrence member =>
          admitted occurrence (by
            unfold Interleaving.take
            dsimp only
            split
            · exact List.mem_append_left _ member
            · exact member)
        exact ⟨earlier.1.step position choice admitted,
          earlier.2.step earlier.1 position choice admitted⟩
    | move before moved inductionHypothesis =>
        obtain ⟨upheld, expected⟩ := inductionHypothesis admitted
        obtain ⟨invariant, changes⟩ := moves _ _ moved upheld.invariant
        exact ⟨upheld.move invariant changes, fun observer observes =>
          D.rely_trans _ _ _ _ (expected observer observes) (changes observer)⟩
  exact both.1

end Discipline
end Interaction
