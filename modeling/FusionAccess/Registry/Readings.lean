import Mathlib.Data.List.Basic

/-!
# Readings of overwriting items

Items are applied to a map one after the other, and each says something under
some of the keys. What the map holds in the end under a key is what the last item
says that says something under it. The order of the items makes no difference
just if any two of them agree where both say something.
-/

namespace Registry

variable {α κ β : Type} {read : α → κ → Option β}

/-- What the last item says that says something under the key. -/
def lastReading? (read : α → κ → Option β) (items : List α) (key : κ) : Option β :=
  items.reverse.findSome? fun item => read item key

/-- Two items say the same where both say something. -/
def Agree (read : α → κ → Option β) (first second : α) : Prop :=
  ∀ key one other, read first key = some one → read second key = some other →
    one = other

theorem lastReading?_append (first second : List α) (key : κ) :
    lastReading? read (first ++ second) key =
      (lastReading? read second key).or (lastReading? read first key) := by
  unfold lastReading?
  rw [List.reverse_append, List.findSome?_append]

theorem lastReading?_singleton (item : α) (key : κ) :
    lastReading? read [item] key = read item key := by
  unfold lastReading?
  rw [List.reverse_singleton, List.findSome?_singleton]

theorem lastReading?_cons (item : α) (items : List α) (key : κ) :
    lastReading? read (item :: items) key =
      (lastReading? read items key).or (read item key) := by
  have split := @lastReading?_append _ _ _ read [item] items key
  rw [lastReading?_singleton] at split
  exact split

/-- Some item says what is read last. -/
theorem exists_of_lastReading?_eq_some
    {items : List α} {key : κ} {value : β}
    (reads : lastReading? read items key = some value) :
    ∃ item ∈ items, read item key = some value := by
  obtain ⟨item, member, stated⟩ := List.exists_of_findSome?_eq_some reads
  exact ⟨item, List.mem_reverse.mp member, stated⟩

theorem lastReading?_eq_none_iff
    {items : List α} {key : κ} :
    lastReading? read items key = none ↔ ∀ item ∈ items, read item key = none := by
  unfold lastReading?
  rw [List.findSome?_eq_none_iff]
  simp only [List.mem_reverse]

/-- Where items agree, each of them says what is read last. -/
theorem lastReading?_eq_some_of_agree
    {items : List α} {item : α} {key : κ} {value : β}
    (agree : ∀ first ∈ items, ∀ second ∈ items, Agree read first second)
    (member : item ∈ items)
    (stated : read item key = some value) :
    lastReading? read items key = some value := by
  cases reads : lastReading? read items key with
  | none =>
      rw [lastReading?_eq_none_iff.mp reads item member] at stated
      cases stated
  | some other =>
      obtain ⟨last, listed, lastStates⟩ := exists_of_lastReading?_eq_some reads
      rw [agree last listed item member key other value lastStates stated]

/-- Where items agree, their order makes no difference. -/
theorem lastReading?_eq_of_perm
    {first second : List α}
    (agree : ∀ one ∈ first, ∀ other ∈ first, Agree read one other)
    (permutes : first.Perm second)
    (key : κ) :
    lastReading? read first key = lastReading? read second key := by
  cases reads : lastReading? read second key with
  | none =>
      rw [lastReading?_eq_none_iff] at reads ⊢
      intro item member
      exact reads item (permutes.mem_iff.mp member)
  | some value =>
      obtain ⟨item, member, stated⟩ := exists_of_lastReading?_eq_some reads
      exact lastReading?_eq_some_of_agree agree (permutes.mem_iff.mpr member) stated

/-- Some order begins with a given item. -/
theorem exists_perm_cons
    {items : List α} {item : α} (member : item ∈ items) :
    ∃ others : List α, (item :: others).Perm items := by
  obtain ⟨before, after, rfl⟩ := List.append_of_mem member
  exact ⟨before ++ after, List.perm_middle.symm⟩

/-- Some order ends with it. -/
theorem exists_perm_append_singleton
    {items : List α} {item : α} (member : item ∈ items) :
    ∃ others : List α, (others ++ [item]).Perm items := by
  obtain ⟨others, permutes⟩ := exists_perm_cons member
  exact ⟨others, (List.perm_append_singleton item others).trans permutes⟩

/-- The order of the items makes no difference for what is held under the keys in
the end just if any two of the items agree. -/
theorem lastReading?_order_irrelevant_iff
    (items : List α) (initial : κ → Option β) :
    (∀ first second : List α, first.Perm items → second.Perm items → ∀ key,
      (lastReading? read first key).or (initial key) =
        (lastReading? read second key).or (initial key)) ↔
      ∀ first ∈ items, ∀ second ∈ items, Agree read first second := by
  constructor
  · intro irrelevant one oneListed other otherListed key oneSaid otherSaid oneStates otherStates
    obtain ⟨first, firstPermutes⟩ := exists_perm_append_singleton oneListed
    obtain ⟨second, secondPermutes⟩ := exists_perm_append_singleton otherListed
    have same := irrelevant _ _ firstPermutes secondPermutes key
    rw [lastReading?_append, lastReading?_append, lastReading?_singleton,
      lastReading?_singleton, oneStates, otherStates] at same
    exact Option.some.inj same
  · intro agree first second firstPermutes secondPermutes key
    have agreeFirst : ∀ one ∈ first, ∀ other ∈ first, Agree read one other := by
      intro one oneListed other otherListed
      exact agree one (firstPermutes.mem_iff.mp oneListed) other
        (firstPermutes.mem_iff.mp otherListed)
    rw [lastReading?_eq_of_perm agreeFirst (firstPermutes.trans secondPermutes.symm)]

end Registry
