import FusionAccess.Registry.Keyed

/-!
# Snapshots of versioned records

Every write gives a record a version that is newer than all that are stored. What somebody
has read earlier is therefore still what is stored, if the version is the same: this is what
updates rest on that the server accepts for the current version only.
-/

namespace Registry

variable {α κ : Type}

/-- The records that are stored under their keys, and the latest version given so far. -/
structure Snapshot (α κ : Type) where
  record? : κ → Option α
  revision : Nat

variable {version : α → Nat} {before between after : Snapshot α κ}

/-- No record is newer than the latest version. -/
def Snapshot.Bounded (version : α → Nat) (snapshot : Snapshot α κ) : Prop :=
  ∀ key record, snapshot.record? key = some record → version record ≤ snapshot.revision

/-- What is stored later, and was not written since, was stored before. -/
structure Since (version : α → Nat) (before after : Snapshot α κ) : Prop where
  revision : before.revision ≤ after.revision
  older : ∀ key record, after.record? key = some record →
    version record ≤ before.revision → before.record? key = some record

theorem Since.refl (version : α → Nat) (snapshot : Snapshot α κ) :
    Since version snapshot snapshot :=
  ⟨Nat.le_refl _, fun _ _ stored _ => stored⟩

theorem Since.trans
    (first : Since version before between)
    (second : Since version between after) :
    Since version before after where
  revision := Nat.le_trans first.revision second.revision
  older := by
    intro key record stored old
    have earlier := second.older key record stored (Nat.le_trans old first.revision)
    exact first.older key record earlier old

/-- A record of the version that was read is the record that was read. -/
theorem Since.eq_of_version_eq
    {key : κ} {read stored : α}
    (since : Since version before after)
    (bounded : before.Bounded version)
    (wasRead : before.record? key = some read)
    (isStored : after.record? key = some stored)
    (same : version stored = version read) :
    stored = read := by
  have old : version stored ≤ before.revision := by
    rw [same]
    exact bounded key read wasRead
  have earlier := since.older key stored isStored old
  exact Option.some_inj.mp (earlier.symm.trans wasRead)

/-- A write changes the records under some keys, to ones of the latest version. -/
def Writes (version : α → Nat) (before after : Snapshot α κ) : Prop :=
  before.revision < after.revision ∧ ∀ key, after.record? key = before.record? key ∨
    ∀ record, after.record? key = some record → version record = after.revision

theorem Writes.since (writes : Writes version before after) : Since version before after where
  revision := Nat.le_of_lt writes.1
  older := by
    intro key record stored old
    rcases writes.2 key with same | fresh
    · rwa [← same]
    · have isNew := fresh record stored
      have newer := writes.1
      omega

theorem Writes.bounded
    (writes : Writes version before after)
    (bounded : before.Bounded version) :
    after.Bounded version := by
  intro key record stored
  rcases writes.2 key with same | fresh
  · rw [same] at stored
    exact Nat.le_trans (bounded key record stored) (Nat.le_of_lt writes.1)
  · exact Nat.le_of_eq (fresh record stored)

end Registry
