import Identity.GoMap.Basic

/-! A table under READ COMMITTED. A transaction sees the committed rows and its own writes;
the rows it locks or writes stay locked until it ends. -/

/-- Locks on keys, each held by one transaction. -/
abbrev LockTable (κ : Type) : Type := GoMap κ Nat

namespace LockTable
variable {κ : Type} [DecidableEq κ] (locks : LockTable κ) (tx : Nat) (key : κ)

/-- Nobody else holds the lock. -/
def free : Bool := (locks.lookup key).all fun holder => holder == tx

def take : LockTable κ := locks.insert key tx

/-- A transaction that ends gives up what it holds. -/
def release : LockTable κ := locks.keep fun holder => holder != tx

variable {locks tx key} {other : κ} {holder : Nat}

lemma eq_of_free (hfree : free locks tx key = true) (hheld : locks.lookup key = some holder) : holder = tx := by
  rw [free, hheld] at hfree
  exact beq_iff_eq.mp hfree

@[simp]
lemma lookup_take (other : κ) : (take locks tx key).lookup other = if other = key then some tx
    else locks.lookup other :=
  GoMap.lookup_insert_eq ..

lemma lookup_release : (release locks tx).lookup key = some holder ↔ locks.lookup key = some holder ∧ holder ≠ tx := by
  rw [release, GoMap.lookup_keep_eq_some, bne_iff_ne]

/-- Taking a free lock leaves what others hold. -/
lemma lookup_take_of_ne (hfree : free locks tx key = true) (hheld : locks.lookup other = some holder)
    (hne : holder ≠ tx) : (take locks tx key).lookup other = some holder := by
  rw [lookup_take]
  split
  · grind [eq_of_free]
  · exact hheld

end LockTable

namespace ReadCommitted
variable {κ α : Type} [DecidableEq κ]

/-- Rows with writes applied to them: a write of none deletes the row. -/
def overlay (rows : GoMap κ α) (writes : GoMap κ (Option α)) : GoMap κ α :=
  writes.entries.foldl (fun table entry =>
    match entry.2 with
    | some row => table.insert entry.1 row
    | none => table.erase entry.1) rows

/-- The committed rows, the writes of the transactions that are open, and the row locks. -/
structure Store (κ α : Type) where
  committed : GoMap κ α
  writes : Nat → GoMap κ (Option α)
  locks : LockTable κ

/-- A table in which no transaction is open. -/
def Store.idle (rows : GoMap κ α) : Store κ α := ⟨rows, fun _ => ∅, (∅ : GoMap κ Nat)⟩

lemma lookup_foldl_writes (entries : List ((_ : κ) × Option α)) (hnodup : entries.NodupKeys) (rows : GoMap κ α)
    (key : κ) :
    (entries.foldl (fun table entry =>
      match entry.2 with
      | some row => table.insert entry.1 row
      | none => table.erase entry.1) rows).lookup key = (entries.dlookup key).getD (rows.lookup key) := by
  induction entries generalizing rows with
  | nil => rfl
  | cons entry rest ih => grind [List.dlookup_eq_none]

namespace Store
variable (s : Store κ α) (tx : Nat) (key : κ)

/-- What a statement of the transaction reads. -/
def visible : GoMap κ α := overlay s.committed (s.writes tx)

def read : Option α := s.visible tx |>.lookup key

/-- Whether the row's lock can be had. -/
def free : Bool := s.locks.free tx key

def lock : Store κ α := { s with locks := s.locks.take tx key }

/-- Write or delete the row, under its lock. -/
def write (value : Option α) : Store κ α :=
  { s with writes := Function.update s.writes tx ((s.writes tx).insert key value), locks := s.locks.take tx key }

def rollback : Store κ α :=
  { s with writes := Function.update s.writes tx ∅, locks := s.locks.release tx }

def commit : Store κ α := { s.rollback tx with committed := s.visible tx }

/-- A statement that is a transaction of its own. -/
def put (row : α) : Store κ α := { s with committed := s.committed.insert key row }

/-- Whatever a transaction has written it has locked. -/
@[grind]
structure Sound : Prop where
  locked : ∀ tx key value, (s.writes tx).lookup key = some value → s.locks.lookup key = some tx

variable {s tx key} {query : κ} {value : Option α} {other : Nat}

lemma lookup_visible : (s.visible tx).lookup query = ((s.writes tx).lookup query).getD (s.committed.lookup query) :=
  lookup_foldl_writes _ (s.writes tx).nodupKeys ..

lemma read_eq_committed (hnone : (s.writes tx).lookup key = none) : s.read tx key = s.committed.lookup key := by
  rw [read, lookup_visible, hnone, Option.getD_none]

/-- A transaction that has written nothing sees what is committed. -/
lemma lookup_visible_of_unwritten (hnone : s.writes tx = ∅) :
    (s.visible tx).lookup query = s.committed.lookup query := by
  rw [lookup_visible, hnone]
  rfl

lemma writes_write (other : Nat) (query : κ) : ((s.write tx key value).writes other).lookup query =
    if other = tx ∧ query = key then some value else (s.writes other).lookup query := by
  simp only [write]
  by_cases htx : other = tx
  · grind
  · rw [Function.update_of_ne htx, if_neg fun h => htx h.1]

/-- A transaction reads what it has written. -/
lemma read_write : (s.write tx key value).read tx query = if query = key then value else s.read tx query := by
  rw [read, lookup_visible, writes_write, read, lookup_visible]
  by_cases hkey : query = key
  · rw [if_pos ⟨rfl, hkey⟩, if_pos hkey, Option.getD_some]
  · rw [if_neg fun h => hkey h.2, if_neg hkey]
    rfl

omit [DecidableEq κ] in
lemma writes_rollback (other : Nat) : (s.rollback tx).writes other = if other = tx then ∅ else s.writes other := by
  simp only [rollback]
  split
  · rename_i htx
    rw [htx, Function.update_self]
  · rename_i htx
    rw [Function.update_of_ne htx]

lemma lookup_commit : (s.commit tx).committed.lookup query =
    ((s.writes tx).lookup query).getD (s.committed.lookup query) := lookup_visible

namespace Sound

lemma idle (rows : GoMap κ α) : (Store.idle rows).Sound := ⟨fun _ _ _ hwrite => absurd hwrite (by simp [Store.idle])⟩

section
variable (hsound : s.Sound)
include hsound

/-- A row whose lock another holds has no write of this transaction. -/
lemma unwritten (hheld : s.locks.lookup key = some other) (hne : other ≠ tx) : (s.writes tx).lookup key = none := by
  cases hwrite : (s.writes tx).lookup key with
  | none => rfl
  | some value => exact absurd (Option.some.inj (hheld.symm.trans (hsound.locked tx key value hwrite))) hne

lemma lock (hfree : s.free tx key = true) : (s.lock tx key).Sound := by
  refine ⟨fun tx' key' value hwrite => ?_⟩
  have hheld := hsound.locked tx' key' value hwrite
  by_cases htx : tx' = tx
  · simp only [Store.lock, LockTable.lookup_take]
    split
    · rw [htx]
    · exact hheld
  · exact LockTable.lookup_take_of_ne hfree hheld htx

lemma write (hfree : s.free tx key = true) (value : Option α) : (s.write tx key value).Sound := by
  refine ⟨fun tx' key' value' hwrite => ?_⟩
  rw [writes_write] at hwrite
  split at hwrite
  · rename_i hsame
    obtain ⟨rfl, rfl⟩ := hsame
    simp only [write, LockTable.lookup_take, if_pos]
  · exact (hsound.lock hfree).locked tx' key' value' hwrite

lemma rollback : (s.rollback tx).Sound := by
  refine ⟨fun tx' key' value hwrite => ?_⟩
  rw [writes_rollback] at hwrite
  split at hwrite
  · cases hwrite
  · rename_i hne
    exact LockTable.lookup_release.mpr ⟨hsound.locked tx' key' value hwrite, hne⟩

lemma commit : (s.commit tx).Sound := by
  have hrollback : (s.rollback tx).Sound := hsound.rollback
  exact ⟨hrollback.locked⟩

end
end Sound
end Store
end ReadCommitted
