import Mathlib.Data.List.AList
import Mathlib.Data.Option.Defs

/-- A Go map from keys to rows: a finite table with at most one row per key.
    Iteration follows the insertion list, while Go leaves the order open, so a
    result that depends on it must be stated of every row. -/
abbrev GoMap (κ : Type) (α : Type) : Type := AList (fun _ : κ => α)

namespace GoMap
open AList
variable {κ α : Type} [DecidableEq κ]

/-- Loop over the table and overwrite every row with `f row`. -/
def mapRows (m : GoMap κ α) (f : α → α) : GoMap κ α where
  entries := m.entries.map (Sigma.map id fun _ => f)
  nodupKeys := m.nodupKeys.map₂ (fun _ => f) m.entries

/-- Loop over the table and `delete` every row that fails `p`. -/
def keep (m : GoMap κ α) (p : α → Bool) : GoMap κ α where
  entries := m.entries.filter fun entry => p entry.2
  nodupKeys := m.nodupKeys.sublist List.filter_sublist

/-- The rows of the table, in iteration order. -/
def rows (m : GoMap κ α) : List α := m.entries.map fun entry => entry.2

/-- Loop over the table and stop at a row that satisfies `p`. -/
def findRow (m : GoMap κ α) (p : α → Bool) : Option α := m.rows.find? p

/-- Loop over the table looking for a row that satisfies `p`. -/
def anyRow (m : GoMap κ α) (p : α → Bool) : Bool := m.rows.any p

/-- Overwrite the row of a key, if there is one, with `f row`. -/
def modify (m : GoMap κ α) (key : κ) (f : α → α) : GoMap κ α :=
  match m.lookup key with
  | none => m
  | some row => m.insert key (f row)

variable {m : GoMap κ α} {key query : κ} {row found : α}

@[grind =]
lemma mem_rows_iff : row ∈ m.rows ↔ ∃ key, m.lookup key = some row := by
  constructor
  · intro hmem
    obtain ⟨entry, hentry, rfl⟩ := List.mem_map.mp hmem
    exact ⟨entry.1, mem_lookup_iff.mpr hentry⟩
  · rintro ⟨key, hlookup⟩
    exact List.mem_map.mpr ⟨⟨key, row⟩, mem_lookup_iff.mp hlookup, rfl⟩

/-- A fact about every entry of the list holds of every row that can be looked up. -/
lemma forall_lookup {P : κ → α → Prop} (hentries : ∀ entry ∈ m.entries, P entry.1 entry.2) (key : κ)
    (row : α) (hrow : m.lookup key = some row) : P key row :=
  hentries ⟨key, row⟩ (mem_lookup_iff.mp hrow)

@[grind =]
lemma lookup_mapRows (m : GoMap κ α) (f : α → α) (key : κ) : (m.mapRows f).lookup key = (m.lookup key).map f := by
  have hmap := List.dlookup_map₂ (l := m.entries) (f := fun _ => f) key
  simpa only [AList.lookup, mapRows] using hmap

variable {p : α → Bool}

@[grind =]
lemma lookup_keep_eq_some : (m.keep p).lookup key = some row ↔ m.lookup key = some row ∧ p row = true := by
  have hkeep : row ∈ (m.keep p).lookup key ↔ row ∈ m.lookup key ∧ p row = true := by
    rw [mem_lookup_iff, mem_lookup_iff]
    exact List.mem_filter
  simpa only [Option.mem_def] using hkeep

@[grind =]
lemma lookup_insert_eq (m : GoMap κ α) (key query : κ) (row : α) :
    (m.insert key row).lookup query = if query = key then some row else m.lookup query := by
  split
  · rename_i heq
    rw [heq, lookup_insert]
  · rename_i hne
    exact lookup_insert_ne hne

/-- The map with one row. -/
lemma lookup_single (hfound : (AList.insert key row (∅ : GoMap κ α)).lookup query = some found) :
    query = key ∧ found = row := by
  rw [lookup_insert_eq] at hfound
  split at hfound
  · rename_i hkey
    exact ⟨hkey, (Option.some.inj hfound).symm⟩
  · cases hfound

@[grind =]
lemma lookup_erase_eq (m : GoMap κ α) (key query : κ) :
    (m.erase key).lookup query = if query = key then none else m.lookup query := by
  split
  · rename_i heq
    rw [heq, lookup_erase]
  · rename_i hne
    exact lookup_erase_ne hne

@[grind =]
lemma lookup_modify (m : GoMap κ α) (key query : κ) (f : α → α) :
    (m.modify key f).lookup query = if query = key then (m.lookup query).map f else m.lookup query := by
  cases hrow : m.lookup key with
  | none =>
    simp only [modify, hrow]
    grind
  | some row =>
    simp only [modify, hrow]
    grind

@[grind →]
lemma findRow_some (hfind : m.findRow p = some row) : (∃ key, m.lookup key = some row) ∧ p row = true :=
  ⟨mem_rows_iff.mp (List.mem_of_find?_eq_some hfind), List.find?_some hfind⟩

lemma findRow_eq_none_iff : m.findRow p = none ↔ ∀ key row, m.lookup key = some row → p row = false := by
  simp only [findRow, List.find?_eq_none, mem_rows_iff, Bool.not_eq_true]
  exact ⟨fun h key row hrow => h row ⟨key, hrow⟩, fun h row ⟨key, hrow⟩ => h key row hrow⟩

/-- A loop that stops at the first match finds the row itself when no other
    row of the table matches, whatever the iteration order. -/
lemma findRow_eq_some_of_unique (hrow : m.lookup key = some row) (hp : p row = true)
    (hunique : ∀ other found, m.lookup other = some found → p found = true → found = row) :
    m.findRow p = some row := by
  cases hfind : m.findRow p with
  | none =>
    rw [findRow_eq_none_iff.mp hfind key row hrow] at hp
    cases hp
  | some found => grind

/-- Deleting the first match: what is left was there before, and a match that is left was
    not the only one. -/
lemma erase_find {p : (_ : κ) × α → Bool} {entry : (_ : κ) × α} (hfind : m.entries.find? p = some entry)
    (hrow : (m.erase entry.1).lookup key = some row) :
    m.lookup key = some row ∧ entry.1 ≠ key ∧ m.lookup entry.1 = some entry.2 ∧ p entry = true := by
  rw [lookup_erase_eq] at hrow
  split at hrow
  · cases hrow
  · rename_i hne
    exact ⟨hrow, Ne.symm hne, mem_lookup_iff.mpr (List.mem_of_find?_eq_some hfind), List.find?_some hfind⟩

@[grind =]
lemma anyRow_iff : m.anyRow p = true ↔ ∃ key row, m.lookup key = some row ∧ p row = true := by
  simp only [anyRow]
  constructor
  · grind
  · grind

@[grind =]
lemma anyRow_eq_false_iff : m.anyRow p = false ↔ ∀ key row, m.lookup key = some row → p row = false := by
  rw [← Bool.not_eq_true, anyRow_iff]
  simp only [not_exists, not_and, Bool.not_eq_true]

/-- Counting rows is counting keys: a table whose matching rows stand under keys that
    matched before, a few apart, has at most those few more. -/
lemma length_filter_rows_le {m m' : GoMap κ α} (extra : List κ)
    (hkeys : ∀ key row', m'.lookup key = some row' → p row' = true →
      (∃ row, m.lookup key = some row ∧ p row = true) ∨ key ∈ extra) :
    (m'.rows.filter p).length ≤ (m.rows.filter p).length + extra.length := by
  let matching (table : GoMap κ α) : List κ := (table.keep p).keys
  have hcount : ∀ table : GoMap κ α, (table.rows.filter p).length = (matching table).length := fun table => by
    simp only [matching, rows, AList.keys, List.keys, List.filter_map, List.length_map]
    rfl
  have hsubset : matching m' ⊆ matching m ++ extra := by
    intro key hkey
    obtain ⟨row', hrow'⟩ := Option.isSome_iff_exists.mp (lookup_isSome.mpr hkey)
    obtain ⟨hlookup', hp'⟩ := lookup_keep_eq_some.mp hrow'
    rcases hkeys key row' hlookup' hp' with ⟨row, hlookup, hp⟩ | hextra
    · refine List.mem_append_left _ (lookup_isSome.mp (Option.isSome_iff_exists.mpr ⟨row, ?_⟩))
      exact lookup_keep_eq_some.mpr ⟨hlookup, hp⟩
    · exact List.mem_append_right _ hextra
  have hle := (List.subperm_of_subset (m'.keep p).keys_nodup hsubset).length_le
  rw [List.length_append] at hle
  rw [hcount, hcount]
  exact hle

end GoMap

namespace GoMap
variable {κ α : Type} [DecidableEq κ] {rel rel' : α → α → Prop}

/-- Two tables with the same keys whose rows are related key by key. -/
@[grind =]
def Pointwise (rel : α → α → Prop) (m m' : GoMap κ α) : Prop :=
  ∀ key, Option.Rel rel (m.lookup key) (m'.lookup key)

lemma Pointwise.refl (hrefl : ∀ row, rel row row) (m : GoMap κ α) : Pointwise rel m m := by
  intro key
  cases m.lookup key with
  | none => exact .none
  | some row => exact .some (hrefl row)

variable {m m' : GoMap κ α} {key : κ} {row row' : α}

lemma Pointwise.mono (h : Pointwise rel m m')
    (hrel : ∀ row row', rel row row' → rel' row row') : Pointwise rel' m m' := by
  intro key
  have hkey := h key
  generalize m.lookup key = before at hkey ⊢
  generalize m'.lookup key = after at hkey ⊢
  cases hkey with
  | none => exact .none
  | some hrow => exact .some (hrel _ _ hrow)

lemma Pointwise.trans {m1 m2 m3 : GoMap κ α} (h12 : Pointwise rel m1 m2) (h23 : Pointwise rel m2 m3)
    (htrans : ∀ a b c, rel a b → rel b c → rel a c) : Pointwise rel m1 m3 := by
  intro key
  have hfirst := h12 key
  have hsecond := h23 key
  generalize m1.lookup key = first at hfirst
  generalize m2.lookup key = second at hfirst hsecond
  generalize m3.lookup key = third at hsecond
  cases hfirst with
  | none => cases hsecond; exact .none
  | some hab =>
    cases hsecond with
    | some hbc => exact .some (htrans _ _ _ hab hbc)

/-- Overwriting every row relates the tables when it relates every row. -/
lemma pointwise_mapRows {f : α → α} (hf : ∀ row, rel row (f row)) (m : GoMap κ α) : Pointwise rel m (m.mapRows f) := by
  intro key
  rw [lookup_mapRows]
  cases m.lookup key with
  | none => exact .none
  | some row => exact .some (hf row)

/-- Overwriting one row by a related one relates the tables. -/
lemma pointwise_insert (hrefl : ∀ row, rel row row)
    (hrow : m.lookup key = some row) (hrel : rel row row') : Pointwise rel m (m.insert key row') := by
  intro query
  rw [lookup_insert_eq]
  by_cases heq : query = key
  · rw [if_pos heq, heq, hrow]
    exact .some hrel
  · rw [if_neg heq]
    exact Pointwise.refl hrefl m query

lemma Pointwise.lookup_some (h : Pointwise rel m m')
    (hrow : m.lookup key = some row) : ∃ row', m'.lookup key = some row' ∧ rel row row' := by
  have hkey := h key
  rw [hrow] at hkey
  generalize hafter : m'.lookup key = after at hkey
  cases hkey with
  | some hrel => exact ⟨_, rfl, hrel⟩

/-- Every row after comes from a related row before. -/
lemma Pointwise.lookup_some_inv (h : Pointwise rel m m')
    (hrow : m'.lookup key = some row') : ∃ row, m.lookup key = some row ∧ rel row row' := by
  have hkey := h key
  rw [hrow] at hkey
  generalize hbefore : m.lookup key = before at hkey
  cases hkey with
  | some hrel => exact ⟨_, rfl, hrel⟩

lemma Pointwise.lookup_none (h : Pointwise rel m m') : m'.lookup key = none ↔ m.lookup key = none := by
  have hkey := h key
  generalize m.lookup key = before at hkey
  generalize m'.lookup key = after at hkey
  cases hkey <;> simp

end GoMap
