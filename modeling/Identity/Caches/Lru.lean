import Mathlib.Data.List.Perm.Lattice
import Identity.GoMap.Basic

/-- An element of a recency list. The address stands for the pointer to it. -/
structure Lru.Element (κ α : Type) where
  addr : Nat
  key : κ
  val : α
deriving DecidableEq

/-- A recency list, the most recently used element first, and an index from keys to its
    elements. -/
structure Lru (κ α : Type) where
  entries : GoMap κ Nat := ∅
  list : List (Lru.Element κ α) := []
  fresh : Nat := 0

namespace Lru
open List Option
variable {κ α : Type} [DecidableEq κ] (c : Lru κ α) (el : Element κ α)

/-- The element that an index entry points to. -/
def get (key : κ) : Option (Element κ α) :=
  (c.entries.lookup key).bind fun addr => c.list.find? fun el => el.addr = addr

/-- The list without an element. -/
def without : List (Element κ α) := c.list.filter fun other => other.addr ≠ el.addr

/-- Give an element a value and move it to the front. -/
def refresh (val : α) : Lru κ α := { c with list := { el with val } :: c.without el }

def moveToFront : Lru κ α := c.refresh el el.val

/-- A new element at the front, and its index entry. -/
def pushFront (key : κ) (val : α) : Lru κ α where
  entries := c.entries.insert key c.fresh
  list := ⟨c.fresh, key, val⟩ :: c.list
  fresh := c.fresh + 1

/-- Drop an element from the list and its key from the index. -/
def removeElement : Lru κ α := { c with entries := c.entries.erase el.key, list := c.without el }

/-- The index and the list are in step: each element is the one that the entry of its key
    points to, and every entry points to an element. -/
@[grind]
structure InStep : Prop where
  addrs : (c.list.map Element.addr).Nodup
  fresh : ∀ el ∈ c.list, el.addr < c.fresh
  points : ∀ key addr, c.entries.lookup key = some addr ↔ ∃ el ∈ c.list, el.addr = addr ∧ el.key = key

variable {c el} {key : κ} {other : Element κ α}

lemma get_some (hget : c.get key = some el) : el ∈ c.list ∧ c.entries.lookup key = some el.addr := by
  obtain ⟨addr, haddr, hfind⟩ := bind_eq_some_iff.mp hget
  have hsame : el.addr = addr := by simpa using List.find?_some hfind
  exact ⟨mem_of_find?_eq_some hfind, hsame ▸ haddr⟩

omit [DecidableEq κ] in
lemma mem_without : other ∈ c.without el ↔ other ∈ c.list ∧ other.addr ≠ el.addr := by
  simp [without]

namespace InStep
variable (hstep : InStep c)
include hstep

/-- The element at an address is unique. -/
lemma eq_of_addr (hel : el ∈ c.list) (hother : other ∈ c.list) (haddr : el.addr = other.addr) : el = other :=
  inj_on_of_nodup_map hstep.addrs hel hother haddr

lemma eq_of_key (hel : el ∈ c.list) (hother : other ∈ c.list) (hkey : el.key = other.key) : el = other := by
  have hpoints := (hstep.points el.key el.addr).mpr ⟨el, hel, rfl, rfl⟩
  have hpoints' := (hstep.points other.key other.addr).mpr ⟨other, hother, rfl, rfl⟩
  rw [hkey, hpoints'] at hpoints
  exact hstep.eq_of_addr hel hother (Option.some.inj hpoints).symm

lemma key_of_get (hget : c.get key = some el) : el.key = key := by
  obtain ⟨hmem, hpoints⟩ := get_some hget
  grind [hstep.eq_of_addr]

lemma lookup_of_get_none (hget : c.get key = none) : c.entries.lookup key = none := by
  by_contra hsome
  obtain ⟨addr, haddr⟩ := ne_none_iff_exists'.mp hsome
  obtain ⟨el, hmem, hat, -⟩ := (hstep.points key addr).mp haddr
  rw [get, haddr, bind_some, List.find?_eq_none] at hget
  exact hget el hmem (by simpa using hat)

/-- Index and list have the same length. -/
lemma length : c.entries.keys.length = c.list.length := by
  have hkeys : (c.list.map Element.key).Nodup := by
    refine (nodup_map_iff_inj_on (List.Nodup.of_map _ hstep.addrs)).mpr ?_
    exact fun el hel other hother hkey => hstep.eq_of_key hel hother hkey
  have hperm : c.entries.keys.Perm (c.list.map Element.key) := by
    refine (perm_ext_iff_of_nodup c.entries.keys_nodup hkeys).mpr fun key => ?_
    rw [← AList.mem_keys, ← AList.lookup_isSome, Option.isSome_iff_exists, List.mem_map]
    constructor
    · grind
    · rintro ⟨el, hmem, rfl⟩
      exact ⟨el.addr, (hstep.points el.key el.addr).mpr ⟨el, hmem, rfl, rfl⟩⟩
  rw [hperm.length_eq, length_map]

lemma refresh (hel : el ∈ c.list) (val : α) : InStep (c.refresh el val) where
  addrs := by
    constructor
    · grind [mem_without]
    · exact (filter_sublist.map _).nodup hstep.addrs
  fresh other hother := by
    rcases mem_cons.mp hother with rfl | hother
    · exact hstep.fresh el hel
    · exact hstep.fresh other (mem_without.mp hother).1
  points key addr := by
    rw [Lru.refresh]
    grind [hstep.eq_of_addr, mem_cons_self, mem_without]

lemma pushFront (hfree : c.entries.lookup key = none) (val : α) : InStep (c.pushFront key val) where
  addrs := by grind [pushFront]
  fresh other hother := by
    rcases mem_cons.mp hother with rfl | hother
    · exact Nat.lt_succ_self _
    · exact Nat.lt_succ_of_lt (hstep.fresh other hother)
  points query addr := by grind [mem_cons_self, pushFront]

lemma removeElement (hel : el ∈ c.list) : InStep (c.removeElement el) where
  addrs := (filter_sublist.map _).nodup hstep.addrs
  fresh other hother := hstep.fresh other (mem_without.mp hother).1
  points key addr := by grind [mem_without, hstep.eq_of_addr, hstep.eq_of_key, removeElement]

lemma length_without (hel : el ∈ c.list) : (c.without el).length + 1 = c.list.length := by
  have hpush := (hstep.refresh hel el.val).length
  have hsame : (c.refresh el el.val).entries = c.entries := rfl
  rw [hsame, hstep.length] at hpush
  exact hpush.symm

end InStep
end Lru
