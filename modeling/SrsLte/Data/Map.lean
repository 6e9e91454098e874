import Mathlib.Data.Finmap
import Mathlib.Data.Finset.Card
import Mathlib.Data.Finset.Sort
import SrsLte.Data.Numerals

/-!
This module contains the lemmas about finite maps that Mathlib does not state. They serve as the
ordered maps of the standard library, of which lookup, insertion, removal, the number of entries and
the search in the order of the keys are used.
-/

abbrev Map (α : Type) := Finmap (fun _ : Nat => α)

namespace Map

open Option Finmap

variable {κ α : Type} [DecidableEq κ]

def size (m : Map α) : Nat :=
  m.keys.card

def insertNew (k : Nat) (v : α) (m : Map α) : Map α :=
  if k ∈ m then m else m.insert k v

/--
The first entry, in the order of the keys, whose value satisfies `p`.
-/
def find? (m : Map α) (p : α → Bool) : Option (Nat × α) :=
  m.keys.sort.findSome? fun k => ((m.lookup k).filter p).map fun v => (k, v)

theorem keys_insert (m : Map α) (k : Nat) (v : α)
    : Finmap.keys (Finmap.insert k v m) = insert k m.keys := by
  ext k'
  simp only [mem_keys, mem_insert, Finset.mem_insert]

theorem lookup_insert_ite (m : Finmap fun _ : κ => α) (k k' : κ) (v : α)
    : Finmap.lookup k' (Finmap.insert k v m) = if k' = k then some v else m.lookup k' := by
  split
  . next h =>
    subst h
    rw [lookup_insert]
  . next h => rw [lookup_insert_of_ne m h]

theorem lookup_erase_ite (m : Finmap fun _ : κ => α) (k k' : κ)
    : Finmap.lookup k' (Finmap.erase k m) = if k' = k then none else m.lookup k' := by
  split
  . next h =>
    subst h
    rw [lookup_erase]
  . next h => rw [lookup_erase_ne h]

variable {k : Nat}

theorem insertNew_of_lookup_eq_none {m : Map α} (h : m.lookup k = none) (v : α)
    : insertNew k v m = m.insert k v :=
  if_neg (lookup_eq_none.mp h)

theorem lookup_insertNew (m : Map α) (k k' : Nat) (v : α)
    : (insertNew k v m).lookup k' = if k' = k then some ((m.lookup k).getD v) else m.lookup k' := by
  unfold insertNew
  split
  . next hmem =>
    have ⟨w, hw⟩ := mem_iff.mp hmem
    split
    . next h => rw [h, hw, getD_some]
    . rfl
  . next hmem =>
    rw [lookup_eq_none.mpr hmem, getD_none, lookup_insert_ite]

theorem lookup_of_find? {m : Map α} {p : α → Bool} {v : α} (h : find? m p = some (k, v))
    : m.lookup k = some v ∧ p v = true := by
  have ⟨k', _, hk'⟩ := List.exists_of_findSome?_eq_some h
  have ⟨v', hv', heq⟩ := map_eq_some_iff.mp hk'
  cases heq
  exact filter_eq_some_iff.mp hv'

theorem find?_eq_none {m : Map α} {p : α → Bool}
    : find? m p = none ↔ ∀ k v, m.lookup k = some v → p v = false := by
  unfold find?
  rw [List.findSome?_eq_none_iff]
  constructor
  . intro h k v hv
    have hk := h k ((Finset.mem_sort _).mpr (mem_keys.mpr (mem_of_lookup_eq_some hv)))
    rw [hv] at hk
    simpa using hk
  . intro h k _
    rw [map_eq_none_iff, filter_eq_none_iff]
    intro v hv
    simp [h k v hv]

theorem size_le_insert (m : Map α) (k : Nat) (v : α) : size m ≤ size (m.insert k v) := by
  unfold size
  rw [keys_insert]
  exact Finset.card_le_card (Finset.subset_insert _ _)

theorem size_erase_lt {m : Map α} (h : k ∈ m) : size (m.erase k) < size m := by
  unfold size
  rw [keys_erase]
  apply Finset.card_erase_lt_of_mem
  exact mem_keys.mpr h

end Map
