import Mathlib.Order.Lattice
import Mathlib.Data.List.Basic
import Mathlib.Data.List.Nodup

/-!
# Maps ordered by their keys

A map is the list of its entries in strictly increasing order of the keys. An entry is
placed where its key belongs, and one that is there already stays. Placing a whole range
of entries therefore looks up first what was there and then what the range has.
-/

namespace SpotSdk.Foundations.OrderedMap

variable {κ α : Type*} [LinearOrder κ] {key k : κ} {value v : α}
  {map entries : List (κ × α)}

def lookup (key : κ) : List (κ × α) → Option α
  | [] => none
  | (k, v) :: rest => if key = k then some v else lookup key rest

/-- Place an entry unless its key has one. -/
def emplace (key : κ) (value : α) : List (κ × α) → List (κ × α)
  | [] => [(key, value)]
  | (k, v) :: rest =>
      if key < k then (key, value) :: (k, v) :: rest
      else if key = k then (k, v) :: rest
      else (k, v) :: emplace key value rest

/-- Place a range of entries, one after the other. -/
def emplaceAll (entries map : List (κ × α)) : List (κ × α) :=
  entries.foldl (fun map entry => emplace entry.1 entry.2 map) map

def keys (map : List (κ × α)) : List κ := map.map Prod.fst

def Sorted (map : List (κ × α)) : Prop := (keys map).Pairwise (· < ·)

theorem sorted_nil : Sorted ([] : List (κ × α)) := List.Pairwise.nil

theorem sorted_cons_iff : Sorted ((k, v) :: map) ↔ (∀ k' ∈ keys map, k < k') ∧ Sorted map :=
  List.pairwise_cons

theorem mem_keys_emplace : k ∈ keys (emplace key value map) ↔ k = key ∨ k ∈ keys map := by
  induction map with
  | nil => simp [emplace, keys]
  | cons entry rest ih =>
      obtain ⟨k', v'⟩ := entry
      rw [emplace]
      split
      · simp [keys]
      · split
        · next same =>
          subst same
          simp [keys]
        · change k ∈ k' :: keys (emplace key value rest) ↔ k = key ∨ k ∈ k' :: keys rest
          rw [List.mem_cons, List.mem_cons, ih, or_left_comm]

theorem sorted_emplace (sorted : Sorted map) : Sorted (emplace key value map) := by
  induction map with
  | nil => exact List.pairwise_singleton _ _
  | cons entry rest ih =>
      obtain ⟨k', v'⟩ := entry
      obtain ⟨first, later⟩ := sorted_cons_iff.mp sorted
      rw [emplace]
      split
      · next less =>
        refine sorted_cons_iff.mpr ⟨fun k'' inside => ?_, sorted⟩
        rcases List.mem_cons.mp inside with rfl | inside
        · exact less
        · exact lt_trans less (first k'' inside)
      · next notLess =>
        split
        · exact sorted
        · next other =>
          refine sorted_cons_iff.mpr ⟨fun k'' inside => ?_, ih later⟩
          rcases mem_keys_emplace.mp inside with rfl | inside
          · exact lt_of_le_of_ne (not_lt.mp notLess) (Ne.symm other)
          · exact first k'' inside

theorem lookup_eq_none_of_not_mem (outside : key ∉ keys map) : lookup key map = none := by
  induction map with
  | nil => rfl
  | cons entry rest ih =>
      obtain ⟨k', v'⟩ := entry
      have both : ¬ (key = k' ∨ key ∈ keys rest) := fun h => outside (List.mem_cons.mpr h)
      rw [not_or] at both
      rw [lookup, if_neg both.1, ih both.2]

/-- What was there before an entry was placed is found first. -/
theorem lookup_emplace (key : κ) (value : α) (sorted : Sorted map) (k : κ) :
    lookup k (emplace key value map) =
      (lookup k map).or (if k = key then some value else none) := by
  induction map with
  | nil => rfl
  | cons entry rest ih =>
      obtain ⟨k', v'⟩ := entry
      obtain ⟨first, later⟩ := sorted_cons_iff.mp sorted
      rw [emplace]
      split
      · next less =>
        by_cases here : k = key
        · subst here
          have outside : k ∉ keys ((k', v') :: rest) := by
            intro inside
            rcases List.mem_cons.mp inside with same | inside
            · exact lt_irrefl _ (same ▸ less)
            · exact lt_asymm less (first k inside)
          rw [lookup_eq_none_of_not_mem outside, lookup]
          simp
        · rw [lookup, if_neg here, if_neg here, Option.or_none]
      · split
        · next same =>
          subst same
          by_cases here : k = key
          · simp [lookup, here]
          · simp [lookup, here]
        · rw [lookup, lookup, ih later]
          split
          · rfl
          · rfl

theorem emplaceAll_cons (entry : κ × α) (entries map : List (κ × α)) :
    emplaceAll (entry :: entries) map = emplaceAll entries (emplace entry.1 entry.2 map) :=
  rfl

theorem sorted_emplaceAll (sorted : Sorted map) (entries : List (κ × α)) :
    Sorted (emplaceAll entries map) := by
  induction entries generalizing map with
  | nil => exact sorted
  | cons entry rest ih =>
      rw [emplaceAll_cons]
      exact ih (sorted_emplace sorted)

theorem lookup_emplaceAll (sorted : Sorted map) (entries : List (κ × α)) (k : κ) :
    lookup k (emplaceAll entries map) = (lookup k map).or (lookup k entries) := by
  induction entries generalizing map with
  | nil => exact Option.or_none.symm
  | cons entry rest ih =>
      obtain ⟨k', v'⟩ := entry
      rw [emplaceAll_cons, ih (sorted_emplace sorted), lookup_emplace k' v' sorted, Option.or_assoc,
        lookup]
      split
      · rw [Option.some_or]
      · rw [Option.none_or]

/-- The entries of a map are what is found in it. -/
theorem mem_iff_lookup (sorted : Sorted map) : (k, v) ∈ map ↔ lookup k map = some v := by
  induction map with
  | nil => exact iff_of_false List.not_mem_nil nofun
  | cons entry rest ih =>
      obtain ⟨k', v'⟩ := entry
      obtain ⟨first, later⟩ := sorted_cons_iff.mp sorted
      rw [List.mem_cons, Prod.mk.injEq, lookup, ih later]
      by_cases here : k = k'
      · subst here
        have absent : lookup k rest = none :=
          lookup_eq_none_of_not_mem fun inside => lt_irrefl _ (first k inside)
        simp [absent, eq_comm]
      · simp [here]

end SpotSdk.Foundations.OrderedMap
