import Mathlib.Data.List.Basic

/-!
# Blocks of a bounded buffer

A buffer is a list of fixed length. A block of it is read or overwritten at an offset;
a write that would leave the buffer is absent. Equality of buffers is shown cell by
cell.
-/

namespace SpotSdk.Foundations

variable {α : Type*}

/-- The block of `n` cells at an offset. -/
def block (buffer : List α) (start n : Nat) : List α :=
  (buffer.drop start).take n

/-- The buffer with a block put over the cells at an offset. -/
def overwrite (buffer : List α) (start : Nat) (cells : List α) : List α :=
  buffer.take start ++ cells ++ buffer.drop (start + cells.length)

/-- Write a block at an offset, unless it leaves the buffer. -/
def writeBlock (buffer : List α) (start : Nat) (cells : List α) : Option (List α) :=
  if start + cells.length ≤ buffer.length then some (overwrite buffer start cells) else none

/-- Reverse the block of `n` cells at an offset, unless it leaves the buffer. -/
def reverseBlock (buffer : List α) (start n : Nat) : Option (List α) :=
  if start + n ≤ buffer.length then
    some (overwrite buffer start (block buffer start n).reverse)
  else none

/-- A loop that moves the cells at `src` to `dst` in reverse, with `k` of the `n` cells
left to move. -/
def moveReversed (dst src n : Nat) : Nat → List α → Option (List α)
  | 0, buffer => some buffer
  | k + 1, buffer => do
      let i := n - (k + 1)
      let cell ← buffer[src + (n - 1 - i)]?
      let buffer ← writeBlock buffer (dst + i) [cell]
      moveReversed dst src n k buffer

section Cells

variable {buffer cells : List α} {start n i : Nat}

theorem length_block (room : start + n ≤ buffer.length) : (block buffer start n).length = n := by
  rw [block, List.length_take, List.length_drop]
  omega

theorem getElem?_block (h : i < n) : (block buffer start n)[i]? = buffer[start + i]? := by
  rw [block, List.getElem?_take_of_lt h, List.getElem?_drop]

theorem length_overwrite (room : start + cells.length ≤ buffer.length) :
    (overwrite buffer start cells).length = buffer.length := by
  simp only [overwrite, List.length_append, List.length_take, List.length_drop]
  omega

/-- The cells of the block are those of the overwritten buffer. -/
theorem getElem?_overwrite_inside (room : start + cells.length ≤ buffer.length)
    (h : i < cells.length) : (overwrite buffer start cells)[start + i]? = cells[i]? := by
  have taken : (buffer.take start).length = start := by
    rw [List.length_take]
    omega
  rw [overwrite, List.append_assoc, List.getElem?_append_right (by omega), taken,
    Nat.add_sub_cancel_left, List.getElem?_append_left h]

/-- All other cells stay as they are. -/
theorem getElem?_overwrite_outside (room : start + cells.length ≤ buffer.length)
    (h : i < start ∨ start + cells.length ≤ i) :
    (overwrite buffer start cells)[i]? = buffer[i]? := by
  have taken : (buffer.take start).length = start := by
    rw [List.length_take]
    omega
  rcases h with before | after
  · rw [overwrite, List.append_assoc, List.getElem?_append_left (by omega),
      List.getElem?_take_of_lt before]
  · rw [overwrite, List.getElem?_append_right (by rw [List.length_append]; omega),
      List.getElem?_drop, List.length_append, taken]
    congr 1
    omega

/-- A buffer is an overwritten one if it has the cells of the block and all others. -/
theorem eq_overwrite {other : List α} (room : start + cells.length ≤ buffer.length)
    (inside : ∀ i < cells.length, other[start + i]? = cells[i]?)
    (outside : ∀ i, i < start ∨ start + cells.length ≤ i → other[i]? = buffer[i]?) :
    other = overwrite buffer start cells := by
  apply List.ext_getElem?
  intro i
  by_cases h : i < start ∨ start + cells.length ≤ i
  · rw [outside i h, getElem?_overwrite_outside room h]
  · obtain ⟨k, rfl⟩ : ∃ k, i = start + k := ⟨i - start, by omega⟩
    rw [inside k (by omega), getElem?_overwrite_inside room (by omega)]

theorem writeBlock_eq (room : start + cells.length ≤ buffer.length) :
    writeBlock buffer start cells = some (overwrite buffer start cells) :=
  if_pos room

/-- Up to the end of the block, an overwritten buffer is what was before, then the block. -/
theorem take_overwrite (room : start + cells.length ≤ buffer.length) :
    (overwrite buffer start cells).take (start + cells.length) =
      buffer.take start ++ cells := by
  have taken : (buffer.take start ++ cells).length = start + cells.length := by
    rw [List.length_append, List.length_take]
    omega
  rw [overwrite, ← taken, List.take_left]

end Cells

section Reversing

variable {buffer cells : List α} {dst src start n k : Nat}

/-- Two blocks, the second right after the first, are one block. -/
theorem overwrite_append {next : List α} {pos : Nat} (after : pos = start + cells.length)
    (room : start + (cells ++ next).length ≤ buffer.length) :
    overwrite (overwrite buffer start cells) pos next =
      overwrite buffer start (cells ++ next) := by
  subst after
  have both : (cells ++ next).length = cells.length + next.length := List.length_append
  have first : start + cells.length ≤ buffer.length := by omega
  have second : start + cells.length + next.length ≤
      (overwrite buffer start cells).length := by
    rw [length_overwrite first]
    omega
  apply eq_overwrite room
  · intro i h
    by_cases inFirst : i < cells.length
    · rw [getElem?_overwrite_outside second (by omega),
        getElem?_overwrite_inside first inFirst, List.getElem?_append_left inFirst]
    · obtain ⟨k, rfl⟩ : ∃ k, i = cells.length + k := ⟨i - cells.length, by omega⟩
      rw [← Nat.add_assoc, getElem?_overwrite_inside second (by omega),
        List.getElem?_append_right (by omega), Nat.add_sub_cancel_left]
  · intro i h
    rw [getElem?_overwrite_outside second (by omega),
      getElem?_overwrite_outside first (by omega)]

/-- Two blocks apart from each other may be written in either order. -/
theorem overwrite_comm {other : List α} {pos : Nat}
    (room : start + cells.length ≤ buffer.length)
    (otherRoom : pos + other.length ≤ buffer.length)
    (apart : start + cells.length ≤ pos ∨ pos + other.length ≤ start) :
    overwrite (overwrite buffer start cells) pos other =
      overwrite (overwrite buffer pos other) start cells := by
  have firstRoom : start + cells.length ≤ (overwrite buffer pos other).length := by
    rw [length_overwrite otherRoom]
    exact room
  have secondRoom : pos + other.length ≤ (overwrite buffer start cells).length := by
    rw [length_overwrite room]
    exact otherRoom
  apply eq_overwrite firstRoom
  · intro i h
    rw [getElem?_overwrite_outside secondRoom (by omega), getElem?_overwrite_inside room h]
  · intro i h
    by_cases inOther : i < pos ∨ pos + other.length ≤ i
    · rw [getElem?_overwrite_outside secondRoom inOther, getElem?_overwrite_outside room h,
        getElem?_overwrite_outside otherRoom inOther]
    · obtain ⟨k, rfl⟩ : ∃ k, i = pos + k := ⟨i - pos, by omega⟩
      rw [getElem?_overwrite_inside secondRoom (by omega),
        getElem?_overwrite_inside otherRoom (by omega)]

theorem block_append : block buffer start (n + k) = block buffer start n ++
    block buffer (start + n) k := by
  rw [block, List.take_add, List.drop_drop]
  rfl

/-- Blocks of one size are equal if their cells are. -/
theorem block_congr {other : List α} {pos : Nat} (room : start + n ≤ buffer.length)
    (otherRoom : pos + n ≤ other.length)
    (same : ∀ i < n, buffer[start + i]? = other[pos + i]?) :
    block buffer start n = block other pos n := by
  apply List.ext_getElem?
  intro i
  by_cases h : i < n
  · rw [getElem?_block h, getElem?_block h, same i h]
  · rw [List.getElem?_eq_none, List.getElem?_eq_none]
    · rw [length_block otherRoom]
      omega
    · rw [length_block room]
      omega

/-- A write elsewhere does not change a block. -/
theorem block_overwrite (room : start + cells.length ≤ buffer.length)
    (srcRoom : src + n ≤ buffer.length)
    (apart : start + cells.length ≤ src ∨ src + n ≤ start) :
    block (overwrite buffer start cells) src n = block buffer src n := by
  apply block_congr (by rw [length_overwrite room]; exact srcRoom) srcRoom
  intro i h
  exact getElem?_overwrite_outside room (by omega)

/-- Part of a block that was put there. -/
theorem block_overwrite_inside (room : start + cells.length ≤ buffer.length)
    (inside : k + n ≤ cells.length) :
    block (overwrite buffer start cells) (start + k) n = block cells k n := by
  apply block_congr (by rw [length_overwrite room]; omega) inside
  intro i h
  rw [Nat.add_assoc, getElem?_overwrite_inside room (by omega)]

/-- The last cell of a block comes first in its reverse. -/
theorem block_succ_reverse {cell : α} (here : buffer[src + k]? = some cell) :
    (block buffer src (k + 1)).reverse = cell :: (block buffer src k).reverse := by
  rw [block, List.take_add_one, List.getElem?_drop, here, List.reverse_append]
  rfl

/-- Apart from each other, the loop puts the reversed block in its place. -/
theorem moveReversed_eq (apart : dst + n ≤ src ∨ src + n ≤ dst)
    (dstRoom : dst + n ≤ buffer.length) (srcRoom : src + n ≤ buffer.length) (h : k ≤ n) :
    moveReversed dst src n k buffer =
      some (overwrite buffer (dst + (n - k)) (block buffer src k).reverse) := by
  induction k generalizing buffer with
  | zero => simp [moveReversed, overwrite, block]
  | succ k ih =>
      obtain ⟨cell, here⟩ : ∃ cell, buffer[src + k]? = some cell :=
        ⟨_, List.getElem?_eq_getElem (by omega)⟩
      have position : src + (n - 1 - (n - (k + 1))) = src + k := by omega
      have room : dst + (n - (k + 1)) + [cell].length ≤ buffer.length := by
        rw [List.length_singleton]
        omega
      have length := length_overwrite room
      have next : dst + (n - k) = dst + (n - (k + 1)) + 1 := by omega
      simp only [moveReversed, position, here, writeBlock_eq room, Option.bind_eq_bind,
        Option.bind_some]
      rw [ih (by omega) (by omega) (by omega),
        block_overwrite room (by omega) (by rw [List.length_singleton]; omega), next,
        block_succ_reverse here, overwrite_append (by rw [List.length_singleton])]
      · rfl
      · rw [List.length_append, List.length_singleton, List.length_reverse,
          length_block (by omega)]
        omega

/-- A block is reversed in its place, then another is moved to a third. -/
theorem reverseBlock_moveReversed {k n : Nat} (room : start + k ≤ buffer.length)
    (dstRoom : dst + n ≤ buffer.length) (srcRoom : src + n ≤ buffer.length)
    (apart : dst + n ≤ src ∨ src + n ≤ dst)
    (unread : start + k ≤ src ∨ src + n ≤ start) :
    (reverseBlock buffer start k).bind (moveReversed dst src n n) =
      some (overwrite (overwrite buffer start (block buffer start k).reverse) dst
        (block buffer src n).reverse) := by
  have size : (block buffer start k).reverse.length = k := by
    rw [List.length_reverse, length_block room]
  have length : (overwrite buffer start (block buffer start k).reverse).length =
      buffer.length := length_overwrite (by omega)
  rw [reverseBlock, if_pos room, Option.bind_some,
    moveReversed_eq apart (by omega) (by omega) (Nat.le_refl n), Nat.sub_self,
    Nat.add_zero, block_overwrite (by omega) srcRoom (by omega)]

end Reversing

section Exchanging

variable {buffer : List α} {start n : Nat}

theorem length_exchange {i j : Nat} {left right : α} (atLeft : buffer[i]? = some left)
    (atRight : buffer[j]? = some right) :
    (overwrite (overwrite buffer i [right]) j [left]).length = buffer.length := by
  have leftInside : i < buffer.length := (List.getElem?_eq_some_iff.mp atLeft).choose
  have rightInside : j < buffer.length := (List.getElem?_eq_some_iff.mp atRight).choose
  have first : (overwrite buffer i [right]).length = buffer.length :=
    length_overwrite leftInside
  rw [length_overwrite, first]
  rw [first]
  exact rightInside

/-- Two cells that are exchanged, and all others as they were. -/
theorem exchange_spec {i j : Nat} {left right : α} (differ : i ≠ j)
    (atLeft : buffer[i]? = some left) (atRight : buffer[j]? = some right) :
    (overwrite (overwrite buffer i [right]) j [left])[i]? = some right ∧
      (overwrite (overwrite buffer i [right]) j [left])[j]? = some left ∧
      ∀ k, k ≠ i → k ≠ j → (overwrite (overwrite buffer i [right]) j [left])[k]? = buffer[k]? := by
  have leftInside : i < buffer.length := (List.getElem?_eq_some_iff.mp atLeft).choose
  have rightInside : j < buffer.length := (List.getElem?_eq_some_iff.mp atRight).choose
  have first : ∀ k, k ≠ i → (overwrite buffer i [right])[k]? = buffer[k]? := fun k other =>
    getElem?_overwrite_outside leftInside (by rw [List.length_singleton]; omega)
  have room : j + [left].length ≤ (overwrite buffer i [right]).length := by
    rw [length_overwrite leftInside]
    exact rightInside
  have second : ∀ k, k ≠ j → (overwrite (overwrite buffer i [right]) j [left])[k]? =
      (overwrite buffer i [right])[k]? := fun k other =>
    getElem?_overwrite_outside room (by rw [List.length_singleton]; omega)
  refine ⟨?_, ?_, ?_⟩
  · rw [second i differ]
    exact getElem?_overwrite_inside leftInside (i := 0) Nat.one_pos
  · exact getElem?_overwrite_inside room (i := 0) Nat.one_pos
  · intro k notLeft notRight
    rw [second k notRight, first k notLeft]

theorem getElem?_reverse_block {i : Nat} (room : start + n ≤ buffer.length) (h : i < n) :
    (block buffer start n).reverse[i]? = buffer[start + (n - 1 - i)]? := by
  have length := length_block room
  rw [List.getElem?_reverse (by omega), length, getElem?_block (by omega)]

/-- A range of at most one cell is its own reverse. -/
theorem reverseBlock_short (room : start + n ≤ buffer.length) (short : n ≤ 1) :
    reverseBlock buffer start n = some buffer := by
  have size : (block buffer start n).reverse.length = n := by
    rw [List.length_reverse, length_block room]
  rw [reverseBlock, if_pos room]
  congr 1
  symm
  apply eq_overwrite (by omega)
  · intro i inside
    rw [getElem?_reverse_block room (by omega)]
    congr 1
    omega
  · intro i _
    rfl

/-- Exchanging the ends of a range and reversing what is between them reverses it. -/
theorem reverseBlock_exchange {left right : α} (room : start + (n + 2) ≤ buffer.length)
    (atLeft : buffer[start]? = some left) (atRight : buffer[start + n + 1]? = some right) :
    reverseBlock (overwrite (overwrite buffer start [right]) (start + n + 1) [left])
      (start + 1) n = reverseBlock buffer start (n + 2) := by
  obtain ⟨atFirst, atLast, elsewhere⟩ := exchange_spec (by omega) atLeft atRight
  have length := length_exchange atLeft atRight
  set swapped := overwrite (overwrite buffer start [right]) (start + n + 1) [left]
  have innerRoom : start + 1 + n ≤ swapped.length := by omega
  have innerSize : (block swapped (start + 1) n).reverse.length = n := by
    rw [List.length_reverse, length_block innerRoom]
  have outerSize : (block buffer start (n + 2)).reverse.length = n + 2 := by
    rw [List.length_reverse, length_block room]
  rw [reverseBlock, if_pos innerRoom, reverseBlock, if_pos room]
  congr 1
  apply eq_overwrite (by omega)
  · intro i inside
    rw [outerSize] at inside
    rw [getElem?_reverse_block room inside]
    by_cases isFirst : i = 0
    · subst isFirst
      rw [getElem?_overwrite_outside (by omega) (by omega), Nat.add_zero, atFirst, ← atRight]
      rfl
    by_cases isLast : i = n + 1
    · subst isLast
      rw [getElem?_overwrite_outside (by omega) (by omega), ← Nat.add_assoc, atLast, ← atLeft]
      congr 1
      omega
    · obtain ⟨k, rfl⟩ : ∃ k, i = 1 + k := ⟨i - 1, by omega⟩
      rw [← Nat.add_assoc, getElem?_overwrite_inside (by omega) (by omega),
        getElem?_reverse_block innerRoom (by omega), elsewhere _ (by omega) (by omega)]
      congr 1
      omega
  · intro i outside
    rw [outerSize] at outside
    rw [getElem?_overwrite_outside (by omega) (by omega),
      elsewhere i (by omega) (by omega)]

end Exchanging

end SpotSdk.Foundations
