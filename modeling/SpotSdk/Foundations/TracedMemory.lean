import SpotSdk.Foundations.BufferBlocks

/-!
# Memory with a trace of its accesses

A traced memory is a buffer with the positions that were read or written so far. A load or
a store outside the buffer is absent. The loops that reverse a range in place and copy one
in reverse are run on it cell by cell; each is tied to the block operation it implements,
and its trace to the region it may touch.
-/

namespace SpotSdk.Foundations

variable {α : Type*}

structure TracedMemory (α : Type*) where
  cells : List α
  accesses : List Nat
  deriving DecidableEq

namespace TracedMemory

/-- A memory that no access was made to. -/
def fresh (buffer : List α) : TracedMemory α := ⟨buffer, []⟩

def load (memory : TracedMemory α) (i : Nat) : Option (α × TracedMemory α) := do
  let cell ← memory.cells[i]?
  pure (cell, ⟨memory.cells, memory.accesses ++ [i]⟩)

def store (memory : TracedMemory α) (i : Nat) (cell : α) : Option (TracedMemory α) := do
  let cells ← writeBlock memory.cells i [cell]
  pure ⟨cells, memory.accesses ++ [i]⟩

/-- Exchange two cells by way of a temporary. -/
def swap (memory : TracedMemory α) (i j : Nat) : Option (TracedMemory α) := do
  let (left, memory) ← memory.load i
  let (right, memory) ← memory.load j
  let memory ← memory.store i right
  memory.store j left

/-- Reverse a range in place: exchange its ends, then reverse what is between them. -/
def reverseRange (first : Nat) : Nat → TracedMemory α → Option (TracedMemory α)
  | 0, memory => some memory
  | 1, memory => some memory
  | n + 2, memory => do
      let memory ← memory.swap first (first + n + 1)
      reverseRange (first + 1) n memory

/-- Copy the `n` cells at `src` to `dst` in reverse, with `k` of them left to copy. -/
def copyReversed (dst src n : Nat) : Nat → TracedMemory α → Option (TracedMemory α)
  | 0, memory => some memory
  | k + 1, memory => do
      let i := n - (k + 1)
      let (cell, memory) ← memory.load (src + (n - 1 - i))
      let memory ← memory.store (dst + i) cell
      copyReversed dst src n k memory

/-- The run returns, does to the cells what the plain operation does, keeps their number,
and makes no access outside the region. -/
def Implements (region : Nat → Prop) (memory : TracedMemory α)
    (run : Option (TracedMemory α)) (plain : Option (List α)) : Prop :=
  ∃ after, run = some after ∧ plain = some after.cells ∧
    after.cells.length = memory.cells.length ∧
      ∀ i ∈ after.accesses, i ∈ memory.accesses ∨ region i

section Regions

variable {region larger : Nat → Prop} {memory : TracedMemory α}
variable {run : Option (TracedMemory α)} {plain : Option (List α)}

theorem Implements.done : Implements region memory (some memory) (some memory.cells) :=
  ⟨memory, rfl, rfl, rfl, fun _ made => Or.inl made⟩

/-- An operation may be described by a larger region. -/
theorem Implements.mono (h : Implements region memory run plain)
    (within : ∀ i, region i → larger i) : Implements larger memory run plain := by
  obtain ⟨after, runs, same, length, confined⟩ := h
  refine ⟨after, runs, same, length, ?_⟩
  intro i made
  exact (confined i made).imp id (within i)

/-- Accesses to the region may come before. -/
theorem Implements.step {before : TracedMemory α} (h : Implements region memory run plain)
    (length : memory.cells.length = before.cells.length)
    (confined : ∀ i ∈ memory.accesses, i ∈ before.accesses ∨ region i) :
    Implements region before run plain := by
  obtain ⟨after, runs, same, laterLength, later⟩ := h
  refine ⟨after, runs, same, laterLength.trans length, ?_⟩
  intro i made
  cases later i made with
  | inl earlier => exact confined i earlier
  | inr inside => exact Or.inr inside

/-- Two operations on one region, the second on the memory that the first leaves. -/
theorem Implements.bind {next : TracedMemory α → Option (TracedMemory α)}
    {plainNext : List α → Option (List α)} (h : Implements region memory run plain)
    (later : ∀ after : TracedMemory α, after.cells.length = memory.cells.length →
      Implements region after (next after) (plainNext after.cells)) :
    Implements region memory (run.bind next) (plain.bind plainNext) := by
  obtain ⟨after, runs, same, length, confined⟩ := h
  rw [runs, Option.bind_some, same, Option.bind_some]
  exact (later after length).step length confined

end Regions

section Accesses

variable {memory : TracedMemory α} {i j first n : Nat} {cell : α}

theorem load_eq (here : memory.cells[i]? = some cell) :
    memory.load i = some (cell, ⟨memory.cells, memory.accesses ++ [i]⟩) := by
  rw [load, here]
  rfl

theorem store_eq (inside : i < memory.cells.length) :
    memory.store i cell =
      some ⟨overwrite memory.cells i [cell], memory.accesses ++ [i]⟩ := by
  rw [store, writeBlock_eq inside]
  rfl

/-- An exchange touches its two positions, and leaves all other cells. -/
theorem swap_eq {left right : α} (atLeft : memory.cells[i]? = some left)
    (atRight : memory.cells[j]? = some right) :
    memory.swap i j = some ⟨overwrite (overwrite memory.cells i [right]) j [left],
      memory.accesses ++ [i, j, i, j]⟩ := by
  have leftInside : i < memory.cells.length := (List.getElem?_eq_some_iff.mp atLeft).choose
  have rightInside : j < memory.cells.length := (List.getElem?_eq_some_iff.mp atRight).choose
  have length : (overwrite memory.cells i [right]).length = memory.cells.length :=
    length_overwrite leftInside
  have second : load ⟨memory.cells, memory.accesses ++ [i]⟩ j =
      some (right, ⟨memory.cells, memory.accesses ++ [i] ++ [j]⟩) := load_eq atRight
  have third : store ⟨memory.cells, memory.accesses ++ [i] ++ [j]⟩ i right =
      some ⟨overwrite memory.cells i [right], memory.accesses ++ [i] ++ [j] ++ [i]⟩ :=
    store_eq leftInside
  have fourth : store ⟨overwrite memory.cells i [right],
      memory.accesses ++ [i] ++ [j] ++ [i]⟩ j left =
        some ⟨overwrite (overwrite memory.cells i [right]) j [left],
          memory.accesses ++ [i] ++ [j] ++ [i] ++ [j]⟩ := by
    apply store_eq
    rw [length]
    exact rightInside
  simp only [swap, load_eq atLeft, second, third, fourth, Option.bind_eq_bind,
    Option.bind_some]
  simp only [List.append_assoc, List.cons_append, List.nil_append]

end Accesses

section Loops

variable {memory : TracedMemory α} {dst src first n k : Nat}

/-- The range is reversed by accesses to the range alone. -/
theorem reverseRange_implements (room : first + n ≤ memory.cells.length) :
    Implements (fun i => first ≤ i ∧ i < first + n) memory (reverseRange first n memory)
      (reverseBlock memory.cells first n) := by
  induction first, n, memory using reverseRange.induct with
  | case1 first memory =>
      rw [reverseRange, reverseBlock_short room (by omega)]
      exact Implements.done
  | case2 first memory =>
      rw [reverseRange, reverseBlock_short room (by omega)]
      exact Implements.done
  | case3 first n memory ih =>
      obtain ⟨left, atLeft⟩ : ∃ left, memory.cells[first]? = some left :=
        ⟨_, List.getElem?_eq_getElem (by omega)⟩
      obtain ⟨right, atRight⟩ : ∃ right, memory.cells[first + n + 1]? = some right :=
        ⟨_, List.getElem?_eq_getElem (by omega)⟩
      have length := length_exchange atLeft atRight
      rw [reverseRange, swap_eq atLeft atRight, ← reverseBlock_exchange room atLeft atRight,
        Option.bind_eq_bind, Option.bind_some]
      have innerRoom : first + 1 + n ≤ (overwrite (overwrite memory.cells first [right])
          (first + n + 1) [left]).length := by
        omega
      have inner := ih ⟨overwrite (overwrite memory.cells first [right]) (first + n + 1) [left],
        memory.accesses ++ [first, first + n + 1, first, first + n + 1]⟩ innerRoom
      refine (inner.mono ?_).step length ?_
      · intro i inside
        omega
      · intro i made
        simp only [List.mem_append, List.mem_cons, List.not_mem_nil, or_false] at made
        exact made.imp id fun ends => by omega

/-- The loop makes the moves of the plain one, by accesses to the two ranges alone. -/
theorem copyReversed_implements (dstRoom : dst + n ≤ memory.cells.length)
    (srcRoom : src + n ≤ memory.cells.length) (h : k ≤ n) :
    Implements (fun i => (dst ≤ i ∧ i < dst + n) ∨ (src ≤ i ∧ i < src + n)) memory
      (copyReversed dst src n k memory) (moveReversed dst src n k memory.cells) := by
  induction k generalizing memory with
  | zero => exact Implements.done
  | succ k ih =>
      obtain ⟨cell, here⟩ : ∃ cell, memory.cells[src + (n - 1 - (n - (k + 1)))]? = some cell :=
        ⟨_, List.getElem?_eq_getElem (by omega)⟩
      have room : dst + (n - (k + 1)) + [cell].length ≤ memory.cells.length := by
        rw [List.length_singleton]
        omega
      have length := length_overwrite room
      have stored : store ⟨memory.cells, memory.accesses ++ [src + (n - 1 - (n - (k + 1)))]⟩
          (dst + (n - (k + 1))) cell =
            some ⟨overwrite memory.cells (dst + (n - (k + 1))) [cell], memory.accesses ++
              [src + (n - 1 - (n - (k + 1)))] ++ [dst + (n - (k + 1))]⟩ := store_eq room
      simp only [copyReversed, moveReversed, load_eq here, here, Option.bind_eq_bind,
        Option.bind_some, writeBlock_eq room]
      rw [stored, Option.bind_some]
      apply (ih _ _ _).step length
      · intro i made
        simp only [List.append_assoc, List.mem_append, List.mem_cons, List.not_mem_nil,
          or_false] at made
        exact made.imp id fun ends => by omega
      · change dst + n ≤ (overwrite _ _ _).length
        omega
      · change src + n ≤ (overwrite _ _ _).length
        omega
      · omega

end Loops

end TracedMemory

end SpotSdk.Foundations
