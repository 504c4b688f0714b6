import Mathlib.Data.List.Basic

/-!
# Calls that are spaced

Some of the calls in a history are accepted. The history is spaced when a call is accepted
exactly if it is far enough from the last accepted one, whatever far enough is. The first
call has nothing before it to be far from.
-/

namespace SpotSdk.Foundations

variable {α : Type*}

/-- The calls that are accepted. -/
def acceptedCalls (calls : List (α × Bool)) : List α :=
  (calls.filter Prod.snd).map Prod.fst

/-- The last accepted call, where `last` is the one accepted before the history. -/
def lastAccepted : Option α → List (α × Bool) → Option α
  | last, [] => last
  | _, (a, true) :: calls => lastAccepted (some a) calls
  | last, (_, false) :: calls => lastAccepted last calls

/-- Every call is accepted exactly if it is far from the last accepted one. -/
def Spaced (far : α → α → Prop) (last : Option α) (calls : List (α × Bool)) : Prop :=
  ∀ before a answer after, calls = before ++ (a, answer) :: after →
    (answer = true ↔ ∀ b, lastAccepted last before = some b → far b a)

variable {far : α → α → Prop} {last : Option α} {a : α} {answer : Bool}
  {calls : List (α × Bool)}

theorem spaced_nil (last : Option α) : Spaced far last [] := by
  intro before a answer after split
  cases before <;> cases split

/-- The last accepted call after one more. -/
theorem lastAccepted_cons (last : Option α) (a : α) (answer : Bool) (calls : List (α × Bool)) :
    lastAccepted last ((a, answer) :: calls) =
      lastAccepted (if answer then some a else last) calls := by
  cases answer <;> rfl

theorem spaced_cons :
    Spaced far last ((a, answer) :: calls) ↔
      (answer = true ↔ ∀ b, last = some b → far b a) ∧
        Spaced far (if answer then some a else last) calls := by
  constructor
  · intro spaced
    refine ⟨spaced [] a answer calls rfl, ?_⟩
    intro before b given after split
    rw [← lastAccepted_cons last a answer]
    apply spaced ((a, answer) :: before) b given after
    rw [split, List.cons_append]
  · rintro ⟨first, rest⟩ before b given after split
    cases before with
    | nil =>
        obtain ⟨same, rfl⟩ := List.cons.inj split
        obtain ⟨rfl, rfl⟩ := Prod.mk.inj same
        exact first
    | cons call before =>
        obtain ⟨rfl, later⟩ := List.cons.inj split
        rw [lastAccepted_cons]
        exact rest before b given after later

/-- In a spaced history whose calls come in an order, each accepted call is far from all
that were accepted before it, if what is far from a call stays so for the later ones. -/
theorem Spaced.pairwise {le : α → α → Prop} (spaced : Spaced far last calls)
    (sorted : (calls.map Prod.fst).Pairwise le)
    (mono : ∀ {a b c}, far a b → le b c → far a c) :
    (acceptedCalls calls).Pairwise far ∧
      ∀ b, last = some b → ∀ c ∈ acceptedCalls calls, far b c := by
  induction calls generalizing last with
  | nil =>
      constructor
      · exact List.Pairwise.nil
      · intro b _ c member
        cases member
  | cons call calls ih =>
      obtain ⟨a, answer⟩ := call
      obtain ⟨first, rest⟩ := spaced_cons.mp spaced
      rw [List.map_cons, List.pairwise_cons] at sorted
      obtain ⟨later, sorted⟩ := sorted
      obtain ⟨apart, beyond⟩ := ih rest sorted
      cases answer with
      | false => exact ⟨apart, beyond⟩
      | true =>
          have farFrom : ∀ c ∈ acceptedCalls calls, far a c := beyond a rfl
          constructor
          · exact List.pairwise_cons.mpr ⟨farFrom, apart⟩
          · intro b before c member
            have here : far b a := first.mp rfl b before
            rcases List.mem_cons.mp member with rfl | member
            · exact here
            · apply mono here
              apply later
              obtain ⟨call, found, rfl⟩ := List.mem_map.mp member
              exact List.mem_map_of_mem (List.mem_filter.mp found).1

end SpotSdk.Foundations
