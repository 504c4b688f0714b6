import Mathlib.Data.List.Nodup
import Mathlib.Data.List.Perm.Subperm
import Mathlib.Logic.Relation

/-!
# Climbing parent pointers

A forest is a map that is absent at unknown nodes, marks roots, and gives every other
node its parent and a label of the edge to it. The climb from a node to its root is
unique and meets no node twice, so it is shorter than any list of the known nodes. It
exists exactly when following parents reaches the root.
-/

namespace SpotSdk.Foundations

variable {α β : Type*} {next next' : α → Option (Option (α × β))}

/-- The edges from a node up to its root, in order. -/
inductive Climbs (next : α → Option (Option (α × β))) : α → List (α × β) → α → Prop
  | root {a} (h : next a = some none) : Climbs next a [] a
  | up {a b e es r} (h : next a = some (some (b, e))) (tail : Climbs next b es r) :
      Climbs next a ((b, e) :: es) r

namespace Climbs

variable {a b n r r' : α} {e : β} {es fs : List (α × β)}

theorem root_next (climb : Climbs next a es r) : next r = some none := by
  induction climb with
  | root h => exact h
  | up _ _ ih => exact ih

theorem unique (left : Climbs next a es r) (right : Climbs next a fs r') :
    es = fs ∧ r = r' := by
  induction left generalizing fs with
  | root h =>
      cases right with
      | root => exact ⟨rfl, rfl⟩
      | up h' => cases h.symm.trans h'
  | up h _ ih =>
      cases right with
      | root h' => cases h.symm.trans h'
      | up h' tail =>
          obtain ⟨rfl, rfl⟩ := Prod.mk.inj (Option.some.inj (Option.some.inj (h.symm.trans h')))
          obtain ⟨rfl, rfl⟩ := ih tail
          exact ⟨rfl, rfl⟩

/-- Every node on the way climbs to the same root by fewer edges. -/
theorem of_mem (climb : Climbs next a es r) (h : b ∈ es.map Prod.fst) :
    ∃ fs, Climbs next b fs r ∧ fs.length < es.length := by
  induction climb with
  | root => cases h
  | @up a c e es r _ tail ih =>
      rw [List.map_cons, List.mem_cons] at h
      cases h with
      | inl same =>
          subst same
          exact ⟨es, tail, Nat.lt_succ_self _⟩
      | inr later =>
          obtain ⟨fs, climb, shorter⟩ := ih later
          exact ⟨fs, climb, Nat.lt_succ_of_lt shorter⟩

/-- A climb meets no node twice. -/
theorem nodup (climb : Climbs next a es r) : (a :: es.map Prod.fst).Nodup := by
  induction climb with
  | root => exact List.nodup_singleton _
  | @up a b e es r h tail ih =>
      rw [List.nodup_cons]
      refine ⟨fun again => ?_, ih⟩
      obtain ⟨fs, climb, shorter⟩ := (up h tail).of_mem again
      obtain ⟨rfl, -⟩ := climb.unique (up h tail)
      exact Nat.lt_irrefl _ shorter

theorem known (climb : Climbs next a es r) (h : b ∈ a :: es.map Prod.fst) :
    (next b).isSome = true := by
  induction climb with
  | root h' =>
      obtain rfl := List.mem_singleton.mp h
      rw [h']
      rfl
  | up h' _ ih =>
      cases h with
      | head => rw [h']; rfl
      | tail _ later => exact ih later

theorem length_lt (climb : Climbs next a es r) {nodes : List α}
    (all : ∀ b, (next b).isSome = true → b ∈ nodes) : es.length < nodes.length := by
  have within : a :: es.map Prod.fst ⊆ nodes := fun b hb => all b (climb.known hb)
  have bound := (climb.nodup.subperm within).length_le
  rw [List.length_cons, List.length_map] at bound
  exact bound

/-- A forest that grows keeps the climbs. -/
theorem grow (climb : Climbs next a es r)
    (same : ∀ b, (next b).isSome = true → next' b = next b) : Climbs next' a es r := by
  induction climb with
  | root h => exact .root ((same _ (by rw [h]; rfl)).trans h)
  | up h _ ih => exact .up ((same _ (by rw [h]; rfl)).trans h) ih

/-- Giving the root a parent extends every climb to it by one edge. -/
theorem graft (climb : Climbs next a es r)
    (same : ∀ b, b ≠ r → (next b).isSome = true → next' b = next b)
    (below : next' r = some (some (n, e))) (above : next' n = some none) :
    Climbs next' a (es ++ [(n, e)]) n := by
  induction climb with
  | root => exact .up below (.root above)
  | @up a b e' es r h tail ih =>
      have inner : a ≠ r := by
        rintro rfl
        cases h.symm.trans tail.root_next
      have known : (next a).isSome = true := by rw [h]; rfl
      exact .up ((same a inner known).trans h) (ih same below)

/-- Nothing climbs from a node that is its own parent. -/
theorem not_of_loop (loop : next a = some (some (a, e))) : ¬ Climbs next a es r := by
  intro climb
  have again : a ∈ es.map Prod.fst := by
    cases climb with
    | root h => cases h.symm.trans loop
    | up h _ =>
        obtain ⟨rfl, rfl⟩ := Prod.mk.inj (Option.some.inj (Option.some.inj (h.symm.trans loop)))
        exact List.mem_cons_self
  exact (List.nodup_cons.mp climb.nodup).1 again

end Climbs

/-! ## Following parents without labels -/

/-- One step up, without the label of the edge. -/
def IsParent (next : α → Option (Option (α × β))) (a b : α) : Prop :=
  ∃ e, next a = some (some (b, e))

theorem IsParent.unique {a b c : α} (left : IsParent next a b) (right : IsParent next a c) :
    b = c := by
  obtain ⟨e, h⟩ := left
  obtain ⟨e', h'⟩ := right
  exact (Prod.mk.inj (Option.some.inj (Option.some.inj (h.symm.trans h')))).1

namespace Climbs

variable {a b r : α} {es : List (α × β)}

theorem reaches (climb : Climbs next a es r) : Relation.ReflTransGen (IsParent next) a r := by
  induction climb with
  | root => exact .refl
  | up h _ ih => exact .head ⟨_, h⟩ ih

/-- A node from which a root is reached climbs to it. -/
theorem exists_of_reaches (path : Relation.ReflTransGen (IsParent next) a r)
    (h : next r = some none) : ∃ es, Climbs next a es r := by
  induction path using Relation.ReflTransGen.head_induction_on with
  | refl => exact ⟨[], .root h⟩
  | head step _ ih =>
      obtain ⟨e, hstep⟩ := step
      obtain ⟨es, climb⟩ := ih
      exact ⟨_, .up hstep climb⟩

/-- Everything properly above a node is met on its climb. -/
theorem mem_of_above (climb : Climbs next a es r)
    (path : Relation.TransGen (IsParent next) a b) : b ∈ es.map Prod.fst := by
  induction climb with
  | root h =>
      obtain ⟨c, ⟨e, step⟩, _⟩ := Relation.TransGen.head'_iff.mp path
      cases h.symm.trans step
  | @up a c e es r h _ ih =>
      obtain ⟨d, step, rest⟩ := Relation.TransGen.head'_iff.mp path
      obtain rfl := IsParent.unique ⟨e, h⟩ step
      rw [List.map_cons, List.mem_cons]
      cases Relation.reflTransGen_iff_eq_or_transGen.mp rest with
      | inl same => exact .inl same
      | inr further => exact .inr (ih further)

/-- A node that climbs to a root is not above itself. -/
theorem not_above_self (climb : Climbs next a es r) :
    ¬ Relation.TransGen (IsParent next) a a := by
  intro loop
  exact (List.nodup_cons.mp climb.nodup).1 (climb.mem_of_above loop)

end Climbs

/-- The edges from a node up to a node above it, in order. -/
inductive Ascends (next : α → Option (Option (α × β))) : α → List (α × β) → α → Prop
  | here (a) : Ascends next a [] a
  | up {a b e es k} (h : next a = some (some (b, e))) (tail : Ascends next b es k) :
      Ascends next a ((b, e) :: es) k

/-- A climb goes through every node on the way. -/
theorem Ascends.climbs {a k r : α} {es fs : List (α × β)} (path : Ascends next a es k)
    (climb : Climbs next k fs r) : Climbs next a (es ++ fs) r := by
  induction path with
  | here => exact climb
  | up h _ ih => exact .up h (ih climb)

/-- Every known node climbs to the same root. -/
def HasRoot (next : α → Option (Option (α × β))) (r : α) : Prop :=
  ∀ a, (next a).isSome = true → ∃ es, Climbs next a es r

theorem HasRoot.eq_of_root {a r : α} (tree : HasRoot next r) (h : next a = some none) :
    a = r := by
  obtain ⟨es, climb⟩ := tree a (by rw [h]; rfl)
  exact ((Climbs.root h).unique climb).2

end SpotSdk.Foundations
