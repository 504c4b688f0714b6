import Mathlib.Data.List.Basic

/-!
# Walks to the fields of a nested message

A message has members that are always there, and parts that may be absent; writing to an
absent part makes it. A walk leads through parts and repeated members to fields of one
type. It can change the fields that are there, or go on the way mutable accessors do and
make every absent part on it. The two agree exactly on the messages that are complete along
the walk, and only the first leaves everything else as it was.
-/

namespace SpotSdk.Foundations

/-- A member that every message has. -/
structure Member (M P : Type*) where
  get : M → P
  put : M → P → M
  get_put : ∀ m p, get (put m p) = p
  put_put : ∀ m p q, put (put m p) q = put m q
  put_get : ∀ m, put m (get m) = m

/-- A part that a message may lack. -/
structure Part (M P : Type*) where
  get : M → Option P
  put : M → P → M
  get_put : ∀ m p, get (put m p) = some p
  put_put : ∀ m p q, put (put m p) q = put m q
  put_get : ∀ m p, get m = some p → put m p = m

variable {M P D : Type*}

/-- A part that is kept as a member that may be empty. -/
def Part.ofMember (member : Member M (Option P)) : Part M P where
  get := member.get
  put m p := member.put m (some p)
  get_put m p := member.get_put m (some p)
  put_put m p q := member.put_put m (some p) (some q)
  put_get m p here := by rw [← here, member.put_get]

/-- Change the part, and make it if it is absent. -/
def Part.mutable [Inhabited P] (part : Part M P) (f : P → P) (m : M) : M :=
  part.put m (f ((part.get m).getD default))

/-- Change the part if it is there. -/
def Part.present (part : Part M P) (f : P → P) (m : M) : M :=
  match part.get m with
  | none => m
  | some p => part.put m (f p)

theorem Member.put_injective (member : Member M P) {m : M} {p q : P} :
    member.put m p = member.put m q ↔ p = q := by
  refine ⟨fun same => ?_, fun same => same ▸ rfl⟩
  rw [← member.get_put m p, same, member.get_put]

theorem Part.put_injective (part : Part M P) {m : M} {p q : P} :
    part.put m p = part.put m q ↔ p = q := by
  refine ⟨fun same => ?_, fun same => same ▸ rfl⟩
  have gets := part.get_put m p
  rw [same, part.get_put] at gets
  exact (Option.some.inj gets).symm

/-- The fields a walk leads to, what it does to them, and the messages that have every part
on the way. -/
structure FieldWalk (M D : Type*) where
  fields : M → List D
  update : (D → D) → M → M
  mutable : (D → D) → M → M
  Complete : M → Prop
  update_same : ∀ f m, (∀ d ∈ fields m, f d = d) → update f m = m
  mutable_mutable : ∀ f g m, mutable f (mutable g m) = mutable (f ∘ g) m
  mem_fields_mutable : ∀ f m, ∀ d ∈ fields (mutable f m), ∃ c, d = f c
  mutable_eq_update_iff : ∀ f m, mutable f m = update f m ↔ Complete m

namespace FieldWalk

/-- The walk that stops at once, at no field. -/
def nowhere : FieldWalk M D where
  fields _ := []
  update _ m := m
  mutable _ m := m
  Complete _ := True
  update_same _ _ _ := rfl
  mutable_mutable _ _ _ := rfl
  mem_fields_mutable _ _ _ member := absurd member List.not_mem_nil
  mutable_eq_update_iff _ _ := iff_of_true rfl trivial

/-- The walk to a member. -/
def field (member : Member M D) : FieldWalk M D where
  fields m := [member.get m]
  update f m := member.put m (f (member.get m))
  mutable f m := member.put m (f (member.get m))
  Complete _ := True
  update_same f m same := by
    rw [same _ (List.mem_singleton_self _), member.put_get]
  mutable_mutable f g m := by
    rw [member.get_put, member.put_put]
    rfl
  mem_fields_mutable f m d inside := by
    rw [member.get_put, List.mem_singleton] at inside
    exact ⟨_, inside⟩
  mutable_eq_update_iff _ _ := iff_of_true rfl trivial

/-- A walk in a part. -/
def through [Inhabited P] (part : Part M P) (walk : FieldWalk P D) : FieldWalk M D where
  fields m := (part.get m).elim [] walk.fields
  update f m := part.present (walk.update f) m
  mutable f m := part.mutable (walk.mutable f) m
  Complete m := ∃ p, part.get m = some p ∧ walk.Complete p
  update_same f m same := by
    cases here : part.get m with
    | none => simp only [Part.present, here]
    | some p =>
        rw [here] at same
        simp only [Part.present, here, walk.update_same f p same, part.put_get m p here]
  mutable_mutable f g m := by
    rw [Part.mutable, Part.mutable, Part.mutable, part.get_put, part.put_put,
      Option.getD_some, walk.mutable_mutable]
  mem_fields_mutable f m d inside := by
    rw [Part.mutable, part.get_put, Option.elim_some] at inside
    exact walk.mem_fields_mutable f _ d inside
  mutable_eq_update_iff f m := by
    cases here : part.get m with
    | none =>
        -- The part is made, so the message changes.
        refine iff_of_false (fun same => ?_) (fun ⟨p, there, _⟩ => Option.some_ne_none p there.symm)
        have gets := part.get_put m (walk.mutable f default)
        rw [Part.mutable, here, Option.getD_none, Part.present, here] at same
        rw [same, here] at gets
        exact Option.some_ne_none _ gets.symm
    | some p =>
        rw [Part.mutable, here, Option.getD_some, Part.present, here]
        dsimp only
        rw [part.put_injective, walk.mutable_eq_update_iff]
        simp only [Option.some.injEq, exists_eq_left']

/-- A walk in every element of a repeated member. -/
def each (elements : Member M (List P)) (walk : FieldWalk P D) : FieldWalk M D where
  fields m := (elements.get m).flatMap walk.fields
  update f m := elements.put m ((elements.get m).map (walk.update f))
  mutable f m := elements.put m ((elements.get m).map (walk.mutable f))
  Complete m := ∀ p ∈ elements.get m, walk.Complete p
  update_same f m same := by
    have kept : ∀ p ∈ elements.get m, walk.update f p = id p := fun p there =>
      walk.update_same f p fun d inside => same d (List.mem_flatMap.mpr ⟨p, there, inside⟩)
    rw [List.map_congr_left kept, List.map_id, elements.put_get]
  mutable_mutable f g m := by
    rw [elements.get_put, elements.put_put, List.map_map]
    congr 1
    apply List.map_congr_left
    intro p _
    exact walk.mutable_mutable f g p
  mem_fields_mutable f m d inside := by
    rw [elements.get_put, List.mem_flatMap] at inside
    obtain ⟨q, there, inside⟩ := inside
    obtain ⟨p, _, rfl⟩ := List.mem_map.mp there
    exact walk.mem_fields_mutable f p d inside
  mutable_eq_update_iff f m := by
    rw [elements.put_injective, List.map_inj_left]
    exact forall₂_congr fun p _ => walk.mutable_eq_update_iff f p

/-- Walks in the messages of several types, each of its own. -/
def ofType {T : Type*} {C : T → Type*} (walk : ∀ type, FieldWalk (C type) D) :
    FieldWalk (Sigma C) D where
  fields m := (walk m.1).fields m.2
  update f m := ⟨m.1, (walk m.1).update f m.2⟩
  mutable f m := ⟨m.1, (walk m.1).mutable f m.2⟩
  Complete m := (walk m.1).Complete m.2
  update_same f m same := by
    rw [(walk m.1).update_same f m.2 same]
  mutable_mutable f g m := by
    rw [(walk m.1).mutable_mutable]
  mem_fields_mutable f m := (walk m.1).mem_fields_mutable f m.2
  mutable_eq_update_iff f m := by
    rw [Sigma.mk.injEq, ← (walk m.1).mutable_eq_update_iff f m.2, heq_iff_eq]
    exact and_iff_right rfl

theorem complete_through_field [Inhabited P] (part : Part M P) (member : Member P D) (m : M) :
    (through part (field member)).Complete m ↔ (part.get m).isSome := by
  rw [Option.isSome_iff_exists]
  exact exists_congr fun p => and_iff_left trivial

section Clearing

variable (walk : FieldWalk M D) (blank : D)

/-- Everything but the fields is the same: the messages are equal once all the fields that
are there are blanked. -/
def SameOutside (before after : M) : Prop :=
  walk.update (fun _ => blank) before = walk.update (fun _ => blank) after

/-- Clear the fields the way mutable accessors do. -/
def clear (m : M) : M := walk.mutable (fun _ => blank) m

theorem eq_blank_of_mem_clear {m : M} {d : D} (inside : d ∈ walk.fields (walk.clear blank m)) :
    d = blank := by
  obtain ⟨_, same⟩ := walk.mem_fields_mutable _ m d inside
  exact same

theorem clear_clear (m : M) : walk.clear blank (walk.clear blank m) = walk.clear blank m :=
  walk.mutable_mutable _ _ m

/-- Clearing leaves everything else as it was exactly if no part has to be made. -/
theorem sameOutside_clear_iff (m : M) :
    walk.SameOutside blank m (walk.clear blank m) ↔ walk.Complete m := by
  have cleared : walk.update (fun _ => blank) (walk.clear blank m) = walk.clear blank m :=
    walk.update_same _ _ fun d inside => (walk.eq_blank_of_mem_clear blank inside).symm
  rw [SameOutside, cleared, eq_comm, clear, walk.mutable_eq_update_iff]

end Clearing

end FieldWalk

end SpotSdk.Foundations
