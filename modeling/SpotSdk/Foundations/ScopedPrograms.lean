import Mathlib.Data.List.Basic

/-!
# Programs with nested scopes

A program makes calls on an object, branches on a test of it, opens scopes and returns
early. A scope has a guard that acts on the object when the scope is left, also by a
return. What two kinds of actions have in common is carried from their calls and guards
to whole programs once, here, and so is the order in which scopes are left.
-/

namespace SpotSdk.Foundations

variable {σ τ ε γ : Type*}

/-- A program over calls and guards. A return leaves the scopes up to the end of the
function that it is in. -/
inductive ScopedProgram (ε γ : Type*)
  | skip
  | call (e : ε)
  | seq (first rest : ScopedProgram ε γ)
  | branch (yes no : ScopedProgram ε γ)
  | ret
  | scope (guard : γ) (body : ScopedProgram ε γ)
  | function (body : ScopedProgram ε γ)

/-- What calls and guards do to an object, and what a branch tests of it. -/
structure ScopeActions (σ ε γ : Type*) where
  call : σ → ε → Option σ
  leave : σ → γ → Option σ
  test : σ → Bool

/-- What happens in a run. -/
inductive ScopeMark (ε γ : Type*)
  | made (e : ε)
  | opened (guard : γ)
  | closed (guard : γ)

structure ScopeOutcome (σ ε γ : Type*) where
  state : σ
  returned : Bool := false
  marks : List (ScopeMark ε γ) := []

namespace ScopedProgram

def run (m : ScopeActions σ ε γ) : ScopedProgram ε γ → σ → Option (ScopeOutcome σ ε γ)
  | skip, s => some { state := s }
  | call e, s => (m.call s e).map fun t => { state := t, marks := [.made e] }
  | seq first rest, s =>
      (first.run m s).bind fun o =>
        if o.returned then some o
        else (rest.run m o.state).map fun o' => { o' with marks := o.marks ++ o'.marks }
  | branch yes no, s => if m.test s then yes.run m s else no.run m s
  | ret, s => some { state := s, returned := true }
  | scope guard body, s =>
      (body.run m s).bind fun o =>
        (m.leave o.state guard).map fun t =>
          { o with state := t, marks := .opened guard :: (o.marks ++ [.closed guard]) }
  | function body, s => (body.run m s).map fun o => { o with returned := false }

/-- All calls and guards of a program meet their conditions. -/
def All (fits : ε → Prop) (fitsGuard : γ → Prop) : ScopedProgram ε γ → Prop
  | skip | ret => True
  | call e => fits e
  | seq first rest => first.All fits fitsGuard ∧ rest.All fits fitsGuard
  | branch yes no => yes.All fits fitsGuard ∧ no.All fits fitsGuard
  | scope guard body => fitsGuard guard ∧ body.All fits fitsGuard
  | function body => body.All fits fitsGuard

end ScopedProgram

/-! ## Simulations -/

/-- One kind of actions follows another one on related objects. -/
structure ScopeActions.Follows (low : ScopeActions σ ε γ) (high : ScopeActions τ ε γ)
    (R : σ → τ → Prop) (fits : ε → Prop) (fitsGuard : γ → Prop) : Prop where
  test : ∀ {s t}, R s t → low.test s = high.test t
  call : ∀ {s t e t'}, R s t → fits e → high.call t e = some t' →
    ∃ s', low.call s e = some s' ∧ R s' t'
  leave : ∀ {s t guard t'}, R s t → fitsGuard guard → high.leave t guard = some t' →
    ∃ s', low.leave s guard = some s' ∧ R s' t'

/-- Two outcomes with related objects that went alike. -/
structure ScopeOutcome.Alike (R : σ → τ → Prop) (o : ScopeOutcome σ ε γ)
    (o' : ScopeOutcome τ ε γ) : Prop where
  state : R o.state o'.state
  returned : o.returned = o'.returned
  marks : o.marks = o'.marks

/-- What follows call by call and guard by guard follows through whole programs. -/
theorem ScopeActions.Follows.run {low : ScopeActions σ ε γ} {high : ScopeActions τ ε γ}
    {R : σ → τ → Prop} {fits : ε → Prop} {fitsGuard : γ → Prop}
    (follows : low.Follows high R fits fitsGuard) {p : ScopedProgram ε γ}
    (all : p.All fits fitsGuard) {s : σ} {t : τ} (related : R s t) {o' : ScopeOutcome τ ε γ}
    (ran : p.run high t = some o') : ∃ o, p.run low s = some o ∧ o.Alike R o' := by
  induction p generalizing s t o' with
  | skip =>
      obtain rfl := Option.some.inj ran
      exact ⟨_, rfl, related, rfl, rfl⟩
  | ret =>
      obtain rfl := Option.some.inj ran
      exact ⟨_, rfl, related, rfl, rfl⟩
  | call e =>
      obtain ⟨t', called, rfl⟩ := Option.map_eq_some_iff.mp ran
      obtain ⟨s', called', related'⟩ := follows.call related all called
      exact ⟨_, Option.map_eq_some_iff.mpr ⟨s', called', rfl⟩, related', rfl, rfl⟩
  | seq first rest ihFirst ihRest =>
      obtain ⟨mid', ranFirst, ranRest⟩ := Option.bind_eq_some_iff.mp ran
      obtain ⟨mid, ranFirst', alike⟩ := ihFirst all.1 related ranFirst
      rw [ScopedProgram.run, ranFirst', Option.bind_some, alike.returned]
      split at ranRest
      · next returned =>
          obtain rfl := Option.some.inj ranRest
          rw [if_pos returned]
          exact ⟨mid, rfl, alike⟩
      · next goesOn =>
          obtain ⟨last', ranLast, rfl⟩ := Option.map_eq_some_iff.mp ranRest
          obtain ⟨last, ranLast', alike'⟩ := ihRest all.2 alike.state ranLast
          rw [if_neg goesOn, ranLast']
          refine ⟨_, rfl, alike'.state, alike'.returned, ?_⟩
          exact congrArg₂ (· ++ ·) alike.marks alike'.marks
  | branch yes no ihYes ihNo =>
      rw [ScopedProgram.run] at ran ⊢
      rw [follows.test related]
      cases test : high.test t with
      | true =>
          rw [test, if_pos rfl] at ran
          rw [if_pos rfl]
          exact ihYes all.1 related ran
      | false =>
          rw [test, if_neg Bool.false_ne_true] at ran
          rw [if_neg Bool.false_ne_true]
          exact ihNo all.2 related ran
  | scope guard body ih =>
      obtain ⟨mid', ranBody, leaving⟩ := Option.bind_eq_some_iff.mp ran
      obtain ⟨t', left, rfl⟩ := Option.map_eq_some_iff.mp leaving
      obtain ⟨mid, ranBody', alike⟩ := ih all.2 related ranBody
      obtain ⟨s', left', related'⟩ := follows.leave alike.state all.1 left
      rw [ScopedProgram.run, ranBody', Option.bind_some, left']
      refine ⟨_, rfl, related', alike.returned, ?_⟩
      exact congrArg (.opened guard :: · ++ [.closed guard]) alike.marks
  | function body ih =>
      obtain ⟨mid', ranBody, rfl⟩ := Option.map_eq_some_iff.mp ran
      obtain ⟨mid, ranBody', alike⟩ := ih all related ranBody
      exact ⟨_, Option.map_eq_some_iff.mpr ⟨mid, ranBody', rfl⟩, alike.state, rfl, alike.marks⟩

/-- Where no call and no guard fails, every program has an outcome. -/
theorem ScopedProgram.run_isSome {m : ScopeActions σ ε γ} (calls : ∀ s e, (m.call s e).isSome)
    (leaves : ∀ s guard, (m.leave s guard).isSome) (p : ScopedProgram ε γ) (s : σ) :
    (p.run m s).isSome := by
  induction p generalizing s with
  | skip => rfl
  | ret => rfl
  | call e =>
      rw [run, Option.isSome_map]
      exact calls s e
  | seq first rest ihFirst ihRest =>
      obtain ⟨mid, ran⟩ := Option.isSome_iff_exists.mp (ihFirst s)
      rw [run, ran, Option.bind_some]
      split
      · rfl
      · rw [Option.isSome_map]
        exact ihRest mid.state
  | branch yes no ihYes ihNo =>
      rw [run]
      split
      · exact ihYes s
      · exact ihNo s
  | scope guard body ih =>
      obtain ⟨mid, ran⟩ := Option.isSome_iff_exists.mp (ih s)
      rw [run, ran, Option.bind_some, Option.isSome_map]
      exact leaves mid.state guard
  | function body ih =>
      rw [run, Option.isSome_map]
      exact ih s

/-! ## The marks of a run -/

/-- The marks close these open scopes, the last one first, and every scope they open. -/
def Balances : List γ → List (ScopeMark ε γ) → Prop
  | [], [] => True
  | _ :: _, [] => False
  | outer, .made _ :: marks => Balances outer marks
  | outer, .opened guard :: marks => Balances (guard :: outer) marks
  | [], .closed _ :: _ => False
  | guard :: outer, .closed guard' :: marks => guard = guard' ∧ Balances outer marks

/-- The scopes that are open after these marks, the last one first. -/
def openAfter : List γ → List (ScopeMark ε γ) → List γ
  | outer, [] => outer
  | outer, .made _ :: marks => openAfter outer marks
  | outer, .opened guard :: marks => openAfter (guard :: outer) marks
  | outer, .closed _ :: marks => openAfter outer.tail marks

def ScopeMark.isClosed : ScopeMark ε γ → Bool
  | .closed _ => true
  | _ => false

/-- The object after these marks. -/
def replay (m : ScopeActions σ ε γ) : σ → List (ScopeMark ε γ) → Option σ
  | s, [] => some s
  | s, .made e :: marks => (m.call s e).bind fun t => replay m t marks
  | s, .opened _ :: marks => replay m s marks
  | s, .closed guard :: marks => (m.leave s guard).bind fun t => replay m t marks

/-- Marks that close what they should leave the scopes outside of them alone. -/
theorem Balances.append {own outer : List γ} {marks rest : List (ScopeMark ε γ)}
    (balances : Balances own marks) :
    Balances (own ++ outer) (marks ++ rest) ↔ Balances outer rest := by
  induction marks generalizing own with
  | nil =>
      cases own with
      | nil => exact Iff.rfl
      | cons guard own => exact balances.elim
  | cons mark marks ih =>
      cases mark with
      | made e =>
          have inner : Balances own marks := by
            cases own <;> exact balances
          rw [← ih inner]
          cases own <;> cases outer <;> exact Iff.rfl
      | opened guard =>
          have inner : Balances (guard :: own) marks := by
            cases own <;> exact balances
          rw [← ih inner]
          cases own <;> cases outer <;> exact Iff.rfl
      | closed guard =>
          cases own with
          | nil => exact balances.elim
          | cons guard' own =>
              obtain ⟨rfl, inner⟩ := balances
              rw [← ih inner]
              exact and_iff_right rfl

theorem replay_append (m : ScopeActions σ ε γ) (s : σ) (marks rest : List (ScopeMark ε γ)) :
    replay m s (marks ++ rest) = (replay m s marks).bind fun t => replay m t rest := by
  induction marks generalizing s with
  | nil => rfl
  | cons mark marks ih =>
      cases mark with
      | made e => simp only [List.cons_append, replay, ih, Option.bind_assoc]
      | opened guard => exact ih s
      | closed guard => simp only [List.cons_append, replay, ih, Option.bind_assoc]

theorem openAfter_append (outer : List γ) (marks rest : List (ScopeMark ε γ)) :
    openAfter outer (marks ++ rest) = openAfter (openAfter outer marks) rest := by
  induction marks generalizing outer with
  | nil => rfl
  | cons mark marks ih =>
      cases mark with
      | made e => exact ih outer
      | opened guard => exact ih (guard :: outer)
      | closed guard => exact ih outer.tail

theorem replay_closings (m : ScopeActions σ ε γ) (s : σ) (guards : List γ) :
    replay m s (guards.map .closed) = guards.foldlM m.leave s := by
  induction guards generalizing s with
  | nil => rfl
  | cons guard guards ih => exact congrArg (Option.bind (m.leave s guard)) (funext ih)

/-- The marks of a run lead to its end, and all scopes are closed in order. -/
theorem ScopedProgram.marks_of_run {m : ScopeActions σ ε γ} {p : ScopedProgram ε γ} {s : σ}
    {o : ScopeOutcome σ ε γ} (ran : p.run m s = some o) :
    Balances [] o.marks ∧ replay m s o.marks = some o.state := by
  induction p generalizing s o with
  | skip =>
      obtain rfl := Option.some.inj ran
      exact ⟨trivial, rfl⟩
  | ret =>
      obtain rfl := Option.some.inj ran
      exact ⟨trivial, rfl⟩
  | call e =>
      obtain ⟨t, called, rfl⟩ := Option.map_eq_some_iff.mp ran
      refine ⟨trivial, ?_⟩
      rw [replay, called]
      rfl
  | seq first rest ihFirst ihRest =>
      obtain ⟨mid, ranFirst, ranRest⟩ := Option.bind_eq_some_iff.mp ran
      obtain ⟨balances, leads⟩ := ihFirst ranFirst
      split at ranRest
      · obtain rfl := Option.some.inj ranRest
        exact ⟨balances, leads⟩
      · obtain ⟨last, ranLast, rfl⟩ := Option.map_eq_some_iff.mp ranRest
        obtain ⟨balances', leads'⟩ := ihRest ranLast
        have both : Balances ([] ++ []) (mid.marks ++ last.marks) := balances.append.mpr balances'
        refine ⟨both, ?_⟩
        rw [replay_append, leads, Option.bind_some, leads']
  | branch yes no ihYes ihNo =>
      rw [run] at ran
      split at ran
      · exact ihYes ran
      · exact ihNo ran
  | scope guard body ih =>
      obtain ⟨mid, ranBody, leaving⟩ := Option.bind_eq_some_iff.mp ran
      obtain ⟨t, left, rfl⟩ := Option.map_eq_some_iff.mp leaving
      obtain ⟨balances, leads⟩ := ih ranBody
      have closes : Balances ([] ++ [guard]) (mid.marks ++ [.closed guard]) :=
        balances.append.mpr ⟨rfl, trivial⟩
      constructor
      · exact closes
      · rw [replay, replay_append, leads, Option.bind_some, replay, left]
        rfl
  | function body ih =>
      obtain ⟨mid, ranBody, rfl⟩ := Option.map_eq_some_iff.mp ran
      have whole := ih ranBody
      exact whole

/-- Where nothing but closings follows, the open scopes are closed, the last one first. -/
theorem Balances.closings {outer : List γ} {pre post : List (ScopeMark ε γ)}
    (balances : Balances outer (pre ++ post)) (closings : ∀ mark ∈ post, mark.isClosed) :
    post = (openAfter outer pre).map .closed := by
  induction pre generalizing outer with
  | nil =>
      induction post generalizing outer with
      | nil =>
          cases outer with
          | nil => rfl
          | cons guard outer => exact balances.elim
      | cons mark post ih =>
          cases mark with
          | made e => exact absurd (closings _ List.mem_cons_self) Bool.false_ne_true
          | opened guard => exact absurd (closings _ List.mem_cons_self) Bool.false_ne_true
          | closed guard =>
              cases outer with
              | nil => exact balances.elim
              | cons guard' outer =>
                  obtain ⟨rfl, inner⟩ := balances
                  have tail := ih (fun mark member => closings mark (List.mem_cons_of_mem _ member))
                    inner
                  exact congrArg (ScopeMark.closed _ :: ·) tail
  | cons mark pre ih =>
      cases mark with
      | made e =>
          apply ih
          cases outer <;> exact balances
      | opened guard =>
          apply ih
          cases outer <;> exact balances
      | closed guard =>
          cases outer with
          | nil => exact balances.elim
          | cons guard' outer => exact ih balances.2

end SpotSdk.Foundations
