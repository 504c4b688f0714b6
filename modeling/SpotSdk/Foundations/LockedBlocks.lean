import Mathlib.Algebra.BigOperators.Group.Finset.Piecewise
import Mathlib.Data.Fintype.Basic
import Mathlib.Data.List.Basic
import Mathlib.Logic.Function.Basic
import SpotSdk.Foundations.LabelledRuns

/-!
# Operations of two lock-guarded blocks

An operation runs one block under a lock and either answers there or leaves a second
block for later. Threads take turns block by block. While every second block still
finds what its first block read, the answers in their order are a sequential
execution of the whole operations.
-/

namespace SpotSdk.Foundations

/-- Operations of at most two atomic blocks on a shared state. A first block that
does not answer only reads, and leaves the second block with what it read. -/
structure LockedBlocks (O L σ ρ : Type*) where
  first : O → σ → (σ × ρ) ⊕ L
  second : L → σ → σ × ρ

namespace LockedBlocks

variable {ι O L σ ρ : Type*}

/-- Both blocks in one go. -/
def whole (M : LockedBlocks O L σ ρ) (op : O) (s : σ) : σ × ρ :=
  match M.first op s with
  | .inl answer => answer
  | .inr rest => M.second rest s

/-- A thread: the operations it still has to answer, the second block of the first
of them when that block is due, and the replies so far. -/
structure Thread (O L ρ : Type*) where
  todo : List O
  pending : Option L
  replies : List ρ
  deriving DecidableEq

/-- A thread that has not started. -/
def Thread.start (todo : List O) : Thread O L ρ :=
  ⟨todo, none, []⟩

structure Config (ι O L σ ρ : Type*) where
  shared : σ
  threads : ι → Thread O L ρ

/-- What one block did. -/
inductive Block (O L ρ : Type*)
  | read (op : O) (rest : L)
  | reply (op : O) (result : ρ)
  deriving DecidableEq

def Block.isReply : Block O L ρ → Bool
  | read _ _ => false
  | reply _ _ => true

namespace Config

variable [DecidableEq ι]

/-- The effect of the block in which a thread answers its first operation. -/
def answer (c : Config ι O L σ ρ) (i : ι) (rest : List O) (out : σ × ρ) :
    Config ι O L σ ρ :=
  { shared := out.1
    threads := Function.update c.threads i
      ⟨rest, none, (c.threads i).replies ++ [out.2]⟩ }

/-- The effect of a block that only reads. -/
def wait (c : Config ι O L σ ρ) (i : ι) (rest : L) : Config ι O L σ ρ :=
  { c with
    threads := Function.update c.threads i { c.threads i with pending := some rest } }

/-- The configuration in which no operation has begun. First blocks that only read
are taken back, which the shared state does not show. -/
def erase (c : Config ι O L σ ρ) : Config ι O L σ ρ :=
  { c with threads := fun i => { c.threads i with pending := none } }

/-- No thread is between its two blocks. -/
def Idle (c : Config ι O L σ ρ) : Prop :=
  ∀ i, (c.threads i).pending = none

/-- Every thread has answered all its operations. -/
def Complete (c : Config ι O L σ ρ) : Prop :=
  c.Idle ∧ ∀ i, (c.threads i).todo = []

omit [DecidableEq ι] in
theorem Idle.erase_eq {c : Config ι O L σ ρ} (h : c.Idle) : c.erase = c := by
  have hthreads : (fun i => { c.threads i with pending := none }) = c.threads := by
    funext i
    have hi := h i
    revert hi
    cases c.threads i
    rintro rfl
    rfl
  simp only [erase, hthreads]

theorem erase_wait (c : Config ι O L σ ρ) (i : ι) (rest : L) :
    (c.wait i rest).erase = c.erase := by
  have hthreads : (c.wait i rest).erase.threads = c.erase.threads := by
    funext j
    by_cases hj : j = i
    · subst hj
      simp [wait, erase]
    · simp [wait, erase, hj]
  exact congrArg (Config.mk c.shared) hthreads

theorem erase_answer (c : Config ι O L σ ρ) (i : ι) (rest : List O) (out : σ × ρ) :
    (c.answer i rest out).erase = c.erase.answer i rest out := by
  have hthreads : (c.answer i rest out).erase.threads =
      (c.erase.answer i rest out).threads := by
    funext j
    by_cases hj : j = i
    · subst hj
      simp [answer, erase]
    · simp [answer, erase, hj]
  exact congrArg (Config.mk out.1) hthreads

end Config

variable [DecidableEq ι] (M : LockedBlocks O L σ ρ)

/-- The next block of a thread. -/
def step (c : Config ι O L σ ρ) (i : ι) : Option (Config ι O L σ ρ × Block O L ρ) :=
  match (c.threads i).todo, (c.threads i).pending with
  | [], _ => none
  | op :: rest, some block =>
      let out := M.second block c.shared
      some (c.answer i rest out, .reply op out.2)
  | op :: rest, none =>
      match M.first op c.shared with
      | .inl out => some (c.answer i rest out, .reply op out.2)
      | .inr block => some (c.wait i block, .read op block)

/-- The next operation of a thread, both blocks together. -/
def wholeStep (c : Config ι O L σ ρ) (i : ι) :
    Option (Config ι O L σ ρ × Block O L ρ) :=
  match (c.threads i).todo with
  | [] => none
  | op :: rest =>
      let out := M.whole op c.shared
      some (c.answer i rest out, .reply op out.2)

/-- The interleaving semantics, labelled with the thread and its block. -/
def Interleaved (c : Config ι O L σ ρ) (e : ι × Block O L ρ) (d : Config ι O L σ ρ) :
    Prop :=
  M.step c e.1 = some (d, e.2)

/-- The sequential semantics: a thread takes a whole operation. -/
def Sequential (c : Config ι O L σ ρ) (e : ι × Block O L ρ) (d : Config ι O L σ ρ) :
    Prop :=
  M.wholeStep c e.1 = some (d, e.2)

/-- A second block that is due was left by its first block, and the shared state
still gives that first block the same reading. -/
def Fresh (c : Config ι O L σ ρ) (e : ι × Block O L ρ) : Prop :=
  ∀ op ∈ (c.threads e.1).todo.head?, ∀ block ∈ (c.threads e.1).pending,
    M.first op c.shared = .inr block

/-- The state changes of the whole operations a history answers. -/
def Applies (s : σ) (e : ι × Block O L ρ) (t : σ) : Prop :=
  match e.2 with
  | .read _ _ => t = s
  | .reply op result => M.whole op s = (t, result)

variable {M}
variable {c d : Config ι O L σ ρ} {i : ι} {b : Block O L ρ}
variable {history : List (ι × Block O L ρ)}

theorem whole_of_answer {op : O} {s : σ} {out : σ × ρ} (h : M.first op s = .inl out) :
    M.whole op s = out := by
  simp only [whole, h]

theorem whole_of_read {op : O} {s : σ} {rest : L} (h : M.first op s = .inr rest) :
    M.whole op s = M.second rest s := by
  simp only [whole, h]

/-- What one block of a thread can do. -/
theorem Interleaved.cases (h : M.Interleaved c (i, b) d) :
    ∃ op rest, (c.threads i).todo = op :: rest ∧
      ((∃ block, (c.threads i).pending = some block ∧
          d = c.answer i rest (M.second block c.shared) ∧
          b = .reply op (M.second block c.shared).2) ∨
        (∃ out, (c.threads i).pending = none ∧ M.first op c.shared = .inl out ∧
          d = c.answer i rest out ∧ b = .reply op out.2) ∨
        (∃ block, (c.threads i).pending = none ∧ M.first op c.shared = .inr block ∧
          d = c.wait i block ∧ b = .read op block)) := by
  simp only [Interleaved, step] at h
  split at h
  · cases h
  · next op rest block htodo hpending =>
      simp only [Option.some.injEq, Prod.mk.injEq] at h
      exact ⟨op, rest, htodo, Or.inl ⟨block, hpending, h.1.symm, h.2.symm⟩⟩
  · next op rest htodo hpending =>
      refine ⟨op, rest, htodo, Or.inr ?_⟩
      split at h
      · next out hfirst =>
          simp only [Option.some.injEq, Prod.mk.injEq] at h
          exact Or.inl ⟨out, hpending, hfirst, h.1.symm, h.2.symm⟩
      · next block hfirst =>
          simp only [Option.some.injEq, Prod.mk.injEq] at h
          exact Or.inr ⟨block, hpending, hfirst, h.1.symm, h.2.symm⟩

/-- A fresh block reads without an effect or answers as the whole operation would. -/
theorem fresh_step_cases (h : Guard M.Interleaved M.Fresh c (i, b) d) :
    ∃ op rest, (c.threads i).todo = op :: rest ∧
      ((∃ block, d = c.wait i block ∧ b = .read op block) ∨
        (d = c.answer i rest (M.whole op c.shared) ∧
          b = .reply op (M.whole op c.shared).2)) := by
  obtain ⟨hstep, hfresh⟩ := h
  obtain ⟨op, rest, htodo, hcases⟩ := hstep.cases
  refine ⟨op, rest, htodo, ?_⟩
  obtain ⟨block, hpending, hd, hb⟩ | ⟨out, _, hfirst, hd, hb⟩ | ⟨block, _, _, hd, hb⟩ :=
    hcases
  · have hread : M.first op c.shared = .inr block :=
      hfresh op (by simp [htodo]) block (by simp [hpending])
    rw [← whole_of_read hread] at hd hb
    exact Or.inr ⟨hd, hb⟩
  · rw [← whole_of_answer hfirst] at hd hb
    exact Or.inr ⟨hd, hb⟩
  · exact Or.inl ⟨block, hd, hb⟩

/-- A fresh block is no step or one step of the sequential semantics. -/
theorem fresh_step_sequential (h : Guard M.Interleaved M.Fresh c (i, b) d) :
    Run M.Sequential c.erase ([(i, b)].filter fun e => e.2.isReply) d.erase := by
  obtain ⟨op, rest, htodo, ⟨block, rfl, rfl⟩ | ⟨rfl, rfl⟩⟩ := fresh_step_cases h
  · rw [Config.erase_wait]
    exact Run.nil _
  · rw [Config.erase_answer]
    refine Run.single ?_
    have htodo' : (c.erase.threads i).todo = op :: rest := htodo
    simp only [Sequential, wholeStep, htodo']
    rfl

/-- The answers of a run of fresh blocks, in the order they were given, are a
sequential run of the whole operations. -/
theorem fresh_run_sequential (run : Run (Guard M.Interleaved M.Fresh) c history d) :
    Run M.Sequential c.erase (history.filter fun e => e.2.isReply) d.erase := by
  induction run with
  | nil c => exact Run.nil _
  | @cons c e c' es d h _ ih =>
      have hstep := fresh_step_sequential (i := e.1) (b := e.2) h
      have happend := hstep.append ih
      rwa [← List.filter_append] at happend

/-- On the shared state a run of fresh blocks applies the operations it answers. -/
theorem fresh_run_applies (run : Run (Guard M.Interleaved M.Fresh) c history d) :
    Run M.Applies c.shared history d.shared := by
  refine run.map Config.shared fun {c e d} h => ?_
  obtain ⟨i, b⟩ := e
  obtain ⟨op, rest, _, ⟨block, rfl, rfl⟩ | ⟨rfl, rfl⟩⟩ := fresh_step_cases h
  · rfl
  · rfl

/-! ## Sequential runs -/

/-- What one operation of a thread does. -/
theorem Sequential.cases (h : M.Sequential c (i, b) d) :
    ∃ op rest, (c.threads i).todo = op :: rest ∧
      d = c.answer i rest (M.whole op c.shared) ∧ b = .reply op (M.whole op c.shared).2 := by
  simp only [Sequential, wholeStep] at h
  split at h
  · cases h
  · next op rest htodo =>
      simp only [Option.some.injEq, Prod.mk.injEq] at h
      exact ⟨op, rest, htodo, h.1.symm, h.2.symm⟩

/-- One operation adds one reply. -/
theorem Sequential.replies [Fintype ι] (h : M.Sequential c (i, b) d) :
    ∑ j, (d.threads j).replies.length = ∑ j, (c.threads j).replies.length + 1 := by
  obtain ⟨op, rest, _, rfl, _⟩ := h.cases
  have hupdate : (fun j => ((c.answer i rest (M.whole op c.shared)).threads j).replies.length) =
      Function.update (fun j => (c.threads j).replies.length) i
        ((c.threads i).replies.length + 1) := by
    funext j
    by_cases hj : j = i
    · subst hj
      simp [Config.answer]
    · simp [Config.answer, hj]
  have hsplit := Finset.sum_eq_add_sum_sdiff_singleton_of_mem (Finset.mem_univ i)
    fun j => (c.threads j).replies.length
  rw [hupdate, Finset.sum_update_of_mem (Finset.mem_univ i), hsplit]
  omega

theorem sequential_run_replies [Fintype ι] (run : Run M.Sequential c history d) :
    ∑ j, (d.threads j).replies.length =
      ∑ j, (c.threads j).replies.length + history.length := by
  induction run with
  | nil => rfl
  | @cons c e c' es d h _ ih =>
      have hstep := Sequential.replies (i := e.1) (b := e.2) h
      rw [ih, hstep, List.length_cons]
      omega

end LockedBlocks

end SpotSdk.Foundations
