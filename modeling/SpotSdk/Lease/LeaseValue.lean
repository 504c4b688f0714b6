import SpotSdk.Foundations.SequenceClock

/-!
# Lease values

A lease names a resource and an epoch and carries a sequence clock. Comparison,
increment and sub-leasing follow the client's `Lease` class; the lemmas relate
them to the order on sequence clocks.
-/

namespace SpotSdk.Client

open Foundations Foundations.SequenceClock

/-- The lease message. -/
structure LeaseProto where
  resource : String := ""
  epoch : String := ""
  sequence : List UInt32 := []
  clientNames : List String := []
  deriving DecidableEq, Repr

inductive LeaseStatus
  | unowned
  | revoked
  | selfOwner
  | otherOwner
  | notManaged
  deriving DecidableEq, Repr

inductive CompareResult
  | same
  | superLease
  | subLease
  | older
  | newer
  | differentResources
  | differentEpochs
  | invalid
  deriving DecidableEq, Repr

def clientNameExtender : String := "<unknown>"

/-- `updateClientNamesList`: one client name for each sequence number. -/
def updateClientNamesList (proto : LeaseProto) : LeaseProto :=
  if proto.sequence.length < proto.clientNames.length then
    { proto with clientNames := proto.clientNames.take proto.sequence.length }
  else if proto.sequence.length > proto.clientNames.length then
    { proto with
      clientNames := proto.clientNames ++
        List.replicate (proto.sequence.length - proto.clientNames.length) clientNameExtender }
  else proto

/-- The client's lease: its message and what is known about its ownership. -/
structure Lease where
  proto : LeaseProto := {}
  status : LeaseStatus := .notManaged
  deriving DecidableEq, Repr

namespace Lease

/-- The constructor with an explicit status. -/
def ofProtoStatus (proto : LeaseProto) (status : LeaseStatus) : Lease :=
  ⟨updateClientNamesList proto, status⟩

/-- The constructor from a message takes ownership. -/
def ofProto (proto : LeaseProto) : Lease :=
  ofProtoStatus proto .selfOwner

def getResource (lease : Lease) : String :=
  lease.proto.resource

def IsValid (lease : Lease) : Prop :=
  lease.proto.resource ≠ "" ∧ 0 < lease.proto.sequence.length

instance (lease : Lease) : Decidable lease.IsValid :=
  inferInstanceAs (Decidable (_ ∧ _))

def isLeaseSelfOwned (lease : Lease) : Bool :=
  lease.status == .selfOwner

/-- The loop over the common part of two sequences. -/
def compareCommon : List UInt32 → List UInt32 → Option CompareResult
  | a :: as, b :: bs =>
      if a < b then some .older
      else if a > b then some .newer
      else compareCommon as bs
  | _, _ => none

def compareIgnoringResource (lease other : Lease) : CompareResult :=
  if lease.proto.epoch ≠ other.proto.epoch then .differentEpochs
  else
    match compareCommon lease.proto.sequence other.proto.sequence with
    | some result => result
    | none =>
        if lease.proto.sequence.length < other.proto.sequence.length then .superLease
        else if lease.proto.sequence.length > other.proto.sequence.length then .subLease
        else .same

def compare (lease other : Lease) : CompareResult :=
  if ¬ lease.IsValid ∨ ¬ other.IsValid then .invalid
  else if lease.proto.resource ≠ other.proto.resource then .differentResources
  else lease.compareIgnoringResource other

/-- `set_sequence(last_index, sequence(last_index) + 1)`, wrapping as `uint32`. -/
def incrementLast (sequence : List UInt32) : List UInt32 :=
  sequence.modify (sequence.length - 1) (· + 1)

def increment (lease : Lease) : Lease :=
  if ¬ lease.IsValid then {}
  else ofProto { lease.proto with sequence := incrementLast lease.proto.sequence }

def createSublease (lease : Lease) (clientName : String) : Lease :=
  if ¬ lease.IsValid then {}
  else ofProto { lease.proto with
    sequence := lease.proto.sequence ++ [0]
    clientNames := lease.proto.clientNames ++ [clientName] }

end Lease

@[simp] theorem updateClientNamesList_resource (proto : LeaseProto) :
    (updateClientNamesList proto).resource = proto.resource := by
  unfold updateClientNamesList
  split_ifs <;> rfl

@[simp] theorem updateClientNamesList_epoch (proto : LeaseProto) :
    (updateClientNamesList proto).epoch = proto.epoch := by
  unfold updateClientNamesList
  split_ifs <;> rfl

@[simp] theorem updateClientNamesList_sequence (proto : LeaseProto) :
    (updateClientNamesList proto).sequence = proto.sequence := by
  unfold updateClientNamesList
  split_ifs <;> rfl

namespace Lease

variable {lease other : Lease}

@[simp] theorem ofProto_resource (proto : LeaseProto) :
    (ofProto proto).proto.resource = proto.resource := by
  simp [ofProto, ofProtoStatus]

@[simp] theorem ofProto_epoch (proto : LeaseProto) :
    (ofProto proto).proto.epoch = proto.epoch := by
  simp [ofProto, ofProtoStatus]

@[simp] theorem ofProto_sequence (proto : LeaseProto) :
    (ofProto proto).proto.sequence = proto.sequence := by
  simp [ofProto, ofProtoStatus]

@[simp] theorem ofProto_status (proto : LeaseProto) :
    (ofProto proto).status = .selfOwner := rfl

theorem ofProto_isValid_iff (proto : LeaseProto) :
    (ofProto proto).IsValid ↔ proto.resource ≠ "" ∧ 0 < proto.sequence.length := by
  simp [IsValid]

/-- The default lease is not valid. -/
theorem not_isValid_default : ¬ ({} : Lease).IsValid := by decide

/-- The loop reports a first difference exactly when there is one. -/
theorem compareCommon_spec (a b : List UInt32) :
    (compareCommon a b = some .newer ∧ Above a b) ∨
      (compareCommon a b = some .older ∧ Above b a) ∨
      (compareCommon a b = none ∧ ¬ Above a b ∧ ¬ Above b a) := by
  induction a generalizing b with
  | nil => exact Or.inr (Or.inr ⟨rfl, not_above_nil_left, not_above_nil_right⟩)
  | cons x s ih =>
      cases b with
      | nil => exact Or.inr (Or.inr ⟨rfl, not_above_nil_right, not_above_nil_left⟩)
      | cons y t =>
          simp only [compareCommon, gt_iff_lt, above_cons_iff]
          rcases lt_trichotomy x y with h | rfl | h
          · exact Or.inr (Or.inl ⟨if_pos h, Or.inl h⟩)
          · simpa using ih t
          · exact Or.inl ⟨by rw [if_neg (lt_asymm h), if_pos h], Or.inl h⟩

/-- What comparison says about two valid leases of one resource and epoch. -/
theorem compare_eq (hl : lease.IsValid) (ho : other.IsValid)
    (hr : lease.proto.resource = other.proto.resource)
    (he : lease.proto.epoch = other.proto.epoch) :
    (lease.compare other = .newer ∧ Above lease.proto.sequence other.proto.sequence) ∨
      (lease.compare other = .older ∧ Above other.proto.sequence lease.proto.sequence) ∨
      (lease.compare other = .subLease ∧
        Extends lease.proto.sequence other.proto.sequence) ∨
      (lease.compare other = .superLease ∧
        Extends other.proto.sequence lease.proto.sequence) ∨
      (lease.compare other = .same ∧ lease.proto.sequence = other.proto.sequence) := by
  have hcmp : lease.compare other = lease.compareIgnoringResource other := by
    simp [compare, hl, ho, hr]
  rw [hcmp]
  simp only [compareIgnoringResource, he, ne_eq, not_true_eq_false, if_false]
  rcases compareCommon_spec lease.proto.sequence other.proto.sequence with
    ⟨h, ha⟩ | ⟨h, ha⟩ | ⟨h, hab, hba⟩
  · exact Or.inl ⟨by rw [h], ha⟩
  · exact Or.inr (Or.inl ⟨by rw [h], ha⟩)
  · rw [h]
    rcases isPrefix_or_isPrefix hab hba with hp | hp
    · rcases lt_or_eq_of_le hp.length_le with hlt | heq
      · exact Or.inr (Or.inr (Or.inr (Or.inl ⟨by simp [hlt], hp, hlt⟩)))
      · exact Or.inr (Or.inr (Or.inr (Or.inr ⟨by simp [heq], hp.eq_of_length heq⟩)))
    · rcases lt_or_eq_of_le hp.length_le with hlt | heq
      · exact Or.inr (Or.inr (Or.inl ⟨by simp [hlt, lt_asymm hlt], hp, hlt⟩))
      · exact Or.inr (Or.inr (Or.inr (Or.inr
          ⟨by simp [heq], (hp.eq_of_length heq).symm⟩)))

/-- Two valid leases whose clocks may be compared. -/
structure Comparable (lease other : Lease) : Prop where
  left : lease.IsValid
  right : other.IsValid
  resource : lease.proto.resource = other.proto.resource
  epoch : lease.proto.epoch = other.proto.epoch

theorem Comparable.symm (h : Comparable lease other) : Comparable other lease :=
  ⟨h.right, h.left, h.resource.symm, h.epoch.symm⟩

theorem Comparable.trans {third : Lease} (h : Comparable lease other)
    (h' : Comparable other third) : Comparable lease third :=
  ⟨h.left, h'.right, h.resource.trans h'.resource, h.epoch.trans h'.epoch⟩

theorem Comparable.compare_newer_iff (h : Comparable lease other) :
    lease.compare other = .newer ↔ Above lease.proto.sequence other.proto.sequence := by
  rcases compare_eq h.left h.right h.resource h.epoch with
    ⟨hc, ha⟩ | ⟨hc, ha⟩ | ⟨hc, ha⟩ | ⟨hc, ha⟩ | ⟨hc, ha⟩
  · exact iff_of_true hc ha
  · exact iff_of_false (by simp [hc]) ha.asymm
  · exact iff_of_false (by simp [hc]) (not_above_of_isPrefix' ha.1)
  · exact iff_of_false (by simp [hc]) (not_above_of_isPrefix ha.1)
  · exact iff_of_false (by simp [hc]) (ha ▸ not_above_self _)

theorem Comparable.compare_older_iff (h : Comparable lease other) :
    lease.compare other = .older ↔ Above other.proto.sequence lease.proto.sequence := by
  rcases compare_eq h.left h.right h.resource h.epoch with
    ⟨hc, ha⟩ | ⟨hc, ha⟩ | ⟨hc, ha⟩ | ⟨hc, ha⟩ | ⟨hc, ha⟩
  · exact iff_of_false (by simp [hc]) ha.asymm
  · exact iff_of_true hc ha
  · exact iff_of_false (by simp [hc]) (not_above_of_isPrefix ha.1)
  · exact iff_of_false (by simp [hc]) (not_above_of_isPrefix' ha.1)
  · exact iff_of_false (by simp [hc]) (ha ▸ not_above_self _)

/-- Leases with one message are never older than each other. -/
theorem compare_ne_older_of_proto_eq (h : lease.proto = other.proto) :
    lease.compare other ≠ .older := by
  intro hc
  by_cases hv : lease.IsValid
  · have hcomp : Comparable lease other :=
      ⟨hv, by rwa [IsValid, ← h], by rw [h], by rw [h]⟩
    have habove := hcomp.compare_older_iff.mp hc
    rw [h] at habove
    exact not_above_self _ habove
  · simp [compare, hv] at hc

/-- Newer or a sub-lease is later in the lexicographic order. -/
theorem Comparable.later_iff (h : Comparable lease other) :
    (lease.compare other = .newer ∨ lease.compare other = .subLease) ↔
      Later lease.proto.sequence other.proto.sequence := by
  rcases compare_eq h.left h.right h.resource h.epoch with
    ⟨hc, ha⟩ | ⟨hc, ha⟩ | ⟨hc, ha⟩ | ⟨hc, ha⟩ | ⟨hc, ha⟩
  · exact iff_of_true (Or.inl hc) (Or.inl ha)
  · refine iff_of_false (by simp [hc]) ?_
    rintro (hl | hl)
    · exact ha.asymm hl
    · exact not_above_of_isPrefix hl.1 ha
  · exact iff_of_true (Or.inr hc) (Or.inr ha)
  · refine iff_of_false (by simp [hc]) ?_
    rintro (hl | hl)
    · exact not_above_of_isPrefix ha.1 hl
    · exact lt_asymm ha.2 hl.2
  · refine iff_of_false (by simp [hc]) ?_
    rintro (hl | hl)
    · exact not_above_self _ (ha ▸ hl)
    · exact absurd hl.2 (by rw [ha]; exact lt_irrefl _)

/-- A valid sequence ends in its last counter. -/
theorem IsValid.sequence_eq (h : lease.IsValid) :
    ∃ front last, lease.proto.sequence = front ++ [last] := by
  rcases List.eq_nil_or_concat' lease.proto.sequence with hnil | ⟨front, last, heq⟩
  · exact absurd h.2 (by simp [hnil])
  · exact ⟨front, last, heq⟩

@[simp] theorem incrementLast_append (front : List UInt32) (last : UInt32) :
    incrementLast (front ++ [last]) = front ++ [last + 1] := by
  have hmodify : (front ++ [last]).modify front.length (· + 1) = front ++ [last + 1] := by
    induction front with
    | nil => rfl
    | cons x front ih => exact congrArg (List.cons x) ih
  simpa [incrementLast] using hmodify

@[simp] theorem incrementLast_length (sequence : List UInt32) :
    (incrementLast sequence).length = sequence.length := by
  simp [incrementLast]

theorem increment_eq (h : lease.IsValid) :
    lease.increment =
      ofProto { lease.proto with sequence := incrementLast lease.proto.sequence } :=
  if_neg (not_not_intro h)

theorem createSublease_eq (h : lease.IsValid) (clientName : String) :
    lease.createSublease clientName = ofProto { lease.proto with
      sequence := lease.proto.sequence ++ [0]
      clientNames := lease.proto.clientNames ++ [clientName] } :=
  if_neg (not_not_intro h)

/-- Increments keep resource, epoch and validity. -/
theorem increment_comparable (h : lease.IsValid) : Comparable lease.increment lease := by
  rw [increment_eq h]
  exact ⟨by simpa [ofProto_isValid_iff, IsValid] using h, h, by simp, by simp⟩

/-- Sub-leases keep resource, epoch and validity. -/
theorem createSublease_comparable (h : lease.IsValid) (clientName : String) :
    Comparable (lease.createSublease clientName) lease := by
  rw [createSublease_eq h]
  exact ⟨by simpa [ofProto_isValid_iff] using h.1, h, by simp, by simp⟩

theorem increment_sequence (h : lease.IsValid) :
    lease.increment.proto.sequence = incrementLast lease.proto.sequence := by
  simp [increment_eq h]

theorem createSublease_sequence (h : lease.IsValid) (clientName : String) :
    (lease.createSublease clientName).proto.sequence = lease.proto.sequence ++ [0] := by
  simp [createSublease_eq h]

/-- The results of the constructors are owned by this client. -/
theorem increment_status (h : lease.IsValid) : lease.increment.status = .selfOwner := by
  simp [increment_eq h]

theorem createSublease_status (h : lease.IsValid) (clientName : String) :
    (lease.createSublease clientName).status = .selfOwner := by
  simp [createSublease_eq h]

end Lease

end SpotSdk.Client
