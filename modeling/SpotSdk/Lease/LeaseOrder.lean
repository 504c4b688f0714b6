import SpotSdk.Lease.LeaseValue

/-!
# The order of leases

Between valid leases of one resource and epoch, comparison decides how the two
sequence clocks stand to each other. Older together with super-lease is the strict
lexicographic order of the clocks.
-/

namespace SpotSdk.Client.Lease

open Foundations Foundations.SequenceClock

/-- The results of comparing valid leases of one resource and epoch. -/
def clockResults : List CompareResult :=
  [.same, .older, .newer, .superLease, .subLease]

/-- The first lease is older than the second one or above it in its hierarchy. -/
def Precedes (lease other : Lease) : Prop :=
  lease.compare other = .older ∨ lease.compare other = .superLease

variable {lease other third : Lease}

theorem Comparable.compare_same_iff (h : Comparable lease other) :
    lease.compare other = .same ↔ lease.proto.sequence = other.proto.sequence := by
  rcases compare_eq h.left h.right h.resource h.epoch with
    ⟨hc, ha⟩ | ⟨hc, ha⟩ | ⟨hc, ha⟩ | ⟨hc, ha⟩ | ⟨hc, ha⟩
  · exact iff_of_false (by simp [hc]) fun heq => not_above_self _ (heq ▸ ha)
  · exact iff_of_false (by simp [hc]) fun heq => not_above_self _ (heq ▸ ha)
  · exact iff_of_false (by simp [hc]) fun heq => lt_irrefl _ (heq ▸ ha.2)
  · exact iff_of_false (by simp [hc]) fun heq => lt_irrefl _ (heq ▸ ha.2)
  · exact iff_of_true hc ha

theorem Comparable.compare_superLease_iff (h : Comparable lease other) :
    lease.compare other = .superLease ↔
      Extends other.proto.sequence lease.proto.sequence := by
  rcases compare_eq h.left h.right h.resource h.epoch with
    ⟨hc, ha⟩ | ⟨hc, ha⟩ | ⟨hc, ha⟩ | ⟨hc, ha⟩ | ⟨hc, ha⟩
  · exact iff_of_false (by simp [hc]) fun hext => not_above_of_isPrefix hext.1 ha
  · exact iff_of_false (by simp [hc]) fun hext => not_above_of_isPrefix' hext.1 ha
  · exact iff_of_false (by simp [hc]) fun hext => lt_asymm ha.2 hext.2
  · exact iff_of_true hc ha
  · exact iff_of_false (by simp [hc]) fun hext => lt_irrefl _ (ha ▸ hext.2)

theorem Comparable.compare_subLease_iff (h : Comparable lease other) :
    lease.compare other = .subLease ↔
      Extends lease.proto.sequence other.proto.sequence := by
  rcases compare_eq h.left h.right h.resource h.epoch with
    ⟨hc, ha⟩ | ⟨hc, ha⟩ | ⟨hc, ha⟩ | ⟨hc, ha⟩ | ⟨hc, ha⟩
  · exact iff_of_false (by simp [hc]) fun hext => not_above_of_isPrefix' hext.1 ha
  · exact iff_of_false (by simp [hc]) fun hext => not_above_of_isPrefix hext.1 ha
  · exact iff_of_true hc ha
  · exact iff_of_false (by simp [hc]) fun hext => lt_asymm ha.2 hext.2
  · exact iff_of_false (by simp [hc]) fun hext => lt_irrefl _ (ha ▸ hext.2)

/-- No other result is possible. -/
theorem Comparable.compare_mem (h : Comparable lease other) :
    lease.compare other ∈ clockResults := by
  rcases compare_eq h.left h.right h.resource h.epoch with
    ⟨hc, _⟩ | ⟨hc, _⟩ | ⟨hc, _⟩ | ⟨hc, _⟩ | ⟨hc, _⟩ <;> simp [hc, clockResults]

/-- A continued clock is one that properly contains the other as a prefix. -/
theorem extends_iff_prefix_ne {a b : List UInt32} : Extends a b ↔ b <+: a ∧ b ≠ a := by
  constructor
  · rintro ⟨hpre, hlen⟩
    exact ⟨hpre, fun heq => lt_irrefl _ (heq ▸ hlen)⟩
  · rintro ⟨hpre, hne⟩
    refine ⟨hpre, lt_of_le_of_ne hpre.length_le fun hlen => ?_⟩
    exact hne (hpre.eq_of_length hlen)

theorem Comparable.precedes_iff (h : Comparable lease other) :
    lease.Precedes other ↔ Later other.proto.sequence lease.proto.sequence := by
  rw [Precedes, h.compare_older_iff, h.compare_superLease_iff, Later]

/-- The order is the lexicographic one on the sequences of unsigned words. -/
theorem Comparable.precedes_iff_lex (h : Comparable lease other) :
    lease.Precedes other ↔
      List.Lex (· < ·) lease.proto.sequence other.proto.sequence := by
  rw [h.precedes_iff, later_iff_lex]

theorem Precedes.trans (hlo : Comparable lease other) (hot : Comparable other third)
    (h : lease.Precedes other) (h' : other.Precedes third) : lease.Precedes third := by
  apply (hlo.trans hot).precedes_iff.mpr
  exact (hot.precedes_iff.mp h').trans (hlo.precedes_iff.mp h)

theorem not_precedes_self (h : lease.IsValid) : ¬ lease.Precedes lease := by
  have hself : Comparable lease lease := ⟨h, h, rfl, rfl⟩
  rw [hself.precedes_iff]
  exact not_later_self _

theorem Comparable.precedes_trichotomy (h : Comparable lease other) :
    lease.Precedes other ∨ lease.proto.sequence = other.proto.sequence ∨
      other.Precedes lease := by
  rw [h.precedes_iff, h.symm.precedes_iff]
  rcases later_trichotomy lease.proto.sequence other.proto.sequence with hl | heq | hl
  · exact Or.inr (Or.inr hl)
  · exact Or.inr (Or.inl heq)
  · exact Or.inl hl

/-- What comparison of two leases says about their clocks. -/
structure ClockComparison (lease other : Lease) : Prop where
  exactly_one : ∃! result, result ∈ clockResults ∧ lease.compare other = result
  older_iff_newer : lease.compare other = .older ↔ other.compare lease = .newer
  superLease_iff_subLease : lease.compare other = .superLease ↔ other.compare lease = .subLease
  same_iff_same : lease.compare other = .same ↔ other.compare lease = .same
  same_iff : lease.compare other = .same ↔ lease.proto.sequence = other.proto.sequence
  superLease_iff : lease.compare other = .superLease ↔
    lease.proto.sequence <+: other.proto.sequence ∧
      lease.proto.sequence ≠ other.proto.sequence
  precedes_iff_lex : lease.Precedes other ↔
    List.Lex (· < ·) lease.proto.sequence other.proto.sequence

theorem Comparable.clockComparison (h : Comparable lease other) :
    ClockComparison lease other where
  exactly_one := ⟨lease.compare other, ⟨h.compare_mem, rfl⟩, fun _ hr => hr.2.symm⟩
  older_iff_newer := by rw [h.compare_older_iff, h.symm.compare_newer_iff]
  superLease_iff_subLease := by rw [h.compare_superLease_iff, h.symm.compare_subLease_iff]
  same_iff_same := by
    rw [h.compare_same_iff, h.symm.compare_same_iff]
    exact eq_comm
  same_iff := h.compare_same_iff
  superLease_iff := by rw [h.compare_superLease_iff, extends_iff_prefix_ne]
  precedes_iff_lex := h.precedes_iff_lex

/-- The strict total order laws, on the leases of one resource and epoch. -/
structure StrictTotalOrder (lease other third : Lease) : Prop where
  irrefl : ¬ lease.Precedes lease
  asymm : lease.Precedes other → ¬ other.Precedes lease
  trans : lease.Precedes other → other.Precedes third → lease.Precedes third
  older_trans_older : lease.compare other = .older → other.compare third = .older →
    lease.compare third = .older
  older_trans_superLease : lease.compare other = .older → other.compare third = .superLease →
    lease.compare third = .older
  superLease_trans_superLease : lease.compare other = .superLease →
    other.compare third = .superLease → lease.compare third = .superLease
  superLease_trans_older : lease.compare other = .superLease → other.compare third = .older →
    lease.compare third = .older ∨ lease.compare third = .superLease
  total : lease.Precedes other ∨ lease.proto.sequence = other.proto.sequence ∨
    other.Precedes lease

theorem compare_strict_total_order (hlo : Comparable lease other)
    (hot : Comparable other third) :
    ClockComparison lease other ∧ StrictTotalOrder lease other third := by
  have hlt : Comparable lease third := hlo.trans hot
  refine ⟨hlo.clockComparison, ?_⟩
  constructor
  case irrefl => exact not_precedes_self hlo.left
  case asymm => exact fun h h' => not_precedes_self hlo.left (h.trans hlo hlo.symm h')
  case trans => exact Precedes.trans hlo hot
  case older_trans_older =>
    rw [hlo.compare_older_iff, hot.compare_older_iff, hlt.compare_older_iff]
    exact fun h h' => h'.trans h
  case older_trans_superLease =>
    rw [hlo.compare_older_iff, hot.compare_superLease_iff, hlt.compare_older_iff]
    exact fun h hext => h.of_isPrefix hext.1 (List.prefix_refl _)
  case superLease_trans_superLease =>
    rw [hlo.compare_superLease_iff, hot.compare_superLease_iff, hlt.compare_superLease_iff]
    exact fun h h' => h'.trans h
  case superLease_trans_older =>
    exact fun h h' => Precedes.trans hlo hot (Or.inr h) (Or.inl h')
  case total => exact hlo.precedes_trichotomy

/-- A lease of one resource and epoch with the given sequence. -/
def leaseWith (sequence : List UInt32) : Lease :=
  ofProto { resource := "body", epoch := "e", sequence := sequence }

theorem comparable_leaseWith {s t : List UInt32} (hs : 0 < s.length) (ht : 0 < t.length) :
    Comparable (leaseWith s) (leaseWith t) := by
  have hresource : "body" ≠ "" := by decide
  constructor
  · exact (ofProto_isValid_iff _).mpr ⟨hresource, hs⟩
  · exact (ofProto_isValid_iff _).mpr ⟨hresource, ht⟩
  · simp [leaseWith]
  · simp [leaseWith]

/-- A super-lease of an older lease, the greatest word included. -/
theorem compare_strict_total_order_words :
    ClockComparison (leaseWith [1]) (leaseWith [1, 5]) ∧
      StrictTotalOrder (leaseWith [1]) (leaseWith [1, 5]) (leaseWith [1, 0xFFFFFFFF, 0]) :=
  compare_strict_total_order (comparable_leaseWith (by decide) (by decide))
    (comparable_leaseWith (by decide) (by decide))

end SpotSdk.Client.Lease
