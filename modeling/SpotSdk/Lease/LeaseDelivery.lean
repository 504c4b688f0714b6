import SpotSdk.Foundations.LabelledRuns
import SpotSdk.Lease.LeaseClient

/-!
# Delivery of lease completions

The client's calls are answered by the robot in some order and their completions are
delivered in any order. The robot grants increasing leases. A log of the answers and
the leases each entry has held say what the wallet ought to be.
-/

namespace SpotSdk.Client

open Common Foundations Foundations.SequenceClock

/-- A call that waits for the robot. -/
inductive LeaseRequest
  | acquireLease (request : AcquireLeaseRequest)
  | takeLease (request : TakeLeaseRequest)
  | returnLease (request : ReturnLeaseRequest)
  deriving DecidableEq, Repr

def LeaseCompletion.request : LeaseCompletion → LeaseRequest
  | acquireLease request _ _ => .acquireLease request
  | takeLease request _ _ => .takeLease request
  | returnLease request _ _ => .returnLease request

/-- The resource whose entry an effect changes. -/
def WalletEffect.resource? : WalletEffect → Option String
  | store resource _ => some resource
  | drop lease => some lease.resource
  | keep => none

/-- The effects on one resource, in order. -/
def about (resource : String) (effects : List WalletEffect) : List WalletEffect :=
  effects.filter fun effect => effect.resource? = some resource

/-- The newest granted lease of a resource, unless it was returned since. -/
def unreturned (log : List WalletEffect) (resource : String) : Option LeaseProto :=
  match (about resource log).getLast? with
  | some (.store _ lease) => some lease
  | _ => none

/-- The client, its calls in flight and the robot. `log` holds the effects of all
answers and `lineage` the leases an entry has held since it was granted, both only
to state properties. -/
structure Delivery where
  wallet : LeaseWallet
  requests : List LeaseRequest := []
  answered : List LeaseCompletion := []
  log : List WalletEffect := []
  lineage : String → List LeaseProto := fun _ => []

inductive DeliveryEvent
  | call (request : LeaseRequest)
  | answer (index : Nat) (completion : LeaseCompletion)
  | deliver (index : Nat)
  | advance (resource : String)
  deriving DecidableEq, Repr

/-- The later effect grants a newer lease than the earlier one. -/
def GrantsNewer (earlier later : WalletEffect) : Prop :=
  ∀ resource lease resource' lease', earlier = .store resource lease →
    later = .store resource' lease' → lease.resource = lease'.resource →
    lease.epoch = lease'.epoch →
    (Lease.ofProto lease').compare (Lease.ofProto lease) = .newer

/-- What the robot grants is a valid lease of the requested resource that is newer
than all it granted before. -/
def RobotGrants (log : List WalletEffect) (effect : WalletEffect) : Prop :=
  (∀ resource lease, effect = .store resource lease →
    (Lease.ofProto lease).IsValid ∧ lease.resource = resource) ∧
  ∀ earlier ∈ log, GrantsNewer earlier effect

/-- The lineages after a delivered effect. -/
def WalletEffect.lineage (after : LeaseWallet) (lineage : String → List LeaseProto) :
    WalletEffect → String → List LeaseProto
  | store resource lease =>
      Function.update lineage resource
        (((after.leaseMap[resource]?).map Lease.proto).toList ++ [lease])
  | drop lease => Function.update lineage lease.resource []
  | keep => lineage

namespace Delivery

/-- The effects of the completions that are not delivered yet. -/
def pending (chain : LeaseProcessorChain) (s : Delivery) : List WalletEffect :=
  s.answered.map (LeaseCompletion.effect chain)

/-- The transitions. Only the robot's answers are constrained. -/
inductive Step (chain : LeaseProcessorChain) : Delivery → DeliveryEvent → Delivery → Prop
  | call (s : Delivery) (request : LeaseRequest) :
      Step chain s (.call request) { s with requests := s.requests ++ [request] }
  | answer (s : Delivery) (index : Nat) (completion : LeaseCompletion)
      (hrequest : s.requests[index]? = some completion.request)
      (hrobot : RobotGrants s.log (completion.effect chain)) :
      Step chain s (.answer index completion)
        { s with
          requests := s.requests.eraseIdx index
          answered := s.answered ++ [completion]
          log := s.log ++ [completion.effect chain] }
  | deliver (s : Delivery) (index : Nat) (completion : LeaseCompletion)
      (after : LeaseWallet) (hanswered : s.answered[index]? = some completion)
      (hafter : completion.deliver chain (some s.wallet) = some after) :
      Step chain s (.deliver index)
        { s with
          wallet := after
          answered := s.answered.eraseIdx index
          lineage := (completion.effect chain).lineage after s.lineage }
  | advanced (s : Delivery) (resource : String)
      (hok : (s.wallet.advanceLease resource).2.ok = true) :
      Step chain s (.advance resource)
        { s with
          wallet := (s.wallet.advanceLease resource).1
          lineage := Function.update s.lineage resource
            ((s.wallet.advanceLease resource).2.response.proto :: s.lineage resource) }
  | notAdvanced (s : Delivery) (resource : String)
      (hfail : (s.wallet.advanceLease resource).2.ok = false) :
      Step chain s (.advance resource)
        { s with wallet := (s.wallet.advanceLease resource).1 }

/-- The entry is what was granted or was derived from it; `line` lists the leases
from the grant to the entry, the newest first. -/
structure Derived (entry : Lease) (grant : LeaseProto) (line : List LeaseProto) : Prop where
  head : line.head? = some entry.proto
  last : line.getLast? = some grant
  owned : entry.isLeaseSelfOwned = true
  valid : entry.IsValid
  resource : entry.proto.resource = grant.resource
  epoch : entry.proto.epoch = grant.epoch
  sequence : ∃ counter, entry.proto.sequence = grant.sequence ++ [counter]

/-! ## What the client promises -/

/-- A delivered grant replaces no entry by an older lease or by one of an older grant,
and a delivered return removes only an entry derived from the returned lease. -/
def CompletionKeeps (chain : LeaseProcessorChain) (s : Delivery) (e : DeliveryEvent)
    (t : Delivery) : Prop :=
  ∀ index completion, e = .deliver index → s.answered[index]? = some completion →
    (∀ resource lease old new, completion.effect chain = .store resource lease →
      s.wallet.leaseMap[resource]? = some old → t.wallet.leaseMap[resource]? = some new →
      new.compare old ≠ .older ∧ ∃ grant, (s.lineage resource).getLast? = some grant ∧
        [.store resource grant, .store resource lease].Sublist s.log) ∧
    ∀ lease old, completion.effect chain = .drop lease →
      s.wallet.leaseMap[lease.resource]? = some old →
      (s.lineage lease.resource).head? = some old.proto ∧ lease ∈ s.lineage lease.resource

/-- The wallet holds the newest granted lease of each resource that was not returned. -/
def Settled (s : Delivery) : Prop :=
  ∀ resource, match unreturned s.log resource with
    | some grant => ∃ entry, s.wallet.leaseMap[resource]? = some entry ∧
        Derived entry grant (s.lineage resource) ∧
        entry.compare (Lease.ofProto grant) = .subLease
    | none => s.wallet.leaseMap[resource]? = none

/-- What a run of calls, answers, deliveries and advances promises. -/
structure DeliversRight (chain : LeaseProcessorChain) (start : Delivery)
    (events : List DeliveryEvent) (s : Delivery) : Prop where
  completions : Run (fun s e t => Step chain s e t ∧ CompletionKeeps chain s e t) start events s
  settled : s.answered = [] → s.Settled

/-- Completions about one resource are delivered in the order of the answers, and the
robot answers a return only when the newest unreturned grant of the resource is the
returned lease or the entry it was derived from. -/
def InOrder (chain : LeaseProcessorChain) (s : Delivery) : DeliveryEvent → Prop
  | .deliver index => ∀ completion resource, s.answered[index]? = some completion →
      (completion.effect chain).resource? = some resource →
      about resource ((s.answered.take index).map (LeaseCompletion.effect chain)) = []
  | .answer _ completion => ∀ lease grant, completion.effect chain = .drop lease →
      unreturned s.log lease.resource = some grant →
      lease = grant ∨ about lease.resource (s.pending chain) = [] ∧
        lease ∈ s.lineage lease.resource
  | _ => True

/-! ## The invariant -/

/-- The entry and its lineage are what the last delivered effect on it makes them. -/
def Reflects (held : Option Lease) (line : List LeaseProto) : Option WalletEffect → Prop
  | some (.store _ grant) => ∃ entry, held = some entry ∧ Derived entry grant line
  | _ => held = none

/-- A waiting return finds the grant it returns, or the entry derived from it. -/
def ReturnsHeld (line : List LeaseProto) (delivered waiting : List WalletEffect) : Prop :=
  ∀ before lease after, waiting = before ++ .drop lease :: after →
    ∀ resource grant, (delivered ++ before).getLast? = some (.store resource grant) →
      lease = grant ∨ before = [] ∧ lease ∈ line

/-- The log is the robot's, and for each resource the delivered part of it is what the
wallet shows and the rest is what waits. -/
structure Consistent (chain : LeaseProcessorChain) (s : Delivery) : Prop where
  newer : s.log.Pairwise GrantsNewer
  valid : ∀ resource lease, .store resource lease ∈ s.log →
    (Lease.ofProto lease).IsValid ∧ lease.resource = resource
  resources : ∀ resource, ∃ delivered,
    about resource s.log = delivered ++ about resource (s.pending chain) ∧
    Reflects (s.wallet.leaseMap[resource]?) (s.lineage resource) delivered.getLast? ∧
    ReturnsHeld (s.lineage resource) delivered (about resource (s.pending chain))

end Delivery

/-! ## Effects on one resource -/

section About

variable {resource : String} {effect : WalletEffect} {effects effects' : List WalletEffect}

@[simp] theorem about_nil (resource : String) : about resource [] = [] := rfl

@[simp] theorem about_append (resource : String) (effects effects' : List WalletEffect) :
    about resource (effects ++ effects') = about resource effects ++ about resource effects' :=
  List.filter_append ..

theorem about_cons_of_eq (h : effect.resource? = some resource) :
    about resource (effect :: effects) = effect :: about resource effects := by
  simp [about, h]

theorem about_cons_of_ne (h : effect.resource? ≠ some resource) :
    about resource (effect :: effects) = about resource effects := by
  simp [about, h]

theorem about_sublist (resource : String) (effects : List WalletEffect) :
    (about resource effects).Sublist effects :=
  List.filter_sublist

theorem resource?_of_mem_about (h : effect ∈ about resource effects) :
    effect.resource? = some resource := by
  simpa using (List.mem_filter.mp h).2

/-- Effects on other resources leave an entry and its lineage alone. -/
theorem apply_lookup_of_ne (wallet : LeaseWallet) (h : effect.resource? ≠ some resource) :
    (effect.apply wallet).leaseMap[resource]? = wallet.leaseMap[resource]? := by
  cases effect with
  | store other lease =>
      have hne : ¬ other = resource := fun heq => h (congrArg some heq)
      simp [WalletEffect.apply, hne]
  | drop lease =>
      have hne : ¬ lease.resource = resource := fun heq => h (congrArg some heq)
      simp [WalletEffect.apply, hne]
  | keep => rfl

theorem lineage_of_ne (after : LeaseWallet) (line : String → List LeaseProto)
    (h : effect.resource? ≠ some resource) :
    effect.lineage after line resource = line resource := by
  cases effect with
  | store other lease =>
      have hne : resource ≠ other := fun heq => h (congrArg some heq.symm)
      simp [WalletEffect.lineage, hne]
  | drop lease =>
      have hne : resource ≠ lease.resource := fun heq => h (congrArg some heq.symm)
      simp [WalletEffect.lineage, hne]
  | keep => rfl

end About

namespace Delivery

variable {entry old : Lease} {grant lease : LeaseProto} {line : List LeaseProto}

/-! ## Derived entries -/

/-- The sub-lease the wallet makes of a grant is derived from it. -/
theorem derived_createSublease (hvalid : (Lease.ofProto grant).IsValid) (clientName : String) :
    Derived ((Lease.ofProto grant).createSublease clientName) grant
      [((Lease.ofProto grant).createSublease clientName).proto, grant] := by
  have hcomp := Lease.createSublease_comparable hvalid clientName
  refine ⟨rfl, rfl, ?_, hcomp.left, ?_, ?_, 0, ?_⟩
  · simp [Lease.isLeaseSelfOwned, Lease.createSublease_status hvalid]
  · simpa using hcomp.resource
  · simpa using hcomp.epoch
  · simpa using Lease.createSublease_sequence hvalid clientName

/-- An advance keeps the entry derived. -/
theorem Derived.increment (h : Derived entry grant line) :
    Derived entry.increment grant (entry.increment.proto :: line) := by
  have hcomp := Lease.increment_comparable h.valid
  obtain ⟨counter, hseq⟩ := h.sequence
  refine ⟨rfl, ?_, ?_, hcomp.left, ?_, ?_, counter + 1, ?_⟩
  · rw [List.getLast?_cons, h.last, Option.getD_some]
  · simp [Lease.isLeaseSelfOwned, Lease.increment_status h.valid]
  · exact hcomp.resource.trans h.resource
  · exact hcomp.epoch.trans h.epoch
  · rw [Lease.increment_sequence h.valid, hseq, Lease.incrementLast_append]

theorem Derived.extends (h : Derived entry grant line) :
    Extends entry.proto.sequence grant.sequence := by
  obtain ⟨counter, hseq⟩ := h.sequence
  rw [hseq]
  exact ⟨List.prefix_append _ _, by simp⟩

/-- A derived entry is a sub-lease of the grant. -/
theorem Derived.compare (h : Derived entry grant line)
    (hvalid : (Lease.ofProto grant).IsValid) :
    entry.compare (Lease.ofProto grant) = .subLease := by
  have hcomp : Lease.Comparable entry (Lease.ofProto grant) :=
    ⟨h.valid, hvalid, by simpa using h.resource, by simpa using h.epoch⟩
  have hext := h.extends
  have hlater := hcomp.later_iff.mpr (Or.inr (by simpa using hext))
  refine hlater.resolve_left fun hnewer => ?_
  have habove := hcomp.compare_newer_iff.mp hnewer
  rw [Lease.ofProto_sequence] at habove
  exact not_above_of_isPrefix' hext.1 habove

/-- An entry derived from a newer grant is not older than one of an older grant. -/
theorem Derived.not_older {entry' : Lease} {lease' : LeaseProto} {line' : List LeaseProto}
    (h : Derived entry lease line) (h' : Derived entry' lease' line')
    (hvalid : (Lease.ofProto lease).IsValid) (hvalid' : (Lease.ofProto lease').IsValid)
    (hresource : lease.resource = lease'.resource)
    (hnewer : lease.epoch = lease'.epoch →
      (Lease.ofProto lease').compare (Lease.ofProto lease) = .newer) :
    entry'.compare entry ≠ .older := by
  intro holder
  have hepoch : lease'.epoch = lease.epoch := by
    by_contra hne
    have hentries : entry'.proto.epoch ≠ entry.proto.epoch := by
      rwa [h.epoch, h'.epoch]
    have hsame : entry'.proto.resource = entry.proto.resource := by
      rw [h.resource, h'.resource, hresource]
    simp [Lease.compare, h.valid, h'.valid, hsame, Lease.compareIgnoringResource,
      hentries] at holder
  have hgrants : Lease.Comparable (Lease.ofProto lease') (Lease.ofProto lease) :=
    ⟨hvalid', hvalid, by simpa using hresource.symm, by simpa using hepoch⟩
  have hentries : Lease.Comparable entry' entry :=
    ⟨h'.valid, h.valid, by rw [h.resource, h'.resource, hresource],
      by rw [h.epoch, h'.epoch, hepoch]⟩
  have habove := hgrants.compare_newer_iff.mp (hnewer hepoch.symm)
  rw [Lease.ofProto_sequence, Lease.ofProto_sequence] at habove
  have hup := habove.of_isPrefix h'.extends.1 h.extends.1
  exact hup.asymm (hentries.compare_older_iff.mp holder)

/-! ## One step -/

variable {chain : LeaseProcessorChain} {s t : Delivery} {e : DeliveryEvent}
  {resource : String} {delivered waiting : List WalletEffect}

theorem pending_append (completion : LeaseCompletion) (s : Delivery) :
    ({ s with answered := s.answered ++ [completion] } : Delivery).pending chain =
      s.pending chain ++ [completion.effect chain] := by
  simp [pending]

/-- A new answer keeps the waiting returns, if it returns what is held. -/
theorem ReturnsHeld.append {effect : WalletEffect} (h : ReturnsHeld line delivered waiting)
    (hnew : ∀ lease resource grant, effect = .drop lease →
      (delivered ++ waiting).getLast? = some (.store resource grant) →
      lease = grant ∨ waiting = [] ∧ lease ∈ line) :
    ReturnsHeld line delivered (waiting ++ [effect]) := by
  intro before lease after heq resource grant hlast
  rcases List.eq_nil_or_concat' after with rfl | ⟨front, last, rfl⟩
  · obtain ⟨rfl, hend⟩ := List.append_inj' heq rfl
    exact hnew lease resource grant (List.singleton_inj.mp hend) hlast
  · have hfront : waiting ++ [effect] = (before ++ .drop lease :: front) ++ [last] := by
      rw [heq]
      simp
    obtain ⟨hwaiting, _⟩ := List.append_inj' hfront rfl
    exact h before lease front hwaiting resource grant hlast

/-- Delivering the first waiting effect keeps the returns that wait after it. -/
theorem ReturnsHeld.deliver {effect : WalletEffect} {line' : List LeaseProto}
    (h : ReturnsHeld line delivered (effect :: waiting)) :
    ReturnsHeld line' (delivered ++ [effect]) waiting := by
  intro before lease after heq resource grant hlast
  have hfirst := h (effect :: before) lease after (by rw [heq, List.cons_append])
    resource grant (by simpa using hlast)
  exact Or.inl (hfirst.resolve_right fun hempty => List.cons_ne_nil _ _ hempty.1)

/-- Longer lineages hold the same returns. -/
theorem ReturnsHeld.mono {line' : List LeaseProto} (h : ReturnsHeld line delivered waiting)
    (hsub : ∀ lease ∈ line, lease ∈ line') : ReturnsHeld line' delivered waiting := by
  intro before lease after heq resource grant hlast
  exact (h before lease after heq resource grant hlast).imp_right fun hheld =>
    ⟨hheld.1, hsub lease hheld.2⟩

theorem unreturned_eq_some {log : List WalletEffect} {resource' : String}
    (h : (about resource log).getLast? = some (.store resource' grant)) :
    unreturned log resource = some grant := by
  simp only [unreturned, h]

/-- Answers extend the log as the robot and the order condition allow. -/
theorem Consistent.answer (h : Consistent chain s) {index : Nat}
    {completion : LeaseCompletion} (hrobot : RobotGrants s.log (completion.effect chain))
    (horder : InOrder chain s (.answer index completion)) :
    Consistent chain
      { s with
        requests := s.requests.eraseIdx index
        answered := s.answered ++ [completion]
        log := s.log ++ [completion.effect chain] } := by
  refine ⟨?_, ?_, ?_⟩
  · rw [List.pairwise_append]
    refine ⟨h.newer, List.pairwise_singleton _ _, ?_⟩
    intro earlier hearlier later hlater
    obtain rfl := List.mem_singleton.mp hlater
    exact hrobot.2 earlier hearlier
  · intro resource lease hmem
    rcases List.mem_append.mp hmem with hold | hnew
    · exact h.valid resource lease hold
    · exact hrobot.1 resource lease (List.mem_singleton.mp hnew).symm
  · intro resource
    obtain ⟨delivered, hlog, hreflects, hheld⟩ := h.resources resource
    have hpending : about resource
          (({ s with answered := s.answered ++ [completion] } : Delivery).pending chain) =
        about resource (s.pending chain) ++ about resource [completion.effect chain] := by
      rw [pending_append, about_append]
    refine ⟨delivered, ?_, hreflects, ?_⟩
    · exact (about_append ..).trans (by rw [hlog, List.append_assoc, ← hpending]; rfl)
    · refine (congrArg (ReturnsHeld (s.lineage resource) delivered) hpending).mpr ?_
      by_cases habout : (completion.effect chain).resource? = some resource
      · rw [about_cons_of_eq habout, about_nil]
        refine hheld.append fun lease resource' grant heffect hlast => ?_
        have hresource : lease.resource = resource := by
          rw [heffect] at habout
          exact Option.some.inj habout
        subst hresource
        rw [← hlog] at hlast
        exact horder lease grant heffect (unreturned_eq_some hlast)
      · rw [about_cons_of_ne habout, about_nil, List.append_nil]
        exact hheld

theorem answered_split {index : Nat} {completion : LeaseCompletion}
    (h : s.answered[index]? = some completion) :
    s.answered = s.answered.take index ++ completion :: s.answered.drop (index + 1) := by
  obtain ⟨hlt, rfl⟩ := List.getElem?_eq_some_iff.mp h
  rw [← List.drop_eq_getElem_cons hlt, List.take_append_drop]

/-- The effects that wait before and after a delivery. -/
theorem pending_deliver (chain : LeaseProcessorChain) {index : Nat} {completion : LeaseCompletion}
    (h : s.answered[index]? = some completion) :
    ∃ before after, before = (s.answered.take index).map (LeaseCompletion.effect chain) ∧
      s.pending chain = before ++ completion.effect chain :: after ∧
      (s.answered.eraseIdx index).map (LeaseCompletion.effect chain) = before ++ after := by
  refine ⟨_, (s.answered.drop (index + 1)).map (LeaseCompletion.effect chain), rfl, ?_, ?_⟩
  · have hsplit := congrArg (List.map (LeaseCompletion.effect chain)) (answered_split h)
    rw [List.map_append, List.map_cons] at hsplit
    exact hsplit
  · rw [List.eraseIdx_eq_take_drop_succ, List.map_append]

/-- A delivered effect makes the entry what it says. -/
theorem reflects_effect (wallet : LeaseWallet) (line : String → List LeaseProto)
    {effect : WalletEffect} (habout : effect.resource? = some resource)
    (hvalid : ∀ lease, effect = .store resource lease → (Lease.ofProto lease).IsValid) :
    Reflects ((effect.apply wallet).leaseMap[resource]?)
      (effect.lineage (effect.apply wallet) line resource) (some effect) := by
  cases effect with
  | store other lease =>
      obtain rfl : other = resource := Option.some.inj habout
      have hstored : wallet.leaseToStore (Lease.ofProto lease) .default =
          (Lease.ofProto lease).createSublease wallet.clientName := by
        simp [LeaseWallet.leaseToStore, Lease.isLeaseSelfOwned]
      have hentry : (WalletEffect.apply wallet (.store other lease)).leaseMap[other]? =
          some ((Lease.ofProto lease).createSublease wallet.clientName) := by
        simp [WalletEffect.apply, hstored]
      refine ⟨_, hentry, ?_⟩
      have hline : (WalletEffect.store other lease).lineage
            (WalletEffect.apply wallet (.store other lease)) line other =
          [((Lease.ofProto lease).createSublease wallet.clientName).proto, lease] := by
        simp [WalletEffect.lineage, hentry]
      rw [hline]
      exact derived_createSublease (hvalid lease rfl) wallet.clientName
  | drop lease =>
      obtain rfl : lease.resource = resource := Option.some.inj habout
      simp [WalletEffect.apply, Reflects]
  | keep => cases habout

/-- In order, the delivered effect is the next one that waits for its resource. -/
theorem about_pending_of_eq {index : Nat} {completion : LeaseCompletion}
    (hanswered : s.answered[index]? = some completion)
    (horder : InOrder chain s (.deliver index))
    (habout : (completion.effect chain).resource? = some resource) :
    about resource (s.pending chain) = completion.effect chain ::
      about resource ((s.answered.eraseIdx index).map (LeaseCompletion.effect chain)) := by
  obtain ⟨before, after, hbefore, hpending, herase⟩ :=
    pending_deliver chain hanswered
  have hnone := horder completion resource hanswered habout
  rw [← hbefore] at hnone
  rw [hpending, herase, about_append, about_append, hnone, about_cons_of_eq habout]
  rfl

/-- The effects that wait for other resources stay. -/
theorem about_pending_of_ne {index : Nat} {completion : LeaseCompletion}
    (hanswered : s.answered[index]? = some completion)
    (habout : (completion.effect chain).resource? ≠ some resource) :
    about resource (s.pending chain) =
      about resource ((s.answered.eraseIdx index).map (LeaseCompletion.effect chain)) := by
  obtain ⟨before, after, _, hpending, herase⟩ := pending_deliver chain hanswered
  rw [hpending, herase, about_append, about_append, about_cons_of_ne habout]

/-- Deliveries in order move one effect from the waiting to the delivered ones. -/
theorem Consistent.deliver (h : Consistent chain s) {index : Nat}
    {completion : LeaseCompletion} (hanswered : s.answered[index]? = some completion)
    (horder : InOrder chain s (.deliver index)) :
    Consistent chain
      { s with
        wallet := (completion.effect chain).apply s.wallet
        answered := s.answered.eraseIdx index
        lineage := (completion.effect chain).lineage
          ((completion.effect chain).apply s.wallet) s.lineage } := by
  refine ⟨h.newer, h.valid, fun resource => ?_⟩
  obtain ⟨delivered, hlog, hreflects, hheld⟩ := h.resources resource
  by_cases habout : (completion.effect chain).resource? = some resource
  · rw [about_pending_of_eq hanswered horder habout] at hlog hheld
    refine ⟨delivered ++ [completion.effect chain], ?_, ?_, hheld.deliver⟩
    · rw [List.append_assoc]
      exact hlog
    · rw [List.getLast?_concat]
      refine reflects_effect s.wallet s.lineage habout fun lease heq => ?_
      have hmem : completion.effect chain ∈ about resource s.log := by
        rw [hlog]
        simp
      rw [heq] at hmem
      exact (h.valid resource lease ((about_sublist resource s.log).subset hmem)).1
  · rw [about_pending_of_ne hanswered habout] at hlog hheld
    have hlookup := apply_lookup_of_ne s.wallet habout
    have hline := lineage_of_ne ((completion.effect chain).apply s.wallet) s.lineage habout
    refine ⟨delivered, hlog, ?_, ?_⟩
    · simp only [hlookup, hline]
      exact hreflects
    · simp only [hline]
      exact hheld

/-- Advances keep the entries derived. -/
theorem Consistent.advanced (h : Consistent chain s)
    (hok : (s.wallet.advanceLease resource).2.ok = true) :
    Consistent chain
      { s with
        wallet := (s.wallet.advanceLease resource).1
        lineage := Function.update s.lineage resource
          ((s.wallet.advanceLease resource).2.response.proto :: s.lineage resource) } := by
  refine ⟨h.newer, h.valid, fun other => ?_⟩
  obtain ⟨delivered, hlog, hreflects, hheld⟩ := h.resources other
  rcases s.wallet.advanceLease_cases resource with ⟨_, hfail⟩ | ⟨old, hold, _, heq⟩
  · rw [hok] at hfail
    cases hfail
  · by_cases hother : other = resource
    · subst hother
      refine ⟨delivered, hlog, ?_, ?_⟩
      · simp only [heq, LeaseWallet.storeAdvanced_lookup, if_true, Function.update_self]
        revert hreflects
        cases delivered.getLast? with
        | none => simp [Reflects, hold]
        | some effect =>
            cases effect with
            | store _ grant =>
                rintro ⟨entry, hentry, hderived⟩
                obtain rfl := Option.some.inj (hold.symm.trans hentry)
                exact ⟨_, rfl, hderived.increment⟩
            | drop lease => simp [Reflects, hold]
            | keep => simp [Reflects, hold]
      · simp only [Function.update_self]
        exact hheld.mono fun lease hmem => List.mem_cons_of_mem _ hmem
    · have hne : ¬ resource = other := fun heq => hother heq.symm
      refine ⟨delivered, hlog, ?_, ?_⟩
      · simp only [heq, LeaseWallet.storeAdvanced_lookup, hne, if_false,
          Function.update_of_ne hother]
        exact hreflects
      · simp only [Function.update_of_ne hother]
        exact hheld

/-- Every step that keeps the order keeps the invariant. -/
theorem Consistent.step (h : Consistent chain s)
    (hstep : Guard (Step chain) (InOrder chain) s e t) : Consistent chain t := by
  obtain ⟨hstep, horder⟩ := hstep
  cases hstep with
  | call request => exact ⟨h.newer, h.valid, h.resources⟩
  | answer index completion hrequest hrobot => exact h.answer hrobot horder
  | deliver index completion after hanswered hafter =>
      rw [LeaseCompletion.deliver_eq, Option.some.injEq] at hafter
      subst hafter
      exact h.deliver hanswered horder
  | advanced resource hok => exact h.advanced hok
  | notAdvanced resource hfail =>
      rcases s.wallet.advanceLease_cases resource with ⟨hsame, _⟩ | ⟨old, _, _, heq⟩
      · simp only [hsame]
        exact ⟨h.newer, h.valid, h.resources⟩
      · rw [heq] at hfail
        cases hfail

/-- An entry that is there was granted. -/
theorem Reflects.granted {last : Option WalletEffect} (h : Reflects (some entry) line last) :
    ∃ resource grant, last = some (.store resource grant) ∧ Derived entry grant line := by
  cases last with
  | none => cases h
  | some effect =>
      cases effect with
      | store resource grant =>
          obtain ⟨found, hfound, hderived⟩ := h
          obtain rfl := Option.some.inj hfound
          exact ⟨resource, grant, rfl, hderived⟩
      | drop lease => cases h
      | keep => cases h

/-- A delivered grant follows the grant of the entry it replaces in the log. -/
theorem Reflects.granted_before {log : List WalletEffect}
    (h : Reflects (some entry) line delivered.getLast?)
    (hlog : about resource log = delivered ++ .store resource lease :: waiting) :
    ∃ grant, Derived entry grant line ∧
      [.store resource grant, .store resource lease].Sublist log := by
  obtain ⟨other, grant, hlast, hderived⟩ := h.granted
  obtain ⟨front, rfl⟩ := List.getLast?_eq_some_iff.mp hlast
  have hmem : .store other grant ∈ about resource log := by
    rw [hlog]
    simp
  obtain rfl : other = resource := Option.some.inj (resource?_of_mem_about hmem)
  refine ⟨grant, hderived, List.Sublist.trans ?_ (about_sublist other log)⟩
  have hpair : [.store other grant, .store other lease].Sublist
      ([.store other grant] ++ .store other lease :: waiting) :=
    ((List.nil_sublist waiting).cons_cons _).cons_cons _
  rw [hlog, List.append_assoc]
  exact hpair.trans (List.sublist_append_right _ _)

/-- A grant delivered in order does not take an entry back. -/
theorem Consistent.deliver_store (h : Consistent chain s) {index : Nat}
    {completion : LeaseCompletion} {old new : Lease}
    (hanswered : s.answered[index]? = some completion)
    (horder : InOrder chain s (.deliver index))
    (heffect : completion.effect chain = .store resource lease)
    (hold : s.wallet.leaseMap[resource]? = some old)
    (hnew : (WalletEffect.apply s.wallet (.store resource lease)).leaseMap[resource]? =
      some new) :
    new.compare old ≠ .older ∧ ∃ grant, (s.lineage resource).getLast? = some grant ∧
      [.store resource grant, .store resource lease].Sublist s.log := by
  obtain ⟨delivered, hlog, hreflects, _⟩ := h.resources resource
  have habout : (completion.effect chain).resource? = some resource := by
    rw [heffect]
    rfl
  rw [about_pending_of_eq hanswered horder habout, heffect] at hlog
  rw [hold] at hreflects
  obtain ⟨grant, hderived, hsub⟩ := hreflects.granted_before hlog
  obtain ⟨hgrant, hgrantResource⟩ := h.valid resource grant (hsub.subset (by simp))
  obtain ⟨hlease, hleaseResource⟩ := h.valid resource lease (hsub.subset (by simp))
  have hstored := reflects_effect s.wallet s.lineage
    (rfl : (WalletEffect.store resource lease).resource? = some resource)
    fun lease' heq => (WalletEffect.store.inj heq).2 ▸ hlease
  rw [hnew] at hstored
  obtain ⟨entry, hentry, hderived'⟩ := hstored
  obtain rfl := Option.some.inj hentry
  have hsame := hgrantResource.trans hleaseResource.symm
  have hnewer : GrantsNewer (.store resource grant) (.store resource lease) :=
    List.pairwise_pair.mp (h.newer.sublist hsub)
  exact ⟨hderived.not_older hderived' hgrant hlease hsame (hnewer _ _ _ _ rfl rfl hsame),
    grant, hderived.last, hsub⟩

/-- A return delivered in order removes only what was derived from it. -/
theorem Consistent.deliver_drop (h : Consistent chain s) {index : Nat}
    {completion : LeaseCompletion} {old : Lease}
    (hanswered : s.answered[index]? = some completion)
    (horder : InOrder chain s (.deliver index))
    (heffect : completion.effect chain = .drop lease)
    (hold : s.wallet.leaseMap[lease.resource]? = some old) :
    (s.lineage lease.resource).head? = some old.proto ∧
      lease ∈ s.lineage lease.resource := by
  obtain ⟨delivered, hlog, hreflects, hheld⟩ := h.resources lease.resource
  have habout : (completion.effect chain).resource? = some lease.resource := by
    rw [heffect]
    rfl
  rw [about_pending_of_eq hanswered horder habout, heffect] at hheld
  rw [hold] at hreflects
  obtain ⟨other, grant, hlast, hderived⟩ := hreflects.granted
  refine ⟨hderived.head, ?_⟩
  rcases hheld [] lease _ rfl other grant (by rwa [List.append_nil]) with rfl | hmem
  · exact List.mem_of_getLast? hderived.last
  · exact hmem.2

/-- Deliveries in order replace and remove only what they may. -/
theorem completionKeeps_of_consistent (h : Consistent chain s)
    (hstep : Guard (Step chain) (InOrder chain) s e t) : CompletionKeeps chain s e t := by
  rintro index completion rfl hanswered
  obtain ⟨hstep, horder⟩ := hstep
  cases hstep with
  | deliver _ completion' after hanswered' hafter =>
      obtain rfl := Option.some.inj (hanswered.symm.trans hanswered')
      rw [LeaseCompletion.deliver_eq, Option.some.injEq] at hafter
      subst hafter
      constructor
      · intro resource lease old new heffect hold hnew
        simp only [heffect] at hnew
        exact h.deliver_store hanswered horder heffect hold hnew
      · intro lease old heffect hold
        exact h.deliver_drop hanswered horder heffect hold

/-! ## Runs -/

/-- The state before the first call. -/
def start (wallet : LeaseWallet) : Delivery :=
  { wallet }

theorem start_consistent (chain : LeaseProcessorChain) (clientName : String) :
    Consistent chain (start { clientName }) := by
  refine ⟨List.Pairwise.nil, by simp [start], fun resource => ?_⟩
  refine ⟨[], rfl, by simp [start, Reflects], ?_⟩
  intro before lease after heq
  simp [start, pending] at heq

/-- With nothing left to deliver the wallet is settled. -/
theorem Consistent.settled (h : Consistent chain s) (hanswered : s.answered = []) :
    s.Settled := by
  intro resource
  obtain ⟨delivered, hlog, hreflects, _⟩ := h.resources resource
  have hpending : s.pending chain = [] := by
    rw [pending, hanswered, List.map_nil]
  rw [hpending, about_nil, List.append_nil] at hlog
  have hvalid : ∀ other grant, delivered.getLast? = some (.store other grant) →
      (Lease.ofProto grant).IsValid := by
    intro other grant hlast
    have hmem := List.mem_of_getLast? hlast
    rw [← hlog] at hmem
    exact (h.valid other grant ((about_sublist resource s.log).subset hmem)).1
  simp only [unreturned, hlog]
  revert hreflects hvalid
  cases delivered.getLast? with
  | none => exact fun hreflects _ => hreflects
  | some effect =>
      cases effect with
      | store other grant =>
          rintro ⟨entry, hentry, hderived⟩ hvalid
          exact ⟨entry, hentry, hderived, hderived.compare (hvalid other grant rfl)⟩
      | drop lease => exact fun hreflects _ => hreflects
      | keep => exact fun hreflects _ => hreflects

/-- In every run in order, deliveries keep what the wallet holds, and once all
completions are delivered it holds the newest unreturned grants. -/
theorem inOrder_deliversRight {clientName : String} {events : List DeliveryEvent}
    (run : Run (Guard (Step chain) (InOrder chain)) (start { clientName }) events s) :
    DeliversRight chain (start { clientName }) events s := by
  have hstart := start_consistent chain clientName
  refine ⟨?_, ?_⟩
  · exact run.strengthen hstart Consistent.step fun hs h =>
      ⟨h.1, completionKeeps_of_consistent hs h⟩
  · exact (run.invariant hstart Consistent.step).settled

/-! ## Two takes -/

theorem robotGrants_store {log : List WalletEffect}
    (hvalid : (Lease.ofProto lease).IsValid) (hresource : lease.resource = resource)
    (hnewer : ∀ other grant, .store other grant ∈ log →
      (Lease.ofProto lease).compare (Lease.ofProto grant) = .newer) :
    RobotGrants log (.store resource lease) := by
  constructor
  · rintro _ _ ⟨⟩
    exact ⟨hvalid, hresource⟩
  · rintro earlier hmem other grant _ _ rfl ⟨⟩ _ _
    exact hnewer other grant hmem

theorem robotGrants_drop (log : List WalletEffect) (lease : LeaseProto) :
    RobotGrants log (.drop lease) := by
  constructor
  · rintro _ _ ⟨⟩
  · rintro earlier _ _ _ _ _ _ ⟨⟩

/-- The processors every client starts with. -/
def defaultChain : LeaseProcessorChain := [commonResponseProcessor]

/-- A lease of the resource `body` with the given sequence. -/
def bodyGrant (sequence : List UInt32) (clientNames : List String) : LeaseProto :=
  { resource := "body", epoch := "e", sequence, clientNames }

def takeBody : LeaseRequest := .takeLease { resource := "body" }

/-- The robot grants a take with the given counter. -/
def tookBody (counter : UInt32) : LeaseCompletion :=
  .takeLease { resource := "body" }
    { header := { error := { code := 1 } }, status := 1,
      lease := bodyGrant [counter] ["root"] } {}

def returnedBody (lease : LeaseProto) : LeaseCompletion :=
  .returnLease { lease } { header := { error := { code := 1 } }, status := 1 } {}

def returnBody (lease : LeaseProto) : LeaseRequest := .returnLease { lease }

/-- A lease is taken, advanced and returned, each in its turn. -/
theorem inOrder_takeAdvanceReturn :
    ∃ s, DeliversRight defaultChain (start { clientName := "client" })
      [.call takeBody, .answer 0 (tookBody 5), .deliver 0, .advance "body",
        .call (returnBody (bodyGrant [5, 1] ["root", "client"])),
        .answer 0 (returnedBody (bodyGrant [5, 1] ["root", "client"])), .deliver 0] s := by
  refine ⟨_, inOrder_deliversRight (Run.cons ⟨.call _ _, trivial⟩ (Run.cons
    ⟨.answer _ 0 (tookBody 5) rfl (robotGrants_store (by decide) rfl (by simp [start])), ?_⟩
    (Run.cons ⟨.deliver _ 0 (tookBody 5) _ rfl rfl, ?_⟩ (Run.cons
    ⟨.advanced _ "body" rfl, trivial⟩ (Run.cons ⟨.call _ _, trivial⟩ (Run.cons
    ⟨.answer _ 0 _ rfl (robotGrants_drop _ _), ?_⟩ (Run.cons
    ⟨.deliver _ 0 _ _ rfl rfl, ?_⟩ (Run.nil _))))))))⟩
  · rintro _ _ ⟨⟩
  · intro _ _ _ _
    rfl
  · rintro _ _ ⟨⟩ _
    exact Or.inr ⟨rfl, by decide⟩
  · intro _ _ _ _
    rfl

/-- Two takes are answered with `[5]` and `[6]` and delivered the other way round. -/
theorem not_deliversRight_reversed :
    ∃ s, Run (Step defaultChain) (start { clientName := "client" })
        [.call takeBody, .call takeBody, .answer 0 (tookBody 5), .answer 0 (tookBody 6),
          .deliver 1, .deliver 0] s ∧
      ¬ DeliversRight defaultChain (start { clientName := "client" })
        [.call takeBody, .call takeBody, .answer 0 (tookBody 5), .answer 0 (tookBody 6),
          .deliver 1, .deliver 0] s := by
  refine ⟨_, Run.cons (.call _ _) (Run.cons (.call _ _) (Run.cons
    (.answer _ 0 (tookBody 5) rfl ?_) (Run.cons (.answer _ 0 (tookBody 6) rfl ?_) (Run.cons
    (.deliver _ 1 (tookBody 6) _ rfl rfl) (Run.cons (.deliver _ 0 (tookBody 5) _ rfl rfl)
    (Run.nil _)))))), ?_⟩
  · exact robotGrants_store (by decide) rfl (by simp [start])
  · refine robotGrants_store (by decide) rfl ?_
    intro other grant hmem
    have hlog : WalletEffect.store other grant ∈
        [WalletEffect.store "body" (bodyGrant [5] ["root"])] := hmem
    obtain ⟨rfl, rfl⟩ := WalletEffect.store.inj (List.mem_singleton.mp hlog)
    decide
  · intro hright
    have hsettled := hright.settled rfl "body"
    obtain ⟨entry, hentry, _, hcompare⟩ := hsettled
    obtain rfl := Option.some.inj hentry
    exact absurd hcompare (by decide)

end Delivery

end SpotSdk.Client
