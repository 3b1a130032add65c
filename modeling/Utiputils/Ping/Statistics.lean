import Utiputils.Lib.Ledger
import Utiputils.Ping.Session

/-! # Statistics and ledger

The log of a run determines the ledger of its requests: which one every reply answered, and which were
counted. The statistics follow the ledger: the table of send times is its table of waiting requests, and
the two counters count its entries modulo `2^32`. -/

namespace Utiputils.Ping

open Utiputils.Lib Ledger

/-! ## The ledger of a log -/

abbrev Requests : Type := Ledger UInt16 Instant

def ledgerStep (ledger : Requests) (record : Record) : Requests :=
  match record.event with
  | .recordSentTime seq now => ledger.request seq now
  | .getSentTime seq _ => ledger.take seq
  | .update => ledger.count
  | .loopBoundary | .sendTo .. | .received _ | .recordError | .printed _ | .summary _ => ledger

def ledgerOf (log : List Record) : Requests := log.foldl ledgerStep {}

@[simp] theorem ledgerOf_concat (log : List Record) (record : Record) :
    ledgerOf (log ++ [record]) = ledgerStep (ledgerOf log) record := by
  simp [ledgerOf]

@[simp] theorem ledgerOf_enter (world : World) (event : Event) (status : PingStats) :
    ledgerOf (world.enter event status).log = ledgerStep (ledgerOf world.log) ⟨event, status⟩ :=
  ledgerOf_concat world.log ⟨event, status⟩

/-- Requests are not forgotten. -/
theorem length_requests_le (before after : List Record) :
    (ledgerOf before).requests.length ≤ (ledgerOf (before ++ after)).requests.length := by
  induction after generalizing before with
  | nil => simp
  | cons record after inductionHypothesis =>
    have step : (ledgerOf before).requests.length ≤ (ledgerOf (before ++ [record])).requests.length := by
      rw [ledgerOf_concat, ledgerStep]
      split <;> simp [Ledger.request, Ledger.take, Ledger.count]
    rw [List.append_cons]
    exact step.trans (inductionHypothesis _)

/-! ## The statistics follow the ledger -/

structure PingStats.Follows (status : PingStats) (ledger : Requests) : Prop where
  valid : ledger.Valid
  table : ∀ seq, status.sentTimes[seq]? = ledger.timeOf seq
  numbered : ∀ index entry, ledger.requests[index]? = some entry → entry.1 = UInt16.ofNat (index + 1)
  transmitted : status.transmitted = UInt32.ofNat ledger.requests.length
  received : status.received = UInt32.ofNat ledger.counted.length
  balance : ledger.counted.length + ledger.taken.toList.length + status.sentTimes.size ≤ ledger.requests.length
  /-- until the sequence numbers come round nothing is overwritten -/
  exact : ledger.requests.length ≤ 65536 →
    ledger.counted.length + ledger.taken.toList.length + status.sentTimes.size = ledger.requests.length

namespace PingStats.Follows

variable {status : PingStats} {ledger : Requests}

theorem new : PingStats.new.Follows {} where
  valid := valid_empty
  table _ := by simp [PingStats.new, timeOf]
  numbered _ _ found := by cases found
  transmitted := rfl
  received := rfl
  balance := le_rfl
  exact _ := rfl

/-- The next sequence number is not in the table as long as the numbers have not come round. -/
theorem next_absent (follows : status.Follows ledger) (few : ledger.requests.length < 65536) :
    status.sentTimes[UInt16.ofNat (ledger.requests.length + 1)]? = none := by
  rw [Option.eq_none_iff_forall_ne_some]
  intro time isSome
  rw [follows.table] at isSome
  obtain ⟨index, _, found⟩ := (timeOf_eq_some follows.valid).mp isSome
  -- an entry would be an earlier request with the same number modulo `2^16`
  have inside : index < ledger.requests.length := (List.getElem?_eq_some_iff.mp found).1
  have same := congrArg UInt16.toNat (follows.numbered index _ found)
  simp only [UInt16.toNat_ofNat'] at same
  omega

theorem recordSentTime (follows : status.Follows ledger) (now : Instant) :
    (status.recordSentTime (UInt16.ofNat (ledger.requests.length + 1)) now).Follows
      (ledger.request (UInt16.ofNat (ledger.requests.length + 1)) now) where
  valid := follows.valid.request _ _
  table seq := by rw [lookup_recordSentTime, timeOf_request follows.valid, follows.table]
  numbered index entry found := by
    rcases Nat.lt_trichotomy index ledger.requests.length with inside | atEnd | beyond
    · rw [Ledger.request, List.getElem?_append_left inside] at found
      exact follows.numbered index entry found
    · subst atEnd
      simp only [Ledger.request, List.getElem?_concat_length, Option.some.injEq] at found
      rw [← found]
    · have outside : (ledger.requests ++ [(UInt16.ofNat (ledger.requests.length + 1), now)]).length ≤ index := by
        simpa using beyond
      rw [Ledger.request, List.getElem?_eq_none outside] at found
      cases found
  transmitted := by
    simp only [PingStats.recordSentTime, follows.transmitted, Ledger.request, List.length_append,
      List.length_singleton, UInt32.ofNat_add]
    rfl
  received := follows.received
  balance := by
    have balance := follows.balance
    rw [size_recordSentTime]
    simp only [Ledger.request, List.length_append, List.length_singleton]
    split <;> omega
  exact few := by
    simp only [Ledger.request, List.length_append, List.length_singleton] at few ⊢
    have exact' := follows.exact (by omega)
    -- nothing is overwritten, so the table grows
    rw [size_recordSentTime, follows.next_absent (by omega)]
    simp only [Option.isSome_none, Bool.false_eq_true, if_false]
    omega

/-- A reply finds its request in the table exactly when the ledger has one waiting. -/
theorem isSome_lookup (follows : status.Follows ledger) (seq : UInt16) :
    status.sentTimes[seq]?.isSome = (ledger.waiting seq).isSome := by
  rw [follows.table]
  cases waits : ledger.waiting seq with
  | none => simp [timeOf, waits]
  | some index =>
    have inside := (follows.valid.latest seq index waits).lt
    simp [timeOf, waits, inside]

theorem getSentTime (follows : status.Follows ledger) (settled : ledger.taken = none) (seq : UInt16) :
    (status.getSentTime seq).2.Follows (ledger.take seq) := by
  -- what leaves the table is the taken request
  have size : (ledger.waiting seq).toList.length + (status.getSentTime seq).2.sentTimes.size =
      status.sentTimes.size := by
    rw [size_getSentTime, follows.isSome_lookup]
    cases waits : ledger.waiting seq with
    | none => simp
    | some index =>
      have present : status.sentTimes[seq]?.isSome := by rw [follows.isSome_lookup, waits]; rfl
      have positive := status.size_pos_of_lookup seq present
      simp only [Option.toList_some, List.length_singleton, Option.isSome_some, if_true]
      omega
  have before := follows.balance
  have exactly := follows.exact
  rw [settled] at before exactly
  exact {
    valid := follows.valid.take settled seq
    table := fun other => by rw [lookup_getSentTime, timeOf_take, follows.table]
    numbered := follows.numbered
    transmitted := follows.transmitted
    received := follows.received
    balance := by
      simp only [Ledger.take, Option.toList_none, List.length_nil] at before ⊢
      omega
    exact := fun few => by
      simp only [Ledger.take, Option.toList_none, List.length_nil] at exactly few ⊢
      have exactly := exactly few
      omega }

theorem update (follows : status.Follows ledger) {index : Nat} (taken : ledger.taken = some index) :
    status.update.Follows ledger.count := by
  have before := follows.balance
  have exactly := follows.exact
  simp only [taken, Option.toList_some, List.length_singleton] at before exactly
  exact {
    valid := follows.valid.count
    table := follows.table
    numbered := follows.numbered
    transmitted := follows.transmitted
    received := by
      simp only [PingStats.update, follows.received, Ledger.count, taken, Option.toList_some, List.length_append,
        List.length_singleton, UInt32.ofNat_add]
      rfl
    balance := by
      simp only [Ledger.count, taken, Option.toList_some, Option.toList_none, List.length_append,
        List.length_singleton, List.length_nil, PingStats.update]
      omega
    exact := fun few => by
      have exactly := exactly few
      simp only [Ledger.count, taken, Option.toList_some, Option.toList_none, List.length_append,
        List.length_singleton, List.length_nil, PingStats.update]
      omega }

/-! ### What the counters say -/

theorem received_add_size (follows : status.Follows ledger) (few : ledger.requests.length < 2 ^ 32) :
    status.received.toNat + status.sentTimes.size ≤ status.transmitted.toNat := by
  have balance := follows.balance
  rw [follows.received, follows.transmitted, UInt32.toNat_ofNat', UInt32.toNat_ofNat']
  omega

theorem received_add_size_eq (follows : status.Follows ledger) (settled : ledger.taken = none)
    (few : ledger.requests.length ≤ 65536) :
    status.received.toNat + status.sentTimes.size = status.transmitted.toNat := by
  have exactly := follows.exact few
  rw [settled, Option.toList_none, List.length_nil] at exactly
  rw [follows.received, follows.transmitted, UInt32.toNat_ofNat', UInt32.toNat_ofNat']
  omega

/-- The subtraction in `summary` does not panic. -/
theorem summary_isSome (follows : status.Follows ledger) (few : ledger.requests.length < 2 ^ 32) :
    status.summary.isSome := by
  have le : status.received ≤ status.transmitted := UInt32.le_iff_toNat_le.mpr (by
    have := follows.received_add_size few
    omega)
  rw [PingStats.summary, if_pos le]
  split <;> rfl

end PingStats.Follows

end Utiputils.Ping
