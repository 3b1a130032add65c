import Mathlib

/-! # Matching replies to requests

Requests are numbered in the order in which they are made and carry a key, which may come round again.
For each key the ledger knows the request that a reply with this key would answer; a reply takes that
request out, and once it has been taken it can be counted. Keys and times are arbitrary. -/

namespace Utiputils.Lib

structure Ledger (Key Time : Type) where
  requests : List (Key × Time) := []
  /-- the request that waits for a reply with the key -/
  waiting : Key → Option Nat := fun _ => none
  /-- the request that was taken out last, if it has not been counted -/
  taken : Option Nat := none
  counted : List Nat := []

namespace Ledger

variable {Key Time : Type}

def count (ledger : Ledger Key Time) : Ledger Key Time :=
  { ledger with
    taken := none
    counted := ledger.counted ++ ledger.taken.toList }

/-- The time of the request that waits for a reply with the key. -/
def timeOf (ledger : Ledger Key Time) (key : Key) : Option Time :=
  (ledger.waiting key).bind fun index => ledger.requests[index]?.map (·.2)

/-- The latest request with the key. -/
def IsLatest (requests : List (Key × Time)) (key : Key) (index : Nat) : Prop :=
  requests[index]?.map (·.1) = some key ∧ ∀ later, index < later → requests[later]?.map (·.1) ≠ some key

theorem IsLatest.lt {requests : List (Key × Time)} {key : Key} {index : Nat}
    (latest : IsLatest requests key index) : index < requests.length := by
  by_contra outside
  have absent : requests[index]? = none := List.getElem?_eq_none (Nat.le_of_not_lt outside)
  have found := latest.1
  rw [absent] at found
  cases found

/-- What the operations keep: a request waits only while it is the latest with its key and has been
neither taken nor counted, and none is counted twice. -/
structure Valid (ledger : Ledger Key Time) : Prop where
  latest : ∀ key index, ledger.waiting key = some index → IsLatest ledger.requests key index
  apart : ∀ key index, ledger.waiting key = some index → index ∉ ledger.counted ++ ledger.taken.toList
  once : (ledger.counted ++ ledger.taken.toList).Nodup
  made : ∀ index ∈ ledger.counted ++ ledger.taken.toList, index < ledger.requests.length

theorem valid_empty : ({} : Ledger Key Time).Valid where
  latest _ _ waits := by cases waits
  apart _ _ waits := by cases waits
  once := List.nodup_nil
  made _ member := by cases member

theorem Valid.count {ledger : Ledger Key Time} (valid : ledger.Valid) : ledger.count.Valid where
  latest := valid.latest
  apart key index waits := by simpa [Ledger.count] using valid.apart key index waits
  once := by simpa [Ledger.count] using valid.once
  made index member := valid.made index (by simpa [Ledger.count] using member)

/-- A key has a time exactly while a request waits for it, and it is the time of that request. -/
theorem timeOf_eq_some {ledger : Ledger Key Time} (valid : ledger.Valid) {key : Key} {time : Time} :
    ledger.timeOf key = some time ↔
      ∃ index, ledger.waiting key = some index ∧ ledger.requests[index]? = some (key, time) := by
  constructor
  · intro isSome
    obtain ⟨index, waits, found⟩ := Option.bind_eq_some_iff.mp isSome
    obtain ⟨⟨other, same⟩, at', rfl⟩ := Option.map_eq_some_iff.mp found
    have isKey := (valid.latest key index waits).1
    rw [at', Option.map_some, Option.some.injEq] at isKey
    exact ⟨index, waits, isKey ▸ at'⟩
  · rintro ⟨index, waits, at'⟩
    simp [timeOf, waits, at']

/-! ## Requests and replies -/

theorem isLatest_concat_new (requests : List (Key × Time)) (key : Key) (time : Time) :
    IsLatest (requests ++ [(key, time)]) key requests.length := by
  refine ⟨by simp, fun later after => ?_⟩
  rw [List.getElem?_eq_none (by simp; omega)]
  simp

theorem isLatest_concat_old {requests : List (Key × Time)} {key other : Key} {index : Nat}
    (latest : IsLatest requests other index) (different : other ≠ key) (time : Time) :
    IsLatest (requests ++ [(key, time)]) other index := by
  refine ⟨by rw [List.getElem?_append_left latest.lt]; exact latest.1, fun later after => ?_⟩
  rcases Nat.lt_trichotomy later requests.length with inside | atEnd | beyond
  · rw [List.getElem?_append_left inside]
    exact latest.2 later after
  · subst atEnd
    simpa using different.symm
  · rw [List.getElem?_eq_none (by simp; omega)]
    simp

section

variable [DecidableEq Key]

def request (ledger : Ledger Key Time) (key : Key) (time : Time) : Ledger Key Time :=
  { ledger with
    requests := ledger.requests ++ [(key, time)]
    waiting := Function.update ledger.waiting key (some ledger.requests.length) }

def take (ledger : Ledger Key Time) (key : Key) : Ledger Key Time :=
  { ledger with
    waiting := Function.update ledger.waiting key none
    taken := ledger.waiting key }

@[simp] theorem waiting_request (ledger : Ledger Key Time) (key other : Key) (time : Time) :
    (ledger.request key time).waiting other =
      if other = key then some ledger.requests.length else ledger.waiting other := by
  simp [Ledger.request, Function.update_apply]

@[simp] theorem waiting_take (ledger : Ledger Key Time) (key other : Key) :
    (ledger.take key).waiting other = if other = key then none else ledger.waiting other := by
  simp [Ledger.take, Function.update_apply]

theorem Valid.request {ledger : Ledger Key Time} (valid : ledger.Valid) (key : Key) (time : Time) :
    (ledger.request key time).Valid where
  latest other index waits := by
    rw [waiting_request] at waits
    split at waits
    next same =>
      rw [← Option.some.inj waits, same]
      exact isLatest_concat_new ledger.requests key time
    next different => exact isLatest_concat_old (valid.latest other index waits) different time
  apart other index waits member := by
    rw [waiting_request] at waits
    split at waits
    next same =>
      -- what was taken or counted was made before, and the waiting request is made just now
      have earlier := valid.made index member
      have new := Option.some.inj waits
      omega
    next different => exact valid.apart other index waits member
  once := valid.once
  made index member := by
    have before := valid.made index member
    simp only [Ledger.request, List.length_append, List.length_singleton]
    omega

/-- Taking is allowed once the request taken before has been counted. -/
theorem Valid.take {ledger : Ledger Key Time} (valid : ledger.Valid) (settled : ledger.taken = none)
    (key : Key) : (ledger.take key).Valid := by
  -- what is counted now was counted before, or is what waits under the key
  have known : ∀ index, index ∈ (ledger.take key).counted ++ (ledger.take key).taken.toList →
      index ∈ ledger.counted ∨ ledger.waiting key = some index := by
    simp [Ledger.take]
  have apart : ∀ other index, ledger.waiting other = some index → index ∉ ledger.counted := by
    intro other index waits
    simpa [settled] using valid.apart other index waits
  constructor
  case latest =>
    intro other index waits
    rw [waiting_take] at waits
    split at waits
    next => cases waits
    next => exact valid.latest other index waits
  case apart =>
    intro other index waits member
    rw [waiting_take] at waits
    split at waits
    next => cases waits
    next different =>
      rcases known index member with counted | taken
      · exact apart other index waits counted
      · -- one request has one key
        have one := (valid.latest other index waits).1.symm.trans (valid.latest key index taken).1
        exact different (Option.some.inj one)
  case once =>
    have once := valid.once
    rw [settled, Option.toList_none, List.append_nil] at once
    cases waits : ledger.waiting key with
    | none => simpa [Ledger.take, waits] using once
    | some index =>
      simp only [Ledger.take, waits, Option.toList_some]
      exact List.concat_eq_append ▸ once.concat (apart key index waits)
  case made =>
    intro index member
    rcases known index member with counted | taken
    · exact valid.made index (List.mem_append_left _ counted)
    · exact (valid.latest key index taken).lt

theorem timeOf_request {ledger : Ledger Key Time} (valid : ledger.Valid) (key : Key) (time : Time) (other : Key) :
    (ledger.request key time).timeOf other = if other = key then some time else ledger.timeOf other := by
  rw [timeOf, waiting_request]
  split
  next => simp [Ledger.request]
  next =>
    rw [timeOf]
    cases waits : ledger.waiting other with
    | none => rfl
    | some index =>
      simp only [Option.bind_some, Ledger.request]
      rw [List.getElem?_append_left (valid.latest other index waits).lt]

theorem timeOf_take (ledger : Ledger Key Time) (key other : Key) :
    (ledger.take key).timeOf other = if other = key then none else ledger.timeOf other := by
  rw [timeOf, waiting_take]
  split <;> rfl

end

end Ledger

end Utiputils.Lib
