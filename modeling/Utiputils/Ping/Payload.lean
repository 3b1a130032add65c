import Utiputils.Ping.EchoRequest

/-! # The payload of an echo request

`IcmpEchoRequest::new` once more, with every slice checked: the checked version never fails, and it computes what
`new` does. The payload is a part of the time stamp, and behind it a pattern that starts over. -/

namespace Utiputils.Ping

open Utiputils.Lib

namespace Checked

/-- `payload[start..stop].copy_from_slice(source)`; `none` where it panics. -/
def copyFromSlice (payload : Bytes) (start stop : Nat) (source : Bytes) : Option Bytes := do
  let target ← slice payload start stop
  if target.length = source.length then some (overwrite payload start source) else none

/-- The rewritten payload and the length of its prefix; `none` where a slice is out of bounds. -/
def fillPingTimevalPrefix (platform : Platform) (now : SystemTime) (payload : Bytes) : Option (Bytes × Nat) :=
  if payload.isEmpty then some (payload, 0)
  else match now with
    | none => some (payload, 0)
    | some (secs, usecs) =>
      let tvBytes := (platform.timeval secs usecs).toList
      let tvSize := tvBytes.length
      if tvSize ≤ payload.length then do
        let payload ← copyFromSlice payload 0 tvSize tvBytes
        return (payload, tvSize)
      else if 8 ≤ payload.length then do
        let payload ← copyFromSlice payload 0 4 (platform.u32NeBytes (UInt32.ofNat secs)).toList
        let payload ← copyFromSlice payload 4 8 (platform.u32NeBytes (UInt32.ofNat usecs)).toList
        return (payload, 8)
      else do
        let secBytes := (platform.u32NeBytes (UInt32.ofNat secs)).toList
        let n := min payload.length secBytes.length
        let source ← slice secBytes 0 n
        let payload ← copyFromSlice payload 0 n source
        return (payload, n)

def new (platform : Platform) (now : SystemTime) (sequence identifier : UInt16) (size : Nat) :
    Option IcmpEchoRequest := do
  let (payload, prefixLen) ← fillPingTimevalPrefix platform now (List.replicate size 0)
  let payload := payload.mapIdx fun i item =>
    if i < size ∧ prefixLen ≤ i then 0x10 + UInt8.ofNat (i - prefixLen) else item
  return { sequence, identifier, payload }

/-! ## No slice is out of bounds -/

theorem copyFromSlice_eq {payload source : Bytes} {start stop : Nat} (inside : stop ≤ payload.length)
    (sameSize : start + source.length = stop) :
    copyFromSlice payload start stop source = some (overwrite payload start source) := by
  have bounds : start ≤ stop ∧ stop ≤ payload.length := ⟨by omega, inside⟩
  have size : ((payload.drop start).take (stop - start)).length = source.length := by
    rw [List.length_take, List.length_drop]
    omega
  rw [copyFromSlice, slice, if_pos bounds, Option.bind_eq_bind, Option.bind_some, if_pos size]

theorem fillPingTimevalPrefix_eq (platform : Platform) (now : SystemTime) (payload : Bytes) :
    fillPingTimevalPrefix platform now payload = some (Ping.fillPingTimevalPrefix platform now payload) := by
  unfold fillPingTimevalPrefix Ping.fillPingTimevalPrefix
  by_cases empty : payload.isEmpty = true
  · rw [if_pos empty, if_pos empty]
  rw [if_neg empty, if_neg empty]
  cases now with
  | none => rfl
  | some time =>
    have secsSize : (platform.u32NeBytes (UInt32.ofNat time.1)).toList.length = 4 := Vector.length_toList
    have usecsSize : (platform.u32NeBytes (UInt32.ofNat time.2)).toList.length = 4 := Vector.length_toList
    simp only
    -- only the lengths of the three encodings matter
    generalize (platform.timeval time.1 time.2).toList = tvBytes
    generalize (platform.u32NeBytes (UInt32.ofNat time.1)).toList = secBytes at *
    generalize (platform.u32NeBytes (UInt32.ofNat time.2)).toList = usecBytes at *
    by_cases full : tvBytes.length ≤ payload.length
    · have copied := @copyFromSlice_eq payload tvBytes 0 _ full (Nat.zero_add _)
      simp only [if_pos full, copied, Option.bind_eq_bind, Option.bind_some, Option.pure_def]
    by_cases short : 8 ≤ payload.length
    · have first := @copyFromSlice_eq payload secBytes 0 4 (by omega) (by omega)
      -- the first copy leaves the length, so the second is inside too
      have size : (overwrite payload 0 secBytes).length = payload.length := by
        simp only [overwrite, List.length_append, List.length_take, List.length_drop]
        omega
      have second := @copyFromSlice_eq (overwrite payload 0 secBytes) usecBytes 4 8 (by omega) (by omega)
      simp only [if_neg full, if_pos short, first, second, Option.bind_eq_bind, Option.bind_some, Option.pure_def]
    · have source : slice secBytes 0 (min payload.length secBytes.length) =
          some (secBytes.take (min payload.length secBytes.length)) :=
        if_pos ⟨Nat.zero_le _, Nat.min_le_right _ _⟩
      have copied := @copyFromSlice_eq payload (secBytes.take (min payload.length secBytes.length)) 0 _
        (Nat.min_le_left _ _) (by rw [Nat.zero_add, List.length_take, Nat.min_eq_left (Nat.min_le_right _ _)])
      simp only [if_neg full, if_neg short, source, copied, Option.bind_eq_bind, Option.bind_some, Option.pure_def]

end Checked

/-! ## The prefix and the pattern -/

/-- How much of a payload the time stamp takes. -/
def prefixLen (size : Nat) : Nat := if 16 ≤ size then 16 else if 8 ≤ size then 8 else min size 4

/-- The time stamp for a payload of this size: a `timeval`, its two numbers in 32 bits, or the seconds alone. -/
def timestampBytes (platform : Platform) (secs usecs size : Nat) : Bytes :=
  if 16 ≤ size then (platform.timeval secs usecs).toList
  else if 8 ≤ size then
    (platform.u32NeBytes (UInt32.ofNat secs)).toList ++ (platform.u32NeBytes (UInt32.ofNat usecs)).toList
  else (platform.u32NeBytes (UInt32.ofNat secs)).toList

theorem prefixLen_le (size : Nat) : prefixLen size ≤ size := by
  unfold prefixLen
  split
  · assumption
  · split
    · assumption
    · exact Nat.min_le_left _ _

theorem length_stamp (platform : Platform) (secs usecs size : Nat) :
    ((timestampBytes platform secs usecs size).take (prefixLen size)).length = prefixLen size := by
  rw [List.length_take]
  apply Nat.min_eq_left
  unfold timestampBytes prefixLen
  split
  · simp
  · split
    · simp
    · simp

theorem overwrite_front (payload source : Bytes) :
    overwrite payload 0 source = source ++ payload.drop source.length := by
  rw [overwrite, List.take_zero, List.nil_append, Nat.zero_add]

theorem fillPingTimevalPrefix_stamps (platform : Platform) (secs usecs : Nat) (payload : Bytes) :
    fillPingTimevalPrefix platform (some (secs, usecs)) payload =
      ((timestampBytes platform secs usecs payload.length).take (prefixLen payload.length) ++
        payload.drop (prefixLen payload.length), prefixLen payload.length) := by
  have tvSize : (platform.timeval secs usecs).toList.length = 16 := Vector.length_toList
  have secsSize : (platform.u32NeBytes (UInt32.ofNat secs)).toList.length = 4 := Vector.length_toList
  have usecsSize : (platform.u32NeBytes (UInt32.ofNat usecs)).toList.length = 4 := Vector.length_toList
  unfold fillPingTimevalPrefix timestampBytes prefixLen
  simp only
  generalize (platform.timeval secs usecs).toList = tvBytes at *
  generalize (platform.u32NeBytes (UInt32.ofNat secs)).toList = secBytes at *
  generalize (platform.u32NeBytes (UInt32.ofNat usecs)).toList = usecBytes at *
  by_cases empty : payload.isEmpty = true
  · rw [if_pos empty]
    simp [List.isEmpty_iff.mp empty]
  rw [if_neg empty, tvSize]
  -- a whole `timeval`, then its numbers in 32 bits each, then as much of the seconds as there is room for
  by_cases full : 16 ≤ payload.length
  · simp only [if_pos full]
    rw [overwrite_front, tvSize, List.take_of_length_le tvSize.le]
  by_cases short : 8 ≤ payload.length
  · -- the second copy begins where the first ends
    have stamp : overwrite (overwrite payload 0 secBytes) 4 usecBytes = secBytes ++ usecBytes ++ payload.drop 8 := by
      rw [overwrite_front, overwrite, ← List.drop_drop, List.take_left' secsSize, List.drop_left' secsSize, secsSize,
        usecsSize, List.drop_drop]
    have size : (secBytes ++ usecBytes).length ≤ 8 := by
      rw [List.length_append]
      omega
    simp only [if_neg full, if_pos short]
    rw [stamp, List.take_of_length_le size]
  · have size : (secBytes.take (min payload.length 4)).length = min payload.length 4 := by
      rw [List.length_take]
      omega
    simp only [if_neg full, if_neg short, secsSize]
    rw [overwrite_front, size]

theorem length_fillPingTimevalPrefix (platform : Platform) (now : SystemTime) (payload : Bytes) :
    (fillPingTimevalPrefix platform now payload).1.length = payload.length := by
  cases now with
  | none =>
    rw [fillPingTimevalPrefix]
    split <;> rfl
  | some time =>
    have inside := prefixLen_le payload.length
    rw [fillPingTimevalPrefix_stamps, List.length_append, length_stamp, List.length_drop]
    omega

namespace IcmpEchoRequest

variable (platform : Platform) (sequence identifier : UInt16) (size : Nat)

theorem length_payload_new (now : SystemTime) :
    (new platform now sequence identifier size).payload.length = size := by
  rw [new, List.length_mapIdx, length_fillPingTimevalPrefix, List.length_replicate]

theorem checked_new (now : SystemTime) :
    Checked.new platform now sequence identifier size = some (new platform now sequence identifier size) := by
  have sameSize := length_fillPingTimevalPrefix platform now (List.replicate size 0)
  rw [List.length_replicate] at sameSize
  rw [Checked.new, Checked.fillPingTimevalPrefix_eq, new, Option.bind_eq_bind, Option.bind_some]
  simp only [Option.pure_def, Option.some.injEq, mk.injEq, true_and]
  apply List.ext_getElem (by simp)
  intro i inside _
  have small : i < size := by simpa [sameSize] using inside
  simp [small]

/-- The stamp, and behind it the pattern that begins with `0x10`. -/
theorem payload_new (secs usecs : Nat) :
    (new platform (some (secs, usecs)) sequence identifier size).payload =
      (timestampBytes platform secs usecs size).take (prefixLen size) ++
        (List.range (size - prefixLen size)).map fun i => 0x10 + UInt8.ofNat i := by
  have stampSize := length_stamp platform secs usecs size
  have stamped := fillPingTimevalPrefix_stamps platform secs usecs (List.replicate size 0)
  rw [List.length_replicate] at stamped
  simp only [new, stamped]
  generalize (timestampBytes platform secs usecs size).take (prefixLen size) = stamp at *
  rw [List.mapIdx_append, stampSize]
  congr 1
  · -- the loop leaves the stamp alone
    apply List.ext_getElem (by simp)
    intro i _ inside
    rw [List.getElem_mapIdx, if_neg (by omega)]
  · apply List.ext_getElem (by simp)
    intro i _ inside
    rw [List.getElem_mapIdx, if_pos (by omega), Nat.add_sub_cancel, List.getElem_map, List.getElem_range]

end IcmpEchoRequest

/-- A payload has the size that is asked for, a time stamp in front, and the pattern behind it. -/
theorem new_payload (platform : Platform) (sequence identifier : UInt16) (size : Nat) :
    (∀ now, Checked.new platform now sequence identifier size =
        some (IcmpEchoRequest.new platform now sequence identifier size) ∧
      (IcmpEchoRequest.new platform now sequence identifier size).payload.length = size) ∧
    ∀ secs usecs,
      let payload := (IcmpEchoRequest.new platform (some (secs, usecs)) sequence identifier size).payload
      payload.take (prefixLen size) = (timestampBytes platform secs usecs size).take (prefixLen size) ∧
      ∀ i, prefixLen size ≤ i → i < size →
        ∃ byte, payload[i]? = some byte ∧ byte.toNat = (0x10 + (i - prefixLen size)) % 256 := by
  refine ⟨fun now => ⟨IcmpEchoRequest.checked_new platform sequence identifier size now,
    IcmpEchoRequest.length_payload_new platform sequence identifier size now⟩, fun secs usecs => ?_⟩
  have stampSize := length_stamp platform secs usecs size
  simp only [IcmpEchoRequest.payload_new]
  refine ⟨List.take_left' stampSize, fun i behind inside => ⟨0x10 + UInt8.ofNat (i - prefixLen size), ?_, ?_⟩⟩
  · rw [List.getElem?_append_right (by omega), stampSize, List.getElem?_map, List.getElem?_range (by omega)]
    rfl
  · simp [UInt8.toNat_add, UInt8.toNat_ofNat']

end Utiputils.Ping
