import Utiputils.Clockdiff.SumResult

/-! # The clock offset estimate

A remote clock that is ahead by a constant `theta` turns the network delays `forward` and `backward`
of a sample into the two normalised legs `forward + theta` and `backward - theta`. Half their
difference then misses `theta` by at most half the round trip (and half a millisecond of rounding), and
`measure_delta1` is that value for the sample with the least round trip. -/

namespace Utiputils.Clockdiff

open Utiputils.Lib

/-- A sample taken from a clock ahead by `theta`, with the delays that produced it. -/
structure OffsetSample (ipTimestamp : Bool) (theta : Int) where
  sample : ClockDiffResult
  forward : Int
  backward : Int
  forward_nonneg : 0 ≤ forward
  backward_nonneg : 0 ≤ backward
  localSendTime_range : 0 ≤ sample.localSendTime ∧ sample.localSendTime < 86400000
  remoteRecvTime_range : 0 ≤ sample.remoteRecvTime ∧ sample.remoteRecvTime < 86400000
  remoteSendTime_range : 0 ≤ sample.remoteSendTime ∧ sample.remoteSendTime < 86400000
  localRecvTime_range : 0 ≤ sample.localRecvTime ∧ sample.localRecvTime < 86400000
  outward : sample.remoteRecvTime ≡ sample.localSendTime + forward + theta [ZMOD 86400000]
  homeward : sample.localRecvTime ≡
    (if ipTimestamp then sample.remoteSendTime else sample.remoteRecvTime) + backward - theta [ZMOD 86400000]
  outward_range : -43200000 ≤ forward + theta ∧ forward + theta ≤ 43199999
  homeward_range : -43200000 ≤ backward - theta ∧ backward - theta ≤ 43199999

/-- Within one day of zero the wrap picks the representative between the two bounds. -/
theorem wrapDelta_eq_of_modEq {delta leg : Int} (withinDay : -86400000 < delta ∧ delta < 86400000)
    (legRange : -43200000 ≤ leg ∧ leg ≤ 43199999) (congruent : delta ≡ leg [ZMOD 86400000]) :
    wrapDelta delta = leg := by
  simp only [Int.ModEq] at congruent
  simp only [wrapDelta, BIASN, BIASP, MODULO]
  split_ifs <;> omega

/-- Rounding towards zero loses at most one unit of the doubled value, whatever the sign. -/
theorem two_mul_tdiv_two (value : Int) : |2 * value.tdiv 2 - value| ≤ 1 := by
  rw [Int.tdiv_eq_ediv, abs_le]
  split
  · omega
  · rw [show (2 : Int).sign = 1 from rfl]
    omega

/-- Half the difference of the two legs is within half the round trip of the offset. -/
theorem two_mul_halfDifference_sub (theta forward backward : Int) (forwardNonneg : 0 ≤ forward)
    (backwardNonneg : 0 ≤ backward) :
    2 * |((forward + theta) - (backward - theta)).tdiv 2 - theta| ≤ forward + backward + 1 := by
  have rounding := two_mul_tdiv_two ((forward + theta) - (backward - theta))
  generalize ((forward + theta) - (backward - theta)).tdiv 2 = estimate at *
  have asymmetry : |forward - backward| ≤ forward + backward := by rw [abs_le]; omega
  calc 2 * |estimate - theta|
      = |2 * (estimate - theta)| := by rw [abs_mul]; rfl
    _ = |(2 * estimate - ((forward + theta) - (backward - theta))) + (forward - backward)| := by
        congr 1; ring
    _ ≤ |2 * estimate - ((forward + theta) - (backward - theta))| + |forward - backward| := abs_add_le _ _
    _ ≤ forward + backward + 1 := by omega

namespace OffsetSample

variable {ipTimestamp : Bool} {theta : Int} (offsetSample : OffsetSample ipTimestamp theta)

theorem forwardDelay_eq : offsetSample.sample.forwardDelay = offsetSample.forward + theta := by
  have sent := offsetSample.localSendTime_range
  have received := offsetSample.remoteRecvTime_range
  refine wrapDelta_eq_of_modEq (by omega) offsetSample.outward_range ?_
  have shifted := offsetSample.outward.sub_right offsetSample.sample.localSendTime
  rwa [show offsetSample.sample.localSendTime + offsetSample.forward + theta -
    offsetSample.sample.localSendTime = offsetSample.forward + theta by ring] at shifted

theorem backwardDelay_eq :
    offsetSample.sample.backwardDelay ipTimestamp = offsetSample.backward - theta := by
  have sent := offsetSample.remoteSendTime_range
  have received := offsetSample.remoteRecvTime_range
  have returned := offsetSample.localRecvTime_range
  refine wrapDelta_eq_of_modEq (by split <;> omega) offsetSample.homeward_range ?_
  have congruent := offsetSample.homeward
  cases ipTimestamp with
  | true =>
    have shifted := congruent.sub_right offsetSample.sample.remoteSendTime
    rwa [if_pos rfl, add_sub_assoc, add_sub_cancel_left] at shifted
  | false =>
    have shifted := congruent.sub_right offsetSample.sample.remoteRecvTime
    rwa [if_neg Bool.false_ne_true, add_sub_assoc, add_sub_cancel_left] at shifted

theorem roundTrip_eq :
    offsetSample.sample.roundTrip ipTimestamp = offsetSample.forward + offsetSample.backward := by
  rw [ClockDiffResult.roundTrip, offsetSample.forwardDelay_eq, offsetSample.backwardDelay_eq]
  ring

/-- The round trip of a sample is less than a day, so it beats the start value of `rtt_min`. -/
theorem roundTrip_lt : offsetSample.sample.roundTrip ipTimestamp < 9223372036854775807 := by
  have outward := offsetSample.outward_range
  have homeward := offsetSample.homeward_range
  rw [offsetSample.roundTrip_eq]
  omega

theorem halfDifference_near :
    2 * |offsetSample.sample.halfDifference ipTimestamp - theta| ≤
      offsetSample.sample.roundTrip ipTimestamp + 1 := by
  rw [ClockDiffResult.halfDifference, offsetSample.roundTrip_eq, offsetSample.forwardDelay_eq,
    offsetSample.backwardDelay_eq]
  exact two_mul_halfDifference_sub theta _ _ offsetSample.forward_nonneg offsetSample.backward_nonneg

end OffsetSample

/-- Feeding samples of one remote clock from `SumResult::new`: a sample whose reply precedes its
request changes nothing, and as soon as one sample counts, `rtt_min` is the least round trip of those
that count and `measure_delta1` misses the offset by at most half of it. -/
theorem feed_new_measureDelta1_near (ipTimestamp : Bool) (theta : Int) (host : String)
    (timeFormat : Option String) (samples : List (OffsetSample ipTimestamp theta)) :
    let final := (SumResult.new host timeFormat).feed ipTimestamp (samples.map (·.sample))
    (∀ state : SumResult, ∀ taken ∈ samples, taken.sample.localRecvTime < taken.sample.localSendTime →
      (state.calculateDelta ipTimestamp taken.sample).1 = state) ∧
    ((∃ taken ∈ samples, taken.sample.localSendTime ≤ taken.sample.localRecvTime) →
      IsLeast {delay | ∃ taken ∈ samples, taken.sample.localSendTime ≤ taken.sample.localRecvTime ∧
        taken.forward + taken.backward = delay} final.rttMin ∧
      2 * |final.measureDelta1 - theta| ≤ final.rttMin + 1) := by
  intro final
  constructor
  · intro state taken _ early
    rw [calculateDelta_of_rejected state ipTimestamp taken.sample (by simp [ClockDiffResult.accepted, early])]
  · rintro ⟨first, firstMember, firstCounts⟩
    -- only the accepted samples matter, and each of them beats `i64::MAX`
    set counted := samples.filter (·.sample.accepted) with countedDef
    have memberIff : ∀ taken, taken ∈ counted ↔
        taken ∈ samples ∧ taken.sample.localSendTime ≤ taken.sample.localRecvTime := by
      simp [countedDef, ClockDiffResult.accepted]
    have feedCounted : final = (SumResult.new host timeFormat).feed ipTimestamp (counted.map (·.sample)) := by
      have mapped : counted.map (·.sample) = (samples.map (·.sample)).filter (·.accepted) := by
        rw [List.filter_map]; rfl
      rw [mapped, feed_filter_accepted]
    obtain ⟨-, -, pair, -⟩ := feed_of_accepted (SumResult.new host timeFormat) ipTimestamp
      (counted.map (·.sample)) (by
        simp only [List.mem_map, forall_exists_index, and_imp]
        rintro _ taken member rfl
        simpa [ClockDiffResult.accepted] using ((memberIff taken).mp member).2)
    rw [← feedCounted] at pair
    obtain ⟨_, attained, isPair, least⟩ := foldl_keepLeast_spec (·.roundTrip ipTimestamp)
      (·.halfDifference ipTimestamp) (counted.map (·.sample))
      ((SumResult.new host timeFormat).rttMin, (SumResult.new host timeFormat).measureDelta1)
      ⟨first.sample, List.mem_map_of_mem ((memberIff first).mpr ⟨firstMember, firstCounts⟩), first.roundTrip_lt⟩
    obtain ⟨best, bestMember, rfl⟩ := List.mem_map.mp attained
    rw [isPair, Prod.mk.injEq] at pair
    obtain ⟨rttMin, measureDelta1⟩ := pair
    rw [rttMin, measureDelta1]
    refine ⟨⟨?_, ?_⟩, best.halfDifference_near⟩
    · obtain ⟨inSamples, counts⟩ := (memberIff best).mp bestMember
      exact ⟨best, inSamples, counts, best.roundTrip_eq.symm⟩
    · rintro delay ⟨taken, inSamples, counts, rfl⟩
      rw [← taken.roundTrip_eq]
      exact least _ (List.mem_map_of_mem ((memberIff taken).mpr ⟨inSamples, counts⟩))

end Utiputils.Clockdiff
