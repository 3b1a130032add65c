import Utiputils.Ping.RecordRoute

/-! # The `(same route)` branch

The comparison with the route of the reply before, over a whole sequence of replies. The bytes that are
compared are cut out at the offsets of an option that starts with the options area; behind NOPs the same
offsets cut out something else. -/

namespace Utiputils.Ping

open Utiputils.Lib Utiputils.Pnet

/-! ## Options areas with one Record Route option -/

/-- An options area whose only Record Route option stands behind NOPs alone. -/
structure RouteArea where
  nops : Nat
  pointer : UInt8
  slots : Bytes
  length_lt : slots.length + 3 < 256
  behind : Bytes
  alone : ∀ found, ¬ OptionItem.IsFirst scanForm 7 behind found

namespace RouteArea

variable (self : RouteArea)

def length : UInt8 := UInt8.ofNat (self.slots.length + 3)

def bytes : Bytes :=
  List.replicate self.nops 1 ++ 7 :: self.length :: self.pointer :: (self.slots ++ self.behind)

def ips : List Ipv4Addr := recordedIps self.pointer self.slots

/-- The bytes of the recorded addresses. -/
def recorded : Bytes := self.slots.take (4 * (min (self.pointer.toNat - 4) self.slots.length / 4))

/-- What the fixed offsets cut out: the recorded bytes if the option comes first, and behind one NOP the
pointer and all slots but the last two bytes. Behind two NOPs the type is taken for the pointer, behind
more of them a NOP. -/
def window : Bytes :=
  match self.nops with
  | 0 => (self.slots ++ self.behind).take (self.pointer.toNat - 4)
  | 1 => (self.pointer :: self.slots).take (self.slots.length - 1)
  | 2 => (self.length :: self.pointer :: self.slots).take 3
  | _ => []

/-- The latest area with a route. -/
def latest (areas : List RouteArea) : Option RouteArea :=
  areas.foldl (fun latest area => if area.ips = [] then latest else some area) none

theorem latest_concat (areas : List RouteArea) (area : RouteArea) :
    latest (areas ++ [area]) = if area.ips = [] then latest areas else some area := by
  simp [latest]

/-! ### What the function makes of an area -/

theorem scan_bytes : ∃ hasNop, scanOptionsFrom self.bytes 0 {} = some ⟨true, self.ips, hasNop⟩ := by
  obtain ⟨after, tail, split, unreadable⟩ := OptionItem.exists_items scanForm self.behind
  have others : ∀ item ∈ List.replicate self.nops nop ++ after, item.type ≠ 7 := by
    refine List.forall_mem_append.mpr ⟨replicate_others self.nops (by decide), fun item member isRoute => ?_⟩
    have none := self.alone
    simp only [split, OptionItem.isFirst_encode (show scanForm 7 = .long from rfl) after unreadable] at none
    have notFound := Option.map_eq_none_iff.mp (Option.eq_none_iff_forall_ne_some.mpr none)
    exact List.find?_eq_none.mp notFound item member (decide_eq_true isRoute)
  let option : LongOption scanForm := ⟨7, self.pointer :: self.slots, rfl, self.length_lt⟩
  have written : (OptionItem.long option).bytes = 7 :: self.length :: self.pointer :: self.slots := rfl
  obtain ⟨hasNop, folded⟩ := foldl_route _ after others option rfl {}
  have scanned := scanOptionsFrom_encode (List.replicate self.nops nop ++ .long option :: after) unreadable [] {}
  rw [folded] at scanned
  simp only [OptionItem.encode_append, OptionItem.encode_cons, encode_nops, written, List.nil_append,
    List.length_nil, List.append_assoc, List.cons_append, ← split] at scanned
  exact ⟨hasNop, scanned⟩

theorem currRaw_cons (first second pointer : UInt8) (rest : Bytes) :
    currRaw (first :: second :: pointer :: rest) = some (rest.take (pointer.toNat - 4)) := by
  simp only [currRaw, List.getElem?_cons_succ, List.getElem?_cons_zero, Option.bind_eq_bind, Option.bind_some, slice,
    List.length_cons, List.drop_succ_cons, List.drop_zero]
  have cut : ((3 + if 4 < pointer.toNat then min (pointer.toNat - 4) (rest.length + 1 + 1 + 1 - 3) else 0) - 3) =
      min (pointer.toNat - 4) rest.length := by
    split <;> omega
  rw [if_pos (by split <;> omega), cut, ← List.take_eq_take_min]

theorem currRaw_bytes (nonempty : self.ips ≠ []) : currRaw self.bytes = some self.window := by
  have long := four_le_of_recordedIps nonempty
  have length : self.length.toNat = self.slots.length + 3 := UInt8.toNat_ofNat_of_lt self.length_lt
  rw [bytes, window]
  match self.nops with
  | 0 => exact currRaw_cons 7 self.length self.pointer _
  | 1 =>
    refine (currRaw_cons 1 7 self.length _).trans ?_
    rw [length, show self.slots.length + 3 - 4 = self.slots.length - 1 by omega, ← List.cons_append,
      List.take_append_of_le_length (by rw [List.length_cons]; omega)]
    rfl
  | 2 =>
    refine (currRaw_cons 1 1 7 _).trans ?_
    rw [show (7 : UInt8).toNat - 4 = 3 from rfl, ← List.cons_append, ← List.cons_append,
      List.take_append_of_le_length (by simp only [List.length_cons]; omega)]
    rfl
  | nops + 3 => exact currRaw_cons 1 1 1 _

/-- One reply. -/
theorem parse_bytes (config : PingConfig) (lastRrRaw : Bytes) :
    ∃ hasNop, parseRecordRouteOption self.bytes config lastRrRaw = some (
      if self.ips = [] then (.nothing, lastRrRaw)
      else if lastRrRaw = self.window ∧ ¬ (config.count.isSome ∧ lastRrRaw = []) then
        (.sameRoute hasNop, self.window)
      else (.route hasNop self.ips, self.window)) := by
  obtain ⟨hasNop, scanned⟩ := self.scan_bytes
  refine ⟨hasNop, ?_⟩
  have notEmpty : ¬ self.bytes.isEmpty = true := by simp [bytes]
  rw [parseRecordRouteOption, if_neg notEmpty, scanned]
  simp only [Option.bind_eq_bind, Option.bind_some, not_true_eq_false, false_or, List.isEmpty_iff]
  by_cases nonempty : self.ips = []
  · simp only [nonempty, if_true, Option.pure_def]
  · simp only [nonempty, if_false, self.currRaw_bytes nonempty, Option.bind_some]
    by_cases first : config.count.isSome ∧ lastRrRaw = []
    · simp [first]
    · simp only [first, if_false, not_false_eq_true, and_true, beq_iff_eq]
      split <;> rfl

end RouteArea

/-! ## A sequence of replies -/

/-- `last_rr_raw` behind a sequence of replies. -/
def lastRrRawAfter (config : PingConfig) (replies : List Bytes) : Option Bytes :=
  replies.foldlM (fun lastRrRaw optionData => do
    let (_, lastRrRaw) ← parseRecordRouteOption optionData config lastRrRaw
    return lastRrRaw) []

/-- The `(same route)` branch is taken on a reply that comes behind a sequence of replies. -/
def TakesSameRoute (config : PingConfig) (before : List Bytes) (optionData : Bytes) : Prop :=
  ∃ lastRrRaw hasNop currRaw, lastRrRawAfter config before = some lastRrRaw ∧
    parseRecordRouteOption optionData config lastRrRaw = some (.sameRoute hasNop, currRaw)

open RouteArea

theorem lastRrRawAfter_areas (config : PingConfig) (areas : List RouteArea) :
    lastRrRawAfter config (areas.map (·.bytes)) = some (((latest areas).map (·.window)).getD []) := by
  induction areas using List.reverseRecOn with
  | nil => rfl
  | append_singleton before area inductionHypothesis =>
    have step : lastRrRawAfter config ((before ++ [area]).map (·.bytes)) =
        (lastRrRawAfter config (before.map (·.bytes))).bind fun lastRrRaw =>
          (parseRecordRouteOption area.bytes config lastRrRaw).map (·.2) := by
      simp only [lastRrRawAfter, List.map_append, List.map_cons, List.map_nil, List.foldlM_append, List.foldlM_cons,
        List.foldlM_nil, Option.bind_eq_bind, Option.pure_def, Option.bind_fun_some,
        Option.map_eq_bind]
      rfl
    rw [step, inductionHypothesis, Option.bind_some, latest_concat]
    obtain ⟨hasNop, parsed⟩ := area.parse_bytes config (((latest before).map (·.window)).getD [])
    rw [parsed, Option.map_some]
    split
    next => rfl
    next => split <;> rfl

/-- The windows of a reply and of the latest one with a route tell whether the routes are the same. The
first route is told from none, except by an empty window without `-c`. -/
def Told (config : PingConfig) : Option RouteArea → RouteArea → Prop
  | none, area => config.count.isSome ∨ area.window ≠ []
  | some earlier, area =>
    (earlier.window = area.window ∧ ¬ (config.count.isSome ∧ earlier.window = [])) ↔ earlier.recorded = area.recorded

theorem takesSameRoute_iff (config : PingConfig) (before : List RouteArea) (area : RouteArea)
    (nonempty : area.ips ≠ []) :
    TakesSameRoute config (before.map (·.bytes)) area.bytes ↔
      ((latest before).map (·.window)).getD [] = area.window ∧
        ¬ (config.count.isSome ∧ ((latest before).map (·.window)).getD [] = []) := by
  rw [TakesSameRoute, lastRrRawAfter_areas]
  generalize ((latest before).map (·.window)).getD [] = lastRrRaw
  obtain ⟨hasNop, parsed⟩ := area.parse_bytes config lastRrRaw
  rw [if_neg nonempty] at parsed
  by_cases same : lastRrRaw = area.window ∧ ¬ (config.count.isSome ∧ lastRrRaw = [])
  · rw [if_pos same] at parsed
    exact iff_of_true ⟨lastRrRaw, hasNop, area.window, rfl, parsed⟩ same
  · rw [if_neg same] at parsed
    refine iff_of_false ?_ same
    rintro ⟨_, _, _, found, branch⟩
    cases found
    cases parsed.symm.trans branch

theorem takesSameRoute_iff_told (config : PingConfig) (before : List RouteArea) (area : RouteArea)
    (nonempty : area.ips ≠ []) :
    (TakesSameRoute config (before.map (·.bytes)) area.bytes ↔
        ∃ earlier, latest before = some earlier ∧ earlier.recorded = area.recorded) ↔
      Told config (latest before) area := by
  rw [takesSameRoute_iff config before area nonempty]
  cases latest before with
  | none =>
    simp only [Option.map_none, Option.getD_none, and_true, reduceCtorEq, false_and, exists_false, iff_false, Told,
      not_and, not_not]
    rw [imp_iff_or_not, ne_comm]
  | some earlier => simp only [Option.map_some, Option.getD_some, Option.some_inj, exists_eq_left', Told]

/-- On every reply with a route of a sequence, the branch is taken exactly when the latest route was the
same, if and only if the compared windows tell every two routes in succession apart as their bytes do. -/
theorem sameRoute_iff_told (config : PingConfig) (areas : List RouteArea) :
    (∀ before area after, areas = before ++ area :: after → area.ips ≠ [] →
      (TakesSameRoute config (before.map (·.bytes)) area.bytes ↔
        ∃ earlier, latest before = some earlier ∧ earlier.recorded = area.recorded)) ↔
    ∀ before area after, areas = before ++ area :: after → area.ips ≠ [] → Told config (latest before) area := by
  constructor
  · intro exactly before area after split nonempty
    exact (takesSameRoute_iff_told config before area nonempty).mp (exactly before area after split nonempty)
  · intro told before area after split nonempty
    exact (takesSameRoute_iff_told config before area nonempty).mpr (told before area after split nonempty)

/-! ### The layouts that are told apart -/

theorem latest_mem {areas : List RouteArea} {area : RouteArea} (isLatest : latest areas = some area) :
    area ∈ areas ∧ area.ips ≠ [] := by
  induction areas using List.reverseRecOn with
  | nil => cases isLatest
  | append_singleton before last inductionHypothesis =>
    rw [latest_concat] at isLatest
    split at isLatest
    next =>
      obtain ⟨member, nonempty⟩ := inductionHypothesis isLatest
      exact ⟨List.mem_append_left _ member, nonempty⟩
    next nonempty =>
      cases isLatest
      exact ⟨List.mem_append_right _ List.mem_cons_self, nonempty⟩

theorem recorded_ne_nil {area : RouteArea} (nonempty : area.ips ≠ []) : area.recorded ≠ [] := by
  have long := four_le_of_recordedIps nonempty
  intro empty
  rw [recorded, List.take_eq_nil_iff] at empty
  rcases empty with none | none
  · have nothing : min (area.pointer.toNat - 4) area.slots.length / 4 = 0 := by omega
    exact nonempty (by simp [ips, recordedIps, nothing])
  · simp [none] at long

/-- The pointer is behind a slot of its own option. -/
def PointsInside (area : RouteArea) : Prop :=
  ∃ slot, area.pointer.toNat = 4 + 4 * slot ∧ 4 * slot ≤ area.slots.length

theorem recorded_of_pointsInside {area : RouteArea} (inside : PointsInside area) :
    area.recorded = area.slots.take (area.pointer.toNat - 4) := by
  obtain ⟨slot, pointer, inside⟩ := inside
  rw [recorded, pointer, Nat.add_sub_cancel_left, min_eq_left inside, Nat.mul_div_cancel_left _ (by decide)]

/-- Without NOPs every route is told. -/
theorem told_noNops (config : PingConfig) (before : List RouteArea) (area : RouteArea)
    (noNops : ∀ other ∈ area :: before, other.nops = 0 ∧ PointsInside other) (nonempty : area.ips ≠ []) :
    Told config (latest before) area := by
  have window : ∀ other ∈ area :: before, other.window = other.recorded := by
    intro other member
    obtain ⟨first, slot, pointer, inside⟩ := noNops other member
    rw [recorded_of_pointsInside (noNops other member).2]
    simp only [RouteArea.window, first, pointer, Nat.add_sub_cancel_left, List.take_append_of_le_length inside]
  cases isLatest : latest before with
  | none => exact .inr (window area List.mem_cons_self ▸ recorded_ne_nil nonempty)
  | some earlier =>
    obtain ⟨member, someRoute⟩ := latest_mem isLatest
    have notEmpty := recorded_ne_nil someRoute
    rw [Told, window area List.mem_cons_self, window earlier (List.mem_cons_of_mem _ member)]
    exact and_iff_left fun empty => notEmpty empty.2

/-- The layout that `set_record_route_option` asks for: one NOP and nine slots, zero from the pointer on. -/
structure AsRequested (area : RouteArea) : Prop where
  nops : area.nops = 1
  slots : area.slots.length = 36
  inside : PointsInside area
  unused : ∀ byte ∈ area.slots.drop (area.pointer.toNat - 4), byte = 0

/-- There two routes are told unless they fill all slots and differ in the last two bytes only. -/
theorem told_asRequested (config : PingConfig) (earlier area : RouteArea) (earlierLayout : AsRequested earlier)
    (layout : AsRequested area) :
    Told config (some earlier) area ↔
      (earlier.pointer = area.pointer → earlier.slots.take 34 = area.slots.take 34 →
        earlier.recorded = area.recorded) := by
  have window : ∀ {other : RouteArea}, AsRequested other → other.window = other.pointer :: other.slots.take 34 := by
    intro other requested
    simp only [RouteArea.window, requested.nops, requested.slots, List.take_succ_cons]
  -- the recorded bytes determine the pointer and, with the zeros behind them, all slots
  have determined : earlier.recorded = area.recorded →
      earlier.pointer = area.pointer ∧ earlier.slots.take 34 = area.slots.take 34 := by
    intro same
    rw [recorded_of_pointsInside earlierLayout.inside, recorded_of_pointsInside layout.inside] at same
    obtain ⟨earlierSlot, earlierPointer, earlierInside⟩ := earlierLayout.inside
    obtain ⟨slot, pointer, inside⟩ := layout.inside
    have size := congrArg List.length same
    rw [List.length_take, List.length_take] at size
    have pointers : earlier.pointer = area.pointer := UInt8.toNat_inj.mp (by omega)
    have zeros : earlier.slots.drop (earlier.pointer.toNat - 4) = area.slots.drop (area.pointer.toNat - 4) := by
      rw [List.eq_replicate_of_mem earlierLayout.unused, List.eq_replicate_of_mem layout.unused, List.length_drop,
        List.length_drop, earlierLayout.slots, layout.slots, pointers]
    have slots := congrArg₂ (· ++ ·) same zeros
    simp only [List.take_append_drop] at slots
    exact ⟨pointers, congrArg (List.take 34) slots⟩
  simp only [Told, window earlierLayout, window layout, List.cons.injEq, reduceCtorEq, and_false,
    not_false_eq_true, and_true]
  exact ⟨fun told pointers slots => told.mp ⟨pointers, slots⟩,
    fun apart => ⟨fun same => apart same.1 same.2, determined⟩⟩

/-! ### Two routes that are not told apart -/

/-- A route that fills the nine slots, in the layout of the request; the last address is the target's. -/
def fullRoute (last : UInt8) : RouteArea where
  nops := 1
  pointer := 40
  slots := (List.replicate 8 [192, 0, 2, 1]).flatten ++ [198, 51, 100, last]
  length_lt := by simp
  behind := []
  alone _ := OptionItem.not_isFirst_of_read_none rfl

/-- The second of two routes that end at different addresses is shown as `(same route)`. -/
theorem sameRoute_fullRoutes :
    ¬ ∀ before area after, [fullRoute 1, fullRoute 2] = before ++ area :: after → area.ips ≠ [] →
      (TakesSameRoute {} (before.map (·.bytes)) area.bytes ↔
        ∃ earlier, latest before = some earlier ∧ earlier.recorded = area.recorded) := by
  intro exactly
  have takes : TakesSameRoute {} ([fullRoute 1].map (·.bytes)) (fullRoute 2).bytes :=
    (takesSameRoute_iff {} [fullRoute 1] (fullRoute 2) (by decide)).mpr ⟨by decide, by decide⟩
  obtain ⟨earlier, isLatest, same⟩ := (exactly [fullRoute 1] (fullRoute 2) [] rfl (by decide)).mp takes
  have isFirst : latest [fullRoute 1] = some (fullRoute 1) := rfl
  cases isFirst.symm.trans isLatest
  exact absurd same (by decide)

end Utiputils.Ping
