import Utiputils.Lib.OptionList
import Utiputils.Ping.Types

/-! # The record route of a reply

`parse_record_route_option`: a walk over the options of a reply that collects the recorded addresses, then
a comparison with the route of the reply before, and a report on the route. Of the configuration the
function changes `last_rr_raw`, which is passed in and returned here. -/

namespace Utiputils.Ping

open Utiputils.Lib Utiputils.Pnet

/-! ## The walk over the options -/

/-- What the first pass has found. -/
structure RouteScan where
  foundRr : Bool := false
  rrIps : List Ipv4Addr := []
  hasNop : Bool := false
  deriving DecidableEq, Repr

def isUnspecified (ip : Ipv4Addr) : Bool := ip.octets.all (· = 0)

/-- The address of a slot; `none` where reading it panics. -/
def ipAt (optionData : Bytes) (ipStart : Nat) : Option Ipv4Addr := do
  let ipBytes ← slice optionData ipStart (ipStart + 4)
  return ⟨← ipBytes[0]?, ← ipBytes[1]?, ← ipBytes[2]?, ← ipBytes[3]?⟩

/-- The loop over the slots; `optionEnd` is where the option ends. -/
def readSlots (optionData : Bytes) (dataStart optionEnd validIpCount : Nat) (rrIps : List Ipv4Addr) :
    Option (List Ipv4Addr) :=
  (List.range validIpCount).foldlM (fun rrIps i => do
    let ipStart := dataStart + i * 4
    if ipStart + 4 ≤ optionEnd then
      let ip ← ipAt optionData ipStart
      return if isUnspecified ip then rrIps else rrIps ++ [ip]
    else return rrIps) rrIps

/-- A complete Record Route option at a position. -/
def readRecordRoute (optionData : Bytes) (pos optionLength : Nat) (scan : RouteScan) : Option RouteScan :=
  if 3 ≤ optionLength then do
    let optionPointer := (← optionData[pos + 2]?).toNat
    let maxDataLen := optionLength - 3
    let filledLen := if 4 < optionPointer then min (optionPointer - 4) maxDataLen else 0
    let validIpCount := min (filledLen / 4) (maxDataLen / 4)
    let rrIps ← readSlots optionData (pos + 3) (pos + optionLength) validIpCount scan.rrIps
    return { scan with foundRr := true, rrIps }
  else return { scan with foundRr := true }

def scanOptionsFrom (optionData : Bytes) (pos : Nat) (scan : RouteScan) : Option RouteScan :=
  if pos < optionData.length then do
    let optionType ← optionData[pos]?
    -- a zero byte is passed over like a NOP, it does not end the list
    if optionType = 0 ∨ optionType = 1 then
      scanOptionsFrom optionData (pos + 1) { scan with hasNop := scan.hasNop || optionType = 1 }
    else if optionData.length ≤ pos + 1 then return scan
    else
      let optionLength := (← optionData[pos + 1]?).toNat
      if optionLength < 2 ∨ optionData.length < pos + optionLength then return scan
      else
        let scan ← if optionType = 7 then readRecordRoute optionData pos optionLength scan else pure scan
        scanOptionsFrom optionData (pos + optionLength) scan
  else return scan
termination_by optionData.length - pos

/-! ## The comparison and the report -/

/-- How the function ends: early, in the `(same route)` branch, or with a route to show. -/
inductive RouteReport where
  | nothing
  | sameRoute (hasNop : Bool)
  | route (hasNop : Bool) (rrIps : List Ipv4Addr)
  deriving DecidableEq, Repr

/-- The bytes that are compared from reply to reply, cut out at fixed offsets. -/
def currRaw (optionData : Bytes) : Option Bytes := do
  let optPointer := (← optionData[2]?).toNat
  let filledLen := if 4 < optPointer then min (optPointer - 4) (optionData.length - 3) else 0
  slice optionData 3 (3 + filledLen)

/-- The report, and the new `last_rr_raw`; `none` where an index or a slice panics. -/
def parseRecordRouteOption (optionData : Bytes) (config : PingConfig) (lastRrRaw : Bytes) :
    Option (RouteReport × Bytes) :=
  if optionData.isEmpty then return (.nothing, lastRrRaw)
  else do
    let scan ← scanOptionsFrom optionData 0 {}
    if ¬ scan.foundRr ∨ scan.rrIps.isEmpty then return (.nothing, lastRrRaw)
    else
      let currRaw ← currRaw optionData
      let sameRoute := if config.count.isSome ∧ lastRrRaw.isEmpty then false else lastRrRaw == currRaw
      if sameRoute then return (.sameRoute scan.hasNop, currRaw)
      else return (.route scan.hasNop scan.rrIps, currRaw)

/-! ## What the walk finds -/

/-- For the walk a zero byte stands alone, too. -/
def scanForm (type : UInt8) : OptionForm := if type = 0 ∨ type = 1 then .single else .long

theorem scanForm_eq_single {type : UInt8} : scanForm type = .single ↔ type = 0 ∨ type = 1 := by
  simp only [scanForm]
  split_ifs <;> simp_all

theorem scanForm_eq_long {type : UInt8} : scanForm type = .long ↔ ¬ (type = 0 ∨ type = 1) := by
  simp only [scanForm]
  split_ifs <;> simp_all

def nop : OptionItem scanForm := .single 1 rfl

def endOfList : OptionItem scanForm := .single 0 rfl

@[simp] theorem encode_nops (count : Nat) : OptionItem.encode (List.replicate count nop) = List.replicate count 1 :=
  OptionItem.encode_replicate_single ..

@[simp] theorem encode_endOfList (count : Nat) :
    OptionItem.encode (List.replicate count endOfList) = List.replicate count 0 :=
  OptionItem.encode_replicate_single ..

theorem replicate_others (count : Nat) {item : OptionItem scanForm} (other : item.type ≠ 7) :
    ∀ repeated ∈ List.replicate count item, repeated.type ≠ 7 :=
  fun _ member => List.eq_of_mem_replicate member ▸ other

/-- The addresses in a slot area; an incomplete last slot is none. -/
def slotsOf : Bytes → List Ipv4Addr
  | a :: b :: c :: d :: rest => ⟨a, b, c, d⟩ :: slotsOf rest
  | _ => []

/-- The addresses that the pointer says are recorded, without `0.0.0.0`. -/
def recordedIps (pointer : UInt8) (slots : Bytes) : List Ipv4Addr :=
  ((slotsOf slots).take (min (pointer.toNat - 4) slots.length / 4)).filter (! isUnspecified ·)

/-- What an option adds to the scan. -/
def RouteScan.option (scan : RouteScan) (data : Bytes) : RouteScan :=
  match data with
  | [] => { scan with foundRr := true }
  | pointer :: slots => { scan with foundRr := true, rrIps := scan.rrIps ++ recordedIps pointer slots }

def RouteScan.item (scan : RouteScan) : OptionItem scanForm → RouteScan
  | .single type _ => { scan with hasNop := scan.hasNop || type = 1 }
  | .long option => if option.type = 7 then scan.option option.data else scan

theorem ipAt_append (front : Bytes) (ip : Ipv4Addr) (rest : Bytes) :
    ipAt (front ++ (ip.octets ++ rest)) front.length = some ip := by
  have whole := slice_append front ip.octets rest
  rw [show ip.octets.length = 4 from rfl] at whole
  rw [ipAt, whole]
  rfl

theorem readSlots_succ (optionData : Bytes) {dataStart optionEnd : Nat} (inside : dataStart + 4 ≤ optionEnd)
    (validIpCount : Nat) (rrIps : List Ipv4Addr) :
    readSlots optionData dataStart optionEnd (validIpCount + 1) rrIps =
      (ipAt optionData dataStart).bind fun ip =>
        readSlots optionData (dataStart + 4) optionEnd validIpCount
          (if isUnspecified ip then rrIps else rrIps ++ [ip]) := by
  have shifted : ∀ i, dataStart + Nat.succ i * 4 = dataStart + 4 + i * 4 := fun i => by omega
  simp only [readSlots, List.range_succ_eq_map, List.foldlM_cons, List.foldlM_map, shifted, Nat.zero_mul,
    Nat.add_zero, inside, if_true, Option.bind_eq_bind, Option.bind_assoc, Option.pure_def, Option.bind_some]

/-- The loop over the slots, by induction on their number: the first slot is read, and the rest is the
same loop four bytes further on. -/
theorem readSlots_append (validIpCount : Nat) (front slots rest : Bytes) (inside : 4 * validIpCount ≤ slots.length)
    (rrIps : List Ipv4Addr) :
    readSlots (front ++ (slots ++ rest)) front.length (front.length + slots.length) validIpCount rrIps =
      some (rrIps ++ ((slotsOf slots).take validIpCount).filter (! isUnspecified ·)) := by
  induction validIpCount generalizing front slots rrIps with
  | zero => simp [readSlots]
  | succ validIpCount inductionHypothesis =>
    match slots with
    | a :: b :: c :: d :: slots =>
      have ip : ipAt (front ++ (a :: b :: c :: d :: slots ++ rest)) front.length = some ⟨a, b, c, d⟩ :=
        ipAt_append front ⟨a, b, c, d⟩ (slots ++ rest)
      simp only [List.length_cons] at inside ⊢
      rw [readSlots_succ _ (by omega), ip, Option.bind_some]
      have later := inductionHypothesis (front ++ [a, b, c, d]) slots (by omega)
        (if isUnspecified ⟨a, b, c, d⟩ then rrIps else rrIps ++ [⟨a, b, c, d⟩])
      simp only [List.append_assoc, List.cons_append, List.nil_append, List.length_append, List.length_cons,
        List.length_nil] at later
      rw [show front.length + (slots.length + 1 + 1 + 1 + 1) = front.length + 4 + slots.length by omega]
      refine later.trans ?_
      simp only [slotsOf, List.take_succ_cons, List.filter_cons]
      cases isUnspecified ⟨a, b, c, d⟩ <;> simp
    | [] | [_] | [_, _] | [_, _, _] => simp at inside <;> omega

theorem readRecordRoute_append (front data rest : Bytes) (type length : UInt8) (scan : RouteScan) :
    readRecordRoute (front ++ (type :: length :: data ++ rest)) front.length (data.length + 2) scan =
      some (scan.option data) := by
  cases data with
  | nil => rfl
  | cons pointer slots =>
    have pointerByte : (front ++ (type :: length :: pointer :: slots ++ rest))[front.length + 2]? = some pointer := by
      rw [getElem?_append_length_add]
      rfl
    have count : min ((if 4 < pointer.toNat then min (pointer.toNat - 4) (slots.length + 1 + 2 - 3) else 0) / 4)
        ((slots.length + 1 + 2 - 3) / 4) = min (pointer.toNat - 4) slots.length / 4 := by
      split <;> omega
    have slotsRead := readSlots_append (min (pointer.toNat - 4) slots.length / 4)
      (front ++ [type, length, pointer]) slots rest (by omega) scan.rrIps
    simp only [List.append_assoc, List.cons_append, List.nil_append, List.length_append, List.length_cons,
      List.length_nil] at slotsRead pointerByte
    rw [readRecordRoute, if_pos (by simp)]
    simp only [List.cons_append, List.length_cons, pointerByte, Option.bind_eq_bind, Option.bind_some, count]
    rw [show front.length + (slots.length + 1 + 2) = front.length + 3 + slots.length by omega, slotsRead]
    rfl

section

variable (front : Bytes) (scan : RouteScan)

theorem scanOptionsFrom_unreadable {tail : Bytes} (unreadable : OptionItem.Unreadable scanForm tail) :
    scanOptionsFrom (front ++ tail) front.length scan = some scan := by
  rw [scanOptionsFrom]
  cases unreadable with
  | empty => simp
  | stop type rest stops =>
    simp only [scanForm] at stops
    split at stops <;> cases stops
  | truncated type isLong => simp [scanForm_eq_long.mp isLong]
  | malformed type length rest isLong outside =>
    simp [scanForm_eq_long.mp isLong]
    -- the length is too small, or it reaches past the end
    omega

theorem scanOptionsFrom_item (item : OptionItem scanForm) (rest : Bytes) :
    scanOptionsFrom (front ++ (item.bytes ++ rest)) front.length scan =
      scanOptionsFrom (front ++ (item.bytes ++ rest)) (front.length + item.bytes.length) (scan.item item) := by
  cases item with
  | single type isSingle =>
    rw [OptionItem.bytes, scanOptionsFrom]
    simp [scanForm_eq_single.mp isSingle, RouteScan.item]
  | long option =>
    have size : option.size = option.data.length + 2 := rfl
    have route : readRecordRoute (front ++ (option.bytes ++ rest)) front.length option.size scan =
        some (scan.option option.data) := readRecordRoute_append front option.data rest option.type _ scan
    rw [OptionItem.bytes, scanOptionsFrom, option.length_at, if_pos (by omega)]
    simp only [option.type_at, option.size_at, Option.bind_eq_bind, Option.bind_some,
      scanForm_eq_long.mp option.isLong, if_false, option.toNat_size]
    rw [if_neg (by omega), if_neg (by omega)]
    simp only [route, RouteScan.item]
    split <;> rfl

end

/-- The walk folds over the items, and does not panic. -/
theorem scanOptionsFrom_encode (items : List (OptionItem scanForm)) {tail : Bytes}
    (unreadable : OptionItem.Unreadable scanForm tail) (front : Bytes) (scan : RouteScan) :
    scanOptionsFrom (front ++ (OptionItem.encode items ++ tail)) front.length scan =
      some (items.foldl RouteScan.item scan) := by
  induction items generalizing front scan with
  | nil => exact scanOptionsFrom_unreadable front scan unreadable
  | cons item items inductionHypothesis =>
    have later := inductionHypothesis (front ++ item.bytes) (scan.item item)
    rw [List.append_assoc, List.length_append] at later
    rw [OptionItem.encode_cons, List.append_assoc, scanOptionsFrom_item]
    exact later

/-! ## The function returns -/

/-- An address takes four bytes. -/
theorem four_le_of_recordedIps {pointer : UInt8} {slots : Bytes} (some : recordedIps pointer slots ≠ []) :
    4 ≤ slots.length := by
  match slots with
  | [] | [_] | [_, _] | [_, _, _] => simp [recordedIps, slotsOf] at some
  | _ :: _ :: _ :: _ :: rest => exact Nat.le_add_left 4 rest.length

theorem seven_le_length_encode (items : List (OptionItem scanForm)) (scan : RouteScan)
    (found : (items.foldl RouteScan.item scan).rrIps ≠ []) :
    scan.rrIps ≠ [] ∨ 7 ≤ (OptionItem.encode items).length := by
  induction items generalizing scan with
  | nil => exact .inl found
  | cons item items inductionHypothesis =>
    rw [OptionItem.encode_cons, List.length_append]
    -- what is found stood there before, in this option, or in one behind it
    rcases inductionHypothesis (scan.item item) found with here | later
    · cases item with
      | single type isSingle => exact .inl here
      | long option =>
        simp only [RouteScan.item] at here
        split at here
        next isRoute =>
          cases data : option.data with
          | nil => exact .inl (by simpa [RouteScan.option, data] using here)
          | cons pointer slots =>
            by_cases none : recordedIps pointer slots = []
            · exact .inl (by simpa [RouteScan.option, data, none] using here)
            · have long := four_le_of_recordedIps none
              refine .inr ?_
              rw [OptionItem.bytes, LongOption.length_bytes, LongOption.size, data, List.length_cons]
              omega
        next => exact .inl here
    · exact .inr (by omega)

theorem currRaw_isSome {optionData : Bytes} (long : 3 ≤ optionData.length) : (currRaw optionData).isSome := by
  have pointerByte : optionData[2]? = some optionData[2] := List.getElem?_eq_getElem long
  simp only [currRaw, pointerByte, Option.bind_eq_bind, Option.bind_some, slice]
  rw [if_pos (by split <;> omega)]
  rfl

theorem parseRecordRouteOption_isSome (optionData : Bytes) (config : PingConfig) (lastRrRaw : Bytes) :
    (parseRecordRouteOption optionData config lastRrRaw).isSome := by
  obtain ⟨items, tail, rfl, unreadable⟩ := OptionItem.exists_items scanForm optionData
  have scanned := scanOptionsFrom_encode items unreadable [] {}
  rw [parseRecordRouteOption]
  split
  next => rfl
  next =>
    rw [show scanOptionsFrom (OptionItem.encode items ++ tail) 0 {} = _ from scanned]
    simp only [Option.bind_eq_bind, Option.bind_some]
    split
    next => rfl
    next found =>
      -- the second pass reads behind the first three bytes, but only where the first has found an address
      rw [not_or, List.isEmpty_iff] at found
      have long := (seven_le_length_encode items {} found.2).resolve_left (by simp)
      obtain ⟨raw, cut⟩ := Option.isSome_iff_exists.mp
        (currRaw_isSome (show 3 ≤ (OptionItem.encode items ++ tail).length by rw [List.length_append]; omega))
      rw [cut, Option.bind_some]
      split <;> split <;> rfl

/-! ## The report on what the walk has found -/

/-- Without an address there is nothing to report. A route is reported as such or as the route of the reply before, which
it never is for the first reply with `-c`. -/
inductive RouteScan.Reported (scan : RouteScan) (config : PingConfig) (lastRrRaw : Bytes) :
    RouteReport → (rrRaw : Bytes) → Prop
  | nothing (none : scan.rrIps = []) : scan.Reported config lastRrRaw .nothing lastRrRaw
  | sameRoute (some : scan.rrIps ≠ []) (later : ¬ (config.count.isSome ∧ lastRrRaw = [])) :
    scan.Reported config lastRrRaw (.sameRoute scan.hasNop) lastRrRaw
  | route {rrRaw : Bytes} (some : scan.rrIps ≠ []) (other : lastRrRaw = rrRaw → config.count.isSome ∧ lastRrRaw = []) :
    scan.Reported config lastRrRaw (.route scan.hasNop scan.rrIps) rrRaw

/-- The walk finds this, and this is what the function reports, whichever route came before. -/
structure Finds (optionData : Bytes) (scan : RouteScan) : Prop where
  scanned : scanOptionsFrom optionData 0 {} = some scan
  reported : ∀ config lastRrRaw, ∃ report rrRaw,
    parseRecordRouteOption optionData config lastRrRaw = some (report, rrRaw) ∧
      scan.Reported config lastRrRaw report rrRaw

theorem foundRr_foldl (items : List (OptionItem scanForm)) (scan : RouteScan)
    (found : scan.rrIps ≠ [] → scan.foundRr = true) :
    (items.foldl RouteScan.item scan).rrIps ≠ [] → (items.foldl RouteScan.item scan).foundRr = true := by
  induction items generalizing scan with
  | nil => exact found
  | cons item items inductionHypothesis =>
    apply inductionHypothesis
    cases item with
    | single type isSingle => exact found
    | long option =>
      simp only [RouteScan.item]
      split
      next => cases option.data <;> exact fun _ => rfl
      next => exact found

theorem foundRr_of_scanned {optionData : Bytes} {scan : RouteScan}
    (scanned : scanOptionsFrom optionData 0 {} = some scan) (nonempty : scan.rrIps ≠ []) : scan.foundRr = true := by
  obtain ⟨items, tail, rfl, unreadable⟩ := OptionItem.exists_items scanForm optionData
  cases scanned.symm.trans (scanOptionsFrom_encode items unreadable [] {})
  exact foundRr_foldl items {} (fun none => absurd rfl none) nonempty

theorem finds_of_scanned {optionData : Bytes} {scan : RouteScan}
    (scanned : scanOptionsFrom optionData 0 {} = some scan) : Finds optionData scan where
  scanned
  reported config lastRrRaw := by
    obtain ⟨⟨report, rrRaw⟩, parsed⟩ :=
      Option.isSome_iff_exists.mp (parseRecordRouteOption_isSome optionData config lastRrRaw)
    refine ⟨report, rrRaw, parsed, ?_⟩
    rw [parseRecordRouteOption] at parsed
    split at parsed
    next empty =>
      rw [List.isEmpty_iff.mp empty, scanOptionsFrom] at scanned
      cases scanned
      cases parsed
      exact .nothing rfl
    next =>
      simp only [scanned, Option.bind_eq_bind, Option.bind_some] at parsed
      by_cases none : scan.rrIps = []
      · simp only [none, List.isEmpty_nil, or_true, ↓reduceIte, Option.pure_def, Option.some_inj] at parsed
        cases parsed
        exact .nothing none
      · have found := foundRr_of_scanned scanned none
        simp only [found, none, not_true_eq_false, List.isEmpty_iff, or_self, ↓reduceIte] at parsed
        obtain ⟨curr, -, parsed⟩ := Option.bind_eq_some_iff.mp parsed
        by_cases first : config.count.isSome ∧ lastRrRaw = []
        · simp only [first, and_self, ↓reduceIte, Bool.false_eq_true, Option.pure_def, Option.some_inj] at parsed
          cases parsed
          exact .route none fun _ => first
        · simp only [first, ↓reduceIte, beq_iff_eq] at parsed
          split at parsed
          next same =>
            cases parsed
            rw [← same]
            exact .sameRoute none first
          next differs =>
            cases parsed
            exact .route none fun same => absurd same differs

/-! ## A well-formed option -/

/-- A Record Route option: its slots, and how many of them routers have filled. -/
structure RecordRoute where
  slots : List Ipv4Addr
  recorded : Nat
  recorded_le : recorded ≤ slots.length
  length_lt : 3 + 4 * slots.length < 256
  pointer_lt : 4 + 4 * recorded < 256

namespace RecordRoute

variable (self : RecordRoute)

def pointer : UInt8 := UInt8.ofNat (4 + 4 * self.recorded)

def slotBytes : Bytes := self.slots.flatMap Ipv4Addr.octets

def bytes : Bytes := 7 :: UInt8.ofNat (3 + 4 * self.slots.length) :: self.pointer :: self.slotBytes

/-- The addresses of the route. -/
def ips : List Ipv4Addr := (self.slots.take self.recorded).filter (! isUnspecified ·)

theorem length_slotBytes : self.slotBytes.length = 4 * self.slots.length := by
  rw [slotBytes, List.length_flatMap, show Ipv4Addr.octets = fun ip => [ip.a, ip.b, ip.c, ip.d] from rfl]
  simp [Nat.mul_comm]

def option : LongOption scanForm where
  type := 7
  data := self.pointer :: self.slotBytes
  isLong := rfl
  short := by
    have bound := self.length_lt
    rw [List.length_cons, length_slotBytes]
    omega

theorem bytes_option : (OptionItem.long self.option).bytes = self.bytes := by
  simp only [option, OptionItem.bytes, LongOption.bytes, LongOption.size, List.length_cons, length_slotBytes, bytes]
  rw [show 4 * self.slots.length + 1 + 2 = 3 + 4 * self.slots.length by omega]

theorem recordedIps_slotBytes : recordedIps self.pointer self.slotBytes = self.ips := by
  have slots : ∀ slots : List Ipv4Addr, slotsOf (slots.flatMap Ipv4Addr.octets) = slots := fun slots => by
    induction slots with
    | nil => rfl
    | cons ip slots inductionHypothesis => exact congrArg _ inductionHypothesis
  have pointer : self.pointer.toNat = 4 + 4 * self.recorded := UInt8.toNat_ofNat_of_lt self.pointer_lt
  have filled := self.recorded_le
  rw [recordedIps, length_slotBytes, slotBytes, slots, pointer, ips]
  congr 2
  omega

theorem rrIps_option (scan : RouteScan) : (scan.option self.option.data).rrIps = scan.rrIps ++ self.ips := by
  rw [← recordedIps_slotBytes]
  rfl

end RecordRoute

/-- Items without a Record Route option can only add a NOP. -/
theorem foldl_others (items : List (OptionItem scanForm)) (others : ∀ item ∈ items, item.type ≠ 7)
    (scan : RouteScan) : ∃ hasNop, items.foldl RouteScan.item scan = { scan with hasNop } := by
  induction items generalizing scan with
  | nil => exact ⟨scan.hasNop, rfl⟩
  | cons item items inductionHypothesis =>
    rw [List.forall_mem_cons] at others
    obtain ⟨hasNop, same⟩ := inductionHypothesis others.2 (scan.item item)
    refine ⟨hasNop, same.trans ?_⟩
    cases item with
    | single type isSingle => rfl
    | long option =>
      have isOther : option.type ≠ 7 := others.1
      rw [RouteScan.item, if_neg isOther]

/-- With one Record Route option the walk finds what this option adds. -/
theorem foldl_route (before after : List (OptionItem scanForm)) (others : ∀ item ∈ before ++ after, item.type ≠ 7)
    (option : LongOption scanForm) (isRoute : option.type = 7) (scan : RouteScan) :
    ∃ hasNop, (before ++ .long option :: after).foldl RouteScan.item scan =
      { scan.option option.data with hasNop } := by
  rw [List.forall_mem_append] at others
  obtain ⟨nopBefore, first⟩ := foldl_others before others.1 scan
  rw [List.foldl_append, List.foldl_cons, first, RouteScan.item, if_pos isRoute]
  obtain ⟨nopAfter, last⟩ := foldl_others after others.2
    (({ scan with hasNop := nopBefore } : RouteScan).option option.data)
  refine ⟨nopAfter, last.trans ?_⟩
  cases option.data <;> rfl

/-- `parse_record_route_option` returns for every byte string and every configuration, and the addresses
that it collects from an option list with one Record Route option, and reports, are those of the route. -/
theorem parseRecordRouteOption_reads :
    (∀ (optionData : Bytes) (config : PingConfig) (lastRrRaw : Bytes),
      (parseRecordRouteOption optionData config lastRrRaw).isSome) ∧
    ∀ (before after : List (OptionItem scanForm)) (rr : RecordRoute) (padding : Nat),
      (∀ item ∈ before ++ after, item.type ≠ 7) →
        ∃ scan, Finds (OptionItem.encode before ++ rr.bytes ++ OptionItem.encode after ++ List.replicate padding 0)
            scan ∧
          scan.rrIps = rr.ips := by
  refine ⟨parseRecordRouteOption_isSome, fun before after rr padding others => ?_⟩
  -- the padding is a list of items, too
  have others' : ∀ item ∈ before ++ (after ++ List.replicate padding endOfList), item.type ≠ 7 := by
    rw [← List.append_assoc]
    exact List.forall_mem_append.mpr ⟨others, replicate_others padding (by decide)⟩
  obtain ⟨hasNop, folded⟩ := foldl_route before _ others' rr.option rfl {}
  have scanned := scanOptionsFrom_encode (before ++ .long rr.option :: (after ++ List.replicate padding endOfList))
    .empty [] {}
  rw [folded] at scanned
  simp only [OptionItem.encode_append, OptionItem.encode_cons, encode_endOfList, rr.bytes_option, List.append_nil,
    List.nil_append, List.length_nil] at scanned
  simp only [List.append_assoc]
  exact ⟨_, finds_of_scanned scanned, rr.rrIps_option {}⟩

/-- A NOP, a timestamp option, and the second of three slots not filled by a router that hides. -/
theorem parseRecordRouteOption_reads_hidden :
    ∃ scan, Finds ([1, 68, 4, 5, 0] ++ [7, 15, 12, 192, 0, 2, 1, 0, 0, 0, 0, 198, 51, 100, 1] ++ [1] ++ [0, 0])
        scan ∧
      scan.rrIps = [⟨192, 0, 2, 1⟩] :=
  parseRecordRouteOption_reads.2 [.single 1 rfl, .long ⟨68, [5, 0], rfl, by decide⟩] [.single 1 rfl]
    ⟨[⟨192, 0, 2, 1⟩, ⟨0, 0, 0, 0⟩, ⟨198, 51, 100, 1⟩], 2, by decide, by decide, by decide⟩ 2 (by decide)

end Utiputils.Ping
