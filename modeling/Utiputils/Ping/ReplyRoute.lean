import Utiputils.Ping.Receive
import Utiputils.Ping.RecordRoute

/-! # The route that a reply brings

The receivers put the options of a reply together from the views of an iterator, and every view shows the
rest of the options area. What `parse_record_route_option` walks over is therefore not the options area:
behind every NOP the options come once more. -/

namespace Utiputils.Ping

open Utiputils.Lib Utiputils.Pnet

/-! ## The views put together -/

theorem optionsFrom_cons (fuel : Nat) (kind : UInt8) (rest : Bytes) (size : Nat)
    (isSize : size = if UInt8.ofNat (kind.toNat % 32) = 0 ∨ UInt8.ofNat (kind.toNat % 32) = 1 then 1
      else max 2 (rest.headD 0).toNat) :
    (optionsFrom (fuel + 1) (kind :: rest)).flatMap (·.packet) =
      (kind :: rest) ++ (optionsFrom fuel ((kind :: rest).drop size)).flatMap (·.packet) := by
  rw [optionsFrom, List.flatMap_cons, isSize]

/-- The views of the padding are more padding. -/
theorem optionsFrom_zeros (fuel padding : Nat) :
    ∃ count, (optionsFrom fuel (List.replicate padding 0)).flatMap (·.packet) =
      OptionItem.encode (List.replicate count endOfList) := by
  simp only [encode_endOfList]
  induction fuel generalizing padding with
  | zero => exact ⟨0, rfl⟩
  | succ fuel inductionHypothesis =>
    cases padding with
    | zero => exact ⟨0, rfl⟩
    | succ padding =>
      obtain ⟨count, later⟩ := inductionHypothesis padding
      refine ⟨padding + 1 + count, ?_⟩
      rw [List.replicate_succ, optionsFrom_cons fuel 0 _ 1 rfl, List.drop_one, List.tail_cons, later,
        ← List.replicate_succ, List.replicate_append_replicate]

section

variable (rr : RecordRoute) (padding : Nat)

/-- An options area: NOPs, a Record Route option and padding. -/
def routeArea (nops : Nat) : Bytes := List.replicate nops 1 ++ (rr.bytes ++ List.replicate padding 0)

/-- One view, as the walk reads it. -/
def routeItems (nops : Nat) : List (OptionItem scanForm) :=
  List.replicate nops nop ++ .long rr.option :: List.replicate padding endOfList

theorem encode_routeItems (nops : Nat) :
    OptionItem.encode (routeItems rr padding nops) = routeArea rr padding nops := by
  rw [routeItems, OptionItem.encode_append, OptionItem.encode_cons, encode_nops, encode_endOfList, rr.bytes_option,
    routeArea]

theorem rrIps_routeItems (nops : Nat) (scan : RouteScan) :
    ((routeItems rr padding nops).foldl RouteScan.item scan).rrIps = scan.rrIps ++ rr.ips := by
  have others : ∀ item ∈ List.replicate nops nop ++ List.replicate padding endOfList, item.type ≠ 7 :=
    List.forall_mem_append.mpr ⟨replicate_others nops (by decide), replicate_others padding (by decide)⟩
  obtain ⟨hasNop, folded⟩ := foldl_route _ _ others rr.option rfl scan
  rw [routeItems, folded, ← rr.rrIps_option]

/-- The view of the option itself, and those of the padding. -/
theorem optionsFrom_route (fuel : Nat) :
    ∃ count, (optionsFrom (fuel + 1) (routeArea rr padding 0)).flatMap (·.packet) =
      OptionItem.encode (routeItems rr padding 0 ++ List.replicate count endOfList) := by
  obtain ⟨count, zeros⟩ := optionsFrom_zeros fuel padding
  have length : (UInt8.ofNat (3 + 4 * rr.slots.length)).toNat = 3 + 4 * rr.slots.length :=
    UInt8.toNat_ofNat_of_lt rr.length_lt
  have size : rr.bytes.length = max 2 (UInt8.ofNat (3 + 4 * rr.slots.length)).toNat := by
    rw [RecordRoute.bytes, List.length_cons, List.length_cons, List.length_cons, rr.length_slotBytes, length]
    omega
  refine ⟨count, ?_⟩
  rw [OptionItem.encode_append, encode_routeItems, ← zeros]
  have behind := optionsFrom_cons fuel 7 (rr.bytes.tail ++ List.replicate padding 0) rr.bytes.length
    (size.trans (if_neg (by decide)).symm)
  rw [show (7 : UInt8) :: (rr.bytes.tail ++ List.replicate padding 0) = rr.bytes ++ List.replicate padding 0 from rfl,
    List.drop_left] at behind
  exact behind

/-- The walk over the views finds the route once in the view of every NOP and once in its own. -/
theorem foldl_views (nops fuel : Nat) (enough : nops < fuel) :
    ∃ items : List (OptionItem scanForm),
      (optionsFrom fuel (routeArea rr padding nops)).flatMap (·.packet) = OptionItem.encode items ∧
        ∀ scan : RouteScan, (items.foldl RouteScan.item scan).rrIps =
          scan.rrIps ++ (List.replicate (nops + 1) rr.ips).flatten := by
  induction nops generalizing fuel with
  | zero =>
    obtain ⟨fuel, rfl⟩ := Nat.exists_eq_add_one_of_ne_zero (Nat.ne_zero_of_lt enough)
    obtain ⟨count, views⟩ := optionsFrom_route rr padding fuel
    refine ⟨_, views, fun scan => ?_⟩
    obtain ⟨hasNop, folded⟩ := foldl_others (List.replicate count endOfList) (replicate_others count (by decide))
      ((routeItems rr padding 0).foldl RouteScan.item scan)
    rw [List.foldl_append, folded]
    simp [rrIps_routeItems]
  | succ nops inductionHypothesis =>
    obtain ⟨fuel, rfl⟩ := Nat.exists_eq_add_one_of_ne_zero (Nat.ne_zero_of_lt enough)
    obtain ⟨items, views, folded⟩ := inductionHypothesis fuel (by omega)
    refine ⟨routeItems rr padding (nops + 1) ++ items, ?_, fun scan => ?_⟩
    · rw [OptionItem.encode_append, encode_routeItems, ← views]
      exact optionsFrom_cons fuel 1 _ 1 rfl
    · rw [List.foldl_append, folded, rrIps_routeItems,
        show List.replicate (nops + 1 + 1) rr.ips = rr.ips :: List.replicate (nops + 1) rr.ips from rfl,
        List.flatten_cons, List.append_assoc]

end

/-! ## A reply with a record route -/

theorem receiveIcmpReply_route {crate : Crate} (follows : crate.FollowsRfcs) (showsRest : crate.ipv4.ShowsRest)
    {identifier : UInt16} (datagram : Ipv4Datagram) (long : 8 ≤ datagram.message.length)
    (isReply : byteAt datagram.message 0 = IcmpTypes.EchoReply)
    (ours : u16At datagram.message 4 = identifier) (rr : RecordRoute) (nops padding : Nat)
    (area : datagram.header.drop 20 = routeArea rr padding nops) (rest : List RecvOutcome) :
    ∃ reply optionData scan, receiveIcmpReply crate identifier (datagram.outcome :: rest) =
        some { result := .ok reply, rest } ∧
      reply.ipOptions = some optionData ∧ Finds optionData scan ∧
      scan.rrIps = (List.replicate (nops + 1) rr.ips).flatten := by
  have headerLong := datagram.header_ge
  have headerEnd := datagram.headerLength_buffer
  have shown : optionsArea (datagram.bytes.take PACKET_SIZE) = routeArea rr padding nops := by
    rw [optionsArea, headerEnd, datagram.take_bytes, List.take_left, area]
  have notEmpty : (routeArea rr padding nops).isEmpty = false := by
    simp [routeArea, RecordRoute.bytes]
  have enough : nops < (routeArea rr padding nops).length := by
    simp only [routeArea, RecordRoute.bytes, List.length_append, List.length_replicate, List.length_cons]
    omega
  obtain ⟨items, views, folded⟩ := foldl_views rr padding nops _ enough
  refine ⟨_, OptionItem.encode items, items.foldl RouteScan.item {},
    receiveIcmpReply_reply follows datagram long isReply ours rest, ?_, ?_, folded {}⟩
  · have isLong : 20 ≤ headerLength (datagram.bytes.take PACKET_SIZE) := headerEnd ▸ headerLong
    simp only [rrOptionData, showsRest.optionsIsEmpty _ datagram.buffer_ge isLong,
      showsRest.optionsIter _ datagram.buffer_ge isLong, shown, notEmpty, views]
    rfl
  · have scanned := scanOptionsFrom_encode items .empty [] {}
    rw [List.append_nil] at scanned
    exact finds_of_scanned scanned

/-- The address list of a reply with a record route is the route, each address once, exactly if no NOP
precedes the option or no address is recorded. -/
theorem receiveIcmpReply_route_iff (crate : Crate) (follows : crate.FollowsRfcs)
    (showsRest : crate.ipv4.ShowsRest) (identifier : UInt16) (datagram : Ipv4Datagram)
    (long : 8 ≤ datagram.message.length) (isReply : byteAt datagram.message 0 = IcmpTypes.EchoReply)
    (ours : u16At datagram.message 4 = identifier) (rr : RecordRoute) (nops padding : Nat)
    (nonzero : ∀ ip ∈ rr.slots.take rr.recorded, isUnspecified ip = false)
    (area : datagram.header.drop 20 = routeArea rr padding nops) (rest : List RecvOutcome) :
    ∃ reply optionData scan, receiveIcmpReply crate identifier (datagram.outcome :: rest) =
        some { result := .ok reply, rest } ∧
      reply.ipOptions = some optionData ∧ Finds optionData scan ∧
      (scan.rrIps = rr.slots.take rr.recorded ↔ nops = 0 ∨ rr.recorded = 0) := by
  obtain ⟨reply, optionData, scan, received, options, finds, ips⟩ :=
    receiveIcmpReply_route follows showsRest datagram long isReply ours rr nops padding area rest
  refine ⟨reply, optionData, scan, received, options, finds, ?_⟩
  have route : rr.ips = rr.slots.take rr.recorded :=
    List.filter_eq_self.mpr fun ip member => by rw [nonzero ip member]; rfl
  have size : (rr.slots.take rr.recorded).length = rr.recorded := by
    rw [List.length_take, min_eq_left rr.recorded_le]
  rw [ips, route]
  constructor
  · intro same
    -- the lengths of the list and of its copies
    have lengths := congrArg List.length same
    rw [List.length_flatten, List.map_replicate, List.sum_replicate, size, smul_eq_mul] at lengths
    rw [Nat.add_mul, one_mul] at lengths
    exact Nat.mul_eq_zero.mp (by omega)
  · rintro (rfl | none)
    · simp
    · rw [none]
      simp

/-! ### The options that the tool itself asks for

One NOP and a Record Route option of nine slots; one router has filled the first. -/

def oneHop : RecordRoute where
  slots := ⟨192, 0, 2, 1⟩ :: List.replicate 8 ⟨0, 0, 0, 0⟩
  recorded := 1
  recorded_le := by decide
  length_lt := by decide
  pointer_lt := by decide

def routedReply : Ipv4Datagram where
  header := [0x4F, 0, 0, 68, 0, 0, 0, 0, 63, 1, 0, 0, 192, 0, 2, 1, 192, 0, 2, 2] ++ routeArea oneHop 0 1
  message := [0, 0, 0, 0, 0x12, 0x34, 0, 7]
  header_ge := by decide
  header_length := by decide
  total_length := by decide

theorem receiveIcmpReply_route_iff_oneHop :
    ∃ reply optionData scan, receiveIcmpReply .rfcs 0x1234 [routedReply.outcome] =
        some { result := .ok reply, rest := [] } ∧
      reply.ipOptions = some optionData ∧ Finds optionData scan ∧
      (scan.rrIps = oneHop.slots.take oneHop.recorded ↔ 1 = 0 ∨ oneHop.recorded = 0) :=
  receiveIcmpReply_route_iff .rfcs Crate.rfcs_follows Ipv4Reader.rfc791_showsRest 0x1234 routedReply (by decide)
    (by decide) (by decide) oneHop 1 0 (by decide) rfl []

/-- The one address is collected twice. -/
theorem receiveIcmpReply_oneHop_twice :
    ∃ reply optionData scan, receiveIcmpReply .rfcs 0x1234 [routedReply.outcome] =
        some { result := .ok reply, rest := [] } ∧
      reply.ipOptions = some optionData ∧ Finds optionData scan ∧
      scan.rrIps = [⟨192, 0, 2, 1⟩, ⟨192, 0, 2, 1⟩] ∧ ¬ scan.rrIps = oneHop.slots.take oneHop.recorded := by
  obtain ⟨reply, optionData, scan, received, options, finds, ips⟩ :=
    receiveIcmpReply_route Crate.rfcs_follows Ipv4Reader.rfc791_showsRest routedReply (by decide) (by decide)
      (show u16At routedReply.message 4 = 0x1234 by decide) oneHop 1 0 rfl []
  refine ⟨reply, optionData, scan, received, options, finds, ips, ?_⟩
  rw [ips]
  decide

end Utiputils.Ping
