import Utiputils.Arping.Verdict

/-! # A request and its reply

What `build_arp_packet` builds is brought to the addresses and readings it depends on, and read back with
`parse_arp_reply`: as it is, and as the host that was asked for returns it. -/

namespace Utiputils.Arping

open Utiputils.Lib Utiputils.Pnet Proc

/-! ## What is built -/

/-- What `should_broadcast` returns for a reading of the clock. -/
def expired (state : ArgState) (reading : Instant) : Bool :=
  match state.targetMac with
  | none => true
  | some _ => Duration.fromSecs 60 < reading - state.lastUpdate

/-- The world behind a call of `should_broadcast`, which reads the clock where there is a learned address. -/
def consulted (state : ArgState) (world : World) : World :=
  match state.targetMac with
  | none => world
  | some _ => { world with instants := world.instants.tail }

/-- The address that a probe is sent to, and asks for. -/
def chosenMac (state : ArgState) (broadcasts : Bool) : MacAddr :=
  if broadcasts then .broadcast else state.targetMac.getD .zero

theorem shouldBroadcast_apply (state : ArgState) (world : World) :
    shouldBroadcast state world = .done (expired state world.instants.head) (consulted state world) := by
  rw [shouldBroadcast, expired, consulted]
  cases state.targetMac with
  | none => rfl
  | some mac => rfl

/-- Where nothing has been learned the probe is broadcast: the `unwrap` has something to unwrap. -/
theorem dstMac_apply (state : ArgState) (world : World) :
    dstMac state world = .done (chosenMac state (expired state world.instants.head)) (consulted state world) := by
  simp only [dstMac, bind, shouldBroadcast_apply]
  cases broadcasts : expired state world.instants.head with
  | true => rfl
  | false =>
    cases learned : state.targetMac with
    | none => simp [expired, learned] at broadcasts
    | some mac =>
      simp only [chosenMac, learned]
      rfl

theorem targetHw_apply (state : ArgState) (world : World) :
    targetHw state world = .done (chosenMac state (expired state world.instants.head)) (consulted state world) := by
  simp only [targetHw, bind, shouldBroadcast_apply, chosenMac]
  cases expired state world.instants.head with
  | true => rfl
  | false => rfl

def operationOf (options : ArpingConfig) : UInt16 :=
  if options.arpAnswer then ArpOperations.Reply else ArpOperations.Request

/-- A frame with an ARP message, and what follows the message. -/
def arpFrame (dstMac srcMac targetHw : MacAddr) (operation : UInt16) (srcIp dstIp : Ipv4Addr) (padding : Bytes) :
    Bytes :=
  ethernetHeader dstMac srcMac ++ arpMessage operation srcMac targetHw srcIp dstIp ++ padding

theorem buildArpPacket_apply {crate : ArpingCrate} (follows : crate.FollowsRfcs) (options : ArpingConfig)
    (state : ArgState) (srcMac : MacAddr) (srcIp dstIp : Ipv4Addr) (world : World) :
    buildArpPacket crate options state srcMac srcIp dstIp world =
      .done (arpFrame (chosenMac state (expired state world.instants.head)) srcMac
          (chosenMac state (expired state (consulted state world).instants.head)) (operationOf options) srcIp dstIp [])
        (consulted state (consulted state world)) := by
  simp only [buildArpPacket, bind, dstMac_apply, targetHw_apply, writeArpPacket_eq follows.writer, arpFrame,
    List.append_nil]
  rfl

/-! ## What is read of it -/

section

variable (dstMac srcMac targetHw : MacAddr) (operation : UInt16) (srcIp dstIp : Ipv4Addr) (padding : Bytes)

theorem operation_arpFrame :
    u16At (arpFrame dstMac srcMac targetHw operation srcIp dstIp padding) 20 = operation :=
  be16_beBytes16 operation

theorem isReply_arpFrame (ip : Ipv4Addr) :
    IsReply ip (arpFrame dstMac srcMac targetHw operation srcIp dstIp padding) ↔
      operation = ArpOperations.Reply ∧ srcIp = ip := by
  have long : 42 ≤ (arpFrame dstMac srcMac targetHw operation srcIp dstIp padding).length := by
    rw [arpFrame, List.length_append]
    exact Nat.le_add_right 42 padding.length
  have ethertype : u16At (arpFrame dstMac srcMac targetHw operation srcIp dstIp padding) 12 = EtherTypes.Arp :=
    be16_beBytes16 EtherTypes.Arp
  have sender : ipv4At (arpFrame dstMac srcMac targetHw operation srcIp dstIp padding) 28 = srcIp := rfl
  rw [IsReply, operation_arpFrame, ethertype, sender]
  exact ⟨fun reply => reply.2.2, fun reply => ⟨long, rfl, reply⟩⟩

theorem parseArpReply_arpFrame {reader : ArpReader} (reads : reader.ReadsRfc826) (ip : Ipv4Addr) :
    parseArpReply reader (arpFrame dstMac srcMac targetHw operation srcIp dstIp padding) ip =
      if operation = ArpOperations.Reply ∧ srcIp = ip then some srcMac else none := by
  rw [parseArpReply_eq reads]
  simp only [isReply_arpFrame]
  rfl

end

/-! ## The host that is asked -/

/-- The answer of a host to a message, by RFC 826: a request for its own address comes back with sender and target
swapped, its hardware address filled in, and the operation of a reply. -/
def hostReply (hostMac : MacAddr) (hostIp : Ipv4Addr) (request : Bytes) : Option Bytes :=
  if u16At request 12 = EtherTypes.Arp ∧ u16At request 14 = ArpHardwareTypes.Ethernet ∧
      u16At request 16 = EtherTypes.Ipv4 ∧ byteAt request 18 = 6 ∧ byteAt request 19 = 4 ∧
      ipv4At request 38 = hostIp ∧ u16At request 20 = ArpOperations.Request then
    some (ethernetHeader (macAt request 22) hostMac ++ arpMessage ArpOperations.Reply hostMac (macAt request 22)
      (ipv4At request 38) (ipv4At request 28))
  else none

theorem hostReply_arpFrame (dstMac srcMac targetHw hostMac : MacAddr) (srcIp dstIp : Ipv4Addr) (padding : Bytes) :
    hostReply hostMac dstIp (arpFrame dstMac srcMac targetHw ArpOperations.Request srcIp dstIp padding) =
      some (arpFrame srcMac hostMac srcMac ArpOperations.Reply dstIp srcIp []) := by
  have hardware : macAt (arpFrame dstMac srcMac targetHw ArpOperations.Request srcIp dstIp padding) 22 = srcMac := rfl
  have sender : ipv4At (arpFrame dstMac srcMac targetHw ArpOperations.Request srcIp dstIp padding) 28 = srcIp := rfl
  have target : ipv4At (arpFrame dstMac srcMac targetHw ArpOperations.Request srcIp dstIp padding) 38 = dstIp := rfl
  rw [hostReply, hardware, sender, target, if_pos ⟨be16_beBytes16 EtherTypes.Arp,
    be16_beBytes16 ArpHardwareTypes.Ethernet, be16_beBytes16 EtherTypes.Ipv4, rfl, rfl, rfl,
    operation_arpFrame dstMac srcMac targetHw _ srcIp dstIp padding⟩, arpFrame, List.append_nil]

/-- The frames that `parse_arp_reply` accepts, with the address it takes from them; it takes what `build_arp_packet`
builds for an answer of the source, if it is one, and the answer of the host that is asked for one of that host. -/
theorem arp_exchange (crate : ArpingCrate) (follows : crate.FollowsRfcs) :
    (∀ frame ip mac, parseArpReply crate.reader frame ip = some mac ↔
      42 ≤ frame.length ∧ u16At frame 12 = 0x0806 ∧ u16At frame 20 = 2 ∧ ipv4At frame 28 = ip ∧
        macAt frame 22 = mac) ∧
    ∀ options state srcMac srcIp dstIp world, ∃ packet final,
      buildArpPacket crate options state srcMac srcIp dstIp world = .done packet final ∧
      (options.arpAnswer = true → parseArpReply crate.reader packet srcIp = some srcMac) ∧
      (options.arpAnswer = false → (∀ ip, parseArpReply crate.reader packet ip = none) ∧
        ∀ hostMac, ∃ reply, hostReply hostMac dstIp packet = some reply ∧
          ∀ padding, parseArpReply crate.reader (reply ++ padding) dstIp = some hostMac) := by
  refine ⟨fun frame ip mac => ?_, fun options state srcMac srcIp dstIp world => ?_⟩
  · rw [parseArpReply_eq follows.reader]
    constructor
    · intro parsed
      split at parsed
      next reply =>
        obtain ⟨long, ethertype, operation, sender⟩ := reply
        cases parsed
        exact ⟨long, ethertype, operation, sender, rfl⟩
      next => cases parsed
    · intro accepted
      obtain ⟨long, ethertype, operation, sender, hardware⟩ := accepted
      rw [if_pos ⟨long, ethertype, operation, sender⟩, hardware]
  · refine ⟨_, _, buildArpPacket_apply follows options state srcMac srcIp dstIp world, fun answers => ?_, fun asks => ?_⟩
    · rw [operationOf, if_pos answers, parseArpReply_arpFrame _ _ _ _ _ _ _ follows.reader, if_pos ⟨rfl, rfl⟩]
    · rw [operationOf, asks, if_neg Bool.false_ne_true]
      refine ⟨fun ip => ?_, fun hostMac => ⟨_, hostReply_arpFrame _ _ _ hostMac _ _ _, fun padding => ?_⟩⟩
      · rw [parseArpReply_arpFrame _ _ _ _ _ _ _ follows.reader]
        exact if_neg fun reply => absurd reply.1 (by decide)
      · have padded : arpFrame srcMac hostMac srcMac ArpOperations.Reply dstIp srcIp [] ++ padding =
            arpFrame srcMac hostMac srcMac ArpOperations.Reply dstIp srcIp padding := by
          rw [arpFrame, List.append_nil, arpFrame]
        rw [padded, parseArpReply_arpFrame _ _ _ _ _ _ _ follows.reader, if_pos ⟨rfl, rfl⟩]

/-- A reply of 10.0.0.2, and the probe of 10.0.0.2 that the host answers with a padded frame. -/
theorem arp_exchange_lan :
    parseArpReply ArpingCrate.rfcs.reader (replyFrom ⟨2, 0, 0, 0, 0, 2⟩) ⟨10, 0, 0, 2⟩ = some ⟨2, 0, 0, 0, 0, 2⟩ ∧
      ∃ packet final reply,
        buildArpPacket .rfcs {} { lastUpdate := 0 } ownMac ⟨10, 0, 0, 1⟩ ⟨10, 0, 0, 2⟩ (World.start (steadily [])) =
          .done packet final ∧
        hostReply ⟨2, 0, 0, 0, 0, 2⟩ ⟨10, 0, 0, 2⟩ packet = some reply ∧
        parseArpReply ArpingCrate.rfcs.reader (reply ++ List.replicate 18 0) ⟨10, 0, 0, 2⟩ =
          some ⟨2, 0, 0, 0, 0, 2⟩ := by
  obtain ⟨reads, builds⟩ := arp_exchange .rfcs ArpingCrate.rfcs_follows
  obtain ⟨packet, final, built, _, asks⟩ :=
    builds {} { lastUpdate := 0 } ownMac ⟨10, 0, 0, 1⟩ ⟨10, 0, 0, 2⟩ (World.start (steadily []))
  obtain ⟨reply, replied, parsed⟩ := (asks rfl).2 ⟨2, 0, 0, 0, 0, 2⟩
  exact ⟨(reads _ _ _).mpr (by decide), packet, final, reply, built, replied, parsed _⟩

end Utiputils.Arping
