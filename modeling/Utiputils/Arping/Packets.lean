import Utiputils.Arping.Run

/-! # The packets of arping

The bytes of the packet that `build_arp_packet` makes, and the frames that `parse_arp_reply` takes for a reply. -/

namespace Utiputils.Arping

open Utiputils.Lib Utiputils.Pnet

/-! ## Writing -/

/-- A buffer of which the front has been written. -/
def filled (size : Nat) (front : Bytes) : Bytes := front ++ List.replicate (size - front.length) 0

theorem overwrite_filled {size : Nat} {front source : Bytes} (fits : front.length + source.length ≤ size) :
    overwrite (filled size front) front.length source = filled size (front ++ source) := by
  have room : size - front.length = source.length + (size - (front ++ source).length) := by
    rw [List.length_append]
    omega
  rw [filled, room, List.replicate_add, overwrite_append _ List.length_replicate, filled, List.append_assoc]

/-- A setter for the field behind those that have been written. -/
theorem fills {write : Bytes → Bytes} {least offset size : Nat} {source : Bytes}
    (law : ∀ buffer, least ≤ buffer.length → write buffer = overwrite buffer offset source) {front : Bytes}
    (behind : front.length = offset) (fits : offset + source.length ≤ size) (long : least ≤ size) :
    write (filled size front) = filled size (front ++ source) := by
  subst behind
  have length : (filled size front).length = size := by
    rw [filled, List.length_append, List.length_replicate]
    omega
  rw [law _ (length.symm ▸ long), overwrite_filled fits]

def ethernetHeader (dstMac srcMac : MacAddr) : Bytes := dstMac.octets ++ srcMac.octets ++ beBytes16 EtherTypes.Arp

def arpMessage (operation : UInt16) (srcMac targetHw : MacAddr) (srcIp dstIp : Ipv4Addr) : Bytes :=
  beBytes16 ArpHardwareTypes.Ethernet ++ beBytes16 EtherTypes.Ipv4 ++ [6] ++ [4] ++ beBytes16 operation ++
    srcMac.octets ++ srcIp.octets ++ targetHw.octets ++ dstIp.octets

section

variable {writer : ArpWriter} (writes : writer.WritesRfc826)
include writes

theorem written_ethernetHeader (dstMac srcMac : MacAddr) :
    writer.setEthertype (writer.setSource (writer.setDestination (filled 42 []) dstMac) srcMac) EtherTypes.Arp =
      filled 42 (ethernetHeader dstMac srcMac) := by
  have destination : writer.setDestination (filled 42 []) dstMac = filled 42 dstMac.octets :=
    fills (writes.setDestination · dstMac) List.length_nil (show 0 + 6 ≤ 42 by decide) (by decide)
  have source : writer.setSource (filled 42 dstMac.octets) srcMac = _ :=
    fills (writes.setSource · srcMac) rfl (show 6 + 6 ≤ 42 by decide) (by decide)
  rw [destination, source]
  exact fills (writes.setEthertype · EtherTypes.Arp) rfl (show 12 + 2 ≤ 42 by decide) (by decide)

/-- The fields that are the same in every message. -/
theorem written_arpTypes :
    writer.setProtoAddrLen (writer.setHwAddrLen (writer.setProtocolType (writer.setHardwareType (filled 28 [])
      ArpHardwareTypes.Ethernet) EtherTypes.Ipv4) 6) 4 =
      filled 28 (beBytes16 ArpHardwareTypes.Ethernet ++ beBytes16 EtherTypes.Ipv4 ++ [6] ++ [4]) := by
  have hardware : writer.setHardwareType (filled 28 []) ArpHardwareTypes.Ethernet = filled 28 (beBytes16 _) :=
    fills (writes.setHardwareType · ArpHardwareTypes.Ethernet) List.length_nil (by decide) le_rfl
  have protocol : writer.setProtocolType (filled 28 (beBytes16 ArpHardwareTypes.Ethernet)) EtherTypes.Ipv4 = _ :=
    fills (writes.setProtocolType · EtherTypes.Ipv4) rfl (by decide) le_rfl
  have hwAddrLen : writer.setHwAddrLen
      (filled 28 (beBytes16 ArpHardwareTypes.Ethernet ++ beBytes16 EtherTypes.Ipv4)) 6 = _ :=
    fills (writes.setHwAddrLen · 6) rfl (by decide) le_rfl
  rw [hardware, protocol, hwAddrLen]
  exact fills (writes.setProtoAddrLen · 4) rfl (by decide) le_rfl

theorem written_arpAddresses {front : Bytes} (behind : front.length = 8) (srcMac targetHw : MacAddr)
    (srcIp dstIp : Ipv4Addr) :
    writer.setTargetProtoAddr (writer.setTargetHwAddr (writer.setSenderProtoAddr (writer.setSenderHwAddr
      (filled 28 front) srcMac) srcIp) targetHw) dstIp =
      filled 28 (front ++ srcMac.octets ++ srcIp.octets ++ targetHw.octets ++ dstIp.octets) := by
  have length : ∀ {bytes field : Bytes} {offset size : Nat}, bytes.length = offset → field.length = size →
      (bytes ++ field).length = offset + size := fun same size => by rw [List.length_append, same, size]
  have senderHw : writer.setSenderHwAddr (filled 28 front) srcMac = _ :=
    fills (writes.setSenderHwAddr · srcMac) behind (show 8 + 6 ≤ 28 by decide) le_rfl
  have senderProto : writer.setSenderProtoAddr (filled 28 (front ++ srcMac.octets)) srcIp = _ :=
    fills (writes.setSenderProtoAddr · srcIp) (@length _ _ _ 6 behind rfl) (show 14 + 4 ≤ 28 by decide) le_rfl
  have targetHardware : writer.setTargetHwAddr (filled 28 (front ++ srcMac.octets ++ srcIp.octets)) targetHw = _ :=
    fills (writes.setTargetHwAddr · targetHw) (@length _ _ _ 4 (@length _ _ _ 6 behind rfl) rfl)
      (show 18 + 6 ≤ 28 by decide) le_rfl
  rw [senderHw, senderProto, targetHardware]
  exact fills (writes.setTargetProtoAddr · dstIp)
    (@length _ _ _ 6 (@length _ _ _ 4 (@length _ _ _ 6 behind rfl) rfl) rfl) (show 24 + 4 ≤ 28 by decide) le_rfl

theorem written_arpMessage (operation : UInt16) (srcMac targetHw : MacAddr) (srcIp dstIp : Ipv4Addr) :
    writer.setTargetProtoAddr (writer.setTargetHwAddr (writer.setSenderProtoAddr (writer.setSenderHwAddr
      (writer.setOperation (writer.setProtoAddrLen (writer.setHwAddrLen (writer.setProtocolType
        (writer.setHardwareType (List.replicate 28 0) ArpHardwareTypes.Ethernet) EtherTypes.Ipv4) 6) 4) operation)
      srcMac) srcIp) targetHw) dstIp = arpMessage operation srcMac targetHw srcIp dstIp := by
  have types := written_arpTypes writes
  have operated : writer.setOperation (filled 28
      (beBytes16 ArpHardwareTypes.Ethernet ++ beBytes16 EtherTypes.Ipv4 ++ [6] ++ [4])) operation = _ :=
    fills (writes.setOperation · operation) rfl (show 6 + 2 ≤ 28 by decide) le_rfl
  have addresses := @written_arpAddresses writer writes
    (beBytes16 ArpHardwareTypes.Ethernet ++ beBytes16 EtherTypes.Ipv4 ++ [6] ++ [4] ++ beBytes16 operation) rfl
    srcMac targetHw srcIp dstIp
  rw [← operated, ← types] at addresses
  exact addresses.trans (List.append_nil _)

/-- What `build_arp_packet` makes of its arguments. -/
theorem writeArpPacket_eq (operation : UInt16) (dstMac srcMac targetHw : MacAddr) (srcIp dstIp : Ipv4Addr) :
    writeArpPacket writer operation dstMac srcMac targetHw srcIp dstIp =
      some (ethernetHeader dstMac srcMac ++ arpMessage operation srcMac targetHw srcIp dstIp) := by
  have header := written_ethernetHeader writes dstMac srcMac
  have newEthernet : writer.newEthernet (List.replicate TOTAL_PACKET_LEN 0) = true := writes.newEthernet _
  have newArp : writer.newArp (List.replicate 28 0) = true := writes.newArp _
  have rest : (filled 42 (ethernetHeader dstMac srcMac)).drop 14 = List.replicate 28 0 := rfl
  simp only [writeArpPacket, newEthernet, if_true]
  rw [show List.replicate TOTAL_PACKET_LEN 0 = filled 42 [] from rfl, header, writes.mapPayload]
  · rw [rest, newArp, if_pos rfl, written_arpMessage writes]
    rfl
  · show 14 ≤ 42
    decide
  · rw [rest, newArp, if_pos rfl, written_arpMessage writes]
    rintro changed ⟨⟩
    rfl

end

/-! ## Reading -/

theorem byteAt_drop (bytes : Bytes) (count offset : Nat) :
    byteAt (bytes.drop count) offset = byteAt bytes (count + offset) := by
  simp [byteAt, List.getD_eq_getElem?_getD]

theorem u16At_drop (bytes : Bytes) (count offset : Nat) :
    u16At (bytes.drop count) offset = u16At bytes (count + offset) := by
  simp only [u16At, byteAt_drop, Nat.add_assoc]

theorem ipv4At_drop (bytes : Bytes) (count offset : Nat) :
    ipv4At (bytes.drop count) offset = ipv4At bytes (count + offset) := by
  simp only [ipv4At, byteAt_drop, Nat.add_assoc]

theorem macAt_drop (bytes : Bytes) (count offset : Nat) :
    macAt (bytes.drop count) offset = macAt bytes (count + offset) := by
  simp only [macAt, byteAt_drop, Nat.add_assoc]

/-- A frame with a reply of the target: an ARP message of operation 2 from the target's address. -/
def IsReply (targetIp : Ipv4Addr) (frame : Bytes) : Prop :=
  42 ≤ frame.length ∧ u16At frame 12 = EtherTypes.Arp ∧ u16At frame 20 = ArpOperations.Reply ∧
    ipv4At frame 28 = targetIp

instance (targetIp : Ipv4Addr) (frame : Bytes) : Decidable (IsReply targetIp frame) :=
  inferInstanceAs (Decidable (_ ∧ _))

/-- The frames that `parse_arp_reply` accepts, and the address it takes from them. -/
theorem parseArpReply_eq {reader : ArpReader} (reads : reader.ReadsRfc826) (packet : Bytes) (targetIp : Ipv4Addr) :
    parseArpReply reader packet targetIp = if IsReply targetIp packet then some (macAt packet 22) else none := by
  by_cases long : 14 ≤ packet.length
  · have length : 28 ≤ (packet.drop 14).length ↔ 42 ≤ packet.length := by
      rw [List.length_drop]
      omega
    -- the checks of the source one after the other, on the bytes of the frame
    have header : parseArpReply reader packet targetIp =
        if u16At packet 12 ≠ EtherTypes.Arp then none
        else if 42 ≤ packet.length then
          if u16At packet 20 ≠ ArpOperations.Reply then none
          else if ipv4At packet 28 ≠ targetIp then none
          else some (macAt packet 22)
        else none := by
      simp only [parseArpReply, reads.newEthernet, reads.ethertype packet long, reads.payload packet long,
        decide_eq_true long, if_true, reads.newArp, decide_eq_true_eq, length]
      by_cases message : 42 ≤ packet.length
      · have inside := length.mpr message
        simp only [if_pos message, reads.operation _ inside, reads.senderProtoAddr _ inside,
          reads.senderHwAddr _ inside, u16At_drop, ipv4At_drop, macAt_drop]
      · simp only [if_neg message]
    rw [header]
    by_cases arp : u16At packet 12 = EtherTypes.Arp
    · simp only [IsReply, arp, ne_eq, not_true, if_false, true_and, ite_not, ite_and]
    · simp only [IsReply, arp, ne_eq, not_false_eq_true, if_true, false_and, and_false, if_false]
  · have short : ¬ IsReply targetIp packet := fun reply => long (le_trans (by decide) reply.1)
    rw [if_neg short, parseArpReply, reads.newEthernet, decide_eq_false long]
    rfl

end Utiputils.Arping
