import Utiputils.Lib.Text
import Utiputils.Ping.NodeInfo

/-! # The data of a node information reply

`parse_nodeinfo_reply` with its indices, and what it takes for the data. The nonce has eight bytes, but the function
looks for the data eight bytes behind the ICMPv6 header, in the middle of the nonce. -/

namespace Utiputils.Ping.Ping6Common

open Utiputils.Lib Utiputils.Pnet

def ICMPV6_NI_REPLY : UInt8 := 140

/-! ## The source's function -/

/-- A line of the report. -/
inductive NodeinfoLine where
  | nodeName (name : String)
  | binary (bytes : Nat)
  | ipv6Heading (bytes : Nat)
  | ipv6 (addr : Ipv6Addr)
  | ipv4Heading (bytes : Nat)
  | ipv4 (addr : Ipv4Addr)
  | unknown (qtype bytes : Nat)
  | noData

def NodeinfoLine.text (showIpv6 : Ipv6Addr → String) : NodeinfoLine → String
  | nodeName name => "Node name: " ++ name
  | binary bytes => "Node name: (binary data, " ++ toString bytes ++ " bytes)"
  | ipv6Heading bytes => "IPv6 addresses: " ++ toString bytes ++ " bytes of data"
  | ipv6 addr => "  " ++ showIpv6 addr
  | ipv4Heading bytes => "IPv4 addresses: " ++ toString bytes ++ " bytes of data"
  | ipv4 addr => "  " ++ showIpv4 addr
  | unknown qtype bytes => "Unknown nodeinfo data type: " ++ toString qtype ++ ", " ++ toString bytes ++ " bytes"
  | noData => "No data in nodeinfo reply"

/-- The body of the loop over `data.chunks(4)`; `none` where an index panics. -/
def ipv4Line (chunk : Bytes) : Option (List NodeinfoLine) :=
  if chunk.length = 4 then do
    return [.ipv4 ⟨← chunk[0]?, ← chunk[1]?, ← chunk[2]?, ← chunk[3]?⟩]
  else return []

def ipv6Line (chunk : Bytes) : Option (List NodeinfoLine) :=
  if whole : chunk.length = 16 then return [.ipv6 ⟨⟨chunk.toArray, whole⟩⟩] else return []

def dataLines (qtype : UInt16) (data : Bytes) : Option (List NodeinfoLine) :=
  match qtype.toNat with
  | 2 =>
    match String.fromUTF8? ⟨data.toArray⟩ with
    | some name => return [.nodeName (trimEndZeros name)]
    | none => return [.binary data.length]
  | 0 => do return .ipv6Heading data.length :: (← (data.toChunks 16).mapM ipv6Line).flatten
  | 1 => do return .ipv4Heading data.length :: (← (data.toChunks 4).mapM ipv4Line).flatten
  | _ => return [.unknown qtype.toNat data.length]

/-- Whether the packet is a real reply, and its report; `none` where an index or a slice panics. -/
def parseNodeinfoReply? (crate : Crate) (packet : Bytes) : Option (Bool × List NodeinfoLine) := do
  let packetType ← packet[0]?
  if packetType ≠ ICMPV6_NI_REPLY then return (false, [])
  else
    let payload := crate.icmpv6.payload packet
    if payload.length < 8 then return (false, [])
    else
      let qtype := be16 (← payload[0]?) (← payload[1]?)
      let _flags := be16 (← payload[2]?) (← payload[3]?)
      if 8 < payload.length then return (true, ← dataLines qtype (← slice payload 8 payload.length))
      else return (true, [.noData])

/-! ## The function returns -/

theorem mapM_ipv4Line (chunks : List Bytes) (showIpv6 : Ipv6Addr → String) :
    ∃ lines, chunks.mapM ipv4Line = some lines ∧
      lines.flatten.map (NodeinfoLine.text showIpv6) =
        (chunks.filterMap fun
          | [a, b, c, d] => some ⟨a, b, c, d⟩
          | _ => none).map fun addr => "  " ++ showIpv4 addr := by
  induction chunks with
  | nil => exact ⟨[], rfl, rfl⟩
  | cons chunk chunks inductionHypothesis =>
    obtain ⟨lines, mapped, same⟩ := inductionHypothesis
    match chunk with
    | [a, b, c, d] =>
      have line : ipv4Line [a, b, c, d] = some [.ipv4 ⟨a, b, c, d⟩] := rfl
      exact ⟨[.ipv4 ⟨a, b, c, d⟩] :: lines, by rw [List.mapM_cons, line, mapped]; rfl, congrArg (List.cons _) same⟩
    | [] | [_] | [_, _] | [_, _, _] =>
      exact ⟨[] :: lines, by rw [List.mapM_cons, mapped]; rfl, same⟩
    | a :: b :: c :: d :: e :: rest =>
      have line : ipv4Line (a :: b :: c :: d :: e :: rest) = some [] := by simp [ipv4Line]
      exact ⟨[] :: lines, by rw [List.mapM_cons, line, mapped]; rfl, same⟩

theorem mapM_ipv6Line (chunks : List Bytes) (showIpv6 : Ipv6Addr → String) :
    ∃ lines, chunks.mapM ipv6Line = some lines ∧
      lines.flatten.map (NodeinfoLine.text showIpv6) =
        (chunks.filterMap fun chunk => if whole : chunk.length = 16 then some (⟨⟨chunk.toArray, whole⟩⟩ : Ipv6Addr)
          else none).map fun addr => "  " ++ showIpv6 addr := by
  induction chunks with
  | nil => exact ⟨[], rfl, rfl⟩
  | cons chunk chunks inductionHypothesis =>
    obtain ⟨lines, mapped, same⟩ := inductionHypothesis
    by_cases whole : chunk.length = 16
    · have line : ipv6Line chunk = some [.ipv6 ⟨⟨chunk.toArray, whole⟩⟩] := dif_pos whole
      refine ⟨_, by rw [List.mapM_cons, line, mapped]; rfl, ?_⟩
      rw [List.filterMap_cons, dif_pos whole]
      exact congrArg (List.cons _) same
    · have line : ipv6Line chunk = some [] := dif_neg whole
      refine ⟨_, by rw [List.mapM_cons, line, mapped]; rfl, ?_⟩
      rw [List.filterMap_cons, dif_neg whole]
      exact same

theorem dataLines_eq (showIpv6 : Ipv6Addr → String) (qtype : UInt16) (data : Bytes) :
    ∃ lines, dataLines qtype data = some lines ∧
      lines.map (NodeinfoLine.text showIpv6) = nodeinfoLines showIpv6 qtype data := by
  unfold dataLines nodeinfoLines
  match qtype.toNat with
  | 0 =>
    obtain ⟨lines, mapped, same⟩ := mapM_ipv6Line (data.toChunks 16) showIpv6
    exact ⟨.ipv6Heading data.length :: lines.flatten, by rw [mapped]; rfl, congrArg (List.cons _) same⟩
  | 1 =>
    obtain ⟨lines, mapped, same⟩ := mapM_ipv4Line (data.toChunks 4) showIpv6
    exact ⟨.ipv4Heading data.length :: lines.flatten, by rw [mapped]; rfl, congrArg (List.cons _) same⟩
  | 2 =>
    cases String.fromUTF8? ⟨data.toArray⟩ with
    | some name => exact ⟨_, rfl, rfl⟩
    | none => exact ⟨_, rfl, rfl⟩
  | _ + 3 => exact ⟨_, rfl, rfl⟩

/-- On every packet that is not empty the function returns, and it prints what the loop of the tool prints. -/
theorem parseNodeinfoReply?_eq (crate : Crate) (showIpv6 : Ipv6Addr → String) {packet : Bytes} (some : packet ≠ []) :
    ∃ result, parseNodeinfoReply? crate packet = .some result ∧
      parseNodeinfoReply crate showIpv6 packet = (result.1, result.2.map (NodeinfoLine.text showIpv6)) := by
  obtain ⟨packetType, rest, rfl⟩ := List.exists_cons_of_ne_nil some
  have isFirst : byteAt (packetType :: rest) 0 = packetType := rfl
  unfold parseNodeinfoReply? parseNodeinfoReply
  simp only [List.getElem?_cons_zero, Option.bind_eq_bind, Option.bind_some, isFirst, ICMPV6_NI_REPLY]
  split
  next => exact ⟨_, rfl, rfl⟩
  next =>
    generalize crate.icmpv6.payload (packetType :: rest) = payload
    split
    next => exact ⟨_, rfl, rfl⟩
    next long =>
      -- the four bytes in front of the data are there
      match payload with
      | a :: b :: c :: d :: data =>
        have qtype : u16At (a :: b :: c :: d :: data) 0 = be16 a b := rfl
        simp only [List.getElem?_cons_zero, List.getElem?_cons_succ, Option.bind_some, qtype]
        split
        next more =>
          obtain ⟨lines, shown, same⟩ := dataLines_eq showIpv6 (be16 a b) ((a :: b :: c :: d :: data).drop 8)
          have cut : slice (a :: b :: c :: d :: data) 8 (a :: b :: c :: d :: data).length =
              .some ((a :: b :: c :: d :: data).drop 8) := by
            rw [slice, if_pos ⟨by omega, le_refl _⟩, List.take_of_length_le (by rw [List.length_drop])]
          refine ⟨(true, lines), ?_, by rw [← same]⟩
          rw [cut, Option.bind_some, shown]
          rfl
        next => exact ⟨_, rfl, rfl⟩
      | [] | [_] | [_, _] | [_, _, _] => simp at long

/-! ## A reply -/

/-- What is to be printed of the data of a reply: what the function prints of these bytes and no others. -/
def nodeinfoReport (qtype : UInt16) (data : Bytes) : Option (List NodeinfoLine) :=
  if data = [] then some [.noData] else dataLines qtype data

/-- What a node says of itself. -/
inductive NodeinfoData where
  | ipv6Addresses (addrs : List Ipv6Addr)
  | ipv4Addresses (addrs : List Ipv4Addr)
  | nodeName (name : String)

def ipv6Octets (addr : Ipv6Addr) : Bytes := addr.octets.toList

namespace NodeinfoData

def qtype : NodeinfoData → UInt16
  | ipv6Addresses _ => 0
  | ipv4Addresses _ => 1
  | nodeName _ => 2

def bytes : NodeinfoData → Bytes
  | ipv6Addresses addrs => addrs.flatMap ipv6Octets
  | ipv4Addresses addrs => addrs.flatMap Ipv4Addr.octets
  | nodeName name => textBytes name

/-- The whole report that shows it. -/
def report : NodeinfoData → List NodeinfoLine
  | ipv6Addresses addrs => .ipv6Heading (addrs.length * 16) :: addrs.map .ipv6
  | ipv4Addresses addrs => .ipv4Heading (addrs.length * 4) :: addrs.map .ipv4
  | nodeName name => [.nodeName (trimEndZeros name)]

end NodeinfoData

/-- The layout that a query and a reply share. -/
def nodeinfoMessage (packetType code : UInt8) (checksum qtype flags : UInt16) (nonce data : Bytes) : Bytes :=
  packetType :: code :: (beBytes16 checksum ++ beBytes16 qtype ++ beBytes16 flags ++ nonce ++ data)

theorem buildNodeinfoPacket_eq (nanos : Nat) (nodeinfoOpt : String) :
    buildNodeinfoPacket (some nanos) nodeinfoOpt =
      some (nodeinfoMessage ICMPV6_NI_QUERY 0 0 (qtypeOf nodeinfoOpt) 0
        (beBytes32 (UInt32.ofNat (nanos / 2 ^ 32)) ++ beBytes32 (UInt32.ofNat nanos)) (List.replicate 8 0)) := rfl

/-- A reply in the layout of the query, with any type of data and any bytes of it. -/
structure NodeinfoReply where
  code : UInt8
  checksum : UInt16
  qtype : UInt16
  flags : UInt16
  nonce : Bytes
  data : Bytes
  nonce_length : nonce.length = 8

namespace NodeinfoReply

variable (self : NodeinfoReply)

def bytes : Bytes :=
  nodeinfoMessage ICMPV6_NI_REPLY self.code self.checksum self.qtype self.flags self.nonce self.data

/-- The half of the nonce that is taken for data. -/
def misread : Bytes := self.nonce.drop 4

theorem length_misread : self.misread.length = 4 := by
  rw [misread, List.length_drop, self.nonce_length]

/-- The reader finds the payload behind the four bytes of the ICMPv6 header. -/
theorem parsed {crate : Crate} (payload : ∀ packet, 4 ≤ packet.length → crate.icmpv6.payload packet = packet.drop 4) :
    parseNodeinfoReply? crate self.bytes =
      (dataLines self.qtype (self.misread ++ self.data)).map fun lines => (true, lines) := by
  have length := self.length_misread
  -- the reader takes the nonce for four bytes long, and its rest for data
  have split : self.nonce = self.nonce.take 4 ++ self.misread := (List.take_append_drop 4 _).symm
  have size : (self.nonce.take 4).length = 4 := by
    rw [List.length_take, self.nonce_length]
    rfl
  have body : crate.icmpv6.payload self.bytes = beBytes16 self.qtype ++ (beBytes16 self.flags ++
      (self.nonce.take 4 ++ (self.misread ++ self.data))) := by
    rw [payload _ (by simp [bytes, nodeinfoMessage]), bytes, nodeinfoMessage, split]
    simp [beBytes16, size]
  have cut : slice (beBytes16 self.qtype ++ (beBytes16 self.flags ++
      (self.nonce.take 4 ++ (self.misread ++ self.data)))) 8 (8 + (self.misread ++ self.data).length) =
      some (self.misread ++ self.data) := by
    have whole := slice_append (beBytes16 self.qtype ++ (beBytes16 self.flags ++ self.nonce.take 4))
      (self.misread ++ self.data) []
    simpa only [List.length_append, length_beBytes16, size, List.append_nil, List.append_assoc] using whole
  have total : (beBytes16 self.qtype ++ (beBytes16 self.flags ++
      (self.nonce.take 4 ++ (self.misread ++ self.data)))).length = 8 + (self.misread ++ self.data).length := by
    simp only [List.length_append, length_beBytes16, size]
    omega
  rw [parseNodeinfoReply?, show self.bytes[0]? = some ICMPV6_NI_REPLY from rfl]
  simp only [Option.bind_eq_bind, Option.bind_some, ne_eq, not_true_eq_false, if_false, body, total, cut]
  have more : 8 < 8 + (self.misread ++ self.data).length := by
    rw [List.length_append]
    omega
  simp only [more, if_true]
  rw [if_neg (by omega)]
  show (dataLines (be16 _ _) _).bind _ = _
  rw [be16_beBytes16]
  cases dataLines self.qtype (self.misread ++ self.data) <;> rfl

/-- The whole report is that of the data. -/
def Interpreted (crate : Crate) : Prop :=
  ∃ lines, nodeinfoReport self.qtype self.data = some lines ∧ parseNodeinfoReply? crate self.bytes = some (true, lines)

/-- The second half of the nonce does no harm: it stands in front of a name, and there is nothing but zeros. -/
def Harmless : Prop := self.qtype = 2 ∧ self.data ≠ [] ∧ ∀ byte ∈ self.misread ++ self.data, byte = 0

end NodeinfoReply

section

variable {Record : Type} {write : Record → Bytes} {line : Bytes → Option (List NodeinfoLine)}
  {made : Record → NodeinfoLine}

theorem mapM_records (each : ∀ record, line (write record) = some [made record]) (records : List Record)
    {back : List Bytes} {lines : List (List NodeinfoLine)} (mapped : back.mapM line = some lines) :
    ((records.map write ++ back).mapM line).map List.flatten = some (records.map made ++ lines.flatten) := by
  suffices all : (records.map write ++ back).mapM line = some (records.map (fun record => [made record]) ++ lines) by
    rw [all, Option.map_some, List.flatten_append]
    rw [← List.flatMap_def, ← List.map_eq_flatMap]
  induction records with
  | nil => exact mapped
  | cons record records inductionHypothesis =>
    rw [List.map_cons, List.cons_append, List.mapM_cons, each, inductionHypothesis]
    rfl

end

theorem length_ipv6Octets (addr : Ipv6Addr) : (ipv6Octets addr).length = 16 := by simp [ipv6Octets]

theorem ipv6Line_octets (addr : Ipv6Addr) : ipv6Line (ipv6Octets addr) = some [.ipv6 addr] := by
  rw [ipv6Line, dif_pos (length_ipv6Octets addr)]
  obtain ⟨⟨octets, size⟩⟩ := addr
  simp [ipv6Octets]

/-! ## What the data says, and what is printed -/

theorem dataLines_ipv4 (addrs : List Ipv4Addr) :
    dataLines 1 (addrs.flatMap Ipv4Addr.octets) = some (.ipv4Heading (addrs.length * 4) :: addrs.map .ipv4) := by
  have each : ∀ addr : Ipv4Addr, ipv4Line addr.octets = some [.ipv4 addr] := fun _ => rfl
  have size : ∀ addr : Ipv4Addr, addr.octets.length = 4 := fun _ => rfl
  have chunks := toChunks_flatMap size (by decide) addrs []
  rw [List.append_nil] at chunks
  obtain ⟨rows, mapped, flat⟩ := Option.map_eq_some_iff.mp
    (mapM_records each addrs (show (List.toChunks 4 []).mapM ipv4Line = some [] from rfl))
  rw [List.flatten_nil, List.append_nil] at flat
  simp only [dataLines, show (1 : UInt16).toNat = 1 from rfl, chunks, mapped, Option.bind_eq_bind, Option.bind_some, flat,
    length_flatMap_uniform size]
  rfl

theorem dataLines_ipv6 (addrs : List Ipv6Addr) :
    dataLines 0 (addrs.flatMap ipv6Octets) = some (.ipv6Heading (addrs.length * 16) :: addrs.map .ipv6) := by
  have chunks := toChunks_flatMap length_ipv6Octets (by decide) addrs []
  rw [List.append_nil] at chunks
  obtain ⟨rows, mapped, flat⟩ := Option.map_eq_some_iff.mp
    (mapM_records ipv6Line_octets addrs (show (List.toChunks 16 []).mapM ipv6Line = some [] from rfl))
  rw [List.flatten_nil, List.append_nil] at flat
  simp only [dataLines, show (0 : UInt16).toNat = 0 from rfl, chunks, mapped, Option.bind_eq_bind, Option.bind_some, flat,
    length_flatMap_uniform length_ipv6Octets]
  rfl

theorem dataLines_nodeName (name : String) :
    dataLines 2 (textBytes name) = some [.nodeName (trimEndZeros name)] := by
  have decoded : String.fromUTF8? ⟨(textBytes name).toArray⟩ = some name := fromUTF8_eq_some.mpr rfl
  simp only [dataLines, show (2 : UInt16).toNat = 2 from rfl, decoded]
  rfl

/-- Of data that a node can say of itself, the report shows all of it and in its order. -/
theorem nodeinfoReport_eq (data : NodeinfoData) (some : data.bytes ≠ []) :
    nodeinfoReport data.qtype data.bytes = .some data.report := by
  rw [nodeinfoReport, if_neg some]
  cases data with
  | ipv6Addresses addrs => exact dataLines_ipv6 addrs
  | ipv4Addresses addrs => exact dataLines_ipv4 addrs
  | nodeName name => exact dataLines_nodeName name

theorem textBytes_trimEndZeros (name : String) :
    textBytes (trimEndZeros name) = (textBytes name).rdropWhile (· = 0) := by
  have trimmed : trimEndZeros name = String.ofList (name.toList.rdropWhile (· = '\x00')) := rfl
  rw [trimmed, textBytes_ofList, flatMap_rdropWhile, ← textBytes_eq]

/-- Zero bytes are valid UTF-8. -/
theorem decodes_zeros {bytes : Bytes} (zeros : ∀ byte ∈ bytes, byte = 0) :
    String.fromUTF8? ⟨bytes.toArray⟩ ≠ none := by
  have valid := fromUTF8_eq_some.mpr (textBytes_zeros bytes.length)
  rw [← List.eq_replicate_of_mem zeros] at valid
  rw [valid]
  exact Option.some_ne_none _

/-- Bytes in front of a name do not show only if there is nothing but zeros. -/
theorem dataLines_name_append_iff {front data : Bytes} (some : front ≠ []) :
    dataLines 2 (front ++ data) = dataLines 2 data ↔ ∀ byte ∈ front ++ data, byte = 0 := by
  have read : ∀ bytes, dataLines 2 bytes = match String.fromUTF8? ⟨bytes.toArray⟩ with
      | .some name => .some [.nodeName (trimEndZeros name)]
      | none => .some [.binary bytes.length] := fun _ => rfl
  rw [read, read]
  cases whole : String.fromUTF8? ⟨(front ++ data).toArray⟩ with
  | none =>
    refine iff_of_false (fun same => ?_) fun zeros => decodes_zeros zeros whole
    cases own : String.fromUTF8? ⟨data.toArray⟩ with
    | none =>
      rw [own] at same
      have counts := NodeinfoLine.binary.inj (List.cons.inj (Option.some.inj same)).1
      have longer := List.length_pos_of_ne_nil some
      rw [List.length_append] at counts
      omega
    | some name =>
      rw [own] at same
      cases Option.some.inj same
  | some text =>
    cases own : String.fromUTF8? ⟨data.toArray⟩ with
    | none =>
      refine iff_of_false (fun same => ?_) fun zeros =>
        decodes_zeros (fun byte member => zeros byte (List.mem_append_right _ member)) own
      cases Option.some.inj same
    | some name =>
      have trimmed := @rdropWhile_append_eq_iff _ (· = 0) front data some
      rw [← fromUTF8_eq_some.mp whole, ← fromUTF8_eq_some.mp own, ← textBytes_trimEndZeros, ← textBytes_trimEndZeros,
        textBytes_inj] at trimmed
      rw [← fromUTF8_eq_some.mp whole]
      constructor
      · intro same
        simpa using trimmed.mp (NodeinfoLine.nodeName.inj (List.cons.inj (Option.some.inj same)).1)
      · intro zeros
        simp only [trimmed.mpr (by simpa using zeros)]

/-- The line that says how many bytes of data there are. -/
def countLine (qtype : UInt16) (bytes : Nat) : NodeinfoLine :=
  match qtype.toNat with
  | 0 => .ipv6Heading bytes
  | 1 => .ipv4Heading bytes
  | other => .unknown other bytes

/-- For data of any type but a name the report starts with it. -/
theorem dataLines_counts {qtype : UInt16} (noName : qtype ≠ 2) (data : Bytes) :
    ∃ lines, dataLines qtype data = some (countLine qtype data.length :: lines) := by
  have number : qtype.toNat ≠ 2 := fun same => noName (UInt16.toNat_inj.mp same)
  unfold dataLines countLine
  match qtype.toNat, number with
  | 0, _ =>
    obtain ⟨lines, mapped, -⟩ := mapM_ipv6Line (data.toChunks 16) fun _ => ""
    exact ⟨lines.flatten, by rw [mapped]; rfl⟩
  | 1, _ =>
    obtain ⟨lines, mapped, -⟩ := mapM_ipv4Line (data.toChunks 4) fun _ => ""
    exact ⟨lines.flatten, by rw [mapped]; rfl⟩
  | _ + 3, _ => exact ⟨[], rfl⟩

theorem countLine_inj {qtype : UInt16} {bytes others : Nat} (same : countLine qtype bytes = countLine qtype others) :
    bytes = others := by
  unfold countLine at same
  split at same
  · exact NodeinfoLine.ipv6Heading.inj same
  · exact NodeinfoLine.ipv4Heading.inj same
  · exact (NodeinfoLine.unknown.inj same).2

theorem dataLines_append_ne {qtype : UInt16} (noName : qtype ≠ 2) {front : Bytes} (some : front ≠ []) (data : Bytes) :
    dataLines qtype (front ++ data) ≠ dataLines qtype data := by
  obtain ⟨lines, whole⟩ := dataLines_counts noName (front ++ data)
  obtain ⟨others, own⟩ := dataLines_counts noName data
  intro same
  rw [whole, own] at same
  have counts := countLine_inj (List.cons.inj (Option.some.inj same)).1
  have longer := List.length_pos_of_ne_nil some
  rw [List.length_append] at counts
  omega

namespace NodeinfoReply

variable {reply : NodeinfoReply} {crate : Crate}
  (payload : ∀ packet, 4 ≤ packet.length → crate.icmpv6.payload packet = packet.drop 4)
include payload

/-- What is printed is the report of the data with the half of the nonce in front of it. -/
theorem interpreted_iff_lines :
    reply.Interpreted crate ↔ nodeinfoReport reply.qtype reply.data = dataLines reply.qtype (reply.misread ++ reply.data)
      := by
  obtain ⟨lines, whole, -⟩ := dataLines_eq (fun _ => "") reply.qtype (reply.misread ++ reply.data)
  unfold Interpreted
  rw [reply.parsed payload, whole, Option.map_some]
  constructor
  · rintro ⟨own, isOwn, same⟩
    rw [isOwn, (Prod.mk.inj (Option.some.inj same)).2]
  · intro same
    exact ⟨lines, same, rfl⟩

theorem interpreted_iff_harmless : reply.Interpreted crate ↔ reply.Harmless := by
  have some : reply.misread ≠ [] := List.ne_nil_of_length_eq_add_one reply.length_misread
  rw [interpreted_iff_lines payload, nodeinfoReport, Harmless]
  by_cases empty : reply.data = []
  · rw [if_pos empty]
    refine iff_of_false (fun same => ?_) fun harmless => harmless.2.1 empty
    by_cases isName : reply.qtype = 2
    · rw [isName] at same
      simp only [dataLines, show (2 : UInt16).toNat = 2 from rfl] at same
      split at same <;> cases Option.some.inj same
    · obtain ⟨lines, whole⟩ := dataLines_counts isName (reply.misread ++ reply.data)
      rw [whole] at same
      have head := (List.cons.inj (Option.some.inj same)).1
      unfold countLine at head
      split at head <;> cases head
  · rw [if_neg empty, eq_comm]
    by_cases isName : reply.qtype = 2
    · rw [isName, dataLines_name_append_iff some]
      exact ⟨fun zeros => ⟨rfl, empty, zeros⟩, fun harmless => harmless.2.2⟩
    · exact iff_of_false (dataLines_append_ne isName some _) fun harmless => isName harmless.1

/-- The function returns on every packet with an ICMPv6 header. The report of data is what the data says, and a reply is
interpreted so only where the second half of the nonce does no harm. -/
theorem interpreted_iff :
    (∀ packet, 4 ≤ packet.length → (parseNodeinfoReply? crate packet).isSome) ∧
    (∀ data : NodeinfoData, data.bytes ≠ [] → nodeinfoReport data.qtype data.bytes = some data.report) ∧
      ∀ reply : NodeinfoReply, reply.Interpreted crate ↔ reply.Harmless := by
  refine ⟨fun packet header => ?_, nodeinfoReport_eq, fun reply => interpreted_iff_harmless payload⟩
  obtain ⟨result, returned, -⟩ := parseNodeinfoReply?_eq crate (fun _ => "")
    (List.ne_nil_of_length_pos (Nat.lt_of_lt_of_le (by decide) header))
  rw [returned]
  rfl

omit payload

/-- One IPv4 address behind the nonce 1, 2, …, 8. -/
def oneAddress : NodeinfoReply := ⟨0, 0, 1, 0, [1, 2, 3, 4, 5, 6, 7, 8], [192, 0, 2, 1], rfl⟩

theorem interpreted_iff_oneAddress : oneAddress.Interpreted .rfcs ↔ oneAddress.Harmless :=
  (@interpreted_iff .rfcs fun _ _ => rfl).2.2 oneAddress

/-- The address 5.6.7.8 is printed, which no node has. -/
theorem oneAddress_misread :
    parseNodeinfoReply? .rfcs oneAddress.bytes =
        some (true, [.ipv4Heading 8, .ipv4 ⟨5, 6, 7, 8⟩, .ipv4 ⟨192, 0, 2, 1⟩]) ∧
      nodeinfoReport oneAddress.qtype oneAddress.data = some [.ipv4Heading 4, .ipv4 ⟨192, 0, 2, 1⟩] ∧
      ¬ oneAddress.Interpreted .rfcs :=
  ⟨rfl, rfl, mt (interpreted_iff_harmless fun _ _ => rfl).mp fun harmless => absurd harmless.1 (by decide)⟩

end NodeinfoReply

end Utiputils.Ping.Ping6Common
