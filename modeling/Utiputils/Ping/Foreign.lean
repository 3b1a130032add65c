import Utiputils.Lib.Interleaving
import Utiputils.Lib.Parallel
import Utiputils.Ping.Run

/-! # Messages of other sessions

A raw socket hands every ICMP message to every process. What the receive loops, and the sessions behind
them, make of the messages that belong to somebody else. -/

namespace Utiputils.Ping

open Utiputils.Lib Utiputils.Pnet Proc

/-! ## The messages -/

/-- The error message quotes an IPv4 datagram with an echo request of this session. The quoted datagram
starts behind the eight bytes of the ICMP header. -/
def QuotesRequest (identifier : UInt16) (message : Bytes) : Prop :=
  let quoted := message.drop 8
  let request := quoted.drop (headerLength quoted)
  20 ≤ headerLength quoted ∧ byteAt quoted 9 = IpNextHeaderProtocols.Icmp ∧ 8 ≤ request.length ∧
    byteAt request 0 = IcmpTypes.EchoRequest ∧ u16At request 4 = identifier

/-- The same for ICMPv6, which is next header 58, and the fixed IPv6 header. -/
def QuotesRequestV6 (identifier : UInt16) (message : Bytes) : Prop :=
  let quoted := message.drop 8
  let request := quoted.drop 40
  byteAt quoted 6 = 58 ∧ 8 ≤ request.length ∧ byteAt request 0 = Icmpv6Types.EchoRequest ∧
    u16At request 4 = identifier

/-- The error messages of RFC 1122: besides those that the loops know, source quench and redirect. -/
def errorMessages : List UInt8 := 4 :: 5 :: icmpErrors

/-- An ICMP message that does not concern the session. -/
structure ForeignMessage (identifier : UInt16) extends Ipv4Datagram where
  long : 8 ≤ message.length
  foreign : (byteAt message 0 = IcmpTypes.EchoReply ∧ u16At message 4 ≠ identifier) ∨
    (byteAt message 0 ∈ errorMessages ∧ ¬ QuotesRequest identifier message)

/-- An ICMPv6 message that does not concern the session; the errors are the types below 128. -/
structure ForeignMessageV6 (identifier : UInt16) where
  bytes : Bytes
  source : Ipv6Addr
  long : 8 ≤ bytes.length
  foreign : (byteAt bytes 0 = Icmpv6Types.EchoReply ∧ u16At bytes 4 ≠ identifier) ∨
    (byteAt bytes 0 < 128 ∧ ¬ QuotesRequestV6 identifier bytes)

def ForeignMessageV6.outcome {identifier : UInt16} (self : ForeignMessageV6 identifier) : RecvOutcome :=
  .ok { bytes := self.bytes, addr := some self.source }

/-- The text that the loops return for an error message. -/
def icmpErrorText (icmpType : UInt8) : Option String :=
  if icmpType = IcmpTypes.DestinationUnreachable then some "Destination unreachable"
  else if icmpType = IcmpTypes.TimeExceeded then some "Time exceeded"
  else if icmpType = IcmpTypes.ParameterProblem then some "Parameter problem"
  else none

def icmpv6ErrorText (icmpType : UInt8) : Option String :=
  if icmpType = Icmpv6Types.DestinationUnreachable then some "Destination unreachable"
  else if icmpType = Icmpv6Types.PacketTooBig then some "Packet too big"
  else if icmpType = Icmpv6Types.TimeExceeded then some "Time exceeded"
  else none

/-! ## The answers at which a loop returns -/

section

variable (crate : Crate) (identifier : UInt16)

def EndsWait : RecvOutcome → Prop
  | .error _ => True
  | .ok datagram =>
    let ipv4Packet := datagram.bytes.take PACKET_SIZE
    let icmpPacket := crate.ipv4.payload ipv4Packet
    let icmpType := crate.icmp.icmpType icmpPacket
    ¬ crate.ipv4.new ipv4Packet ∨ ¬ crate.icmp.new icmpPacket ∨
      (icmpType = IcmpTypes.EchoReply ∧
        (¬ crate.icmp.newEchoReply icmpPacket ∨ crate.icmp.identifier icmpPacket = identifier)) ∨
      icmpType ∈ icmpErrors

/-- The answer is an error of the socket with this text, or the error message that the text stands for. -/
def Reports (text : String) : RecvOutcome → Prop
  | .error e => e.message = text
  | .ok datagram =>
    let ipv4Packet := datagram.bytes.take PACKET_SIZE
    let icmpPacket := crate.ipv4.payload ipv4Packet
    crate.ipv4.new ipv4Packet ∧ crate.icmp.new icmpPacket ∧
      icmpErrorText (crate.icmp.icmpType icmpPacket) = some text

def EndsWaitV6 : RecvOutcome → Prop
  | .error e => e.kind ≠ .wouldBlock
  | .ok datagram =>
    let packet := datagram.bytes.take RECV_BUFFER_V6
    let ipv6Type := crate.icmpv6.icmpType packet
    ¬ crate.icmpv6.new packet ∨
      (ipv6Type = Icmpv6Types.EchoReply ∧
        (¬ crate.icmpv6.newEchoReply packet ∨ crate.icmpv6.identifier packet = identifier)) ∨
      ipv6Type ∈ icmpv6Errors

def ReportsV6 (text : String) : RecvOutcome → Prop
  | .error e => e.kind ≠ .wouldBlock ∧ e.message = text
  | .ok datagram =>
    let packet := datagram.bytes.take RECV_BUFFER_V6
    crate.icmpv6.new packet ∧ datagram.addr.isSome ∧ icmpv6ErrorText (crate.icmpv6.icmpType packet) = some text

end

/-- No foreign error message is read before the wait ends, unless it reports what the answer that ends the
wait without it reports too. -/
def Undisturbed {Foreign : Type} (ends : RecvOutcome → Prop) (reports : String → RecvOutcome → Prop)
    (arrival : Foreign → RecvOutcome) (errorText : Foreign → Option String)
    (merged : List (RecvOutcome ⊕ Foreign)) : Prop :=
  ∀ ahead foreign behind, merged = ahead ++ .inr foreign :: behind →
    (∀ answer ∈ arriving arrival ahead, ¬ ends answer) →
      ∀ text, errorText foreign = some text →
        ∃ passed answer rest, own behind = passed ++ answer :: rest ∧ (∀ other ∈ passed, ¬ ends other) ∧
          reports text answer

/-- Answer by answer, the calls of a receiver return at the same answers with the insertions and without, or at
errors with the same text; this for so many calls. -/
def UndisturbedCalls {Foreign : Type} (ends : RecvOutcome → Prop) [DecidablePred ends]
    (reports : String → RecvOutcome → Prop) (arrival : Foreign → RecvOutcome)
    (merged : List (RecvOutcome ⊕ Foreign)) (calls : Nat) : Prop :=
  List.Forall₂ (fun answer other => answer = other ∨ ∃ text, reports text answer ∧ reports text other)
    (((arriving arrival merged).filter fun answer => ends answer).take calls)
    (((own merged).filter fun answer => ends answer).take calls)

/-! ## Reading answer by answer -/

/-- The receiver passes over an answer, or it returns at it whatever is behind. -/
structure ReadsEach {Reply : Type} (receiver : List RecvOutcome → Option (Received Reply)) : Prop where
  nil : receiver [] = none
  cons : ∀ answer rest, receiver (answer :: rest) =
    match receiver [answer] with
    | none => receiver rest
    | some received => some { received with rest }

namespace ReadsEach

variable {Reply : Type} {receiver : List RecvOutcome → Option (Received Reply)} (reads : ReadsEach receiver)

/-- What the receiver returns at an answer; `none` where it passes over it. -/
def verdict (receiver : List RecvOutcome → Option (Received Reply)) (answer : RecvOutcome) :
    Option (Except String Reply) :=
  (receiver [answer]).map (·.result)

include reads

theorem result_eq (answers : List RecvOutcome) :
    (receiver answers).map (·.result) = answers.findSome? (verdict receiver) := by
  induction answers with
  | nil => rw [reads.nil]; rfl
  | cons answer rest inductionHypothesis =>
    rw [reads.cons, List.findSome?_cons, verdict, ← inductionHypothesis]
    cases receiver [answer] <;> rfl

/-- Answers that it passes over can be left out. -/
theorem filter (answers : List RecvOutcome) :
    receiver (answers.filter fun answer => (receiver [answer]).isSome) =
      (receiver answers).map fun received =>
        { received with rest := received.rest.filter fun answer => (receiver [answer]).isSome } := by
  induction answers with
  | nil => rw [List.filter_nil, reads.nil]; rfl
  | cons answer rest inductionHypothesis =>
    rw [reads.cons answer rest]
    cases stops : receiver [answer] with
    | none =>
      rw [List.filter_cons_of_neg (by rw [stops]; exact Bool.false_ne_true)]
      exact inductionHypothesis
    | some received =>
      rw [List.filter_cons_of_pos (by rw [stops]; rfl), reads.cons, stops]
      rfl

/-- Where verdicts are as `ends` and `reports` say, foreign messages do not change the result exactly when they
do not disturb the wait. -/
theorem result_arriving_eq_iff {Foreign : Type} {ends : RecvOutcome → Prop}
    {reports : String → RecvOutcome → Prop} {arrival : Foreign → RecvOutcome}
    {errorText : Foreign → Option String}
    (passes : ∀ answer, verdict receiver answer = none ↔ ¬ ends answer)
    (reported : ∀ foreign text, errorText foreign = some text → ∀ answer,
      verdict receiver answer = some (.error text) ↔ reports text answer)
    (foreignVerdict : ∀ foreign, verdict receiver (arrival foreign) = (errorText foreign).map .error)
    (merged : List (RecvOutcome ⊕ Foreign)) :
    (receiver (arriving arrival merged)).map (·.result) = (receiver (own merged)).map (·.result) ↔
      Undisturbed ends reports arrival errorText merged := by
  rw [reads.result_eq, reads.result_eq, findSome?_arriving_eq_iff, Undisturbed]
  refine forall_congr' fun ahead => forall_congr' fun foreign => forall_congr' fun behind =>
    imp_congr_right fun _ => imp_congr (by simp only [passes]) ?_
  rw [foreignVerdict]
  cases texts : errorText foreign with
  | none => simp
  | some text =>
    have first : some (.error text) = (own behind).findSome? (verdict receiver) ↔
        ∃ passed answer rest, own behind = passed ++ answer :: rest ∧ (∀ other ∈ passed, ¬ ends other) ∧
          reports text answer := by
      rw [eq_comm, List.findSome?_eq_some_iff]
      refine exists_congr fun passed => exists_congr fun answer => exists_congr fun rest =>
        and_congr_right fun _ => ?_
      rw [reported foreign text texts, and_comm]
      simp only [passes]
    simp only [Option.map_some, reduceCtorEq, false_or, first, Option.some.injEq, forall_eq']

end ReadsEach

/-! ## The two loops -/

section Loops

variable {crate : Crate} {identifier : UInt16}

theorem readsEach_receiveIcmpReply : ReadsEach (receiveIcmpReply crate identifier) where
  nil := rfl
  cons answer rest := by
    cases answer with
    | error e => rfl
    | ok datagram =>
      simp only [receiveIcmpReply]
      split_ifs <;> rfl

theorem verdict_eq_none_iff (answer : RecvOutcome) :
    ReadsEach.verdict (receiveIcmpReply crate identifier) answer = none ↔ ¬ EndsWait crate identifier answer := by
  rw [ReadsEach.verdict, Option.map_eq_none_iff]
  cases answer with
  | error e => simp [receiveIcmpReply, EndsWait]
  | ok datagram =>
    have notError : IcmpTypes.EchoReply ∉ icmpErrors := by decide
    simp only [receiveIcmpReply, EndsWait, icmpErrors, List.mem_cons, List.not_mem_nil, or_false] at notError ⊢
    split_ifs <;> simp_all

theorem icmpErrorText_mem {icmpType : UInt8} {text : String} (known : icmpErrorText icmpType = some text) :
    text ∈ PingImpl.icmpErrorTexts := by
  simp only [icmpErrorText] at known
  split_ifs at known <;> cases known <;> decide

theorem verdict_eq_error_iff {text : String} (known : text ∈ PingImpl.icmpErrorTexts) (answer : RecvOutcome) :
    ReadsEach.verdict (receiveIcmpReply crate identifier) answer = some (.error text) ↔
      Reports crate text answer := by
  cases answer with
  | error e => simp [ReadsEach.verdict, receiveIcmpReply, Reports]
  | ok datagram =>
    have others : "Invalid IPv4 packet" ≠ text ∧ "Invalid ICMP packet" ≠ text ∧ "Invalid Echo Reply packet" ≠ text :=
      ⟨fun same => absurd known (same ▸ by decide), fun same => absurd known (same ▸ by decide),
        fun same => absurd known (same ▸ by decide)⟩
    have noText : icmpErrorText IcmpTypes.EchoReply = none := by decide
    simp only [ReadsEach.verdict, receiveIcmpReply, Reports]
    split_ifs <;> simp_all [icmpErrorText]

theorem icmpErrorText_eq_none {icmpType : UInt8} (unknown : icmpErrorText icmpType = none) :
    icmpType ∉ icmpErrors := by
  simp only [icmpErrorText] at unknown
  split_ifs at unknown
  simp [icmpErrors, *]

/-- A message of another session is passed over, or it is taken for an error of this one. -/
theorem verdict_foreign (follows : crate.FollowsRfcs) (foreign : ForeignMessage identifier) :
    ReadsEach.verdict (receiveIcmpReply crate identifier) foreign.outcome =
      (icmpErrorText (byteAt foreign.message 0)).map .error := by
  cases known : icmpErrorText (byteAt foreign.message 0) with
  | none =>
    -- a message of an unknown type is passed over
    have passed : PassedOver IcmpTypes.EchoReply icmpErrors identifier foreign.message := by
      rcases foreign.foreign with reply | ⟨isError, -⟩
      · exact .inl ⟨foreign.long, reply⟩
      · have long := foreign.long
        refine .inr ⟨by omega, fun isReply => ?_, icmpErrorText_eq_none known⟩
        rw [isReply] at isError
        exact absurd isError (by decide)
    rw [ReadsEach.verdict, receiveIcmpReply_passedOver follows foreign.toIpv4Datagram passed]
    rfl
  | some text =>
    -- an error is reported without a look at the identifier
    have headerSize := foreign.header_le
    have payload := foreign.payload_eq follows
    have cutLong : 4 ≤ (foreign.message.take (PACKET_SIZE - foreign.header.length)).length := by
      have long := foreign.long
      rw [List.length_take, PACKET_SIZE]
      omega
    have newPacket := (follows.ipv4.new _).trans (decide_eq_true foreign.buffer_ge)
    have newMessage := (follows.icmp.new _).trans (decide_eq_true cutLong)
    have icmpType := follows.icmp.icmpType _ cutLong
    rw [byteAt_take (by rw [PACKET_SIZE]; omega)] at icmpType
    rw [← payload] at newMessage icmpType
    apply (verdict_eq_error_iff (icmpErrorText_mem known) _).mpr
    exact ⟨newPacket, newMessage, icmpType ▸ known⟩

variable {showIpv6 : Ipv6Addr → String}

theorem readsEach_receiveIcmpv6Reply : ReadsEach (receiveIcmpv6Reply crate showIpv6 identifier) where
  nil := rfl
  cons answer rest := by
    cases answer with
    | error e => cases kind : e.kind <;> simp only [receiveIcmpv6Reply, kind]
    | ok datagram =>
      simp only [receiveIcmpv6Reply]
      split_ifs <;> cases datagram.addr <;> rfl

theorem verdict_v6_eq_none_iff (answer : RecvOutcome) :
    ReadsEach.verdict (receiveIcmpv6Reply crate showIpv6 identifier) answer = none ↔
      ¬ EndsWaitV6 crate identifier answer := by
  rw [ReadsEach.verdict, Option.map_eq_none_iff]
  cases answer with
  | error e => cases kind : e.kind <;> simp [receiveIcmpv6Reply, EndsWaitV6, kind]
  | ok datagram =>
    have notError : Icmpv6Types.EchoReply ∉ icmpv6Errors := by decide
    simp only [receiveIcmpv6Reply, EndsWaitV6, icmpv6Errors, List.mem_cons, List.not_mem_nil, or_false]
      at notError ⊢
    split_ifs <;> cases datagram.addr <;> simp_all

theorem icmpv6ErrorText_mem {ipv6Type : UInt8} {text : String} (known : icmpv6ErrorText ipv6Type = some text) :
    text ∈ Ping6Common.icmpErrorTexts := by
  simp only [icmpv6ErrorText] at known
  split_ifs at known <;> cases known <;> decide

theorem icmpv6ErrorText_eq_none {ipv6Type : UInt8} (unknown : icmpv6ErrorText ipv6Type = none) :
    ipv6Type ∉ icmpv6Errors := by
  simp only [icmpv6ErrorText] at unknown
  split_ifs at unknown
  simp [icmpv6Errors, *]

theorem verdict_v6_eq_error_iff {text : String} (known : text ∈ Ping6Common.icmpErrorTexts)
    (answer : RecvOutcome) :
    ReadsEach.verdict (receiveIcmpv6Reply crate showIpv6 identifier) answer = some (.error text) ↔
      ReportsV6 crate text answer := by
  cases answer with
  | error e => cases kind : e.kind <;> simp [ReadsEach.verdict, receiveIcmpv6Reply, ReportsV6, kind]
  | ok datagram =>
    have others : "Invalid ICMPv6 packet" ≠ text ∧ "Invalid ICMPv6 Echo Reply packet" ≠ text ∧
        "Received packet from non-IPv6 address" ≠ text :=
      ⟨fun same => absurd known (same ▸ by decide), fun same => absurd known (same ▸ by decide),
        fun same => absurd known (same ▸ by decide)⟩
    have noText : icmpv6ErrorText Icmpv6Types.EchoReply = none := by decide
    simp only [ReadsEach.verdict, receiveIcmpv6Reply, ReportsV6]
    split_ifs <;> cases datagram.addr <;> simp_all [icmpv6ErrorText]

theorem verdict_foreignV6 (follows : crate.FollowsRfcs) (foreign : ForeignMessageV6 identifier) :
    ReadsEach.verdict (receiveIcmpv6Reply crate showIpv6 identifier) foreign.outcome =
      (icmpv6ErrorText (byteAt foreign.bytes 0)).map .error := by
  cases known : icmpv6ErrorText (byteAt foreign.bytes 0) with
  | none =>
    have passed : PassedOver Icmpv6Types.EchoReply icmpv6Errors identifier foreign.bytes := by
      rcases foreign.foreign with reply | ⟨isError, -⟩
      · exact .inl ⟨foreign.long, reply⟩
      · have long := foreign.long
        refine .inr ⟨by omega, fun isReply => ?_, icmpv6ErrorText_eq_none known⟩
        rw [isReply] at isError
        exact absurd isError (by decide)
    rw [ReadsEach.verdict, ForeignMessageV6.outcome, receiveIcmpv6Reply_passedOver follows _ passed]
    rfl
  | some text =>
    have cutLong : 4 ≤ (foreign.bytes.take RECV_BUFFER_V6).length := by
      have long := foreign.long
      rw [List.length_take, RECV_BUFFER_V6]
      omega
    have newPacket := (follows.icmpv6.new _).trans (decide_eq_true cutLong)
    have ipv6Type := follows.icmpv6.icmpType _ cutLong
    rw [byteAt_take (by decide)] at ipv6Type
    apply (verdict_v6_eq_error_iff (icmpv6ErrorText_mem known) _).mpr
    exact ⟨newPacket, rfl, ipv6Type ▸ known⟩

end Loops

/-! ## Sessions

Two sessions do the same as long as their receive calls return the same, call by call. -/

def isReceived : Event → Bool
  | .received _ => true
  | _ => false

/-- How many receive calls have returned. -/
def receiveCalls (log : List Record) : Nat := countEvents isReceived log

/-- A line that the receiver prints itself. -/
def isLine : Event → Bool
  | .printed (.line _) => true
  | _ => false

/-- The events of a log, some of them left out. -/
def shown (seen : Event → Bool) (log : List Record) : List Record := log.filter fun record => seen record.event

/-- The receiver returns the same at either answer, and prints the same if its lines are seen. -/
def SameCall {Reply : Type} (receiver : List RecvOutcome → Option (Received Reply)) (seen : Event → Bool)
    (answer other : RecvOutcome) : Prop :=
  ∀ first second, receiver [answer] = some first → receiver [other] = some second →
    first.result = second.result ∧ (first.printed = second.printed ∨ ∀ text, seen (.printed (.line text)) = false)

/-- The answers at which the receiver returns. -/
def callsOf {Reply : Type} (receiver : List RecvOutcome → Option (Received Reply)) (recvs : List RecvOutcome) :
    List RecvOutcome :=
  recvs.filter fun answer => (receiver [answer]).isSome

/-- The world with other answers to come and another log. -/
def World.facing (world : World) (recvs : List RecvOutcome) (log : List Record) : World := { world with recvs, log }

/-- Two worlds with the same to be seen in their logs, and with answers to come that agree for the calls that are
left. -/
def Aligned {Reply : Type} (receiver : List RecvOutcome → Option (Received Reply)) (seen : Event → Bool) (calls : Nat)
    (first second : World) : Prop :=
  ∃ recvs log, second = first.facing recvs log ∧ shown seen first.log = shown seen log ∧
    (callsOf receiver recvs).length ≤ (callsOf receiver first.recvs).length ∧
    List.Forall₂ (SameCall receiver seen) ((callsOf receiver first.recvs).take (calls - receiveCalls first.log))
      ((callsOf receiver recvs).take (calls - receiveCalls first.log))

/-- There have been more calls. -/
def Beyond (calls : Nat) (world : World) : Prop := calls < receiveCalls world.log

/-- The process does the same in aligned worlds, up to so many calls. -/
abbrev Unhindered {Reply : Type} (receiver : List RecvOutcome → Option (Received Reply)) (seen : Event → Bool)
    (calls : Nat) {Result : Type} (process : Proc World Result) : Prop :=
  Parallel (Aligned receiver seen calls) (Beyond calls) process

theorem shown_append (seen : Event → Bool) (log more : List Record) :
    shown seen (log ++ more) = shown seen log ++ shown seen more :=
  List.filter_append ..

theorem shown_all (log : List Record) : shown (fun _ => true) log = log := List.filter_true log

theorem receiveCalls_append (log more : List Record) :
    receiveCalls (log ++ more) = receiveCalls log + receiveCalls more :=
  List.countP_append ..

/-- Printing adds its records to the log. -/
theorem print_eq (outputs : List Output) (world : World) :
    outputs.foldl (fun world output => world.note (.printed output)) world =
      { world with log := world.log ++ outputs.map fun output => ⟨.printed output, world.status⟩ } := by
  induction outputs generalizing world with
  | nil => rw [List.map_nil, List.append_nil]; rfl
  | cons output outputs inductionHypothesis =>
    rw [List.foldl_cons, inductionHypothesis, List.map_cons, List.append_cons]
    rfl

theorem receiveCalls_printed (outputs : List Output) (status : PingStats) :
    receiveCalls (outputs.map fun output => ⟨.printed output, status⟩) = 0 := by
  rw [receiveCalls, countEvents, List.countP_map, List.countP_eq_zero]
  exact fun _ _ => Bool.false_ne_true

section

variable {Reply Result : Type} {receiver : List RecvOutcome → Option (Received Reply)} {seen : Event → Bool}
  {calls : Nat}

/-- An access that does not look at the answers to come or at the log, and does not receive. -/
theorem unhindered_modifyGet {change : World → Result × World} (new : World → List Record)
    (appends : ∀ world recvs log,
      change (world.facing recvs log) = ((change world).1, (change world).2.facing recvs (log ++ new world)))
    (silent : ∀ world, receiveCalls (new world) = 0) : Unhindered receiver seen calls (modifyGet change) := by
  have grown : ∀ world, (change world).2.log = world.log ++ new world ∧ (change world).2.recvs = world.recvs := by
    intro world
    have changed := appends world world.recvs world.log
    exact ⟨congrArg (·.2.log) changed, congrArg (·.2.recvs) changed⟩
  have counted : ∀ world, receiveCalls (change world).2.log = receiveCalls world.log := fun world => by
    rw [(grown world).1, receiveCalls_append, silent, Nat.add_zero]
  refine parallel_modifyGet (fun world beyond => ?_) (fun first second aligned => ?_) fun first second aligned => ?_
  · rw [Beyond, counted]
    exact beyond
  · obtain ⟨recvs, log, rfl, -⟩ := aligned
    rw [appends]
  · obtain ⟨recvs, log, rfl, same, fewer, agree⟩ := aligned
    rw [appends]
    refine ⟨recvs, log ++ new first, rfl, ?_, ?_, ?_⟩
    · rw [(grown first).1, shown_append, shown_append, same]
    · rw [(grown first).2]
      exact fewer
    · rw [counted, (grown first).2]
      exact agree

/-- The same without a value. -/
theorem unhindered_modify {change : World → World} (new : World → List Record)
    (appends : ∀ world recvs log,
      change (world.facing recvs log) = (change world).facing recvs (log ++ new world))
    (silent : ∀ world, receiveCalls (new world) = 0) : Unhindered receiver seen calls (modify change) :=
  @unhindered_modifyGet _ Unit _ _ _ (fun world => ((), change world)) new
    (fun world recvs log => congrArg (Prod.mk ()) (appends world recvs log)) silent

/-- An access that leaves no event. -/
theorem unhindered_quiet {change : World → Result × World}
    (appends : ∀ world recvs log,
      change (world.facing recvs log) = ((change world).1, (change world).2.facing recvs log)) :
    Unhindered receiver seen calls (modifyGet change) :=
  unhindered_modifyGet (fun _ => []) (fun world recvs log => by rw [List.append_nil, appends]) fun _ => rfl

theorem unhindered_print (outputs : List Output) : Unhindered receiver seen calls (print outputs) := by
  refine unhindered_modify (fun world => outputs.map fun output => ⟨.printed output, world.status⟩)
    (fun world recvs log => ?_) fun world => receiveCalls_printed outputs world.status
  rw [print_eq, print_eq]
  rfl

theorem unhindered_loopBoundary : Unhindered receiver seen calls loopBoundary :=
  unhindered_modify (fun world => [⟨.loopBoundary, world.status⟩]) (fun _ _ _ => rfl) fun _ => rfl

theorem unhindered_now : Unhindered receiver seen calls now := unhindered_quiet fun _ _ _ => rfl

theorem unhindered_isRunning : Unhindered receiver seen calls isRunning := unhindered_quiet fun _ _ _ => rfl

theorem unhindered_setReadTimeout : Unhindered receiver seen calls setReadTimeout := unhindered_quiet fun _ _ _ => rfl

theorem unhindered_stopRunning : Unhindered receiver seen calls stopRunning :=
  unhindered_modify (fun _ => []) (fun _ _ _ => by rw [List.append_nil]; rfl) fun _ => rfl

theorem unhindered_sendTo (packet : Bytes) : Unhindered receiver seen calls (sendTo packet) :=
  unhindered_modifyGet (fun world => [⟨.sendTo packet world.sendFailures.head, world.status⟩]) (fun _ _ _ => rfl)
    fun _ => rfl

theorem unhindered_setStartTime : Unhindered receiver seen calls setStartTime :=
  parallel_bind unhindered_now fun _ =>
    unhindered_modify (fun _ => []) (fun _ _ _ => by rw [List.append_nil]; rfl) fun _ => rfl

theorem unhindered_recordSentTime (seq : UInt16) : Unhindered receiver seen calls (recordSentTime seq) :=
  parallel_bind unhindered_now fun now =>
    unhindered_modify (fun world => [⟨.recordSentTime seq now, world.status.recordSentTime seq now⟩])
      (fun _ _ _ => rfl) fun _ => rfl

theorem unhindered_getSentTime (seq : UInt16) : Unhindered receiver seen calls (getSentTime seq) :=
  unhindered_modifyGet
    (fun world => [⟨.getSentTime seq (world.status.getSentTime seq).1, (world.status.getSentTime seq).2⟩])
    (fun _ _ _ => rfl) fun _ => rfl

theorem unhindered_update : Unhindered receiver seen calls update :=
  unhindered_modify (fun world => [⟨.update, world.status.update⟩]) (fun _ _ _ => rfl) fun _ => rfl

theorem unhindered_recordError : Unhindered receiver seen calls recordError :=
  unhindered_modify (fun world => [⟨.recordError, world.status.recordError⟩]) (fun _ _ _ => rfl) fun _ => rfl

/-! ### The receive calls -/

/-- A call returns at the first answer that ends its wait, and leaves what is behind it. -/
theorem ReadsEach.call (reads : ReadsEach receiver) (recvs : List RecvOutcome) :
    (callsOf receiver recvs = [] ∧ receiver recvs = none) ∨
      ∃ answer others received left, callsOf receiver recvs = answer :: others ∧ receiver [answer] = some received ∧
        receiver recvs = some { received with rest := left } ∧ callsOf receiver left = others := by
  induction recvs with
  | nil => exact .inl ⟨rfl, reads.nil⟩
  | cons answer rest inductionHypothesis =>
    rw [reads.cons answer rest]
    cases stops : receiver [answer] with
    | none =>
      have passed : callsOf receiver (answer :: rest) = callsOf receiver rest :=
        List.filter_cons_of_neg (by rw [stops]; exact Bool.false_ne_true)
      rw [passed]
      exact inductionHypothesis
    | some received =>
      exact .inr ⟨answer, callsOf receiver rest, received, rest,
        List.filter_cons_of_pos (by rw [stops]; rfl), stops, rfl, rfl⟩

/-- What a call adds to the log. -/
def calledRecords (sequence : Reply → UInt16) (received : Received Reply) (status : PingStats) : List Record :=
  (received.printed.map .line).map (fun output => ⟨.printed output, status⟩) ++
    [⟨.received (received.result.map sequence), status⟩]

theorem receiveCalls_called (sequence : Reply → UInt16) (received : Received Reply) (status : PingStats) :
    receiveCalls (calledRecords sequence received status) = 1 := by
  rw [calledRecords, receiveCalls_append, receiveCalls_printed]
  rfl

/-- Lines that are the same, or that are not seen, leave the same to be seen. -/
theorem shown_called (sequence : Reply → UInt16) {first second : Received Reply} (status : PingStats)
    (result : first.result = second.result)
    (lines : first.printed = second.printed ∨ ∀ text, seen (.printed (.line text)) = false) :
    shown seen (calledRecords sequence first status) = shown seen (calledRecords sequence second status) := by
  rcases lines with same | unseen
  · rw [calledRecords, calledRecords, result, same]
  · have hidden : ∀ texts : List String,
        shown seen ((texts.map Output.line).map fun output => ⟨.printed output, status⟩) = [] := by
      intro texts
      rw [shown, List.filter_eq_nil_iff]
      intro record member
      simp only [List.map_map, List.mem_map] at member
      obtain ⟨text, -, rfl⟩ := member
      exact Bool.eq_false_iff.mp (unseen text)
    rw [calledRecords, calledRecords, shown_append, shown_append, hidden, hidden, result]

/-- The world behind a call that returned. -/
theorem receive_done {sequence : Reply → UInt16} {received : Received Reply} {world : World}
    (returns : receiver world.recvs = some received) :
    receive receiver sequence world = .done received.result (world.facing received.rest
      (world.log ++ calledRecords sequence received world.status)) := by
  rw [receive_eq, returns]
  simp only [print_eq]
  rw [calledRecords, ← List.append_assoc]
  rfl

theorem receive_stopped {sequence : Reply → UInt16} {world : World} (blocks : receiver world.recvs = none) :
    receive receiver sequence world = .stopped world := by
  rw [receive_eq, blocks]

/-- Behind two calls that returned the same, the worlds are aligned for one call fewer. -/
theorem aligned_called (sequence : Reply → UInt16) {world : World} {recvs left left' : List RecvOutcome}
    {log : List Record} {received received' : Received Reply} {answer answer' : RecvOutcome} {more : Nat}
    (next : callsOf receiver world.recvs = answer :: callsOf receiver left)
    (next' : callsOf receiver recvs = answer' :: callsOf receiver left')
    (sameResult : received.result = received'.result)
    (sameLines : received.printed = received'.printed ∨ ∀ text, seen (.printed (.line text)) = false)
    (same : shown seen world.log = shown seen log)
    (fewer : (callsOf receiver recvs).length ≤ (callsOf receiver world.recvs).length)
    (isMore : calls - receiveCalls world.log = more.succ)
    (agree : List.Forall₂ (SameCall receiver seen) ((callsOf receiver left).take more)
      ((callsOf receiver left').take more)) :
    Aligned receiver seen calls (world.facing left (world.log ++ calledRecords sequence received world.status))
      (world.facing left' (log ++ calledRecords sequence received' world.status)) := by
  refine ⟨left', _, rfl, ?_, ?_, ?_⟩
  · show shown seen (_ ++ _) = shown seen (_ ++ _)
    rw [shown_append, shown_append, same, shown_called sequence world.status sameResult sameLines]
  · rw [next, next', List.length_cons, List.length_cons] at fewer
    exact Nat.le_of_succ_le_succ fewer
  · have oneFewer : calls - receiveCalls (world.log ++ calledRecords sequence received world.status) = more := by
      rw [receiveCalls_append, receiveCalls_called]
      omega
    show List.Forall₂ _ ((callsOf receiver left).take (calls - receiveCalls (world.log ++ _)))
      ((callsOf receiver left').take (calls - receiveCalls (world.log ++ _)))
    rw [oneFewer]
    exact agree

theorem unhindered_receive (reads : ReadsEach receiver) (sequence : Reply → UInt16) :
    Unhindered receiver seen calls (receive receiver sequence) where
  persists world beyond := by
    cases returns : receiver world.recvs with
    | none =>
      rw [receive_stopped returns]
      exact beyond
    | some received =>
      rw [receive_done returns]
      show calls < receiveCalls (_ ++ _)
      rw [receiveCalls_append]
      exact Nat.lt_add_right _ beyond
  paired := by
    rintro first _ ⟨recvs, log, rfl, same, fewer, agree⟩
    rcases reads.call first.recvs with ⟨none, blocks⟩ | ⟨answer, others, received, left, next, stops, returns, rest⟩
    · -- the second one has no more answers than the first one, so that it blocks as well
      have alsoNone : callsOf receiver recvs = [] := by
        rw [none, List.length_nil, Nat.le_zero] at fewer
        exact List.eq_nil_of_length_eq_zero fewer
      rcases reads.call recvs with ⟨-, blocks'⟩ | ⟨_, _, _, _, next, _⟩
      · rw [receive_stopped blocks, receive_stopped blocks']
        exact .inr ⟨recvs, log, rfl, same, fewer, agree⟩
      · rw [alsoNone] at next
        cases next
    · rw [receive_done returns]
      rcases Nat.lt_or_ge (receiveCalls first.log) calls with isLeft | spent
      · obtain ⟨more, isMore⟩ := Nat.exists_eq_succ_of_ne_zero (Nat.sub_ne_zero_of_lt isLeft)
        rw [isMore, next] at agree
        rcases reads.call recvs with ⟨none, -⟩ | ⟨answer', others', received', left', next', stops', returns', rest'⟩
        · rw [none] at agree
          cases agree
        · rw [next', List.take_succ_cons, List.take_succ_cons, List.forall₂_cons] at agree
          obtain ⟨sameResult, sameLines⟩ := agree.1 received received' stops stops'
          rw [receive_done returns']
          subst rest rest'
          exact .inr ⟨sameResult, aligned_called sequence next next' sameResult sameLines same fewer isMore agree.2⟩
      · -- all the calls have been made
        refine .inl ?_
        show calls < receiveCalls (_ ++ _)
        rw [receiveCalls_append, receiveCalls_called]
        omega

/-! ### The steps of a session -/

/-- A look at a world that does not see its answers to come or its log. -/
theorem unhindered_get_bind {next : World → Proc World Result}
    (unseen : ∀ world recvs log, next (World.facing world recvs log) = next world)
    (parallel : ∀ world, Unhindered receiver seen calls (next world)) :
    Unhindered receiver seen calls (get >>= next) := by
  refine parallel_get_bind (fun first second aligned => ?_) parallel
  obtain ⟨recvs, log, rfl, -⟩ := aligned
  exact (unseen first recvs log).symm

theorem unhindered_connect (pgConfig : PingConfig) : Unhindered receiver seen calls (connect pgConfig) := by
  rw [connect]
  split
  · exact unhindered_quiet fun _ _ _ => rfl
  · exact parallel_pure

theorem unhindered_printSummary : Unhindered receiver seen calls printSummary := by
  refine unhindered_get_bind (fun _ _ _ => rfl) fun world =>
    parallel_bind (unhindered_modify (fun after => [⟨.summary world.status.summary, after.status⟩]) (fun _ _ _ => rfl)
      fun _ => rfl) fun _ => ?_
  split
  · exact parallel_pure
  · exact parallel_stop

theorem unhindered_timeoutOrCountExit (pgConfig : PingConfig) :
    Unhindered receiver seen calls (timeoutOrCountExit pgConfig) := by
  have stopped : Unhindered receiver seen calls (do stopRunning; pure true) :=
    parallel_bind unhindered_stopRunning fun _ => parallel_pure
  refine unhindered_get_bind (fun _ _ _ => rfl) fun world => ?_
  split
  · exact stopped
  · split
    · refine parallel_bind unhindered_now fun now => ?_
      split
      · exact stopped
      · exact parallel_pure
    · exact parallel_pure

theorem unhindered_sendRequest (platform : Platform) (pgConfig : PingConfig)
    (build : IcmpEchoRequest → Option Bytes) (seq : UInt16) :
    Unhindered receiver seen calls (sendRequest platform pgConfig build seq) := by
  have clock : Unhindered receiver seen calls systemTime := unhindered_quiet fun _ _ _ => rfl
  refine parallel_bind clock fun systemTime => ?_
  cases build (.new platform systemTime seq pgConfig.identifier pgConfig.packetSize) with
  | none => exact parallel_stop
  | some packet => exact parallel_bind (unhindered_recordSentTime seq) fun _ => unhindered_sendTo packet

theorem unhindered_countReply (seq : UInt16) (before after : Duration → List Output) :
    Unhindered receiver seen calls (countReply seq before after) := by
  refine parallel_bind (unhindered_getSentTime seq) fun sentTime => ?_
  cases sentTime with
  | none => exact parallel_pure
  | some sentTime =>
    exact parallel_bind unhindered_now fun _ => parallel_bind (unhindered_print _) fun _ =>
      parallel_bind unhindered_update fun _ => unhindered_print _

theorem unhindered_countError (isIcmpError : Bool) (otherwise : List Output) :
    Unhindered receiver seen calls (countError isIcmpError otherwise) := by
  cases isIcmpError with
  | true => exact unhindered_recordError
  | false => exact unhindered_print otherwise

/-- Handling the reply or the error that a receiver returned. -/
theorem unhindered_answer {receives : Proc World (Except String Reply)}
    {handler : Except String Reply → Proc World Result} (received : Unhindered receiver seen calls receives)
    (replies : ∀ reply, Unhindered receiver seen calls (handler (.ok reply)))
    (errors : ∀ message, Unhindered receiver seen calls (handler (.error message))) :
    Unhindered receiver seen calls (receives >>= handler) := by
  refine parallel_bind received fun result => ?_
  cases result with
  | ok reply => exact replies reply
  | error message => exact errors message

/-! ### The loops -/

variable {pgConfig : PingConfig} {send : UInt16 → Proc World (Option String)}
  (sends : ∀ seq, Unhindered receiver seen calls (send seq))

theorem unhindered_replyLoop {answer : Proc World Unit} {exits : Proc World Bool}
    (answers : Unhindered receiver seen calls answer)
    (leaves : Unhindered receiver seen calls exits) (count : Nat) :
    Unhindered receiver seen calls (do let _ ← forRange (fun _ _ => replyTurn answer exits) 0 count (); loopBoundary) := by
  refine parallel_bind (parallel_forRange (fun _ _ => ?_) 0 count ()) fun _ => unhindered_loopBoundary
  refine parallel_bind unhindered_loopBoundary fun _ => parallel_bind unhindered_isRunning fun running => ?_
  split
  · refine parallel_bind answers fun _ => parallel_bind leaves fun ends => ?_
    split <;> exact parallel_pure
  · exact parallel_pure

include sends

theorem unhindered_sendPreload (count : Nat) (seq : UInt16) :
    Unhindered receiver seen calls (do let _ ← forRange (fun _ => preloadTurn send) 0 count seq; loopBoundary) := by
  refine parallel_bind (parallel_forRange (fun _ startSeq => ?_) 0 count seq) fun _ => unhindered_loopBoundary
  exact parallel_bind unhindered_loopBoundary fun _ => parallel_bind (sends startSeq) fun _ => parallel_pure

theorem unhindered_echoLoop (endsOnFailure : Bool) {answer : UInt16 → Proc World Unit}
    (answers : ∀ seq, Unhindered receiver seen calls (answer seq)) (fuel : Nat) (seq : UInt16) :
    Unhindered receiver seen calls (do forever (echoTurn pgConfig send endsOnFailure answer) fuel seq; loopBoundary) := by
  refine parallel_bind (parallel_forever (fun seq => ?_) fuel seq) fun _ => unhindered_loopBoundary
  refine parallel_bind unhindered_loopBoundary fun _ => parallel_bind unhindered_isRunning fun running => ?_
  split
  · refine parallel_bind (sends seq) fun failure => ?_
    split
    · exact parallel_pure
    · refine parallel_bind (answers seq) fun _ => parallel_bind (unhindered_timeoutOrCountExit pgConfig) fun ends => ?_
      split <;> exact parallel_pure
  · exact parallel_pure

omit sends

theorem unhindered_preload {sendAll receiveAll : Proc World Unit}
    (sendsAll : Unhindered receiver seen calls sendAll) (receivesAll : Unhindered receiver seen calls receiveAll) :
    Unhindered receiver seen calls (if 0 < pgConfig.preload then do
        (do sendAll; receiveAll)
        timeoutOrCountExit pgConfig
      else pure false) := by
  split
  · exact parallel_bind (parallel_bind sendsAll fun _ => receivesAll) fun _ => unhindered_timeoutOrCountExit pgConfig
  · exact parallel_pure

theorem unhindered_printSummary_ok :
    Unhindered receiver seen calls (do printSummary; pure (.ok ()) : Proc World (Except String Unit)) :=
  parallel_bind unhindered_printSummary fun _ => parallel_pure

end

namespace PingImpl

section

variable {crate : Crate} {platform : Platform} {pgConfig : PingConfig} {seen : Event → Bool} {calls : Nat}

theorem unhindered_receiveReply :
    Unhindered (receiveIcmpReply crate pgConfig.identifier) seen calls (receiveReply crate pgConfig) :=
  unhindered_receive readsEach_receiveIcmpReply _

theorem unhindered_receiveIcmpReplyWithTimeout :
    Unhindered (receiveIcmpReply crate pgConfig.identifier) seen calls (receiveIcmpReplyWithTimeout crate pgConfig) := by
  refine parallel_bind unhindered_setReadTimeout fun failure => ?_
  cases failure with
  | some failure => exact parallel_pure
  | none =>
    refine parallel_bind unhindered_receiveReply fun result => parallel_bind unhindered_setReadTimeout fun failure => ?_
    cases failure <;> exact parallel_pure

theorem unhindered_answerMain (seq : UInt16) :
    Unhindered (receiveIcmpReply crate pgConfig.identifier) seen calls (answerMain crate pgConfig seq) := by
  rw [answerMain]
  split
  · rw [answerWithTimestamp, show receiveIcmpReplyWithTimestamp crate pgConfig.identifier =
      receiveIcmpReply crate pgConfig.identifier from funext (receiveIcmpReplyWithTimestamp_eq crate _)]
    exact unhindered_answer unhindered_receiveReply (fun _ => unhindered_countReply _ _ _) fun _ =>
      unhindered_countError _ _
  · exact unhindered_answer unhindered_receiveIcmpReplyWithTimeout (fun _ => unhindered_countReply _ _ _)
      fun _ => unhindered_countError _ _

theorem unhindered_finalListen (fuel : Nat) :
    Unhindered (receiveIcmpReply crate pgConfig.identifier) seen calls (finalListen crate pgConfig fuel) := by
  refine parallel_bind unhindered_now fun start => parallel_bind (parallel_forever (fun _ => ?_) fuel ())
    fun _ => unhindered_loopBoundary
  refine parallel_bind unhindered_loopBoundary fun _ => parallel_bind unhindered_now fun now => ?_
  split
  · exact unhindered_answer unhindered_receiveIcmpReplyWithTimeout
      (fun _ => parallel_bind (unhindered_countReply _ _ _) fun _ => parallel_pure) fun _ => parallel_pure
  · exact parallel_pure

theorem unhindered_ping4Run (fuel : Nat) :
    Unhindered (receiveIcmpReply crate pgConfig.identifier) seen calls (ping4Run crate platform pgConfig fuel) := by
  have sends : ∀ seq,
      Unhindered (receiveIcmpReply crate pgConfig.identifier) seen calls (sendEcho crate platform pgConfig seq) :=
    fun _ => unhindered_sendRequest _ _ _ _
  refine parallel_bind unhindered_setStartTime fun _ => parallel_bind (unhindered_print _) fun _ =>
    parallel_bind (unhindered_connect pgConfig) fun failure => ?_
  cases failure with
  | some failure => exact parallel_pure
  | none =>
    simp only
    split
    · refine parallel_bind (unhindered_echoLoop sends false (fun _ => ?_) fuel 1) fun _ => unhindered_printSummary_ok
      exact parallel_bind (unhindered_print _) fun _ => unhindered_answer unhindered_receiveIcmpReplyWithTimeout
        (fun _ => unhindered_countReply _ _ _) fun _ => unhindered_countError _ _
    · have answers : Unhindered (receiveIcmpReply crate pgConfig.identifier) seen calls (answerPreload crate pgConfig) :=
        unhindered_answer unhindered_receiveReply (fun _ => unhindered_countReply _ _ _) fun _ => unhindered_countError _ _
      refine parallel_bind (unhindered_preload (unhindered_sendPreload sends _ 1)
        (unhindered_replyLoop answers (unhindered_timeoutOrCountExit pgConfig) _)) fun ends => ?_
      -- the preload may have ended the run
      cases ends with
      | true => exact unhindered_printSummary_ok
      | false =>
        exact parallel_bind (unhindered_echoLoop sends true unhindered_answerMain fuel _) fun _ =>
          parallel_bind (unhindered_finalListen fuel) fun _ => unhindered_printSummary_ok

end

end PingImpl

namespace Ping6Common

section

variable {crate : Crate} {platform : Platform} {showIpv6 : Ipv6Addr → String} {pgConfig : PingConfig}
  {seen : Event → Bool} {calls : Nat}

theorem unhindered_receiveReply :
    Unhindered (receiveIcmpv6Reply crate showIpv6 pgConfig.identifier) seen calls (receiveReply crate showIpv6 pgConfig) :=
  unhindered_receive readsEach_receiveIcmpv6Reply _

theorem unhindered_ping6Run (fuel : Nat) : Unhindered (receiveIcmpv6Reply crate showIpv6 pgConfig.identifier) seen calls
    (ping6Run crate platform showIpv6 pgConfig fuel) := by
  have sends : ∀ seq, Unhindered (receiveIcmpv6Reply crate showIpv6 pgConfig.identifier) seen calls
      (sendEcho crate platform pgConfig seq) :=
    fun _ => unhindered_sendRequest _ _ _ _
  refine parallel_bind (unhindered_connect pgConfig) fun failure => ?_
  cases failure with
  | some failure => exact parallel_pure
  | none =>
    refine parallel_bind unhindered_setStartTime fun _ => parallel_bind (unhindered_print _) fun _ => ?_
    split
    · refine parallel_bind (unhindered_echoLoop sends false (fun _ => ?_) fuel 1) fun _ => unhindered_printSummary_ok
      exact parallel_bind (unhindered_print _) fun _ =>
        unhindered_answer unhindered_receiveReply (fun _ => unhindered_countReply _ _ _) fun _ => parallel_pure
    · have answers : Unhindered (receiveIcmpv6Reply crate showIpv6 pgConfig.identifier) seen calls
          (answerPreload crate showIpv6 pgConfig) :=
        unhindered_answer unhindered_receiveReply (fun _ => unhindered_countReply _ _ _) fun _ => parallel_pure
      refine parallel_bind (unhindered_preload (unhindered_sendPreload sends _ 1) (unhindered_replyLoop answers
        (unhindered_get_bind (fun _ _ _ => rfl) fun _ => parallel_pure) _)) fun ends => ?_
      -- the preload may have ended the run
      cases ends with
      | true => exact unhindered_printSummary_ok
      | false =>
        refine parallel_bind (unhindered_echoLoop sends true (fun _ => ?_) fuel _) fun _ => unhindered_printSummary_ok
        exact unhindered_answer unhindered_receiveReply (fun _ => unhindered_countReply _ _ _)
          fun _ => unhindered_countError _ _

end

end Ping6Common

/-! ## What foreign messages change -/

/-- Two runs of which an observer of the statistics and of the output sees the same. -/
def AlikeRuns {Result : Type} (first second : Outcome World Result) : Prop :=
  first.state.status = second.state.status ∧ first.state.log = second.state.log

/-- The same apart from the lines that the receive function prints itself. -/
def AlikeApartFromLines {Result : Type} (first second : Outcome World Result) : Prop :=
  first.state.status = second.state.status ∧
    shown (fun event => !isLine event) first.state.log = shown (fun event => !isLine event) second.state.log

section

variable {Reply Result Foreign : Type} {receiver : List RecvOutcome → Option (Received Reply)} {seen : Event → Bool}
  {process : Proc World Result}

/-- The calls of the run with the insertions return the same without them: then the runs do the same. -/
theorem shown_run (unhindered : ∀ calls, Unhindered receiver seen calls process) (environment : Environment)
    (arrival : Foreign → RecvOutcome) (merged : List (RecvOutcome ⊕ Foreign))
    (agree : List.Forall₂ (SameCall receiver seen)
      ((callsOf receiver (arriving arrival merged)).take (receiveCalls
        (process (World.start { environment with recvs := arriving arrival merged })).state.log))
      ((callsOf receiver (own merged)).take (receiveCalls
        (process (World.start { environment with recvs := arriving arrival merged })).state.log))) :
    let session := fun recvs => process (World.start { environment with recvs })
    (session (arriving arrival merged)).state.status = (session (own merged)).state.status ∧
      shown seen (session (arriving arrival merged)).state.log = shown seen (session (own merged)).state.log := by
  intro session
  have aligned : Aligned receiver seen (receiveCalls (session (arriving arrival merged)).state.log)
      (World.start { environment with recvs := arriving arrival merged })
      (World.start { environment with recvs := own merged }) :=
    ⟨own merged, [], rfl, rfl, ((own_sublist_arriving arrival merged).filter _).length_le, agree⟩
  rcases (unhindered _).paired _ _ aligned with beyond | paired
  · exact absurd beyond (Nat.lt_irrefl _)
  · obtain ⟨recvs, log, same, sameLog, -⟩ := paired.state
    change (session (own merged)).state = _ at same
    rw [same]
    exact ⟨rfl, sameLog⟩

end

section

variable {Reply Foreign : Type} {receiver : List RecvOutcome → Option (Received Reply)} {seen : Event → Bool}
  {ends : RecvOutcome → Prop} [DecidablePred ends] {reports : String → RecvOutcome → Prop}
  {arrival : Foreign → RecvOutcome} {merged : List (RecvOutcome ⊕ Foreign)} {calls : Nat}

theorem sameCall_refl (answer : RecvOutcome) : SameCall receiver seen answer answer := by
  intro first second returns returns'
  obtain rfl := Option.some.inj (returns.symm.trans returns')
  exact ⟨rfl, .inl rfl⟩

theorem sameCall_of_verdict {answer other : RecvOutcome}
    (verdict : ReadsEach.verdict receiver answer = ReadsEach.verdict receiver other)
    (lines : (∀ text, seen (.printed (.line text)) = false) ∨
      ∀ answer received, receiver [answer] = some received → received.printed = []) :
    SameCall receiver seen answer other := by
  intro first second returns returns'
  rw [ReadsEach.verdict, ReadsEach.verdict, returns, returns', Option.map_some, Option.map_some] at verdict
  refine ⟨Option.some.inj verdict, ?_⟩
  rcases lines with unseen | none
  · exact .inr unseen
  · exact .inl ((none answer first returns).trans (none other second returns').symm)

theorem callsOf_eq_filter (passes : ∀ answer, ReadsEach.verdict receiver answer = none ↔ ¬ ends answer)
    (recvs : List RecvOutcome) : callsOf receiver recvs = recvs.filter fun answer => ends answer := by
  refine List.filter_congr fun answer _ => ?_
  have passed := passes answer
  rw [ReadsEach.verdict, Option.map_eq_none_iff] at passed
  cases stops : receiver [answer] with
  | none => simp [passed.mp stops]
  | some received =>
    have isEnd : ends answer := not_not.mp fun notEnd => by simp [stops] at passed; exact notEnd passed
    simp [isEnd]

/-- Calls that are undisturbed return the same. -/
theorem UndisturbedCalls.agree (undisturbed : UndisturbedCalls ends reports arrival merged calls)
    (passes : ∀ answer, ReadsEach.verdict receiver answer = none ↔ ¬ ends answer)
    (reported : ∀ text answer, reports text answer → ReadsEach.verdict receiver answer = some (.error text))
    (lines : (∀ text, seen (.printed (.line text)) = false) ∨
      ∀ answer received, receiver [answer] = some received → received.printed = []) :
    List.Forall₂ (SameCall receiver seen) ((callsOf receiver (arriving arrival merged)).take calls)
      ((callsOf receiver (own merged)).take calls) := by
  rw [callsOf_eq_filter passes, callsOf_eq_filter passes]
  refine undisturbed.imp fun answer other same => ?_
  rcases same with rfl | ⟨text, first, second⟩
  · exact sameCall_refl answer
  · exact sameCall_of_verdict ((reported text answer first).trans (reported text other second).symm) lines

/-- Only the answers at which the receiver returns matter. -/
theorem findSome?_ends (passes : ∀ answer, ReadsEach.verdict receiver answer = none ↔ ¬ ends answer)
    (recvs : List RecvOutcome) :
    (recvs.filter fun answer => ends answer).findSome? (ReadsEach.verdict receiver) =
      recvs.findSome? (ReadsEach.verdict receiver) := by
  induction recvs with
  | nil => rfl
  | cons answer recvs inductionHypothesis =>
    by_cases isEnd : ends answer
    · rw [List.filter_cons_of_pos (by simpa using isEnd), List.findSome?_cons, List.findSome?_cons,
        inductionHypothesis]
    · rw [List.filter_cons_of_neg (by simpa using isEnd), List.findSome?_cons, (passes answer).mpr isEnd]
      exact inductionHypothesis

omit [DecidablePred ends] in
/-- A foreign error is read first: only an answer that reports the same makes up for it. -/
theorem error_first_iff {error : RecvOutcome} {text : String} {answers : List RecvOutcome}
    (reported : ∀ text answer, reports text answer → ReadsEach.verdict receiver answer = some (.error text))
    (known : ∀ answer, ReadsEach.verdict receiver answer = some (.error text) ↔ reports text answer)
    (isError : reports text error) (areEnds : ∀ answer ∈ answers, ends answer)
    (passes : ∀ answer, ReadsEach.verdict receiver answer = none ↔ ¬ ends answer) :
    some (.error text) = answers.findSome? (ReadsEach.verdict receiver) ↔
      List.Forall₂ (fun answer other => answer = other ∨ ∃ text, reports text answer ∧ reports text other)
        [error] (answers.take 1) := by
  have verdict := (known error).mpr isError
  cases answers with
  | nil => exact ⟨fun same => absurd same (by simp), fun agree => by cases agree⟩
  | cons answer others =>
    have isEnd := areEnds answer List.mem_cons_self
    obtain ⟨value, stops⟩ := Option.ne_none_iff_exists'.mp (mt (passes answer).mp (not_not.mpr isEnd))
    rw [List.findSome?_cons, stops]
    constructor
    · intro same
      exact .cons (.inr ⟨text, isError, (known answer).mp (stops.trans same.symm)⟩) .nil
    · intro agree
      cases agree with
      | cons here _ =>
        rcases here with rfl | ⟨other, first, second⟩
        · exact verdict.symm.trans stops
        · -- the texts are what the receiver returns
          exact verdict.symm.trans ((reported other _ first).trans ((reported other answer second).symm.trans stops))

/-- The condition on one call is the condition on the first of the calls. -/
theorem undisturbed_iff_firstCall {errorText : Foreign → Option String} (reads : ReadsEach receiver)
    (passes : ∀ answer, ReadsEach.verdict receiver answer = none ↔ ¬ ends answer)
    (reported : ∀ text answer, reports text answer → ReadsEach.verdict receiver answer = some (.error text))
    (known : ∀ foreign text, errorText foreign = some text → ∀ answer,
      ReadsEach.verdict receiver answer = some (.error text) ↔ reports text answer)
    (foreignVerdict : ∀ foreign, ReadsEach.verdict receiver (arrival foreign) = (errorText foreign).map .error) :
    Undisturbed ends reports arrival errorText merged ↔ UndisturbedCalls ends reports arrival merged 1 := by
  rw [← reads.result_arriving_eq_iff passes known foreignVerdict, reads.result_eq, reads.result_eq, UndisturbedCalls]
  induction merged with
  | nil => exact ⟨fun _ => .nil, fun _ => rfl⟩
  | cons head merged inductionHypothesis =>
    cases head with
    | inl item =>
      simp only [arriving_inl, own_inl, List.findSome?_cons]
      cases stops : ReadsEach.verdict receiver item with
      | none =>
        have passed : ¬ ends item := (passes item).mp stops
        rw [List.filter_cons_of_neg (by simpa using passed), List.filter_cons_of_neg (by simpa using passed)]
        exact inductionHypothesis
      | some value =>
        have isEnd : ends item := not_not.mp (mt (passes item).mpr (by simp [stops]))
        rw [List.filter_cons_of_pos (by simpa using isEnd), List.filter_cons_of_pos (by simpa using isEnd)]
        exact ⟨fun _ => .cons (.inl rfl) .nil, fun _ => rfl⟩
    | inr foreign =>
      simp only [arriving_inr, own_inr, List.findSome?_cons]
      have verdict := foreignVerdict foreign
      cases text : errorText foreign with
      | none =>
        rw [text, Option.map_none] at verdict
        have passed : ¬ ends (arrival foreign) := (passes _).mp verdict
        rw [verdict, List.filter_cons_of_neg (by simpa using passed)]
        exact inductionHypothesis
      | some text' =>
        rw [text, Option.map_some] at verdict
        have isEnd : ends (arrival foreign) := not_not.mp (mt (passes _).mpr (by simp [verdict]))
        have reports' := (known foreign text' text (arrival foreign)).mp verdict
        rw [verdict, List.filter_cons_of_pos (by simpa using isEnd), ← findSome?_ends passes (own merged)]
        exact error_first_iff reported (known foreign text' text) reports' (fun answer member => by
          simpa using (List.mem_filter.mp member).2) passes

end

section

variable {crate : Crate} {identifier : UInt16}

theorem isSome_iff_endsWait (answer : RecvOutcome) :
    (receiveIcmpReply crate identifier [answer]).isSome ↔ EndsWait crate identifier answer := by
  have passed := @verdict_eq_none_iff crate identifier answer
  rw [ReadsEach.verdict, Option.map_eq_none_iff] at passed
  rw [← Option.ne_none_iff_isSome, ← not_iff_not, not_not, passed]

instance : DecidablePred (EndsWait crate identifier) := fun answer => decidable_of_iff _ (isSome_iff_endsWait answer)

theorem verdict_of_reports (text : String) (answer : RecvOutcome) (reports : Reports crate text answer) :
    ReadsEach.verdict (receiveIcmpReply crate identifier) answer = some (.error text) := by
  cases answer with
  | error e => rw [← reports]; rfl
  | ok datagram => exact (verdict_eq_error_iff (icmpErrorText_mem reports.2.2) _).mpr reports

theorem receiveIcmpReply_printed (answer : RecvOutcome) (received : Received IcmpReply)
    (returns : receiveIcmpReply crate identifier [answer] = some received) : received.printed = [] := by
  cases answer with
  | error e =>
    cases returns
    rfl
  | ok datagram =>
    simp only [receiveIcmpReply] at returns
    split_ifs at returns <;> cases returns <;> rfl

variable {showIpv6 : Ipv6Addr → String}

theorem isSome_iff_endsWaitV6 (answer : RecvOutcome) :
    (receiveIcmpv6Reply crate showIpv6 identifier [answer]).isSome ↔ EndsWaitV6 crate identifier answer := by
  have passed := @verdict_v6_eq_none_iff crate identifier showIpv6 answer
  rw [ReadsEach.verdict, Option.map_eq_none_iff] at passed
  rw [← Option.ne_none_iff_isSome, ← not_iff_not, not_not, passed]

instance : DecidablePred (EndsWaitV6 crate identifier) := fun answer =>
  decidable_of_iff _ (@isSome_iff_endsWaitV6 crate identifier (fun _ => "") answer)

theorem verdict_v6_of_reports (text : String) (answer : RecvOutcome) (reports : ReportsV6 crate text answer) :
    ReadsEach.verdict (receiveIcmpv6Reply crate showIpv6 identifier) answer = some (.error text) := by
  cases answer with
  | error e =>
    obtain ⟨lasting, rfl⟩ := reports
    cases kind : e.kind <;> simp_all [ReadsEach.verdict, receiveIcmpv6Reply]
  | ok datagram => exact (verdict_v6_eq_error_iff (icmpv6ErrorText_mem reports.2.2) _).mpr reports

end

/-- Foreign messages leave the result of a receive call as it is exactly if they do not disturb the wait. A session
whose receive calls are all undisturbed keeps its statistics and its log; in the log of an IPv6 session the lines may
differ that the receive function prints for an error, unless there are no errors that it knows among the messages. -/
theorem receive_foreign_iff (crate : Crate) (follows : crate.FollowsRfcs) (platform : Platform)
    (showIpv6 : Ipv6Addr → String) :
    (∀ identifier (merged : List (RecvOutcome ⊕ ForeignMessage identifier)),
      (receiveIcmpReply crate identifier (arriving (·.outcome) merged)).map (·.result) =
          (receiveIcmpReply crate identifier (own merged)).map (·.result) ↔
        Undisturbed (EndsWait crate identifier) (Reports crate) (·.outcome)
          (fun foreign => icmpErrorText (byteAt foreign.message 0)) merged) ∧
    (∀ identifier (merged : List (RecvOutcome ⊕ ForeignMessageV6 identifier)),
      (receiveIcmpv6Reply crate showIpv6 identifier (arriving (·.outcome) merged)).map (·.result) =
          (receiveIcmpv6Reply crate showIpv6 identifier (own merged)).map (·.result) ↔
        Undisturbed (EndsWaitV6 crate identifier) (ReportsV6 crate) (·.outcome)
          (fun foreign => icmpv6ErrorText (byteAt foreign.bytes 0)) merged) ∧
    (∀ pgConfig fuel (environment : Environment) (merged : List (RecvOutcome ⊕ ForeignMessage pgConfig.identifier)),
      let session := fun recvs =>
        PingImpl.ping4Run crate platform pgConfig fuel (World.start { environment with recvs })
      UndisturbedCalls (EndsWait crate pgConfig.identifier) (Reports crate) (·.outcome) merged
        (receiveCalls (session (arriving (·.outcome) merged)).state.log) →
      AlikeRuns (session (arriving (·.outcome) merged)) (session (own merged))) ∧
    (∀ pgConfig fuel (environment : Environment) (merged : List (RecvOutcome ⊕ ForeignMessageV6 pgConfig.identifier)),
      let session := fun recvs =>
        Ping6Common.ping6Run crate platform showIpv6 pgConfig fuel (World.start { environment with recvs })
      UndisturbedCalls (EndsWaitV6 crate pgConfig.identifier) (ReportsV6 crate) (·.outcome) merged
        (receiveCalls (session (arriving (·.outcome) merged)).state.log) →
      AlikeApartFromLines (session (arriving (·.outcome) merged)) (session (own merged))) ∧
    ∀ pgConfig fuel (environment : Environment) (merged : List (RecvOutcome ⊕ ForeignMessageV6 pgConfig.identifier)),
      (∀ foreign, .inr foreign ∈ merged → icmpv6ErrorText (byteAt foreign.bytes 0) = none) →
      let session := fun recvs =>
        Ping6Common.ping6Run crate platform showIpv6 pgConfig fuel (World.start { environment with recvs })
      AlikeRuns (session (arriving (·.outcome) merged)) (session (own merged)) := by
  refine ⟨fun identifier => ?_, fun identifier => ?_, fun pgConfig fuel environment merged => ?_,
    fun pgConfig fuel environment merged => ?_, fun pgConfig fuel environment merged unknown => ?_⟩
  · exact readsEach_receiveIcmpReply.result_arriving_eq_iff verdict_eq_none_iff
      (fun _ _ known => verdict_eq_error_iff (icmpErrorText_mem known)) (verdict_foreign follows)
  · exact readsEach_receiveIcmpv6Reply.result_arriving_eq_iff verdict_v6_eq_none_iff
      (fun _ _ known => verdict_v6_eq_error_iff (icmpv6ErrorText_mem known)) (verdict_foreignV6 follows)
  · intro session undisturbed
    have agree := @UndisturbedCalls.agree _ _ _ (fun _ => true) _ _ _ _ _ _ undisturbed verdict_eq_none_iff
      verdict_of_reports (.inr receiveIcmpReply_printed)
    obtain ⟨status, log⟩ := shown_run (fun _ => PingImpl.unhindered_ping4Run fuel) environment _ merged agree
    rw [shown_all, shown_all] at log
    exact ⟨status, log⟩
  · intro session undisturbed
    exact shown_run (fun _ => Ping6Common.unhindered_ping6Run fuel) environment _ merged
      (undisturbed.agree verdict_v6_eq_none_iff verdict_v6_of_reports (.inl fun _ => rfl))
  · -- nothing that was inserted ends a wait
    have same := filter_arriving (fun foreign : ForeignMessageV6 pgConfig.identifier => foreign.outcome)
      (fun answer => (receiveIcmpv6Reply crate showIpv6 pgConfig.identifier [answer]).isSome) merged
      fun foreign member => by
        have passed := @verdict_foreignV6 _ _ showIpv6 follows foreign
        rw [unknown foreign member, Option.map_none, ReadsEach.verdict, Option.map_eq_none_iff] at passed
        rw [passed]
        rfl
    obtain ⟨status, log⟩ := @shown_run _ _ _ _ (fun _ => true) _
      (fun _ => Ping6Common.unhindered_ping6Run fuel) environment _ merged
      (by rw [callsOf, same]; exact List.forall₂_same.mpr fun answer _ => sameCall_refl answer)
    rw [shown_all, shown_all] at log
    exact ⟨status, log⟩

/-! ### Another process's error

A time exceeded message that quotes the start of a UDP datagram, and the reply to the only request. -/

def udpError : ForeignMessage 7 where
  header := [0x45, 0, 0, 56, 0, 0, 0, 0, 64, 1, 0, 0, 192, 0, 2, 9, 192, 0, 2, 2]
  message := [11, 0, 0, 0, 0, 0, 0, 0] ++
    [0x45, 0, 0, 28, 0, 0, 0, 0, 1, 17, 0, 0, 192, 0, 2, 2, 192, 0, 2, 1] ++ [0x80, 0, 0x80, 0, 0, 8, 0, 0]
  header_ge := by decide
  header_length := by decide
  total_length := by decide
  long := by decide
  foreign := .inr ⟨by decide, fun quotes => absurd quotes.2.1 (by decide)⟩

def udpErrorV6 : ForeignMessageV6 7 where
  bytes := [3, 0, 0, 0, 0, 0, 0, 0] ++ (0x60 :: List.replicate 3 0 ++ [0, 8, 17, 1] ++ List.replicate 40 0)
  source := ⟨Vector.replicate 16 0⟩
  long := by decide
  foreign := .inr ⟨by decide, fun quotes => absurd quotes.1 (by decide)⟩

def ourReply : RecvOutcome :=
  .ok { bytes := [0x45, 0, 0, 28, 0, 0, 0, 0, 64, 1, 0, 0, 192, 0, 2, 1, 192, 0, 2, 2] ++ [0, 0, 0, 0, 0, 7, 0, 1] }

def ourReplyV6 : RecvOutcome :=
  .ok { bytes := [129, 0, 0, 0, 0, 7, 0, 1], addr := some ⟨Vector.replicate 16 0⟩ }

def quietPlatform : Platform := ⟨fun _ _ => Vector.replicate 16 0, fun _ => Vector.replicate 4 0⟩

/-- Our own request has been answered by an error with the same text. -/
def ourTimeExceeded : RecvOutcome :=
  .ok { bytes := [0x45, 0, 0, 56, 0, 0, 0, 0, 64, 1, 0, 0, 192, 0, 2, 9, 192, 0, 2, 2] ++ [11, 0, 0, 0, 0, 0, 0, 0] ++
    [0x45, 0, 0, 28, 0, 0, 0, 0, 1, 1, 0, 0, 192, 0, 2, 2, 192, 0, 2, 1] ++ [8, 0, 0, 0, 0, 7, 0, 1] }

/-- The time between two readings of the clock leaves none for the final listening. -/
def briefly : Environment where
  interrupts _ := false
  instants reading := reading * Duration.fromMillis 600
  systemTimes _ := some (1700000000, 0)
  sendFailures _ := none
  readTimeoutFailures _ := none
  recvs := []

def briefConfig : PingConfig := { count := some 1, identifier := 7, packetSize := 0, preload_le := noPreload }

def briefSession (recvs : List RecvOutcome) : Outcome World (Except String Unit) :=
  PingImpl.ping4Run .rfcs quietPlatform briefConfig 5 (World.start { briefly with recvs })

def withUdpError : List (RecvOutcome ⊕ ForeignMessage 7) := [.inr udpError, .inl ourTimeExceeded]

/-- Its only call is undisturbed. -/
theorem briefSession_undisturbed : UndisturbedCalls (EndsWait .rfcs 7) (Reports .rfcs) (·.outcome) withUdpError
    (receiveCalls (briefSession (arriving (·.outcome) withUdpError)).state.log) := by
  have once : receiveCalls (briefSession (arriving (·.outcome) withUdpError)).state.log = 1 := by decide +kernel
  have known := fun (foreign : ForeignMessage 7) text (texts : icmpErrorText (byteAt foreign.message 0) = some text) =>
    @verdict_eq_error_iff .rfcs 7 text (icmpErrorText_mem texts)
  have verdicts := @verdict_foreign .rfcs 7 Crate.rfcs_follows
  rw [once]
  refine (undisturbed_iff_firstCall readsEach_receiveIcmpReply verdict_eq_none_iff verdict_of_reports known
    verdicts).mp ?_
  rw [← readsEach_receiveIcmpReply.result_arriving_eq_iff verdict_eq_none_iff known verdicts]
  decide +kernel

/-- Behind the reply the error does no harm, ahead of it it does. In a session it does none if our own request is
answered by such an error as well. -/
theorem receive_foreign_iff_udpError :
    let undisturbed := Undisturbed (EndsWait .rfcs 7) (Reports .rfcs) (·.outcome)
      (fun foreign : ForeignMessage 7 => icmpErrorText (byteAt foreign.message 0))
    (undisturbed [.inl ourReply, .inr udpError] ∧ ¬ undisturbed [.inr udpError, .inl ourReply]) ∧
      AlikeRuns (briefSession (arriving (·.outcome) withUdpError)) (briefSession (own withUdpError)) :=
  ⟨⟨((receive_foreign_iff .rfcs Crate.rfcs_follows quietPlatform fun _ => "").1 7 _).mp (by decide +kernel),
    mt ((receive_foreign_iff .rfcs Crate.rfcs_follows quietPlatform fun _ => "").1 7 _).mpr (by decide +kernel)⟩,
    (receive_foreign_iff .rfcs Crate.rfcs_follows quietPlatform fun _ => "").2.2.1 briefConfig 5 briefly withUdpError
      briefSession_undisturbed⟩

theorem receive_udpError :
    let merged : List (RecvOutcome ⊕ ForeignMessage 7) := [.inr udpError, .inl ourReply]
    let mergedV6 : List (RecvOutcome ⊕ ForeignMessageV6 7) := [.inr udpErrorV6, .inl ourReplyV6]
    let session := fun recvs => PingImpl.ping4Run .rfcs quietPlatform
      { count := some 1, identifier := 7, packetSize := 0 } 5 (World.start {
        interrupts _ := false
        instants reading := reading * Duration.fromMillis 300
        systemTimes _ := some (1700000000, 0)
        sendFailures _ := none
        readTimeoutFailures _ := none
        recvs })
    ((receiveIcmpReply .rfcs 7 (arriving (·.outcome) merged)).map (·.result) = some (.error "Time exceeded") ∧
      ((receiveIcmpReply .rfcs 7 (own merged)).map (·.result)).map (·.map (·.sequence)) = some (.ok 1)) ∧
    ((receiveIcmpv6Reply .rfcs (fun _ => "") 7 (arriving (·.outcome) mergedV6)).map (·.result) =
        some (.error "Time exceeded") ∧
      (receiveIcmpv6Reply .rfcs (fun _ => "") 7 (own mergedV6)).map (·.result) =
        some (.ok ⟨1, 8, ⟨Vector.replicate 16 0⟩⟩)) ∧
    ((session (arriving (·.outcome) merged)).state.status.errors = 1 ∧
      (session (own merged)).state.status.errors = 0) := by
  decide +kernel

end Utiputils.Ping
