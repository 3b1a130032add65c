import Utiputils.Ping.Run

/-! # A session whose requests are answered

A whole session with a count, over a network that answers some of its requests and loses the others: how many requests
it makes, how many replies it counts, and that it comes to an end. -/

namespace Utiputils.Ping

open Utiputils.Lib Utiputils.Pnet Proc

/-! ## The network -/

/-- What the wait for a reply reads: messages that it passes over, and then the reply to the request or a timeout. -/
inductive Ipv4Wait (identifier seq : UInt16) : Bool → List RecvOutcome → Prop
  | answered {skipped : List Ipv4Datagram}
      (passed : ∀ datagram ∈ skipped, PassedOver IcmpTypes.EchoReply icmpErrors identifier datagram.message)
      {reply : Ipv4Datagram} (long : 8 ≤ reply.message.length) (isReply : byteAt reply.message 0 = IcmpTypes.EchoReply)
      (ours : u16At reply.message 4 = identifier) (same : u16At reply.message 6 = seq) :
      Ipv4Wait identifier seq true (skipped.map (·.outcome) ++ [reply.outcome])
  | lost {skipped : List Ipv4Datagram}
      (passed : ∀ datagram ∈ skipped, PassedOver IcmpTypes.EchoReply icmpErrors identifier datagram.message)
      {timeout : IoError} (unlike : mentions PingImpl.icmpErrorTexts timeout.message = false) :
      Ipv4Wait identifier seq false (skipped.map (·.outcome) ++ [.error timeout])

/-- What the IPv6 loop passes over: a message that is not for it, and an expired timeout of the kind `WouldBlock`, behind
which it reads on. -/
inductive Ipv6PassedOver (identifier : UInt16) : RecvOutcome → Prop
  | message {datagram : Datagram} (passed : PassedOver Icmpv6Types.EchoReply icmpv6Errors identifier datagram.bytes) :
      Ipv6PassedOver identifier (.ok datagram)
  | wouldBlock (message : String) : Ipv6PassedOver identifier (.error ⟨.wouldBlock, message⟩)

/-- The same for IPv6. Since the loop returns at no `WouldBlock`, a lost request ends in an error of another kind. -/
inductive Ipv6Wait (identifier seq : UInt16) : Bool → List RecvOutcome → Prop
  | answered {skipped : List RecvOutcome} (passed : ∀ outcome ∈ skipped, Ipv6PassedOver identifier outcome)
      {reply : Bytes} (source : Ipv6Addr) (long : 8 ≤ reply.length) (isReply : byteAt reply 0 = Icmpv6Types.EchoReply)
      (ours : u16At reply 4 = identifier) (same : u16At reply 6 = seq) :
      Ipv6Wait identifier seq true (skipped ++ [.ok { bytes := reply, addr := some source }])
  | lost {skipped : List RecvOutcome} (passed : ∀ outcome ∈ skipped, Ipv6PassedOver identifier outcome)
      {timeout : IoError} (returns : timeout.kind ≠ .wouldBlock)
      (unlike : mentions Ping6Common.icmpErrorTexts timeout.message = false) :
      Ipv6Wait identifier seq false (skipped ++ [.error timeout])

def Family.Waits (family : Family) (identifier seq : UInt16) (answered : Bool) (outcomes : List RecvOutcome) : Prop :=
  match family with
  | .ipv4 => Ipv4Wait identifier seq answered outcomes
  | .ipv6 => Ipv6Wait identifier seq answered outcomes

/-- What a session reads whose requests from this number on are answered or lost as the list says. -/
inductive Family.Reads (family : Family) (identifier : UInt16) : Nat → List Bool → List RecvOutcome → Prop
  | done (number : Nat) : Reads family identifier number [] []
  | next {number : Nat} {answered : Bool} {others : List Bool} {outcomes stream : List RecvOutcome}
      (waits : family.Waits identifier (UInt16.ofNat number) answered outcomes)
      (reads : Reads family identifier (number + 1) others stream) :
      Reads family identifier number (answered :: others) (outcomes ++ stream)

/-- Nothing fails, and nobody interrupts the session. -/
structure Environment.Calm (environment : Environment) : Prop where
  uninterrupted : ∀ index, environment.interrupts.get index = false
  sends : ∀ index, environment.sendFailures.get index = none
  resets : ∀ index, environment.readTimeoutFailures.get index = none
  connects : environment.connectFailure = none

/-- Between two readings of the clock there is at least this much time. -/
def Paced (pace : Duration) (instants : Stream' Instant) : Prop :=
  ∀ index, instants.get index + pace ≤ instants.get (index + 1)

/-! ## The state of a session -/

def requestOf : Event → Option UInt16
  | .recordSentTime seq _ => some seq
  | _ => none

/-- The sequence numbers of the requests, in their order. -/
def requested (log : List Record) : List UInt16 := log.filterMap fun record => requestOf record.event

/-- The requests of a session, numbered from one. -/
def numbered (count : Nat) : List UInt16 := (List.range' 1 count).map UInt16.ofNat

/-- So many requests have been made and so many replies counted; the requests from `first` on are still open, the socket
answers with `stream`, and the clock does not read less than `since`. -/
structure Underway (pace : Duration) (since : Instant) (going : Bool) (sent received first : Nat)
    (stream : List RecvOutcome)
    (world : World) : Prop where
  calm : world.toEnvironment.Calm
  paced : Paced pace world.instants
  late : since ≤ world.instants.head
  running : world.running = going
  recvs : world.recvs = stream
  transmitted : world.status.transmitted = UInt32.ofNat sent
  counted : world.status.received = UInt32.ofNat received
  faultless : world.status.errors = 0
  requests : requested world.log = numbered sent
  awaited : ∀ number, first ≤ number → number ≤ sent → (world.status.sentTimes[UInt16.ofNat number]?).isSome

/-- The process finishes, whatever the session reads. -/
abbrev Finishes {Result : Type} (pre : World → Prop) (process : Proc World Result) (post : Result → World → Prop) :
    Prop :=
  Triple pre process post fun _ => False

section

variable {pace : Duration} {since : Instant} {going : Bool} {sent received first : Nat} {stream : List RecvOutcome}

theorem requested_append (log : List Record) (record : Record) :
    requested (log ++ [record]) = requested log ++ (requestOf record.event).toList := by
  rw [requested, List.filterMap_append]
  cases request : requestOf record.event <;> simp [requested, request]

theorem Underway.note {world : World} (underway : Underway pace since going sent received first stream world)
    {event : Event}
    (noRequest : requestOf event = none) : Underway pace since going sent received first stream (world.note event) where
  calm := underway.calm
  paced := underway.paced
  late := underway.late
  running := underway.running
  recvs := underway.recvs
  transmitted := underway.transmitted
  counted := underway.counted
  faultless := underway.faultless
  requests := by
    refine (requested_append world.log ⟨event, world.status⟩).trans ?_
    rw [noRequest, underway.requests]
    exact List.append_nil _
  awaited := underway.awaited

theorem underway_note {event : Event} (noRequest : requestOf event = none) :
    Finishes (Underway pace since going sent received first stream) (modify (·.note event))
      (fun _ => Underway pace since going sent received first stream) :=
  triple_modify fun _ underway => underway.note noRequest

theorem underway_print (outputs : List Output) :
    Finishes (Underway pace since going sent received first stream) (print outputs)
      (fun _ => Underway pace since going sent received first stream) := by
  refine triple_modify fun world underway => ?_
  induction outputs generalizing world with
  | nil => exact underway
  | cons output outputs inductionHypothesis => exact inductionHypothesis _ (underway.note rfl)

theorem underway_reading :
    Finishes (Underway pace since going sent received first stream) now
      (fun reading world => since ≤ reading ∧
        Underway pace (reading + pace) going sent received first stream world) :=
  triple_modifyGet fun _ underway => ⟨underway.late,
    { underway with
      calm := { underway.calm with }
      paced := fun index => underway.paced (index + 1)
      late := underway.paced 0 }⟩

theorem underway_now :
    Finishes (Underway pace since going sent received first stream) now
      (fun _ => Underway pace since going sent received first stream) :=
  triple_conseq underway_reading (fun _ underway => underway) fun _ _ seen =>
    { seen.2 with late := seen.1.trans ((Nat.le_add_right _ pace).trans seen.2.late) }

theorem underway_isRunning :
    Finishes (Underway pace since going sent received first stream) isRunning
      (fun running world => running = going ∧ Underway pace since going sent received first stream world) := by
  refine triple_modifyGet fun world underway => ?_
  have uninterrupted : world.interrupts.head = false := underway.calm.uninterrupted 0
  have same : (world.running && !world.interrupts.head) = going := by
    rw [uninterrupted, underway.running, Bool.not_false, Bool.and_true]
  refine ⟨same, { underway with calm := { underway.calm with uninterrupted := ?_ }, running := same }⟩
  exact fun index => underway.calm.uninterrupted (index + 1)

theorem underway_setReadTimeout :
    Finishes (Underway pace since going sent received first stream) setReadTimeout
      (fun failure world => failure = none ∧ Underway pace since going sent received first stream world) := by
  refine triple_modifyGet fun world underway => ⟨underway.calm.resets 0, ?_⟩
  exact { underway with
    calm := { underway.calm with resets := fun index => underway.calm.resets (index + 1) } }

theorem underway_sendTo (packet : Bytes) :
    Finishes (Underway pace since going sent received first stream) (sendTo packet)
      (fun failure world => failure = none ∧ Underway pace since going sent received first stream world) := by
  refine triple_modifyGet fun world underway => ⟨underway.calm.sends 0, ?_⟩
  have next : Underway pace since going sent received first stream { world with sendFailures := world.sendFailures.tail
    } :=
    { underway with
      calm := { underway.calm with sends := fun index => underway.calm.sends (index + 1) } }
  exact next.note rfl

theorem underway_setStartTime :
    Finishes (Underway pace since going sent received first stream) setStartTime
      (fun _ => Underway pace since going sent received first stream) :=
  triple_bind underway_now fun _ => triple_modify fun _ underway => { underway with }

theorem underway_connect (pgConfig : PingConfig) :
    Finishes (Underway pace since going sent received first stream) (connect pgConfig)
      (fun failure world => failure = none ∧ Underway pace since going sent received first stream world) := by
  unfold connect
  split
  · exact triple_modifyGet fun world underway => ⟨by rw [underway.calm.connects]; rfl, underway⟩
  · exact triple_pure fun _ underway => ⟨rfl, underway⟩

theorem numbered_succ (count : Nat) : numbered (count + 1) = numbered count ++ [UInt16.ofNat (count + 1)] := by
  rw [numbered, List.range'_concat, List.map_append, numbered, Nat.one_mul, Nat.add_comm 1 count]
  rfl

/-- The next request is open from now on, and so are those that were. -/
theorem underway_recordSentTime :
    Finishes (Underway pace since going sent received first stream) (recordSentTime (UInt16.ofNat (sent + 1)))
      (fun _ => Underway pace since going (sent + 1) received first stream) := by
  refine triple_bind underway_now fun now => triple_modify fun world underway => ?_
  refine ⟨underway.calm, underway.paced, underway.late, underway.running, underway.recvs, ?_, underway.counted,
    underway.faultless, ?_,
    fun number from' upTo => ?_⟩
  · show world.status.transmitted + 1 = _
    rw [underway.transmitted, UInt32.ofNat_add]
    rfl
  · refine (requested_append world.log _).trans ?_
    rw [underway.requests, numbered_succ]
    rfl
  · show ((world.status.recordSentTime _ now).sentTimes[UInt16.ofNat number]?).isSome
    rw [PingStats.lookup_recordSentTime]
    split
    · rfl
    · next other =>
      have notNew : number ≠ sent + 1 := fun same => other (same ▸ rfl)
      exact underway.awaited number from' (by omega)

theorem underway_sendRequest (platform : Platform) (pgConfig : PingConfig) {build : IcmpEchoRequest → Option Bytes}
    (builds : ∀ request, (build request).isSome) :
    Finishes (Underway pace since going sent received first stream)
      (sendRequest platform pgConfig build (UInt16.ofNat (sent + 1)))
      (fun failure world => failure = none ∧ Underway pace since going (sent + 1) received first stream world) := by
  have time : Finishes (Underway pace since going sent received first stream) systemTime
      (fun _ => Underway pace since going sent received first stream) :=
    triple_modifyGet fun _ underway => { underway with calm := { underway.calm with } }
  refine triple_bind time fun systemTime => ?_
  have built := builds (.new platform systemTime (UInt16.ofNat (sent + 1)) pgConfig.identifier pgConfig.packetSize)
  obtain ⟨packet, isPacket⟩ := Option.isSome_iff_exists.mp built
  rw [isPacket]
  exact triple_bind underway_recordSentTime fun _ => underway_sendTo packet

/-! ### An answer -/

/-- How the wait for a reply ends. -/
inductive Ends {Reply : Type} (sequence : Reply → UInt16) (texts : List String) (seq : UInt16) :
    Bool → Except String Reply → Prop
  | answered {reply : Reply} (same : sequence reply = seq) : Ends sequence texts seq true (.ok reply)
  | lost {message : String} (unlike : mentions texts message = false) : Ends sequence texts seq false (.error message)

/-- The first open request is answered or given up. -/
def Closes (pace : Duration) (since : Instant) (going : Bool) (sent received first : Nat) (stream : List RecvOutcome)
    (answered : Bool) :
    World → Prop :=
  Underway pace since going sent (received + answered.toNat) (first + 1) stream

/-- No other open request has the sequence number of the first one. -/
def Distinct (first sent : Nat) : Prop :=
  ∀ number, first < number → number ≤ sent → UInt16.ofNat number ≠ UInt16.ofNat first

theorem underway_countReply (isOpen : first ≤ sent) (distinct : Distinct first sent)
    (before after : Duration → List Output) :
    Finishes (Underway pace since going sent received first stream) (countReply (UInt16.ofNat first) before after)
      (fun _ => Closes pace since going sent received first stream true) := by
  have looked : Finishes (Underway pace since going sent received first stream) (getSentTime (UInt16.ofNat first))
      (fun sentTime world => sentTime.isSome ∧ Underway pace since going sent received (first + 1) stream world) := by
    refine triple_modifyGet fun world underway => ⟨underway.awaited first le_rfl isOpen, ?_⟩
    refine ⟨underway.calm, underway.paced, underway.late, underway.running, underway.recvs, underway.transmitted,
      underway.counted,
      underway.faultless, (requested_append world.log _).trans ?_, fun number from' upTo => ?_⟩
    · rw [underway.requests]
      exact List.append_nil _
    · show ((world.status.getSentTime (UInt16.ofNat first)).2.sentTimes[UInt16.ofNat number]?).isSome
      rw [PingStats.lookup_getSentTime, if_neg (distinct number from' upTo)]
      exact underway.awaited number (by omega) upTo
  have updated : Finishes (Underway pace since going sent received (first + 1) stream) update
      (fun _ => Closes pace since going sent received first stream true) := by
    refine triple_modify fun world underway => ⟨underway.calm, underway.paced, underway.late, underway.running,
      underway.recvs,
      underway.transmitted, ?_, underway.faultless, (requested_append world.log _).trans ?_, underway.awaited⟩
    · show world.status.received + 1 = _
      rw [underway.counted, Bool.toNat_true, UInt32.ofNat_add]
      rfl
    · rw [underway.requests]
      exact List.append_nil _
  refine triple_bind looked fun sentTime => ?_
  cases sentTime with
  | none => exact fun _ seen => absurd seen.1 Bool.false_ne_true
  | some sentTime =>
    refine triple_given fun _ => triple_bind underway_now fun now => triple_bind (underway_print (before _)) fun _ =>
      triple_bind updated fun _ => ?_
    exact underway_print (after _)

/-- A lost request stays open, and nothing is expected of it any more. -/
theorem Underway.gaveUp {world : World} (underway : Underway pace since going sent received first stream world) :
    Closes pace since going sent received first stream false world :=
  { underway with awaited := fun number from' upTo => underway.awaited number (by omega) upTo }

theorem underway_receive {Reply : Type} {receiver : List RecvOutcome → Option (Received Reply)}
    (sequence : Reply → UInt16) {outcomes rest : List RecvOutcome} {result : Except String Reply}
    (reads : receiver (outcomes ++ rest) = some { result, rest }) :
    Finishes (Underway pace since going sent received first (outcomes ++ rest)) (receive receiver sequence)
      (fun value world => value = result ∧ Underway pace since going sent received first rest world) := by
  intro world underway
  rw [receive_eq, underway.recvs, reads]
  refine ⟨rfl, ?_⟩
  have next : Underway pace since going sent received first rest { world with recvs := rest } :=
    { underway with recvs := rfl, calm := { underway.calm with } }
  exact next.note rfl

/-- A wait and what is done with its end. -/
theorem underway_answer {Reply : Type} {sequence : Reply → UInt16} {texts : List String}
    {receiver : Proc World (Except String Reply)} {handler : Except String Reply → Proc World Unit}
    {outcomes : List RecvOutcome} {answered : Bool} {result : Except String Reply}
    (receives : Finishes (Underway pace since going sent received first outcomes) receiver
      (fun value world => value = result ∧ Underway pace since going sent received first stream world))
    (ends : Ends sequence texts (UInt16.ofNat first) answered result) (isOpen : first ≤ sent)
    (distinct : Distinct first sent)
    (replies : ∀ reply, ∃ before after, handler (.ok reply) = countReply (sequence reply) before after)
    (errors : ∀ message, mentions texts message = false → ∃ outputs, handler (.error message) = print outputs) :
    Finishes (Underway pace since going sent received first outcomes) (receiver >>= handler)
      (fun _ => Closes pace since going sent received first stream answered) := by
  refine triple_bind receives fun value => triple_given fun same => ?_
  rw [same]
  cases ends with
  | answered isSequence =>
    obtain ⟨before, after, counts⟩ := replies _
    rw [counts, isSequence]
    exact underway_countReply isOpen distinct before after
  | lost unlike =>
    obtain ⟨outputs, prints⟩ := errors _ unlike
    rw [prints]
    exact triple_conseq (underway_print outputs) (fun _ underway => underway) fun _ _ underway => underway.gaveUp

end

/-! ### What the waits read -/

theorem Ipv4Wait.ends {crate : Crate} (follows : crate.FollowsRfcs) {identifier seq : UInt16} {answered : Bool}
    {outcomes : List RecvOutcome} (waits : Ipv4Wait identifier seq answered outcomes) (rest : List RecvOutcome) :
    ∃ result, receiveIcmpReply crate identifier (outcomes ++ rest) = some { result, rest } ∧
      Ends IcmpReply.sequence PingImpl.icmpErrorTexts seq answered result := by
  cases waits with
  | answered passed long isReply ours same =>
    rw [List.append_assoc, receiveIcmpReply_skips follows _ passed]
    exact ⟨_, receiveIcmpReply_reply follows _ long isReply ours rest, .answered same⟩
  | lost passed unlike =>
    rw [List.append_assoc]
    exact ⟨_, receiveIcmpReply_timeout follows _ passed _ rest, .lost unlike⟩

theorem receiveIcmpv6Reply_reply {crate : Crate} (follows : crate.FollowsRfcs) (showIpv6 : Ipv6Addr → String)
    {identifier : UInt16} {reply : Bytes} (source : Ipv6Addr) (long : 8 ≤ reply.length)
    (isReply : byteAt reply 0 = Icmpv6Types.EchoReply) (ours : u16At reply 4 = identifier) (rest : List RecvOutcome) :
    receiveIcmpv6Reply crate showIpv6 identifier (.ok { bytes := reply, addr := some source } :: rest) =
      some { result := .ok ⟨u16At reply 6, (reply.take RECV_BUFFER_V6).length, source⟩, rest } := by
  have cutLong : 8 ≤ (reply.take RECV_BUFFER_V6).length := by
    rw [List.length_take, RECV_BUFFER_V6]
    omega
  -- type, identifier and sequence number are in the buffer
  rw [← byteAt_take (show 0 < RECV_BUFFER_V6 by decide)] at isReply
  rw [← u16At_take (show 5 < RECV_BUFFER_V6 by decide)] at ours
  rw [← u16At_take (show 7 < RECV_BUFFER_V6 by decide), receiveIcmpv6Reply]
  generalize reply.take RECV_BUFFER_V6 = packet at *
  simp [follows.icmpv6.new, follows.icmpv6.icmpType, follows.icmpv6.newEchoReply, follows.icmpv6.identifier,
    follows.icmpv6.sequenceNumber, cutLong, show 4 ≤ packet.length by omega, isReply, ours]

theorem receiveIcmpv6Reply_passes {crate : Crate} (follows : crate.FollowsRfcs) (showIpv6 : Ipv6Addr → String)
    {identifier : UInt16} {skipped : List RecvOutcome} (passed : ∀ outcome ∈ skipped, Ipv6PassedOver identifier outcome)
    (rest : List RecvOutcome) :
    receiveIcmpv6Reply crate showIpv6 identifier (skipped ++ rest) = receiveIcmpv6Reply crate showIpv6 identifier rest := by
  induction skipped with
  | nil => rfl
  | cons outcome skipped inductionHypothesis =>
    obtain ⟨first, later⟩ := List.forall_mem_cons.mp passed
    rw [List.cons_append]
    cases first with
    | message isForeign =>
      rw [receiveIcmpv6Reply_passedOver follows _ isForeign]
      exact inductionHypothesis later
    | wouldBlock message => exact inductionHypothesis later

theorem Ipv6Wait.ends {crate : Crate} (follows : crate.FollowsRfcs) (showIpv6 : Ipv6Addr → String)
    {identifier seq : UInt16} {answered : Bool} {outcomes : List RecvOutcome}
    (waits : Ipv6Wait identifier seq answered outcomes) (rest : List RecvOutcome) :
    ∃ result, receiveIcmpv6Reply crate showIpv6 identifier (outcomes ++ rest) = some { result, rest } ∧
      Ends Icmpv6Reply.sequence Ping6Common.icmpErrorTexts seq answered result := by
  cases waits with
  | answered passed source long isReply ours same =>
    rw [List.append_assoc, receiveIcmpv6Reply_passes follows showIpv6 passed]
    exact ⟨_, receiveIcmpv6Reply_reply follows showIpv6 source long isReply ours rest, .answered same⟩
  | @lost _ passed timeout returns unlike =>
    rw [List.append_assoc, receiveIcmpv6Reply_passes follows showIpv6 passed]
    refine ⟨.error timeout.message, ?_, .lost unlike⟩
    rw [List.singleton_append, receiveIcmpv6Reply]
    cases kind : timeout.kind with
    | wouldBlock => exact absurd kind returns
    | timedOut => rfl
    | other => rfl

/-- The first requests, and the others. -/
theorem Family.Reads.split {family : Family} {identifier : UInt16} {number size : Nat} {ends : List Bool}
    {stream : List RecvOutcome} (reads : family.Reads identifier number ends stream) (fits : size ≤ ends.length) :
    ∃ early late first second, ends = early ++ late ∧ early.length = size ∧ stream = first ++ second ∧
      family.Reads identifier number early first ∧ family.Reads identifier (number + size) late second := by
  induction size generalizing number ends stream with
  | zero => exact ⟨[], ends, [], stream, rfl, rfl, rfl, .done number, reads⟩
  | succ size inductionHypothesis =>
    cases reads with
    | done => cases fits
    | next waits reads =>
      obtain ⟨early, late, first, second, rfl, rfl, rfl, readsEarly, readsLate⟩ :=
        inductionHypothesis reads (Nat.le_of_succ_le_succ fits)
      rw [Nat.add_right_comm] at readsLate
      exact ⟨_ :: early, late, _, second, rfl, rfl, (List.append_assoc ..).symm, .next waits readsEarly, readsLate⟩

/-! ### Turns and loops -/

section

variable {pace : Duration} {since : Instant} {going : Bool} {sent received first : Nat} {stream : List RecvOutcome}

/-- The process sends the request that comes next. -/
def SendsNext (send : UInt16 → Proc World (Option String)) : Prop :=
  ∀ {pace since going sent received first stream}, Finishes (Underway pace since going sent received first stream)
    (send (UInt16.ofNat (sent + 1))) (fun failure world => failure = none ∧
      Underway pace since going (sent + 1) received first stream world)

/-- The process waits for the reply to the first open request, and counts it. -/
def Answers (family : Family) (identifier : UInt16) (answer : Proc World Unit) : Prop :=
  ∀ {pace since going sent received first answered outcomes rest}, first ≤ sent → Distinct first sent →
    family.Waits identifier (UInt16.ofNat first) answered outcomes →
    Finishes (Underway pace since going sent received first (outcomes ++ rest)) answer
      (fun _ => Closes pace since going sent received first rest answered)

variable {pgConfig : PingConfig} {count : UInt32}

theorem countReached_underway (isCount : pgConfig.count = some count) (atMost : sent ≤ count.toNat) {world : World}
    (underway : Underway pace since going sent received first stream world) :
    countReached pgConfig world.status = decide (sent = count.toNat) := by
  have bound := count.toNat_lt
  have same : (UInt32.ofNat sent).toNat = sent := by
    rw [UInt32.toNat_ofNat']
    exact Nat.mod_eq_of_lt (by omega)
  rw [countReached, isCount, underway.transmitted]
  refine decide_eq_decide.mpr ?_
  rw [UInt32.le_iff_toNat_le, same]
  omega

theorem underway_timeoutOrCountExit (isCount : pgConfig.count = some count) (undated : pgConfig.deadline = 0)
    (atMost : sent ≤ count.toNat) :
    Finishes (Underway pace since true sent received first stream) (timeoutOrCountExit pgConfig)
      (fun exits world => exits = decide (sent = count.toNat) ∧
        Underway pace since (decide (sent ≠ count.toNat)) sent received first stream world) := by
  refine triple_get_bind fun seen underway => ?_
  rw [countReached_underway isCount atMost underway, undated]
  by_cases reached : sent = count.toNat
  · rw [decide_eq_true reached, if_pos rfl]
    refine triple_bind (triple_modify fun world same => ?_) fun _ => triple_pure fun world stopped => ⟨rfl, stopped⟩
    rw [same, decide_eq_false (not_not.mpr reached)]
    exact { underway with running := rfl, calm := { underway.calm with } }
  · rw [decide_eq_false reached, if_neg Bool.false_ne_true, if_neg (Nat.lt_irrefl 0), decide_eq_true reached]
    exact triple_pure fun world same => ⟨rfl, same ▸ underway⟩

/-- Before the count is reached the session goes on. -/
theorem underway_stays (isCount : pgConfig.count = some count) (undated : pgConfig.deadline = 0)
    (below : sent < count.toNat) :
    Finishes (Underway pace since true sent received first stream) (timeoutOrCountExit pgConfig)
      (fun exits world => exits = false ∧ Underway pace since true sent received first stream world) := by
  have stays := @underway_timeoutOrCountExit pace since sent received first stream _ _ isCount undated below.le
  rw [decide_eq_false below.ne, decide_eq_true below.ne] at stays
  exact stays

theorem underway_loopBoundary :
    Finishes (Underway pace since going sent received first stream) loopBoundary
      (fun _ => Underway pace since going sent received first stream) := underway_note rfl

/-- Behind the turn for the last request the session ends. -/
theorem underway_echoTurn {family : Family} {identifier : UInt16} {send : UInt16 → Proc World (Option String)}
    {answer : UInt16 → Proc World Unit} (isCount : pgConfig.count = some count) (undated : pgConfig.deadline = 0)
    (sends : SendsNext send) (answers : ∀ seq, Answers family identifier (answer seq)) (endsOnFailure : Bool)
    {answered : Bool} {outcomes : List RecvOutcome} (below : sent < count.toNat)
    (waits : family.Waits identifier (UInt16.ofNat (sent + 1)) answered outcomes) :
    Finishes (Underway pace since true sent received (sent + 1) (outcomes ++ stream))
      (echoTurn pgConfig send endsOnFailure answer (UInt16.ofNat (sent + 1)))
      (Turn.post (fun next world => sent + 1 ≠ count.toNat ∧ next = UInt16.ofNat (sent + 1 + 1) ∧
          Closes pace since true (sent + 1) received (sent + 1) stream answered world)
        fun _ world => sent + 1 = count.toNat ∧
          Closes pace since false (sent + 1) received (sent + 1) stream answered world) := by
  refine triple_bind underway_loopBoundary fun _ => triple_bind underway_isRunning fun running => triple_given
    fun isTrue => ?_
  rw [isTrue]
  refine triple_bind sends fun failure => triple_given fun isNone => ?_
  rw [isNone, Option.isSome_none, Bool.and_false]
  have alone : Distinct (sent + 1) (sent + 1) := fun number more atMost => by omega
  refine triple_bind (answers _ le_rfl alone waits) fun _ => ?_
  refine triple_bind (underway_timeoutOrCountExit isCount undated below) fun exits => triple_given fun isExit => ?_
  by_cases reached : sent + 1 = count.toNat
  · rw [isExit, decide_eq_true reached, decide_eq_false (not_not.mpr reached)]
    exact triple_pure fun world closed => ⟨reached, closed⟩
  · rw [isExit, decide_eq_false reached, decide_eq_true reached]
    exact triple_pure fun world closed => ⟨reached, (UInt16.ofNat_add ..).symm, closed⟩

theorem underway_echoLoop {family : Family} {identifier : UInt16} {send : UInt16 → Proc World (Option String)}
    {answer : UInt16 → Proc World Unit} (isCount : pgConfig.count = some count) (undated : pgConfig.deadline = 0)
    (sends : SendsNext send) (answers : ∀ seq, Answers family identifier (answer seq)) (endsOnFailure : Bool)
    {ends : List Bool} {fuel : Nat} {rest : List RecvOutcome} (some : ends ≠ [])
    (total : sent + ends.length = count.toNat) (enough : ends.length ≤ fuel)
    (reads : family.Reads identifier (sent + 1) ends stream) :
    Finishes (Underway pace since true sent received (sent + 1) (stream ++ rest))
      (do forever (echoTurn pgConfig send endsOnFailure answer) fuel (UInt16.ofNat (sent + 1)); loopBoundary)
      (fun _ => Underway pace since false count.toNat (received + ends.count true) (count.toNat + 1) rest) := by
  refine triple_bind ?_ fun _ => underway_loopBoundary
  induction ends generalizing sent received stream fuel with
  | nil => exact absurd rfl some
  | cons answered ends inductionHypothesis =>
    rw [List.length_cons] at total enough
    cases fuel with
    | zero => omega
    | succ fuel =>
      cases reads with
      | @next _ _ _ outcomes later waits reads =>
        have turn := @underway_echoTurn pace since sent received (later ++ rest) _ _ _ _ _ _ isCount undated sends
          answers
          endsOnFailure _ _ (by omega) waits
        rw [List.append_assoc, List.count_cons, Nat.add_comm (ends.count true), ← Nat.add_assoc]
        have here : (if answered == true then 1 else 0) = answered.toNat := by cases answered <;> rfl
        rw [here]
        refine triple_bind turn fun ended => ?_
        cases ended with
        | exit =>
          refine triple_given fun reached => triple_pure fun world closed => ?_
          have none : ends = [] := List.length_eq_zero_iff.mp (by omega)
          rw [none, ← reached]
          cases none
          cases reads
          exact closed
        | next seq =>
          refine triple_given fun notReached => triple_given fun isNext => ?_
          rw [isNext]
          have more : ends ≠ [] := fun none => notReached (by rw [none] at total; exact total)
          exact inductionHypothesis more (by omega) (by omega) reads

/-- The requests of the preload. -/
theorem underway_sendPreload {send : UInt16 → Proc World (Option String)} (sends : SendsNext send) (preload : Nat) :
    Finishes (Underway pace since going 0 0 1 stream)
      (do let _ ← forRange (fun _ => preloadTurn send) 0 preload 1; loopBoundary)
      (fun _ => Underway pace since going preload 0 1 stream) := by
  have turn : ∀ index seq, 0 ≤ index → index < 0 + preload →
      Finishes (fun world => seq = UInt16.ofNat (index + 1) ∧ Underway pace since going index 0 1 stream world)
        (preloadTurn send seq) (Turn.post (fun next world => next = UInt16.ofNat (index + 1 + 1) ∧
          Underway pace since going (index + 1) 0 1 stream world) fun _ _ => False) := by
    refine fun index seq _ _ => triple_given fun isSeq => ?_
    rw [isSeq]
    exact triple_bind underway_loopBoundary fun _ => triple_bind sends fun _ => triple_pure fun _ sent =>
      ⟨(UInt16.ofNat_add ..).symm, sent.2⟩
  have loop := triple_forRange _ turn 1
  refine triple_bind (triple_conseq loop (fun _ underway => ⟨rfl, underway⟩) fun _ _ reached => reached) fun ended => ?_
  cases ended with
  | exit => exact fun _ never => never.elim
  | next seq =>
    rw [Nat.zero_add]
    exact triple_given fun _ => underway_loopBoundary

/-- The replies to the preload. The count is not reached yet. -/
theorem underway_replyLoop {family : Family} {identifier : UInt16} {answer : Proc World Unit} {exits : Proc World Bool}
    (answers : Answers family identifier answer)
    (stays : ∀ {received first stream}, Finishes (Underway pace since true sent received first stream) exits
      (fun exits world => exits = false ∧ Underway pace since true sent received first stream world))
    (small : sent < 65536) {ends : List Bool} {rest : List RecvOutcome} (total : first + ends.length ≤ sent + 1)
    (positive : 0 < first) (reads : family.Reads identifier first ends stream) (index : Nat) :
    Finishes (Underway pace since true sent received first (stream ++ rest))
      (do let _ ← forRange (fun _ _ => replyTurn answer exits) index ends.length (); loopBoundary)
      (fun _ => Underway pace since true sent (received + ends.count true) (first + ends.length) rest) := by
  have loop : Finishes (Underway pace since true sent received first (stream ++ rest))
      (forRange (fun _ _ => replyTurn answer exits) index ends.length ())
      (fun _ => Underway pace since true sent (received + ends.count true) (first + ends.length) rest) := by
    induction ends generalizing received first stream index with
    | nil =>
      cases reads
      exact triple_pure fun _ underway => underway
    | cons answered ends inductionHypothesis =>
      rw [List.length_cons] at total
      have distinct : Distinct first sent := fun number more atMost same => by
        have equal := congrArg UInt16.toNat same
        rw [UInt16.toNat_ofNat', UInt16.toNat_ofNat', Nat.mod_eq_of_lt (by omega), Nat.mod_eq_of_lt (by omega)] at equal
        omega
      have here : (if answered == true then 1 else 0) = answered.toNat := by cases answered <;> rfl
      have next : first + (ends.length + 1) = first + 1 + ends.length := by omega
      rw [List.count_cons, Nat.add_comm (ends.count true), ← Nat.add_assoc, here, List.length_cons, next]
      cases reads with
      | @next _ _ _ outcomes later waits reads =>
        rw [List.append_assoc]
        have turn : Finishes (Underway pace since true sent received first (outcomes ++ (later ++ rest)))
            (replyTurn answer exits)
            (fun turn world => turn = .next () ∧ Closes pace since true sent received first
              (later ++ rest) answered world) := by
          refine triple_bind underway_loopBoundary fun _ => triple_bind underway_isRunning fun running =>
            triple_given fun isTrue => ?_
          rw [isTrue]
          refine triple_bind (answers (by omega) distinct waits) fun _ => triple_bind stays fun exits =>
            triple_given fun isFalse => ?_
          rw [isFalse]
          exact triple_pure fun _ closed => ⟨rfl, closed⟩
        refine triple_bind turn fun ended => triple_given fun isNext => ?_
        rw [isNext]
        exact inductionHypothesis (by omega) (Nat.succ_pos _) reads (index + 1)
  exact triple_bind loop fun _ => underway_loopBoundary

theorem underway_batch {family : Family} {identifier : UInt16} {send : UInt16 → Proc World (Option String)}
    {answer : Proc World Unit} {exits : Proc World Bool} (sends : SendsNext send)
    (answers : Answers family identifier answer)
    (stays : ∀ {received first stream}, Finishes (Underway pace since true sent received first stream) exits
      (fun exits world => exits = false ∧ Underway pace since true sent received first stream world))
    (small : sent < 65536) {ends : List Bool} {rest : List RecvOutcome} (total : ends.length = sent)
    (reads : family.Reads identifier 1 ends stream) :
    Finishes (Underway pace since true 0 0 1 (stream ++ rest))
      ((do let _ ← forRange (fun _ => preloadTurn send) 0 sent 1; loopBoundary : Proc World Unit) >>= fun _ =>
        do let _ ← forRange (fun _ _ => replyTurn answer exits) 0 sent (); loopBoundary)
      (fun _ => Underway pace since true sent (ends.count true) (sent + 1) rest) := by
  have replies := @underway_replyLoop pace since sent 0 1 stream _ _ _ _ answers stays small ends rest (by omega)
    Nat.one_pos reads 0
  rw [total, Nat.zero_add, Nat.add_comm 1] at replies
  exact triple_bind (underway_sendPreload sends _) fun _ => replies

theorem seq_behind_preload (pgConfig : PingConfig) :
    pgConfig.preload + 1 = UInt16.ofNat (pgConfig.preload.toNat + 1) := by
  rw [UInt16.ofNat_add, UInt16.ofNat_toNat]
  rfl

/-- The session goes on behind the preload. -/
theorem underway_preload {sendsAndReceives : Proc World Unit} (isCount : pgConfig.count = some count)
    (undated : pgConfig.deadline = 0) (below : pgConfig.preload.toNat < count.toNat) {rest : List RecvOutcome}
    (batch : Finishes (Underway pace since true 0 0 1 stream) sendsAndReceives
      (fun _ => Underway pace since true pgConfig.preload.toNat received (pgConfig.preload.toNat + 1) rest))
    (empty : pgConfig.preload.toNat = 0 → stream = rest ∧ received = 0) :
    Finishes (Underway pace since true 0 0 1 stream)
      (if 0 < pgConfig.preload then do
        sendsAndReceives
        timeoutOrCountExit pgConfig
      else pure false)
      (fun ended world => ended = false ∧
        Underway pace since true pgConfig.preload.toNat received (pgConfig.preload.toNat + 1) rest world) := by
  split
  · exact triple_bind batch fun _ => underway_stays isCount undated below
  · next none =>
    have zero : pgConfig.preload.toNat = 0 := by
      rw [UInt16.lt_iff_toNat_lt] at none
      exact Nat.eq_zero_of_not_pos none
    obtain ⟨rfl, rfl⟩ := empty zero
    rw [zero]
    exact triple_pure fun _ underway => ⟨rfl, underway⟩

/-! ### The end of a session -/

/-- So many requests were made, numbered from one, and the summary at the end of the run says what has come of them. -/
structure Reported (count : UInt32) (received : Nat) (world : World) : Prop where
  requests : requested world.log = numbered count.toNat
  summary : world.log.getLast?.map (·.event) =
    some (.summary (some (count, UInt32.ofNat received, 0, UInt32.ofNat (count.toNat - received))))

theorem underway_printSummary (positive : 0 < count) (atMost : received ≤ count.toNat) :
    Finishes (Underway pace since going count.toNat received first stream)
      (do printSummary; pure (.ok ()) : Proc World (Except String Unit))
      (fun result world => result = .ok () ∧ Reported count received world) := by
  intro world underway
  have bound := count.toNat_lt
  have same : (UInt32.ofNat received).toNat = received := by
    rw [UInt32.toNat_ofNat']
    exact Nat.mod_eq_of_lt (by omega)
  have fewer : UInt32.ofNat received ≤ count := by
    rw [UInt32.le_iff_toNat_le, same]
    exact atMost
  have lost : count - UInt32.ofNat received = UInt32.ofNat (count.toNat - received) := by
    apply UInt32.toNat_inj.mp
    rw [UInt32.toNat_sub_of_le _ _ fewer, same, UInt32.toNat_ofNat', Nat.mod_eq_of_lt (by omega)]
  have counts : world.status.summary =
      some (count, UInt32.ofNat received, 0, UInt32.ofNat (count.toNat - received)) := by
    rw [PingStats.summary, underway.transmitted, underway.counted, underway.faultless, UInt32.ofNat_toNat,
      if_pos positive,
      if_pos fewer, lost]
  have ran : (do printSummary; pure (.ok ()) : Proc World (Except String Unit)) world =
      .done (.ok ()) (world.note (.summary world.status.summary)) := by
    show (do (if world.status.summary.isSome then pure () else stop); pure (.ok ()) : Proc World (Except String Unit))
      (world.note (.summary world.status.summary)) = _
    rw [counts]
    rfl
  rw [ran, counts]
  refine ⟨rfl, (underway.note rfl).requests, ?_⟩
  rw [World.note, World.enter, List.getLast?_concat]
  rfl

end

/-! ## IPv4 -/

namespace PingImpl

section

variable {crate : Crate} (follows : crate.FollowsRfcs) {platform : Platform} {pgConfig : PingConfig}
include follows

theorem sendsNext_sendEcho : SendsNext (sendEcho crate platform pgConfig) :=
  underway_sendRequest platform pgConfig fun request => by rw [IcmpEchoRequest.buildPacket_bytes follows]; rfl

theorem answers_answerPreload : Answers .ipv4 pgConfig.identifier (answerPreload crate pgConfig) := by
  intro pace since going sent received first answered outcomes rest isOpen distinct waits
  obtain ⟨result, reads, ends⟩ := Ipv4Wait.ends follows waits rest
  refine underway_answer (underway_receive IcmpReply.sequence reads) ends isOpen distinct (fun reply => ⟨_, _, rfl⟩)
    fun message unlike => ⟨[], ?_⟩
  simp only [unlike]
  rfl

omit follows in
/-- The timeout is set and reset without failure. -/
theorem underway_receiveIcmpReplyWithTimeout {pace : Duration} {since : Instant} {going : Bool}
    {sent received first : Nat}
    {outcomes rest : List RecvOutcome} {result : Except String IcmpReply}
    (reads : receiveIcmpReply crate pgConfig.identifier (outcomes ++ rest) = some { result, rest }) :
    Finishes (Underway pace since going sent received first (outcomes ++ rest))
      (receiveIcmpReplyWithTimeout crate pgConfig)
      (fun value world => value = result ∧ Underway pace since going sent received first rest world) := by
  refine triple_bind underway_setReadTimeout fun failure => triple_given fun isNone => ?_
  rw [isNone]
  refine triple_bind (underway_receive IcmpReply.sequence reads) fun value => triple_given fun isResult => ?_
  refine triple_bind underway_setReadTimeout fun failure => triple_given fun isNone => ?_
  rw [isNone]
  exact triple_pure fun _ underway => ⟨isResult, underway⟩

theorem answers_answerFlood : Answers .ipv4 pgConfig.identifier (answerFlood crate pgConfig) := by
  intro pace since going sent received first answered outcomes rest isOpen distinct waits
  obtain ⟨result, reads, ends⟩ := Ipv4Wait.ends follows waits rest
  refine triple_bind (underway_print _) fun _ => underway_answer (underway_receiveIcmpReplyWithTimeout reads)
    ends isOpen distinct (fun reply => ⟨_, _, rfl⟩) fun message unlike => ⟨[], ?_⟩
  simp only [unlike]
  rfl

theorem answers_answerMain (seq : UInt16) : Answers .ipv4 pgConfig.identifier (answerMain crate pgConfig seq) := by
  intro pace since going sent received first answered outcomes rest isOpen distinct waits
  obtain ⟨result, reads, ends⟩ := Ipv4Wait.ends follows waits rest
  unfold answerMain
  split
  · rw [← receiveIcmpReplyWithTimestamp_eq] at reads
    refine underway_answer (underway_receive IcmpReply.sequence reads) ends isOpen distinct (fun reply => ⟨_, _, rfl⟩)
      fun message unlike => ⟨noReplyIf pgConfig seq, ?_⟩
    simp only [unlike]
    rfl
  · refine underway_answer (underway_receiveIcmpReplyWithTimeout reads) ends isOpen distinct
      (fun reply => ⟨_, _, rfl⟩) fun message unlike => ⟨noReplyIf pgConfig seq, ?_⟩
    simp only [unlike]
    rfl

omit follows in
/-- A turn of the final listening loop reads a timeout, unless the time is over. -/
theorem underway_listenTurn {pace : Duration} {since : Instant} {sent received first : Nat}
    (finalListenStart : Instant) (silences : List IoError)
    (timeUp : silences = [] → finalListenStart + Duration.fromMillis 500 ≤ since) :
    Finishes (Underway pace since false sent received first (silences.map .error))
      (listenTurn crate pgConfig finalListenStart ())
      (Turn.post (fun _ world => silences ≠ [] ∧
          Underway pace (since + pace) false sent received first (silences.tail.map .error) world)
        fun _ world => ∃ since rest, Underway pace since false sent received first rest world) := by
  refine triple_bind underway_loopBoundary fun _ => triple_bind underway_reading fun reading => triple_given
    fun late => ?_
  split
  · next early =>
    cases silences with
    | nil =>
      exact absurd early (Nat.not_lt.mpr (Nat.le_sub_of_add_le' ((timeUp rfl).trans late)))
    | cons silence silences =>
      have reads : receiveIcmpReply crate pgConfig.identifier ([.error silence] ++ silences.map .error) =
        some { result := .error silence.message, rest := silences.map .error } := rfl
      refine triple_bind (underway_receiveIcmpReplyWithTimeout reads) fun result => triple_given fun isError => ?_
      rw [isError]
      refine triple_pure fun _ underway => ⟨List.cons_ne_nil _ _, { underway with late := ?_ }⟩
      exact (Nat.add_le_add_right late pace).trans underway.late
  · exact triple_pure fun _ underway => ⟨_, _, underway⟩

omit follows in
/-- The final listening loop reads timeouts until its time is over. -/
theorem underway_listenLoop {pace : Duration} {since : Instant} {sent received first fuel : Nat}
    (finalListenStart : Instant) (silences : List IoError)
    (long : finalListenStart + Duration.fromMillis 500 ≤ since + pace * silences.length)
    (enough : silences.length < fuel) :
    Finishes (Underway pace since false sent received first (silences.map .error))
      (forever (listenTurn crate pgConfig finalListenStart) fuel ())
      (fun _ world => ∃ since rest, Underway pace since false sent received first rest world) := by
  induction silences generalizing since fuel with
  | nil =>
    cases fuel with
    | zero => cases enough
    | succ fuel =>
      refine triple_bind (underway_listenTurn finalListenStart [] fun _ => long) fun turn => ?_
      cases turn with
      | next => exact triple_given fun some => absurd rfl some
      | exit => exact triple_pure fun _ ended => ended
  | cons silence silences inductionHypothesis =>
    cases fuel with
    | zero => cases enough
    | succ fuel =>
      refine triple_bind (underway_listenTurn finalListenStart (silence :: silences) nofun) fun turn => ?_
      cases turn with
      | next =>
        refine triple_given fun _ => inductionHypothesis ?_ (Nat.lt_of_succ_lt_succ enough)
        rw [List.length_cons, Nat.mul_succ, Nat.add_comm (pace * _), ← Nat.add_assoc] at long
        exact long
      | exit => exact triple_pure fun _ ended => ended

omit follows in
theorem underway_finalListen {pace : Duration} {since : Instant} {sent received first fuel : Nat}
    (silences : List IoError) (long : Duration.fromMillis 500 ≤ pace * silences.length)
      (enough : silences.length < fuel) :
    Finishes (Underway pace since false sent received first (silences.map .error)) (finalListen crate pgConfig fuel)
      (fun _ world => ∃ since rest, Underway pace since false sent received first rest world) := by
  refine triple_bind underway_reading fun start => triple_given fun _ => ?_
  refine triple_bind (underway_listenLoop start silences
    ((Nat.add_le_add_left long start).trans (Nat.add_le_add_right (Nat.le_add_right start pace) _)) enough) fun _ => ?_
  exact triple_exists fun since => triple_exists fun rest => triple_conseq underway_loopBoundary (fun _ ended => ended)
    fun _ _ ended => ⟨since, rest, ended⟩

theorem underway_floodPing {pace : Duration} {since : Instant} {count : UInt32} {ends : List Bool}
    {stream rest : List RecvOutcome} {fuel : Nat} (isCount : pgConfig.count = some count)
    (undated : pgConfig.deadline = 0) (some : ends ≠ []) (total : ends.length = count.toNat)
    (enough : count.toNat ≤ fuel) (reads : Family.ipv4.Reads pgConfig.identifier 1 ends stream) :
    Finishes (Underway pace since true 0 0 1 (stream ++ rest)) (floodPing crate platform pgConfig fuel)
      (fun _ => Underway pace since false count.toNat (ends.count true) (count.toNat + 1) rest) := by
  have loop := @underway_echoLoop pace since 0 0 stream pgConfig count .ipv4 pgConfig.identifier
    (sendEcho crate platform pgConfig) (fun _ => answerFlood crate pgConfig) isCount undated
    (sendsNext_sendEcho follows) (fun _ => answers_answerFlood follows) false ends fuel rest some (by omega) (by omega)
    reads
  simp only [Nat.zero_add] at loop
  exact loop

theorem underway_preload {pace : Duration} {since : Instant} {count : UInt32} {ends : List Bool}
    {stream rest : List RecvOutcome} (isCount : pgConfig.count = some count) (undated : pgConfig.deadline = 0)
    (total : ends.length = pgConfig.preload.toNat) (below : pgConfig.preload.toNat < count.toNat)
    (reads : Family.ipv4.Reads pgConfig.identifier 1 ends stream) :
    Finishes (Underway pace since true 0 0 1 (stream ++ rest)) (preload crate platform pgConfig)
      (fun ended world => ended = false ∧
        Underway pace since true pgConfig.preload.toNat (ends.count true) (pgConfig.preload.toNat + 1) rest world) := by
  have small := pgConfig.preload_le
  refine Ping.underway_preload isCount undated below (underway_batch (sendsNext_sendEcho follows)
    (answers_answerPreload follows) (underway_stays isCount undated below) (by omega) total reads) fun zero => ?_
  rw [zero] at total
  cases List.length_eq_zero_iff.mp total
  cases reads
  exact ⟨rfl, rfl⟩

theorem underway_mainLoop {pace : Duration} {since : Instant} {sent received : Nat} {count : UInt32} {ends : List Bool}
    {stream rest : List RecvOutcome} {fuel : Nat} (isCount : pgConfig.count = some count)
    (undated : pgConfig.deadline = 0) (some : ends ≠ []) (total : sent + ends.length = count.toNat)
    (enough : ends.length ≤ fuel) (reads : Family.ipv4.Reads pgConfig.identifier (sent + 1) ends stream) :
    Finishes (Underway pace since true sent received (sent + 1) (stream ++ rest))
      (mainLoop crate platform pgConfig fuel (UInt16.ofNat (sent + 1)))
      (fun _ => Underway pace since false count.toNat (received + ends.count true) (count.toNat + 1) rest) :=
  underway_echoLoop isCount undated (sendsNext_sendEcho follows) (answers_answerMain follows) true some total enough
    reads

/-- The run behind its start. -/
theorem reported_ping4Run {pace : Duration} {count : UInt32} {ends : List Bool} {stream : List RecvOutcome}
    {silences : List IoError} {fuel : Nat} (isCount : pgConfig.count = some count) (undated : pgConfig.deadline = 0)
    (total : ends.length = count.toNat) (preloads : pgConfig.flood = true ∨ pgConfig.preload.toNat < count.toNat)
    (positive : 0 < count) (long : Duration.fromMillis 500 ≤ pace * silences.length)
    (enough : max count.toNat (silences.length + 1) ≤ fuel)
    (reads : Family.ipv4.Reads pgConfig.identifier 1 ends stream) :
    Finishes (Underway pace 0 true 0 0 1 (stream ++ silences.map .error)) (ping4Run crate platform pgConfig fuel)
      (fun result world => result = .ok () ∧ Reported count (ends.count true) world) := by
  have enoughTurns : count.toNat ≤ fuel := (le_max_left ..).trans enough
  have enoughSilence : silences.length < fuel := (le_max_right ..).trans enough
  have nonzero : 0 < count.toNat := UInt32.lt_iff_toNat_lt.mp positive
  have atMost : ends.count true ≤ count.toNat := total ▸ List.count_le_length
  refine triple_bind underway_setStartTime fun _ => triple_bind (underway_print _) fun _ =>
    triple_bind (underway_connect pgConfig) fun failure => triple_given fun isNone => ?_
  rw [isNone]
  by_cases floods : pgConfig.flood = true
  · have some : ends ≠ [] := List.ne_nil_of_length_pos (total ▸ nonzero)
    simp only [floods, if_true]
    exact triple_bind (underway_floodPing follows isCount undated some total enoughTurns reads) fun _ =>
      underway_printSummary positive atMost
  · have below := preloads.resolve_left floods
    -- the answers to the preload, and those to the main loop
    obtain ⟨early, late, first, second, rfl, size, rfl, readsEarly, readsLate⟩ := reads.split (total ▸ below.le)
    rw [List.length_append, size] at total
    rw [Nat.add_comm 1] at readsLate
    have some : late ≠ [] := List.ne_nil_of_length_pos (by omega)
    rw [List.append_assoc, if_neg floods, List.count_append]
    rw [List.count_append] at atMost
    refine triple_bind (underway_preload follows isCount undated size below readsEarly) fun ended =>
      triple_given fun goesOn => ?_
    rw [goesOn, if_neg Bool.false_ne_true, seq_behind_preload]
    refine triple_bind (underway_mainLoop follows isCount undated some total (by omega) readsLate) fun _ =>
      triple_bind (underway_finalListen silences long enoughSilence) fun _ => ?_
    exact triple_exists fun since => triple_exists fun rest => underway_printSummary positive atMost

end

end PingImpl

/-! ## IPv6 -/

namespace Ping6Common

section

variable {crate : Crate} (follows : crate.FollowsRfcs) {platform : Platform} {showIpv6 : Ipv6Addr → String}
  {pgConfig : PingConfig}
include follows

theorem sendsNext_sendEcho : SendsNext (sendEcho crate platform pgConfig) :=
  underway_sendRequest platform pgConfig fun request => by rw [IcmpEchoRequest.buildPacketV6_bytes follows]; rfl

theorem answers_answerPreload : Answers .ipv6 pgConfig.identifier (answerPreload crate showIpv6 pgConfig) := by
  intro pace since going sent received first answered outcomes rest isOpen distinct waits
  obtain ⟨result, reads, ends⟩ := Ipv6Wait.ends follows showIpv6 waits rest
  exact underway_answer (underway_receive Icmpv6Reply.sequence reads) ends isOpen distinct (fun reply => ⟨_, _, rfl⟩)
    fun message _ => ⟨[], rfl⟩

theorem answers_answerFlood : Answers .ipv6 pgConfig.identifier (answerFlood crate showIpv6 pgConfig) := by
  intro pace since going sent received first answered outcomes rest isOpen distinct waits
  obtain ⟨result, reads, ends⟩ := Ipv6Wait.ends follows showIpv6 waits rest
  exact triple_bind (underway_print _) fun _ => underway_answer (underway_receive Icmpv6Reply.sequence reads) ends
    isOpen
    distinct (fun reply => ⟨_, _, rfl⟩) fun message _ => ⟨[], rfl⟩

theorem answers_answerMain (seq : UInt16) :
    Answers .ipv6 pgConfig.identifier (answerMain crate showIpv6 pgConfig seq) := by
  intro pace since going sent received first answered outcomes rest isOpen distinct waits
  obtain ⟨result, reads, ends⟩ := Ipv6Wait.ends follows showIpv6 waits rest
  refine underway_answer (underway_receive Icmpv6Reply.sequence reads) ends isOpen distinct (fun reply => ⟨_, _, rfl⟩)
    fun message unlike => ⟨noReplyIf pgConfig seq, ?_⟩
  simp only [unlike]
  rfl

theorem underway_floodPingV6 {pace : Duration} {since : Instant} {count : UInt32} {ends : List Bool}
    {stream rest : List RecvOutcome} {fuel : Nat} (isCount : pgConfig.count = some count)
    (undated : pgConfig.deadline = 0) (some : ends ≠ []) (total : ends.length = count.toNat)
    (enough : count.toNat ≤ fuel) (reads : Family.ipv6.Reads pgConfig.identifier 1 ends stream) :
    Finishes (Underway pace since true 0 0 1 (stream ++ rest)) (floodPingV6 crate platform showIpv6 pgConfig fuel)
      (fun _ => Underway pace since false count.toNat (ends.count true) (count.toNat + 1) rest) := by
  have loop := @underway_echoLoop pace since 0 0 stream pgConfig count .ipv6 pgConfig.identifier
    (sendEcho crate platform pgConfig) (fun _ => answerFlood crate showIpv6 pgConfig) isCount undated
    (sendsNext_sendEcho follows) (fun _ => answers_answerFlood follows) false ends fuel rest some (by omega) (by omega)
    reads
  simp only [Nat.zero_add] at loop
  exact loop

theorem underway_preload {pace : Duration} {since : Instant} {count : UInt32} {ends : List Bool}
    {stream rest : List RecvOutcome} (isCount : pgConfig.count = some count) (undated : pgConfig.deadline = 0)
    (total : ends.length = pgConfig.preload.toNat) (below : pgConfig.preload.toNat < count.toNat)
    (reads : Family.ipv6.Reads pgConfig.identifier 1 ends stream) :
    Finishes (Underway pace since true 0 0 1 (stream ++ rest)) (preload crate platform showIpv6 pgConfig)
      (fun ended world => ended = false ∧
        Underway pace since true pgConfig.preload.toNat (ends.count true) (pgConfig.preload.toNat + 1) rest world) := by
  have small := pgConfig.preload_le
  refine Ping.underway_preload isCount undated below (underway_batch (sendsNext_sendEcho follows)
    (answers_answerPreload follows) ?_ (by omega) total reads) fun zero => ?_
  · refine triple_get_bind fun seen underway => triple_pure fun world same => ⟨?_, same ▸ underway⟩
    rw [countReached_underway isCount below.le underway]
    exact decide_eq_false below.ne
  · rw [zero] at total
    cases List.length_eq_zero_iff.mp total
    cases reads
    exact ⟨rfl, rfl⟩

theorem underway_mainLoop {pace : Duration} {since : Instant} {sent received : Nat} {count : UInt32} {ends : List Bool}
    {stream rest : List RecvOutcome} {fuel : Nat} (isCount : pgConfig.count = some count)
    (undated : pgConfig.deadline = 0) (some : ends ≠ []) (total : sent + ends.length = count.toNat)
    (enough : ends.length ≤ fuel) (reads : Family.ipv6.Reads pgConfig.identifier (sent + 1) ends stream) :
    Finishes (Underway pace since true sent received (sent + 1) (stream ++ rest))
      (mainLoop crate platform showIpv6 pgConfig fuel (UInt16.ofNat (sent + 1)))
      (fun _ => Underway pace since false count.toNat (received + ends.count true) (count.toNat + 1) rest) :=
  underway_echoLoop isCount undated (sendsNext_sendEcho follows) (answers_answerMain follows) true some total enough
    reads

theorem reported_ping6Run {pace : Duration} {count : UInt32} {ends : List Bool} {stream rest : List RecvOutcome}
    {fuel : Nat} (isCount : pgConfig.count = some count) (undated : pgConfig.deadline = 0)
    (total : ends.length = count.toNat) (preloads : pgConfig.flood = true ∨ pgConfig.preload.toNat < count.toNat)
    (positive : 0 < count) (enough : count.toNat ≤ fuel)
    (reads : Family.ipv6.Reads pgConfig.identifier 1 ends stream) :
    Finishes (Underway pace 0 true 0 0 1 (stream ++ rest)) (ping6Run crate platform showIpv6 pgConfig fuel)
      (fun result world => result = .ok () ∧ Reported count (ends.count true) world) := by
  have nonzero : 0 < count.toNat := UInt32.lt_iff_toNat_lt.mp positive
  have atMost : ends.count true ≤ count.toNat := total ▸ List.count_le_length
  refine triple_bind (underway_connect pgConfig) fun failure => triple_given fun isNone => ?_
  rw [isNone]
  refine triple_bind underway_setStartTime fun _ => triple_bind (underway_print _) fun _ => ?_
  by_cases floods : pgConfig.flood = true
  · have some : ends ≠ [] := List.ne_nil_of_length_pos (total ▸ nonzero)
    rw [if_pos floods]
    exact triple_bind (underway_floodPingV6 follows isCount undated some total enough reads) fun _ =>
      underway_printSummary positive atMost
  · have below := preloads.resolve_left floods
    obtain ⟨early, late, first, second, rfl, size, rfl, readsEarly, readsLate⟩ := reads.split (total ▸ below.le)
    rw [List.length_append, size] at total
    rw [Nat.add_comm 1] at readsLate
    have some : late ≠ [] := List.ne_nil_of_length_pos (by omega)
    rw [List.append_assoc, if_neg floods, List.count_append]
    rw [List.count_append] at atMost
    refine triple_bind (underway_preload follows isCount undated size below readsEarly) fun ended =>
      triple_given fun goesOn => ?_
    rw [goesOn, if_neg Bool.false_ne_true, seq_behind_preload]
    exact triple_bind (underway_mainLoop follows isCount undated some total (by omega) readsLate) fun _ =>
      underway_printSummary positive atMost

end

end Ping6Common

/-! ## The sessions -/

theorem underway_start {pace : Duration} {environment : Environment} (running : environment.running = true)
    (calm : environment.Calm) (paced : Paced pace environment.instants) :
    Underway pace 0 true 0 0 1 environment.recvs (World.start environment) where
  calm := calm
  paced := paced
  late := Nat.zero_le _
  running := running
  recvs := rfl
  transmitted := rfl
  counted := rfl
  faultless := rfl
  requests := rfl
  awaited := fun _ from' upTo => absurd (from'.trans upTo) (Nat.not_succ_le_zero 0)

/-- The reply to the first request of a session with the identifier 7. -/
def firstReply : Ipv4Datagram where
  header := [0x45, 0, 0, 28, 0, 0, 0, 0, 64, 1, 0, 0, 192, 0, 2, 1, 192, 0, 2, 2]
  message := [0, 0, 0, 0, 0, 7, 0, 1]
  header_ge := by decide
  header_length := by decide
  total_length := by decide

def wouldBlock : IoError := ⟨.wouldBlock, "Resource temporarily unavailable (os error 11)"⟩

/-- A network that loses the second of two requests, and a clock that is read every half a second. -/
def losesTheSecond : Environment where
  interrupts := fun _ => false
  instants := fun reading => reading * 500000000
  systemTimes := fun _ => none
  sendFailures := fun _ => none
  readTimeoutFailures := fun _ => none
  recvs := [firstReply.outcome, .error wouldBlock, .error wouldBlock]

def twoRequests : PingConfig := { count := some 2, identifier := 7, packetSize := 0, preload_le := noPreload }

/-- The same network as Linux shows it to an IPv6 session: it never comes to its end. -/
example : (Family.ipv6.run .rfcs ⟨fun _ _ => Vector.replicate 16 0, fun _ => Vector.replicate 4 0⟩ (fun _ => "") twoRequests
    2 (World.start { losesTheSecond with
      recvs := [.ok ⟨[129, 0, 0, 0, 0, 7, 0, 1], some ⟨Vector.replicate 16 0⟩⟩, .error wouldBlock,
        .error wouldBlock] })).isDone =
    false := by
  decide +kernel

end Utiputils.Ping
