import Utiputils.Tracepath.History

/-! # Handling a message of the error queue

Three places dequeue messages: the drain before a probe, the check right after a send, and the wait
loop. Each has its own case analysis, and each is one function here from a message to what it does with
it. -/

namespace Utiputils.Tracepath

/-- What a place does with one message: the TTL it credits, the state it leaves, the lines it prints,
whether it enters the credited TTL into `ttl_responses`, and the response it makes of the message. -/
structure Handled where
  credit : UInt8
  state : RunState
  lines : List Line := []
  marked : Bool := false
  response : Option ResponseType := none
  deriving DecidableEq, Repr

/-- The end of a `[LOCALHOST]` line. -/
def localOutcome (errorInfo : ErrorInfo) : String :=
  if errorInfo.errno = 90 then "pmtu " ++ toString errorInfo.info.toNat
  else if errorInfo.errno = 113 then "!H"
  else if errorInfo.errno = 101 then "!N"
  else if errorInfo.errno = 13 then "!A"
  else ""

/-- The update of the state when the target is reached. -/
def RunState.setReached (runState : RunState) (actualTtl : UInt8) : RunState :=
  { runState with hopsTo := actualTtl, hopsFrom := 1, reached := true }

/-! ## The three places -/

/-- The drain before a probe, in `tracepath_run_udp_ipv6`. -/
def drainMessage (tpConfig : TracepathConfig) (message : Message) (globalState : RunState) : Handled :=
  let errorInfo := message.errorInfo
  let found := findSendHistoryByPort globalState message.receivedPort message.recvTime
  let actualTtl := found.1.1
  let rtt := found.1.2
  let globalState := found.2
  let handled : Handled := { credit := actualTtl, state := globalState, marked := true }
  if errorInfo.errno = 111 then
    { handled with
      lines := [.reached actualTtl globalState.target rtt, printResume tpConfig globalState]
      response := some .reached }
  else if errorInfo.errno = 113 then
    { handled with
      lines := [.unreachable actualTtl rtt, printResume tpConfig globalState]
      response := some .unreachable }
  else if errorInfo.errno = 110 then
    match errorInfo.sourceAddr with
    | some sourceAddr =>
      { handled with lines := [.hop actualTtl sourceAddr rtt], response := some .timeExceeded }
    | none => handled
  else handled

/-- The check right after a send, in `send_udp_probe_ipv6`. -/
def afterSendMessage (tpConfig : TracepathConfig) (message : Message) (runState : RunState) : Handled :=
  let errorInfo := message.errorInfo
  let found := findSendHistoryByPort runState message.receivedPort message.recvTime
  let actualTtl := found.1.1
  let rtt := found.1.2
  let runState := found.2
  let handled : Handled := { credit := actualTtl, state := runState }
  if errorInfo.origin = SO_EE_ORIGIN_LOCAL then
    { handled with lines := [.localhost actualTtl rtt (localOutcome errorInfo)] }
  else if errorInfo.errno = 111 then
    -- the sibling branch of the drain leaves the state as it is
    let reachedState := runState.setReached actualTtl
    { handled with
      state := reachedState
      lines := [.reached actualTtl runState.target rtt, printResume tpConfig reachedState]
      response := some .reached }
  else handled

/-- The body of the wait loop, in `receive_error_queue_with_delayed_response`. -/
def waitMessage (tpConfig : TracepathConfig) (message : Message) (runState : RunState) : Handled :=
  let errorInfo := message.errorInfo
  let found := findSendHistoryByPort runState message.receivedPort message.recvTime
  let actualTtl := found.1.1
  let rtt := found.1.2
  let runState := found.2
  let handled : Handled := { credit := actualTtl, state := runState, marked := true }
  if errorInfo.origin = SO_EE_ORIGIN_LOCAL then
    { handled with
      lines := [.localhost actualTtl rtt (localOutcome errorInfo)]
      response :=
        if errorInfo.errno = 113 ∨ errorInfo.errno = 101 ∨ errorInfo.errno = 13 then some .unreachable
        else some .timeExceeded }
  else if errorInfo.errno = 111 then
    let reachedState := runState.setReached actualTtl
    { handled with
      state := reachedState
      lines := [.reached actualTtl runState.target rtt, printResume tpConfig reachedState]
      response := some .reached }
  else if errorInfo.errno = 113 then
    if errorInfo.origin = SO_EE_ORIGIN_ICMP6 ∧ errorInfo.errorType = ICMPV6_TIME_EXCEED ∧
        errorInfo.code = ICMPV6_EXC_HOPLIMIT then
      match errorInfo.sourceAddr with
      | some sourceAddr =>
        { handled with lines := [.hop actualTtl sourceAddr rtt], response := some .timeExceeded }
      | none => handled
    else { handled with lines := [.unreachable actualTtl rtt], response := some .unreachable }
  else if errorInfo.errno = 110 then
    match errorInfo.sourceAddr with
    | some sourceAddr =>
      { handled with lines := [.hop actualTtl sourceAddr rtt], response := some .timeExceeded }
    | none => handled
  else handled

/-! ## Comparing them -/

/-- The TTL entered as answered. -/
def Handled.answered (handled : Handled) : Option UInt8 :=
  if handled.marked then some handled.credit else none

/-- How the message ends the trace, if it does. -/
def Handled.ends (handled : Handled) : Option ResponseType :=
  match handled.response with
  | some .reached => some .reached
  | some .unreachable => some .unreachable
  | some .timeExceeded | none => none

/-- The fields of the run state that a reached target changes. -/
def Handled.update (handled : Handled) : Bool × UInt8 := (handled.state.reached, handled.state.hopsTo)

/-- Both places report the message, agree on whether it ends the trace, and leave the same update. -/
@[mk_iff] structure Handled.Agrees (left right : Handled) : Prop where
  reported : left.lines ≠ [] ∧ right.lines ≠ []
  ends : left.ends = right.ends
  update : left.update = right.update

/-- The three places treat a message alike. -/
structure TreatedAlike (tpConfig : TracepathConfig) (message : Message) (runState : RunState) : Prop where
  drain_answered : (drainMessage tpConfig message runState).answered =
    (waitMessage tpConfig message runState).answered
  afterSend_answered : (afterSendMessage tpConfig message runState).answered =
    (waitMessage tpConfig message runState).answered
  drain_agrees : (drainMessage tpConfig message runState).Agrees (waitMessage tpConfig message runState)
  afterSend_agrees :
    (afterSendMessage tpConfig message runState).Agrees (waitMessage tpConfig message runState)

section

variable (tpConfig : TracepathConfig) (message : Message) (runState : RunState)

@[simp] theorem drainMessage_credit : (drainMessage tpConfig message runState).credit =
    (findSendHistoryByPort runState message.receivedPort message.recvTime).1.1 := by
  simp only [drainMessage]
  split_ifs <;> first | rfl | (split <;> rfl)

@[simp] theorem afterSendMessage_credit : (afterSendMessage tpConfig message runState).credit =
    (findSendHistoryByPort runState message.receivedPort message.recvTime).1.1 := by
  simp only [afterSendMessage]
  split_ifs <;> rfl

@[simp] theorem waitMessage_credit : (waitMessage tpConfig message runState).credit =
    (findSendHistoryByPort runState message.receivedPort message.recvTime).1.1 := by
  simp only [waitMessage]
  split_ifs <;> first | rfl | (split <;> rfl)

@[simp] theorem drainMessage_marked : (drainMessage tpConfig message runState).marked = true := by
  simp only [drainMessage]
  split_ifs <;> first | rfl | (split <;> rfl)

@[simp] theorem afterSendMessage_marked : (afterSendMessage tpConfig message runState).marked = false := by
  simp only [afterSendMessage]
  split_ifs <;> rfl

@[simp] theorem waitMessage_marked : (waitMessage tpConfig message runState).marked = true := by
  simp only [waitMessage]
  split_ifs <;> first | rfl | (split <;> rfl)

theorem afterSendMessage_frame :
    (afterSendMessage tpConfig message runState).state.history =
        (findSendHistoryByPort runState message.receivedPort message.recvTime).2.history ∧
      (afterSendMessage tpConfig message runState).state.hisptr = runState.hisptr ∧
      (afterSendMessage tpConfig message runState).state.basePort = runState.basePort ∧
      (afterSendMessage tpConfig message runState).state.ttl = runState.ttl := by
  obtain ⟨history, frame⟩ := findSendHistoryByPort_frame runState message.receivedPort message.recvTime
  simp only [afterSendMessage, frame]
  split_ifs <;> exact ⟨rfl, rfl, rfl, rfl⟩

theorem waitMessage_frame :
    (waitMessage tpConfig message runState).state.history =
        (findSendHistoryByPort runState message.receivedPort message.recvTime).2.history ∧
      (waitMessage tpConfig message runState).state.hisptr = runState.hisptr ∧
      (waitMessage tpConfig message runState).state.basePort = runState.basePort ∧
      (waitMessage tpConfig message runState).state.ttl = runState.ttl := by
  obtain ⟨history, frame⟩ := findSendHistoryByPort_frame runState message.receivedPort message.recvTime
  simp only [waitMessage, frame]
  split_ifs <;> first | exact ⟨rfl, rfl, rfl, rfl⟩ | (split <;> exact ⟨rfl, rfl, rfl, rfl⟩)

/-- The drain never updates the state beyond the lookup. -/
theorem drainMessage_state : (drainMessage tpConfig message runState).state =
    (findSendHistoryByPort runState message.receivedPort message.recvTime).2 := by
  simp only [drainMessage]
  split_ifs <;> first | rfl | (split <;> rfl)

end

/-- An ICMPv6 hop limit exceeded message as the kernel reports it. -/
def ErrorInfo.IsHopLimit (errorInfo : ErrorInfo) : Prop :=
  errorInfo.origin = SO_EE_ORIGIN_ICMP6 ∧ errorInfo.errorType = ICMPV6_TIME_EXCEED ∧
    errorInfo.code = ICMPV6_EXC_HOPLIMIT

/-- The target has been reached before, with the TTL that a message is credited to now. -/
def ReachedAlready (message : Message) (runState : RunState) : Prop :=
  runState.reached = true ∧ runState.hopsTo =
    (findSendHistoryByPort runState message.receivedPort message.recvTime).1.1

section

variable (tpConfig : TracepathConfig) (message : Message) (runState : RunState)

theorem drainMessage_agrees_iff :
    (drainMessage tpConfig message runState).Agrees (waitMessage tpConfig message runState) ↔
      if message.errorInfo.errno = 111 then
        message.errorInfo.origin ≠ SO_EE_ORIGIN_LOCAL ∧ ReachedAlready message runState
      else if message.errorInfo.errno = 113 then ¬ message.errorInfo.IsHopLimit
      else message.errorInfo.errno = 110 ∧ message.errorInfo.sourceAddr.isSome := by
  obtain ⟨history, frame⟩ := findSendHistoryByPort_frame runState message.receivedPort message.recvTime
  simp only [Handled.agrees_iff, drainMessage, waitMessage, ReachedAlready, ErrorInfo.IsHopLimit, frame]
  by_cases isLocal : message.errorInfo.origin = SO_EE_ORIGIN_LOCAL
  · have notIcmp6 : SO_EE_ORIGIN_LOCAL ≠ SO_EE_ORIGIN_ICMP6 := by decide
    split_ifs <;> cases source : message.errorInfo.sourceAddr <;>
      simp_all [Handled.ends, Handled.update]
  · split_ifs <;> cases source : message.errorInfo.sourceAddr <;>
      simp_all [Handled.ends, Handled.update, RunState.setReached]

theorem afterSendMessage_agrees_iff :
    (afterSendMessage tpConfig message runState).Agrees (waitMessage tpConfig message runState) ↔
      if message.errorInfo.origin = SO_EE_ORIGIN_LOCAL then
        ¬ (message.errorInfo.errno = 113 ∨ message.errorInfo.errno = 101 ∨ message.errorInfo.errno = 13)
      else message.errorInfo.errno = 111 := by
  simp only [Handled.agrees_iff, afterSendMessage, waitMessage]
  -- apart from what they do with local errors the two share the branch of errno 111
  split_ifs with isLocal terminal port <;> simp [Handled.ends, Handled.update, *]

end

/-- A hop limit exceeded message ends the trace in the drain and is dropped after a send; the wait loop
alone takes it for a hop. -/
theorem hopLimit_handled (tpConfig : TracepathConfig) (message : Message) (runState : RunState)
    (errno : message.errorInfo.errno = 113) (hopLimit : message.errorInfo.IsHopLimit) :
    (drainMessage tpConfig message runState).ends = some .unreachable ∧
      (afterSendMessage tpConfig message runState).lines = [] ∧
      (waitMessage tpConfig message runState).ends = none := by
  have notLocal : message.errorInfo.origin ≠ SO_EE_ORIGIN_LOCAL := by
    rw [hopLimit.1]
    decide
  have test : message.errorInfo.origin = SO_EE_ORIGIN_ICMP6 ∧
      message.errorInfo.errorType = ICMPV6_TIME_EXCEED ∧ message.errorInfo.code = ICMPV6_EXC_HOPLIMIT :=
    hopLimit
  refine ⟨?_, ?_, ?_⟩
  · simp [drainMessage, errno, Handled.ends]
  · simp [afterSendMessage, notLocal, errno]
  · simp only [waitMessage, if_neg notLocal, errno, if_pos test]
    cases message.errorInfo.sourceAddr <;> rfl

/-- The check after a send never enters the credited TTL, and the other two places always do. Apart
from that the three agree in two cases only: a local error with errno 110 and a source address, and an
ICMP port unreachable when the target has been reached with the credited TTL already. -/
theorem treatedAlike_never (tpConfig : TracepathConfig) (message : Message) (runState : RunState) :
    ¬ TreatedAlike tpConfig message runState ∧
    ((drainMessage tpConfig message runState).Agrees (waitMessage tpConfig message runState) ∧
        (afterSendMessage tpConfig message runState).Agrees (waitMessage tpConfig message runState) ↔
      (message.errorInfo.origin = SO_EE_ORIGIN_LOCAL ∧ message.errorInfo.errno = 110 ∧
          message.errorInfo.sourceAddr.isSome) ∨
        (message.errorInfo.origin ≠ SO_EE_ORIGIN_LOCAL ∧ message.errorInfo.errno = 111 ∧
          ReachedAlready message runState)) := by
  constructor
  · intro alike
    -- the check after a send marks nothing, the wait loop always does
    have answered := alike.afterSend_answered
    simp [Handled.answered] at answered
  · rw [drainMessage_agrees_iff, afterSendMessage_agrees_iff]
    by_cases isLocal : message.errorInfo.origin = SO_EE_ORIGIN_LOCAL
    · -- a local error: the check after a send takes none of them for an end
      by_cases timedOut : message.errorInfo.errno = 110
      · simp [isLocal, timedOut]
      · by_cases unreachable : message.errorInfo.errno = 113 <;> simp [isLocal, timedOut, unreachable]
    · -- an ICMP error: the check after a send knows the unreachable port only
      by_cases refused : message.errorInfo.errno = 111 <;> simp [isLocal, refused]

/-- A hop limit exceeded message from a router, for the probe that is waiting on port 44444. -/
def routerMessage : Message :=
  ⟨⟨113, SO_EE_ORIGIN_ICMP6, ICMPV6_TIME_EXCEED, ICMPV6_EXC_HOPLIMIT, 0, some (.v6 ⟨Vector.replicate 16 1⟩)⟩,
    44444, 5000000⟩

def routerState : RunState where
  target := .v6 ⟨Vector.replicate 16 2⟩
  ttl := 3
  history := (Vector.replicate HIS_ARRAY_SIZE {}).set 0 ⟨3, some 1000000⟩ (by decide)
  hisptr := 1

/-- The drain prints `!H` for it and ends the trace, the check after a send drops it, and the wait loop
prints the hop. -/
theorem treatedAlike_routerMessage_false :
    ¬ TreatedAlike {} routerMessage routerState ∧
      (drainMessage {} routerMessage routerState).lines = [.unreachable 3 4000000, .resume 1500 0 0] ∧
      (drainMessage {} routerMessage routerState).ends = some .unreachable ∧
      (afterSendMessage {} routerMessage routerState).lines = [] ∧
      (waitMessage {} routerMessage routerState).lines =
        [.hop 3 (.v6 ⟨Vector.replicate 16 1⟩) 4000000] ∧
      (waitMessage {} routerMessage routerState).ends = none := by
  refine ⟨fun alike => ?_, by decide +kernel, by decide +kernel, by decide +kernel, by decide +kernel,
    by decide +kernel⟩
  have ends := alike.drain_agrees.ends
  revert ends
  decide +kernel

end Utiputils.Tracepath
