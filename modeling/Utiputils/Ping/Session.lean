import Utiputils.Lib.Proc
import Utiputils.Ping.Receive

/-! # A session of ping

What the echo loops of `ping4_run` and `ping6_run` have in common: the world they run in, with a log of
all that they do, the accesses to it, and the two shapes of a turn of a loop. Sleeping lets time pass
and does nothing else; the readings of the clock are answers of the world as they are. -/

namespace Utiputils.Ping

open Utiputils.Lib Utiputils.Pnet Proc

/-! ## The world -/

/-- What is printed: a piece of text, or a call of one of the functions that print more. -/
inductive Output where
  | pattern (pattern : Bytes)
  | title
  | dot
  | backspace
  | bell
  | newline
  | line (text : String)
  | response (ip : IpAddr) (seq : UInt16) (rtt : Duration) (ttl : UInt8)
  | timestampResponse (size : Nat) (ip : Ipv4Addr) (seq : UInt16) (ttl : UInt8) (rtt : Duration)
  /-- `print_timestamp_info` of the timestamp option among these options -/
  | timestampInfo (options : Bytes)
  /-- `parse_record_route_option` -/
  | recordRoute (options : Bytes)
  | noReplyYet (seq : UInt16)
  deriving DecidableEq, Repr

inductive Event where
  /-- the head of an iteration of a loop, or the end of the loop -/
  | loopBoundary
  | recordSentTime (seq : UInt16) (now : Instant)
  /-- `send_to`, and its error if it failed -/
  | sendTo (packet : Bytes) (failure : Option String)
  /-- a receive function returned, with the sequence of a reply or with an error -/
  | received (result : Except String UInt16)
  | getSentTime (seq : UInt16) (sentTime : Option Instant)
  | update
  | recordError
  | printed (output : Output)
  /-- the counts of `summary`; `none` where its subtraction panics -/
  | summary (counts : Option (UInt32 × UInt32 × UInt32 × UInt32))
  deriving DecidableEq

/-- An event, and the statistics behind it. -/
structure Record where
  event : Event
  status : PingStats

/-- What the system and the user answer, call by call. -/
structure Environment where
  /-- `RUNNING`, which nothing sets again once it has been cleared -/
  running : Bool := true
  /-- whether Ctrl-C has come since the test of `is_running` before -/
  interrupts : Stream' Bool
  instants : Stream' Instant
  systemTimes : Stream' SystemTime
  connectFailure : Option String := none
  sendFailures : Stream' (Option String)
  readTimeoutFailures : Stream' (Option String)
  recvs : List RecvOutcome

structure World extends Environment where
  status : PingStats := .new
  log : List Record := []

def World.start (environment : Environment) : World := { environment with }

/-- An event that changes the statistics. -/
def World.enter (world : World) (event : Event) (status : PingStats) : World :=
  { world with status, log := world.log ++ [⟨event, status⟩] }

/-- An event that does not. -/
def World.note (world : World) (event : Event) : World := world.enter event world.status

def countEvents (kind : Event → Bool) (log : List Record) : Nat := log.countP fun record => kind record.event

@[simp] theorem countEvents_concat (kind : Event → Bool) (log : List Record) (record : Record) :
    countEvents kind (log ++ [record]) = countEvents kind log + (kind record.event).toNat := by
  rw [countEvents, countEvents, List.countP_append, List.countP_singleton]
  cases kind record.event <;> rfl

/-! ## The accesses -/

def loopBoundary : Proc World Unit := modify (·.note .loopBoundary)

def print (outputs : List Output) : Proc World Unit :=
  modify fun world => outputs.foldl (fun world output => world.note (.printed output)) world

/-- `Instant::now`. -/
def now : Proc World Instant :=
  modifyGet fun world => (world.instants.head, { world with instants := world.instants.tail })

def systemTime : Proc World SystemTime :=
  modifyGet fun world => (world.systemTimes.head, { world with systemTimes := world.systemTimes.tail })

def isRunning : Proc World Bool :=
  modifyGet fun world =>
    let running := world.running && !world.interrupts.head
    (running, { world with running, interrupts := world.interrupts.tail })

def stopRunning : Proc World Unit := modify fun world => { world with running := false }

/-- `set_read_timeout`; its failure. -/
def setReadTimeout : Proc World (Option String) :=
  modifyGet fun world =>
    (world.readTimeoutFailures.head, { world with readTimeoutFailures := world.readTimeoutFailures.tail })

/-- `send_icmp_request` and `send_icmpv6_request`; their failure. -/
def sendTo (packet : Bytes) : Proc World (Option String) :=
  modifyGet fun world =>
    let failure := world.sendFailures.head
    (failure, { world with sendFailures := world.sendFailures.tail }.note (.sendTo packet failure))

/-- Calls a receive function; it may block for ever. -/
def receive {Reply : Type} (receiver : List RecvOutcome → Option (Received Reply)) (sequence : Reply → UInt16) :
    Proc World (Except String Reply) := do
  let world ← get
  match receiver world.recvs with
  -- blocked in `recv_from`
  | none => stop
  | some received =>
    print (received.printed.map .line)
    modify fun world => { world with recvs := received.rest }.note (.received (received.result.map sequence))
    pure received.result

/-- The call in one step: what is printed, then the entry in the log. -/
theorem receive_eq {Reply : Type} (receiver : List RecvOutcome → Option (Received Reply))
    (sequence : Reply → UInt16) (world : World) :
    receive receiver sequence world = match receiver world.recvs with
      | none => .stopped world
      | some received =>
        let printed := (received.printed.map .line).foldl (fun world output => world.note (.printed output)) world
        .done received.result
          ({ printed with recvs := received.rest }.note (.received (received.result.map sequence))) := by
  show (match receiver world.recvs with | none => stop | some received => _ : Proc World _) world = _
  cases receiver world.recvs <;> rfl

/-! ## The statistics -/

def setStartTime : Proc World Unit := do
  let now ← now
  modify fun world => { world with status := { world.status with startTime := some now } }

def recordSentTime (seq : UInt16) : Proc World Unit := do
  let now ← now
  modify fun world => world.enter (.recordSentTime seq now) (world.status.recordSentTime seq now)

def getSentTime (seq : UInt16) : Proc World (Option Instant) :=
  modifyGet fun world =>
    let found := world.status.getSentTime seq
    (found.1, world.enter (.getSentTime seq found.1) found.2)

def update : Proc World Unit := modify fun world => world.enter .update world.status.update

def recordError : Proc World Unit := modify fun world => world.enter .recordError world.status.recordError

def printSummary : Proc World Unit := do
  let world ← get
  let counts := world.status.summary
  modify (·.note (.summary counts))
  -- the panic of the checked subtraction
  if counts.isSome then pure () else stop

def countReached (pgConfig : PingConfig) (status : PingStats) : Bool :=
  match pgConfig.count with
  | some count => count ≤ status.transmitted
  | none => false

def timeoutOrCountExit (pgConfig : PingConfig) : Proc World Bool := do
  let world ← get
  if countReached pgConfig world.status then
    stopRunning
    pure true
  -- a deadline of zero is none
  else if 0 < pgConfig.deadline then
    let now ← now
    if pgConfig.deadline ≤ Instant.elapsed pgConfig.startTime now then
      stopRunning
      pure true
    else pure false
  else pure false

/-! ## Requests, replies and turns -/

/-- Builds a request, enters its send time and sends it; the failure of the send. -/
def sendRequest (platform : Platform) (pgConfig : PingConfig) (build : IcmpEchoRequest → Option Bytes)
    (seq : UInt16) : Proc World (Option String) := do
  let systemTime ← systemTime
  match build (.new platform systemTime seq pgConfig.identifier pgConfig.packetSize) with
  | none => stop
  | some packet =>
    -- before the send: a request that cannot be sent counts as transmitted all the same
    recordSentTime seq
    sendTo packet

/-- Looks the request of a reply up and, if there is one, counts the reply. The loops differ in what they
print before and after that. -/
def countReply (seq : UInt16) (before after : Duration → List Output) : Proc World Unit := do
  match ← getSentTime seq with
  | none => pure ()
  | some sentTime =>
    let now ← now
    let rtt := Instant.elapsed sentTime now
    print (before rtt)
    update
    print (after rtt)

/-- An ICMP error is counted; for any other the loop may print that there is no reply yet. -/
def countError (isIcmpError : Bool) (otherwise : List Output) : Proc World Unit :=
  if isIcmpError then recordError else print otherwise

/-- A turn of a loop that sends a request and waits for an answer. The main loops end when the request
cannot be sent, the flood loops go on. -/
def echoTurn (pgConfig : PingConfig) (send : UInt16 → Proc World (Option String)) (endsOnFailure : Bool)
    (answer : UInt16 → Proc World Unit) (seq : UInt16) : Proc World (Turn UInt16 Unit) := do
  loopBoundary
  if ← isRunning then
    let failure ← send seq
    if endsOnFailure && failure.isSome then pure (.exit ())
    else
      answer seq
      if ← timeoutOrCountExit pgConfig then pure (.exit ())
      else pure (.next (seq + 1))
  else pure (.exit ())

/-- A turn of the loop that sends the preload. -/
def preloadTurn (send : UInt16 → Proc World (Option String)) (startSeq : UInt16) :
    Proc World (Turn UInt16 Unit) := do
  loopBoundary
  let _ ← send startSeq
  pure (.next (startSeq + 1))

/-- A turn of the loop that receives the replies to the preload. -/
def replyTurn (answer : Proc World Unit) (exits : Proc World Bool) : Proc World (Turn Unit Unit) := do
  loopBoundary
  if ← isRunning then
    answer
    if ← exits then pure (.exit ())
    else pure (.next ())
  else pure (.exit ())

end Utiputils.Ping
