import Utiputils.Lib.EventLog
import Utiputils.Ping.Run
import Utiputils.Ping.Statistics

/-! # Do the statistics add up?

In every run of the echo loops the statistics follow the ledger of the requests, whatever replies come
and in whatever order. The invariant is kept by every access to the world; a turn of a loop that sends
carries the sequence number of the next request along. -/

namespace Utiputils.Ping

open Utiputils.Lib Utiputils.Pnet Proc Ledger

/-! ## Replies and their requests -/

/-- A reply waits to be looked up until that happens or something else is received. -/
def awaits : Event → Option (Option UInt16)
  | .received result => some result.toOption
  | .getSentTime _ _ => some none
  | _ => none

/-- A request that was found waits to be counted. -/
def finds : Event → Option (Option UInt16)
  | .received _ => some none
  | .getSentTime seq sentTime => some (sentTime.map fun _ => seq)
  | .update => some none
  | _ => none

/-- The sequence number of the reply that has been received last and not been looked up yet. -/
def awaited (log : List Record) : Option UInt16 := register (fun record => awaits record.event) log

/-- The sequence number of the request that has been found and not been counted yet. -/
def found (log : List Record) : Option UInt16 := register (fun record => finds record.event) log

/-- The sequence number of the request that is taken. -/
def takenSeq (ledger : Requests) : Option UInt16 :=
  ledger.taken.bind fun index => ledger.requests[index]?.map Prod.fst

/-! ## What every record says -/

section

variable (build : IcmpEchoRequest → Option Bytes)

/-- What an event says, read with the log before it. -/
def Record.Explained (record : Record) (before : List Record) : Prop :=
  match record.event with
  | .loopBoundary => (ledgerOf before).taken = none
  | .recordSentTime seq _ => seq = UInt16.ofNat ((ledgerOf before).requests.length + 1)
  | .sendTo packet _ => ∃ request : IcmpEchoRequest,
      request.sequence = UInt16.ofNat (ledgerOf before).requests.length ∧ build request = some packet
  | .getSentTime seq sentTime => sentTime = (ledgerOf before).timeOf seq ∧ awaited before = some seq
  | .update => (ledgerOf before).taken.isSome
  | .summary counts => counts = record.status.summary
  | .received _ | .recordError | .printed _ => True

def Explains (log : List Record) : Prop :=
  ∀ before record after, log = before ++ record :: after →
    record.Explained build before ∧ record.status.Follows (ledgerOf (before ++ [record])) ∧
      found before = takenSeq (ledgerOf before)

/-- The statistics and the log explain each other. -/
structure Balances (status : PingStats) (log : List Record) : Prop where
  explains : Explains build log
  follows : status.Follows (ledgerOf log)
  taken : found log = takenSeq (ledgerOf log)

/-- The invariant of the runs. -/
def World.Balanced (world : World) : Prop := Balances build world.status world.log

/-- Between two events: the number of requests so far, and whether a request has been taken out of the
table and not been counted yet. -/
def World.At (requests : Nat) (taken : Bool) (world : World) : Prop :=
  world.Balanced build ∧ (ledgerOf world.log).requests.length = requests ∧
    (ledgerOf world.log).taken.isSome = taken

variable {build}

theorem Explains.concat {log : List Record} (explains : Explains build log) {record : Record}
    (explained : record.Explained build log)
    (follows : record.status.Follows (ledgerStep (ledgerOf log) record))
    (taken : found log = takenSeq (ledgerOf log)) : Explains build (log ++ [record]) := by
  intro before other after split
  -- the split is at the new record, or it is a split of the old log
  rcases List.eq_nil_or_concat after with rfl | ⟨initial, last, rfl⟩
  · obtain ⟨rfl, same⟩ := List.append_inj' split rfl
    cases same
    exact ⟨explained, by rwa [ledgerOf_concat], taken⟩
  · rw [List.concat_eq_append, ← List.cons_append, ← List.append_assoc] at split
    exact explains before other initial (List.append_inj' split rfl).1

theorem World.Balanced.enter {world : World} (balanced : world.Balanced build) {event : Event}
    {status : PingStats} (explained : Record.Explained build ⟨event, status⟩ world.log)
    (follows : status.Follows (ledgerStep (ledgerOf world.log) ⟨event, status⟩))
    (taken : (finds event).getD (found world.log) = takenSeq (ledgerStep (ledgerOf world.log) ⟨event, status⟩)) :
    (world.enter event status).Balanced build := by
  refine ⟨balanced.explains.concat explained follows balanced.taken, by rwa [ledgerOf_enter], ?_⟩
  rw [ledgerOf_enter, ← taken]
  exact register_concat world.log ⟨event, status⟩

theorem World.At.balanced {requests : Nat} {taken : Bool} {world : World} (here : world.At build requests taken) :
    world.Balanced build := here.1

/-- An event that the ledger does not see. -/
theorem World.At.aside {requests : Nat} {taken : Bool} {world : World} (here : world.At build requests taken)
    {event : Event} {status : PingStats}
    (explained : Record.Explained build ⟨event, status⟩ world.log)
    (unseen : ledgerStep (ledgerOf world.log) ⟨event, status⟩ = ledgerOf world.log)
    (follows : status.Follows (ledgerOf world.log))
    (kept : (finds event).getD (found world.log) = found world.log) :
    (world.enter event status).At build requests taken := by
  refine ⟨here.balanced.enter explained (by rwa [unseen]) (by rw [unseen, kept, here.balanced.taken]), ?_⟩
  rw [ledgerOf_enter, unseen]
  exact here.2

/-! ## The accesses -/

variable {requests : Nat} {taken : Bool}

theorem triple_print (outputs : List Output) : Triple (World.At build requests taken) (print outputs)
    (fun _ => World.At build requests taken) (World.Balanced build) := by
  refine triple_modify fun world here => ?_
  induction outputs generalizing world with
  | nil => exact here
  | cons output outputs inductionHypothesis =>
    have printed : (world.note (.printed output)).At build requests taken := here.aside trivial rfl here.1.follows rfl
    exact inductionHypothesis _ printed

theorem triple_now : Triple (World.At build requests taken) now (fun _ => World.At build requests taken)
    (World.Balanced build) :=
  triple_modifyGet fun _ here => here

theorem World.At.settled {world : World} (here : world.At build requests false) :
    (ledgerOf world.log).taken = none := by
  simpa using here.2.2

theorem triple_recordSentTime : Triple (World.At build requests false)
    (recordSentTime (UInt16.ofNat (requests + 1))) (fun _ => World.At build (requests + 1) false)
    (World.Balanced build) := by
  refine triple_bind triple_now fun now => triple_modify fun world here => ?_
  obtain ⟨balanced, rfl, settled⟩ := here
  have isNone : (ledgerOf world.log).taken = none := by simpa using settled
  have noSeq : takenSeq ((ledgerOf world.log).request (UInt16.ofNat ((ledgerOf world.log).requests.length + 1)) now) =
      takenSeq (ledgerOf world.log) := by
    rw [takenSeq, takenSeq, Ledger.request, isNone]
    rfl
  refine ⟨balanced.enter rfl (balanced.follows.recordSentTime now) (balanced.taken.trans noSeq.symm), ?_, ?_⟩
  · simp [ledgerStep, Ledger.request]
  · rw [ledgerOf_enter]
    exact settled

theorem triple_sendTo (packet : Bytes)
    (isBuilt : ∃ request : IcmpEchoRequest, request.sequence = UInt16.ofNat requests ∧ build request = some packet) :
    Triple (World.At build requests false) (sendTo packet) (fun _ => World.At build requests false)
      (World.Balanced build) := by
  refine triple_modifyGet fun world here => ?_
  have explained : Record.Explained build ⟨.sendTo packet world.sendFailures.head, world.status⟩ world.log := by
    obtain ⟨-, rfl, -⟩ := here
    exact isBuilt
  have next : ({ world with sendFailures := world.sendFailures.tail } : World).At build requests false := here
  exact next.aside explained rfl here.1.follows rfl

/-- The reply with this sequence number has been received, and is to be looked up. -/
def World.Received (build : IcmpEchoRequest → Option Bytes) (requests : Nat) (seq : UInt16) (world : World) : Prop :=
  world.At build requests false ∧ awaited world.log = some seq

theorem takenSeq_take {ledger : Requests} (valid : ledger.Valid) (seq : UInt16) :
    takenSeq (ledger.take seq) = (ledger.timeOf seq).map fun _ => seq := by
  show ((ledger.waiting seq).bind fun index => ledger.requests[index]?.map Prod.fst) = _
  cases waits : ledger.waiting seq with
  | none => rw [timeOf, waits]; rfl
  | some index =>
    -- the request that waits under the key carries it
    have isKey := (valid.latest seq index waits).1
    obtain ⟨⟨key, time⟩, made, rfl⟩ := Option.map_eq_some_iff.mp isKey
    simp [timeOf, waits, made]

/-- A reply takes its request out of the table, if it is there. -/
theorem triple_getSentTime (seq : UInt16) : Triple (World.Received build requests seq) (getSentTime seq)
    (fun sentTime => World.At build requests sentTime.isSome) (World.Balanced build) := by
  refine triple_modifyGet fun world ⟨here, isAwaited⟩ => ?_
  have follows := here.1.follows
  have isTime : (world.status.getSentTime seq).1 = (ledgerOf world.log).timeOf seq := follows.table seq
  refine ⟨here.1.enter ⟨isTime, isAwaited⟩ (follows.getSentTime here.settled seq) ?_, ?_⟩
  · show ((world.status.getSentTime seq).1.map fun _ => seq) = takenSeq ((ledgerOf world.log).take seq)
    rw [takenSeq_take follows.valid, isTime]
  · simp only [ledgerOf_enter]
    exact ⟨here.2.1, (follows.isSome_lookup seq).symm⟩

theorem triple_update : Triple (World.At build requests true) update (fun _ => World.At build requests false)
    (World.Balanced build) := by
  refine triple_modify fun world here => ?_
  obtain ⟨index, taken⟩ := Option.isSome_iff_exists.mp here.2.2
  refine ⟨here.1.enter here.2.2 (here.1.follows.update taken) rfl, ?_⟩
  rw [ledgerOf_enter]
  exact ⟨here.2.1, rfl⟩

theorem triple_sendRequest (platform : Platform) (pgConfig : PingConfig) :
    Triple (World.At build requests false)
      (sendRequest platform pgConfig build (UInt16.ofNat (requests + 1)))
      (fun _ => World.At build (requests + 1) false) (World.Balanced build) := by
  have clock : Triple (World.At build requests false) systemTime (fun _ => World.At build requests false)
      (World.Balanced build) := triple_modifyGet fun _ here => here
  refine triple_bind clock fun systemTime => ?_
  cases built : build (.new platform systemTime (UInt16.ofNat (requests + 1)) pgConfig.identifier
      pgConfig.packetSize) with
  | none => exact triple_stop fun _ here => here.balanced
  | some packet => exact triple_bind triple_recordSentTime fun _ => triple_sendTo packet ⟨_, rfl, built⟩

/-! ## Processes between two requests -/

/-- The process makes no request and counts every reply that it takes. -/
def Steady (build : IcmpEchoRequest → Option Bytes) {Result : Type} (process : Proc World Result) : Prop :=
  ∀ requests, Triple (World.At build requests false) process (fun _ => World.At build requests false)
    (World.Balanced build)

section

variable {Result Next : Type}

theorem steady_pure (result : Result) : Steady build (pure result) := fun _ => triple_pure fun _ here => here

theorem steady_bind {process : Proc World Result} {next : Result → Proc World Next}
    (first : Steady build process) (second : ∀ result, Steady build (next result)) :
    Steady build (process >>= next) :=
  fun requests => triple_bind (first requests) fun result => second result requests

theorem steady_get_bind {next : World → Proc World Result} (second : ∀ seen, Steady build (next seen)) :
    Steady build (get >>= next) :=
  fun requests => triple_get_bind fun seen here =>
    triple_conseq (second seen requests) (fun _ same => same ▸ here) fun _ _ holds => holds

theorem steady_print (outputs : List Output) : Steady build (print outputs) := fun _ => triple_print outputs

theorem steady_loopBoundary : Steady build loopBoundary := fun _ =>
  triple_modify fun _ here => here.aside here.settled rfl here.1.follows rfl

theorem steady_isRunning : Steady build isRunning := fun _ => triple_modifyGet fun _ here => here

theorem steady_setReadTimeout : Steady build setReadTimeout := fun _ => triple_modifyGet fun _ here => here

theorem steady_setStartTime : Steady build setStartTime := fun _ =>
  triple_bind triple_now fun _ => triple_modify fun _ here =>
    ⟨⟨here.1.explains, { here.1.follows with }, here.1.taken⟩, here.2⟩

theorem steady_recordError : Steady build recordError := fun _ =>
  triple_modify fun _ here => here.aside trivial rfl { here.1.follows with } rfl

theorem steady_connect (pgConfig : PingConfig) : Steady build (connect pgConfig) := by
  rw [connect]
  split
  · exact fun _ => triple_modifyGet fun _ here => here
  · exact steady_pure _

/-- What a receiver returned, where a reply waits to be looked up. -/
def Returned (build : IcmpEchoRequest → Option Bytes) {Reply : Type} (sequence : Reply → UInt16) (requests : Nat) :
    Except String Reply → World → Prop
  | .ok reply => World.Received build requests (sequence reply)
  | .error _ => World.At build requests false

/-- The process is a receiver: what it returns has been received last. -/
def Receives (build : IcmpEchoRequest → Option Bytes) {Reply : Type} (sequence : Reply → UInt16)
    (receiver : Proc World (Except String Reply)) : Prop :=
  ∀ requests, Triple (World.At build requests false) receiver (Returned build sequence requests) (World.Balanced build)

/-- The process looks the reply with this sequence number up, and counts it if there is a request for it. -/
def LooksUp (build : IcmpEchoRequest → Option Bytes) (seq : UInt16) {Result : Type} (process : Proc World Result) :
    Prop :=
  ∀ requests, Triple (World.Received build requests seq) process (fun _ => World.At build requests false)
    (World.Balanced build)

theorem LooksUp.bind {seq : UInt16} {process : Proc World Result} {next : Result → Proc World Next}
    (first : LooksUp build seq process) (second : ∀ result, Steady build (next result)) :
    LooksUp build seq (process >>= next) :=
  fun requests => triple_bind (first requests) fun result => second result requests

/-- Waiting for an answer, and handling the reply or the error. -/
theorem steady_answer {Reply : Type} {sequence : Reply → UInt16} {receiver : Proc World (Except String Reply)}
    {handler : Except String Reply → Proc World Result} (receives : Receives build sequence receiver)
    (replies : ∀ reply, LooksUp build (sequence reply) (handler (.ok reply)))
    (errors : ∀ message, Steady build (handler (.error message))) : Steady build (receiver >>= handler) := by
  refine fun requests => triple_bind (receives requests) fun result => ?_
  cases result with
  | ok reply => exact replies reply requests
  | error message => exact errors message requests

theorem receives_receive {Reply : Type} (receiver : List RecvOutcome → Option (Received Reply))
    (sequence : Reply → UInt16) : Receives build sequence (receive receiver sequence) := by
  refine fun requests => triple_get_bind fun seen here => ?_
  have start : ∀ world, world = seen → world.At build requests false := fun _ same => same ▸ here
  cases answered : receiver seen.recvs with
  | none => exact triple_stop fun _ same => (start _ same).balanced
  | some received =>
    refine triple_bind (triple_conseq (triple_print _) start fun _ _ printed => printed) fun _ => ?_
    refine triple_bind (triple_modify fun world printed => ?_) fun _ => triple_pure fun _ returned => returned
    have next : ({ world with recvs := received.rest } : World).At build requests false := printed
    have kept : some none = some (found world.log) := by
      rw [printed.1.taken, takenSeq, printed.settled]
      rfl
    have noted := @World.At.aside _ _ _ _ next (.received (received.result.map sequence)) world.status trivial rfl
      printed.1.follows (Option.some.inj kept)
    cases result : received.result with
    | error message => rwa [result] at noted
    | ok reply =>
      rw [result] at noted
      exact ⟨noted, register_concat world.log ⟨.received (.ok (sequence reply)), world.status⟩⟩

theorem steady_printSummary : Steady build printSummary := by
  refine fun requests => triple_get_bind fun seen here => ?_
  have noted : Triple (fun world => world = seen) (modify (·.note (.summary seen.status.summary)))
      (fun _ => World.At build requests false) (World.Balanced build) := by
    refine triple_modify ?_
    rintro _ rfl
    exact here.aside rfl rfl here.1.follows rfl
  refine triple_bind noted fun _ => ?_
  split
  · exact triple_pure fun _ here => here
  · exact triple_stop fun _ here => here.balanced

theorem steady_timeoutOrCountExit (pgConfig : PingConfig) : Steady build (timeoutOrCountExit pgConfig) := by
  have stopped : Steady build (do stopRunning; pure true) :=
    steady_bind (fun _ => triple_modify fun _ here => here) fun _ => steady_pure true
  refine steady_get_bind fun seen => ?_
  split
  · exact stopped
  · split
    · refine steady_bind (fun _ => triple_now) fun now => ?_
      split
      · exact stopped
      · exact steady_pure false
    · exact steady_pure false

theorem looksUp_countReply (seq : UInt16) (before after : Duration → List Output) :
    LooksUp build seq (countReply seq before after) := by
  refine fun requests => triple_bind (triple_getSentTime seq) fun sentTime => ?_
  cases sentTime with
  | none => exact triple_pure fun _ here => here
  -- from here to `update` one request is taken and not counted
  | some sentTime =>
    exact triple_bind triple_now fun _ => triple_bind (triple_print _) fun _ =>
      triple_bind triple_update fun _ => triple_print _

theorem steady_countError (isIcmpError : Bool) (otherwise : List Output) :
    Steady build (countError isIcmpError otherwise) := by
  cases isIcmpError with
  | true => exact steady_recordError
  | false => exact steady_print otherwise

end

/-! ## The loops -/

/-- The sequence number is that of the next request. -/
def InStep (build : IcmpEchoRequest → Option Bytes) (seq : UInt16) (world : World) : Prop :=
  ∃ requests, world.At build requests false ∧ seq = UInt16.ofNat (requests + 1)

/-- Between two requests, however many there have been. -/
def Between (build : IcmpEchoRequest → Option Bytes) (world : World) : Prop :=
  ∃ requests, world.At build requests false

theorem between_balanced {world : World} (between : Between build world) : world.Balanced build :=
  between.choose_spec.balanced

/-- The process makes the request that it is given the number of. -/
def Sends (build : IcmpEchoRequest → Option Bytes) (send : UInt16 → Proc World (Option String)) : Prop :=
  ∀ requests, Triple (World.At build requests false) (send (UInt16.ofNat (requests + 1)))
    (fun _ => World.At build (requests + 1) false) (World.Balanced build)

section

variable {pgConfig : PingConfig} {send : UInt16 → Proc World (Option String)} (sends : Sends build send)

theorem Steady.between {Result : Type} {process : Proc World Result} (steady : Steady build process) :
    Triple (Between build) process (fun _ => Between build) (World.Balanced build) :=
  triple_exists fun requests => triple_conseq (steady requests) (fun _ here => here) fun _ _ here => ⟨requests, here⟩

include sends

/-- This turn never leaves its loop. -/
theorem triple_preloadTurn (startSeq : UInt16) (exited : Unit → World → Prop) :
    Triple (fun world => world.At build requests false ∧ startSeq = UInt16.ofNat (requests + 1))
      (preloadTurn send startSeq)
      (Turn.post (fun next world => world.At build (requests + 1) false ∧ next = UInt16.ofNat (requests + 1 + 1))
        exited) (World.Balanced build) := by
  rintro world ⟨here, rfl⟩
  refine triple_bind (steady_loopBoundary requests) (fun _ => triple_bind (sends requests) fun _ =>
    triple_pure fun next there => ?_) world here
  exact ⟨there, (UInt16.ofNat_add ..).symm⟩

/-- The preload starts the numbering. -/
theorem triple_sendPreload (count : Nat) :
    Triple (World.At build 0 false)
      (do let _ ← forRange (fun _ => preloadTurn send) 0 count 1; loopBoundary)
      (fun _ => World.At build count false) (World.Balanced build) := by
  have loop := triple_forRange
    (fun index seq (world : World) => world.At build index false ∧ seq = UInt16.ofNat (index + 1))
    (fun index startSeq (_ : 0 ≤ index) (_ : index < 0 + count) =>
      triple_preloadTurn sends startSeq fun _ => World.At build count false) 1
  refine triple_bind (triple_conseq loop (fun _ here => ⟨here, rfl⟩) fun _ _ reached => reached) fun ended => ?_
  cases ended with
  | exit => exact steady_loopBoundary count
  | next =>
    rw [Nat.zero_add]
    exact triple_conseq (steady_loopBoundary count) (fun _ reached => reached.1) fun _ _ here => here

theorem triple_echoTurn (endsOnFailure : Bool) {answer : UInt16 → Proc World Unit}
    (answers : ∀ seq, Steady build (answer seq)) (seq : UInt16) :
    Triple (InStep build seq) (echoTurn pgConfig send endsOnFailure answer seq)
      (Turn.post (InStep build) fun _ => Between build) (World.Balanced build) := by
  rintro world ⟨requests, here, rfl⟩
  refine triple_bind (steady_loopBoundary requests) (fun _ => triple_bind (steady_isRunning requests)
    fun running => ?_) world here
  cases running with
  | false => exact triple_pure fun _ here => ⟨requests, here⟩
  | true =>
    -- the request is made whether or not it could be sent
    refine triple_bind (sends requests) fun failure => ?_
    split
    · exact triple_pure fun _ here => ⟨requests + 1, here⟩
    · refine triple_bind (answers _ (requests + 1)) fun _ =>
        triple_bind (steady_timeoutOrCountExit pgConfig (requests + 1)) fun exits => ?_
      cases exits with
      | true => exact triple_pure fun _ here => ⟨requests + 1, here⟩
      | false => exact triple_pure fun _ here => ⟨requests + 1, here, (UInt16.ofNat_add ..).symm⟩

theorem triple_echoLoop (endsOnFailure : Bool) {answer : UInt16 → Proc World Unit}
    (answers : ∀ seq, Steady build (answer seq)) (fuel : Nat) (seq : UInt16) :
    Triple (InStep build seq)
      (do forever (echoTurn pgConfig send endsOnFailure answer) fuel seq; loopBoundary)
      (fun _ => Between build) (World.Balanced build) :=
  triple_bind (triple_forever (InStep build) (triple_echoTurn sends endsOnFailure answers)
    (fun _ _ ⟨_, here, _⟩ => here.balanced) fuel seq) fun _ => steady_loopBoundary.between

end

theorem steady_replyLoop {answer : Proc World Unit} {exits : Proc World Bool} (answers : Steady build answer)
    (steady : Steady build exits) (count : Nat) :
    Steady build (do let _ ← forRange (fun _ _ => replyTurn answer exits) 0 count (); loopBoundary) := by
  have turn : ∀ requests, Triple (World.At build requests false) (replyTurn answer exits)
      (Turn.post (fun _ => World.At build requests false) fun _ => World.At build requests false)
      (World.Balanced build) := by
    refine fun requests => triple_bind (steady_loopBoundary requests) fun _ =>
      triple_bind (steady_isRunning requests) fun running => ?_
    cases running with
    | false => exact triple_pure fun _ here => here
    | true =>
      refine triple_bind (answers requests) fun _ => triple_bind (steady requests) fun leaves => ?_
      cases leaves <;> exact triple_pure fun _ here => here
  refine fun requests => triple_bind (triple_forRange (fun _ _ => World.At build requests false)
    (fun _ _ _ _ => turn requests) ()) fun ended => ?_
  cases ended <;> exact steady_loopBoundary requests

/-- The preload makes its requests, and the loop behind it goes on with the next number. -/
theorem triple_preload {pgConfig : PingConfig} {sendAll receiveAll : Proc World Unit}
    (sendsAll : Triple (World.At build 0 false) sendAll (fun _ => World.At build pgConfig.preload.toNat false)
      (World.Balanced build)) (receivesAll : Steady build receiveAll) :
    Triple (World.At build 0 false)
      (if 0 < pgConfig.preload then do
        (do sendAll; receiveAll)
        timeoutOrCountExit pgConfig
      else pure false)
      (fun _ => World.At build pgConfig.preload.toNat false) (World.Balanced build) := by
  split
  · exact triple_bind (triple_bind sendsAll fun _ => receivesAll _) fun _ => steady_timeoutOrCountExit pgConfig _
  next nothing =>
    have isZero : pgConfig.preload.toNat = 0 := by
      have notPositive := mt UInt16.lt_iff_toNat_lt.mpr nothing
      simpa using notPositive
    rw [isZero]
    exact triple_pure fun _ here => here

theorem inStep_preload {preload : UInt16} {world : World} (here : world.At build preload.toNat false) :
    InStep build (preload + 1) world :=
  ⟨preload.toNat, here, by rw [UInt16.ofNat_add, UInt16.ofNat_toNat]; rfl⟩

theorem inStep_first {world : World} (here : world.At build 0 false) : InStep build 1 world := ⟨0, here, rfl⟩

theorem steady_printSummary_ok :
    Steady build (do printSummary; pure (.ok ()) : Proc World (Except String Unit)) :=
  steady_bind steady_printSummary fun _ => steady_pure _

end

/-! ## The IPv4 run -/

namespace PingImpl

section

variable {crate : Crate} {platform : Platform} {pgConfig : PingConfig} {build : IcmpEchoRequest → Option Bytes}

theorem sends_sendEcho :
    Sends (fun request => request.buildPacket crate pgConfig) (sendEcho crate platform pgConfig) :=
  fun _ => triple_sendRequest platform pgConfig

theorem receives_receiveReply : Receives build (·.sequence) (receiveReply crate pgConfig) := receives_receive _ _

/-- The timeout is reset before the reply is looked up. -/
theorem receives_receiveIcmpReplyWithTimeout :
    Receives build (·.sequence) (receiveIcmpReplyWithTimeout crate pgConfig) := by
  refine fun requests => triple_bind (steady_setReadTimeout requests) fun failure => ?_
  cases failure with
  | some failure => exact triple_pure fun _ here => here
  | none =>
    refine triple_bind (receives_receiveReply requests) fun result => ?_
    have reset : Triple (Returned build (fun reply : IcmpReply => reply.sequence) requests result) setReadTimeout
        (fun _ => Returned build (fun reply => reply.sequence) requests result) (World.Balanced build) := by
      refine triple_modifyGet fun world returned => ?_
      cases result <;> exact returned
    refine triple_bind reset fun failure => ?_
    cases failure with
    | none => exact triple_pure fun _ returned => returned
    | some failure =>
      refine triple_pure fun _ returned => ?_
      cases result with
      | ok reply => exact returned.1
      | error message => exact returned

theorem steady_answerPreload : Steady build (answerPreload crate pgConfig) :=
  steady_answer receives_receiveReply (fun _ => looksUp_countReply _ _ _) fun _ => steady_countError _ _

theorem steady_answerFlood : Steady build (answerFlood crate pgConfig) :=
  steady_bind (steady_print _) fun _ => steady_answer receives_receiveIcmpReplyWithTimeout
    (fun _ => looksUp_countReply _ _ _) fun _ => steady_countError _ _

theorem steady_answerMain (seq : UInt16) : Steady build (answerMain crate pgConfig seq) := by
  rw [answerMain]
  split
  · exact steady_answer (receives_receive _ _) (fun _ => looksUp_countReply _ _ _) fun _ => steady_countError _ _
  · exact steady_answer receives_receiveIcmpReplyWithTimeout (fun _ => looksUp_countReply _ _ _)
      fun _ => steady_countError _ _

theorem triple_finalListen (fuel : Nat) : Triple (Between build) (finalListen crate pgConfig fuel)
    (fun _ => Between build) (World.Balanced build) := by
  have turn : ∀ start, Steady build (listenTurn crate pgConfig start ()) := by
    refine fun start => steady_bind steady_loopBoundary fun _ => steady_bind (fun _ => triple_now) fun now => ?_
    split
    · exact steady_answer receives_receiveIcmpReplyWithTimeout
        (fun _ => (looksUp_countReply _ _ _).bind fun _ => steady_pure _) fun _ => steady_pure _
    · exact steady_pure _
  have clock : Steady build now := fun _ => triple_now
  refine triple_bind clock.between fun start => triple_bind (triple_forever (fun _ => Between build) (fun _ => ?_)
    (fun _ _ => between_balanced) fuel ()) fun _ => steady_loopBoundary.between
  exact triple_conseq (turn start).between (fun _ here => here) fun ended _ here => by cases ended <;> exact here

theorem triple_ping4Run (fuel : Nat) :
    Triple (World.At (fun request => request.buildPacket crate pgConfig) 0 false)
      (ping4Run crate platform pgConfig fuel)
      (fun _ => Between fun request => request.buildPacket crate pgConfig)
      (World.Balanced fun request => request.buildPacket crate pgConfig) := by
  refine triple_bind (steady_setStartTime 0) fun _ => triple_bind (steady_print _ 0) fun _ =>
    triple_bind (steady_connect pgConfig 0) fun failure => ?_
  cases failure with
  | some failure => exact triple_pure fun _ here => ⟨0, here⟩
  | none =>
    simp only
    split
    · exact triple_bind (triple_conseq (triple_echoLoop sends_sendEcho false (fun _ => steady_answerFlood) fuel 1)
        (fun _ => inStep_first) fun _ _ here => here) fun _ => steady_printSummary_ok.between
    · refine triple_bind (triple_preload (triple_sendPreload sends_sendEcho _)
        (steady_replyLoop steady_answerPreload (steady_timeoutOrCountExit pgConfig) _)) fun ends => ?_
      cases ends with
      | true => exact triple_conseq (steady_printSummary_ok _) (fun _ here => here) fun _ _ here => ⟨_, here⟩
      | false =>
        exact triple_bind (triple_conseq (triple_echoLoop sends_sendEcho true steady_answerMain fuel _)
          (fun _ => inStep_preload) fun _ _ here => here) fun _ =>
          triple_bind (triple_finalListen fuel) fun _ => steady_printSummary_ok.between

end

end PingImpl

/-! ## The IPv6 run -/

namespace Ping6Common

section

variable {crate : Crate} {platform : Platform} {showIpv6 : Ipv6Addr → String} {pgConfig : PingConfig}
  {build : IcmpEchoRequest → Option Bytes}

theorem sends_sendEcho :
    Sends (fun request => request.buildPacketV6 crate pgConfig) (sendEcho crate platform pgConfig) :=
  fun _ => triple_sendRequest platform pgConfig

theorem receives_receiveReply : Receives build (·.sequence) (receiveReply crate showIpv6 pgConfig) :=
  receives_receive _ _

theorem steady_answerPreload : Steady build (answerPreload crate showIpv6 pgConfig) :=
  steady_answer receives_receiveReply (fun _ => looksUp_countReply _ _ _) fun _ => steady_pure _

theorem steady_answerFlood : Steady build (answerFlood crate showIpv6 pgConfig) :=
  steady_bind (steady_print _) fun _ =>
    steady_answer receives_receiveReply (fun _ => looksUp_countReply _ _ _) fun _ => steady_pure _

theorem steady_answerMain (seq : UInt16) : Steady build (answerMain crate showIpv6 pgConfig seq) :=
  steady_answer receives_receiveReply (fun _ => looksUp_countReply _ _ _) fun _ => steady_countError _ _

theorem triple_ping6Run (fuel : Nat) :
    Triple (World.At (fun request => request.buildPacketV6 crate pgConfig) 0 false)
      (ping6Run crate platform showIpv6 pgConfig fuel)
      (fun _ => Between fun request => request.buildPacketV6 crate pgConfig)
      (World.Balanced fun request => request.buildPacketV6 crate pgConfig) := by
  refine triple_bind (steady_connect pgConfig 0) fun failure => ?_
  cases failure with
  | some failure => exact triple_pure fun _ here => ⟨0, here⟩
  | none =>
    refine triple_bind (steady_setStartTime 0) fun _ => triple_bind (steady_print _ 0) fun _ => ?_
    split
    · exact triple_bind (triple_conseq (triple_echoLoop sends_sendEcho false (fun _ => steady_answerFlood) fuel 1)
        (fun _ => inStep_first) fun _ _ here => here) fun _ => steady_printSummary_ok.between
    · refine triple_bind (triple_preload (triple_sendPreload sends_sendEcho _)
        (steady_replyLoop steady_answerPreload (steady_get_bind fun _ => steady_pure _) _)) fun ends => ?_
      cases ends with
      | true => exact triple_conseq (steady_printSummary_ok _) (fun _ here => here) fun _ _ here => ⟨_, here⟩
      | false =>
        exact triple_bind (triple_conseq (triple_echoLoop sends_sendEcho true steady_answerMain fuel _)
          (fun _ => inStep_preload) fun _ _ here => here) fun _ => steady_printSummary_ok.between

end

end Ping6Common

/-! ## What the log of a run shows -/

/-- The statistics of a log add up. Requests are numbered from 0 on in the ledger. -/
structure Accounted (build : IcmpEchoRequest → Option Bytes) (log : List Record) : Prop where
  /-- after every event -/
  bounded : ∀ record ∈ log,
    record.status.received.toNat + record.status.sentTimes.size ≤ record.status.transmitted.toNat
  /-- at the boundaries of the loops, until the sequence numbers come round -/
  exact : ∀ before status after, log = before ++ ⟨.loopBoundary, status⟩ :: after →
    (ledgerOf before).requests.length ≤ 65536 →
      status.received.toNat + status.sentTimes.size = status.transmitted.toNat
  numbered : ∀ index seq time, (ledgerOf log).requests[index]? = some (seq, time) →
    seq = UInt16.ofNat (index + 1)
  /-- what is sent is the packet of the latest request -/
  carried : ∀ before packet failure status after, log = before ++ ⟨.sendTo packet failure, status⟩ :: after →
    ∃ request : IcmpEchoRequest, request.sequence = UInt16.ofNat (ledgerOf before).requests.length ∧
      build request = some packet
  /-- what is looked up is the sequence number of the reply received last, once for every reply -/
  lookups : ∀ before seq sentTime status after, log = before ++ ⟨.getSentTime seq sentTime, status⟩ :: after →
    ∃ front reply rest, before = front ++ ⟨.received (.ok seq), reply⟩ :: rest ∧
      ∀ record ∈ rest, awaits record.event = none
  /-- what is taken out of the table is the latest request with the sequence number, and it had not been
  counted -/
  removed : ∀ before seq sentTime status after,
    log = before ++ ⟨.getSentTime seq (some sentTime), status⟩ :: after →
      status.sentTimes[seq]? = none ∧ ∃ index, (ledgerOf before).waiting seq = some index ∧
        IsLatest (ledgerOf before).requests seq index ∧
        (ledgerOf before).requests[index]? = some (seq, sentTime) ∧ index ∉ (ledgerOf before).counted
  /-- what is counted is the request that the last lookup has taken out of the table -/
  counts : ∀ before status after, log = before ++ ⟨.update, status⟩ :: after →
    ∃ front seq sentTime lookup rest index, before = front ++ ⟨.getSentTime seq (some sentTime), lookup⟩ :: rest ∧
      (∀ record ∈ rest, finds record.event = none) ∧ (ledgerOf front).waiting seq = some index ∧
      (ledgerOf before).taken = some index ∧ index ∉ (ledgerOf before).counted
  once : (ledgerOf log).counted.Nodup
  summaries : ∀ record ∈ log, record.event ≠ .summary none

section

variable {build : IcmpEchoRequest → Option Bytes} {log : List Record}

theorem awaits_eq_some {event : Event} {seq : UInt16} (set : awaits event = some (some seq)) :
    event = .received (.ok seq) := by
  cases event with
  | received result =>
    cases result with
    | ok other => rw [Option.some.inj (Option.some.inj set)]
    | error message => cases set
  | _ => cases set

theorem finds_eq_some {event : Event} {seq : UInt16} (set : finds event = some (some seq)) :
    ∃ sentTime, event = .getSentTime seq (some sentTime) := by
  cases event with
  | getSentTime other sentTime =>
    cases sentTime with
    | none => cases set
    | some sentTime =>
      cases set
      exact ⟨sentTime, rfl⟩
  | _ => cases set

/-- What has been taken stays so as long as nothing is received, looked up or counted. -/
theorem taken_ledgerOf_append (before rest : List Record) (unfound : ∀ record ∈ rest, finds record.event = none) :
    (ledgerOf (before ++ rest)).taken = (ledgerOf before).taken := by
  induction rest using List.reverseRecOn with
  | nil => rw [List.append_nil]
  | append_singleton rest record inductionHypothesis =>
    have same := inductionHypothesis fun other member => unfound other (List.mem_append_left _ member)
    have nothing := unfound record (List.mem_append_right _ (List.mem_singleton_self record))
    rw [← List.append_assoc, ledgerOf_concat, ← same]
    obtain ⟨event, status⟩ := record
    cases event <;> first | rfl | cases nothing

/-- The ledger of every part of the log is valid. -/
theorem Explains.valid (explains : Explains build log) {before after : List Record} (split : log = before ++ after) :
    (ledgerOf before).Valid := by
  rcases List.eq_nil_or_concat before with rfl | ⟨initial, last, rfl⟩
  · exact valid_empty
  · rw [List.concat_eq_append] at split ⊢
    exact (explains initial last after (by rw [split, List.append_assoc]; rfl)).2.1.valid

theorem World.Balanced.accounted {world : World} (balanced : world.Balanced build)
    (few : (ledgerOf world.log).requests.length < 2 ^ 32) : Accounted build world.log := by
  obtain ⟨explains, follows, -⟩ := balanced
  have fewUpTo : ∀ before record after, world.log = before ++ record :: after →
      (ledgerOf (before ++ [record])).requests.length < 2 ^ 32 := by
    intro before record after split
    -- a part of the log has no more requests than the whole
    have le := length_requests_le (before ++ [record]) after
    rw [← List.append_cons, ← split] at le
    omega
  constructor
  case bounded =>
    intro record member
    obtain ⟨before, after, split⟩ := List.append_of_mem member
    exact (explains before record after split).2.1.received_add_size (fewUpTo before record after split)
  case exact =>
    intro before status after split few
    obtain ⟨settled, follows, -⟩ := explains before _ after split
    rw [ledgerOf_concat] at follows
    exact follows.received_add_size_eq settled few
  case numbered => exact fun index seq time found => follows.numbered index _ found
  case carried => exact fun before packet failure status after split => (explains before _ after split).1
  case lookups =>
    intro before seq sentTime status after split
    obtain ⟨front, ⟨event, reply⟩, rest, rfl, set, untouched⟩ :=
      register_eq_some (explains before _ after split).1.2
    obtain rfl := awaits_eq_some set
    exact ⟨front, reply, rest, rfl, untouched⟩
  case removed =>
    intro before seq sentTime status after split
    obtain ⟨⟨found, -⟩, next, -⟩ := explains before _ after split
    have valid := explains.valid split
    obtain ⟨index, waits, made⟩ := (timeOf_eq_some valid).mp (Eq.symm found)
    refine ⟨?_, index, waits, valid.latest seq index waits, made, fun counted =>
      valid.apart seq index waits (List.mem_append_left _ counted)⟩
    rw [ledgerOf_concat] at next
    exact (next.table seq).trans ((timeOf_take ..).trans (if_pos rfl))
  case counts =>
    intro before status after split
    obtain ⟨isSome, -, found⟩ := explains before _ after split
    obtain ⟨index, taken⟩ := Option.isSome_iff_exists.mp isSome
    have once := (explains.valid split).once
    rw [taken, Option.toList_some, List.nodup_append] at once
    -- the request is there, so its number is what the last lookup has found
    have made := (explains.valid split).made index (by rw [taken]; simp)
    obtain ⟨seq, isFound⟩ : ∃ seq, Ping.found before = some seq := by
      rw [found, takenSeq, taken, Option.bind_some, List.getElem?_eq_getElem made]
      exact ⟨_, rfl⟩
    obtain ⟨front, ⟨event, lookup⟩, rest, rfl, set, untouched⟩ := register_eq_some isFound
    obtain ⟨sentTime, rfl⟩ := finds_eq_some set
    refine ⟨front, seq, sentTime, lookup, rest, index, rfl, untouched, ?_, taken, fun counted =>
      once.2.2 index counted index List.mem_cons_self rfl⟩
    rw [List.append_cons, taken_ledgerOf_append _ _ untouched, ledgerOf_concat] at taken
    exact taken
  case once => exact follows.valid.once.of_append_left
  case summaries =>
    rintro ⟨event, status⟩ member rfl
    obtain ⟨before, after, split⟩ := List.append_of_mem member
    obtain ⟨panics, next, -⟩ := explains before _ after split
    have returns := next.summary_isSome (fewUpTo before _ after split)
    rw [← panics] at returns
    cases returns

end

theorem at_start (build : IcmpEchoRequest → Option Bytes) (environment : Environment) :
    (World.start environment).At build 0 false := by
  refine ⟨⟨fun before record after split => ?_, .new, rfl⟩, rfl, rfl⟩
  exact absurd split (by simp [World.start])

/-- The statistics of every run with fewer than `2^32` requests add up, whatever comes back. -/
theorem run_accounted (family : Family) (crate : Crate) (platform : Platform) (showIpv6 : Ipv6Addr → String)
    (pgConfig : PingConfig) (fuel : Nat) (environment : Environment)
    (few : (ledgerOf (family.run crate platform showIpv6 pgConfig fuel
      (World.start environment)).state.log).requests.length < 2 ^ 32) :
    Accounted (family.build crate pgConfig)
      (family.run crate platform showIpv6 pgConfig fuel (World.start environment)).state.log := by
  have balanced : (family.run crate platform showIpv6 pgConfig fuel
      (World.start environment)).state.Balanced (family.build crate pgConfig) := by
    cases family with
    | ipv4 => exact (PingImpl.triple_ping4Run fuel).state (fun _ _ => between_balanced) (at_start _ environment)
    | ipv6 => exact (Ping6Common.triple_ping6Run fuel).state (fun _ _ => between_balanced) (at_start _ environment)
  exact balanced.accounted few

/-! ### A run with replies out of order

Two requests of the preload and one of the main loop; the second is answered twice before the first is
answered, and the third never. -/

def replyTo (seq : UInt16) : RecvOutcome :=
  .ok { bytes := [0x45, 0, 0, 28, 0, 0, 0, 0, 64, 1, 0, 0, 192, 0, 2, 1, 192, 0, 2, 2] ++
    [0, 0, 0, 0, 0, 7] ++ beBytes16 seq }

def outOfOrder : Environment where
  interrupts _ := false
  instants reading := reading * Duration.fromMillis 300
  systemTimes _ := some (1700000000, 0)
  sendFailures _ := none
  readTimeoutFailures _ := none
  recvs := [replyTo 2, replyTo 2, replyTo 1, .error ⟨.wouldBlock, "Resource temporarily unavailable"⟩]

def outOfOrderConfig : PingConfig := { count := some 3, preload := 2, identifier := 7, packetSize := 0 }

def zeroPlatform : Platform := ⟨fun _ _ => Vector.replicate 16 0, fun _ => Vector.replicate 4 0⟩

theorem run_accounted_outOfOrder :
    let outcome := Family.ipv4.run .rfcs zeroPlatform (fun _ => "") outOfOrderConfig 5 (World.start outOfOrder)
    outcome.isDone ∧ outcome.state.status.summary = some (3, 2, 0, 1) ∧
      (ledgerOf outcome.state.log).counted = [1, 0] ∧
      Accounted (Family.ipv4.build .rfcs outOfOrderConfig) outcome.state.log :=
  ⟨by decide +kernel, by decide +kernel, by decide +kernel,
    run_accounted .ipv4 .rfcs zeroPlatform (fun _ => "") outOfOrderConfig 5 outOfOrder (by decide +kernel)⟩

end Utiputils.Ping
