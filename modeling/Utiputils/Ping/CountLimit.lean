import Utiputils.Ping.Counting
import Utiputils.Ping.NodeInfo

/-! # The limit of `-c`

How many requests a run with a count makes. The loops that send one request at a time look at the count
between two requests; the preload is sent in one go. -/

namespace Utiputils.Ping

open Utiputils.Lib Utiputils.Pnet Proc

/-! ## The requests of a run -/

/-- The requests in the log, and the counter. -/
def World.demand (world : World) : Nat × UInt32 := (countEvents isRequest world.log, world.status.transmitted)

/-- There have been `number` requests, and the counter says so. -/
def World.Made (number : Nat) (world : World) : Prop := world.demand = (number, UInt32.ofNat number)

/-- No more requests than the count, and the counter says how many. -/
def World.Within (count : UInt32) (world : World) : Prop := ∃ number ≤ count.toNat, world.Made number

/-- Still fewer. -/
def World.Below (count : UInt32) (world : World) : Prop := ∃ number < count.toNat, world.Made number

theorem demand_enter (world : World) (event : Event) (status : PingStats) :
    (world.enter event status).demand =
      (countEvents isRequest world.log + (isRequest event).toNat, status.transmitted) := by
  simp only [World.demand, World.enter, countEvents_concat]

theorem World.Below.within {count : UInt32} {world : World} (below : world.Below count) : world.Within count := by
  obtain ⟨number, fewer, made⟩ := below
  exact ⟨number, fewer.le, made⟩

theorem World.Made.within {world : World} {count : UInt32} (made : world.Made 0) : world.Within count :=
  ⟨0, Nat.zero_le _, made⟩

theorem World.Made.below {world : World} {count : UInt32} (positive : 1 ≤ count) (made : world.Made 0) :
    world.Below count :=
  ⟨0, UInt32.le_iff_toNat_le.mp positive, made⟩

/-! ## Processes that make no request -/

abbrev Unasking {Result : Type} (process : Proc World Result) : Prop := Leaves World.demand process

section

variable {Reply Result : Type}

theorem unasking_of_aside {process : Proc World Result} (aside : Aside [] process) : Unasking process :=
  fun world => congrArg (fun tally => (tally.requested, tally.transmitted)) (aside world)

theorem unasking_print (outputs : List Output) : Unasking (print outputs) := unasking_of_aside (aside_print outputs)

theorem unasking_loopBoundary : Unasking loopBoundary := unasking_of_aside aside_loopBoundary

theorem unasking_now : Unasking now := unasking_of_aside aside_now

theorem unasking_isRunning : Unasking isRunning := unasking_of_aside aside_isRunning

theorem unasking_setStartTime : Unasking setStartTime := unasking_of_aside aside_setStartTime

theorem unasking_connect (pgConfig : PingConfig) : Unasking (connect pgConfig) :=
  unasking_of_aside (aside_connect pgConfig)

theorem unasking_timeoutOrCountExit (pgConfig : PingConfig) : Unasking (timeoutOrCountExit pgConfig) :=
  unasking_of_aside (aside_timeoutOrCountExit pgConfig)

theorem unasking_countReply (seq : UInt16) (before after : Duration → List Output) :
    Unasking (countReply seq before after) := unasking_of_aside (aside_countReply seq before after)

theorem unasking_setReadTimeout : Unasking setReadTimeout := leaves_modifyGet fun _ => rfl

theorem unasking_countError (isIcmpError : Bool) (otherwise : List Output) :
    Unasking (countError isIcmpError otherwise) := by
  cases isIcmpError with
  | true => exact leaves_modify fun world => demand_enter world _ _
  | false => exact unasking_print otherwise

theorem unasking_printSummary : Unasking printSummary := by
  refine leaves_get_bind fun seen => leaves_bind (leaves_modify fun world => demand_enter world _ _) fun _ => ?_
  split
  · exact leaves_pure
  · exact leaves_stop

theorem unasking_printSummary_ok :
    Unasking (do printSummary; pure (.ok ()) : Proc World (Except String Unit)) :=
  leaves_bind unasking_printSummary fun _ => leaves_pure

theorem unasking_receive (receiver : List RecvOutcome → Option (Received Reply)) (sequence : Reply → UInt16) :
    Unasking (receive receiver sequence) := by
  intro world
  rw [receive_eq]
  cases receiver world.recvs with
  | none => rfl
  | some received =>
    have printed := congrArg (fun tally => (tally.requested, tally.transmitted))
      (@tally_print [] (received.printed.map .line) world)
    exact (demand_enter _ _ _).trans printed

theorem unasking_answer {receiver : Proc World (Except String Reply)}
    {handler : Except String Reply → Proc World Result} (receives : Unasking receiver)
    (replies : ∀ reply, Unasking (handler (.ok reply))) (errors : ∀ message, Unasking (handler (.error message))) :
    Unasking (receiver >>= handler) := by
  refine leaves_bind receives fun result => ?_
  cases result with
  | ok reply => exact replies reply
  | error message => exact errors message

/-- What a process that makes no request keeps. -/
theorem Unasking.made {process : Proc World Result} (unasking : Unasking process) (number : Nat) :
    Keeps (World.Made number) process :=
  unasking.keeps (· = (number, UInt32.ofNat number))

theorem Unasking.within {process : Proc World Result} (unasking : Unasking process) (count : UInt32) :
    Keeps (World.Within count) process :=
  unasking.keeps fun demand => ∃ number ≤ count.toNat, demand = (number, UInt32.ofNat number)

end

/-! ## Loops that send -/

section

variable {pgConfig : PingConfig} {count : UInt32}

theorem made_recorded (seq : UInt16) (packet : Bytes) (number : Nat) (stopped : World → Prop) :
    Triple (World.Made number) (do recordSentTime seq; sendTo packet) (fun _ => World.Made (number + 1)) stopped := by
  have clock : Triple (World.Made number) now (fun _ => World.Made number) stopped :=
    triple_modifyGet fun _ made => made
  refine triple_bind (triple_bind clock fun now => triple_modify fun world made => ?_)
    fun _ => triple_modifyGet fun world made => (demand_enter _ _ _).trans made
  obtain ⟨requests, transmitted⟩ : countEvents isRequest world.log = number ∧
    world.status.transmitted = UInt32.ofNat number := Prod.mk.inj made
  show (world.enter _ _).demand = _
  rw [demand_enter, requests, PingStats.recordSentTime, transmitted, UInt32.ofNat_add]
  rfl

theorem made_systemTime (number : Nat) (stopped : World → Prop) :
    Triple (World.Made number) systemTime (fun _ => World.Made number) stopped :=
  triple_modifyGet fun _ made => made

theorem made_sendRequest (platform : Platform) (build : IcmpEchoRequest → Option Bytes) (seq : UInt16)
    (number : Nat) :
    Triple (World.Made number) (sendRequest platform pgConfig build seq) (fun _ => World.Made (number + 1))
      (World.Made number) := by
  refine triple_bind (made_systemTime number _) fun systemTime => ?_
  cases build (.new platform systemTime seq pgConfig.identifier pgConfig.packetSize) with
  | none => exact triple_stop fun _ made => made
  | some packet => exact made_recorded seq packet number _

/-- Where every request can be built, nothing stops the process. -/
theorem made_sendRequest_total {build : IcmpEchoRequest → Option Bytes} (total : ∀ request, (build request).isSome)
    (platform : Platform) (seq : UInt16) (number : Nat) (stopped : World → Prop) :
    Triple (World.Made number) (sendRequest platform pgConfig build seq) (fun _ => World.Made (number + 1)) stopped := by
  refine triple_bind (made_systemTime number stopped) fun systemTime => ?_
  obtain ⟨packet, built⟩ := Option.isSome_iff_exists.mp
    (total (.new platform systemTime seq pgConfig.identifier pgConfig.packetSize))
  rw [built]
  exact made_recorded seq packet number stopped

theorem countReached_iff (isCount : pgConfig.count = some count) {status : PingStats} {number : Nat}
    (transmitted : status.transmitted = UInt32.ofNat number) (small : number < 2 ^ 32) :
    countReached pgConfig status = true ↔ count.toNat ≤ number := by
  rw [countReached, isCount, transmitted]
  simp only [decide_eq_true_eq, UInt32.le_iff_toNat_le, UInt32.toNat_ofNat']
  rw [Nat.mod_eq_of_lt small]

/-- The count ends the loop as soon as it is reached. -/
theorem below_timeoutOrCountExit (isCount : pgConfig.count = some count) :
    Triple (World.Within count) (timeoutOrCountExit pgConfig)
      (fun ends world => if ends then world.Within count else world.Below count) (World.Within count) := by
  refine triple_get_bind fun seen ⟨number, le, made⟩ => ?_
  have small : number < 2 ^ 32 := le.trans_lt count.toNat_lt
  split
  · rintro world rfl
    exact ⟨number, le, made⟩
  next notReached =>
    have below : seen.Below count := by
      rw [countReached_iff isCount (congrArg Prod.snd made) small] at notReached
      exact ⟨number, by omega, made⟩
    split
    · have timed : Triple (fun world => world = seen) now (fun _ world => world.Below count) (World.Within count) := by
        rintro world rfl
        exact below
      refine triple_bind timed fun now => ?_
      split
      · exact fun _ below => below.within
      · exact triple_pure fun _ below => below
    · rintro world rfl
      exact below

/-- When the count has been reached the loop ends. -/
theorem made_timeoutOrCountExit (isCount : pgConfig.count = some count) {number : Nat}
    (reached : count.toNat ≤ number) (small : number < 2 ^ 32) :
    Triple (World.Made number) (timeoutOrCountExit pgConfig)
      (fun ends world => ends = true ∧ world.Made number) (World.Made number) := by
  refine triple_get_bind fun seen made => ?_
  rw [if_pos ((countReached_iff isCount (congrArg Prod.snd made) small).mpr reached)]
  rintro world rfl
  exact ⟨rfl, made⟩

theorem made_loopBoundary (number : Nat) (stopped : World → Prop) :
    Triple (World.Made number) loopBoundary (fun _ => World.Made number) stopped :=
  triple_modify fun _ made => (demand_enter _ _ _).trans made

/-- A loop that makes one request a turn. -/
theorem within_echoLoop (isCount : pgConfig.count = some count) {send : UInt16 → Proc World (Option String)}
    (sends : ∀ seq number, Triple (World.Made number) (send seq) (fun _ => World.Made (number + 1)) (World.Made number))
    (endsOnFailure : Bool) {answer : UInt16 → Proc World Unit} (answers : ∀ seq, Unasking (answer seq)) (fuel : Nat)
    (seq : UInt16) :
    Triple (World.Below count) (do forever (echoTurn pgConfig send endsOnFailure answer) fuel seq; loopBoundary)
      (fun _ => World.Within count) (World.Within count) := by
  have turn : ∀ seq, Triple (World.Below count) (echoTurn pgConfig send endsOnFailure answer seq)
      (Turn.post (fun _ => World.Below count) fun _ => World.Within count) (World.Within count) := by
    rintro seq world ⟨number, fewer, made⟩
    have before : ∀ world : World, world.Made number → world.Within count := fun _ made => ⟨number, fewer.le, made⟩
    have behind : ∀ world : World, world.Made (number + 1) → world.Within count := fun _ made =>
      ⟨number + 1, fewer, made⟩
    refine triple_bind (made_loopBoundary number _) (fun _ => triple_bind
      (triple_stopped (unasking_isRunning.made number) before) fun running => ?_) world made
    split
    · -- the request stays within the count, as there were fewer before
      refine triple_bind (triple_stopped (sends seq number) before) fun failure => ?_
      split
      · exact triple_pure behind
      · refine triple_bind (triple_conseq ((answers seq).within count) behind fun _ _ within => within) fun _ =>
          triple_bind (below_timeoutOrCountExit isCount) fun ends => ?_
        cases ends with
        | true => exact triple_pure fun _ within => within
        | false => exact triple_pure fun _ below => below
    · exact triple_pure before
  exact triple_bind (triple_forever (fun _ => World.Below count) turn (fun _ _ below => below.within) fuel seq)
    fun _ => unasking_loopBoundary.within count

/-- The preload makes all its requests, whatever the count. -/
theorem made_sendPreload {send : UInt16 → Proc World (Option String)} {size : Nat} {stopped : World → Prop}
    (sends : ∀ seq number, number < size →
      Triple (World.Made number) (send seq) (fun _ => World.Made (number + 1)) stopped) (seq : UInt16) :
    Triple (World.Made 0) (do let _ ← forRange (fun _ => preloadTurn send) 0 size seq; loopBoundary)
      (fun _ => World.Made size) stopped := by
  have turn : ∀ index startSeq, 0 ≤ index → index < 0 + size →
      Triple (World.Made index) (preloadTurn send startSeq)
        (Turn.post (fun _ => World.Made (index + 1)) fun (_ : Unit) => World.Made size) stopped :=
    fun index startSeq _ inside => triple_bind (made_loopBoundary index stopped) fun _ =>
      triple_bind (sends startSeq index (by omega)) fun _ => triple_pure fun _ made => made
  refine triple_bind (triple_forRange (fun index _ => World.Made index) turn seq) fun ended => ?_
  cases ended with
  | next => rw [Nat.zero_add]; exact made_loopBoundary size stopped
  | exit => exact made_loopBoundary size stopped

/-- A preload no longer than the count never gets beyond it. -/
theorem within_sendPreload {send : UInt16 → Proc World (Option String)} {size : Nat} (few : size ≤ count.toNat)
    (sends : ∀ seq number, Triple (World.Made number) (send seq) (fun _ => World.Made (number + 1)) (World.Made number))
    (seq : UInt16) :
    Triple (World.Made 0) (do let _ ← forRange (fun _ => preloadTurn send) 0 size seq; loopBoundary)
      (fun _ => World.Made size) (World.Within count) :=
  made_sendPreload (fun seq number inside => triple_stopped (sends seq number) fun _ made =>
    ⟨number, inside.le.trans few, made⟩) seq

theorem unasking_replyLoop {answer : Proc World Unit} {exits : Proc World Bool} (answers : Unasking answer)
    (leaves : Unasking exits) (size : Nat) :
    Unasking (do let _ ← forRange (fun _ _ => replyTurn answer exits) 0 size (); loopBoundary) := by
  refine leaves_bind (leaves_forRange (fun _ _ => ?_) 0 size ()) fun _ => unasking_loopBoundary
  refine leaves_bind unasking_loopBoundary fun _ => leaves_bind unasking_isRunning fun running => ?_
  split
  · refine leaves_bind answers fun _ => leaves_bind leaves fun ends => ?_
    split <;> exact leaves_pure
  · exact leaves_pure

/-! ## The runs -/

/-- A process that makes the preload and may be all there is. -/
def preloadOnce (pgConfig : PingConfig) (sendAll receiveAll : Proc World Unit) : Proc World Bool :=
  if 0 < pgConfig.preload then do
    (do sendAll; receiveAll)
    timeoutOrCountExit pgConfig
  else pure false

theorem within_preloadOnce (isCount : pgConfig.count = some count) (positive : 1 ≤ count)
    (few : pgConfig.preload.toNat ≤ count.toNat) {sendAll receiveAll : Proc World Unit}
    (sendsAll : Triple (World.Made 0) sendAll (fun _ => World.Made pgConfig.preload.toNat) (World.Within count))
    (receivesAll : Unasking receiveAll) :
    Triple (World.Made 0) (preloadOnce pgConfig sendAll receiveAll)
      (fun ends world => if ends then world.Within count else world.Below count) (World.Within count) := by
  rw [preloadOnce]
  split
  · have receives := triple_conseq (receivesAll.within count) (fun _ made => ⟨_, few, made⟩) fun _ _ within => within
    exact triple_bind (triple_bind sendsAll fun _ => receives) fun _ => below_timeoutOrCountExit isCount
  · exact triple_pure fun _ made => made.below positive

/-- Too long a preload ends the run, and has exceeded the count. -/
theorem made_preloadOnce (isCount : pgConfig.count = some count) (many : count.toNat < pgConfig.preload.toNat)
    {sendAll receiveAll : Proc World Unit}
    (sendsAll : Triple (World.Made 0) sendAll (fun _ => World.Made pgConfig.preload.toNat)
      (World.Made pgConfig.preload.toNat)) (receivesAll : Unasking receiveAll) :
    Triple (World.Made 0) (preloadOnce pgConfig sendAll receiveAll)
      (fun ends world => ends = true ∧ world.Made pgConfig.preload.toNat) (World.Made pgConfig.preload.toNat) := by
  have small : pgConfig.preload.toNat < 2 ^ 32 := by
    have le := pgConfig.preload_le
    omega
  have some : 0 < pgConfig.preload := UInt16.lt_iff_toNat_lt.mpr (Nat.zero_lt_of_lt many)
  rw [preloadOnce, if_pos some]
  exact triple_bind (triple_bind sendsAll fun _ => receivesAll.made _) fun _ =>
    made_timeoutOrCountExit isCount many.le small

/-- Whether the socket cannot be connected. -/
def ConnectFails (pgConfig : PingConfig) (environment : Environment) : Prop :=
  pgConfig.connectSk = true ∧ environment.connectFailure.isSome = true

end

theorem print_environment (outputs : List Output) (world : World) :
    (outputs.foldl (fun world output => world.note (.printed output)) world).toEnvironment = world.toEnvironment := by
  induction outputs generalizing world with
  | nil => rfl
  | cons output outputs inductionHypothesis => exact inductionHypothesis (world.note (.printed output))

/-- Before the socket is connected: no request, and what is known of the connection. -/
def Opening (pgConfig : PingConfig) (fails : Prop → Prop) (world : World) : Prop :=
  world.Made 0 ∧ fails (ConnectFails pgConfig world.toEnvironment)

section

variable (pgConfig : PingConfig) (fails : Prop → Prop) {stopped : World → Prop}

theorem opening_print (outputs : List Output) :
    Triple (Opening pgConfig fails) (print outputs) (fun _ => Opening pgConfig fails) stopped :=
  triple_modify fun world ⟨made, connects⟩ => ⟨(unasking_print outputs world).trans made, by
    rwa [print_environment]⟩

theorem opening_setStartTime :
    Triple (Opening pgConfig fails) setStartTime (fun _ => Opening pgConfig fails) stopped := by
  have clock : Triple (Opening pgConfig fails) now (fun _ => Opening pgConfig fails) stopped :=
    triple_modifyGet fun _ here => here
  exact triple_bind clock fun _ => triple_modify fun _ here => here

theorem opening_connect : Triple (Opening pgConfig fails) (connect pgConfig)
    (fun failure world => world.Made 0 ∧ fails (failure.isSome = true)) stopped := by
  rw [connect]
  split
  next connects =>
    apply triple_modifyGet
    intro world here
    obtain ⟨made, known⟩ := here
    rw [ConnectFails, connects] at known
    exact ⟨made, by simpa using known⟩
  next notAsked =>
    apply triple_pure
    intro world here
    obtain ⟨made, known⟩ := here
    rw [ConnectFails, Bool.eq_false_of_not_eq_true notAsked] at known
    exact ⟨made, by simpa using known⟩

end

namespace PingImpl

section

variable {crate : Crate} {platform : Platform} {pgConfig : PingConfig} {count : UInt32} {fuel : Nat}

theorem unasking_receiveIcmpReplyWithTimeout : Unasking (receiveIcmpReplyWithTimeout crate pgConfig) := by
  refine leaves_bind unasking_setReadTimeout fun failure => ?_
  cases failure with
  | some failure => exact leaves_pure
  | none =>
    refine leaves_bind (unasking_receive _ _) fun result => leaves_bind unasking_setReadTimeout fun failure => ?_
    cases failure <;> exact leaves_pure

theorem unasking_answerPreload : Unasking (answerPreload crate pgConfig) :=
  unasking_answer (unasking_receive _ _) (fun _ => unasking_countReply _ _ _) fun _ => unasking_countError _ _

theorem unasking_answerFlood : Unasking (answerFlood crate pgConfig) :=
  leaves_bind (unasking_print _) fun _ => unasking_answer unasking_receiveIcmpReplyWithTimeout
    (fun _ => unasking_countReply _ _ _) fun _ => unasking_countError _ _

theorem unasking_answerMain (seq : UInt16) : Unasking (answerMain crate pgConfig seq) := by
  rw [answerMain]
  split
  · exact unasking_answer (unasking_receive _ _) (fun _ => unasking_countReply _ _ _) fun _ => unasking_countError _ _
  · exact unasking_answer unasking_receiveIcmpReplyWithTimeout (fun _ => unasking_countReply _ _ _)
      fun _ => unasking_countError _ _

theorem unasking_finalListen : Unasking (finalListen crate pgConfig fuel) := by
  refine leaves_bind unasking_now fun start => leaves_bind (leaves_forever (fun _ => ?_) fuel ()) fun _ =>
    unasking_loopBoundary
  refine leaves_bind unasking_loopBoundary fun _ => leaves_bind unasking_now fun now => ?_
  split
  · exact unasking_answer unasking_receiveIcmpReplyWithTimeout
      (fun _ => leaves_bind (unasking_countReply _ _ _) fun _ => leaves_pure) fun _ => leaves_pure
  · exact leaves_pure

theorem made_sendEcho (seq : UInt16) (number : Nat) : Triple (World.Made number)
    (sendEcho crate platform pgConfig seq) (fun _ => World.Made (number + 1)) (World.Made number) :=
  made_sendRequest _ _ seq number

theorem unasking_receiveIcmpReplies : Unasking (receiveIcmpReplies crate pgConfig) :=
  unasking_replyLoop unasking_answerPreload (unasking_timeoutOrCountExit pgConfig) _

theorem within_ping4Run (isCount : pgConfig.count = some count) (positive : 1 ≤ count)
    (limited : pgConfig.flood = true ∨ pgConfig.preload.toNat ≤ count.toNat) :
    Triple (World.Made 0) (ping4Run crate platform pgConfig fuel) (fun _ => World.Within count)
      (World.Within count) := by
  have start : ∀ world : World, world.Made 0 → world.Within count := fun _ made => made.within
  have below : ∀ world : World, world.Made 0 → world.Below count := fun _ made => made.below positive
  refine triple_bind (triple_stopped (unasking_setStartTime.made 0) start) fun _ => triple_bind
    (triple_stopped ((unasking_print _).made 0) start) fun _ => triple_bind
    (triple_stopped ((unasking_connect pgConfig).made 0) start) fun failure => ?_
  cases failure with
  | some failure => exact triple_pure start
  | none =>
    simp only
    -- a flood has no preload
    split
    · exact triple_bind (triple_conseq (within_echoLoop isCount made_sendEcho false
        (fun _ => unasking_answerFlood) fuel 1) below fun _ _ within => within) fun _ =>
        unasking_printSummary_ok.within count
    next notFlood =>
      have few := limited.resolve_left notFlood
      have sendsAll : Triple (World.Made 0) (sendIcmpRequests crate platform pgConfig 1)
          (fun _ => World.Made pgConfig.preload.toNat) (World.Within count) :=
        within_sendPreload few made_sendEcho 1
      refine triple_bind (within_preloadOnce isCount positive few sendsAll unasking_receiveIcmpReplies) fun ends => ?_
      cases ends with
      | true => exact unasking_printSummary_ok.within count
      | false =>
        exact triple_bind (within_echoLoop isCount made_sendEcho true unasking_answerMain fuel _) fun _ =>
          triple_bind (unasking_finalListen.within count) fun _ => unasking_printSummary_ok.within count

/-- With too long a preload the count is exceeded, unless the run ends before it. -/
theorem made_ping4Run (follows : crate.FollowsRfcs) (isCount : pgConfig.count = some count)
    (noFlood : pgConfig.flood = false) (many : count.toNat < pgConfig.preload.toNat) :
    Triple (Opening pgConfig Not)
      (ping4Run crate platform pgConfig fuel) (fun _ => World.Made pgConfig.preload.toNat)
      (World.Made pgConfig.preload.toNat) := by
  refine triple_bind (opening_setStartTime pgConfig Not) fun _ => triple_bind (opening_print pgConfig Not _) fun _ =>
    triple_bind (opening_connect pgConfig Not) fun failure => ?_
  cases failure with
  | some failure => exact fun world ⟨_, connects⟩ => absurd rfl connects
  | none =>
    simp only [noFlood, Bool.false_eq_true, if_false]
    have sendsAll : Triple (World.Made 0) (sendIcmpRequests crate platform pgConfig 1)
        (fun _ => World.Made pgConfig.preload.toNat) (World.Made pgConfig.preload.toNat) :=
      made_sendPreload (fun seq number _ => made_sendRequest_total (fun request => by
        rw [IcmpEchoRequest.buildPacket_bytes follows]
        rfl) platform seq number _) 1
    have preloads := made_preloadOnce isCount many sendsAll (@unasking_receiveIcmpReplies crate pgConfig)
    refine triple_bind (triple_conseq preloads (fun _ here => here.1) fun _ _ reached => reached) fun ends => ?_
    cases ends with
    | true => exact triple_conseq (unasking_printSummary_ok.made _) (fun _ reached => reached.2) fun _ _ made => made
    | false => exact fun world ⟨ended, _⟩ => nomatch ended

/-- Where the socket cannot be connected there is no request. -/
theorem unconnected_ping4Run : Triple (Opening pgConfig id) (ping4Run crate platform pgConfig fuel)
    (fun _ => World.Made 0) (World.Made 0) := by
  refine triple_bind (opening_setStartTime pgConfig id) fun _ => triple_bind (opening_print pgConfig id _) fun _ =>
    triple_bind (opening_connect pgConfig id) fun failure => ?_
  cases failure with
  | some failure => exact triple_pure fun _ here => here.1
  | none => exact fun world ⟨_, failed⟩ => nomatch (failed : false = true)

end

end PingImpl

namespace Ping6Common

section

variable {crate : Crate} {platform : Platform} {showIpv6 : Ipv6Addr → String} {pgConfig : PingConfig}
  {count : UInt32} {fuel : Nat}

theorem unasking_answerPreload : Unasking (answerPreload crate showIpv6 pgConfig) :=
  unasking_answer (unasking_receive _ _) (fun _ => unasking_countReply _ _ _) fun _ => leaves_pure

theorem unasking_answerFlood : Unasking (answerFlood crate showIpv6 pgConfig) :=
  leaves_bind (unasking_print _) fun _ =>
    unasking_answer (unasking_receive _ _) (fun _ => unasking_countReply _ _ _) fun _ => leaves_pure

theorem unasking_answerMain (seq : UInt16) : Unasking (answerMain crate showIpv6 pgConfig seq) :=
  unasking_answer (unasking_receive _ _) (fun _ => unasking_countReply _ _ _) fun _ => unasking_countError _ _

theorem unasking_receiveIcmpv6Replies : Unasking (receiveIcmpv6Replies crate showIpv6 pgConfig) :=
  unasking_replyLoop unasking_answerPreload (leaves_get_bind fun _ => leaves_pure) _

theorem made_sendEcho (seq : UInt16) (number : Nat) : Triple (World.Made number)
    (sendEcho crate platform pgConfig seq) (fun _ => World.Made (number + 1)) (World.Made number) :=
  made_sendRequest _ _ seq number

theorem within_ping6Run (isCount : pgConfig.count = some count) (positive : 1 ≤ count)
    (limited : pgConfig.flood = true ∨ pgConfig.preload.toNat ≤ count.toNat) :
    Triple (World.Made 0) (ping6Run crate platform showIpv6 pgConfig fuel) (fun _ => World.Within count)
      (World.Within count) := by
  have start : ∀ world : World, world.Made 0 → world.Within count := fun _ made => made.within
  have below : ∀ world : World, world.Made 0 → world.Below count := fun _ made => made.below positive
  refine triple_bind (triple_stopped ((unasking_connect pgConfig).made 0) start) fun failure => ?_
  cases failure with
  | some failure => exact triple_pure start
  | none =>
    refine triple_bind (triple_stopped (unasking_setStartTime.made 0) start) fun _ => triple_bind
      (triple_stopped ((unasking_print _).made 0) start) fun _ => ?_
    -- a flood has no preload
    split
    · exact triple_bind (triple_conseq (within_echoLoop isCount made_sendEcho false
        (fun _ => unasking_answerFlood) fuel 1) below fun _ _ within => within) fun _ =>
        unasking_printSummary_ok.within count
    next notFlood =>
      have few := limited.resolve_left notFlood
      have sendsAll : Triple (World.Made 0) (sendIcmpv6Requests crate platform pgConfig 1)
          (fun _ => World.Made pgConfig.preload.toNat) (World.Within count) :=
        within_sendPreload few made_sendEcho 1
      refine triple_bind (within_preloadOnce isCount positive few sendsAll unasking_receiveIcmpv6Replies) fun ends => ?_
      cases ends with
      | true => exact unasking_printSummary_ok.within count
      | false =>
        exact triple_bind (within_echoLoop isCount made_sendEcho true unasking_answerMain fuel _) fun _ =>
          unasking_printSummary_ok.within count

theorem made_ping6Run (follows : crate.FollowsRfcs) (isCount : pgConfig.count = some count)
    (noFlood : pgConfig.flood = false) (many : count.toNat < pgConfig.preload.toNat) :
    Triple (Opening pgConfig Not)
      (ping6Run crate platform showIpv6 pgConfig fuel) (fun _ => World.Made pgConfig.preload.toNat)
      (World.Made pgConfig.preload.toNat) := by
  refine triple_bind (opening_connect pgConfig Not) fun failure => ?_
  cases failure with
  | some failure => exact fun world ⟨_, connects⟩ => absurd rfl connects
  | none =>
    simp only [noFlood, Bool.false_eq_true, if_false]
    have sendsAll : Triple (World.Made 0) (sendIcmpv6Requests crate platform pgConfig 1)
        (fun _ => World.Made pgConfig.preload.toNat) (World.Made pgConfig.preload.toNat) :=
      made_sendPreload (fun seq number _ => made_sendRequest_total (fun request => by
        rw [IcmpEchoRequest.buildPacketV6_bytes follows]
        rfl) platform seq number _) 1
    have preloads := made_preloadOnce isCount many sendsAll (@unasking_receiveIcmpv6Replies crate showIpv6 pgConfig)
    refine triple_bind (triple_conseq (opening_setStartTime pgConfig fun _ => True) (fun _ here => ⟨here.1, trivial⟩)
      fun _ _ here => here) fun _ => triple_bind (opening_print pgConfig _ _) fun _ => ?_
    refine triple_bind (triple_conseq preloads (fun _ here => here.1) fun _ _ reached => reached) fun ends => ?_
    cases ends with
    | true => exact triple_conseq (unasking_printSummary_ok.made _) (fun _ reached => reached.2) fun _ _ made => made
    | false => exact fun world ⟨ended, _⟩ => nomatch ended

theorem unconnected_ping6Run : Triple (Opening pgConfig id) (ping6Run crate platform showIpv6 pgConfig fuel)
    (fun _ => World.Made 0) (World.Made 0) := by
  refine triple_bind (opening_connect pgConfig id) fun failure => ?_
  cases failure with
  | some failure => exact triple_pure fun _ here => here.1
  | none => exact fun world ⟨_, failed⟩ => nomatch (failed : false = true)

end

end Ping6Common

/-! ## Node information queries -/

namespace Ping6Common

/-- The queries that were sent, and the counter. -/
def supply (world : World) : Nat × UInt32 := (sent world.log, world.status.transmitted)

/-- No more queries than the count have been sent, and the counter says how many. -/
def Answered (count : UInt32) (world : World) : Prop :=
  ∃ number ≤ count.toNat, supply world = (number, UInt32.ofNat number)

section

variable {crate : Crate} {showIpv6 : Ipv6Addr → String} {showMillis : Duration → String} {pgConfig : PingConfig}
  {nodeinfoOpt : String} {target : Ipv6Addr} {count : UInt32} {fuel : Nat}

theorem supply_enter (world : World) (event : Event) (status : PingStats) :
    supply (world.enter event status) = (sent world.log + (isSent event).toNat, status.transmitted) := by
  simp only [supply, World.enter, sent, countEvents_concat]

theorem leaves_supply {Result : Type} {process : Proc World Result} (aside : Aside [] process) :
    Leaves supply process := fun world => congrArg (fun tally => (tally.sent, tally.transmitted)) (aside world)

/-- A query counts exactly if it could be sent. -/
theorem supply_sendTo (packet : Bytes) {number : Nat} {stopped : World → Prop} :
    Triple (fun world => supply world = (number, UInt32.ofNat number)) (sendTo packet)
      (fun failure world => supply world =
        (number + (isSent (.sendTo packet failure)).toNat, UInt32.ofNat number)) stopped :=
  triple_modifyGet fun world served => by
    obtain ⟨queries, transmitted⟩ := Prod.mk.inj served
    exact (supply_enter _ _ _).trans (Prod.ext (congrArg (· + _) queries) transmitted)

theorem supply_countQuery {number : Nat} {stopped : World → Prop} :
    Triple (fun world => supply world = (number + 1, UInt32.ofNat number)) countQuery
      (fun _ world => supply world = (number + 1, UInt32.ofNat (number + 1))) stopped :=
  triple_modify fun world sent => by
    obtain ⟨queries, transmitted⟩ := Prod.mk.inj sent
    refine Prod.ext queries ?_
    show world.status.transmitted + 1 = _
    rw [transmitted, UInt32.ofNat_add]
    rfl

theorem leaves_recvFrom : Leaves supply recvFrom := by
  refine leaves_get_bind fun seen => ?_
  split
  · exact leaves_stop
  · exact leaves_bind (leaves_modify fun _ => rfl) fun _ => leaves_pure

theorem leaves_answerQuery (sendTime : Instant) (answer : RecvOutcome) :
    Leaves supply (answerQuery crate showIpv6 showMillis sendTime answer) := by
  cases answer with
  | error e => exact leaves_pure
  | ok datagram =>
    refine leaves_bind (leaves_supply aside_now) fun now => ?_
    simp only
    split
    · exact leaves_pure
    · refine leaves_bind (leaves_supply (aside_print _)) fun _ => ?_
      split
      · have counted : Leaves supply update := leaves_modify fun world => supply_enter world _ _
        exact leaves_bind counted fun _ => leaves_bind (leaves_supply (aside_print _)) fun _ => leaves_pure
      · exact leaves_pure

theorem answered_keeps {Result : Type} {process : Proc World Result} (leaves : Leaves supply process) :
    Keeps (Answered count) process :=
  leaves.keeps fun supply => ∃ number ≤ count.toNat, supply = (number, UInt32.ofNat number)

/-- The count is looked at before every query. -/
theorem answered_queryTurn (isCount : pgConfig.count = some count) (carried : UInt16 × Stream' (Option Nat)) :
    Keeps (Answered count) (queryTurn crate showIpv6 showMillis pgConfig nodeinfoOpt carried) := by
  refine keeps_bind (answered_keeps (leaves_supply aside_loopBoundary)) fun _ =>
    keeps_bind (answered_keeps (leaves_supply aside_isRunning)) fun running => ?_
  split
  · refine triple_get_bind fun seen ⟨number, le, served⟩ => ?_
    split
    · rintro world rfl
      exact ⟨number, le, served⟩
    next notReached =>
      -- a query is only sent below the count
      have fewer : number < count.toNat := by
        rw [countReached_iff isCount (congrArg Prod.snd served) (le.trans_lt count.toNat_lt)] at notReached
        omega
      have before : ∀ world, supply world = (number, UInt32.ofNat number) → Answered count world :=
        fun _ served => ⟨number, le, served⟩
      cases buildNodeinfoPacket carried.2.head nodeinfoOpt with
      | none => exact triple_stop fun world same => same ▸ before seen served
      | some packet =>
        have clock : Triple (fun world => world = seen) now (fun _ world => supply world = (number, UInt32.ofNat number))
            (Answered count) := by
          rintro world rfl
          exact served
        refine triple_bind clock fun sendTime => triple_bind (supply_sendTo packet) fun failure => ?_
        cases failure with
        | some failure => exact triple_pure before
        | none =>
          have behind : ∀ world, supply world = (number + 1, UInt32.ofNat (number + 1)) → Answered count world :=
            fun _ served => ⟨number + 1, fewer, served⟩
          refine triple_bind (triple_conseq supply_countQuery (fun _ sent => sent) fun _ => behind) fun _ => ?_
          refine keeps_bind (answered_keeps leaves_recvFrom) fun answer =>
            keeps_bind (answered_keeps (leaves_answerQuery sendTime answer)) fun result => ?_
          cases result <;> exact keeps_pure
  · exact keeps_pure

theorem answered_ping6RunNodeinfo (isCount : pgConfig.count = some count) (systemNanos : Stream' (Option Nat)) :
    Keeps (Answered count)
      (ping6RunNodeinfo crate showIpv6 showMillis pgConfig nodeinfoOpt target fuel systemNanos) := by
  have summary : Leaves supply printSummary := by
    refine leaves_get_bind fun seen => leaves_bind (leaves_modify fun world => supply_enter world _ _) fun _ => ?_
    split
    · exact leaves_pure
    · exact leaves_stop
  refine keeps_bind (answered_keeps (leaves_supply (aside_connect pgConfig))) fun failure => ?_
  cases failure with
  | some failure => exact keeps_pure
  | none =>
    refine keeps_bind (answered_keeps (leaves_supply aside_setStartTime)) fun _ =>
      keeps_bind (answered_keeps (leaves_supply (aside_print _))) fun _ =>
      keeps_bind (keeps_forever (answered_queryTurn isCount) fuel _) fun result => ?_
    cases result with
    | error failure => exact keeps_pure
    | ok _ =>
      exact keeps_bind (answered_keeps (leaves_supply aside_loopBoundary)) fun _ =>
        keeps_bind (answered_keeps summary) fun _ => keeps_pure

end

end Ping6Common

/-! ## The limit -/

/-- The requests never exceed the count exactly if the preload does not, or is not made: in the flood mode, or where
the socket cannot be connected. A run that queries node information always keeps to the count. -/
theorem within_run_iff (crate : Crate) (follows : crate.FollowsRfcs) (platform : Platform)
    (showIpv6 : Ipv6Addr → String) (pgConfig : PingConfig) (count : UInt32) (isCount : pgConfig.count = some count)
    (positive : 1 ≤ count) (fuel : Nat) (environment : Environment) :
    (∀ family : Family,
      ((family.run crate platform showIpv6 pgConfig fuel (World.start environment)).state.Within count ↔
        pgConfig.flood = true ∨ pgConfig.preload.toNat ≤ count.toNat ∨ ConnectFails pgConfig environment)) ∧
    ∀ showMillis nodeinfoOpt target systemNanos,
      Ping6Common.Answered count (Ping6Common.ping6RunNodeinfo crate showIpv6 showMillis pgConfig nodeinfoOpt target
        fuel systemNanos (World.start environment)).state := by
  refine ⟨fun family => ⟨fun within => ?_, fun limited => ?_⟩, fun showMillis nodeinfoOpt target systemNanos => ?_⟩
  · -- otherwise the preload alone makes more requests than the count
    by_contra exceeds
    simp only [not_or, not_le, Bool.not_eq_true] at exceeds
    obtain ⟨noFlood, many, connects⟩ := exceeds
    have made : (family.run crate platform showIpv6 pgConfig fuel
        (World.start environment)).state.Made pgConfig.preload.toNat := by
      cases family with
      | ipv4 =>
        exact (PingImpl.made_ping4Run follows isCount noFlood many).state (fun _ _ made => made) ⟨rfl, connects⟩
      | ipv6 =>
        exact (Ping6Common.made_ping6Run follows isCount noFlood many).state (fun _ _ made => made) ⟨rfl, connects⟩
    obtain ⟨number, le, same⟩ := within
    have preloaded : pgConfig.preload.toNat = number := congrArg Prod.fst (made.symm.trans same)
    omega
  · have ran : (family.run crate platform showIpv6 pgConfig fuel (World.start environment)).state.Within count ∨
        (family.run crate platform showIpv6 pgConfig fuel (World.start environment)).state.Made 0 := by
      rcases or_assoc.mpr limited with limited | fails
      · left
        cases family with
        | ipv4 => exact (PingImpl.within_ping4Run isCount positive limited).state (fun _ _ within => within) rfl
        | ipv6 => exact (Ping6Common.within_ping6Run isCount positive limited).state (fun _ _ within => within) rfl
      · right
        cases family with
        | ipv4 => exact PingImpl.unconnected_ping4Run.state (fun _ _ made => made) ⟨rfl, fails⟩
        | ipv6 => exact Ping6Common.unconnected_ping6Run.state (fun _ _ made => made) ⟨rfl, fails⟩
    exact ran.elim id World.Made.within
  · exact (Ping6Common.answered_ping6RunNodeinfo isCount systemNanos).state (fun _ _ answered => answered)
      ⟨0, Nat.zero_le _, rfl⟩

/-- The options `-l 3 -c 5`. -/
theorem within_run_iff_preloaded :
    (Family.ipv4.run .rfcs quietPlatform (fun _ => "") { count := some 5, preload := 3 } 10
      (World.start (worldWith none []))).state.Within 5 :=
  ((within_run_iff .rfcs Crate.rfcs_follows quietPlatform (fun _ => "") { count := some 5, preload := 3 } 5 rfl
    (by decide) 10 (worldWith none [])).1 .ipv4).mpr (.inr (.inl (by decide)))

theorem two_le_ten : (2 : UInt16).toNat ≤ 10 := by decide

/-- The run of the options `-l 2 -c 1`. -/
def burst (family : Family) : World :=
  (family.run .rfcs quietPlatform (fun _ => "")
    { count := some 1, preload := 2, packetSize := 0, preload_le := two_le_ten } 5
    (World.start (worldWith none []))).state

theorem not_within_of_demand {final : World} {number : Nat} {count transmitted : UInt32}
    (demand : final.demand = (number, transmitted)) (exceeds : count.toNat < number) : ¬ final.Within count := by
  rintro ⟨within, le, made⟩
  have same : number = within := congrArg Prod.fst (demand.symm.trans made)
  omega

theorem demand_burst (family : Family) : (burst family).demand = (2, 2) := by
  cases family with
  | ipv4 => decide +kernel
  | ipv6 => decide +kernel

/-- Both families send two requests. -/
theorem preload_exceeds_count :
    (burst .ipv4).status.transmitted = 2 ∧ ¬ (burst .ipv4).Within 1 ∧
      (burst .ipv6).status.transmitted = 2 ∧ ¬ (burst .ipv6).Within 1 :=
  ⟨congrArg Prod.snd (demand_burst .ipv4), not_within_of_demand (demand_burst .ipv4) (by decide),
    congrArg Prod.snd (demand_burst .ipv6), not_within_of_demand (demand_burst .ipv6) (by decide)⟩

end Utiputils.Ping
