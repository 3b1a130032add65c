import Utiputils.Ping.Foreign

/-! # What the two counters count

The log of a run shows how many receive calls ended with an ICMP error message and how many requests could
be sent. The loops of `ping4_run` and `ping6_run` count on `PingStats.errors` and
`PingStats.transmitted`: not all of them the errors, and all of them requests that could not be sent. -/

namespace Utiputils.Ping

open Utiputils.Lib Utiputils.Pnet Proc

/-! ## Counts of a log -/

/-- A receive function returned with one of the texts. -/
def isIcmpError (texts : List String) : Event → Bool
  | .received (.error text) => decide (text ∈ texts)
  | _ => false

def isRequest : Event → Bool
  | .recordSentTime .. => true
  | _ => false

def isSent : Event → Bool
  | .sendTo _ none => true
  | _ => false

def isUnsent : Event → Bool
  | .sendTo _ (some _) => true
  | _ => false

def isSummary : Event → Bool
  | .summary _ => true
  | _ => false

/-- The receive calls that ended with an ICMP error message. -/
def reportedErrors (texts : List String) (log : List Record) : Nat := countEvents (isIcmpError texts) log

/-- The calls of `send_to` that succeeded. -/
def sent (log : List Record) : Nat := countEvents isSent log

/-- The calls that failed. -/
def unsent (log : List Record) : Nat := countEvents isUnsent log

/-- What the counters depend on: the two of them, the counts of the log, and the answers to come. -/
structure Tally where
  errors : UInt32
  transmitted : UInt32
  reportedErrors : Nat
  requested : Nat
  sent : Nat
  unsent : Nat
  summaries : Nat
  recvs : List RecvOutcome
  readTimeoutFailures : Stream' (Option String)

def World.tally (texts : List String) (world : World) : Tally where
  errors := world.status.errors
  transmitted := world.status.transmitted
  reportedErrors := Ping.reportedErrors texts world.log
  requested := countEvents isRequest world.log
  sent := Ping.sent world.log
  unsent := Ping.unsent world.log
  summaries := countEvents isSummary world.log
  recvs := world.recvs
  readTimeoutFailures := world.readTimeoutFailures

theorem tally_enter (texts : List String) (world : World) (event : Event) (status : PingStats) :
    (world.enter event status).tally texts = { world.tally texts with
      errors := status.errors
      transmitted := status.transmitted
      reportedErrors := (world.tally texts).reportedErrors + (isIcmpError texts event).toNat
      requested := (world.tally texts).requested + (isRequest event).toNat
      sent := (world.tally texts).sent + (isSent event).toNat
      unsent := (world.tally texts).unsent + (isUnsent event).toNat
      summaries := (world.tally texts).summaries + (isSummary event).toNat } := by
  simp only [World.enter, World.tally, reportedErrors, sent, unsent, countEvents_concat]

theorem tally_note (texts : List String) (world : World) (event : Event) :
    (world.note event).tally texts = { world.tally texts with
      reportedErrors := (world.tally texts).reportedErrors + (isIcmpError texts event).toNat
      requested := (world.tally texts).requested + (isRequest event).toNat
      sent := (world.tally texts).sent + (isSent event).toNat
      unsent := (world.tally texts).unsent + (isUnsent event).toNat
      summaries := (world.tally texts).summaries + (isSummary event).toNat } :=
  tally_enter texts world event world.status

/-- The event is none of those that are counted. -/
def Event.Aside (texts : List String) (event : Event) : Prop :=
  isIcmpError texts event = false ∧ isRequest event = false ∧ isSent event = false ∧ isUnsent event = false ∧
    isSummary event = false

theorem tally_enter_aside {texts : List String} {event : Event} (aside : event.Aside texts) (world : World)
    {status : PingStats} (errors : status.errors = world.status.errors)
    (transmitted : status.transmitted = world.status.transmitted) :
    (world.enter event status).tally texts = world.tally texts := by
  obtain ⟨noError, noRequest, notSent, notUnsent, noSummary⟩ := aside
  rw [tally_enter, noError, noRequest, notSent, notUnsent, noSummary, errors, transmitted]
  rfl

/-! ## Processes that count nothing -/

abbrev Aside (texts : List String) {Result : Type} (process : Proc World Result) : Prop :=
  Leaves (World.tally texts) process

section

variable {texts : List String}

theorem aside_note {event : Event} (aside : event.Aside texts) : Aside texts (modify (·.note event)) :=
  leaves_modify fun world => tally_enter_aside aside world rfl rfl

theorem tally_print (outputs : List Output) (world : World) :
    (outputs.foldl (fun world output => world.note (.printed output)) world).tally texts = world.tally texts := by
  induction outputs generalizing world with
  | nil => rfl
  | cons output outputs inductionHypothesis =>
    rw [List.foldl_cons, inductionHypothesis]
    exact tally_enter_aside ⟨rfl, rfl, rfl, rfl, rfl⟩ world rfl rfl

theorem aside_print (outputs : List Output) : Aside texts (print outputs) := leaves_modify (tally_print outputs)

theorem aside_loopBoundary : Aside texts loopBoundary := aside_note ⟨rfl, rfl, rfl, rfl, rfl⟩

theorem aside_now : Aside texts now := leaves_modifyGet fun _ => rfl

theorem aside_isRunning : Aside texts isRunning := leaves_modifyGet fun _ => rfl

theorem aside_setStartTime : Aside texts setStartTime :=
  leaves_bind aside_now fun _ => leaves_modify fun _ => rfl

theorem aside_connect (pgConfig : PingConfig) : Aside texts (connect pgConfig) := by
  rw [connect]
  split
  · exact leaves_modifyGet fun _ => rfl
  · exact leaves_pure

theorem aside_timeoutOrCountExit (pgConfig : PingConfig) : Aside texts (timeoutOrCountExit pgConfig) := by
  have stopped : Aside texts (do stopRunning; pure true) :=
    leaves_bind (leaves_modify fun _ => rfl) fun _ => leaves_pure
  refine leaves_get_bind fun seen => ?_
  split
  · exact stopped
  · split
    · refine leaves_bind aside_now fun now => ?_
      split
      · exact stopped
      · exact leaves_pure
    · exact leaves_pure

/-- A reply is counted as received, and that is all. -/
theorem aside_countReply (seq : UInt16) (before after : Duration → List Output) :
    Aside texts (countReply seq before after) := by
  have taken : Aside texts (getSentTime seq) :=
    leaves_modifyGet fun world => tally_enter_aside ⟨rfl, rfl, rfl, rfl, rfl⟩ world rfl rfl
  have counted : Aside texts update :=
    leaves_modify fun world => tally_enter_aside ⟨rfl, rfl, rfl, rfl, rfl⟩ world rfl rfl
  refine leaves_bind taken fun sentTime => ?_
  cases sentTime with
  | none => exact leaves_pure
  | some sentTime =>
    exact leaves_bind aside_now fun _ => leaves_bind (aside_print _) fun _ =>
      leaves_bind counted fun _ => aside_print _

end

/-! ## What the counters have to do with the counts -/

/-- `heard` errors have been counted, and every request once. The answers to come are plain: an error of the
socket does not read like an ICMP error, and no read timeout fails to be set. -/
structure Tally.Follows (texts : List String) (heard : Nat) (tally : Tally) : Prop where
  errors : tally.errors = UInt32.ofNat heard
  transmitted : tally.transmitted = UInt32.ofNat tally.requested
  requested : tally.requested = tally.sent + tally.unsent
  unsummed : tally.summaries = 0
  plain : ∀ e, .error e ∈ tally.recvs → mentions texts e.message = false
  resets : ∀ call, tally.readTimeoutFailures.get call = none

/-- Every error is counted, but for the first `skipped`; `owed` of them are still to be counted. -/
def Tally.Hears (texts : List String) (skipped owed : Nat) (tally : Tally) : Prop :=
  ∃ heard, tally.reportedErrors = skipped + heard + owed ∧ tally.Follows texts heard

/-- No error is counted beyond the first `heard`. -/
def Tally.Deaf (texts : List String) (heard : Nat) (tally : Tally) : Prop :=
  heard ≤ tally.reportedErrors ∧ tally.Follows texts heard

/-- A fact about the tally that the requests do not matter to, and that survives the setting of a timeout. -/
structure Lasting (texts : List String) (fact : Tally → Prop) : Prop where
  resets : ∀ tally, fact tally → ∀ call, tally.readTimeoutFailures.get call = none
  requests : ∀ tally, fact tally → ∀ sent unsent, sent + unsent = tally.sent + tally.unsent + 1 →
    fact { tally with transmitted := tally.transmitted + 1, requested := tally.requested + 1, sent, unsent }
  timeouts : ∀ tally, fact tally → fact { tally with readTimeoutFailures := tally.readTimeoutFailures.tail }

section

variable {texts : List String}

theorem Tally.Follows.requests {heard : Nat} {tally : Tally} (follows : tally.Follows texts heard)
    {sent unsent : Nat} (one : sent + unsent = tally.sent + tally.unsent + 1) :
    { tally with transmitted := tally.transmitted + 1, requested := tally.requested + 1, sent, unsent }.Follows
      texts heard where
  errors := follows.errors
  transmitted := by
    rw [follows.transmitted, UInt32.ofNat_add]
    rfl
  requested := by rw [follows.requested, one]
  unsummed := follows.unsummed
  plain := follows.plain
  resets := follows.resets

theorem Tally.Follows.timeouts {heard : Nat} {tally : Tally} (follows : tally.Follows texts heard) :
    { tally with readTimeoutFailures := tally.readTimeoutFailures.tail }.Follows texts heard :=
  { follows with resets := fun call => follows.resets (call + 1) }

theorem lasting_hears (skipped owed : Nat) : Lasting texts (Tally.Hears texts skipped owed) where
  resets _ | ⟨_, _, follows⟩ => follows.resets
  requests _ | ⟨heard, counted, follows⟩ => fun _ _ one => ⟨heard, counted, follows.requests one⟩
  timeouts _ | ⟨heard, counted, follows⟩ => ⟨heard, counted, follows.timeouts⟩

theorem lasting_deaf (heard : Nat) : Lasting texts (Tally.Deaf texts heard) where
  resets _ | ⟨_, follows⟩ => follows.resets
  requests _ | ⟨counted, follows⟩ => fun _ _ one => ⟨counted, follows.requests one⟩
  timeouts _ | ⟨counted, follows⟩ => ⟨counted, follows.timeouts⟩

end

/-- The process keeps the fact. -/
abbrev Tallies (texts : List String) (fact : Tally → Prop) {Result : Type} (process : Proc World Result) : Prop :=
  Keeps (fun world => fact (world.tally texts)) process

section

variable {texts : List String} {fact : Tally → Prop}

theorem triple_setReadTimeout (lasting : Lasting texts fact) {stopped : World → Prop} :
    Triple (fun world => fact (world.tally texts)) setReadTimeout
      (fun failure world => failure = none ∧ fact (world.tally texts)) stopped :=
  triple_modifyGet fun _ holds => ⟨lasting.resets _ holds 0, lasting.timeouts _ holds⟩

theorem tallies_sendRequest (lasting : Lasting texts fact) (platform : Platform) (pgConfig : PingConfig)
    (build : IcmpEchoRequest → Option Bytes) (seq : UInt16) :
    Tallies texts fact (sendRequest platform pgConfig build seq) := by
  have clock : Tallies texts fact systemTime := keeps_modifyGet fun _ holds => holds
  refine keeps_bind clock fun systemTime => ?_
  cases build (.new platform systemTime seq pgConfig.identifier pgConfig.packetSize) with
  | none => exact keeps_stop
  | some packet =>
    intro world holds
    have one : ∀ failure : Option String, (isSent (.sendTo packet failure)).toNat +
        (isUnsent (.sendTo packet failure)).toNat = 1 := fun failure => by cases failure <;> rfl
    have tally : ∀ now failure, fact (((world.enter (.recordSentTime seq now)
        (world.status.recordSentTime seq now)).note (.sendTo packet failure)).tally texts) := by
      intro now failure
      rw [World.note, tally_enter, tally_enter]
      refine lasting.requests _ holds _ _ ?_
      have once := one failure
      simp only [isSent, isUnsent, Bool.toNat_false] at once ⊢
      omega
    exact tally _ _

end

/-! ## Receiving -/

theorem mentions_of_mem {texts : List String} {text : String} (member : text ∈ texts) : mentions texts text = true :=
  List.any_eq_true.mpr ⟨text, member, decide_eq_true (List.infix_refl _)⟩

/-- The receiver hands on what it was given, and of its own errors exactly the texts read like an ICMP error. -/
structure Plain {Reply : Type} (texts : List String) (receiver : List RecvOutcome → Option (Received Reply)) : Prop where
  rest : ∀ answers received, receiver answers = some received → ∀ answer ∈ received.rest, answer ∈ answers
  reads : ∀ answers received message, receiver answers = some received → received.result = .error message →
    (∀ e, .error e ∈ answers → mentions texts e.message = false) → mentions texts message = decide (message ∈ texts)

/-- What the log owes the counter behind a receive call. -/
def owes {Reply : Type} (texts : List String) : Except String Reply → Nat
  | .ok _ => 0
  | .error message => (mentions texts message).toNat

section

variable {texts : List String} {Reply Result : Type} {skipped heard : Nat}

theorem aside_message {message : String} (plain : mentions texts message = false) :
    mentions texts message = decide (message ∈ texts) := by
  rw [plain, eq_comm, decide_eq_false_iff_not]
  intro member
  rw [mentions_of_mem member] at plain
  cases plain

/-- A receiver that goes answer by answer is plain if it is at every single answer. -/
theorem ReadsEach.plain {receiver : List RecvOutcome → Option (Received Reply)} (reads : ReadsEach receiver)
    (each : ∀ answer received message, receiver [answer] = some received → received.result = .error message →
      (∀ e, answer = .error e → mentions texts e.message = false) →
        mentions texts message = decide (message ∈ texts)) : Plain texts receiver where
  rest answers received returned := by
    -- by induction on the answers: one that is passed over leaves the question to the others
    induction answers with
    | nil => rw [reads.nil] at returned; cases returned
    | cons answer rest inductionHypothesis =>
      rw [reads.cons] at returned
      cases stops : receiver [answer] with
      | none =>
        rw [stops] at returned
        exact fun other member => List.mem_cons_of_mem _ (inductionHypothesis returned other member)
      | some single =>
        rw [stops] at returned
        cases returned
        exact fun other member => List.mem_cons_of_mem _ member
  reads answers received message returned failed plain := by
    induction answers with
    | nil => rw [reads.nil] at returned; cases returned
    | cons answer rest inductionHypothesis =>
      rw [reads.cons] at returned
      cases stops : receiver [answer] with
      | none =>
        rw [stops] at returned
        exact inductionHypothesis returned fun e member => plain e (List.mem_cons_of_mem _ member)
      | some single =>
        rw [stops] at returned
        cases returned
        exact each answer single message stops failed fun e same => plain e (same ▸ List.mem_cons_self)

theorem triple_receive {receiver : List RecvOutcome → Option (Received Reply)} (plain : Plain texts receiver)
    (sequence : Reply → UInt16) {before : Tally → Prop} {after : Except String Reply → Tally → Prop}
    (follows : ∀ tally, before tally → ∃ heard, tally.Follows texts heard)
    (step : ∀ tally result rest, before tally → (∀ answer ∈ rest, answer ∈ tally.recvs) →
      after result { tally with reportedErrors := tally.reportedErrors + owes texts result, recvs := rest }) :
    Triple (fun world => before (world.tally texts)) (receive receiver sequence)
      (fun result world => after result (world.tally texts)) fun world => before (world.tally texts) := by
  intro world holds
  rw [receive_eq]
  cases answered : receiver world.recvs with
  | none => exact holds
  | some received =>
    have reported : (isIcmpError texts (.received (received.result.map sequence))).toNat =
        owes texts received.result := by
      cases isResult : received.result with
      | ok reply => rfl
      | error message =>
        obtain ⟨_, follows⟩ := follows _ holds
        rw [owes, plain.reads _ _ message answered isResult follows.plain]
        rfl
    -- the lines that are printed count for nothing, and the event of the reply for what it owes
    let printed := (received.printed.map .line).foldl (fun world output => world.note (.printed output)) world
    have unchanged : printed.tally texts = world.tally texts := tally_print _ world
    have tally : (({ printed with recvs := received.rest } : World).note
        (.received (received.result.map sequence))).tally texts = { world.tally texts with
          reportedErrors := (world.tally texts).reportedErrors + owes texts received.result
          recvs := received.rest } := by
      have left : ({ printed with recvs := received.rest } : World).tally texts =
        { printed.tally texts with recvs := received.rest } := rfl
      rw [tally_note, reported, left, unchanged]
      rfl
    have entered := step _ received.result received.rest holds (plain.rest _ _ answered)
    rw [← tally] at entered
    exact entered

/-- A receive call of a loop that counts: if it ended with an ICMP error, the counter is one behind. -/
theorem hears_receive {receiver : List RecvOutcome → Option (Received Reply)} (plain : Plain texts receiver)
    (sequence : Reply → UInt16) :
    Triple (fun world => (world.tally texts).Hears texts skipped 0) (receive receiver sequence)
      (fun result world => (world.tally texts).Hears texts skipped (owes texts result))
      fun world => (world.tally texts).Hears texts skipped 0 := by
  refine triple_receive plain sequence (fun _ ⟨heard, _, follows⟩ => ⟨heard, follows⟩)
    fun tally result rest ⟨heard, counted, follows⟩ fewer =>
      ⟨heard, ?_, { follows with plain := fun e member => follows.plain e (fewer _ member) }⟩
  rw [counted]
  rfl

/-- A receive call of a loop that does not count. -/
theorem deaf_receive {receiver : List RecvOutcome → Option (Received Reply)} (plain : Plain texts receiver)
    (sequence : Reply → UInt16) : Tallies texts (Tally.Deaf texts heard) (receive receiver sequence) :=
  triple_receive plain sequence (fun _ deaf => ⟨heard, deaf.2⟩) fun _ _ _ ⟨counted, follows⟩ fewer =>
    ⟨Nat.le_add_right_of_le counted, { follows with plain := fun e member => follows.plain e (fewer _ member) }⟩

theorem hears_recordError : Triple (fun world => (world.tally texts).Hears texts skipped 1) recordError
    (fun _ world => (world.tally texts).Hears texts skipped 0)
    fun world => (world.tally texts).Hears texts skipped 0 := by
  refine triple_modify fun world ⟨heard, counted, follows⟩ => ?_
  rw [tally_enter]
  refine ⟨heard + 1, counted, { follows with errors := ?_ }⟩
  have errors : world.status.errors = UInt32.ofNat heard := follows.errors
  rw [PingStats.recordError, errors, UInt32.ofNat_add]
  rfl

/-- An answer in a loop that counts. -/
theorem hears_answer {receiver : Proc World (Except String Reply)}
    {handler : Except String Reply → Proc World Unit} {otherwise : String → List Output}
    (receives : Triple (fun world => (world.tally texts).Hears texts skipped 0) receiver
      (fun result world => (world.tally texts).Hears texts skipped (owes texts result))
      fun world => (world.tally texts).Hears texts skipped 0)
    (replies : ∀ reply, Aside texts (handler (.ok reply)))
    (errors : ∀ message, handler (.error message) = countError (mentions texts message) (otherwise message)) :
    Tallies texts (Tally.Hears texts skipped 0) (receiver >>= handler) := by
  refine triple_bind receives fun result => ?_
  cases result with
  | ok reply => exact (replies reply).keeps _
  | error message =>
    rw [errors, owes]
    cases mentions texts message with
    | true => exact hears_recordError
    | false => exact (aside_print _).keeps _

/-- An answer that no error is counted for. -/
theorem tallies_answer {fact : Tally → Prop} {receiver : Proc World (Except String Reply)}
    {handler : Except String Reply → Proc World Result} (receives : Tallies texts fact receiver)
    (replies : ∀ reply, Aside texts (handler (.ok reply)))
    (errors : ∀ message, Aside texts (handler (.error message))) : Tallies texts fact (receiver >>= handler) := by
  refine keeps_bind receives fun result => ?_
  cases result with
  | ok reply => exact (replies reply).keeps fact
  | error message => exact (errors message).keeps fact

end

/-! ## The loops -/

section

variable {texts : List String} {fact : Tally → Prop} {pgConfig : PingConfig}
  {send : UInt16 → Proc World (Option String)} (sends : ∀ seq, Tallies texts fact (send seq))

theorem tallies_replyLoop {answer : Proc World Unit} {exits : Proc World Bool} (answers : Tallies texts fact answer)
    (leaves : Aside texts exits) (count : Nat) :
    Tallies texts fact (do let _ ← forRange (fun _ _ => replyTurn answer exits) 0 count (); loopBoundary) := by
  refine keeps_bind (keeps_forRange (fun _ _ _ _ => ?_) ()) fun _ => aside_loopBoundary.keeps fact
  refine keeps_bind (aside_loopBoundary.keeps fact) fun _ => keeps_bind (aside_isRunning.keeps fact) fun running => ?_
  split
  · refine keeps_bind answers fun _ => keeps_bind (leaves.keeps fact) fun ends => ?_
    split <;> exact keeps_pure
  · exact keeps_pure

include sends

theorem tallies_sendPreload (count : Nat) (seq : UInt16) :
    Tallies texts fact (do let _ ← forRange (fun _ => preloadTurn send) 0 count seq; loopBoundary) := by
  refine keeps_bind (keeps_forRange (fun _ startSeq _ _ => ?_) seq) fun _ => aside_loopBoundary.keeps fact
  exact keeps_bind (aside_loopBoundary.keeps fact) fun _ => keeps_bind (sends startSeq) fun _ => keeps_pure

theorem tallies_echoLoop (endsOnFailure : Bool) {answer : UInt16 → Proc World Unit}
    (answers : ∀ seq, Tallies texts fact (answer seq)) (fuel : Nat) (seq : UInt16) :
    Tallies texts fact (do forever (echoTurn pgConfig send endsOnFailure answer) fuel seq; loopBoundary) := by
  refine keeps_bind (keeps_forever (fun seq => ?_) fuel seq) fun _ => aside_loopBoundary.keeps fact
  refine keeps_bind (aside_loopBoundary.keeps fact) fun _ => keeps_bind (aside_isRunning.keeps fact) fun running => ?_
  split
  · refine keeps_bind (sends seq) fun failure => ?_
    split
    · exact keeps_pure
    · refine keeps_bind (answers seq) fun _ =>
        keeps_bind ((aside_timeoutOrCountExit pgConfig).keeps fact) fun ends => ?_
      split <;> exact keeps_pure
  · exact keeps_pure

end

theorem tallies_preload {texts : List String} {fact : Tally → Prop} {pgConfig : PingConfig}
    {sendAll receiveAll : Proc World Unit} (sendsAll : Tallies texts fact sendAll)
    (receivesAll : Tallies texts fact receiveAll) :
    Tallies texts fact (if 0 < pgConfig.preload then do
        (do sendAll; receiveAll)
        timeoutOrCountExit pgConfig
      else pure false) := by
  split
  · exact keeps_bind (keeps_bind sendsAll fun _ => receivesAll) fun _ =>
      (aside_timeoutOrCountExit pgConfig).keeps fact
  · exact keeps_pure

/-! ## The IPv4 run -/

namespace PingImpl

section

variable {crate : Crate} {platform : Platform} {pgConfig : PingConfig} {skipped heard : Nat}

theorem plain_receiveIcmpReply {identifier : UInt16} : Plain icmpErrorTexts (receiveIcmpReply crate identifier) := by
  refine readsEach_receiveIcmpReply.plain fun answer received message returned failed plain => ?_
  cases answer with
  | error e =>
    cases returned
    cases failed
    exact aside_message (plain e rfl)
  | ok datagram =>
    simp only [receiveIcmpReply] at returned
    split_ifs at returned <;> (cases returned; cases failed <;> decide)

theorem hears_receiveReply :
    Triple (fun world => (world.tally icmpErrorTexts).Hears icmpErrorTexts skipped 0) (receiveReply crate pgConfig)
      (fun result world => (world.tally icmpErrorTexts).Hears icmpErrorTexts skipped (owes icmpErrorTexts result))
      fun world => (world.tally icmpErrorTexts).Hears icmpErrorTexts skipped 0 :=
  hears_receive plain_receiveIcmpReply _

theorem hears_receiveIcmpReplyWithTimeout :
    Triple (fun world => (world.tally icmpErrorTexts).Hears icmpErrorTexts skipped 0)
      (receiveIcmpReplyWithTimeout crate pgConfig)
      (fun result world => (world.tally icmpErrorTexts).Hears icmpErrorTexts skipped (owes icmpErrorTexts result))
      fun world => (world.tally icmpErrorTexts).Hears icmpErrorTexts skipped 0 := by
  refine triple_bind (triple_setReadTimeout (lasting_hears skipped 0)) fun failure => ?_
  cases failure with
  | some failure => exact fun _ ⟨set, _⟩ => nomatch set
  | none =>
    refine triple_bind (triple_conseq hears_receiveReply (fun _ here => here.2) fun _ _ here => here) fun result => ?_
    refine triple_bind (triple_setReadTimeout (lasting_hears skipped _)) fun failure => ?_
    cases failure with
    | some failure => exact fun _ ⟨reset, _⟩ => nomatch reset
    | none => exact triple_pure fun _ here => here.2

theorem deaf_receiveIcmpReplyWithTimeout :
    Tallies icmpErrorTexts (Tally.Deaf icmpErrorTexts heard) (receiveIcmpReplyWithTimeout crate pgConfig) := by
  have timeout : Tallies icmpErrorTexts (Tally.Deaf icmpErrorTexts heard) setReadTimeout :=
    triple_conseq (triple_setReadTimeout (lasting_deaf heard)) (fun _ here => here) fun _ _ here => here.2
  refine keeps_bind timeout fun failure => ?_
  cases failure with
  | some failure => exact keeps_pure
  | none =>
    refine keeps_bind (deaf_receive plain_receiveIcmpReply _) fun result => keeps_bind timeout fun failure => ?_
    cases failure <;> exact keeps_pure

theorem hears_sendEcho (seq : UInt16) :
    Tallies icmpErrorTexts (Tally.Hears icmpErrorTexts skipped 0) (sendEcho crate platform pgConfig seq) :=
  tallies_sendRequest (lasting_hears skipped 0) _ _ _ seq

theorem hears_answerMain (seq : UInt16) :
    Tallies icmpErrorTexts (Tally.Hears icmpErrorTexts skipped 0) (answerMain crate pgConfig seq) := by
  rw [answerMain]
  split
  · rw [answerWithTimestamp, show receiveIcmpReplyWithTimestamp crate pgConfig.identifier =
      receiveIcmpReply crate pgConfig.identifier from funext (receiveIcmpReplyWithTimestamp_eq crate _)]
    exact hears_answer hears_receiveReply (fun _ => aside_countReply _ _ _) fun _ => rfl
  · exact hears_answer hears_receiveIcmpReplyWithTimeout (fun _ => aside_countReply _ _ _) fun _ => rfl

theorem deaf_finalListen (fuel : Nat) :
    Tallies icmpErrorTexts (Tally.Deaf icmpErrorTexts heard) (finalListen crate pgConfig fuel) := by
  refine keeps_bind (aside_now.keeps _) fun start => keeps_bind (keeps_forever (fun _ => ?_) fuel ()) fun _ =>
    aside_loopBoundary.keeps _
  refine keeps_bind (aside_loopBoundary.keeps _) fun _ => keeps_bind (aside_now.keeps _) fun now => ?_
  split
  · exact tallies_answer deaf_receiveIcmpReplyWithTimeout
      (fun _ => leaves_bind (aside_countReply _ _ _) fun _ => leaves_pure) fun _ => leaves_pure
  · exact keeps_pure

end

section

variable (crate : Crate) (platform : Platform) (pgConfig : PingConfig) (fuel : Nat)

/-- The run up to the final listening loop, and whether it comes to that. -/
def beforeListening : Proc World (Except String Bool) := do
  setStartTime
  print (patternIf pgConfig ++ [.title])
  match ← connect pgConfig with
  | some failure => pure (.error failure)
  | none =>
    if pgConfig.flood then
      floodPing crate platform pgConfig fuel
      pure (.ok false)
    else if ← preload crate platform pgConfig then pure (.ok false)
    else
      mainLoop crate platform pgConfig fuel (pgConfig.preload + 1)
      pure (.ok true)

theorem ping4Run_eq : ping4Run crate platform pgConfig fuel = (do
    match ← beforeListening crate platform pgConfig fuel with
    | .error failure => pure (.error failure)
    | .ok listens =>
      if listens then finalListen crate pgConfig fuel
      printSummary
      pure (.ok ())) := by
  simp only [ping4Run, beforeListening, bind_assoc]
  refine congrArg _ (funext fun _ => congrArg _ (funext fun _ => congrArg _ (funext fun failure => ?_)))
  cases failure with
  | some failure => rfl
  | none =>
    simp only
    split
    · simp
    · simp only [bind_assoc]
      refine congrArg _ (funext fun ends => ?_)
      cases ends <;> simp

variable {crate platform pgConfig fuel}

/-- All loops but the last count the errors. -/
theorem hears_beforeListening : Tallies icmpErrorTexts (Tally.Hears icmpErrorTexts 0 0)
    (beforeListening crate platform pgConfig fuel) := by
  refine keeps_bind (aside_setStartTime.keeps _) fun _ => keeps_bind ((aside_print _).keeps _) fun _ =>
    keeps_bind ((aside_connect pgConfig).keeps _) fun failure => ?_
  cases failure with
  | some failure => exact keeps_pure
  | none =>
    simp only
    split
    · refine keeps_bind (tallies_echoLoop hears_sendEcho false (fun _ => ?_) fuel 1) fun _ => keeps_pure
      exact keeps_bind ((aside_print _).keeps _) fun _ => hears_answer hears_receiveIcmpReplyWithTimeout
        (fun _ => aside_countReply _ _ _) fun _ => rfl
    · have answers : Tallies icmpErrorTexts (Tally.Hears icmpErrorTexts 0 0) (answerPreload crate pgConfig) :=
        hears_answer hears_receiveReply (fun _ => aside_countReply _ _ _) fun _ => rfl
      refine keeps_bind (tallies_preload (tallies_sendPreload hears_sendEcho _ 1)
        (tallies_replyLoop answers (aside_timeoutOrCountExit pgConfig) _)) fun ends => ?_
      cases ends with
      | true => exact keeps_pure
      | false => exact keeps_bind (tallies_echoLoop hears_sendEcho true hears_answerMain fuel _) fun _ => keeps_pure

end

end PingImpl

/-! ## The IPv6 run -/

namespace Ping6Common

section

variable {crate : Crate} {platform : Platform} {showIpv6 : Ipv6Addr → String} {pgConfig : PingConfig}
  {skipped heard : Nat}

theorem plain_receiveIcmpv6Reply {identifier : UInt16} :
    Plain icmpErrorTexts (receiveIcmpv6Reply crate showIpv6 identifier) := by
  refine readsEach_receiveIcmpv6Reply.plain fun answer received message returned failed plain => ?_
  cases answer with
  | error e =>
    cases kind : e.kind <;> simp only [receiveIcmpv6Reply, kind] at returned <;> cases returned <;> cases failed <;>
      exact aside_message (plain e rfl)
  | ok datagram =>
    simp only [receiveIcmpv6Reply] at returned
    split_ifs at returned <;> (try split at returned) <;> cases returned <;> cases failed <;> decide

theorem hears_sendEcho (seq : UInt16) :
    Tallies icmpErrorTexts (Tally.Hears icmpErrorTexts skipped 0) (sendEcho crate platform pgConfig seq) :=
  tallies_sendRequest (lasting_hears skipped 0) _ _ _ seq

theorem deaf_sendEcho (seq : UInt16) :
    Tallies icmpErrorTexts (Tally.Deaf icmpErrorTexts heard) (sendEcho crate platform pgConfig seq) :=
  tallies_sendRequest (lasting_deaf heard) _ _ _ seq

theorem deaf_receiveReply :
    Tallies icmpErrorTexts (Tally.Deaf icmpErrorTexts heard) (receiveReply crate showIpv6 pgConfig) :=
  deaf_receive plain_receiveIcmpv6Reply _

end

section

variable (crate : Crate) (platform : Platform) (showIpv6 : Ipv6Addr → String) (pgConfig : PingConfig) (fuel : Nat)

/-- The run up to the main loop, and whether it comes to that. -/
def beforeMain : Proc World (Except String Bool) := do
  match ← connect pgConfig with
  | some failure => pure (.error failure)
  | none =>
    setStartTime
    print (patternIf pgConfig ++ [.title])
    if pgConfig.flood then
      floodPingV6 crate platform showIpv6 pgConfig fuel
      pure (.ok false)
    else if ← preload crate platform showIpv6 pgConfig then pure (.ok false)
    else pure (.ok true)

theorem ping6Run_eq : ping6Run crate platform showIpv6 pgConfig fuel = (do
    match ← beforeMain crate platform showIpv6 pgConfig fuel with
    | .error failure => pure (.error failure)
    | .ok continues =>
      if continues then mainLoop crate platform showIpv6 pgConfig fuel (pgConfig.preload + 1)
      printSummary
      pure (.ok ())) := by
  simp only [ping6Run, beforeMain, bind_assoc]
  refine congrArg _ (funext fun failure => ?_)
  cases failure with
  | some failure => rfl
  | none =>
    simp only [bind_assoc]
    refine congrArg _ (funext fun _ => congrArg _ (funext fun _ => ?_))
    split
    · simp
    · simp only [bind_assoc]
      refine congrArg _ (funext fun ends => ?_)
      cases ends <;> simp

variable {crate platform showIpv6 pgConfig fuel}

/-- The flood and the preload count no errors. -/
theorem deaf_beforeMain : Tallies icmpErrorTexts (Tally.Deaf icmpErrorTexts 0)
    (beforeMain crate platform showIpv6 pgConfig fuel) := by
  refine keeps_bind ((aside_connect pgConfig).keeps _) fun failure => ?_
  cases failure with
  | some failure => exact keeps_pure
  | none =>
    refine keeps_bind (aside_setStartTime.keeps _) fun _ => keeps_bind ((aside_print _).keeps _) fun _ => ?_
    split
    · refine keeps_bind (tallies_echoLoop deaf_sendEcho false (fun _ => ?_) fuel 1) fun _ => keeps_pure
      exact keeps_bind ((aside_print _).keeps _) fun _ =>
        tallies_answer deaf_receiveReply (fun _ => aside_countReply _ _ _) fun _ => leaves_pure
    · have answers : Tallies icmpErrorTexts (Tally.Deaf icmpErrorTexts 0) (answerPreload crate showIpv6 pgConfig) :=
        tallies_answer deaf_receiveReply (fun _ => aside_countReply _ _ _) fun _ => leaves_pure
      refine keeps_bind (tallies_preload (tallies_sendPreload deaf_sendEcho _ 1)
        (tallies_replyLoop answers (leaves_get_bind fun _ => leaves_pure) _)) fun ends => ?_
      cases ends <;> exact keeps_pure

theorem hears_mainLoop {skipped : Nat} (seq : UInt16) :
    Tallies icmpErrorTexts (Tally.Hears icmpErrorTexts skipped 0)
      (mainLoop crate platform showIpv6 pgConfig fuel seq) :=
  tallies_echoLoop hears_sendEcho true (fun _ => hears_answer (hears_receive plain_receiveIcmpv6Reply _)
    (fun _ => aside_countReply _ _ _) fun _ => rfl) fuel seq

end

end Ping6Common

/-! ## At the summary -/

theorem printSummary_log (world : World) :
    (printSummary world).state.log = world.log ++ [⟨.summary world.status.summary, world.status⟩] := by
  show ((if world.status.summary.isSome then pure () else stop : Proc World Unit)
    (world.note (.summary world.status.summary))).state.log = _
  split <;> rfl

/-- The two counters say what has been sent and what errors have come. -/
def CountsRight (texts : List String) (log : List Record) (status : PingStats) : Prop :=
  status.errors.toNat = reportedErrors texts log ∧ status.transmitted.toNat = sent log

/-- Every send has succeeded, as far as a counter of 32 bits can tell. -/
def SentAll (log : List Record) : Prop := unsent log % 2 ^ 32 = 0 ∧ sent log < 2 ^ 32

/-- The summary stands at the end of the log. -/
theorem eq_of_summary {log before after : List Record} {first second : PingStats}
    {firstCounts counts : Option (UInt32 × UInt32 × UInt32 × UInt32)} (only : countEvents isSummary log = 0)
    (split : log ++ [⟨.summary firstCounts, first⟩] = before ++ ⟨.summary counts, second⟩ :: after) :
    before = log ∧ second = first := by
  rcases List.eq_nil_or_concat after with rfl | ⟨initial, last, rfl⟩
  · obtain ⟨rfl, same⟩ := List.append_inj' split rfl
    cases same
    exact ⟨rfl, rfl⟩
  · rw [List.concat_eq_append, ← List.cons_append, ← List.append_assoc] at split
    obtain ⟨rfl, _⟩ := List.append_inj' split rfl
    simp [countEvents, List.countP_append, isSummary] at only

theorem ne_summary {log before after : List Record} {status : PingStats}
    {counts : Option (UInt32 × UInt32 × UInt32 × UInt32)} (none : countEvents isSummary log = 0)
    (split : log = before ++ ⟨.summary counts, status⟩ :: after) : False := by
  subst split
  simp [countEvents, List.countP_append, isSummary] at none

/-- What the counters say at the summary, if `heard` errors have been counted. -/
theorem countsRight_iff {texts : List String} {world : World} {heard : Nat}
    (follows : (world.tally texts).Follows texts heard) (fewer : heard ≤ reportedErrors texts world.log) :
    CountsRight texts world.log world.status ↔
      (reportedErrors texts world.log = heard ∧ reportedErrors texts world.log < 2 ^ 32) ∧ SentAll world.log := by
  have errors : world.status.errors = UInt32.ofNat heard := follows.errors
  have transmitted : world.status.transmitted = UInt32.ofNat (sent world.log + unsent world.log) := by
    have requested : countEvents isRequest world.log = sent world.log + unsent world.log := follows.requested
    rw [← requested]
    exact follows.transmitted
  rw [CountsRight, SentAll, errors, transmitted, UInt32.toNat_ofNat', UInt32.toNat_ofNat']
  omega

/-- An error read from the socket does not read like an ICMP error message, and the timeouts can be set. -/
structure Environment.Plain (environment : Environment) (texts : List String) : Prop where
  errors : ∀ e, .error e ∈ environment.recvs → mentions texts e.message = false
  resets : ∀ call, environment.readTimeoutFailures.get call = none

theorem follows_start {environment : Environment} {texts : List String} (plain : environment.Plain texts) :
    ((World.start environment).tally texts).Follows texts 0 where
  errors := rfl
  transmitted := rfl
  requested := rfl
  unsummed := rfl
  plain := plain.errors
  resets := plain.resets

/-- The end of both runs. -/
def finish (body : Proc World Unit) : Proc World (Except String Unit) := do
  body
  printSummary
  pure (.ok ())

theorem finish_log (body : Proc World Unit) (start : World) :
    (finish body start).state.log = match body start with
      | .done _ world => world.log ++ [⟨.summary world.status.summary, world.status⟩]
      | .stopped world => world.log := by
  simp only [finish, bind]
  cases body start with
  | stopped world => rfl
  | done value world =>
    have summary := printSummary_log world
    cases finished : printSummary world <;> simp only [finished] at summary ⊢ <;> exact summary

section

variable {texts : List String} {body : Proc World Unit} {start : World} {fact : Tally → Prop}
  {before after : List Record} {counts : Option (UInt32 × UInt32 × UInt32 × UInt32)} {status : PingStats}

/-- What the body keeps holds where the summary is made. -/
theorem fact_at_summary (kept : Tallies texts fact body) (unsummed : ∀ tally, fact tally → tally.summaries = 0)
    (holds : fact (start.tally texts))
    (split : (finish body start).state.log = before ++ ⟨.summary counts, status⟩ :: after) :
    ∃ world : World, fact (world.tally texts) ∧ before = world.log ∧ status = world.status := by
  have reached := kept start holds
  rw [finish_log] at split
  cases finished : body start with
  | done value world =>
    rw [finished] at reached split
    obtain ⟨rfl, rfl⟩ := eq_of_summary (unsummed _ reached) split
    exact ⟨world, reached, rfl, rfl⟩
  | stopped world =>
    rw [finished] at reached split
    exact (ne_summary (unsummed _ reached) split).elim

end

theorem Tally.Hears.follows {texts : List String} {skipped : Nat} {tally : Tally}
    (hears : tally.Hears texts skipped 0) :
    tally.Follows texts (tally.reportedErrors - skipped) ∧ skipped ≤ tally.reportedErrors := by
  obtain ⟨heard, counted, follows⟩ := hears
  rw [counted, Nat.add_zero, Nat.add_sub_cancel_left]
  exact ⟨follows, Nat.le_add_right _ _⟩

/-- The IPv4 run goes on from where its final loop starts. -/
theorem PingImpl.ping4Run_apply (crate : Crate) (platform : Platform) (pgConfig : PingConfig) (fuel : Nat)
    (start : World) :
    ping4Run crate platform pgConfig fuel start = match beforeListening crate platform pgConfig fuel start with
      | .done (.error failure) world => .done (.error failure) world
      | .done (.ok listens) world => finish (if listens then finalListen crate pgConfig fuel else pure ()) world
      | .stopped world => .stopped world := by
  rw [ping4Run_eq]
  simp only [bind]
  cases beforeListening crate platform pgConfig fuel start with
  | stopped world => rfl
  | done result world =>
    cases result with
    | error failure => rfl
    | ok listens => cases listens <;> rfl

/-- The IPv6 run goes on from where its main loop starts. -/
theorem Ping6Common.ping6Run_apply (crate : Crate) (platform : Platform) (showIpv6 : Ipv6Addr → String)
    (pgConfig : PingConfig) (fuel : Nat) (start : World) :
    ping6Run crate platform showIpv6 pgConfig fuel start =
      match beforeMain crate platform showIpv6 pgConfig fuel start with
      | .done (.error failure) world => .done (.error failure) world
      | .done (.ok continues) world =>
        finish (if continues then mainLoop crate platform showIpv6 pgConfig fuel (pgConfig.preload + 1) else pure ()) world
      | .stopped world => .stopped world := by
  rw [ping6Run_eq]
  simp only [bind]
  cases beforeMain crate platform showIpv6 pgConfig fuel start with
  | stopped world => rfl
  | done result world =>
    cases result with
    | error failure => rfl
    | ok continues => cases continues <;> rfl

/-- The final loop of the IPv4 run is the one that does not count. -/
theorem PingImpl.countsRight_summary {crate : Crate} {platform : Platform} {pgConfig : PingConfig} {fuel : Nat}
    {environment : Environment} (plain : environment.Plain PingImpl.icmpErrorTexts) {before after : List Record}
    {counts : Option (UInt32 × UInt32 × UInt32 × UInt32)} {status : PingStats}
    (split : (PingImpl.ping4Run crate platform pgConfig fuel (World.start environment)).state.log =
      before ++ ⟨.summary counts, status⟩ :: after) :
    CountsRight PingImpl.icmpErrorTexts before status ↔
      (reportedErrors PingImpl.icmpErrorTexts before = reportedErrors PingImpl.icmpErrorTexts
          (PingImpl.beforeListening crate platform pgConfig fuel (World.start environment)).state.log ∧
        reportedErrors PingImpl.icmpErrorTexts before < 2 ^ 32) ∧ SentAll before := by
  have reached := @PingImpl.hears_beforeListening crate platform pgConfig fuel (World.start environment)
    ⟨0, rfl, follows_start plain⟩
  rw [PingImpl.ping4Run_apply] at split
  cases finished : PingImpl.beforeListening crate platform pgConfig fuel (World.start environment) with
  | stopped world =>
    rw [finished] at reached split
    exact (ne_summary reached.follows.1.unsummed split).elim
  | done result world =>
    rw [finished] at reached split
    obtain ⟨follows, -⟩ := Tally.Hears.follows reached
    cases result with
    | error failure => exact (ne_summary follows.unsummed split).elim
    | ok listens =>
      -- from here on no error is counted
      have kept : Tallies PingImpl.icmpErrorTexts (Tally.Deaf PingImpl.icmpErrorTexts
          (reportedErrors PingImpl.icmpErrorTexts world.log))
          (if listens then PingImpl.finalListen crate pgConfig fuel else pure ()) := by
        split
        · exact PingImpl.deaf_finalListen fuel
        · exact keeps_pure
      obtain ⟨last, ⟨fewer, follows⟩, rfl, rfl⟩ :=
        fact_at_summary kept (fun _ deaf => deaf.2.unsummed) ⟨le_rfl, follows⟩ split
      exact countsRight_iff follows fewer

/-- The flood and the preload of the IPv6 run are the ones that do not count. -/
theorem Ping6Common.countsRight_summary {crate : Crate} {platform : Platform} {showIpv6 : Ipv6Addr → String}
    {pgConfig : PingConfig} {fuel : Nat} {environment : Environment}
    (plain : environment.Plain Ping6Common.icmpErrorTexts) {before after : List Record}
    {counts : Option (UInt32 × UInt32 × UInt32 × UInt32)} {status : PingStats}
    (split : (Ping6Common.ping6Run crate platform showIpv6 pgConfig fuel (World.start environment)).state.log =
      before ++ ⟨.summary counts, status⟩ :: after) :
    CountsRight Ping6Common.icmpErrorTexts before status ↔
      (reportedErrors Ping6Common.icmpErrorTexts
          (Ping6Common.beforeMain crate platform showIpv6 pgConfig fuel (World.start environment)).state.log = 0 ∧
        reportedErrors Ping6Common.icmpErrorTexts before < 2 ^ 32) ∧ SentAll before := by
  have reached := @Ping6Common.deaf_beforeMain crate platform showIpv6 pgConfig fuel (World.start environment)
    ⟨Nat.zero_le _, follows_start plain⟩
  rw [Ping6Common.ping6Run_apply] at split
  cases finished : Ping6Common.beforeMain crate platform showIpv6 pgConfig fuel (World.start environment) with
  | stopped world =>
    rw [finished] at reached split
    exact (ne_summary reached.2.unsummed split).elim
  | done result world =>
    rw [finished] at reached split
    obtain ⟨-, follows⟩ := reached
    cases result with
    | error failure => exact (ne_summary follows.unsummed split).elim
    | ok continues =>
      -- the errors so far stay uncounted
      have kept : Tallies Ping6Common.icmpErrorTexts (Tally.Hears Ping6Common.icmpErrorTexts
          (reportedErrors Ping6Common.icmpErrorTexts world.log) 0)
          (if continues then Ping6Common.mainLoop crate platform showIpv6 pgConfig fuel (pgConfig.preload + 1)
            else pure ()) := by
        split
        · exact Ping6Common.hears_mainLoop _
        · exact keeps_pure
      obtain ⟨last, hears, rfl, rfl⟩ :=
        fact_at_summary kept (fun _ hears => hears.follows.1.unsummed) ⟨0, rfl, follows⟩ split
      obtain ⟨follows, fewer⟩ := hears.follows
      rw [countsRight_iff follows (Nat.sub_le _ _)]
      refine and_congr_left fun _ => and_congr_left fun _ => ?_
      have shown : (last.tally Ping6Common.icmpErrorTexts).reportedErrors =
        reportedErrors Ping6Common.icmpErrorTexts last.log := rfl
      rw [shown] at fewer ⊢
      change _ ↔ reportedErrors Ping6Common.icmpErrorTexts world.log = 0
      omega

/-- When the two counters are right at the summary: every send has succeeded, and no error was reported in a loop
that does not count, which is the final loop of the IPv4 run, and the flood and the preload of the IPv6 run. -/
theorem summary_countsRight_iff (crate : Crate) (platform : Platform) (showIpv6 : Ipv6Addr → String)
    (pgConfig : PingConfig) (fuel : Nat) (environment : Environment) :
    let start := World.start environment
    (environment.Plain PingImpl.icmpErrorTexts → ∀ before counts status after,
      (PingImpl.ping4Run crate platform pgConfig fuel start).state.log = before ++ ⟨.summary counts, status⟩ :: after →
      let listening := (PingImpl.beforeListening crate platform pgConfig fuel start).state.log
      (CountsRight PingImpl.icmpErrorTexts before status ↔
        (reportedErrors PingImpl.icmpErrorTexts before = reportedErrors PingImpl.icmpErrorTexts listening ∧
          reportedErrors PingImpl.icmpErrorTexts before < 2 ^ 32) ∧ SentAll before)) ∧
    (environment.Plain Ping6Common.icmpErrorTexts → ∀ before counts status after,
      (Ping6Common.ping6Run crate platform showIpv6 pgConfig fuel start).state.log =
        before ++ ⟨.summary counts, status⟩ :: after →
      let ahead := (Ping6Common.beforeMain crate platform showIpv6 pgConfig fuel start).state.log
      (CountsRight Ping6Common.icmpErrorTexts before status ↔
        (reportedErrors Ping6Common.icmpErrorTexts ahead = 0 ∧
          reportedErrors Ping6Common.icmpErrorTexts before < 2 ^ 32) ∧ SentAll before)) := by
  intro start
  constructor
  · intro plain before counts status after split
    exact PingImpl.countsRight_summary plain split
  · intro plain before counts status after split
    exact Ping6Common.countsRight_summary plain split

/-! ### Runs with one request -/

/-- A world in which every second reading of the clock is more than half a second later. -/
def worldWith (sendFailure : Option String) (recvs : List RecvOutcome) : Environment where
  interrupts _ := false
  instants reading := reading * Duration.fromMillis 300
  systemTimes _ := some (1700000000, 0)
  sendFailures _ := sendFailure
  readTimeoutFailures _ := none
  recvs := recvs

def silence : RecvOutcome := .error ⟨.wouldBlock, "Resource temporarily unavailable"⟩

def oneRequest : PingConfig := { count := some 1, identifier := 7, packetSize := 0, preload_le := noPreload }

/-- The log in front of its last record, the summary, with its counts and the two counters. -/
def atSummary (log : List Record) : List Record × Option (Event × UInt32 × UInt32) :=
  (log.dropLast, log.getLast?.map fun record => (record.event, record.status.errors, record.status.transmitted))

/-- A request that cannot be sent and an error in the final loop; and an error in the preload of an IPv6 run. -/
theorem summary_miscounts :
    let log := (PingImpl.ping4Run .rfcs quietPlatform oneRequest 5
      (World.start (worldWith (some "Network is unreachable") [udpError.outcome]))).state.log
    let logV6 := (Ping6Common.ping6Run .rfcs quietPlatform (fun _ => "")
      { oneRequest with preload := 1, preload_le := by decide } 5
      (World.start (worldWith none [udpErrorV6.outcome]))).state.log
    ((atSummary log).2 = some (.summary (some (1, 0, 0, 1)), 0, 1) ∧
      reportedErrors PingImpl.icmpErrorTexts (atSummary log).1 = 1 ∧ sent (atSummary log).1 = 0) ∧
    ((atSummary logV6).2 = some (.summary (some (1, 0, 0, 1)), 0, 1) ∧
      reportedErrors Ping6Common.icmpErrorTexts (atSummary logV6).1 = 1 ∧ sent (atSummary logV6).1 = 1) := by
  decide +kernel

/-- The error comes in the main loop, which counts it. -/
theorem summary_countsRight_iff_mainLoop :
    let log := (PingImpl.ping4Run .rfcs quietPlatform oneRequest 5
      (World.start (worldWith none [udpError.outcome, silence]))).state.log
    ∃ before counts status, log = before ++ [⟨.summary counts, status⟩] ∧
      CountsRight PingImpl.icmpErrorTexts before status := by
  intro log
  have last : log.getLast?.map (·.event) = some (.summary (some (1, 0, 1, 1))) := by decide +kernel
  obtain ⟨⟨_, status⟩, isLast, rfl⟩ := Option.map_eq_some_iff.mp last
  have split := (List.dropLast_append_getLast? _ isLast).symm
  have plain : (worldWith none [udpError.outcome, silence]).Plain PingImpl.icmpErrorTexts :=
    ⟨fun e member => by
      rcases List.mem_cons.mp member with same | later
      · cases same
      · rw [List.mem_singleton] at later
        cases later
        decide, fun _ => rfl⟩
  refine ⟨_, _, _, split, ((summary_countsRight_iff .rfcs quietPlatform (fun _ => "") oneRequest 5 _).1 plain _ _ _ _
    split).mpr ⟨⟨?_, ?_⟩, ?_, ?_⟩⟩ <;> decide +kernel

end Utiputils.Ping
