import Utiputils.Lib.Turns
import Utiputils.Ping.CountLimit

/-! # How long a run of node information queries can be

Only a query that could be sent counts towards the limit of `-c`, and only such a query raises the 16-bit
`seq`. So calls of `send_to` that fail let the loop go on, and a large count lets `seq` overflow. -/

namespace Utiputils.Ping.Ping6Common

open Utiputils.Lib Utiputils.Pnet Proc

/-! ## What the loop meets -/

/-- `Icmpv6Packet::new` refuses what was received, and the run ends with an error. -/
def refused (crate : Crate) : RecvOutcome → Bool
  | .error _ => false
  | .ok datagram => !crate.icmpv6.new (datagram.bytes.take RECV_BUFFER_V6)

/-- How many of the first calls of `send_to` succeed. -/
def succeeded (failures : Stream' (Option String)) (number : Nat) : Nat :=
  Nat.count (fun index => (failures.get index).isNone) number

/-- The calls of `send_to`, one for each iteration. -/
def attempts (log : List Record) : Nat := sent log + unsent log

/-- Nobody stops the run, the system clock does not make it panic, and every call of `recv_from` returns. -/
structure Undisturbed (environment : Environment) (systemNanos : Stream' (Option Nat)) (count : UInt32) : Prop where
  running : environment.running = true
  uninterrupted : ∀ index, environment.interrupts.get index = false
  clock : ∀ index, (systemNanos.get index).isSome
  received : count.toNat ≤ environment.recvs.length

/-! ## What a turn depends on -/

structure Course where
  running : Bool
  interrupts : Stream' Bool
  sendFailures : Stream' (Option String)
  recvs : List RecvOutcome
  transmitted : UInt32
  attempts : Nat

def course (world : World) : Course where
  running := world.running
  interrupts := world.interrupts
  sendFailures := world.sendFailures
  recvs := world.recvs
  transmitted := world.status.transmitted
  attempts := attempts world.log

/-- The event is a call of `send_to`. -/
def isAttempt (event : Event) : Bool := isSent event || isUnsent event

theorem attempts_concat (log : List Record) (record : Record) :
    attempts (log ++ [record]) = attempts log + (isAttempt record.event).toNat := by
  rw [attempts, attempts, sent, sent, unsent, unsent, countEvents_concat, countEvents_concat]
  have once : (isSent record.event).toNat + (isUnsent record.event).toNat = (isAttempt record.event).toNat := by
    cases record.event with
    | sendTo packet failure => cases failure <;> rfl
    | _ => rfl
  omega

theorem course_enter (world : World) (event : Event) (status : PingStats) :
    course (world.enter event status) = { course world with
      transmitted := status.transmitted
      attempts := attempts world.log + (isAttempt event).toNat } := by
  simp only [course, World.enter, attempts_concat]

/-! ## The parts of a turn -/

theorem course_note {event : Event} (noAttempt : isAttempt event = false) (world : World) :
    course (world.note event) = course world := by
  rw [World.note, course_enter, noAttempt]
  rfl

theorem course_prints (outputs : List Output) (world : World) :
    course (outputs.foldl (fun world output => world.note (.printed output)) world) = course world := by
  induction outputs generalizing world with
  | nil => rfl
  | cons output outputs inductionHypothesis =>
    rw [List.foldl_cons, inductionHypothesis]
    exact course_note rfl world

/-- The process finishes and leaves the course of the loop as it is. -/
abbrev Quiet {Result : Type} (process : Proc World Result) : Prop :=
  ∀ before, Triple (fun world => course world = before) process (fun _ world => course world = before) fun _ => False

theorem quiet_loopBoundary : Quiet loopBoundary :=
  fun _ => triple_modify fun world same => (course_note rfl world).trans same

theorem quiet_now : Quiet now := fun _ => triple_modifyGet fun _ same => same

theorem quiet_update : Quiet update :=
  fun _ => triple_modify fun world same => (course_enter world .update world.status.update).trans same

theorem quiet_print (outputs : List Output) : Quiet (print outputs) :=
  fun _ => triple_modify fun world same => (course_prints outputs world).trans same

section

variable {crate : Crate} {showIpv6 : Ipv6Addr → String} {showMillis : Duration → String} {pgConfig : PingConfig}
  {nodeinfoOpt : String} {target : Ipv6Addr} {count : UInt32} {environment : Environment}
  {systemNanos : Stream' (Option Nat)}

/-- Only a packet that is refused ends the run. -/
theorem answerQuery_course (sendTime : Instant) (answer : RecvOutcome) (before : Course) :
    Triple (fun world => course world = before) (answerQuery crate showIpv6 showMillis sendTime answer)
      (fun result world => course world = before ∧ result.isOk = !refused crate answer) fun _ => False := by
  cases answer with
  | error e => exact triple_pure fun world same => ⟨same, rfl⟩
  | ok datagram =>
    refine triple_bind (quiet_now before) fun now => ?_
    dsimp only
    split
    next invalid => exact triple_pure fun world same => ⟨same, by simpa [refused, Except.isOk, Except.toBool] using invalid⟩
    next valid =>
      have accepted : (Except.isOk (.ok () : Except String Unit)) = !refused crate (.ok datagram) := by
        simpa [refused, Except.isOk, Except.toBool] using valid
      refine triple_bind (quiet_print _ before) fun _ => ?_
      split
      · exact triple_bind (quiet_update before) fun _ => triple_bind (quiet_print _ before) fun _ =>
          triple_pure fun world same => ⟨same, accepted⟩
      · exact triple_pure fun world same => ⟨same, accepted⟩

/-! ## A turn -/

/-- The course at the head of a turn, when there have been so many. -/
def courseAt (environment : Environment) (index : Nat) : Course where
  running := true
  interrupts := environment.interrupts.drop index
  sendFailures := environment.sendFailures.drop index
  recvs := environment.recvs.drop (succeeded environment.sendFailures index)
  transmitted := UInt32.ofNat (succeeded environment.sendFailures index)
  attempts := index

/-- `seq` and the clock there. -/
def carriedAt (environment : Environment) (systemNanos : Stream' (Option Nat)) (index : Nat) :
    UInt16 × Stream' (Option Nat) :=
  (UInt16.ofNat (succeeded environment.sendFailures index + 1), systemNanos.drop index)

theorem succeeded_succ (failures : Stream' (Option String)) (number : Nat) :
    succeeded failures (number + 1) = succeeded failures number + (failures.get number).isNone.toNat := by
  rw [succeeded, Nat.count_succ, succeeded]
  cases (failures.get number).isNone <;> rfl

/-- The loop ends behind so many turns: the count has been reached, or the answer to a query is refused. -/
def EndsAt (crate : Crate) (count : UInt32) (environment : Environment) (index : Nat) (world : World) : Prop :=
  (succeeded environment.sendFailures index = count.toNat ∧ attempts world.log = index) ∨
    (succeeded environment.sendFailures index < count.toNat ∧ environment.sendFailures.get index = none ∧
      attempts world.log = index + 1 ∧
      ∃ answer ∈ environment.recvs[succeeded environment.sendFailures index]?, refused crate answer = true)

/-- Where a turn leads, when there have been so many. -/
def Turned (crate : Crate) (count : UInt32) (environment : Environment) (systemNanos : Stream' (Option Nat))
    (index : Nat) : Turn (UInt16 × Stream' (Option Nat)) (Except String Unit) → World → Prop
  | .next carried, world =>
    succeeded environment.sendFailures index < count.toNat ∧
      carried = carriedAt environment systemNanos (index + 1) ∧ course world = courseAt environment (index + 1) ∧
      (environment.sendFailures.get index = none →
        ∀ answer ∈ environment.recvs[succeeded environment.sendFailures index]?, refused crate answer = false)
  | .exit _, world => EndsAt crate count environment index world

theorem isRunning_courseAt (uninterrupted : ∀ index, environment.interrupts.get index = false) (index : Nat) :
    Triple (fun world => course world = courseAt environment index) isRunning
      (fun running world => running = true ∧ course world =
        { courseAt environment index with interrupts := environment.interrupts.drop (index + 1) }) fun _ => False :=
  triple_modifyGet fun world same => by
    have running : world.running = true := congrArg Course.running same
    have interrupts : world.interrupts = environment.interrupts.drop index := congrArg Course.interrupts same
    have goesOn : (world.running && !world.interrupts.head) = true := by
      rw [running, interrupts, Stream'.head_drop, uninterrupted]
      rfl
    refine ⟨goesOn, ?_⟩
    rw [← same]
    simp only [course, running, interrupts, Stream'.tail_drop', Stream'.head_drop, uninterrupted, Bool.not_false,
      Bool.and_self]

/-- The course behind the call of `send_to` of such a turn. -/
def courseBehindSend (environment : Environment) (index : Nat) : Course :=
  { courseAt environment (index + 1) with
    recvs := environment.recvs.drop (succeeded environment.sendFailures index)
    transmitted := UInt32.ofNat (succeeded environment.sendFailures index) }

theorem sendTo_courseAt (packet : Bytes) (index : Nat) :
    Triple (fun world => course world =
        { courseAt environment index with interrupts := environment.interrupts.drop (index + 1) })
      (sendTo packet)
      (fun failure world => failure = environment.sendFailures.get index ∧
        course world = courseBehindSend environment index) fun _ => False :=
  triple_modifyGet fun world same => by
    have failures : world.sendFailures = environment.sendFailures.drop index := congrArg Course.sendFailures same
    have attempted : isAttempt (.sendTo packet world.sendFailures.head) = true := by
      cases world.sendFailures.head <;> rfl
    refine ⟨by rw [failures, Stream'.head_drop], (course_enter _ _ _).trans ?_⟩
    rw [attempted]
    have rest : course { world with sendFailures := world.sendFailures.tail } =
        { course world with sendFailures := world.sendFailures.tail } := rfl
    have before : attempts world.log = index := congrArg Course.attempts same
    rw [rest, same, failures, Stream'.tail_drop', before]
    exact congrArg (fun transmitted => { courseBehindSend environment index with transmitted })
      (congrArg Course.transmitted same)

theorem countQuery_course (before : Course) :
    Triple (fun world => course world = before) countQuery
      (fun _ world => course world = { before with transmitted := before.transmitted + 1 }) fun _ => False :=
  triple_modify fun world same => by rw [← same]; rfl

theorem recvFrom_course {before : Course} {answer : RecvOutcome} {rest : List RecvOutcome}
    (recvs : before.recvs = answer :: rest) :
    Triple (fun world => course world = before) recvFrom
      (fun result world => result = answer ∧ course world = { before with recvs := rest }) fun _ => False := by
  refine triple_get_bind fun seen same => ?_
  have here : seen.recvs = answer :: rest := by rw [← recvs, ← same]; rfl
  rw [here]
  rintro world rfl
  exact ⟨rfl, by rw [← same]; rfl⟩

/-- A query that has been sent is counted, and its answer waited for. -/
theorem turned_answer (undisturbed : Undisturbed environment systemNanos count) {index : Nat}
    (sent : environment.sendFailures.get index = none)
    (below : succeeded environment.sendFailures index < count.toNat) (sendTime : Instant) :
    Triple (fun world => course world = courseBehindSend environment index) (do
        countQuery
        match ← answerQuery crate showIpv6 showMillis sendTime (← recvFrom) with
        | .error failure => pure (.exit (.error failure))
        | .ok _ =>
          pure (.next ((carriedAt environment systemNanos index).1 + 1,
            (carriedAt environment systemNanos index).2.tail)))
      (Turned crate count environment systemNanos index) fun _ => False := by
  have more : succeeded environment.sendFailures index < environment.recvs.length :=
    below.trans_le undisturbed.received
  have received := List.getElem?_eq_getElem more
  have counted : succeeded environment.sendFailures (index + 1) = succeeded environment.sendFailures index + 1 := by
    rw [succeeded_succ, sent]
    rfl
  refine triple_bind (countQuery_course _) fun _ =>
    triple_bind (recvFrom_course (List.drop_eq_getElem_cons more)) fun answer => triple_given fun isAnswer =>
      triple_bind (answerQuery_course sendTime answer _) fun result => ?_
  rw [isAnswer]
  cases result with
  -- an answer that cannot be handled ends the loop behind its query
  | error failure =>
    refine triple_pure fun world here => .inr ⟨below, sent, ?_, _, received, ?_⟩
    · exact congrArg Course.attempts here.1
    · simpa [Except.isOk, Except.toBool] using here.2
  | ok done =>
    refine triple_pure fun world here => ⟨below, ?_, ?_, fun _ answer found => ?_⟩
    · simp only [carriedAt, counted, Stream'.tail_drop', UInt16.ofNat_add]
      rfl
    · rw [here.1]
      simp only [courseBehindSend, courseAt, counted, UInt32.ofNat_add]
      rfl
    · rw [received, Option.mem_some] at found
      simpa [Except.isOk, Except.toBool, found] using here.2

theorem turned_queryTurn (isCount : pgConfig.count = some count)
    (undisturbed : Undisturbed environment systemNanos count) {index : Nat}
    (within : succeeded environment.sendFailures index ≤ count.toNat) :
    Triple (fun world => course world = courseAt environment index)
      (queryTurn crate showIpv6 showMillis pgConfig nodeinfoOpt (carriedAt environment systemNanos index))
      (Turned crate count environment systemNanos index) fun _ => False := by
  refine triple_bind (quiet_loopBoundary _) fun _ =>
    triple_bind (isRunning_courseAt undisturbed.uninterrupted index) fun running => triple_given fun runs => ?_
  rw [runs, if_pos rfl]
  refine triple_get_bind fun seen same => ?_
  have reached := @countReached_iff pgConfig count isCount seen.status (succeeded environment.sendFailures index)
    (congrArg Course.transmitted same) (within.trans_lt count.toNat_lt)
  split
  next full =>
    rintro world rfl
    exact .inl ⟨le_antisymm within (reached.mp full), congrArg Course.attempts same⟩
  next notFull =>
    rw [reached, not_le] at notFull
    have built : (buildNodeinfoPacket (carriedAt environment systemNanos index).2.head nodeinfoOpt).isSome := by
      rw [buildNodeinfoPacket, Option.isSome_map, carriedAt, Stream'.head_drop]
      exact undisturbed.clock index
    obtain ⟨packet, built⟩ := Option.isSome_iff_exists.mp built
    rw [built]
    refine triple_conseq (triple_bind (quiet_now _) fun sendTime => triple_bind (sendTo_courseAt packet index)
      fun failure => triple_given fun failed => ?_) (fun _ here => here ▸ same) fun _ _ turned => turned
    rw [failed]
    cases outcome : environment.sendFailures.get index with
    | some text =>
      -- the counter and `seq` stay as they are
      have counted : succeeded environment.sendFailures (index + 1) = succeeded environment.sendFailures index := by
        rw [succeeded_succ, outcome]
        rfl
      refine triple_pure fun world here => ⟨notFull, ?_, ?_, fun sent => nomatch outcome.symm.trans sent⟩
      · simp only [carriedAt, counted, Stream'.tail_drop']
      · rw [here, courseBehindSend, courseAt, counted]
    | none => exact turned_answer undisturbed outcome notFull sendTime

/-! ## The loop -/

/-- The loop has come to the turn with this index. -/
structure Arrived (crate : Crate) (count : UInt32) (environment : Environment) (systemNanos : Stream' (Option Nat))
    (index : Nat) (head : (UInt16 × Stream' (Option Nat)) × World) : Prop where
  carried : head.1 = carriedAt environment systemNanos index
  sameCourse : course head.2 = courseAt environment index
  within : succeeded environment.sendFailures index ≤ count.toNat
  accepted : ∀ place < succeeded environment.sendFailures index, ∀ answer ∈ environment.recvs[place]?,
    refused crate answer = false

variable {index : Nat} {before after head : (UInt16 × Stream' (Option Nat)) × World}

/-- A turn leaves the loop, or the loop comes to the next one. -/
theorem Arrived.turn (isCount : pgConfig.count = some count)
    (undisturbed : Undisturbed environment systemNanos count)
    (arrived : Arrived crate count environment systemNanos index head) :
    ∃ turn final,
      queryTurn crate showIpv6 showMillis pgConfig nodeinfoOpt head.1 head.2 = .done turn final ∧
        Turn.post (fun carried final => succeeded environment.sendFailures index < count.toNat ∧
            Arrived crate count environment systemNanos (index + 1) (carried, final))
          (fun _ => EndsAt crate count environment index) turn final := by
  obtain ⟨turn, final, turned, leads⟩ :=
    (@turned_queryTurn crate showIpv6 showMillis pgConfig nodeinfoOpt _ _ _ isCount undisturbed _ arrived.within).done
      arrived.sameCourse
  rw [arrived.carried]
  refine ⟨turn, final, turned, ?_⟩
  cases turn with
  | exit result => exact leads
  | next carried =>
    obtain ⟨below, isCarried, sameCourse, accepted⟩ := leads
    have counted := succeeded_succ environment.sendFailures index
    have atMost := Bool.toNat_le (environment.sendFailures.get index).isNone
    refine ⟨below, isCarried, sameCourse, by omega, fun place earlier => ?_⟩
    by_cases old : place < succeeded environment.sendFailures index
    · exact arrived.accepted place old
    · -- the answer to the query of this turn
      have sent : environment.sendFailures.get index = none := by
        cases outcome : environment.sendFailures.get index with
        | none => rfl
        | some text =>
          rw [outcome] at counted
          have same : succeeded environment.sendFailures (index + 1) = succeeded environment.sendFailures index := counted
          exact absurd (same ▸ earlier) old
      rw [show place = succeeded environment.sendFailures index by omega]
      exact accepted sent

theorem Arrived.next (isCount : pgConfig.count = some count)
    (undisturbed : Undisturbed environment systemNanos count)
    (arrived : Arrived crate count environment systemNanos index before)
    (goesOn : GoesOn (queryTurn crate showIpv6 showMillis pgConfig nodeinfoOpt) before after) :
    Arrived crate count environment systemNanos (index + 1) after := by
  obtain ⟨turn, final, turned, leads⟩ :=
    @Arrived.turn crate showIpv6 showMillis pgConfig nodeinfoOpt _ _ _ _ _ isCount undisturbed arrived
  have same := turned.symm.trans goesOn
  cases same
  exact leads.2

theorem Arrived.exit (isCount : pgConfig.count = some count)
    (undisturbed : Undisturbed environment systemNanos count)
    (arrived : Arrived crate count environment systemNanos index head) {result : Except String Unit} {final : World}
    (left : queryTurn crate showIpv6 showMillis pgConfig nodeinfoOpt head.1 head.2 = .done (.exit result) final) :
    EndsAt crate count environment index final := by
  obtain ⟨turn, final, turned, leads⟩ :=
    @Arrived.turn crate showIpv6 showMillis pgConfig nodeinfoOpt _ _ _ _ _ isCount undisturbed arrived
  have same := turned.symm.trans left
  cases same
  exact leads

theorem Arrived.attempted (arrived : Arrived crate count environment systemNanos index head) :
    attempts head.2.log = index :=
  congrArg Course.attempts arrived.sameCourse

/-- `seq` is one ahead of the queries, as long as it has not overflowed. -/
theorem Arrived.seq (arrived : Arrived crate count environment systemNanos index head) :
    head.1.1.toNat = (succeeded environment.sendFailures index + 1) % 2 ^ 16 := by
  rw [arrived.carried]
  exact UInt16.toNat_ofNat'


end

/-! ## The bound -/

section

variable (crate : Crate) (showIpv6 : Ipv6Addr → String) (showMillis : Duration → String) (pgConfig : PingConfig)
  (nodeinfoOpt : String) (target : Ipv6Addr) (count : UInt32) (environment : Environment)
  (systemNanos : Stream' (Option Nat))

/-- The world in which `run_nodeinfo_query` begins its main loop. -/
def loopStart : World :=
  ((do
    setStartTime
    print [.line ("PING " ++ showIpv6 target ++ "(" ++ showIpv6 target ++ ") 56 data bytes")] : Proc World Unit)
    (World.start environment)).state

/-- The main loop comes to an end within as many iterations as the count says, and `seq` does not overflow on
the way. -/
structure Bounded : Prop where
  ends : ∃ fuel result final,
    forever (queryTurn crate showIpv6 showMillis pgConfig nodeinfoOpt) fuel (1, systemNanos)
      (loopStart showIpv6 target environment) = .done result final ∧ attempts final.log ≤ count.toNat
  noOverflow : ∀ before after,
    Reaches (queryTurn crate showIpv6 showMillis pgConfig nodeinfoOpt)
      ((1, systemNanos), loopStart showIpv6 target environment) before →
    GoesOn (queryTurn crate showIpv6 showMillis pgConfig nodeinfoOpt) before after →
      before.1.1.toNat ≤ after.1.1.toNat

/-- One of the answers that come in time is refused; or every query can be sent, and `seq` has values for all
of them. -/
def Limited : Prop :=
  (∃ place < min (succeeded environment.sendFailures count.toNat) 65535,
    ∃ answer ∈ environment.recvs[place]?, refused crate answer = true) ∨
  (count.toNat < 65535 ∧ ∀ index < count.toNat, environment.sendFailures.get index = none)

end

section

variable {crate : Crate} {showIpv6 : Ipv6Addr → String} {showMillis : Duration → String} {pgConfig : PingConfig}
  {nodeinfoOpt : String} {target : Ipv6Addr} {count : UInt32} {environment : Environment}
  {systemNanos : Stream' (Option Nat)} {index : Nat} {head : (UInt16 × Stream' (Option Nat)) × World}

theorem arrived_loopStart (undisturbed : Undisturbed environment systemNanos count) :
    Arrived crate count environment systemNanos 0 ((1, systemNanos), loopStart showIpv6 target environment) where
  carried := rfl
  sameCourse := by
    have start : course (World.start environment) = courseAt environment 0 := by
      simp only [course, World.start, undisturbed.running]
      rfl
    exact start
  within := Nat.zero_le _
  accepted place earlier := absurd earlier (Nat.not_lt_zero place)

/-- The loop only comes to turns that are counted. -/
theorem arrived_of_reaches (isCount : pgConfig.count = some count)
    (undisturbed : Undisturbed environment systemNanos count)
    (reaches : Reaches (queryTurn crate showIpv6 showMillis pgConfig nodeinfoOpt)
      ((1, systemNanos), loopStart showIpv6 target environment) head) :
    ∃ index, Arrived crate count environment systemNanos index head := by
  refine reaches.invariant (fun head => ∃ index, Arrived crate count environment systemNanos index head)
    ⟨0, arrived_loopStart undisturbed⟩ fun before after _ goesOn arrived => ?_
  obtain ⟨index, arrived⟩ := arrived
  exact ⟨index + 1, arrived.next isCount undisturbed goesOn⟩

/-- While `seq` does not overflow, fewer queries have been sent than it has values. -/
theorem few_of_noOverflow (isCount : pgConfig.count = some count)
    (undisturbed : Undisturbed environment systemNanos count)
    (noOverflow : ∀ before after,
      Reaches (queryTurn crate showIpv6 showMillis pgConfig nodeinfoOpt)
        ((1, systemNanos), loopStart showIpv6 target environment) before →
      GoesOn (queryTurn crate showIpv6 showMillis pgConfig nodeinfoOpt) before after →
        before.1.1.toNat ≤ after.1.1.toNat)
    (reaches : Reaches (queryTurn crate showIpv6 showMillis pgConfig nodeinfoOpt)
      ((1, systemNanos), loopStart showIpv6 target environment) head) :
    ∃ index, Arrived crate count environment systemNanos index head ∧
      succeeded environment.sendFailures index < 65535 := by
  refine reaches.invariant (fun head => ∃ index, Arrived crate count environment systemNanos index head ∧
    succeeded environment.sendFailures index < 65535) ⟨0, arrived_loopStart undisturbed, by simp [succeeded]⟩
    fun before after reached goesOn few => ?_
  obtain ⟨index, arrived, few⟩ := few
  have next := arrived.next isCount undisturbed goesOn
  refine ⟨index + 1, next, ?_⟩
  have ascends := noOverflow before after reached goesOn
  have counted := succeeded_succ environment.sendFailures index
  have atMost := Bool.toNat_le (environment.sendFailures.get index).isNone
  rw [arrived.seq, next.seq] at ascends
  omega

theorem succeeded_eq_iff (failures : Stream' (Option String)) (number : Nat) :
    succeeded failures number = number ↔ ∀ index < number, failures.get index = none := by
  rw [succeeded, Nat.count_iff_forall]
  simp only [Option.isNone_iff_eq_none]

theorem limited_of_bounded (isCount : pgConfig.count = some count)
    (undisturbed : Undisturbed environment systemNanos count)
    (bounded : Bounded crate showIpv6 showMillis pgConfig nodeinfoOpt target count environment systemNanos) :
    Limited crate count environment := by
  obtain ⟨fuel, result, final, ends, few⟩ := bounded.ends
  obtain ⟨head, reaches, left⟩ := forever_done_iff.mp ⟨fuel, ends⟩
  obtain ⟨index, arrived, short⟩ := few_of_noOverflow isCount undisturbed bounded.noOverflow reaches
  have atMost : succeeded environment.sendFailures index ≤ index := Nat.count_le _
  rcases arrived.exit isCount undisturbed left with
    ⟨full, attempted⟩ | ⟨_, sent, attempted, answer, received, isRefused⟩
  · -- as many iterations as queries: all of them were sent
    have all : index = count.toNat := by omega
    exact .inr ⟨by omega, (succeeded_eq_iff _ _).mp (all ▸ full)⟩
  · have counted := succeeded_succ environment.sendFailures index
    rw [sent] at counted
    have later : succeeded environment.sendFailures (index + 1) ≤ succeeded environment.sendFailures count.toNat :=
      Nat.count_monotone _ (by omega)
    exact .inl ⟨succeeded environment.sendFailures index, by simp at counted; omega, answer, received, isRefused⟩

/-- No refused answer among those that have been read: the loop ends by the count. -/
theorem Limited.all_sent (limited : Limited crate count environment)
    (arrived : Arrived crate count environment systemNanos index head)
    (late : min (succeeded environment.sendFailures count.toNat) 65535 ≤ succeeded environment.sendFailures index) :
    count.toNat < 65535 ∧ ∀ index < count.toNat, environment.sendFailures.get index = none := by
  rcases limited with ⟨place, early, answer, received, isRefused⟩ | allSent
  · have accepted := arrived.accepted place (by omega) answer received
    rw [isRefused] at accepted
    cases accepted
  · exact allSent

/-- A turn behind fewer iterations than the count ends the loop within the count, or is followed by a next one. -/
theorem Arrived.progress (isCount : pgConfig.count = some count)
    (undisturbed : Undisturbed environment systemNanos count) (limited : Limited crate count environment)
    (few : index ≤ count.toNat) (arrived : Arrived crate count environment systemNanos index head) :
    (∃ result final, queryTurn crate showIpv6 showMillis pgConfig nodeinfoOpt head.1 head.2 =
        .done (.exit result) final ∧ attempts final.log ≤ count.toNat) ∨
      ∃ after, GoesOn (queryTurn crate showIpv6 showMillis pgConfig nodeinfoOpt) head after ∧ index < count.toNat ∧
        Arrived crate count environment systemNanos (index + 1) after := by
  -- behind as many iterations as the count says, all queries have been sent
  have full : index = count.toNat → succeeded environment.sendFailures index = count.toNat := by
    rintro rfl
    exact (succeeded_eq_iff _ _).mpr (limited.all_sent arrived (Nat.min_le_left _ _)).2
  obtain ⟨turn, final, turned, leads⟩ :=
    @Arrived.turn crate showIpv6 showMillis pgConfig nodeinfoOpt _ _ _ _ _ isCount undisturbed arrived
  cases turn with
  | next carried =>
    obtain ⟨below, next⟩ := leads
    exact .inr ⟨(carried, final), turned, by omega, next⟩
  | exit result =>
    refine .inl ⟨result, final, turned, ?_⟩
    rcases leads with ⟨_, attempted⟩ | ⟨below, _, attempted, _⟩
    · omega
    · omega

theorem bounded_of_limited (isCount : pgConfig.count = some count)
    (undisturbed : Undisturbed environment systemNanos count) (limited : Limited crate count environment) :
    Bounded crate showIpv6 showMillis pgConfig nodeinfoOpt target count environment systemNanos where
  ends := by
    -- every turn either ends the loop or uses up one of the allowed attempts
    have progress : ∀ head,
        (∃ index ≤ count.toNat, Arrived crate count environment systemNanos index head) →
        (∃ result final, queryTurn crate showIpv6 showMillis pgConfig nodeinfoOpt head.1 head.2 =
          .done (.exit result) final ∧ attempts final.log ≤ count.toNat) ∨
        ∃ after, GoesOn (queryTurn crate showIpv6 showMillis pgConfig nodeinfoOpt) head after ∧
          (∃ index ≤ count.toNat, Arrived crate count environment systemNanos index after) ∧
          count.toNat - attempts after.2.log < count.toNat - attempts head.2.log := by
      intro head reached
      obtain ⟨index, few, arrived⟩ := reached
      refine (arrived.progress isCount undisturbed limited few).imp id fun goesOn => ?_
      obtain ⟨after, goesOn, less, next⟩ := goesOn
      refine ⟨after, goesOn, ⟨index + 1, less, next⟩, ?_⟩
      rw [arrived.attempted, next.attempted]
      omega
    exact @ends_of_measure _ _ _ _ _ _ (fun head => count.toNat - attempts head.2.log) progress
      ((1, systemNanos), loopStart showIpv6 target environment) ⟨0, Nat.zero_le _, arrived_loopStart undisturbed⟩
  noOverflow before after reaches goesOn := by
    obtain ⟨index, arrived⟩ := arrived_of_reaches isCount undisturbed reaches
    have next := arrived.next isCount undisturbed goesOn
    have counted := succeeded_succ environment.sendFailures index
    rw [arrived.seq, next.seq]
    by_cases large : 65535 ≤ succeeded environment.sendFailures (index + 1)
    · -- the run ends before 65535 queries are sent
      have allSent := limited.all_sent next (by omega)
      have within := next.within
      omega
    · omega

end

/-- Whether the main loop keeps to the count and to the range of `seq`. -/
theorem bounded_iff (crate : Crate) (showIpv6 : Ipv6Addr → String) (showMillis : Duration → String)
    (pgConfig : PingConfig) (nodeinfoOpt : String) (target : Ipv6Addr) (count : UInt32)
    (isCount : pgConfig.count = some count) (environment : Environment) (systemNanos : Stream' (Option Nat))
    (undisturbed : Undisturbed environment systemNanos count) :
    Bounded crate showIpv6 showMillis pgConfig nodeinfoOpt target count environment systemNanos ↔
      Limited crate count environment :=
  ⟨limited_of_bounded isCount undisturbed, bounded_of_limited isCount undisturbed⟩

def quietTarget : Ipv6Addr := ⟨.replicate 16 0⟩

theorem undisturbed_worldWith (sendFailure : Option String) {recvs : List RecvOutcome} {count : UInt32}
    (enough : count.toNat ≤ recvs.length) :
    Undisturbed (worldWith sendFailure recvs) (Stream'.const (some 0)) count :=
  ⟨rfl, fun _ => rfl, fun _ => rfl, enough⟩

/-- One query with `-c 1`, and nobody answers. -/
theorem bounded_iff_oneQuery :
    Bounded .rfcs (fun _ => "") (fun _ => "") oneRequest "name" quietTarget 1 (worldWith none [silence])
      (Stream'.const (some 0)) :=
  (bounded_iff .rfcs (fun _ => "") (fun _ => "") oneRequest "name" quietTarget 1 rfl (worldWith none [silence])
    (Stream'.const (some 0)) (undisturbed_worldWith none le_rfl)).mpr
    (.inr ⟨by decide, fun _ _ => rfl⟩)

theorem not_refused_silence {number place : Nat} {crate : Crate} {answer : RecvOutcome}
    (received : answer ∈ (List.replicate number silence)[place]?) : refused crate answer = false := by
  rw [Option.mem_def] at received
  rw [List.eq_of_mem_replicate (List.mem_of_getElem? received)]
  rfl

/-- With `-c 1` and a network that cannot be reached the loop does not end; with `-c 65535` and a host that does
not answer `seq` overflows. -/
theorem not_bounded :
    ¬ Bounded .rfcs (fun _ => "") (fun _ => "") oneRequest "name" quietTarget 1
        (worldWith (some "Network is unreachable") (List.replicate 1 silence)) (Stream'.const (some 0)) ∧
      ¬ Bounded .rfcs (fun _ => "") (fun _ => "") { oneRequest with count := some 65535 } "name" quietTarget
        65535 (worldWith none (List.replicate 65535 silence)) (Stream'.const (some 0)) := by
  constructor
  · intro bounded
    rcases limited_of_bounded rfl (undisturbed_worldWith _ (by simp)) bounded with
      ⟨place, _, answer, received, isRefused⟩ | ⟨_, allSent⟩
    · rw [not_refused_silence received] at isRefused
      cases isRefused
    · cases allSent 0 (by decide)
  · intro bounded
    have enough : (65535 : UInt32).toNat ≤ (List.replicate 65535 silence).length := by
      rw [List.length_replicate]
      exact le_rfl
    rcases limited_of_bounded rfl (undisturbed_worldWith _ enough) bounded with
      ⟨place, _, answer, received, isRefused⟩ | ⟨small, _⟩
    · rw [not_refused_silence received] at isRefused
      cases isRefused
    · exact absurd small (by decide)

end Utiputils.Ping.Ping6Common
