import Utiputils.Tracepath.ErrorQueue

/-! # Sending probes

`perform_pmtu_discovery` and `send_udp_probe_ipv6`, with the answers of the kernel as arguments, and what
any sequence of sends and lookups makes of the history. -/

namespace Utiputils.Tracepath

open Utiputils.Pnet

/-- The answer of `receive_error_message_with_port`. -/
abbrev QueueAnswer := Except String (Option Message)

/-! ## The two senders -/

structure PmtuAnswers where
  sendTime : Instant
  sent : Except String Unit
  message : QueueAnswer

/-- The discovery looks at the error queue only when its send has failed. -/
def PmtuAnswers.dequeued (self : PmtuAnswers) : QueueAnswer :=
  match self.sent with
  | .ok () => .ok none
  | .error _ => self.message

/-- What a sender leaves behind: the port it sent to, the message it dequeued with the TTL credited to
it, and the lines it printed. -/
structure Sent (Result : Type) where
  result : Result
  state : RunState
  destPort : UInt16
  payloadLen : Nat
  credit : Option (Message × UInt8) := none
  lines : List Line := []

def performPmtuDiscovery (answers : PmtuAnswers) (runState : RunState) : Option (Sent UInt32) :=
  let runState := { runState with ttl := 1 }
  let destPort := runState.basePort + UInt16.ofNat runState.hisptr
  let slot := runState.hisptr
  -- the entry is written before the send, and the pointer stays where it is
  if inside : slot < HIS_ARRAY_SIZE then
    let runState := { runState with
      history := runState.history.set slot ⟨runState.ttl, some answers.sendTime⟩
      sendTime := some answers.sendTime }
    match answers.sent with
    | .ok () => some { result := 1500, state := runState, destPort, payloadLen := 128000 }
    | .error _ =>
      match answers.message with
      | .ok (some message) =>
        let found := findSendHistoryByPort runState message.receivedPort message.recvTime
        let errorInfo := message.errorInfo
        let credit := some (message, found.1.1)
        if errorInfo.origin = SO_EE_ORIGIN_LOCAL ∧ errorInfo.errno = 90 then
          some {
            result := errorInfo.info
            state := found.2
            destPort
            payloadLen := 128000
            credit
            lines := [.localhost found.1.1 found.1.2 (localOutcome errorInfo)] }
        else some { result := 1500, state := found.2, destPort, payloadLen := 128000, credit }
      | .ok none | .error _ => some { result := 1500, state := runState, destPort, payloadLen := 128000 }
  else none

structure SendAnswers where
  sent : Except String Instant
  immediate : QueueAnswer

def sendUdpProbeIpv6 (tpConfig : TracepathConfig) (answers : SendAnswers) (runState : RunState) :
    Option (Sent (Except String (Option ResponseType))) :=
  let destPort := runState.basePort + UInt16.ofNat runState.hisptr
  let payloadLen := (tpConfig.getLength - 48).toNat
  match answers.sent with
  | .error message => some { result := .error message, state := runState, destPort, payloadLen }
  | .ok sendTime =>
    match recordProbe runState sendTime with
    | none => none
    | some recorded =>
      match answers.immediate with
      | .ok (some message) =>
        let handled := afterSendMessage tpConfig message recorded
        some {
          result := .ok handled.response
          state := handled.state
          destPort
          payloadLen
          credit := some (message, handled.credit)
          lines := handled.lines }
      | .ok none | .error _ => some { result := .ok none, state := recorded, destPort, payloadLen }

/-- With a successful `send_to` the function never returns an error. -/
theorem sendUdpProbeIpv6_isOk {tpConfig : TracepathConfig} {sendTime : Instant} {immediate : QueueAnswer}
    {runState : RunState} {sent : Sent (Except String (Option ResponseType))}
    (built : sendUdpProbeIpv6 tpConfig ⟨.ok sendTime, immediate⟩ runState = some sent) :
    sent.result.isOk = true := by
  simp only [sendUdpProbeIpv6] at built
  split at built
  · cases built
  · split at built <;> (cases built; rfl)

theorem recordProbe_ttl {runState recorded : RunState} {sendTime : Instant}
    (written : recordProbe runState sendTime = some recorded) : recorded.ttl = runState.ttl := by
  simp only [recordProbe] at written
  split at written
  · cases written
    rfl
  · cases written

/-- A call leaves the TTL alone, and if it returns a response then that of the message it dequeued. -/
theorem sendUdpProbeIpv6_cases {tpConfig : TracepathConfig} {answers : SendAnswers} {runState : RunState}
    {sent : Sent (Except String (Option ResponseType))}
    (built : sendUdpProbeIpv6 tpConfig answers runState = some sent) :
    sent.state.ttl = runState.ttl ∧ ∀ response, sent.result = .ok (some response) →
      ∃ message recorded, (afterSendMessage tpConfig message recorded).response = some response ∧
        sent.credit = some (message, (afterSendMessage tpConfig message recorded).credit) ∧
        sent.lines = (afterSendMessage tpConfig message recorded).lines := by
  simp only [sendUdpProbeIpv6] at built
  split at built
  · cases built
    exact ⟨rfl, fun _ isOk => by cases isOk⟩
  · split at built
    · cases built
    next recorded written =>
      split at built <;> cases built
      next message _ =>
        refine ⟨(afterSendMessage_frame ..).2.2.2.trans (recordProbe_ttl written), fun response isOk => ?_⟩
        simp only [Except.ok.injEq] at isOk
        exact ⟨message, recorded, isOk, rfl, rfl⟩
      · exact ⟨recordProbe_ttl written, fun _ isOk => by cases isOk⟩
      · exact ⟨recordProbe_ttl written, fun _ isOk => by cases isOk⟩

/-! ## What they do to the map -/

/-- A lookup if there is a message, as the map sees it. -/
def lookedUp (answer : QueueAnswer) : Option UInt16 :=
  match answer with
  | .ok (some message) => some message.receivedPort
  | .ok none | .error _ => none

def takePort (answer : QueueAnswer) (pending : UInt16 → Option HistoryEntry) : UInt16 → Option HistoryEntry :=
  match lookedUp answer with
  | some port => Function.update pending port none
  | none => pending

theorem takePort_of_ne {answer : QueueAnswer} {pending : UInt16 → Option HistoryEntry} {port : UInt16}
    (other : lookedUp answer ≠ some port) : takePort answer pending port = pending port := by
  cases found : lookedUp answer with
  | none => simp only [takePort, found]
  | some taken =>
    have different : port ≠ taken := by
      rintro rfl
      exact other found
    simp only [takePort, found, Function.update_of_ne different]

/-- The credit that goes with it: the TTL of the unanswered probe, or else the current one. -/
def creditFor (answer : QueueAnswer) (pending : UInt16 → Option HistoryEntry) (ttl : UInt8) :
    Option (Message × UInt8) :=
  match answer with
  | .ok (some message) => some (message, ((pending message.receivedPort).map (·.hops)).getD ttl)
  | .ok none | .error _ => none

section

variable {runState : RunState} (fit : PortsFit runState.basePort) (inside : runState.hisptr < HIS_ARRAY_SIZE)
include fit inside

/-- A successful send: the probe is entered under its destination port, and a message that came back at
once takes its own port out again. -/
theorem sendUdpProbeIpv6_spec (tpConfig : TracepathConfig) (sendTime : Instant) (immediate : QueueAnswer)
    (positive : 0 < runState.ttl) :
    ∃ sent, sendUdpProbeIpv6 tpConfig ⟨.ok sendTime, immediate⟩ runState = some sent ∧
      sent.destPort = portOf runState.basePort runState.hisptr ∧
      sent.state.pending = takePort immediate (Function.update runState.pending sent.destPort
        (some ⟨runState.ttl, some sendTime⟩)) ∧
      sent.credit = creditFor immediate (Function.update runState.pending sent.destPort
        (some ⟨runState.ttl, some sendTime⟩)) runState.ttl ∧
      sent.state.hisptr = (runState.hisptr + 1) % HIS_ARRAY_SIZE ∧
      sent.state.basePort = runState.basePort ∧ sent.state.ttl = runState.ttl := by
  obtain ⟨recorded, written, entered, hisptr, basePort, ttl⟩ :=
    pending_recordProbe fit sendTime inside positive
  -- the check after the send changes the map by its lookup alone
  have taken : ∀ message, immediate = .ok (some message) →
      (afterSendMessage tpConfig message recorded).state.pending =
        Function.update recorded.pending message.receivedPort none := by
    intro message _
    obtain ⟨history, -, samePort, -⟩ := afterSendMessage_frame tpConfig message recorded
    obtain ⟨_, frame⟩ := findSendHistoryByPort_frame recorded message.receivedPort message.recvTime
    rw [← pending_findSendHistoryByPort (basePort ▸ fit) message.receivedPort message.recvTime]
    exact pending_congr history (by rw [samePort, frame])
  simp only [sendUdpProbeIpv6, written]
  rcases immediate with _ | _ | message
  · exact ⟨_, rfl, rfl, entered, rfl, hisptr, basePort, ttl⟩
  · exact ⟨_, rfl, rfl, entered, rfl, hisptr, basePort, ttl⟩
  · obtain ⟨-, sameHisptr, samePort, sameTtl⟩ := afterSendMessage_frame tpConfig message recorded
    refine ⟨_, rfl, rfl, ?_, ?_, sameHisptr.trans hisptr, samePort.trans basePort, sameTtl.trans ttl⟩
    · rw [taken message rfl, entered]
      rfl
    · rw [afterSendMessage_credit, credit_findSendHistoryByPort (basePort ▸ fit), entered, ttl]
      rfl

/-- The discovery enters its probe under the port of the slot that the next probe will use. -/
theorem performPmtuDiscovery_spec (answers : PmtuAnswers) :
    ∃ sent, performPmtuDiscovery answers runState = some sent ∧
      sent.destPort = portOf runState.basePort runState.hisptr ∧
      sent.state.pending = takePort answers.dequeued (Function.update runState.pending sent.destPort
        (some ⟨1, some answers.sendTime⟩)) ∧
      sent.credit = creditFor answers.dequeued (Function.update runState.pending sent.destPort
        (some ⟨1, some answers.sendTime⟩)) 1 ∧
      sent.state.hisptr = runState.hisptr ∧ sent.state.basePort = runState.basePort ∧ sent.state.ttl = 1 := by
  set probed : RunState := { runState with
    ttl := 1
    history := runState.history.set runState.hisptr ⟨1, some answers.sendTime⟩ inside
    sendTime := some answers.sendTime } with probedDef
  have probedFit : PortsFit probed.basePort := fit
  have entered : probed.pending = Function.update runState.pending (portOf runState.basePort runState.hisptr)
      (some ⟨1, some answers.sendTime⟩) :=
    pending_set fit ⟨runState.hisptr, inside⟩ ⟨1, some answers.sendTime⟩
  simp only [performPmtuDiscovery, inside, dite_true, PmtuAnswers.dequeued, ← probedDef]
  -- the error queue is looked at only behind a failed send
  rcases answers.sent with _ | ⟨⟩
  · rcases answers.message with _ | _ | message
    · exact ⟨_, rfl, rfl, entered, rfl, rfl, rfl, rfl⟩
    · exact ⟨_, rfl, rfl, entered, rfl, rfl, rfl, rfl⟩
    · obtain ⟨_, frame⟩ := findSendHistoryByPort_frame probed message.receivedPort message.recvTime
      have taken := pending_findSendHistoryByPort probedFit message.receivedPort message.recvTime
      have credited := credit_findSendHistoryByPort probedFit message.receivedPort message.recvTime
      rw [entered] at taken credited
      have credit : some (message, (findSendHistoryByPort probed message.receivedPort message.recvTime).1.1) =
          creditFor (.ok (some message)) (Function.update runState.pending
            (portOf runState.basePort runState.hisptr) (some ⟨1, some answers.sendTime⟩)) 1 := by
        rw [credited]
        rfl
      by_cases emsgsize : message.errorInfo.origin = SO_EE_ORIGIN_LOCAL ∧ message.errorInfo.errno = 90
      · exact ⟨_, if_pos emsgsize, rfl, taken, credit, by rw [frame], by rw [frame], by rw [frame]⟩
      · exact ⟨_, if_neg emsgsize, rfl, taken, credit, by rw [frame], by rw [frame], by rw [frame]⟩
  · exact ⟨_, rfl, rfl, entered, rfl, rfl, rfl, rfl⟩

end

/-! ## Any sequence of sends and lookups -/

inductive HistoryOp where
  /-- a successful send, with what the check after it dequeues -/
  | send (ttl : UInt8) (sendTime : Instant) (immediate : QueueAnswer)
  | lookup (port : UInt16) (recvTime : Instant)
  deriving DecidableEq

namespace HistoryOp

def step (tpConfig : TracepathConfig) (runState : RunState) : HistoryOp → Option RunState
  | send ttl sendTime immediate =>
    (sendUdpProbeIpv6 tpConfig ⟨.ok sendTime, immediate⟩ (runState.setTtl ttl)).map (·.state)
  | lookup port recvTime => some (findSendHistoryByPort runState port recvTime).2

def run (tpConfig : TracepathConfig) (runState : RunState) (ops : List HistoryOp) : Option RunState :=
  ops.foldlM (step tpConfig) runState

/-- The port that an operation looks up, if any. -/
def looksUp : HistoryOp → Option UInt16
  | send _ _ immediate => lookedUp immediate
  | lookup port _ => some port

def isSend : HistoryOp → Bool
  | send .. => true
  | lookup .. => false

def Valid : HistoryOp → Prop
  | send ttl _ _ => 0 < ttl
  | lookup .. => True

instance : DecidablePred Valid := fun op =>
  match op with
  | send ttl _ _ => inferInstanceAs (Decidable (0 < ttl))
  | lookup .. => inferInstanceAs (Decidable True)

def sends (ops : List HistoryOp) : Nat := ops.countP isSend

theorem run_append (tpConfig : TracepathConfig) (runState : RunState) (first second : List HistoryOp) :
    run tpConfig runState (first ++ second) =
      (run tpConfig runState first).bind fun middle => run tpConfig middle second :=
  List.foldlM_append

section

variable {tpConfig : TracepathConfig} {runState : RunState} (fit : PortsFit runState.basePort)
  (inside : runState.hisptr < HIS_ARRAY_SIZE)
include fit inside

/-- One operation never panics, moves the pointer with every send, and leaves alone the ports that it
neither looks up nor sends to. -/
theorem step_spec (op : HistoryOp) (valid : op.Valid) :
    ∃ next, op.step tpConfig runState = some next ∧
      next.hisptr = (runState.hisptr + if op.isSend then 1 else 0) % HIS_ARRAY_SIZE ∧
      next.basePort = runState.basePort ∧
      ∀ port, op.looksUp ≠ some port → (op.isSend → port ≠ portOf runState.basePort runState.hisptr) →
        next.pending port = runState.pending port := by
  cases op with
  | send ttl sendTime immediate =>
    have fitTtl : PortsFit (runState.setTtl ttl).basePort := fit
    obtain ⟨sent, built, destPort, pending, -, hisptr, basePort, -⟩ :=
      sendUdpProbeIpv6_spec fitTtl inside tpConfig sendTime immediate valid
    refine ⟨sent.state, by rw [step, built]; rfl, hisptr, basePort, ?_⟩
    intro port notLookedUp notSent
    have different : port ≠ sent.destPort := destPort ▸ notSent rfl
    rw [pending, takePort_of_ne notLookedUp, Function.update_of_ne different, setTtl_pending]
  | lookup port recvTime =>
    obtain ⟨_, frame⟩ := findSendHistoryByPort_frame runState port recvTime
    refine ⟨_, rfl, ?_, by rw [frame], ?_⟩
    · rw [frame]
      exact (Nat.mod_eq_of_lt inside).symm
    · intro other notLookedUp _
      rw [pending_findSendHistoryByPort fit, Function.update_of_ne]
      rintro rfl
      exact notLookedUp rfl

end

/-- The run lemma: what one operation keeps, a sequence keeps, as long as no send comes round to the
slot of the port. -/
theorem run_spec {tpConfig : TracepathConfig} {runState : RunState} (fit : PortsFit runState.basePort)
    (inside : runState.hisptr < HIS_ARRAY_SIZE) (ops : List HistoryOp) (valid : ∀ op ∈ ops, op.Valid) :
    ∃ final, run tpConfig runState ops = some final ∧
      final.hisptr = (runState.hisptr + sends ops) % HIS_ARRAY_SIZE ∧
      final.basePort = runState.basePort ∧
      ∀ slot : Fin HIS_ARRAY_SIZE,
        (∀ op ∈ ops, op.looksUp ≠ some (portOf runState.basePort slot)) →
        (∀ i < sends ops, (runState.hisptr + i) % HIS_ARRAY_SIZE ≠ slot) →
        final.pending (portOf runState.basePort slot) = runState.pending (portOf runState.basePort slot) := by
  induction ops generalizing runState with
  | nil => exact ⟨runState, rfl, (Nat.mod_eq_of_lt inside).symm, rfl, fun _ _ _ => rfl⟩
  | cons op ops inductionHypothesis =>
    obtain ⟨next, stepped, hisptr, basePort, kept⟩ :=
      step_spec fit inside op (valid op List.mem_cons_self)
    obtain ⟨final, ran, finalHisptr, finalBase, finalKept⟩ := inductionHypothesis (basePort ▸ fit)
      (by rw [hisptr]; exact Nat.mod_lt _ (by decide)) fun other member => valid other (List.mem_cons_of_mem _ member)
    have counted : sends (op :: ops) = sends ops + if op.isSend then 1 else 0 := List.countP_cons
    refine ⟨final, by rw [run, List.foldlM_cons, stepped]; exact ran, ?_, finalBase.trans basePort, ?_⟩
    · rw [finalHisptr, hisptr, counted, HIS_ARRAY_SIZE]
      omega
    · intro slot untouched notReached
      replace notReached : ∀ i < sends (op :: ops), (runState.hisptr + i) % 64 ≠ slot := notReached
      have small : runState.hisptr < 64 := inside
      rw [basePort] at finalKept
      rw [finalKept slot (fun other member => untouched other (List.mem_cons_of_mem _ member))]
      · -- the slot is spared by the first operation, and then by the others
        refine kept _ (untouched op List.mem_cons_self) fun sending => ?_
        rw [counted, if_pos sending] at notReached
        have here := notReached 0 (by omega)
        rw [Nat.add_zero, Nat.mod_eq_of_lt small] at here
        intro samePort
        have slots := congrArg UInt16.toNat samePort
        rw [portOf_toNat fit slot.isLt, portOf_toNat fit inside] at slots
        omega
      · intro i before
        rw [hisptr]
        change ((runState.hisptr + if op.isSend then 1 else 0) % 64 + i) % 64 ≠ slot
        by_cases sending : op.isSend
        · rw [counted, if_pos sending] at notReached
          have later := notReached (i + 1) (by omega)
          rw [if_pos sending]
          omega
        · rw [counted, if_neg sending] at notReached
          have later := notReached i (by omega)
          rw [if_neg sending]
          omega

/-- A probe whose port is not looked up is still there when fewer than 64 probes have followed it. -/
theorem found_after_sends {tpConfig : TracepathConfig} {atSend : RunState} (fit : PortsFit atSend.basePort)
    (inside : atSend.hisptr < HIS_ARRAY_SIZE) {ttl : UInt8} (positive : 0 < ttl) (sendTime : Instant)
    (immediate : QueueAnswer) {later : List HistoryOp} (valid : ∀ op ∈ later, op.Valid) (few : sends later < 64) :
    ∃ sent last, sendUdpProbeIpv6 tpConfig ⟨.ok sendTime, immediate⟩ (atSend.setTtl ttl) = some sent ∧
      run tpConfig sent.state later = some last ∧
      (lookedUp immediate ≠ some sent.destPort → (∀ op ∈ later, op.looksUp ≠ some sent.destPort) →
        ∃ slot : Fin HIS_ARRAY_SIZE, sent.destPort.toNat = atSend.basePort.toNat + slot ∧
          ∀ recvTime, findSendHistoryByPort last sent.destPort recvTime =
            ((ttl, durationSince recvTime sendTime), last.clearSlot slot)) := by
  have fitTtl : PortsFit (atSend.setTtl ttl).basePort := fit
  obtain ⟨sent, built, destPort, pending, -, sentHisptr, sentBase, -⟩ :=
    sendUdpProbeIpv6_spec fitTtl inside tpConfig sendTime immediate positive
  have sentFit : PortsFit sent.state.basePort := sentBase ▸ fit
  obtain ⟨last, ran, -, lastBase, kept⟩ := run_spec sentFit (sentHisptr ▸ Nat.mod_lt _ (by decide)) later valid
  refine ⟨sent, last, built, ran, fun notImmediate notLater => ?_⟩
  let slot : Fin HIS_ARRAY_SIZE := ⟨atSend.hisptr, inside⟩
  have portEq : sent.destPort = portOf sent.state.basePort slot := sentBase ▸ destPort
  have entered : sent.state.pending sent.destPort = some ⟨ttl, some sendTime⟩ := by
    rw [pending, takePort_of_ne notImmediate, Function.update_self]
    rfl
  -- the next 63 sends go to the slots after this one
  have stillThere : last.pending sent.destPort = some ⟨ttl, some sendTime⟩ := by
    rw [← entered, portEq]
    refine kept slot (portEq ▸ notLater) fun i near => ?_
    rw [sentHisptr]
    have small : atSend.hisptr < 64 := inside
    change ((atSend.hisptr + 1) % 64 + i) % 64 ≠ atSend.hisptr
    omega
  refine ⟨slot, ?_, fun recvTime => ?_⟩
  · rw [portEq, portOf_toNat sentFit slot.isLt, sentBase, setTtl_basePort]
  · obtain ⟨found, foundPort, result⟩ := findSendHistoryByPort_of_some (lastBase ▸ sentFit) recvTime stillThere
    have sameSlot : found = slot := by
      refine portOf_injective sentFit ?_
      rw [lastBase] at foundPort
      exact foundPort.symm.trans portEq
    rw [result, sameSlot]

/-- From the state that the discovery leaves, any sequence of successful sends and lookups: the pointer
counts the sends modulo 64; as long as a probe's port has not been looked up and fewer than 64 probes have
followed it, looking it up finds that probe and clears its slot; and a foreign port changes nothing. -/
theorem run_tracksProbes (tpConfig : TracepathConfig) (target : IpAddr) (basePort : UInt16)
    (fit : PortsFit basePort) (answers : PmtuAnswers) (ops : List HistoryOp)
    (valid : ∀ op ∈ ops, op.Valid) :
    ∃ start final, performPmtuDiscovery answers { target, basePort } = some start ∧
      run tpConfig start.state ops = some final ∧
      (final.hisptr < HIS_ARRAY_SIZE ∧ final.hisptr = sends ops % HIS_ARRAY_SIZE) ∧
      (∀ before ttl sendTime immediate later, ops = before ++ send ttl sendTime immediate :: later →
        sends later < 64 →
        ∃ atSend sent, run tpConfig start.state before = some atSend ∧
          sendUdpProbeIpv6 tpConfig ⟨.ok sendTime, immediate⟩ (atSend.setTtl ttl) = some sent ∧
          (lookedUp immediate ≠ some sent.destPort → (∀ op ∈ later, op.looksUp ≠ some sent.destPort) →
            ∃ slot : Fin HIS_ARRAY_SIZE, sent.destPort.toNat = basePort.toNat + slot ∧
              ∀ recvTime, findSendHistoryByPort final sent.destPort recvTime =
                ((ttl, durationSince recvTime sendTime),
                  final.clearSlot slot))) ∧
      ∀ port : UInt16, port.toNat < basePort.toNat ∨ basePort.toNat + 63 < port.toNat →
        ∀ recvTime, (findSendHistoryByPort final port recvTime).2.history = final.history := by
  have startInside : ({ target, basePort } : RunState).hisptr < HIS_ARRAY_SIZE := by
    show 0 < 64
    decide
  -- discovery leaves the ring at its first slot, with the base port as it was
  obtain ⟨start, discovered, -, -, -, startHisptr, startBase, -⟩ :=
    @performPmtuDiscovery_spec { target, basePort } fit startInside answers
  replace startHisptr : start.state.hisptr = 0 := startHisptr
  have startFit : PortsFit start.state.basePort := startBase ▸ fit
  replace startInside : start.state.hisptr < HIS_ARRAY_SIZE := startHisptr ▸ by decide
  obtain ⟨final, ran, hisptr, base, -⟩ := run_spec startFit startInside ops valid
  refine ⟨start, final, discovered, ran, ⟨?_, ?_⟩, ?_, ?_⟩
  · rw [hisptr]
    exact Nat.mod_lt _ (by decide)
  · rw [hisptr, startHisptr, Nat.zero_add]
  · rintro before ttl sendTime immediate later rfl few
    obtain ⟨atSend, ranBefore, atHisptr, atBase, -⟩ :=
      run_spec startFit startInside before fun op member => valid op (by simp [member])
    obtain ⟨sent, last, built, ranLater, found⟩ := @found_after_sends tpConfig atSend (atBase ▸ startFit)
      (atHisptr ▸ Nat.mod_lt _ (by decide)) ttl (valid (send ttl sendTime immediate) (by simp)) sendTime immediate later
      (fun op member => valid op (by simp [member])) few
    -- the run through the probe is the whole run
    have lastFinal : last = final := by
      rw [run_append, ranBefore, Option.bind_some, run, List.foldlM_cons, step, built] at ran
      exact Option.some.inj (ranLater.symm.trans ran)
    rw [atBase, startBase, lastFinal] at found
    exact ⟨atSend, sent, ranBefore, built, found⟩
  · intro port foreign recvTime
    have finalBase : final.basePort = basePort := base.trans startBase
    -- a port outside the window has no slot, so nothing is cleared
    have noProbe : final.pending port = none := by
      rw [RunState.pending, finalBase, slotOf_of_foreign foreign]
      rfl
    rw [(findSendHistoryByPort_of_none recvTime noProbe).2]

/-- Two probes and a lookup of the first one's port between them. The second one is found. -/
theorem run_tracksProbes_two : ∃ start final atSend sent,
    performPmtuDiscovery ⟨5, .ok (), .ok none⟩ { target := .v6 ⟨Vector.replicate 16 2⟩, basePort := 44444 } =
      some start ∧
    run {} start.state [send 1 100 (.ok none), lookup 44444 150, send 2 200 (.ok none)] = some final ∧
    final.hisptr = 2 ∧
    run {} start.state [send 1 100 (.ok none), lookup 44444 150] = some atSend ∧
    sendUdpProbeIpv6 {} ⟨.ok 200, .ok none⟩ (atSend.setTtl 2) = some sent ∧
    (∃ slot : Fin HIS_ARRAY_SIZE, sent.destPort.toNat = 44444 + slot ∧
      ∀ recvTime, findSendHistoryByPort final sent.destPort recvTime =
        ((2, durationSince recvTime 200), final.clearSlot slot)) ∧
    ∀ recvTime, (findSendHistoryByPort final 80 recvTime).2.history = final.history := by
  obtain ⟨start, final, discovered, ran, ⟨-, hisptr⟩, found, foreign⟩ :=
    run_tracksProbes {} (.v6 ⟨Vector.replicate 16 2⟩) 44444 (by decide) ⟨5, .ok (), .ok none⟩
      [send 1 100 (.ok none), lookup 44444 150, send 2 200 (.ok none)] (by decide)
  obtain ⟨atSend, sent, ranBefore, built, finds⟩ :=
    found [send 1 100 (.ok none), lookup 44444 150] 2 200 (.ok none) [] rfl (by decide)
  have second := finds nofun fun _ member => absurd member List.not_mem_nil
  exact ⟨start, final, atSend, sent, discovered, ran, hisptr, ranBefore, built, second, foreign 80 (by decide)⟩

end HistoryOp

end Utiputils.Tracepath
