import Utiputils.Lib.Proc
import Utiputils.Tracepath.Probe

/-! # The IPv6 trace

`tracepath_run_udp_ipv6` from the point where its socket is open, as a process. What the kernel, the
clock and the user do is in the streams of the world, one answer for each call; the log records the
probes, the credited messages and the printed lines in their order. -/

namespace Utiputils.Tracepath

open Utiputils.Lib Utiputils.Pnet Proc

/-! ## The world -/

inductive Place where
  | discovery
  | drain
  | afterSend
  | wait
  deriving DecidableEq, Repr

inductive Event where
  /-- the large probe of the discovery, with TTL 1 -/
  | discovery (port : UInt16)
  /-- a `send_to` of the loop, and whether it succeeded -/
  | probe (port : UInt16) (ttl : UInt8) (payloadLen : Nat) (sent : Bool)
  /-- a dequeued message, the TTL it was credited to, and the current one -/
  | credited (place : Place) (message : Message) (ttl current : UInt8)
  | printed (line : Line)
  deriving DecidableEq, Repr

structure World where
  runState : RunState
  /-- `ttl_responses`, to which entries `true` are added only -/
  ttlResponses : UInt8 → Bool := fun _ => false
  log : List Event := []
  pmtuAnswers : PmtuAnswers
  sendAnswers : Stream' SendAnswers
  queueAnswers : Stream' QueueAnswer
  /-- the tests of `start_wait.elapsed() < timeout` -/
  withinTimeout : Stream' Bool
  isRunning : Stream' Bool

namespace World

def record (world : World) (events : List Event) : World := { world with log := world.log ++ events }

def setTtl (world : World) (ttl : UInt8) : World := { world with runState := world.runState.setTtl ttl }

/-- The effect of a handled message. -/
def handle (world : World) (place : Place) (message : Message) (handled : Handled) : World :=
  { world with
    runState := handled.state
    ttlResponses :=
      if handled.marked then Function.update world.ttlResponses handled.credit true else world.ttlResponses
    log := world.log ++
      .credited place message handled.credit world.runState.ttl :: handled.lines.map .printed }

/-- The log entries that a sender leaves behind its probe. -/
def creditEvents {Result : Type} (sent : Sent Result) (place : Place) : List Event :=
  (sent.credit.map fun credit => Event.credited place credit.1 credit.2 sent.state.ttl).toList ++
    sent.lines.map .printed

def afterDiscovery (world : World) (sent : Sent UInt32) : World :=
  { world with
    runState := sent.state
    log := world.log ++ .discovery sent.destPort :: creditEvents sent .discovery }

def afterSend (world : World) (sent : Sent (Except String (Option ResponseType))) : World :=
  { world with
    runState := sent.state
    sendAnswers := world.sendAnswers.tail
    log := world.log ++
      .probe sent.destPort world.runState.ttl sent.payloadLen sent.result.isOk :: creditEvents sent .afterSend }

end World

def print (line : Line) : Proc World Unit := modify (·.record [.printed line])

def receiveErrorMessageWithPort : Proc World QueueAnswer :=
  modifyGet fun world => (world.queueAnswers.head, { world with queueAnswers := world.queueAnswers.tail })

def startWaitWithinTimeout : Proc World Bool :=
  modifyGet fun world => (world.withinTimeout.head, { world with withinTimeout := world.withinTimeout.tail })

def isRunning : Proc World Bool :=
  modifyGet fun world => (world.isRunning.head, { world with isRunning := world.isRunning.tail })

/-- `*ttl_responses.get(&ttl).unwrap_or(&false)` for the current TTL. -/
def hasResponse : Proc World Bool := modifyGet fun world => (world.ttlResponses world.runState.ttl, world)

section

variable (tpConfig : TracepathConfig) (fuel : Nat)

/-! ## The discovery and the drain -/

def discover : Proc World Unit := do
  let world ← get
  match performPmtuDiscovery world.pmtuAnswers world.runState with
  | none => stop
  | some sent => modify (·.afterDiscovery sent)

/-- Handles a message at one of the two places that have a loop. -/
def handleMessage (place : Place) (message : Message) (handler : RunState → Handled) : Proc World Handled := do
  let world ← get
  let handled := handler world.runState
  modify (·.handle place message handled)
  pure handled

/-- One turn of the drain; it tells whether the trace ends. -/
def drainStep (_ : Unit) : Proc World (Turn Unit Bool) := do
  match ← receiveErrorMessageWithPort with
  | .ok (some message) =>
    let handled ← handleMessage .drain message (drainMessage tpConfig message)
    match handled.response with
    | some .reached | some .unreachable => pure (.exit true)
    | some .timeExceeded | none => pure (.next ())
  | .ok none | .error _ => pure (.exit false)

def drain : Proc World Bool := forever (drainStep tpConfig) fuel ()

/-! ## A probe and the wait for its answer -/

def sendProbe : Proc World (Except String (Option ResponseType)) := do
  let world ← get
  match sendUdpProbeIpv6 tpConfig world.sendAnswers.head world.runState with
  | none => stop
  | some sent =>
    modify (·.afterSend sent)
    pure sent.result

/-- `found_current_ttl_response` and `terminal_response`. -/
structure WaitFlags where
  foundCurrentTtlResponse : Bool := false
  terminalResponse : Option ResponseType := none

def WaitFlags.update (flags : WaitFlags) (handled : Handled) (ttl : UInt8) : WaitFlags where
  foundCurrentTtlResponse := flags.foundCurrentTtlResponse || (handled.response.isSome && handled.credit == ttl)
  terminalResponse := match handled.response with
    | some .reached => some .reached
    | some .unreachable => some .unreachable
    | some .timeExceeded | none => flags.terminalResponse

/-- One turn of the inner loop. A local error returns at once if there is a terminal response, and the
code behind the loop returns the same. -/
def waitStep (flags : WaitFlags) : Proc World (Turn WaitFlags WaitFlags) := do
  match ← receiveErrorMessageWithPort with
  | .ok (some message) =>
    let handled ← handleMessage .wait message (waitMessage tpConfig message)
    let world ← get
    let flags := flags.update handled world.runState.ttl
    if message.errorInfo.origin = SO_EE_ORIGIN_LOCAL ∧ flags.terminalResponse.isSome then
      pure (.exit flags)
    else pure (.next flags)
  | .ok none | .error _ => pure (.exit flags)

/-- One turn of the outer loop. -/
def receiveStep (_ : Unit) : Proc World (Turn Unit (Except String (Option ResponseType))) := do
  if ← startWaitWithinTimeout then
    if ← isRunning then
      let flags ← forever (waitStep tpConfig) fuel {}
      match flags.terminalResponse with
      | some response => pure (.exit (.ok (some response)))
      | none =>
        if flags.foundCurrentTtlResponse then pure (.exit (.ok (some .timeExceeded)))
        else if ← hasResponse then pure (.exit (.ok none))
        else pure (.next ())
    else
      -- `request_exit`
      print .blank
      stop
  else pure (.exit (.error "No response received within timeout"))

def receiveErrorQueueWithDelayedResponse : Proc World (Except String (Option ResponseType)) :=
  forever (receiveStep tpConfig fuel) fuel ()

/-! ## The loops over attempts and TTLs -/

/-- How the attempts for one TTL end before their number is used up: with a response, or with the
trace. -/
inductive AttemptEnd where
  | found
  | returned
  deriving DecidableEq

def endedBy (response : ResponseType) : Proc World (Turn Unit AttemptEnd) :=
  match response with
  | .reached => pure (.exit .returned)
  | .timeExceeded => pure (.exit .found)
  | .unreachable => do
    let world ← get
    print (printResume tpConfig world.runState)
    pure (.exit .returned)

def attempt : Proc World (Turn Unit AttemptEnd) := do
  if ← drain tpConfig fuel then pure (.exit .returned)
  else
    match ← sendProbe tpConfig with
    | .ok (some response) => endedBy tpConfig response
    | .ok none =>
      match ← receiveErrorQueueWithDelayedResponse tpConfig fuel with
      | .ok (some response) => endedBy tpConfig response
      | .ok none | .error _ =>
        if ← hasResponse then pure (.exit .found)
        else pure (.next ())
    | .error _ => pure (.next ())

/-- The body of the loop over TTLs; the trace may end in it. -/
def traceTtl (ttl : Nat) : Proc World (Turn Unit Unit) := do
  modify (·.setTtl (UInt8.ofNat ttl))
  match ← forRange (fun _ _ => attempt tpConfig fuel) 0 3 () with
  | .exit .returned => pure (.exit ())
  | .exit .found => pure (.next ())
  | .next () =>
    if ← hasResponse then pure (.next ())
    else
      print (.noReply (UInt8.ofNat ttl))
      pure (.next ())

def tracepathRunUdpIpv6 : Proc World Unit := do
  discover
  match ← forRange (fun ttl _ => traceTtl tpConfig fuel ttl) 1 tpConfig.getHops.toNat () with
  | .exit () => pure ()
  | .next () => print .tooManyHops

end

/-- The world in which a trace of a target starts. -/
def World.start (tpConfig : TracepathConfig) (target : IpAddr) (pmtuAnswers : PmtuAnswers)
    (sendAnswers : Stream' SendAnswers) (queueAnswers : Stream' QueueAnswer)
    (withinTimeout isRunning : Stream' Bool) : World :=
  { runState := { target, basePort := tpConfig.getPort }
    pmtuAnswers, sendAnswers, queueAnswers, withinTimeout, isRunning }

/-- The configuration of a short trace. -/
def twoHops : TracepathConfig := { hops := some 2 }

/-! ## What the accesses to the world do -/

section

variable {tpConfig : TracepathConfig} {pre stopped : World → Prop}

theorem triple_handleMessage (place : Place) (message : Message) (handler : RunState → Handled) :
    Triple pre (handleMessage place message handler)
      (fun handled next => ∃ world, pre world ∧ handled = handler world.runState ∧
        next = world.handle place message handled) stopped :=
  fun world holds => ⟨world, holds, rfl, rfl⟩

theorem triple_hasResponse : Triple pre hasResponse
    (fun answered world => pre world ∧ answered = world.ttlResponses world.runState.ttl) stopped :=
  fun _ holds => ⟨holds, rfl⟩

theorem triple_discover (cut : ∀ world, pre world → stopped world) :
    Triple pre discover
      (fun _ next => ∃ world sent, pre world ∧
        performPmtuDiscovery world.pmtuAnswers world.runState = some sent ∧ next = world.afterDiscovery sent)
      stopped := by
  refine triple_get_bind fun world holds => ?_
  cases discovered : performPmtuDiscovery world.pmtuAnswers world.runState with
  | none => exact triple_stop fun _ same => same ▸ cut world holds
  | some sent => exact triple_modify fun _ same => ⟨world, sent, holds, discovered, by rw [same]⟩

theorem triple_sendProbe (cut : ∀ world, pre world → stopped world) :
    Triple pre (sendProbe tpConfig)
      (fun result next => ∃ world sent, pre world ∧
        sendUdpProbeIpv6 tpConfig world.sendAnswers.head world.runState = some sent ∧
        result = sent.result ∧ next = world.afterSend sent) stopped := by
  refine triple_get_bind fun world holds => ?_
  cases built : sendUdpProbeIpv6 tpConfig world.sendAnswers.head world.runState with
  | none => exact triple_stop fun _ same => same ▸ cut world holds
  | some sent =>
    refine triple_bind (triple_modify fun _ same => ?_) fun _ => triple_pure fun _ reached => reached
    exact ⟨world, sent, holds, built, rfl, by rw [same]⟩

end

/-! ## What every step keeps, a run keeps -/

/-- An invariant that each access to the world keeps. -/
structure World.Kept (tpConfig : TracepathConfig) (invariant : World → Prop) : Prop where
  discovery : ∀ world sent, invariant world →
    performPmtuDiscovery world.pmtuAnswers world.runState = some sent → invariant (world.afterDiscovery sent)
  send : ∀ world sent, invariant world →
    sendUdpProbeIpv6 tpConfig world.sendAnswers.head world.runState = some sent →
      invariant (world.afterSend sent)
  drain : ∀ world message, invariant world →
    invariant (world.handle .drain message (drainMessage tpConfig message world.runState))
  wait : ∀ world message, invariant world →
    invariant (world.handle .wait message (waitMessage tpConfig message world.runState))
  print : ∀ world line, invariant world → invariant (world.record [.printed line])
  setTtl : ∀ world ttl, 0 < ttl → invariant world → invariant (world.setTtl ttl)
  queue : ∀ world answers, invariant world → invariant { world with queueAnswers := answers }
  timeout : ∀ world answers, invariant world → invariant { world with withinTimeout := answers }
  running : ∀ world answers, invariant world → invariant { world with isRunning := answers }

section

variable {tpConfig : TracepathConfig} {invariant : World → Prop} (kept : World.Kept tpConfig invariant)
include kept

theorem keeps_receiveErrorMessageWithPort : Keeps invariant receiveErrorMessageWithPort :=
  keeps_modifyGet fun world holds => kept.queue world _ holds

theorem keeps_print (line : Line) : Keeps invariant (print line) :=
  keeps_modify fun world holds => kept.print world line holds

omit kept in
theorem keeps_hasResponse : Keeps invariant hasResponse := keeps_modifyGet fun _ holds => holds

omit kept in
theorem keeps_handleMessage (place : Place) (message : Message) (handler : RunState → Handled)
    (step : ∀ world, invariant world → invariant (world.handle place message (handler world.runState))) :
    Keeps invariant (handleMessage place message handler) := by
  refine triple_conseq (triple_handleMessage place message handler) (fun _ holds => holds) ?_
  rintro _ _ ⟨world, holds, rfl, rfl⟩
  exact step world holds

theorem keeps_discover : Keeps invariant discover := by
  refine triple_conseq (triple_discover fun _ holds => holds) (fun _ holds => holds) ?_
  rintro _ _ ⟨world, sent, holds, discovered, rfl⟩
  exact kept.discovery world sent holds discovered

theorem keeps_drain (fuel : Nat) : Keeps invariant (drain tpConfig fuel) := by
  refine keeps_forever (fun _ => keeps_bind (keeps_receiveErrorMessageWithPort kept) fun answer => ?_) fuel ()
  rcases answer with _ | _ | message
  · exact keeps_pure
  · exact keeps_pure
  · refine keeps_bind (keeps_handleMessage .drain message _ fun world => kept.drain world message)
      fun handled => ?_
    rcases handled.response with _ | _ | _ | _ <;> exact keeps_pure

theorem keeps_sendProbe : Keeps invariant (sendProbe tpConfig) := by
  refine triple_conseq (triple_sendProbe fun _ holds => holds) (fun _ holds => holds) ?_
  rintro _ _ ⟨world, sent, holds, built, -, rfl⟩
  exact kept.send world sent holds built

theorem keeps_waitStep (flags : WaitFlags) : Keeps invariant (waitStep tpConfig flags) := by
  refine keeps_bind (keeps_receiveErrorMessageWithPort kept) fun answer => ?_
  rcases answer with _ | _ | message
  · exact keeps_pure
  · exact keeps_pure
  · refine keeps_bind (keeps_handleMessage .wait message _ fun world => kept.wait world message)
      fun handled => keeps_get_bind fun seen => ?_
    simp only
    split_ifs <;> exact keeps_pure

theorem keeps_receiveErrorQueue (fuel : Nat) :
    Keeps invariant (receiveErrorQueueWithDelayedResponse tpConfig fuel) := by
  refine keeps_forever (fun _ => keeps_bind ?_ fun waiting => ?_) fuel ()
  · exact keeps_modifyGet fun world holds => kept.timeout world _ holds
  cases waiting with
  | false => exact keeps_pure
  | true =>
    refine keeps_bind (keeps_modifyGet fun world holds => kept.running world _ holds) fun running => ?_
    cases running with
    | false => exact keeps_bind (keeps_print kept .blank) fun _ => keeps_stop
    | true =>
      refine keeps_bind (keeps_forever (keeps_waitStep kept) fuel {}) fun flags => ?_
      cases flags.terminalResponse with
      | some response => exact keeps_pure
      | none =>
        simp only
        split_ifs
        · exact keeps_pure
        · refine keeps_bind keeps_hasResponse fun answered => ?_
          cases answered <;> exact keeps_pure

theorem keeps_endedBy (response : ResponseType) : Keeps invariant (endedBy tpConfig response) := by
  cases response with
  | reached => exact keeps_pure
  | timeExceeded => exact keeps_pure
  | unreachable => exact keeps_get_bind fun seen => keeps_bind (keeps_print kept _) fun _ => keeps_pure

theorem keeps_attempt (fuel : Nat) : Keeps invariant (attempt tpConfig fuel) := by
  have answered : Keeps invariant (do
      if ← hasResponse then pure (.exit .found) else pure (.next ()) : Proc World (Turn Unit AttemptEnd)) := by
    refine keeps_bind keeps_hasResponse fun answered => ?_
    cases answered <;> exact keeps_pure
  refine keeps_bind (keeps_drain kept fuel) fun ended => ?_
  cases ended with
  | true => exact keeps_pure
  | false =>
    refine keeps_bind (keeps_sendProbe kept) fun sent => ?_
    rcases sent with _ | _ | response
    · exact keeps_pure
    · refine keeps_bind (keeps_receiveErrorQueue kept fuel) fun received => ?_
      rcases received with _ | _ | response
      · exact answered
      · exact answered
      · exact keeps_endedBy kept response
    · exact keeps_endedBy kept response

theorem keeps_traceTtl (fuel ttl : Nat) (positive : 0 < UInt8.ofNat ttl) :
    Keeps invariant (traceTtl tpConfig fuel ttl) := by
  refine keeps_bind (keeps_modify fun world => kept.setTtl world _ positive) fun _ => ?_
  refine keeps_bind (keeps_forRange (fun _ _ _ _ => keeps_attempt kept fuel) ()) fun turn => ?_
  rcases turn with _ | _ | _
  · refine keeps_bind keeps_hasResponse fun answered => ?_
    cases answered with
    | true => exact keeps_pure
    | false => exact keeps_bind (keeps_print kept _) fun _ => keeps_pure
  · exact keeps_pure
  · exact keeps_pure

/-- The run lemma. The TTLs of the loop are positive because they do not exceed the `u8` bound. -/
theorem keeps_tracepathRunUdpIpv6 (fuel : Nat) : Keeps invariant (tracepathRunUdpIpv6 tpConfig fuel) := by
  refine keeps_bind (keeps_discover kept) fun _ => ?_
  refine keeps_bind (keeps_forRange (fun ttl _ first last => keeps_traceTtl kept fuel ttl ?_) ()) fun turn => ?_
  · have bound := tpConfig.getHops.toNat_lt
    rw [UInt8.lt_iff_toNat_lt, UInt8.toNat_ofNat', UInt8.toNat_zero]
    omega
  · cases turn with
    | exit => exact keeps_pure
    | next => exact keeps_print kept _

end

end Utiputils.Tracepath
