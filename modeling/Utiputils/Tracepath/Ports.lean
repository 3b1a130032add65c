import Utiputils.Tracepath.IcmpPorts

/-! # The probes of the IPv6 trace, and the ports of both

The IPv6 trace computes its ports as the IPv4 trace does, but for the discovery, which sends from the first slot and
leaves the pointer there. -/

namespace Utiputils.Tracepath

open Utiputils.Lib Utiputils.Pnet Proc


def Event.computed : Event → Option Computed
  | .probe port _ payloadLen sent => some ⟨port, payloadLen, sent⟩
  | .discovery _ | .credited .. | .printed _ => none

def Event.discovered : Event → Option UInt16
  | .discovery port => some port
  | .probe .. | .credited .. | .printed _ => none

/-- The probes of a log, and the ports of its discovery. -/
def World.ring (world : World) : Ring :=
  ⟨world.runState.basePort, world.runState.hisptr, world.log.filterMap Event.computed⟩

def World.view (world : World) : Ring × List UInt16 := (world.ring, world.log.filterMap Event.discovered)

section

variable {tpConfig : TracepathConfig}

/-- Such entries are neither probes nor discoveries. -/
theorem World.view_append {world next : World} {more : List Event}
    (other : ∀ event ∈ more, event.computed = none ∧ event.discovered = none) (log : next.log = world.log ++ more)
    (basePort : next.runState.basePort = world.runState.basePort)
    (hisptr : next.runState.hisptr = world.runState.hisptr) : next.view = world.view := by
  have noProbe := List.filterMap_eq_nil_iff.mpr fun event member => (other event member).1
  have noDiscovery := List.filterMap_eq_nil_iff.mpr fun event member => (other event member).2
  simp only [World.view, World.ring, basePort, hisptr, log, List.filterMap_append, noProbe, noDiscovery, List.append_nil]

theorem printed_other (lines : List Line) :
    ∀ event ∈ lines.map Event.printed, event.computed = none ∧ event.discovered = none :=
  List.forall_mem_map.mpr fun _ _ => ⟨rfl, rfl⟩

theorem creditEvents_other {Result : Type} (sent : Sent Result) (place : Place) :
    ∀ event ∈ World.creditEvents sent place, event.computed = none ∧ event.discovered = none := by
  intro event member
  obtain credited | printed := List.mem_append.mp member
  · rw [Option.mem_toList] at credited
    obtain ⟨credit, -, rfl⟩ := Option.map_eq_some_iff.mp credited
    exact ⟨rfl, rfl⟩
  · exact printed_other sent.lines event printed

/-- A send, whatever the queue brings at once. -/
theorem recordProbe_ring {runState state : RunState} {sendTime : Instant}
    (recorded : recordProbe runState sendTime = some state) :
    state.basePort = runState.basePort ∧ state.hisptr = (runState.hisptr + 1) % HIS_ARRAY_SIZE := by
  have wrap : (runState.hisptr + 1) &&& (HIS_ARRAY_SIZE - 1) = (runState.hisptr + 1) % HIS_ARRAY_SIZE :=
    Nat.and_two_pow_sub_one_eq_mod _ 6
  simp only [recordProbe] at recorded
  split at recorded
  · cases recorded
    exact ⟨rfl, wrap⟩
  · cases recorded

/-- What a probe takes from the ring, and what it does to it: only a sent one moves the pointer. -/
theorem sendUdpProbeIpv6_ring {answers : SendAnswers} {runState : RunState}
    {sent : Sent (Except String (Option ResponseType))} (built : sendUdpProbeIpv6 tpConfig answers runState = some sent) :
    sent.destPort = runState.basePort + UInt16.ofNat runState.hisptr ∧
      sent.payloadLen = (tpConfig.getLength - 48).toNat ∧ sent.state.basePort = runState.basePort ∧
      sent.result.isOk = answers.sent.isOk ∧
      sent.state.hisptr = if answers.sent.isOk then (runState.hisptr + 1) % HIS_ARRAY_SIZE else runState.hisptr := by
  obtain ⟨answer, immediate⟩ := answers
  cases answer with
  | error message =>
    cases built
    exact ⟨rfl, rfl, rfl, rfl, rfl⟩
  | ok sendTime =>
    cases recorded : recordProbe runState sendTime with
    | none => simp [sendUdpProbeIpv6, recorded] at built
    | some state =>
      obtain ⟨basePort, hisptr⟩ := recordProbe_ring recorded
      simp only [sendUdpProbeIpv6, recorded] at built
      -- the message that may be dequeued at once leaves the ring alone
      rcases immediate with _ | _ | message
      · cases built
        exact ⟨rfl, rfl, basePort, rfl, hisptr⟩
      · cases built
        exact ⟨rfl, rfl, basePort, rfl, hisptr⟩
      · obtain ⟨-, sameHisptr, sameBasePort, -⟩ := afterSendMessage_frame tpConfig message state
        cases built
        exact ⟨rfl, rfl, sameBasePort.trans basePort, rfl, sameHisptr.trans hisptr⟩

theorem view_afterSend {world : World} {sent : Sent (Except String (Option ResponseType))}
    (built : sendUdpProbeIpv6 tpConfig world.sendAnswers.head world.runState = some sent) :
    (world.afterSend sent).view =
      (world.ring.send (tpConfig.getLength - 48).toNat world.sendAnswers.head.sent.isOk, world.view.2) := by
  obtain ⟨destPort, payloadLen, basePort, isOk, hisptr⟩ := sendUdpProbeIpv6_ring built
  have noProbe := List.filterMap_eq_nil_iff.mpr fun event member => (creditEvents_other sent .afterSend event member).1
  have noDiscovery := List.filterMap_eq_nil_iff.mpr fun event member =>
    (creditEvents_other sent .afterSend event member).2
  have probes : (world.afterSend sent).log.filterMap Event.computed = world.log.filterMap Event.computed ++
      [⟨sent.destPort, sent.payloadLen, sent.result.isOk⟩] := by
    rw [World.afterSend, List.filterMap_append, List.filterMap_cons, noProbe]
    rfl
  have discoveries : (world.afterSend sent).log.filterMap Event.discovered = world.log.filterMap Event.discovered := by
    rw [World.afterSend, List.filterMap_append, List.filterMap_cons_none rfl, noDiscovery, List.append_nil]
  rw [destPort, payloadLen, isOk] at probes
  show ((⟨sent.state.basePort, sent.state.hisptr, _⟩ : Ring), _) = _
  rw [probes, discoveries, basePort, hisptr]
  rfl

theorem findSendHistoryByPort_ring (runState : RunState) (port : UInt16) (recvTime : Instant) :
    (findSendHistoryByPort runState port recvTime).2.basePort = runState.basePort ∧
      (findSendHistoryByPort runState port recvTime).2.hisptr = runState.hisptr := by
  obtain ⟨history, same⟩ := findSendHistoryByPort_frame runState port recvTime
  rw [same]
  exact ⟨rfl, rfl⟩

/-- The discovery takes its port from the ring, and leaves the ring alone. -/
theorem performPmtuDiscovery_ring {answers : PmtuAnswers} {runState : RunState} {sent : Sent UInt32}
    (discovered : performPmtuDiscovery answers runState = some sent) :
    sent.destPort = runState.basePort + UInt16.ofNat runState.hisptr ∧
      sent.state.basePort = runState.basePort ∧ sent.state.hisptr = runState.hisptr := by
  simp only [performPmtuDiscovery] at discovered
  split at discovered
  · split at discovered
    · cases discovered
      exact ⟨rfl, rfl, rfl⟩
    · split at discovered
      · split at discovered <;> cases discovered <;> exact ⟨rfl, findSendHistoryByPort_ring _ _ _⟩
      · cases discovered
        exact ⟨rfl, rfl, rfl⟩
      · cases discovered
        exact ⟨rfl, rfl, rfl⟩
  · cases discovered

theorem view_afterDiscovery {world : World} {sent : Sent UInt32}
    (discovered : performPmtuDiscovery world.pmtuAnswers world.runState = some sent) :
    (world.afterDiscovery sent).view =
      (world.ring, world.view.2 ++ [world.runState.basePort + UInt16.ofNat world.runState.hisptr]) := by
  obtain ⟨destPort, basePort, hisptr⟩ := performPmtuDiscovery_ring discovered
  have noProbe := List.filterMap_eq_nil_iff.mpr fun event member => (creditEvents_other sent .discovery event member).1
  have noDiscovery := List.filterMap_eq_nil_iff.mpr fun event member =>
    (creditEvents_other sent .discovery event member).2
  have probes : (world.afterDiscovery sent).log.filterMap Event.computed = world.log.filterMap Event.computed := by
    rw [World.afterDiscovery, List.filterMap_append, List.filterMap_cons_none rfl, noProbe, List.append_nil]
  have discoveries : (world.afterDiscovery sent).log.filterMap Event.discovered =
      world.log.filterMap Event.discovered ++ [sent.destPort] := by
    rw [World.afterDiscovery, List.filterMap_append, List.filterMap_cons, noDiscovery]
    rfl
  show ((⟨sent.state.basePort, sent.state.hisptr, _⟩ : Ring), _) = _
  rw [probes, discoveries, basePort, hisptr, destPort]
  rfl

theorem leaves_handleMessage (place : Place) (message : Message) (handler : RunState → Handled)
    (frame : ∀ runState, (handler runState).state.basePort = runState.basePort ∧
      (handler runState).state.hisptr = runState.hisptr) :
    Leaves World.view (handleMessage place message handler) := by
  intro world
  obtain ⟨basePort, hisptr⟩ := frame world.runState
  refine World.view_append (List.forall_mem_cons.mpr ⟨⟨rfl, rfl⟩, printed_other _⟩) rfl basePort hisptr

theorem view_record (world : World) (line : Line) : (world.record [.printed line]).view = world.view :=
  World.view_append (printed_other [line]) rfl rfl rfl

theorem leaves_print (line : Line) : Leaves World.view (print line) := leaves_modify fun world => view_record world line

theorem leaves_hasResponse : Leaves World.view hasResponse := leaves_modifyGet fun _ => rfl

theorem leaves_drain (fuel : Nat) : Leaves World.view (drain tpConfig fuel) := by
  refine leaves_forever (fun _ => leaves_bind (leaves_modifyGet fun _ => rfl) fun answer => ?_) fuel ()
  rcases answer with _ | _ | message
  · exact leaves_pure
  · exact leaves_pure
  · have frame : ∀ runState, (drainMessage tpConfig message runState).state.basePort = runState.basePort ∧
        (drainMessage tpConfig message runState).state.hisptr = runState.hisptr := by
      intro runState
      rw [drainMessage_state]
      exact findSendHistoryByPort_ring runState message.receivedPort message.recvTime
    refine leaves_bind (leaves_handleMessage .drain message _ frame) fun handled => ?_
    rcases handled.response with _ | _ | _ | _ <;> exact leaves_pure

theorem leaves_waitStep (flags : WaitFlags) : Leaves World.view (waitStep tpConfig flags) := by
  refine leaves_bind (leaves_modifyGet fun _ => rfl) fun answer => ?_
  rcases answer with _ | _ | message
  · exact leaves_pure
  · exact leaves_pure
  · have frame : ∀ runState, (waitMessage tpConfig message runState).state.basePort = runState.basePort ∧
        (waitMessage tpConfig message runState).state.hisptr = runState.hisptr := by
      intro runState
      obtain ⟨-, hisptr, basePort, -⟩ := waitMessage_frame tpConfig message runState
      exact ⟨basePort, hisptr⟩
    refine leaves_bind (leaves_handleMessage .wait message _ frame) fun handled => leaves_get_bind fun seen => ?_
    simp only
    split_ifs <;> exact leaves_pure

theorem leaves_receiveErrorQueue (fuel : Nat) :
    Leaves World.view (receiveErrorQueueWithDelayedResponse tpConfig fuel) := by
  refine leaves_forever (fun _ => leaves_bind (leaves_modifyGet fun _ => rfl) fun waiting => ?_) fuel ()
  cases waiting with
  | false => exact leaves_pure
  | true =>
    refine leaves_bind (leaves_modifyGet fun _ => rfl) fun running => ?_
    cases running with
    | false => exact leaves_bind (leaves_print .blank) fun _ => leaves_stop
    | true =>
      refine leaves_bind (leaves_forever leaves_waitStep fuel {}) fun flags => ?_
      cases flags.terminalResponse with
      | some response => exact leaves_pure
      | none =>
        simp only
        split_ifs
        · exact leaves_pure
        · refine leaves_bind leaves_hasResponse fun answered => ?_
          cases answered <;> exact leaves_pure

theorem leaves_endedBy (response : ResponseType) : Leaves World.view (endedBy tpConfig response) := by
  cases response with
  | reached => exact leaves_pure
  | timeExceeded => exact leaves_pure
  | unreachable => exact leaves_get_bind fun _ => leaves_bind (leaves_print _) fun _ => leaves_pure

/-! ## How many probes there are -/

variable {fuel most : Nat}

/-- So many probes at most have been computed, and the discovery went to the base port. -/
def CountedView (tpConfig : TracepathConfig) (most : Nat) (view : Ring × List UInt16) : Prop :=
  view.1.Counts tpConfig.getPort (tpConfig.getLength - 48).toNat most ∧ ∀ port ∈ view.2, port = tpConfig.getPort

def Counted (tpConfig : TracepathConfig) (most : Nat) (world : World) : Prop := CountedView tpConfig most world.view

theorem Counted.mono {more : Nat} {world : World} (counted : Counted tpConfig most world) (below : most ≤ more) :
    Counted tpConfig more world :=
  ⟨counted.1.mono below, counted.2⟩

theorem triple_sendProbe_counted {total : Nat} (inside : most < total) :
    Triple (Counted tpConfig most) (sendProbe tpConfig) (fun _ => Counted tpConfig (most + 1))
      (Counted tpConfig total) := by
  refine triple_conseq (triple_sendProbe fun _ counted => counted.mono inside.le) (fun _ counted => counted) ?_
  intro result next reached
  obtain ⟨world, sent, counted, built, -, rfl⟩ := reached
  rw [Counted, view_afterSend built]
  exact ⟨counted.1.send _, counted.2⟩

theorem triple_attempt_counted {total : Nat} (inside : most < total) :
    Triple (Counted tpConfig most) (attempt tpConfig fuel) (fun _ => Counted tpConfig (most + 1))
      (Counted tpConfig total) := by
  have keeps {α : Type} {process : Proc World α} (leaves : Leaves World.view process) :
      Triple (Counted tpConfig (most + 1)) process (fun _ => Counted tpConfig (most + 1)) (Counted tpConfig total) :=
    triple_stopped (leaves.triple (CountedView tpConfig (most + 1))) fun _ counted => Counted.mono counted inside
  -- only the probe enters the ring; the rest of the attempt leaves what it shows
  have answered : Triple (Counted tpConfig (most + 1)) (do
      if ← hasResponse then pure (.exit .found) else pure (.next ()) : Proc World (Turn Unit AttemptEnd))
      (fun _ => Counted tpConfig (most + 1)) (Counted tpConfig total) := by
    refine triple_bind (keeps leaves_hasResponse) fun answered => ?_
    cases answered <;> exact triple_pure fun _ counted => counted
  have drained : Triple (Counted tpConfig most) (drain tpConfig fuel) (fun _ => Counted tpConfig most)
      (Counted tpConfig total) :=
    triple_stopped ((leaves_drain fuel).triple (CountedView tpConfig most)) fun _ counted =>
      Counted.mono counted inside.le
  refine triple_bind drained fun ended => ?_
  cases ended with
  | true => exact triple_pure fun _ counted => Counted.mono counted (Nat.le_succ most)
  | false =>
    refine triple_bind (triple_sendProbe_counted inside) fun sent => ?_
    rcases sent with _ | _ | response
    · exact triple_pure fun _ counted => counted
    · refine triple_bind (keeps (leaves_receiveErrorQueue fuel)) fun received => ?_
      rcases received with _ | _ | response
      · exact answered
      · exact answered
      · exact keeps (leaves_endedBy response)
    · exact keeps (leaves_endedBy response)

theorem triple_traceTtl_counted {total ttl : Nat} (first : 1 ≤ ttl) (inside : 3 * ttl ≤ total) :
    Triple (Counted tpConfig (3 * (ttl - 1))) (traceTtl tpConfig fuel ttl)
      (Turn.post (fun _ => Counted tpConfig (3 * ttl)) fun _ => Counted tpConfig total) (Counted tpConfig total) := by
  have started : Triple (Counted tpConfig (3 * (ttl - 1))) (modify (·.setTtl (UInt8.ofNat ttl)))
      (fun _ => Counted tpConfig (3 * (ttl - 1))) (Counted tpConfig total) := triple_modify fun _ counted => counted
  have attempts := @triple_forRange_counted World AttemptEnd (Counted tpConfig) total (3 * (ttl - 1)) 3 _
    (fun _ _ _ below counted => counted.mono below) (fun _ below => @triple_attempt_counted _ fuel _ _ below) (by omega)
  rw [show 3 * (ttl - 1) + 3 = 3 * ttl by omega] at attempts
  have keeps {α : Type} {process : Proc World α} (leaves : Leaves World.view process) :
      Triple (Counted tpConfig (3 * ttl)) process (fun _ => Counted tpConfig (3 * ttl)) (Counted tpConfig total) :=
    triple_stopped (leaves.triple (CountedView tpConfig (3 * ttl))) fun _ counted => Counted.mono counted inside
  refine triple_bind started fun _ => triple_bind attempts fun turn => ?_
  rcases turn with _ | _ | _
  · refine triple_bind (keeps leaves_hasResponse) fun answered => ?_
    cases answered with
    | true => exact triple_pure fun _ counted => counted
    | false => exact triple_bind (keeps (leaves_print _)) fun _ => triple_pure fun _ counted => counted
  · exact triple_pure fun _ counted => counted
  · exact triple_pure fun _ counted => counted.mono inside

/-- The discovery sends to the port of the first slot. -/
theorem triple_discover_counted {total : Nat} :
    Triple (fun world => Counted tpConfig 0 world ∧ world.runState.hisptr = 0) discover (fun _ => Counted tpConfig 0)
      (Counted tpConfig total) := by
  refine triple_conseq (triple_discover fun _ start => start.1.mono (Nat.zero_le total)) (fun _ start => start) ?_
  intro _ next reached
  obtain ⟨world, sent, ⟨counted, first⟩, discovered, rfl⟩ := reached
  rw [Counted, view_afterDiscovery discovered]
  refine ⟨counted.1, fun port member => ?_⟩
  obtain earlier | here := List.mem_append.mp member
  · exact counted.2 port earlier
  · rw [List.mem_singleton.mp here, first]
    exact (UInt16.add_zero _).trans counted.1.base

/-- A trace computes three probes for each TTL at most. -/
theorem counted_run (target : IpAddr) (pmtuAnswers : PmtuAnswers) (sendAnswers : Stream' SendAnswers)
    (queueAnswers : Stream' QueueAnswer) (withinTimeout isRunning : Stream' Bool) :
    Counted tpConfig (3 * tpConfig.getHops.toNat) (tracepathRunUdpIpv6 tpConfig fuel
      (.start tpConfig target pmtuAnswers sendAnswers queueAnswers withinTimeout isRunning)).state := by
  have loop := @triple_forRange World Unit Unit (Counted tpConfig (3 * tpConfig.getHops.toNat))
    (fun ttl _ => traceTtl tpConfig fuel ttl) (fun index _ => Counted tpConfig (3 * (index - 1)))
    (fun _ => Counted tpConfig (3 * tpConfig.getHops.toNat)) 1 tpConfig.getHops.toNat (fun index _ first below => ?_) ()
  · rw [Nat.add_sub_cancel_left] at loop
    have run : Triple (fun world => Counted tpConfig 0 world ∧ world.runState.hisptr = 0)
        (tracepathRunUdpIpv6 tpConfig fuel) (fun _ => Counted tpConfig (3 * tpConfig.getHops.toNat))
        (Counted tpConfig (3 * tpConfig.getHops.toNat)) := by
      refine triple_bind triple_discover_counted fun _ => triple_bind loop fun turn => ?_
      cases turn with
      | next => exact (leaves_print _).triple (CountedView tpConfig (3 * tpConfig.getHops.toNat))
      | exit => exact triple_pure fun _ counted => counted
    exact run.state (fun _ _ counted => counted) ⟨⟨Ring.counts_start _ _, List.forall_mem_nil _⟩, rfl⟩
  · exact triple_traceTtl_counted first (by omega)

/-! ## A trace without an answer -/

/-- Nothing goes wrong, and nobody answers. -/
structure Silent (count : Nat) (world : World) : Prop where
  full : world.ring.Full count
  inside : world.runState.hisptr < HIS_ARRAY_SIZE
  ttlResponses : world.ttlResponses = fun _ => false
  sendAnswers : world.sendAnswers = .const ⟨.ok 0, .ok none⟩
  queueAnswers : world.queueAnswers = .const (.ok none)
  withinTimeout : world.withinTimeout = .const false

theorem drain_silent {world : World} (silent : world.queueAnswers = .const (.ok none)) :
    drain tpConfig (fuel + 1) world = .done false { world with queueAnswers := .const (.ok none) } := by
  obtain ⟨runState, ttlResponses, log, pmtuAnswers, sendAnswers, queueAnswers, withinTimeout, isRunning⟩ := world
  subst silent
  rfl

theorem receiveErrorQueue_silent {world : World} (silent : world.withinTimeout = .const false) :
    receiveErrorQueueWithDelayedResponse tpConfig (fuel + 1) world =
      .done (.error "No response received within timeout") { world with withinTimeout := .const false } := by
  obtain ⟨runState, ttlResponses, log, pmtuAnswers, sendAnswers, queueAnswers, withinTimeout, isRunning⟩ := world
  subst silent
  rfl

theorem hasResponse_silent {count : Nat} : Triple (Silent count) hasResponse
    (fun answered world => answered = false ∧ Silent count world) fun _ => False := by
  intro world silent
  exact ⟨congrFun silent.ttlResponses _, silent⟩

theorem sendProbe_silent {count : Nat} : Triple (Silent count) (sendProbe tpConfig)
    (fun result world => result = .ok none ∧ Silent (count + 1) world) fun _ => False := by
  refine triple_get_bind fun world silent => ?_
  -- the send succeeds, and nothing is queued behind it
  have head : world.sendAnswers.head = ⟨.ok 0, .ok none⟩ := by
    rw [silent.sendAnswers]
    rfl
  obtain ⟨sent, built, result⟩ : ∃ sent, sendUdpProbeIpv6 tpConfig world.sendAnswers.head world.runState = some sent ∧
      sent.result = .ok none := by
    rw [head]
    simp [sendUdpProbeIpv6, recordProbe, silent.inside]
  have view := view_afterSend built
  rw [head] at view
  simp only [built]
  refine triple_bind (triple_modify fun _ same => ?_) fun _ => triple_pure fun _ reached => reached
  rw [same]
  have ring : (world.afterSend sent).ring = world.ring.send (tpConfig.getLength - 48).toNat true := congrArg Prod.fst view
  refine ⟨result, ?_, ?_, silent.ttlResponses, ?_, silent.queueAnswers, silent.withinTimeout⟩
  · rw [ring]
    exact silent.full.send _
  · show (world.afterSend sent).ring.hisptr < HIS_ARRAY_SIZE
    rw [ring]
    exact Nat.mod_lt _ (by decide)
  · show world.sendAnswers.tail = _
    rw [silent.sendAnswers]
    rfl

theorem attempt_silent {count : Nat} : Triple (Silent count) (attempt tpConfig (fuel + 1))
    (fun turn world => turn = .next () ∧ Silent (count + 1) world) fun _ => False := by
  have drained : Triple (Silent count) (drain tpConfig (fuel + 1)) (fun ended world => ended = false ∧ Silent count world)
      fun _ => False := by
    intro world silent
    rw [drain_silent silent.queueAnswers]
    exact ⟨rfl, silent.full, silent.inside, silent.ttlResponses, silent.sendAnswers, rfl, silent.withinTimeout⟩
  have waited : Triple (Silent (count + 1)) (receiveErrorQueueWithDelayedResponse tpConfig (fuel + 1))
      (fun result world => (∃ message, result = .error message) ∧ Silent (count + 1) world) fun _ => False := by
    intro world silent
    rw [receiveErrorQueue_silent silent.withinTimeout]
    exact ⟨⟨_, rfl⟩, silent.full, silent.inside, silent.ttlResponses, silent.sendAnswers, silent.queueAnswers, rfl⟩
  refine triple_bind drained fun ended => triple_given fun goesOn => ?_
  subst goesOn
  refine triple_bind sendProbe_silent fun sent => triple_given fun isOk => ?_
  subst isOk
  refine triple_bind waited fun received => triple_given fun failed => ?_
  obtain ⟨message, rfl⟩ := failed
  refine triple_bind hasResponse_silent fun answered => triple_given fun isFalse => ?_
  subst isFalse
  exact triple_pure fun _ silent => ⟨rfl, silent⟩

theorem traceTtl_silent {ttl : Nat} (first : 1 ≤ ttl) :
    Triple (Silent (3 * (ttl - 1))) (traceTtl tpConfig (fuel + 1) ttl)
      (Turn.post (fun _ => Silent (3 * ttl)) fun _ _ => False) fun _ => False := by
  have started : Triple (Silent (3 * (ttl - 1))) (modify (·.setTtl (UInt8.ofNat ttl)))
      (fun _ => Silent (3 * (ttl - 1))) fun _ => False := triple_modify fun _ silent => { silent with }
  have attempts := @triple_forRange World Unit AttemptEnd (fun _ => False)
    (fun _ _ => attempt tpConfig (fuel + 1)) (fun index _ => Silent (3 * (ttl - 1) + index))
    (fun _ _ => False) 0 3 (fun index _ _ _ => triple_conseq attempt_silent (fun _ silent => silent)
      fun turn world ended => by obtain ⟨rfl, silent⟩ := ended; exact silent) ()
  rw [show 3 * (ttl - 1) + (0 + 3) = 3 * ttl by omega] at attempts
  refine triple_bind started fun _ => triple_bind attempts fun turn => ?_
  cases turn with
  | next =>
    refine triple_bind hasResponse_silent fun answered => triple_given fun isFalse => ?_
    subst isFalse
    have printed : Triple (Silent (3 * ttl)) (print (.noReply (UInt8.ofNat ttl))) (fun _ => Silent (3 * ttl))
        fun _ => False := by
      refine triple_modify fun world silent => { silent with full := ?_ }
      rw [show (world.record [.printed (.noReply (UInt8.ofNat ttl))]).ring = world.ring from
        congrArg Prod.fst (view_record world _)]
      exact silent.full
    exact triple_bind printed fun _ => triple_pure fun _ silent => silent
  | exit => exact fun _ never => never.elim

/-- Then all probes of all TTLs go out. -/
theorem full_run_silent (target : IpAddr) :
    (tracepathRunUdpIpv6 tpConfig 1 (.start tpConfig target ⟨0, .ok (), .ok none⟩ (.const ⟨.ok 0, .ok none⟩)
      (.const (.ok none)) (.const false) (.const true))).state.ring.Full (3 * tpConfig.getHops.toNat) := by
  -- each TTL costs three probes, all of them unanswered
  have loop := @triple_forRange World Unit Unit (fun _ => False)
    (fun ttl _ => traceTtl tpConfig 1 ttl) (fun index _ => Silent (3 * (index - 1)))
    (fun _ _ => False) 1 tpConfig.getHops.toNat (fun index _ first _ => traceTtl_silent first) ()
  rw [Nat.add_sub_cancel_left] at loop
  have discovered : Triple (fun world => world = .start tpConfig target ⟨0, .ok (), .ok none⟩
      (.const ⟨.ok 0, .ok none⟩) (.const (.ok none)) (.const false) (.const true)) discover (fun _ => Silent 0)
      fun _ => False := by
    rintro _ rfl
    exact ⟨⟨rfl, List.forall_mem_nil _⟩, Nat.zero_lt_succ 63, rfl, rfl, rfl, rfl⟩
  have run : Triple (fun world => world = .start tpConfig target ⟨0, .ok (), .ok none⟩
      (.const ⟨.ok 0, .ok none⟩) (.const (.ok none)) (.const false) (.const true)) (tracepathRunUdpIpv6 tpConfig 1)
      (fun _ world => world.ring.Full (3 * tpConfig.getHops.toNat))
      fun world => world.ring.Full (3 * tpConfig.getHops.toNat) := by
    refine triple_bind (triple_stopped discovered fun _ never => never.elim) fun _ =>
      triple_bind (triple_stopped loop fun _ never => never.elim) fun turn => ?_
    cases turn with
    | next =>
      refine triple_modify fun world silent => ?_
      rw [show (world.record [.printed .tooManyHops]).ring = world.ring from congrArg Prod.fst (view_record world _)]
      exact silent.full
    | exit => exact fun _ never => never.elim
  exact run.state (fun _ _ full => full) rfl

end

/-! ## Both traces -/

/-- What the arithmetic of an IPv4 trace should be, in every run. -/
def ExactIpv4 (tpConfig : TracepathConfig) : Prop :=
  ∀ (crate : Crate) (fuel : Nat) (target : Ipv4Addr) (sendAnswers : Stream' Icmp.SendAnswers)
    (packets : Stream' (Except String (Option Icmp.Datagram))) (instants : Stream' Instant)
    (withinTimeout isRunning : Stream' Bool),
    Exact tpConfig.getPort 28 tpConfig.getLength.toNat (Icmp.computed (Icmp.tracepathRunIcmpIpv4 crate tpConfig fuel
      (.start tpConfig target sendAnswers packets instants withinTimeout isRunning)).state.log)

/-- And that of an IPv6 trace, whose discovery uses the port of the first slot. -/
def ExactIpv6 (tpConfig : TracepathConfig) : Prop :=
  ∀ (fuel : Nat) (target : IpAddr) (pmtuAnswers : PmtuAnswers) (sendAnswers : Stream' SendAnswers)
    (queueAnswers : Stream' QueueAnswer) (withinTimeout isRunning : Stream' Bool),
    let log := (tracepathRunUdpIpv6 tpConfig fuel
      (.start tpConfig target pmtuAnswers sendAnswers queueAnswers withinTimeout isRunning)).state.log
    Exact tpConfig.getPort 48 tpConfig.getLength.toNat (log.filterMap Event.computed) ∧
      ∀ port, .discovery port ∈ log → port = tpConfig.getPort

theorem portsStay_of_full {tpConfig : TracepathConfig} {headers : Nat} {ring : Ring}
    (full : ring.Full (3 * tpConfig.getHops.toNat))
    (exact : Exact tpConfig.getPort headers tpConfig.getLength.toNat ring.probes) :
    PortsStay tpConfig ∧ headers ≤ tpConfig.getLength.toNat := by
  have hops := tpConfig.getHops_pos
  have some : ring.probes ≠ [] := List.ne_nil_of_length_pos (by rw [full.count]; omega)
  have room := room_of_exact exact full.all some
  rw [full.count] at room
  exact room

theorem exactIpv4_iff (tpConfig : TracepathConfig) : ExactIpv4 tpConfig ↔ PortsStay tpConfig := by
  constructor
  · intro exact
    have full := @Icmp.full_run_silent .rfcs tpConfig ⟨192, 0, 2, 1⟩
    exact (portsStay_of_full full (exact _ _ _ _ _ _ _ _)).1
  · intro stay crate fuel target sendAnswers packets instants withinTimeout isRunning
    have counted := @Icmp.counted_run crate tpConfig fuel target sendAnswers packets instants withinTimeout isRunning
    have long : (28 : UInt32) ≤ tpConfig.getLength := UInt32.le_iff_toNat_le.mpr (by
      have := tpConfig.getLength_ge
      show 28 ≤ _
      omega)
    exact exact_of_follows counted.follows counted.few stay long

theorem exactIpv6_iff (tpConfig : TracepathConfig) :
    ExactIpv6 tpConfig ↔ PortsStay tpConfig ∧ 48 ≤ tpConfig.getLength.toNat := by
  constructor
  · intro exact
    have full := @full_run_silent tpConfig (.v4 ⟨192, 0, 2, 1⟩)
    exact portsStay_of_full full (exact _ _ _ _ _ _ _).1
  · intro holds fuel target pmtuAnswers sendAnswers queueAnswers withinTimeout isRunning
    obtain ⟨stay, long⟩ := holds
    obtain ⟨counted, discoveries⟩ :=
      @counted_run tpConfig fuel target pmtuAnswers sendAnswers queueAnswers withinTimeout isRunning
    refine ⟨exact_of_follows counted.follows counted.few stay (UInt32.le_iff_toNat_le.mpr long), fun port member => ?_⟩
    exact discoveries port (List.mem_filterMap.mpr ⟨_, member, rfl⟩)

/-- The arithmetic of both traces is that of the numbers, in every run, where the ports behind the base port suffice
and, for IPv6, the headers fit into the length. -/
theorem exact_iff (tpConfig : TracepathConfig) :
    (ExactIpv4 tpConfig ↔ PortsStay tpConfig) ∧
      (ExactIpv6 tpConfig ↔ PortsStay tpConfig ∧ 48 ≤ tpConfig.getLength.toNat) :=
  ⟨exactIpv4_iff tpConfig, exactIpv6_iff tpConfig⟩

theorem forall_some {α : Type} {fact : α → Prop} {given : α} (holds : fact given) : ∀ value ∈ some given, fact value :=
  fun _ member => Option.some.inj member ▸ holds

theorem oneHop_pos : ∀ value ∈ some (1 : UInt8), 1 ≤ value.toNat := forall_some (by decide)

theorem fortyBytes_ge : ∀ value ∈ some (40 : Int32), 29 ≤ value.toInt := forall_some (by decide)

def lastPort : TracepathConfig := { twoHops with hops := some 1, port := some 65535, hops_pos := oneHop_pos }

def shortLength : TracepathConfig :=
  { twoHops with length := some 40, hops := some 1, length_ge := fortyBytes_ge, hops_pos := oneHop_pos }

/-- The port behind the last one is zero, and the length of forty bytes makes a payload of four gigabytes. -/
theorem not_exact :
    Icmp.computed (Icmp.tracepathRunIcmpIpv4 .rfcs lastPort 1 (.start lastPort ⟨192, 0, 2, 1⟩
        (.const ⟨.ok 40000, .ok 0, .ok 0⟩) (.const (.ok none)) (.const 0) (.const false) (.const true))).state.log =
        [⟨65535, 1472, true⟩, ⟨0, 1472, true⟩, ⟨1, 1472, true⟩] ∧
      (tracepathRunUdpIpv6 shortLength 1 (.start shortLength (.v6 ⟨Vector.replicate 16 2⟩) ⟨0, .ok (), .ok none⟩
        (.const ⟨.ok 0, .ok none⟩) (.const (.ok none)) (.const false) (.const true))).state.log.filterMap
          Event.computed =
        [⟨44444, 4294967288, true⟩, ⟨44445, 4294967288, true⟩, ⟨44446, 4294967288, true⟩] ∧
      ¬ ExactIpv4 lastPort ∧ ¬ ExactIpv6 lastPort ∧ ¬ ExactIpv6 shortLength := by
  refine ⟨by decide +kernel, by decide +kernel, ?_, ?_, ?_⟩
  · rw [exactIpv4_iff]
    decide
  · rw [exactIpv6_iff]
    exact fun holds => absurd holds.1 (by decide)
  · rw [exactIpv6_iff]
    exact fun holds => absurd holds.2 (by decide)

end Utiputils.Tracepath
