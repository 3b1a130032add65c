import Utiputils.Tracepath.IcmpRun
import Utiputils.Tracepath.Ring

/-! # The probes of the IPv4 trace

Only `send_udp_probe` moves the ring pointer and computes a port. Three times for each TTL at most, and as often as that
if nobody answers. -/

namespace Utiputils.Tracepath.Icmp

open Utiputils.Lib Utiputils.Pnet Proc

def Event.computed : Event → Option Computed
  | .probe computed sent => some ⟨computed.destPort, computed.payloadLen, sent⟩
  | .noSocket _ | .received .. | .reported .. | .returned .. | .printed .. => none

def computed (log : List Event) : List Computed := log.filterMap Event.computed

def World.ring (world : World) : Ring := ⟨world.runState.basePort, world.runState.hisptr, computed world.log⟩

section

variable {crate : Crate} {tpConfig : TracepathConfig}

theorem computed_append {log more : List Event} (none : ∀ event ∈ more, event.computed = none) :
    computed (log ++ more) = computed log := by
  rw [computed, List.filterMap_append, List.filterMap_eq_nil_iff.mpr none, List.append_nil]
  rfl

theorem World.ring_record (world : World) {events : List Event} (none : ∀ event ∈ events, event.computed = none) :
    (world.record events).ring = world.ring :=
  congrArg (Ring.mk _ _) (computed_append none)

/-- A call that has its socket computes a probe. -/
theorem ring_afterSend_of_opened {world : World} {sourcePort : UInt16} (base : world.runState.basePort = tpConfig.getPort)
    (opened : world.sendAnswers.head.opened = .ok sourcePort) :
    (world.afterSend (sendUdpProbe tpConfig world.sendAnswers.head world.runState)).ring =
      world.ring.send (tpConfig.getLength - 28).toNat world.sendAnswers.head.sent.isOk := by
  have wrap : (world.runState.hisptr + 1) &&& (HIS_ARRAY_SIZE - 1) = (world.runState.hisptr + 1) % HIS_ARRAY_SIZE :=
    Nat.and_two_pow_sub_one_eq_mod _ 6
  cases sent : world.sendAnswers.head.sent with
  | error message =>
    simp [World.ring, World.afterSend, sendUdpProbe, opened, sent, computed, Ring.send, base, Sent.event,
      Event.computed, Except.isOk, Except.toBool]
  | ok sendTime =>
    simp only [World.ring, World.afterSend, sendUdpProbe, opened, sent, wrap]
    simp [computed, Ring.send, base, Sent.event, Event.computed, Except.isOk, Except.toBool]

/-- One that has none stops before its arithmetic. -/
theorem ring_afterSend_of_error {world : World} {message : String}
    (failed : world.sendAnswers.head.opened = .error message) :
    (world.afterSend (sendUdpProbe tpConfig world.sendAnswers.head world.runState)).ring = world.ring := by
  simp [World.ring, World.afterSend, sendUdpProbe, failed, computed, Sent.event, Event.computed]

theorem leaves_handleDatagram (datagram : Datagram) (rtt : Duration) :
    Leaves World.ring (handleDatagram crate tpConfig datagram rtt) := by
  intro world
  rw [handleDatagram_run]
  cases replied : handleReply crate tpConfig datagram rtt world.runState with
  | none => rfl
  | some handled =>
    obtain ⟨basePort, hisptr, -⟩ := handleReply_frame replied
    have probes : computed (world.handle datagram handled).log = computed world.log :=
      computed_append (List.forall_mem_cons.mpr ⟨rfl, List.forall_mem_map.mpr fun _ _ => rfl⟩)
    show (⟨handled.state.basePort, handled.state.hisptr, computed (world.handle datagram handled).log⟩ : Ring) = _
    rw [basePort, hisptr, probes]
    rfl

theorem leaves_print (line : IcmpLine) : Leaves World.ring (print line) :=
  leaves_modify fun world => world.ring_record (List.forall_mem_singleton.mpr rfl)

theorem leaves_nextWithTimeout : Leaves World.ring nextWithTimeout := by
  refine leaves_modifyGet fun world => ?_
  rcases world.packets.head with _ | _ | datagram
  · exact World.ring_record _ (List.forall_mem_nil _)
  · exact World.ring_record _ (List.forall_mem_nil _)
  · exact World.ring_record _ (List.forall_mem_singleton.mpr rfl)

theorem leaves_receiveStep (sendTime : Instant) : Leaves World.ring (receiveStep crate tpConfig sendTime ()) := by
  refine leaves_bind (leaves_modifyGet fun _ => rfl) fun waiting => ?_
  cases waiting with
  | false => exact leaves_pure
  | true =>
    refine leaves_bind (leaves_modifyGet fun _ => rfl) fun running => ?_
    cases running with
    | false => exact leaves_bind (leaves_print .blank) fun _ => leaves_stop
    | true =>
      refine leaves_bind leaves_nextWithTimeout fun packet => ?_
      -- only a datagram is looked at any further, and it is dropped unless it is a whole ICMP message
      rcases packet with _ | _ | datagram
      · exact leaves_pure
      · exact leaves_pure
      · show Leaves World.ring (if _ then _ else if _ then _ else _)
        by_cases other : crate.ipv4.nextLevelProtocol datagram.bytes ≠ IpNextHeaderProtocols.Icmp
        · rw [if_pos other]
          exact leaves_pure
        · rw [if_neg other]
          by_cases short : ¬ crate.icmp.new (crate.ipv4.payload datagram.bytes)
          · rw [if_pos short]
            exact leaves_stop
          · rw [if_neg short]
            exact leaves_bind (leaves_modifyGet fun _ => rfl) fun recvTime => leaves_handleDatagram datagram _

theorem leaves_receiveIcmpReplySafe (fuel : Nat) : Leaves World.ring (receiveIcmpReplySafe crate tpConfig fuel) :=
  leaves_get_bind fun _ => leaves_bind (leaves_modifyGet fun _ => rfl) fun _ =>
    leaves_forever (fun _ => leaves_receiveStep _) fuel ()

theorem leaves_returnWith (response : ResponseType) : Leaves World.ring (returnWith response) :=
  leaves_get_bind fun _ => leaves_bind
    (leaves_modify fun world => world.ring_record (List.forall_mem_singleton.mpr rfl)) fun _ => leaves_pure

theorem leaves_endedBy (response : ResponseType) : Leaves World.ring (endedBy tpConfig response) := by
  cases response with
  | reached => exact leaves_returnWith .reached
  | timeExceeded => exact leaves_pure
  | unreachable =>
    exact leaves_get_bind fun _ => leaves_bind (leaves_print _) fun _ => leaves_returnWith .unreachable

/-! ## How many probes there are -/

variable {fuel most : Nat}

/-- So many probes at most have been computed. -/
def Counted (tpConfig : TracepathConfig) (most : Nat) (world : World) : Prop :=
  world.ring.Counts tpConfig.getPort (tpConfig.getLength - 28).toNat most

theorem Counted.mono {more : Nat} {world : World} (counted : Counted tpConfig most world) (below : most ≤ more) :
    Counted tpConfig more world :=
  Ring.Counts.mono counted below

theorem triple_sendProbe {stopped : World → Prop} : Triple (Counted tpConfig most) (sendProbe tpConfig)
    (fun _ => Counted tpConfig (most + 1)) stopped := by
  refine triple_get_bind fun world counted => triple_bind (triple_modify fun _ same => ?_) fun _ =>
    triple_pure fun _ reached => reached
  rw [same]
  cases opened : world.sendAnswers.head.opened with
  | error message =>
    rw [Counted, ring_afterSend_of_error opened]
    exact counted.mono (Nat.le_succ most)
  | ok sourcePort =>
    rw [Counted, ring_afterSend_of_opened counted.base opened]
    exact counted.send _

theorem triple_attempt {total : Nat} (inside : most < total) :
    Triple (Counted tpConfig most) (attempt crate tpConfig fuel) (fun _ => Counted tpConfig (most + 1))
      (Counted tpConfig total) := by
  have within : ∀ world, Counted tpConfig (most + 1) world → Counted tpConfig total world :=
    fun _ counted => counted.mono inside
  refine triple_bind triple_sendProbe fun sent => ?_
  cases sent with
  | error message => exact triple_pure fun _ counted => counted
  | ok =>
    refine triple_bind (triple_stopped ((leaves_receiveIcmpReplySafe fuel).triple _) within) fun received => ?_
    cases received with
    | error message => exact triple_pure fun _ counted => counted
    | ok response => exact triple_stopped ((leaves_endedBy response).triple _) within

theorem triple_traceTtl {total ttl : Nat} (first : 1 ≤ ttl) (inside : 3 * ttl ≤ total) :
    Triple (Counted tpConfig (3 * (ttl - 1))) (traceTtl crate tpConfig fuel ttl)
      (Turn.post (fun _ => Counted tpConfig (3 * ttl)) fun _ => Counted tpConfig total) (Counted tpConfig total) := by
  have started : Triple (Counted tpConfig (3 * (ttl - 1)))
      (modify fun world : World => { world with runState := world.runState.setTtl (UInt8.ofNat ttl) })
      (fun _ => Counted tpConfig (3 * (ttl - 1))) (Counted tpConfig total) := triple_modify fun _ counted => counted
  refine triple_bind started fun _ => ?_
  have attempts := @triple_forRange_counted World AttemptEnd (Counted tpConfig) total (3 * (ttl - 1)) 3 _
    (fun _ _ _ below counted => counted.mono below) (fun _ below => @triple_attempt crate _ fuel _ _ below) (by omega)
  rw [show 3 * (ttl - 1) + 3 = 3 * ttl by omega] at attempts
  refine triple_bind attempts fun turn => ?_
  rcases turn with _ | _ | _
  · exact triple_bind (triple_stopped ((leaves_print _).triple _) fun _ counted => counted.mono inside) fun _ =>
      triple_pure fun _ counted => counted
  · exact triple_pure fun _ counted => counted
  · exact triple_pure fun _ counted => counted.mono inside

/-- A trace computes three probes for each TTL at most. -/
theorem counted_run (target : Ipv4Addr) (sendAnswers : Stream' SendAnswers)
    (packets : Stream' (Except String (Option Datagram))) (instants : Stream' Instant)
    (withinTimeout isRunning : Stream' Bool) :
    Counted tpConfig (3 * tpConfig.getHops.toNat) (tracepathRunIcmpIpv4 crate tpConfig fuel
      (.start tpConfig target sendAnswers packets instants withinTimeout isRunning)).state := by
  have loop := @triple_forRange World Unit Unit (Counted tpConfig (3 * tpConfig.getHops.toNat))
    (fun ttl _ => traceTtl crate tpConfig fuel ttl) (fun index _ => Counted tpConfig (3 * (index - 1)))
    (fun _ => Counted tpConfig (3 * tpConfig.getHops.toNat)) 1 tpConfig.getHops.toNat (fun index _ first below => ?_) ()
  · rw [Nat.add_sub_cancel_left] at loop
    have run : Triple (Counted tpConfig 0) (tracepathRunIcmpIpv4 crate tpConfig fuel)
        (fun _ => Counted tpConfig (3 * tpConfig.getHops.toNat)) (Counted tpConfig (3 * tpConfig.getHops.toNat)) := by
      refine triple_bind loop fun turn => ?_
      cases turn with
      | next => exact (leaves_print _).triple _
      | exit => exact triple_pure fun _ counted => counted
    exact run.state (fun _ _ counted => counted) (Ring.counts_start _ _)
  · exact triple_traceTtl first (by omega)

/-! ## A trace without an answer -/

/-- Nothing goes wrong, and nobody answers. -/
structure Silent (tpConfig : TracepathConfig) (count : Nat) (world : World) : Prop where
  base : world.runState.basePort = tpConfig.getPort
  full : world.ring.Full count
  sendAnswers : world.sendAnswers = .const ⟨.ok 40000, .ok 0, .ok 0⟩
  withinTimeout : world.withinTimeout = .const false

theorem receiveIcmpReplySafe_silent {world : World} (silent : world.withinTimeout = .const false) :
    receiveIcmpReplySafe crate tpConfig (fuel + 1) world =
      .done (.error "No response received within timeout")
        { world with instants := world.instants.tail, withinTimeout := .const false } := by
  obtain ⟨runState, log, sendAnswers, packets, instants, withinTimeout, isRunning⟩ := world
  subst silent
  rfl

theorem attempt_silent {count : Nat} : Triple (Silent tpConfig count) (attempt crate tpConfig (fuel + 1))
    (fun turn world => turn = .next () ∧ Silent tpConfig (count + 1) world) fun _ => False := by
  have sent : Triple (Silent tpConfig count) (sendProbe tpConfig)
      (fun result world => result = .ok () ∧ Silent tpConfig (count + 1) world) fun _ => False := by
    refine triple_get_bind fun world silent => triple_bind (triple_modify fun _ same => ?_) fun _ =>
      triple_pure fun _ reached => reached
    have head : world.sendAnswers.head = ⟨.ok 40000, .ok 0, .ok 0⟩ := by rw [silent.sendAnswers]; rfl
    have ring := ring_afterSend_of_opened silent.base (congrArg SendAnswers.opened head)
    rw [same]
    refine ⟨by rw [head]; rfl, by rw [head]; exact silent.base, ?_, ?_, silent.withinTimeout⟩
    · rw [ring, head]
      exact silent.full.send _
    · show world.sendAnswers.tail = _
      rw [silent.sendAnswers]
      rfl
  -- the wait is over at once, and that counts as an error
  have waited : Triple (Silent tpConfig (count + 1)) (receiveIcmpReplySafe crate tpConfig (fuel + 1))
      (fun result world => (∃ message, result = .error message) ∧ Silent tpConfig (count + 1) world) fun _ => False := by
    intro world silent
    rw [receiveIcmpReplySafe_silent silent.withinTimeout]
    exact ⟨⟨_, rfl⟩, silent.base, silent.full, silent.sendAnswers, rfl⟩
  refine triple_bind sent fun result => triple_given fun isOk => ?_
  subst isOk
  refine triple_bind waited fun received => triple_given fun failed => ?_
  obtain ⟨message, rfl⟩ := failed
  exact triple_pure fun _ silent => ⟨rfl, silent⟩

theorem traceTtl_silent {ttl : Nat} (first : 1 ≤ ttl) :
    Triple (Silent tpConfig (3 * (ttl - 1))) (traceTtl crate tpConfig (fuel + 1) ttl)
      (Turn.post (fun _ => Silent tpConfig (3 * ttl)) fun _ _ => False) fun _ => False := by
  have started : Triple (Silent tpConfig (3 * (ttl - 1)))
      (modify fun world : World => { world with runState := world.runState.setTtl (UInt8.ofNat ttl) })
      (fun _ => Silent tpConfig (3 * (ttl - 1))) fun _ => False :=
    triple_modify fun _ silent => ⟨silent.base, silent.full, silent.sendAnswers, silent.withinTimeout⟩
  have attempts := @triple_forRange World Unit AttemptEnd (fun _ => False)
    (fun _ _ => attempt crate tpConfig (fuel + 1)) (fun index _ => Silent tpConfig (3 * (ttl - 1) + index))
    (fun _ _ => False) 0 3 (fun index _ _ _ => triple_conseq attempt_silent (fun _ silent => silent)
      fun turn world ended => by obtain ⟨rfl, silent⟩ := ended; exact silent) ()
  rw [show 3 * (ttl - 1) + (0 + 3) = 3 * ttl by omega] at attempts
  refine triple_bind started fun _ => triple_bind attempts fun turn => ?_
  cases turn with
  | next =>
    have printed : Triple (Silent tpConfig (3 * ttl)) (print (.noReply (UInt8.ofNat ttl)))
        (fun _ => Silent tpConfig (3 * ttl)) fun _ => False := triple_modify fun world silent =>
      ⟨silent.base, by rw [world.ring_record (List.forall_mem_singleton.mpr rfl)]; exact silent.full,
        silent.sendAnswers, silent.withinTimeout⟩
    exact triple_bind printed fun _ => triple_pure fun _ silent => silent
  | exit => exact fun _ never => never.elim

/-- Then all probes of all TTLs go out. -/
theorem full_run_silent (target : Ipv4Addr) :
    (tracepathRunIcmpIpv4 crate tpConfig 1 (.start tpConfig target (.const ⟨.ok 40000, .ok 0, .ok 0⟩)
      (.const (.ok none)) (.const 0) (.const false) (.const true))).state.ring.Full (3 * tpConfig.getHops.toNat) := by
  have loop := @triple_forRange World Unit Unit (fun _ => False)
    (fun ttl _ => traceTtl crate tpConfig 1 ttl) (fun index _ => Silent tpConfig (3 * (index - 1)))
    (fun _ _ => False) 1 tpConfig.getHops.toNat (fun index _ first _ => traceTtl_silent first) ()
  rw [Nat.add_sub_cancel_left] at loop
  have run : Triple (Silent tpConfig 0) (tracepathRunIcmpIpv4 crate tpConfig 1)
      (fun _ world => world.ring.Full (3 * tpConfig.getHops.toNat))
      fun world => world.ring.Full (3 * tpConfig.getHops.toNat) := by
    refine triple_bind (triple_stopped loop fun _ never => never.elim) fun turn => ?_
    cases turn with
    | next =>
      refine triple_modify fun world silent => ?_
      rw [world.ring_record (List.forall_mem_singleton.mpr rfl)]
      exact silent.full
    | exit => exact fun _ never => never.elim
  exact run.state (fun _ _ full => full) ⟨rfl, ⟨rfl, List.forall_mem_nil _⟩, rfl, rfl⟩

end

end Utiputils.Tracepath.Icmp
