import Utiputils.Tracepath.Run

/-! # Whose answer is it?

In every run of the trace the ring of the run state holds exactly the unanswered probes that the log
tells of. A message is therefore credited to the latest probe of its port as long as it is the first
message for it, and to the current TTL otherwise. -/

namespace Utiputils.Tracepath

open Utiputils.Lib Utiputils.Pnet Proc

/-! ## Reading the log -/

/-- A probe that went out, with its port and its TTL. -/
def Event.probed : Event → Option (UInt16 × UInt8)
  | .discovery port => some (port, 1)
  | .probe port ttl _ true => some (port, ttl)
  | .probe _ _ _ false | .credited .. | .printed _ => none

def Event.creditedPort : Event → Option UInt16
  | .credited _ message _ _ => some message.receivedPort
  | .discovery _ | .probe .. | .printed _ => none

/-- What an event does to the map of unanswered probes. -/
def Event.track (unanswered : UInt16 → Option UInt8) (event : Event) : UInt16 → Option UInt8 :=
  match event.probed, event.creditedPort with
  | some (port, ttl), _ => Function.update unanswered port (some ttl)
  | none, some port => Function.update unanswered port none
  | none, none => unanswered

def unanswered (log : List Event) : UInt16 → Option UInt8 := log.foldl Event.track fun _ => none

/-- Every credit goes to the unanswered probe of the port, or else to the current TTL. -/
def CreditsFollow (log : List Event) : Prop :=
  ∀ before place message credit current after,
    log = before ++ .credited place message credit current :: after →
      credit = (unanswered before message.receivedPort).getD current

theorem unanswered_append (first second : List Event) :
    unanswered (first ++ second) = second.foldl Event.track (unanswered first) :=
  List.foldl_append

theorem unanswered_concat (log : List Event) (event : Event) :
    unanswered (log ++ [event]) = event.track (unanswered log) := by
  rw [unanswered_append]
  rfl

theorem creditsFollow_concat {log : List Event} (follow : CreditsFollow log) {event : Event}
    (right : ∀ place message credit current, event = .credited place message credit current →
      credit = (unanswered log message.receivedPort).getD current) : CreditsFollow (log ++ [event]) := by
  intro before place message credit current after split
  rcases List.eq_nil_or_concat after with rfl | ⟨init, last, rfl⟩
  · obtain ⟨rfl, same⟩ := List.append_inj' split rfl
    exact right place message credit current (List.cons.inj same).1
  · rw [List.concat_eq_append, ← List.cons_append, ← List.append_assoc] at split
    exact follow before place message credit current init (List.append_inj' split rfl).1

/-- Printed lines change neither. -/
theorem unanswered_printed (log : List Event) (lines : List Line) :
    unanswered (log ++ lines.map .printed) = unanswered log := by
  induction lines generalizing log with
  | nil => simp
  | cons line lines inductionHypothesis =>
    rw [List.map_cons, List.append_cons, inductionHypothesis, unanswered_concat]
    rfl

theorem creditsFollow_printed {log : List Event} (follow : CreditsFollow log) (lines : List Line) :
    CreditsFollow (log ++ lines.map .printed) := by
  induction lines generalizing log with
  | nil => simpa using follow
  | cons line lines inductionHypothesis =>
    rw [List.map_cons, List.append_cons]
    exact inductionHypothesis (creditsFollow_concat follow fun _ _ _ _ isCredit => by cases isCredit)

/-! ## The invariant of a run -/

/-- The TTLs of the unanswered probes in the ring. -/
def RunState.waiting (runState : RunState) (port : UInt16) : Option UInt8 :=
  (runState.pending port).map (·.hops)

/-- The ring holds the unanswered probes of the log. -/
structure World.Tracked (world : World) : Prop where
  fit : PortsFit world.runState.basePort
  inside : world.runState.hisptr < HIS_ARRAY_SIZE
  positive : 0 < world.runState.ttl
  waiting : world.runState.waiting = unanswered world.log
  follow : CreditsFollow world.log

theorem waiting_of_update {runState : RunState} {pending : UInt16 → Option HistoryEntry} {port : UInt16}
    {entry : Option HistoryEntry} (updated : runState.pending = Function.update pending port entry) :
    runState.waiting =
      Function.update (fun other => (pending other).map (·.hops)) port (entry.map (·.hops)) := by
  funext other
  rw [RunState.waiting, updated]
  by_cases same : other = port
  · subst same
    rw [Function.update_self, Function.update_self]
  · rw [Function.update_of_ne same, Function.update_of_ne same]

/-- A message handled in one of the loops. -/
theorem World.Tracked.handle {world : World} (tracked : world.Tracked) (place : Place) (message : Message)
    (handled : Handled)
    (credit : handled.credit =
      (findSendHistoryByPort world.runState message.receivedPort message.recvTime).1.1)
    (history : handled.state.history =
      (findSendHistoryByPort world.runState message.receivedPort message.recvTime).2.history)
    (hisptr : handled.state.hisptr = world.runState.hisptr)
    (basePort : handled.state.basePort = world.runState.basePort)
    (ttl : handled.state.ttl = world.runState.ttl) : (world.handle place message handled).Tracked := by
  have fit := tracked.fit
  obtain ⟨_, frame⟩ := findSendHistoryByPort_frame world.runState message.receivedPort message.recvTime
  have pending : handled.state.pending = Function.update world.runState.pending message.receivedPort none := by
    rw [← pending_findSendHistoryByPort fit message.receivedPort message.recvTime]
    exact pending_congr history (by rw [basePort, frame])
  have logged : (world.handle place message handled).log =
      world.log ++ [.credited place message handled.credit world.runState.ttl] ++
        handled.lines.map .printed := List.append_cons ..
  refine ⟨basePort ▸ fit, hisptr ▸ tracked.inside, ttl ▸ tracked.positive, ?_, ?_⟩
  · rw [logged, unanswered_printed, unanswered_concat, ← tracked.waiting]
    exact waiting_of_update pending
  · rw [logged]
    refine creditsFollow_printed (creditsFollow_concat tracked.follow ?_) _
    rintro _ _ _ _ ⟨⟩
    rw [credit, credit_findSendHistoryByPort fit, ← tracked.waiting]
    rfl

/-- A probe waits in the ring for its answer, and it is no credit. -/
theorem World.Tracked.probed {world : World} (tracked : world.Tracked) {probe : Event} {destPort : UInt16} {ttl : UInt8}
    (isProbe : probe.probed = some (destPort, ttl)) (sendTime : Instant) :
    CreditsFollow (world.log ++ [probe]) ∧
      ∀ port, ((Function.update world.runState.pending destPort (some ⟨ttl, some sendTime⟩)) port).map (·.hops) =
        unanswered (world.log ++ [probe]) port := by
  have notCredit : ∀ place message credit current, probe ≠ .credited place message credit current := by
    rintro place message credit current rfl
    cases isProbe
  have tracking : unanswered (world.log ++ [probe]) = Function.update world.runState.waiting destPort (some ttl) := by
    rw [unanswered_concat, Event.track, isProbe, tracked.waiting]
  constructor
  · apply creditsFollow_concat tracked.follow
    exact fun place message credit current same => absurd same (notCredit place message credit current)
  · intro port
    rw [tracking]
    by_cases same : port = destPort
    · subst same
      rw [Function.update_self, Function.update_self]
      rfl
    · rw [Function.update_of_ne same, Function.update_of_ne same]
      rfl

/-- A probe that went out, with the message that came back at once if there was one. -/
theorem World.Tracked.sent {Result : Type} {world : World} (tracked : world.Tracked) (sent : Sent Result)
    (probe : Event) (place : Place) (answer : QueueAnswer) (ttl : UInt8) (sendTime : Instant)
    (isProbe : probe.probed = some (sent.destPort, ttl))
    (pending : sent.state.pending = takePort answer
      (Function.update world.runState.pending sent.destPort (some ⟨ttl, some sendTime⟩)))
    (credit : sent.credit = creditFor answer
      (Function.update world.runState.pending sent.destPort (some ⟨ttl, some sendTime⟩)) ttl)
    (sentTtl : sent.state.ttl = ttl) :
    sent.state.waiting = unanswered (world.log ++ probe :: World.creditEvents sent place) ∧
      CreditsFollow (world.log ++ probe :: World.creditEvents sent place) := by
  obtain ⟨follow, probed⟩ := tracked.probed isProbe sendTime
  have silent : sent.credit = none → sent.state.pending =
      Function.update world.runState.pending sent.destPort (some ⟨ttl, some sendTime⟩) →
      sent.state.waiting = unanswered (world.log ++ probe :: World.creditEvents sent place) ∧
        CreditsFollow (world.log ++ probe :: World.creditEvents sent place) := by
    intro noCredit entered
    rw [World.creditEvents, noCredit, List.append_cons]
    simp only [Option.map_none, Option.toList_none, List.nil_append]
    rw [unanswered_printed]
    refine ⟨funext fun port => ?_, creditsFollow_printed follow _⟩
    rw [RunState.waiting, entered, probed]
  -- only a dequeued message adds a credit behind the probe
  rcases answer with _ | _ | message
  · exact silent credit pending
  · exact silent credit pending
  · rw [World.creditEvents, credit, List.append_cons]
    simp only [creditFor, Option.map_some, Option.toList_some, List.singleton_append]
    rw [List.append_cons, unanswered_printed, unanswered_concat]
    refine ⟨?_, creditsFollow_printed (creditsFollow_concat follow ?_) _⟩
    · have taken : sent.state.waiting = Function.update (fun port => ((Function.update world.runState.pending
          sent.destPort (some ⟨ttl, some sendTime⟩)) port).map (·.hops)) message.receivedPort none :=
        waiting_of_update pending
      rw [taken, funext probed]
      rfl
    · rintro _ _ _ _ ⟨⟩
      rw [probed, sentTtl]

/-- Every access to the world keeps the invariant. -/
theorem World.Tracked.afterDiscovery {world : World} (tracked : world.Tracked) {sent : Sent UInt32}
    (discovered : performPmtuDiscovery world.pmtuAnswers world.runState = some sent) :
    (world.afterDiscovery sent).Tracked := by
  obtain ⟨built, isBuilt, destPort, pending, credit, hisptr, basePort, ttl⟩ :=
    performPmtuDiscovery_spec tracked.fit tracked.inside world.pmtuAnswers
  cases Option.some.inj (isBuilt.symm.trans discovered)
  obtain ⟨waiting, follow⟩ := tracked.sent sent (.discovery sent.destPort) .discovery _ 1 _ rfl pending credit ttl
  exact ⟨basePort ▸ tracked.fit, hisptr ▸ tracked.inside, ttl ▸ by decide, waiting, follow⟩

theorem World.Tracked.afterSend {tpConfig : TracepathConfig} {world : World} (tracked : world.Tracked)
    {sent : Sent (Except String (Option ResponseType))}
    (built : sendUdpProbeIpv6 tpConfig world.sendAnswers.head world.runState = some sent) :
    (world.afterSend sent).Tracked := by
  cases answers : world.sendAnswers.head with
  | mk result immediate =>
  rw [answers] at built
  cases result with
  | error message =>
    -- a probe that is not sent is in the log, but nothing answers it
    cases built
    have untracked : unanswered (world.log ++ [.probe (world.runState.basePort +
        UInt16.ofNat world.runState.hisptr) world.runState.ttl (tpConfig.getLength - 48).toNat false]) =
        unanswered world.log := unanswered_concat ..
    exact ⟨tracked.fit, tracked.inside, tracked.positive, tracked.waiting.trans untracked.symm,
      creditsFollow_concat tracked.follow fun _ _ _ _ isCredit => by cases isCredit⟩
  | ok sendTime =>
    obtain ⟨other, isBuilt, -, pending, credit, hisptr, basePort, ttl⟩ :=
      sendUdpProbeIpv6_spec tracked.fit tracked.inside tpConfig sendTime immediate tracked.positive
    cases Option.some.inj (isBuilt.symm.trans built)
    have succeeded := sendUdpProbeIpv6_isOk built
    obtain ⟨waiting, follow⟩ := tracked.sent sent
      (.probe sent.destPort world.runState.ttl sent.payloadLen sent.result.isOk) .afterSend _
      world.runState.ttl sendTime (by rw [succeeded]; rfl) pending credit ttl
    exact ⟨basePort ▸ tracked.fit, hisptr ▸ Nat.mod_lt _ (by decide), ttl ▸ tracked.positive, waiting, follow⟩

theorem tracked_kept (tpConfig : TracepathConfig) : World.Kept tpConfig World.Tracked where
  discovery _ _ tracked discovered := tracked.afterDiscovery discovered
  send _ _ tracked built := tracked.afterSend built
  drain world message tracked := by
    obtain ⟨_, frame⟩ := findSendHistoryByPort_frame world.runState message.receivedPort message.recvTime
    have state := drainMessage_state tpConfig message world.runState
    exact tracked.handle .drain message _ (drainMessage_credit ..) (by rw [state]) (by rw [state, frame])
      (by rw [state, frame]) (by rw [state, frame])
  wait world message tracked := by
    obtain ⟨history, hisptr, basePort, ttl⟩ := waitMessage_frame tpConfig message world.runState
    exact tracked.handle .wait message _ (waitMessage_credit ..) history hisptr basePort ttl
  print world line tracked :=
    ⟨tracked.fit, tracked.inside, tracked.positive,
      tracked.waiting.trans (unanswered_printed world.log [line]).symm,
      creditsFollow_printed tracked.follow [line]⟩
  setTtl world ttl positive tracked :=
    ⟨tracked.fit, tracked.inside, positive, tracked.waiting, tracked.follow⟩
  queue world answers tracked :=
    ⟨tracked.fit, tracked.inside, tracked.positive, tracked.waiting, tracked.follow⟩
  timeout world answers tracked :=
    ⟨tracked.fit, tracked.inside, tracked.positive, tracked.waiting, tracked.follow⟩
  running world answers tracked :=
    ⟨tracked.fit, tracked.inside, tracked.positive, tracked.waiting, tracked.follow⟩

/-! ## The latest probe of a port -/

/-- The latest probe to a port had this TTL, and these events have followed it. -/
def LatestProbe (log : List Event) (port : UInt16) (ttl : UInt8) (since : List Event) : Prop :=
  ∃ before probe, log = before ++ probe :: since ∧ probe.probed = some (port, ttl) ∧
    ∀ event ∈ since, ∀ other, event.probed ≠ some (port, other)

/-- An event that is no probe from this port takes its entry away, or leaves it alone. -/
theorem track_port {event : Event} {port : UInt16} (noProbe : ∀ other, event.probed ≠ some (port, other))
    (map : UInt16 → Option UInt8) :
    event.track map port = if event.creditedPort = some port then none else map port := by
  rw [Event.track]
  cases probed : event.probed with
  | some probe =>
    have different : port ≠ probe.1 := by
      rintro rfl
      exact noProbe probe.2 probed
    have noCredit : event.creditedPort = none := by
      cases event with
      | credited => cases probed
      | discovery | probe | printed => rfl
    simp only [Function.update_of_ne different, noCredit, reduceCtorEq, if_false]
  | none =>
    cases credited : event.creditedPort with
    | none => simp
    | some credit =>
      by_cases same : port = credit
      · simp [same]
      · simp [Function.update_of_ne same, Ne.symm same]

/-- Events without a probe to the port keep what is known of it, until a message for it is credited. -/
theorem foldl_track (since : List Event) (map : UInt16 → Option UInt8) (port : UInt16)
    (noProbe : ∀ event ∈ since, ∀ other, event.probed ≠ some (port, other)) :
    since.foldl Event.track map port =
      if ∃ event ∈ since, event.creditedPort = some port then none else map port := by
  induction since generalizing map with
  | nil => simp
  | cons event since inductionHypothesis =>
    rw [List.foldl_cons, inductionHypothesis _ fun other member => noProbe other (List.mem_cons_of_mem _ member)]
    rw [track_port (noProbe event List.mem_cons_self)]
    by_cases later : ∃ event ∈ since, event.creditedPort = some port
    · simp [later]
    · simp [later]

theorem unanswered_of_latestProbe {log since : List Event} {port : UInt16} {ttl : UInt8}
    (latest : LatestProbe log port ttl since) :
    unanswered log port = if ∃ event ∈ since, event.creditedPort = some port then none else some ttl := by
  obtain ⟨before, probe, rfl, isProbe, noProbe⟩ := latest
  rw [List.append_cons, unanswered_append, foldl_track since _ _ noProbe, unanswered_concat, Event.track, isProbe]
  simp only [Function.update_self]

/-- In every run a message is credited to the latest probe of its port if no other message has been
credited for that port since the probe, and to the current TTL if one has. -/
theorem tracepathRunUdpIpv6_credits (tpConfig : TracepathConfig) (fit : PortsFit tpConfig.getPort)
    (target : IpAddr) (pmtuAnswers : PmtuAnswers) (sendAnswers : Stream' SendAnswers)
    (queueAnswers : Stream' QueueAnswer) (withinTimeout isRunning : Stream' Bool) (fuel : Nat)
    (earlier later since : List Event) (place : Place) (message : Message) (credit current ttl : UInt8)
    (credited : (tracepathRunUdpIpv6 tpConfig fuel (World.start tpConfig target pmtuAnswers sendAnswers
      queueAnswers withinTimeout isRunning)).state.log =
        earlier ++ .credited place message credit current :: later)
    (latest : LatestProbe earlier message.receivedPort ttl since) :
    credit = if ∃ event ∈ since, event.creditedPort = some message.receivedPort then current else ttl := by
  have started : (World.start tpConfig target pmtuAnswers sendAnswers queueAnswers withinTimeout
      isRunning).Tracked := by
    refine ⟨fit, show 0 < 64 by decide, show (0 : UInt8) < 1 by decide, ?_, ?_⟩
    · funext port
      simp only [RunState.waiting, RunState.pending, World.start, Option.map_bind]
      cases slotOf tpConfig.getPort port with
      | none => rfl
      | some slot => simp [unanswered]
    · intro before _ _ _ _ after split
      exact absurd split (by simp [World.start])
  have tracked := (keeps_tracepathRunUdpIpv6 (tracked_kept tpConfig) fuel).state (fun _ _ holds => holds) started
  rw [tracked.follow _ _ _ _ _ _ credited, unanswered_of_latestProbe latest]
  split <;> rfl

/-! ## A router that answers twice

The second answer arrives while the probe with TTL 2 is out, and is credited to it. -/

def hopLimitFrom44444 : Message :=
  ⟨⟨113, SO_EE_ORIGIN_ICMP6, ICMPV6_TIME_EXCEED, ICMPV6_EXC_HOPLIMIT, 0, some (.v6 ⟨Vector.replicate 16 1⟩)⟩,
    44444, 900⟩

def twiceAnswered : World :=
  World.start twoHops (.v6 ⟨Vector.replicate 16 2⟩) ⟨100, .ok (), .ok none⟩
    (fun _ => ⟨.ok 500, .ok none⟩)
    (fun call => if call = 1 ∨ call = 4 then .ok (some hopLimitFrom44444) else .ok none)
    (fun _ => true) fun _ => true

def twiceAnsweredLog : List Event := [
  .discovery 44444,
  .probe 44444 1 1452 true,
  .credited .wait hopLimitFrom44444 1 1,
  .printed (.hop 1 (.v6 ⟨Vector.replicate 16 1⟩) 400),
  .probe 44445 2 1452 true,
  .credited .wait hopLimitFrom44444 2 2,
  .printed (.hop 2 (.v6 ⟨Vector.replicate 16 1⟩) 0),
  .printed .tooManyHops]

theorem twiceAnswered_log :
    (tracepathRunUdpIpv6 twoHops 5 twiceAnswered).state.log = twiceAnsweredLog := by
  decide +kernel

/-- Every message is credited to the latest probe of its port. -/
def CreditsLatest (log : List Event) : Prop :=
  ∀ earlier place message credit current later ttl since,
    log = earlier ++ .credited place message credit current :: later →
      LatestProbe earlier message.receivedPort ttl since → credit = ttl

theorem twiceAnswered_latest : LatestProbe (twiceAnsweredLog.take 5) 44444 1
    ((twiceAnsweredLog.drop 2).take 3) := by
  refine ⟨[.discovery 44444], .probe 44444 1 1452 true, rfl, rfl, ?_⟩
  simp [twiceAnsweredLog, Event.probed]

theorem tracepathRunUdpIpv6_credits_twiceAnswered :
    (2 : UInt8) = if ∃ event ∈ (twiceAnsweredLog.drop 2).take 3, event.creditedPort = some 44444
      then 2 else 1 :=
  tracepathRunUdpIpv6_credits twoHops (by decide) _ _ _ _ _ _ 5 (twiceAnsweredLog.take 5)
    (twiceAnsweredLog.drop 6) _ .wait hopLimitFrom44444 2 2 1 twiceAnswered_log twiceAnswered_latest

theorem twiceAnswered_not_creditsLatest :
    PortsFit (twoHops.getPort) ∧
      ¬ CreditsLatest (tracepathRunUdpIpv6 twoHops 5 twiceAnswered).state.log := by
  refine ⟨by decide, fun latest => ?_⟩
  rw [twiceAnswered_log] at latest
  have wrong := latest (twiceAnsweredLog.take 5) .wait hopLimitFrom44444 2 2 (twiceAnsweredLog.drop 6) 1 _ rfl
    twiceAnswered_latest
  exact absurd wrong (by decide)

end Utiputils.Tracepath
