import Utiputils.Lib.Transcript
import Utiputils.Tracepath.IcmpRun

/-! # The transcript of the IPv4 trace

What a trace shows, probes and lines in their order, as a language. For every TTL from 1 on there is one part, and it
ends with the line for that TTL; the last part ends the trace. -/

namespace Utiputils.Tracepath.Icmp

open Utiputils.Lib Utiputils.Pnet Proc Transcript
open scoped Computability

/-! ## What is shown -/

inductive Sight where
  /-- a probe with the TTL, and whether it went out -/
  | probe (ttl : UInt8) (sent : Bool)
  /-- an attempt that had no socket for its probe -/
  | noSocket (ttl : UInt8)
  | line (line : IcmpLine)
  deriving DecidableEq, Repr

def Event.sight : Event → Option Sight
  | .probe computed sent => some (.probe computed.ttl sent)
  | .noSocket ttl => some (.noSocket ttl)
  | .printed line => some (.line line)
  | .received .. | .reported .. | .returned .. => none

def World.sights (world : World) : List Sight := world.log.filterMap Event.sight

/-! ## The language of a trace -/

/-- An attempt that comes to nothing: there is no socket, or the probe does not go out, or nobody answers. -/
def failed (ttl : UInt8) : Language Sight := {[.noSocket ttl], [.probe ttl false], [.probe ttl true]}

/-- The attempts up to the one that matters: that is one of three, and those ahead of it came to nothing. -/
def oneOfThree (ttl : UInt8) (last : Language Sight) : Language Sight := upTo (fun _ => failed ttl) (fun _ => last) 0 3

def isProbed (ttl : UInt8) : Language Sight := {[.probe ttl true]}

theorem mem_isProbed (ttl : UInt8) : [.probe ttl true] ∈ isProbed ttl := rfl

/-- The line of a router, which tells the hops of the way back only far from here and only where they differ. -/
def hopLine (ttl : UInt8) : Language Sight :=
  {word | ∃ addr rtt asymm, word = [.line (.hop ttl addr rtt asymm)] ∧ ∀ back ∈ asymm, 12 ≤ ttl ∧ back ≠ ttl ∧ 0 < back}

def reachedLines (pmtu : UInt32) (ttl : UInt8) : Language Sight :=
  {word | ∃ addr rtt hopsFrom, word = [.line (.reached ttl addr rtt), .line (.resume pmtu ttl hopsFrom)] ∧ 0 < hopsFrom}

def unreachableLine (ttl : UInt8) : Language Sight :=
  {word | ∃ addr rtt, word = [.line (.unreachable ttl addr rtt)]}

def resumeLine (pmtu : UInt32) : Language Sight := {[.line (.resume pmtu 0 0)]}

/-- The lines that end a trace. -/
def lastLines (pmtu : UInt32) (ttl : UInt8) : Language Sight :=
  reachedLines pmtu ttl + unreachableLine ttl * resumeLine pmtu

def interrupted : Language Sight := {[], [.line .blank]}

/-- A TTL that the trace goes on behind. -/
def passed (ttl : UInt8) : Language Sight :=
  oneOfThree ttl (isProbed ttl * hopLine ttl) + failed ttl ^ 3 * {[.line (.noReply ttl)]}

def ended (pmtu : UInt32) (ttl : UInt8) : Language Sight := oneOfThree ttl (isProbed ttl * lastLines pmtu ttl)

/-- A TTL whose answer the trace waited for when it stopped. -/
def cutShort (ttl : UInt8) : Language Sight := oneOfThree ttl (isProbed ttl * interrupted)

section

variable (pmtu : UInt32) (hops : Nat)

/-- A trace that returns. -/
def complete : Language Sight :=
  each (fun ttl => passed (UInt8.ofNat ttl)) 1 hops * {[.line .tooManyHops]} +
    upTo (fun ttl => passed (UInt8.ofNat ttl)) (fun ttl => ended pmtu (UInt8.ofNat ttl)) 1 hops

/-- A trace that stops on the way. -/
def incomplete : Language Sight :=
  upTo (fun ttl => passed (UInt8.ofNat ttl)) (fun ttl => cutShort (UInt8.ofNat ttl)) 1 hops

end

/-! ## What the parts of the trace show -/

/-- While the loop is at a TTL, and the target has not been reached. -/
structure Tries (ttl : UInt8) (runState : RunState) : Prop where
  current : runState.ttl = ttl
  hopsTo : runState.hopsTo = 0
  hopsFrom : runState.hopsFrom = 0

def World.Tries (ttl : UInt8) (world : World) : Prop := Icmp.Tries ttl world.runState

section

variable {crate : Crate} {tpConfig : TracepathConfig} {ttl : UInt8}

theorem sights_append (world : World) (events : List Event) :
    (world.record events).sights = world.sights ++ events.filterMap Event.sight :=
  List.filterMap_append

theorem calculateReturnHops_pos (receivedTtl : UInt8) : 0 < calculateReturnHops receivedTtl := by
  revert receivedTtl
  decide +kernel

theorem emits_print {pre : World → Prop} (line : IcmpLine)
    (kept : ∀ world, pre world → pre (world.record [.printed line])) :
    Emits World.sights pre (print line) (fun _ => {[.line line]}) (fun _ => pre) 0 :=
  emits_modify fun world holds => ⟨kept world holds, _, rfl, sights_append world [.printed line]⟩

/-- A call has one probe, with the TTL of the run, or no socket, and then it fails. -/
theorem sendUdpProbe_cases (answers : SendAnswers) (runState : RunState) :
    let sent := sendUdpProbe tpConfig answers runState
    (sent.state.ttl = runState.ttl ∧ sent.state.hopsTo = runState.hopsTo ∧ sent.state.hopsFrom = runState.hopsFrom) ∧
      ((sent.probe = none ∧ sent.result.isOk = false) ∨
        ∃ probe, sent.probe = some probe ∧ probe.ttl = runState.ttl) := by
  simp only [sendUdpProbe]
  cases answers.opened with
  | error message => exact ⟨⟨rfl, rfl, rfl⟩, .inl ⟨rfl, rfl⟩⟩
  | ok sourcePort =>
    cases answers.sent with
    | error message => exact ⟨⟨rfl, rfl, rfl⟩, .inr ⟨_, rfl, rfl⟩⟩
    | ok sendTime => exact ⟨⟨rfl, rfl, rfl⟩, .inr ⟨_, rfl, rfl⟩⟩

/-- What an attempt shows of its probe, by whether that went out. -/
def probeSights (ttl : UInt8) : Bool → Language Sight
  | true => isProbed ttl
  | false => {[.noSocket ttl], [.probe ttl false]}

theorem emits_sendProbe : Emits World.sights (World.Tries ttl) (sendProbe tpConfig)
    (fun result => probeSights ttl result.isOk) (fun _ => World.Tries ttl) 0 := by
  refine emits_done fun world tries => ⟨_, _, rfl, ?_⟩
  obtain ⟨⟨sameTtl, sameTo, sameFrom⟩, probed⟩ := @sendUdpProbe_cases tpConfig world.sendAnswers.head world.runState
  generalize sendUdpProbe tpConfig world.sendAnswers.head world.runState = sent at *
  have shown : (world.afterSend sent).sights = world.sights ++ [sent.event].filterMap Event.sight :=
    List.filterMap_append
  refine ⟨⟨sameTtl.trans tries.current, sameTo.trans tries.hopsTo, sameFrom.trans tries.hopsFrom⟩, _, ?_, shown⟩
  rcases probed with ⟨none, failed⟩ | ⟨probe, isProbe, shows⟩
  · rw [failed, Sent.event, none, ← tries.current, ← sameTtl]
    exact .inl rfl
  · rw [Sent.event, isProbe, ← tries.current, ← shows]
    cases sent.result.isOk with
    | true => exact rfl
    | false => exact .inr rfl

/-- The lines that a wait prints before it returns. -/
def answerLines (pmtu : UInt32) (ttl : UInt8) : Except String ResponseType → Language Sight
  | .ok .timeExceeded => hopLine ttl
  | .ok .reached => reachedLines pmtu ttl
  | .ok .unreachable => unreachableLine ttl
  | .error _ => 1

/-- What holds behind a wait: only an answer of the target ends the search for it. -/
def Awaited (ttl : UInt8) (received : Except String ResponseType) (world : World) : Prop :=
  received = .ok .reached ∨ world.Tries ttl

theorem handleReply_lines {datagram : Datagram} {rtt : Duration} {world : World} {handled : Handled}
    (tries : world.Tries ttl)
    (replied : handleReply crate tpConfig datagram rtt world.runState = some handled) :
    handled.lines.map Sight.line ∈ answerLines tpConfig.getLength ttl (.ok handled.response) ∧
      (handled.response = .reached ∨ handled.state = world.runState) := by
  have back := calculateReturnHops_pos (crate.ipv4.ttl datagram.bytes)
  simp only [handleReply] at replied
  split_ifs at replied with exceeded asymm unreachable port
  · cases replied
    refine ⟨⟨datagram.addr, rtt, _, by rw [tries.current]; rfl, ?_⟩, .inr rfl⟩
    rintro _ ⟨⟩
    exact tries.current ▸ asymm
  · cases replied
    exact ⟨⟨datagram.addr, rtt, none, by rw [tries.current]; rfl, fun _ none => by cases none⟩, .inr rfl⟩
  · cases replied
    exact ⟨⟨datagram.addr, rtt, _, by rw [← tries.current]; rfl, back⟩, .inl rfl⟩
  · cases replied
    exact ⟨⟨datagram.addr, rtt, by rw [← tries.current]; rfl⟩, .inr rfl⟩

theorem emits_handleDatagram (datagram : Datagram) (rtt : Duration) :
    Emits World.sights (World.Tries ttl) (handleDatagram crate tpConfig datagram rtt)
      (Turn.spells 1 (answerLines tpConfig.getLength ttl)) (Turn.post (fun _ => World.Tries ttl) (Awaited ttl))
      interrupted := by
  refine emits_done fun world tries => ?_
  rw [handleDatagram_run]
  cases replied : handleReply crate tpConfig datagram rtt world.runState with
  | none => exact ⟨_, _, rfl, tries, [], rfl, (List.append_nil _).symm⟩
  | some handled =>
    obtain ⟨lines, state⟩ := handleReply_lines tries replied
    refine ⟨_, _, rfl, state.imp (congrArg Except.ok) fun same => ?_, _, lines, ?_⟩
    · show Icmp.Tries ttl handled.state
      rw [same]
      exact tries
    · show (world.log ++ _ :: handled.lines.map Event.printed).filterMap Event.sight = _
      rw [List.filterMap_append, List.filterMap_cons_none rfl, List.filterMap_map]
      exact congrArg _ (List.filterMap_eq_map ▸ rfl)

/-- A step that neither shows anything nor touches the state of the run. -/
theorem emits_bind_quiet {α β : Type} {process : Proc World α} {next : α → Proc World β} {words : β → Language Sight}
    {final : β → World → Prop} {cut : Language Sight}
    (quiet : Leaves (fun world => (world.runState, world.sights)) process)
    (after : ∀ value, Emits World.sights (World.Tries ttl) (next value) words final cut) (empty : [] ∈ cut) :
    Emits World.sights (World.Tries ttl) (process >>= next) words final cut := by
  have kept : Triple (World.Tries ttl) process (fun _ => World.Tries ttl) fun _ => True :=
    triple_stopped (quiet.triple fun seen => Icmp.Tries ttl seen.1) fun _ _ => trivial
  exact emits_bind_silent (fun world => congrArg Prod.snd (quiet world)) kept after empty

theorem quiet_nextWithTimeout : Leaves (fun world : World => (world.runState, world.sights)) nextWithTimeout := by
  refine leaves_modifyGet fun world => congrArg (Prod.mk world.runState) ?_
  rcases world.packets.head with _ | _ | datagram
  · exact (sights_append _ []).trans (List.append_nil _)
  · exact (sights_append _ []).trans (List.append_nil _)
  · exact (sights_append _ [.received _ datagram]).trans (List.append_nil _)

theorem emits_receiveStep (sendTime : Instant) :
    Emits World.sights (World.Tries ttl) (receiveStep crate tpConfig sendTime ())
      (Turn.spells 1 (answerLines tpConfig.getLength ttl)) (Turn.post (fun _ => World.Tries ttl) (Awaited ttl))
      interrupted := by
  have onward : Emits World.sights (World.Tries ttl) (pure (Turn.next ()))
      (Turn.spells 1 (answerLines tpConfig.getLength ttl)) (Turn.post (fun _ => World.Tries ttl) (Awaited ttl))
      interrupted := emits_pure (fun _ tries => tries) rfl
  refine emits_bind_quiet (leaves_modifyGet fun _ => rfl) (fun waiting => ?_) (.inl rfl)
  cases waiting with
  | false => exact emits_pure (fun _ tries => .inr tries) rfl
  | true =>
    refine emits_bind_quiet (leaves_modifyGet fun _ => rfl) (fun running => ?_) (.inl rfl)
    cases running with
    | false =>
      refine emits_bind (emits_print .blank fun _ tries => tries) bot_le fun _ word blank => emits_stop (.inr ?_)
      rw [List.append_nil]
      exact blank
    | true =>
      refine emits_bind_quiet quiet_nextWithTimeout (fun packet => ?_) (.inl rfl)
      rcases packet with _ | _ | datagram
      · exact onward
      · exact onward
      · show Emits World.sights _ (if _ then _ else if _ then _ else _) _ _ _
        by_cases other : crate.ipv4.nextLevelProtocol datagram.bytes ≠ IpNextHeaderProtocols.Icmp
        · rw [if_pos other]
          exact onward
        · rw [if_neg other]
          by_cases short : ¬ crate.icmp.new (crate.ipv4.payload datagram.bytes)
          · rw [if_pos short]
            exact emits_stop (.inl rfl)
          · rw [if_neg short]
            exact emits_bind_quiet (leaves_modifyGet fun _ => rfl) (fun recvTime => emits_handleDatagram datagram _)
              (.inl rfl)

theorem emits_receiveIcmpReplySafe (fuel : Nat) :
    Emits World.sights (World.Tries ttl) (receiveIcmpReplySafe crate tpConfig fuel)
      (answerLines tpConfig.getLength ttl) (Awaited ttl) interrupted := by
  refine emits_get_bind fun world tries => ?_
  have here : ∀ state, state = world → World.Tries ttl state := fun _ same => same ▸ tries
  refine emits_conseq (emits_bind_quiet (leaves_modifyGet fun _ => rfl) (fun recvTime => ?_) (.inl rfl)) here
    (fun _ => le_rfl) (fun _ _ reached => reached) le_rfl
  have loop := emits_forever (fun _ => World.Tries ttl)
    (fun _ => @emits_receiveStep crate tpConfig ttl (world.runState.sendTime.getD recvTime)) (.inl rfl) fuel ()
  simp only [kstar_one, one_mul] at loop
  exact loop

/-- What an attempt shows behind the line of the answer. -/
def closing (pmtu : UInt32) : ResponseType → Turn Unit AttemptEnd → Language Sight
  | .timeExceeded, .exit .found => 1
  | .reached, .exit .returned => 1
  | .unreachable, .exit .returned => resumeLine pmtu
  | _, _ => 0

/-- The trace goes on behind an attempt that found its router. -/
def AttemptEnded (ttl : UInt8) (ends : AttemptEnd) (world : World) : Prop := ends = .found → world.Tries ttl

theorem emits_endedBy (response : ResponseType) :
    Emits World.sights (Awaited ttl (.ok response)) (endedBy tpConfig response)
      (closing tpConfig.getLength response) (Turn.post (fun _ _ => False) (AttemptEnded ttl)) 0 := by
  cases response with
  | reached =>
    exact emits_done fun world _ => ⟨_, _, rfl, nofun, [], rfl, sights_append world [.returned _ .reached]⟩
  | timeExceeded => exact emits_pure (fun _ awaited _ => awaited.resolve_left nofun) rfl
  | unreachable =>
    refine emits_done fun world awaited => ⟨_, _, rfl, nofun, _, rfl, ?_⟩
    obtain ⟨-, hopsTo, hopsFrom⟩ := awaited.resolve_left nofun
    refine (sights_append _ [.returned _ .unreachable]).trans ((List.append_nil _).trans ?_)
    refine (sights_append world [.printed (printResume tpConfig world.runState)]).trans ?_
    show world.sights ++ [Sight.line (printResume tpConfig world.runState)] = _
    rw [printResume, hopsTo, hopsFrom]

/-- What an attempt shows. -/
def attemptSights (pmtu : UInt32) (ttl : UInt8) : Turn Unit AttemptEnd → Language Sight :=
  Turn.spells (failed ttl) fun
    | .found => isProbed ttl * hopLine ttl
    | .returned => isProbed ttl * lastLines pmtu ttl

/-- The answer and what follows it end an attempt whose probe went out. -/
theorem closing_le_leftQuotient {pmtu : UInt32} {response : ResponseType} {lines : List Sight}
    (answer : lines ∈ answerLines pmtu ttl (.ok response)) (turn : Turn Unit AttemptEnd) :
    closing pmtu response turn ≤
      ((attemptSights pmtu ttl turn).leftQuotient [.probe ttl true]).leftQuotient lines := by
  intro rest isRest
  have probed : ∀ words : Language Sight, lines ++ rest ∈ words →
      Sight.probe ttl true :: (lines ++ rest) ∈ isProbed ttl * words :=
    fun words member => Language.append_mem_mul (mem_isProbed ttl) member
  rcases turn with _ | _ | _
  · cases response <;> exact isRest.elim
  · cases response with
    | timeExceeded => exact probed _ (by rw [show rest = [] from isRest, List.append_nil]; exact answer)
    | reached | unreachable => exact isRest.elim
  · cases response with
    | timeExceeded => exact isRest.elim
    | reached => exact probed _ (.inl (by rw [show rest = [] from isRest, List.append_nil]; exact answer))
    | unreachable => exact probed _ (.inr (Language.append_mem_mul answer isRest))

theorem emits_attempt (fuel : Nat) :
    Emits World.sights (World.Tries ttl) (attempt crate tpConfig fuel) (attemptSights tpConfig.getLength ttl)
      (Turn.post (fun _ => World.Tries ttl) (AttemptEnded ttl)) (isProbed ttl * interrupted) := by
  refine emits_bind emits_sendProbe bot_le fun sent word probed => ?_
  cases sent with
  | error message => exact emits_pure_behind (fun _ tries => tries) (probed.imp id .inl)
  | ok =>
    rw [show word = [.probe ttl true] from probed]
    have awaited : interrupted ≤ (isProbed ttl * interrupted).leftQuotient [.probe ttl true] :=
      fun _ member => Language.append_mem_mul (mem_isProbed ttl) member
    refine emits_bind (emits_receiveIcmpReplySafe fuel) awaited fun received lines answer => ?_
    cases received with
    | error message =>
      refine emits_pure (fun _ reached => reached.resolve_left nofun) ?_
      rw [show lines = [] from answer]
      exact .inr (.inr rfl)
    | ok response =>
      refine emits_conseq (emits_endedBy response) (fun _ reached => reached) (closing_le_leftQuotient answer)
        (fun turn _ ends => ?_) bot_le
      cases turn with
      | next => exact ends.elim
      | exit => exact ends

/-- What a TTL shows. -/
def ttlSights (pmtu : UInt32) (ttl : UInt8) : Turn Unit Unit → Language Sight :=
  Turn.spells (passed ttl) fun _ => ended pmtu ttl

theorem emits_traceTtl (fuel ttl : Nat) :
    Emits World.sights (fun world => world.runState.hopsTo = 0 ∧ world.runState.hopsFrom = 0)
      (traceTtl crate tpConfig fuel ttl) (ttlSights tpConfig.getLength (UInt8.ofNat ttl))
      (Turn.post (fun _ world => world.runState.hopsTo = 0 ∧ world.runState.hopsFrom = 0) fun _ _ => True)
      (cutShort (UInt8.ofNat ttl)) := by
  have started : Emits World.sights (fun world => world.runState.hopsTo = 0 ∧ world.runState.hopsFrom = 0)
      (modify fun world : World => { world with runState := world.runState.setTtl (UInt8.ofNat ttl) })
      (fun _ => 1) (fun _ => World.Tries (UInt8.ofNat ttl)) 0 :=
    emits_modify fun world fresh => ⟨⟨rfl, fresh.1, fresh.2⟩, [], rfl, (List.append_nil _).symm⟩
  have attempts := @emits_forRange Sight World Unit AttemptEnd World.sights (fun _ _ => attempt crate tpConfig fuel)
    (fun _ => failed (UInt8.ofNat ttl)) _ _ (fun _ _ => World.Tries (UInt8.ofNat ttl)) _ 0 3
    (fun _ _ _ _ => emits_attempt fuel) ()
  refine emits_bind_wordless started fun _ => ?_
  refine emits_bind attempts le_rfl fun turn word shown => ?_
  rcases turn with _ | _ | _
  · -- three attempts came to nothing
    have thrice : word ∈ failed (UInt8.ofNat ttl) ^ 3 := each_const (failed (UInt8.ofNat ttl)) ▸ shown
    refine emits_bind (emits_print _ fun _ tries => tries) bot_le fun _ line isLine => ?_
    have unanswered : word ++ line ∈ passed (UInt8.ofNat ttl) := .inr (Language.append_mem_mul thrice isLine)
    exact emits_pure_behind (fun _ tries => ⟨tries.hopsTo, tries.hopsFrom⟩) unanswered
  · exact emits_pure_behind (fun _ found => ⟨(found rfl).hopsTo, (found rfl).hopsFrom⟩) (.inl shown)
  · exact emits_pure_behind (fun _ _ => trivial) shown

/-- A run adds a complete transcript if it returns, and one that breaks off at an awaited answer if it stops. -/
theorem emits_tracepathRunIcmpIpv4 (fuel : Nat) :
    Emits World.sights (fun world => world.runState.hopsTo = 0 ∧ world.runState.hopsFrom = 0)
      (tracepathRunIcmpIpv4 crate tpConfig fuel) (fun _ => complete tpConfig.getLength tpConfig.getHops.toNat)
      (fun _ _ => True) (incomplete tpConfig.getHops.toNat) := by
  have loop := @emits_forRange Sight World Unit Unit World.sights (fun ttl _ => traceTtl crate tpConfig fuel ttl)
    (fun ttl => passed (UInt8.ofNat ttl)) (fun ttl _ => ended tpConfig.getLength (UInt8.ofNat ttl))
    (fun ttl => cutShort (UInt8.ofNat ttl))
    (fun _ _ world => world.runState.hopsTo = 0 ∧ world.runState.hopsFrom = 0) (fun _ _ => True) 1 tpConfig.getHops.toNat
    (fun ttl _ _ _ => emits_traceTtl fuel ttl) ()
  refine emits_bind loop le_rfl fun turn word shown => ?_
  cases turn with
  | next =>
    refine emits_conseq (emits_print .tooManyHops fun _ fresh => fresh) (fun _ fresh => fresh) (fun _ line isLine => ?_)
      (fun _ _ _ => trivial) bot_le
    exact .inl (Language.append_mem_mul shown isLine)
  | exit => exact emits_pure_behind (fun _ _ => trivial) (.inr shown)

end

/-- In every run, a trace that returns has shown a complete transcript, and one that stops has broken off at a TTL whose
answer it waited for. -/
theorem tracepathRunIcmpIpv4_transcript (crate : Crate) (tpConfig : TracepathConfig) (fuel : Nat) (target : Ipv4Addr)
    (sendAnswers : Stream' SendAnswers) (packets : Stream' (Except String (Option Datagram)))
    (instants : Stream' Instant) (withinTimeout isRunning : Stream' Bool) :
    (tracepathRunIcmpIpv4 crate tpConfig fuel
      (.start tpConfig target sendAnswers packets instants withinTimeout isRunning)).Shows World.sights
      (fun _ => complete tpConfig.getLength tpConfig.getHops.toNat) (incomplete tpConfig.getHops.toNat) :=
  (emits_tracepathRunIcmpIpv4 fuel).transcript ⟨rfl, rfl⟩ rfl

end Utiputils.Tracepath.Icmp
