import Utiputils.Tracepath.Run

/-! # Is every TTL accounted for?

A TTL is settled when a line was printed for it, or when a message that its place drops without a line
was credited to it. The loop leaves a TTL only when it is settled, except that a message that ends the
trace may be credited to another TTL than the current one. -/

namespace Utiputils.Tracepath

open Utiputils.Lib Utiputils.Pnet Proc

/-! ## Reading the log -/

/-- A probe with the TTL was attempted. -/
def Attempted (log : List Event) (ttl : UInt8) : Prop :=
  ∃ port payloadLen sent, .probe port ttl payloadLen sent ∈ log

/-- A line was printed for the TTL. -/
def Accounted (log : List Event) (ttl : UInt8) : Prop :=
  ∃ line : Line, .printed line ∈ log ∧ line.ttl? = some ttl

/-- The messages that a loop enters as an answer and prints nothing for. -/
def ErrorInfo.DroppedAt (errorInfo : ErrorInfo) : Place → Prop
  | .drain => errorInfo.errno ≠ 111 ∧ errorInfo.errno ≠ 113 ∧
      (errorInfo.errno = 110 → errorInfo.sourceAddr = none)
  | .wait => errorInfo.origin ≠ SO_EE_ORIGIN_LOCAL ∧ errorInfo.errno ≠ 111 ∧
      (errorInfo.errno = 113 → errorInfo.IsHopLimit ∧ errorInfo.sourceAddr = none) ∧
      (errorInfo.errno = 110 → errorInfo.sourceAddr = none)
  | .discovery | .afterSend => False

/-- The messages that end the trace. -/
def ErrorInfo.EndsAt (errorInfo : ErrorInfo) : Place → Prop
  | .drain => errorInfo.errno = 111 ∨ errorInfo.errno = 113
  | .afterSend => errorInfo.origin ≠ SO_EE_ORIGIN_LOCAL ∧ errorInfo.errno = 111
  | .wait =>
      (errorInfo.origin = SO_EE_ORIGIN_LOCAL ∧
        (errorInfo.errno = 113 ∨ errorInfo.errno = 101 ∨ errorInfo.errno = 13)) ∨
      (errorInfo.origin ≠ SO_EE_ORIGIN_LOCAL ∧
        (errorInfo.errno = 111 ∨ (errorInfo.errno = 113 ∧ ¬ errorInfo.IsHopLimit)))
  | .discovery => False

/-- A dropped message was credited to the TTL. -/
def Dropped (log : List Event) (ttl : UInt8) : Prop :=
  ∃ place message current, .credited place message ttl current ∈ log ∧ message.errorInfo.DroppedAt place

def Settled (log : List Event) (ttl : UInt8) : Prop := Accounted log ttl ∨ Dropped log ttl

/-- A message that ends the trace was credited to the TTL. -/
def EndedFor (log : List Event) (ttl : UInt8) : Prop :=
  ∃ place message current, .credited place message ttl current ∈ log ∧ message.errorInfo.EndsAt place

theorem Settled.append {log : List Event} {ttl : UInt8} (settled : Settled log ttl) (more : List Event) :
    Settled (log ++ more) ttl := by
  rcases settled with ⟨line, member, shows⟩ | ⟨place, message, current, member, dropped⟩
  · exact .inl ⟨line, List.mem_append_left _ member, shows⟩
  · exact .inr ⟨place, message, current, List.mem_append_left _ member, dropped⟩

/-! ## What the places print -/

/-- A line for the credited TTL. -/
def Handled.Reports (handled : Handled) : Prop :=
  ∃ line ∈ handled.lines, line.ttl? = some handled.credit

section

variable (tpConfig : TracepathConfig) (message : Message) (runState : RunState)

theorem drainMessage_reports :
    let handled := drainMessage tpConfig message runState
    (handled.Reports ∧ handled.response.isSome) ∨
      (handled.response = none ∧ message.errorInfo.DroppedAt .drain) := by
  simp only [drainMessage, ErrorInfo.DroppedAt, Handled.Reports]
  split_ifs with refused unreachable timedOut
  · exact .inl ⟨⟨_, List.mem_cons_self, rfl⟩, rfl⟩
  · exact .inl ⟨⟨_, List.mem_cons_self, rfl⟩, rfl⟩
  · cases source : message.errorInfo.sourceAddr with
    | none => exact .inr ⟨rfl, refused, unreachable, fun _ => rfl⟩
    | some addr => exact .inl ⟨⟨_, List.mem_cons_self, rfl⟩, rfl⟩
  · exact .inr ⟨rfl, refused, unreachable, fun timed => absurd timed timedOut⟩

theorem waitMessage_reports :
    let handled := waitMessage tpConfig message runState
    (handled.Reports ∧ handled.response.isSome) ∨
      (handled.response = none ∧ message.errorInfo.DroppedAt .wait) := by
  simp only [waitMessage, ErrorInfo.DroppedAt, Handled.Reports]
  split_ifs with isLocal terminal refused unreachable hopLimit timedOut
  · exact .inl ⟨⟨_, List.mem_cons_self, rfl⟩, rfl⟩
  · exact .inl ⟨⟨_, List.mem_cons_self, rfl⟩, rfl⟩
  · exact .inl ⟨⟨_, List.mem_cons_self, rfl⟩, rfl⟩
  · cases source : message.errorInfo.sourceAddr with
    | none => exact .inr ⟨rfl, isLocal, refused, fun _ => ⟨hopLimit, rfl⟩, fun _ => rfl⟩
    | some addr => exact .inl ⟨⟨_, List.mem_cons_self, rfl⟩, rfl⟩
  · exact .inl ⟨⟨_, List.mem_cons_self, rfl⟩, rfl⟩
  · cases source : message.errorInfo.sourceAddr with
    | none => exact .inr ⟨rfl, isLocal, refused, fun errno => absurd errno unreachable, fun _ => rfl⟩
    | some addr => exact .inl ⟨⟨_, List.mem_cons_self, rfl⟩, rfl⟩
  · exact .inr ⟨rfl, isLocal, refused, fun errno => absurd errno unreachable,
      fun errno => absurd errno timedOut⟩

theorem drainMessage_endsAt (terminal : (drainMessage tpConfig message runState).ends.isSome) :
    message.errorInfo.EndsAt .drain := by
  simp only [drainMessage, ErrorInfo.EndsAt] at *
  split_ifs at terminal with refused unreachable
  · exact .inl refused
  · exact .inr unreachable
  · cases source : message.errorInfo.sourceAddr <;> simp [Handled.ends, source] at terminal
  · simp [Handled.ends] at terminal

theorem waitMessage_endsAt (terminal : (waitMessage tpConfig message runState).ends.isSome) :
    message.errorInfo.EndsAt .wait := by
  simp only [waitMessage, ErrorInfo.EndsAt] at *
  split_ifs at terminal with isLocal ending refused unreachable hopLimit timedOut
  · exact .inl ⟨isLocal, ending⟩
  · simp [Handled.ends] at terminal
  · exact .inr ⟨isLocal, .inl refused⟩
  · cases source : message.errorInfo.sourceAddr <;> simp [Handled.ends, source] at terminal
  · exact .inr ⟨isLocal, .inr ⟨unreachable, hopLimit⟩⟩
  · cases source : message.errorInfo.sourceAddr <;> simp [Handled.ends, source] at terminal
  · simp [Handled.ends] at terminal

/-- The check after a send returns a response for a reached target only, and then it prints the line. -/
theorem afterSendMessage_response (response : ResponseType)
    (isResponse : (afterSendMessage tpConfig message runState).response = some response) :
    response = .reached ∧ (afterSendMessage tpConfig message runState).Reports ∧
      message.errorInfo.EndsAt .afterSend := by
  simp only [afterSendMessage, ErrorInfo.EndsAt, Handled.Reports] at *
  split_ifs at isResponse with isLocal refused
  cases isResponse
  simp only [if_neg isLocal, if_pos refused]
  exact ⟨trivial, ⟨_, List.mem_cons_self, rfl⟩, isLocal, refused⟩

end

/-! ## The invariant -/

/-- Of the attempted TTLs, all but the largest are settled. -/
def EarlierSettled (log : List Event) : Prop :=
  ∀ ttl, Attempted log ttl → ∀ earlier : UInt8, 1 ≤ earlier.toNat →
    earlier.toNat < ttl.toNat → Settled log earlier

/-- The trace has been ended by a message that has its line. -/
def Ended (log : List Event) : Prop := ∃ ttl, EndedFor log ttl ∧ Settled log ttl

/-- While the loop is at a TTL: the earlier ones are settled, and so is every TTL entered as answered. -/
structure World.At (ttl : UInt8) (world : World) : Prop where
  current : world.runState.ttl = ttl
  earlier : ∀ other : UInt8, 1 ≤ other.toNat → other.toNat < ttl.toNat → Settled world.log other
  answered : ∀ other, world.ttlResponses other = true → Settled world.log other
  attempted : ∀ other, Attempted world.log other → other.toNat ≤ ttl.toNat

/-- Events are added; those among them that attempt a probe do so with the current TTL. -/
theorem World.At.extend {ttl : UInt8} {world next : World} (before : world.At ttl) {more : List Event}
    (log : next.log = world.log ++ more) (current : next.runState.ttl = world.runState.ttl)
    (answered : ∀ other, next.ttlResponses other = true →
      world.ttlResponses other = true ∨ Settled next.log other)
    (attempts : ∀ port other payloadLen sent, .probe port other payloadLen sent ∈ more → other = ttl) :
    next.At ttl where
  current := current.trans before.current
  earlier other first below := log ▸ (before.earlier other first below).append more
  answered other marked := (answered other marked).elim
    (fun old => log ▸ (before.answered other old).append more) id
  attempted := by
    rintro other ⟨port, payloadLen, sent, member⟩
    rw [log, List.mem_append] at member
    rcases member with old | new
    · exact before.attempted other ⟨port, payloadLen, sent, old⟩
    · rw [attempts port other payloadLen sent new]

theorem World.At.earlierSettled {ttl : UInt8} {world : World} (here : world.At ttl) :
    EarlierSettled world.log :=
  fun other attempted earlier first below =>
    here.earlier earlier first (lt_of_lt_of_le below (here.attempted other attempted))

/-- A handled message: the mark it makes, if it makes one, is settled by its line or by being dropped. -/
theorem World.At.handle {ttl : UInt8} {world : World} (here : world.At ttl) (place : Place)
    (message : Message) (handled : Handled) (current : handled.state.ttl = world.runState.ttl)
    (settles : handled.Reports ∨ message.errorInfo.DroppedAt place) :
    (world.handle place message handled).At ttl ∧
      Settled (world.handle place message handled).log handled.credit := by
  have settled : Settled (world.handle place message handled).log handled.credit := by
    rcases settles with ⟨line, member, shows⟩ | dropped
    · exact .inl ⟨line, by simp [World.handle, member], shows⟩
    · exact .inr ⟨place, message, world.runState.ttl, by simp [World.handle], dropped⟩
  -- a mark is an old one or that of the credited TTL
  refine ⟨here.extend rfl current (fun other marked => ?_) (by simp), settled⟩
  by_cases same : other = handled.credit
  · exact .inr (same ▸ settled)
  · refine .inl ?_
    simp only [World.handle] at marked
    split_ifs at marked
    · rwa [Function.update_of_ne same] at marked
    · exact marked

/-- A message that ends the trace. -/
theorem ended_handle {world : World} {place : Place} {message : Message} {handled : Handled}
    (settled : Settled (world.handle place message handled).log handled.credit)
    (ends : message.errorInfo.EndsAt place) : Ended (world.handle place message handled).log :=
  ⟨handled.credit, ⟨place, message, world.runState.ttl, by simp [World.handle], ends⟩, settled⟩

theorem Ended.append {log : List Event} (ended : Ended log) (more : List Event) : Ended (log ++ more) := by
  obtain ⟨ttl, ⟨place, message, current, member, ends⟩, settled⟩ := ended
  exact ⟨ttl, ⟨place, message, current, List.mem_append_left _ member, ends⟩, settled.append more⟩

/-! ## The processes -/

section

variable {tpConfig : TracepathConfig} {fuel : Nat} {ttl : UInt8}

/-- What stands whenever the run stops for good. -/
abbrev Stopped (world : World) : Prop := EarlierSettled world.log

/-- Reading an answer of the kernel, under an invariant that may say more about the log. -/
theorem triple_receive (extra : List Event → Prop) :
    Triple (fun world : World => world.At ttl ∧ extra world.log) receiveErrorMessageWithPort
      (fun _ world => world.At ttl ∧ extra world.log) Stopped :=
  triple_modifyGet fun _ holds =>
    ⟨⟨holds.1.current, holds.1.earlier, holds.1.answered, holds.1.attempted⟩, holds.2⟩

/-- A drained message keeps the invariant, and one that ends the trace has its line. -/
theorem World.At.drained {world : World} (here : world.At ttl) (message : Message) :
    let handled := drainMessage tpConfig message world.runState
    (world.handle .drain message handled).At ttl ∧
      (handled.ends.isSome → Ended (world.handle .drain message handled).log) := by
  intro handled
  obtain ⟨_, frame⟩ := findSendHistoryByPort_frame world.runState message.receivedPort message.recvTime
  have reports := drainMessage_reports tpConfig message world.runState
  obtain ⟨there, settled⟩ := here.handle .drain message handled (by rw [drainMessage_state, frame])
    (reports.imp And.left And.right)
  exact ⟨there, fun ends => ended_handle settled (drainMessage_endsAt tpConfig message _ ends)⟩

theorem triple_drainStep (carried : Unit) : Triple (fun world : World => world.At ttl ∧ True)
    (drainStep tpConfig carried)
    (Turn.post (fun _ world => world.At ttl ∧ True)
      fun ended world => world.At ttl ∧ (ended = true → Ended world.log)) Stopped := by
  refine triple_bind (triple_receive fun _ => True) fun answer => ?_
  rcases answer with _ | _ | message
  · exact triple_pure fun world here => ⟨here.1, fun isTrue => by cases isTrue⟩
  · exact triple_pure fun world here => ⟨here.1, fun isTrue => by cases isTrue⟩
  · refine triple_bind (triple_handleMessage .drain message _) fun handled => ?_
    have after : ∀ next, (∃ world : World, (world.At ttl ∧ True) ∧
        handled = drainMessage tpConfig message world.runState ∧ next = world.handle .drain message handled) →
        next.At ttl ∧ (handled.ends.isSome → Ended next.log) := by
      rintro next ⟨world, ⟨here, -⟩, rfl, rfl⟩
      exact here.drained message
    cases response : handled.response with
    | none => exact triple_pure fun next reached => ⟨(after next reached).1, trivial⟩
    | some kind =>
      cases kind with
      | timeExceeded => exact triple_pure fun next reached => ⟨(after next reached).1, trivial⟩
      | reached | unreachable =>
        exact triple_pure fun next reached => ⟨(after next reached).1, fun _ => (after next reached).2 (by
          simp [Handled.ends, response])⟩

theorem triple_drain : Triple (World.At ttl) (drain tpConfig fuel)
    (fun ended world => world.At ttl ∧ (ended = true → Ended world.log)) Stopped :=
  triple_conseq (triple_forever (fun _ world => World.At ttl world ∧ True) triple_drainStep
    (fun _ _ here => here.1.earlierSettled) fuel ()) (fun _ here => ⟨here, trivial⟩) fun _ _ reached => reached

/-- What a response of the current attempt says about the log. -/
def ResponseSound (ttl : UInt8) (log : List Event) : ResponseType → Prop
  | .timeExceeded => Settled log ttl
  | .reached | .unreachable => Ended log

theorem triple_sendProbe_at : Triple (World.At ttl) (sendProbe tpConfig)
    (fun result world => world.At ttl ∧
      ∀ response, result = .ok (some response) → ResponseSound ttl world.log response) Stopped := by
  refine triple_conseq (triple_sendProbe fun _ here => here.earlierSettled) (fun _ here => here) ?_
  rintro result next ⟨world, sent, here, built, rfl, rfl⟩
  obtain ⟨current, responds⟩ := sendUdpProbeIpv6_cases built
  refine ⟨here.extend rfl current (fun _ marked => .inl marked) ?_, ?_⟩
  · intro port other payloadLen succeeded member
    simp only [World.creditEvents, List.mem_cons, List.mem_append, Option.mem_toList, List.mem_map,
      Option.map_eq_some_iff] at member
    rcases member with same | ⟨_, _, isCredit⟩ | ⟨_, _, isLine⟩
    · cases same
      exact here.current
    · cases isCredit
    · cases isLine
  · intro response isOk
    obtain ⟨message, recorded, handled, credit, lines⟩ := responds response isOk
    obtain ⟨rfl, ⟨line, member, shows⟩, ends⟩ := afterSendMessage_response tpConfig message recorded response handled
    refine ⟨_, ⟨.afterSend, message, sent.state.ttl, ?_, ends⟩, .inl ⟨line, ?_, shows⟩⟩
    · simp [World.afterSend, World.creditEvents, credit]
    · simp [World.afterSend, World.creditEvents, lines, member]

/-- What the flags of the wait loop say about the log. -/
structure WaitFlags.Sound (flags : WaitFlags) (ttl : UInt8) (log : List Event) : Prop where
  found : flags.foundCurrentTtlResponse = true → Settled log ttl
  terminal : ∀ response, flags.terminalResponse = some response → response ≠ .timeExceeded ∧ Ended log

/-- The wait starts with nothing found. -/
theorem WaitFlags.sound_new (log : List Event) : WaitFlags.Sound {} ttl log where
  found := fun isTrue => by cases isTrue
  terminal := fun _ isSome => by cases isSome

theorem WaitFlags.Sound.responds {flags : WaitFlags} {log : List Event} (sound : flags.Sound ttl log)
    {response : ResponseType} (terminal : flags.terminalResponse = some response) :
    ResponseSound ttl log response := by
  obtain ⟨notHop, ended⟩ := sound.terminal response terminal
  cases response with
  | timeExceeded => exact absurd rfl notHop
  | reached | unreachable => exact ended

/-- A handled message keeps the flags true of the log. -/
theorem WaitFlags.Sound.handled {flags : WaitFlags} {world : World} (sound : flags.Sound ttl world.log)
    (here : world.At ttl) (message : Message) {handled : Handled}
    (isHandled : handled = waitMessage tpConfig message world.runState) :
    (world.handle .wait message handled).At ttl ∧
      (flags.update handled (world.handle .wait message handled).runState.ttl).Sound ttl
        (world.handle .wait message handled).log := by
  obtain ⟨-, -, -, current⟩ := waitMessage_frame tpConfig message world.runState
  have reports := waitMessage_reports tpConfig message world.runState
  obtain ⟨there, settled⟩ := here.handle .wait message (waitMessage tpConfig message world.runState) current
    (reports.imp And.left And.right)
  rw [← isHandled] at there settled
  refine ⟨there, ?_, ?_⟩
  · intro found
    rw [WaitFlags.update, Bool.or_eq_true, Bool.and_eq_true, beq_iff_eq] at found
    rcases found with old | ⟨-, credited⟩
    · exact (sound.found old).append _
    · rwa [credited, there.current] at settled
  · intro response terminal
    have old : flags.terminalResponse = some response → response ≠ .timeExceeded ∧
        Ended (world.handle .wait message handled).log := fun was =>
      ⟨(sound.terminal response was).1, (sound.terminal response was).2.append _⟩
    have ends : handled.ends.isSome → Ended (world.handle .wait message handled).log := fun some =>
      ended_handle settled (waitMessage_endsAt tpConfig message world.runState (isHandled ▸ some))
    -- only a terminal response replaces the one that there was
    cases kind : handled.response with
    | none => exact old (by simpa [WaitFlags.update, kind] using terminal)
    | some kindOf =>
      cases kindOf with
      | timeExceeded => exact old (by simpa [WaitFlags.update, kind] using terminal)
      | reached | unreachable =>
        simp only [WaitFlags.update, kind, Option.some.injEq] at terminal
        exact ⟨by simp [← terminal], ends (by simp [Handled.ends, kind])⟩

theorem triple_waitStep (flags : WaitFlags) :
    Triple (fun world : World => world.At ttl ∧ flags.Sound ttl world.log) (waitStep tpConfig flags)
      (Turn.post (fun flags world => world.At ttl ∧ flags.Sound ttl world.log)
        fun flags world => world.At ttl ∧ flags.Sound ttl world.log) Stopped := by
  refine triple_bind (triple_receive (flags.Sound ttl)) fun answer => ?_
  rcases answer with _ | _ | message
  · exact triple_pure fun _ holds => holds
  · exact triple_pure fun _ holds => holds
  · refine triple_bind (triple_handleMessage .wait message _) fun handled => triple_get_bind ?_
    rintro next ⟨world, ⟨here, sound⟩, isHandled, rfl⟩
    obtain ⟨there, after⟩ := sound.handled here message isHandled
    simp only
    have reached : ∀ world', world' = world.handle .wait message handled → world'.At ttl ∧
        (flags.update handled (world.handle .wait message handled).runState.ttl).Sound ttl world'.log := by
      rintro _ rfl
      exact ⟨there, after⟩
    split_ifs <;> exact triple_pure reached

theorem triple_receiveErrorQueue :
    Triple (World.At ttl) (receiveErrorQueueWithDelayedResponse tpConfig fuel)
      (fun result world => world.At ttl ∧
        ∀ response, result = .ok (some response) → ResponseSound ttl world.log response) Stopped := by
  refine triple_forever (fun _ => World.At ttl) (fun _ => ?_) (fun _ _ here => here.earlierSettled) fuel ()
  have waiting : Triple (World.At ttl) startWaitWithinTimeout (fun _ => World.At ttl) Stopped :=
    triple_modifyGet fun _ here => ⟨here.current, here.earlier, here.answered, here.attempted⟩
  have running : Triple (World.At ttl) isRunning (fun _ => World.At ttl) Stopped :=
    triple_modifyGet fun _ here => ⟨here.current, here.earlier, here.answered, here.attempted⟩
  refine triple_bind waiting fun within => ?_
  cases within with
  | false => exact triple_pure fun world here => ⟨here, fun _ isOk => by cases isOk⟩
  | true =>
    refine triple_bind running fun goesOn => ?_
    cases goesOn with
    | false =>
      -- `request_exit`
      refine triple_bind (triple_modify fun world here => ?_) fun _ =>
        triple_stop fun world (here : world.At ttl) => here.earlierSettled
      exact here.extend rfl rfl (fun _ marked => .inl marked) (by simp)
    | true =>
      refine triple_bind (triple_conseq (triple_forever _ triple_waitStep
        (fun _ _ holds => holds.1.earlierSettled) fuel {}) (fun world here => ⟨here, WaitFlags.sound_new world.log⟩)
        fun _ _ holds => holds) fun flags => ?_
      cases terminal : flags.terminalResponse with
      | some response =>
        refine triple_pure fun world ⟨here, sound⟩ => ⟨here, fun other isOk => ?_⟩
        cases isOk
        exact sound.responds terminal
      | none =>
        simp only
        split_ifs with found
        · refine triple_pure fun world ⟨here, sound⟩ => ⟨here, fun other isOk => ?_⟩
          cases isOk
          exact sound.found found
        · refine triple_bind triple_hasResponse fun answered => ?_
          cases answered with
          | true => exact triple_pure fun world ⟨⟨here, _⟩, _⟩ => ⟨here, fun _ isOk => by cases isOk⟩
          | false => exact triple_pure fun world ⟨⟨here, _⟩, _⟩ => here

/-- How an attempt leaves the loop: the TTL is settled, or the trace has ended. -/
def AttemptSound (ttl : UInt8) (attemptEnd : AttemptEnd) (world : World) : Prop :=
  world.At ttl ∧ match attemptEnd with
    | .found => Settled world.log ttl
    | .returned => Ended world.log

theorem triple_endedBy (response : ResponseType) :
    Triple (fun world : World => world.At ttl ∧ ResponseSound ttl world.log response) (endedBy tpConfig response)
      (Turn.post (fun _ => World.At ttl) (AttemptSound ttl)) Stopped := by
  cases response with
  | reached => exact triple_pure fun _ holds => holds
  | timeExceeded => exact triple_pure fun _ holds => holds
  | unreachable =>
    refine triple_get_bind fun seen ⟨here, ended⟩ => ?_
    have printed : Triple (fun world => world = seen) (print (printResume tpConfig seen.runState))
        (fun _ => AttemptSound ttl .returned) Stopped := by
      refine triple_modify ?_
      rintro _ rfl
      exact ⟨here.extend rfl rfl (fun _ marked => .inl marked) (by simp), Ended.append ended _⟩
    exact triple_bind printed fun _ => triple_pure fun _ holds => holds

/-- Asking whether the current TTL has been answered. -/
theorem triple_answered : Triple (World.At ttl) hasResponse
    (fun answered world => world.At ttl ∧ (answered = true → Settled world.log ttl)) Stopped := by
  refine triple_conseq triple_hasResponse (fun _ here => here) ?_
  rintro _ world ⟨here, rfl⟩
  exact ⟨here, fun marked => here.answered ttl (here.current ▸ marked)⟩

theorem triple_attempt : Triple (World.At ttl) (attempt tpConfig fuel)
    (Turn.post (fun _ => World.At ttl) (AttemptSound ttl)) Stopped := by
  -- an attempt without a response still looks whether the TTL was answered
  have answeredOrNext : Triple (World.At ttl)
      (do if ← hasResponse then pure (.exit .found) else pure (.next ()) : Proc World (Turn Unit AttemptEnd))
      (Turn.post (fun _ => World.At ttl) (AttemptSound ttl)) Stopped := by
    refine triple_bind triple_answered fun answered => ?_
    cases answered with
    | true => exact triple_pure fun _ ⟨here, settled⟩ => ⟨here, settled rfl⟩
    | false => exact triple_pure fun _ ⟨here, _⟩ => here
  refine triple_bind triple_drain fun ended => ?_
  cases ended with
  | true => exact triple_pure fun _ ⟨here, ended⟩ => ⟨here, ended rfl⟩
  | false =>
    refine triple_bind (triple_conseq triple_sendProbe_at (fun _ holds => holds.1) fun _ _ holds => holds)
      fun sent => ?_
    rcases sent with _ | _ | response
    · exact triple_pure fun _ ⟨here, _⟩ => here
    · refine triple_bind (triple_conseq triple_receiveErrorQueue (fun _ holds => holds.1) fun _ _ holds => holds)
        fun received => ?_
      rcases received with _ | _ | response
      · exact triple_conseq answeredOrNext (fun _ holds => holds.1) fun _ _ holds => holds
      · exact triple_conseq answeredOrNext (fun _ holds => holds.1) fun _ _ holds => holds
      · exact triple_conseq (triple_endedBy response) (fun _ holds => ⟨holds.1, holds.2 _ rfl⟩)
          fun _ _ holds => holds
    · exact triple_conseq (triple_endedBy response) (fun _ holds => ⟨holds.1, holds.2 _ rfl⟩)
        fun _ _ holds => holds

/-- At the head of the loop: all smaller TTLs are settled, and no other has been attempted. -/
structure World.Before (next : Nat) (world : World) : Prop where
  earlier : ∀ other : UInt8, 1 ≤ other.toNat → other.toNat < next → Settled world.log other
  answered : ∀ other, world.ttlResponses other = true → Settled world.log other
  attempted : ∀ other, Attempted world.log other → other.toNat < next

/-- Leaving a TTL that is settled. -/
theorem World.At.before {world : World} (here : world.At ttl) (settled : Settled world.log ttl) :
    world.Before (ttl.toNat + 1) where
  earlier other first below := by
    by_cases same : other = ttl
    · exact same ▸ settled
    · have different : other.toNat ≠ ttl.toNat := fun equal => same (UInt8.toNat_inj.mp equal)
      exact here.earlier other first (by omega)
  answered := here.answered
  attempted other attempted := Nat.lt_succ_of_le (here.attempted other attempted)

theorem triple_traceTtl (index : Nat) (first : 1 ≤ index) (small : index < 256) :
    Triple (World.Before index) (traceTtl tpConfig fuel index)
      (Turn.post (fun _ => World.Before (index + 1))
        fun _ world => EarlierSettled world.log ∧ Ended world.log) Stopped := by
  have exactly : (UInt8.ofNat index).toNat = index := by
    rw [UInt8.toNat_ofNat']
    omega
  have entered : Triple (World.Before index) (modify fun world : World => world.setTtl (UInt8.ofNat index))
      (fun _ => World.At (UInt8.ofNat index)) Stopped := triple_modify fun world head =>
    { current := rfl
      earlier := fun other least below => head.earlier other least (by omega)
      answered := head.answered
      attempted := fun other attempted => by
        have := head.attempted other attempted
        omega }
  refine triple_bind entered fun _ => triple_bind (triple_conseq
    (triple_forRange (fun _ _ => World.At (UInt8.ofNat index)) (fun _ _ _ _ => triple_attempt) ())
    (fun _ here => here) fun _ _ holds => holds) fun turn => ?_
  rcases turn with _ | _ | _
  · refine triple_bind triple_answered fun answered => ?_
    cases answered with
    | true => exact triple_pure fun world ⟨here, settled⟩ => exactly ▸ here.before (settled rfl)
    | false =>
      -- no reply: the line that is printed accounts for the TTL
      have printing : Triple (fun world : World => world.At (UInt8.ofNat index) ∧
          (false = true → Settled world.log (UInt8.ofNat index))) (print (.noReply (UInt8.ofNat index)))
          (fun _ => World.Before (index + 1)) Stopped := by
        refine triple_modify fun world ⟨here, _⟩ => ?_
        have printed : (world.record [.printed (.noReply (UInt8.ofNat index))]).At (UInt8.ofNat index) :=
          here.extend rfl rfl (fun _ marked => .inl marked) (by simp)
        have head := printed.before (.inl ⟨.noReply (UInt8.ofNat index), by simp [World.record], rfl⟩)
        rwa [exactly] at head
      exact triple_bind printing fun _ => triple_pure fun _ head => head
  · exact triple_pure fun world ⟨here, settled⟩ => exactly ▸ here.before settled
  · exact triple_pure fun world ⟨here, ended⟩ => ⟨here.earlierSettled, ended⟩

/-- What stands when the run returns. -/
def Returned (world : World) : Prop :=
  EarlierSettled world.log ∧ ((∀ ttl, Attempted world.log ttl → 1 ≤ ttl.toNat → Settled world.log ttl) ∨
    Ended world.log)

theorem World.Before.earlierSettled {next : Nat} {world : World} (head : world.Before next) :
    EarlierSettled world.log :=
  fun ttl attempted other first below => head.earlier other first (below.trans (head.attempted ttl attempted))

/-- Before the first TTL nothing has been attempted. -/
theorem triple_discover_before :
    Triple (fun world => world.log = [] ∧ ∀ other, world.ttlResponses other = false) discover
      (fun _ => World.Before 1) Stopped := by
  have nothing : ∀ world : World, world.log = [] ∧ (∀ other, world.ttlResponses other = false) →
      Stopped world := by
    rintro world ⟨empty, -⟩ ttl ⟨port, payloadLen, sent, member⟩
    simp [empty] at member
  refine triple_conseq (triple_discover nothing) (fun _ fresh => fresh) ?_
  rintro _ next ⟨world, sent, ⟨empty, unmarked⟩, -, rfl⟩
  refine ⟨fun other first below => by omega, fun other marked => ?_, ?_⟩
  · exact absurd ((unmarked other).symm.trans marked) Bool.false_ne_true
  · rintro other ⟨port, payloadLen, succeeded, member⟩
    simp [World.afterDiscovery, World.creditEvents, empty] at member

theorem triple_tracepathRunUdpIpv6 :
    Triple (fun world => world.log = [] ∧ ∀ other, world.ttlResponses other = false)
      (tracepathRunUdpIpv6 tpConfig fuel) (fun _ => Returned) Stopped := by
  have bound := tpConfig.getHops.toNat_lt
  refine triple_bind triple_discover_before fun _ => triple_bind
    (triple_forRange (fun index _ => World.Before index)
      (fun index _ first last => triple_traceTtl index first (by omega)) ()) fun turn => ?_
  cases turn with
  -- the trace was ended inside the loop over TTLs
  | exit => exact triple_pure fun world ⟨earlier, ended⟩ => ⟨earlier, .inr ended⟩
  | next =>
    refine triple_modify fun world head => ?_
    have settled : ∀ ttl, Attempted (world.record [.printed .tooManyHops]).log ttl → 1 ≤ ttl.toNat →
        Settled (world.record [.printed .tooManyHops]).log ttl := by
      rintro ttl ⟨port, payloadLen, sent, member⟩ first
      have attempted : Attempted world.log ttl := ⟨port, payloadLen, sent, by simpa [World.record] using member⟩
      exact (head.earlier ttl first (head.attempted ttl attempted)).append _
    refine ⟨?_, .inl settled⟩
    rintro ttl ⟨port, payloadLen, sent, member⟩ earlier first below
    have attempted : Attempted world.log ttl := ⟨port, payloadLen, sent, by simpa [World.record] using member⟩
    exact (head.earlierSettled ttl attempted earlier first below).append _

end

/-- What a run that follows the invariant has settled, for a TTL up to an attempted one. -/
theorem accounts_of_triple {pre : World → Prop} {process : Proc World Unit}
    (spec : Triple pre process (fun _ => Returned) Stopped) {world : World} (started : pre world)
    {ttl other : UInt8} (attempted : Attempted (process world).state.log ttl) (first : 1 ≤ other.toNat)
    (upTo : other.toNat ≤ ttl.toNat) :
    Settled (process world).state.log other ∨
      (other = ttl ∧ ((process world).isDone → ∃ last, last ≠ ttl ∧ EndedFor (process world).state.log last)) := by
  have reached := spec world started
  cases ran : process world with
  | stopped final =>
    rw [ran] at reached attempted
    rcases Nat.lt_or_eq_of_le upTo with below | equal
    · exact .inl (reached ttl attempted other first below)
    · exact .inr ⟨UInt8.toNat_inj.mp equal, fun isDone => by cases isDone⟩
  | done _ final =>
    rw [ran] at reached attempted
    rcases Nat.lt_or_eq_of_le upTo with below | equal
    · exact .inl (reached.1 ttl attempted other first below)
    · have same : other = ttl := UInt8.toNat_inj.mp equal
      subst same
      rcases reached.2 with settled | ⟨last, ended, settled⟩
      · exact .inl (settled other attempted first)
      -- the message that ended the trace has its line, under the TTL it was credited to
      · by_cases credited : last = other
        · exact .inl (credited ▸ settled)
        · exact .inr ⟨rfl, fun _ => ⟨last, credited, ended⟩⟩

/-- In every run, every TTL below an attempted one has a line or had a dropped message credited to it;
and when the run has returned this also holds of the last one, unless the trace was ended by a message
credited to another TTL. -/
theorem tracepathRunUdpIpv6_accounts (tpConfig : TracepathConfig) (target : IpAddr)
    (pmtuAnswers : PmtuAnswers) (sendAnswers : Stream' SendAnswers) (queueAnswers : Stream' QueueAnswer)
    (withinTimeout isRunning : Stream' Bool) (fuel : Nat) :
    let outcome := tracepathRunUdpIpv6 tpConfig fuel
      (World.start tpConfig target pmtuAnswers sendAnswers queueAnswers withinTimeout isRunning)
    let log := outcome.state.log
    ∀ ttl, Attempted log ttl → ∀ other : UInt8, 1 ≤ other.toNat → other.toNat ≤ ttl.toNat →
      Accounted log other ∨ Dropped log other ∨
        (other = ttl ∧ (outcome.isDone → ∃ last, last ≠ ttl ∧ EndedFor log last)) := by
  intro outcome log ttl attempted other first upTo
  exact or_assoc.mp (accounts_of_triple triple_tracepathRunUdpIpv6 ⟨rfl, fun _ => rfl⟩ attempted first upTo)

/-! ## Runs that leave a TTL out

In the first an answer of the target to the first probe of TTL 1 arrives while the probe with TTL 2 is
out, and ends the trace. In the second a router reports that the destination is administratively
prohibited, and the wait loop drops the message. -/

def refusedFrom44444 : Message :=
  ⟨⟨111, SO_EE_ORIGIN_ICMP6, 1, 4, 0, some (.v6 ⟨Vector.replicate 16 2⟩)⟩, 44444, 9000⟩

def lateAnswer : World :=
  World.start twoHops (.v6 ⟨Vector.replicate 16 2⟩) ⟨100, .ok (), .ok none⟩
    (fun _ => ⟨.ok 500, .ok none⟩)
    (fun call => if call = 4 then .ok (some refusedFrom44444) else .ok none)
    (fun call => 3 ≤ call) fun _ => true

def lateAnswerLog : List Event := [
  .discovery 44444,
  .probe 44444 1 1452 true,
  .probe 44445 1 1452 true,
  .probe 44446 1 1452 true,
  .printed (.noReply 1),
  .probe 44447 2 1452 true,
  .credited .wait refusedFrom44444 1 2,
  .printed (.reached 1 (.v6 ⟨Vector.replicate 16 2⟩) 8500),
  .printed (.resume 1500 1 1)]

theorem lateAnswer_log : (tracepathRunUdpIpv6 twoHops 5 lateAnswer).state.log = lateAnswerLog := by
  decide +kernel

theorem lateAnswer_attempted :
    Attempted (tracepathRunUdpIpv6 twoHops 5 lateAnswer).state.log 2 :=
  ⟨44447, 1452, true, by rw [lateAnswer_log]; decide⟩

/-- TTL 1 is below the attempted TTL 2. -/
theorem tracepathRunUdpIpv6_accounts_lateAnswer :
    let log := (tracepathRunUdpIpv6 twoHops 5 lateAnswer).state.log
    Accounted log 1 ∨ Dropped log 1 ∨ ((1 : UInt8) = 2 ∧
      ((tracepathRunUdpIpv6 twoHops 5 lateAnswer).isDone → ∃ last, last ≠ 2 ∧ EndedFor log last)) :=
  tracepathRunUdpIpv6_accounts twoHops _ _ _ _ _ _ 5 2 lateAnswer_attempted 1 (by decide) (by decide)

def prohibitedFrom44444 : Message :=
  ⟨⟨13, SO_EE_ORIGIN_ICMP6, 1, 1, 0, some (.v6 ⟨Vector.replicate 16 1⟩)⟩, 44444, 9000⟩

def prohibited : World :=
  World.start twoHops (.v6 ⟨Vector.replicate 16 2⟩) ⟨100, .ok (), .ok none⟩
    (fun _ => ⟨.ok 500, .ok none⟩)
    (fun call => if call = 1 then .ok (some prohibitedFrom44444) else .ok none)
    (fun call => call = 0) fun _ => true

def prohibitedLog : List Event := [
  .discovery 44444,
  .probe 44444 1 1452 true,
  .credited .wait prohibitedFrom44444 1 1,
  .probe 44445 2 1452 true,
  .probe 44446 2 1452 true,
  .probe 44447 2 1452 true,
  .printed (.noReply 2),
  .printed .tooManyHops]

theorem prohibited_log : (tracepathRunUdpIpv6 twoHops 5 prohibited).state.log = prohibitedLog := by
  decide +kernel

/-- Every TTL up to an attempted one has a line. -/
def AllAccounted (log : List Event) : Prop :=
  ∀ ttl, Attempted log ttl → ∀ other : UInt8, 1 ≤ other.toNat → other.toNat ≤ ttl.toNat → Accounted log other

/-- In the first run the trace is over and TTL 2 has no line, in the second TTL 1 has none. -/
theorem lateAnswer_not_allAccounted :
    ((tracepathRunUdpIpv6 twoHops 5 lateAnswer).isDone ∧
        ¬ AllAccounted (tracepathRunUdpIpv6 twoHops 5 lateAnswer).state.log) ∧
      ¬ AllAccounted (tracepathRunUdpIpv6 twoHops 5 prohibited).state.log := by
  refine ⟨⟨by decide +kernel, fun accounted => ?_⟩, fun accounted => ?_⟩
  · obtain ⟨line, member, shows⟩ := accounted 2 lateAnswer_attempted 2 (by decide) (by decide)
    rw [lateAnswer_log] at member
    simp only [lateAnswerLog, List.mem_cons, List.not_mem_nil, or_false, reduceCtorEq, false_or,
      Event.printed.injEq] at member
    rcases member with rfl | rfl | rfl <;> exact absurd shows (by decide)
  · rw [prohibited_log] at accounted
    obtain ⟨line, member, shows⟩ := accounted 2 ⟨44445, 1452, true, by decide⟩ 1 (by decide) (by decide)
    simp only [prohibitedLog, List.mem_cons, List.not_mem_nil, or_false, reduceCtorEq, false_or,
      Event.printed.injEq] at member
    rcases member with rfl | rfl <;> exact absurd shows (by decide)

end Utiputils.Tracepath
