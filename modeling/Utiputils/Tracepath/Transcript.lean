import Utiputils.Lib.Transcript
import Utiputils.Tracepath.Run

/-! # The transcript of the IPv6 trace

What a trace shows, probes and lines in their order, and which TTLs it hears answers for, as a language. Answers to
earlier probes may come at any time, so that the lines of routers may stand anywhere; the probes, the lines for the TTLs
without an answer and the lines that end the trace have their places. -/

namespace Utiputils.Tracepath

open Utiputils.Lib Utiputils.Pnet Proc Transcript
open scoped Computability

/-! ## What is shown -/

inductive Sight where
  | discovery
  /-- a probe with the TTL, and whether it went out -/
  | probe (ttl : UInt8) (sent : Bool)
  /-- a message that is entered as an answer for the TTL -/
  | answered (ttl : UInt8)
  | line (line : Line)
  deriving DecidableEq, Repr

def Event.sight : Event → Option Sight
  | .discovery _ => some .discovery
  | .probe _ ttl _ sent => some (.probe ttl sent)
  -- the senders print what they dequeue but enter nothing
  | .credited .discovery .. | .credited .afterSend .. => none
  | .credited .drain _ ttl _ | .credited .wait _ ttl _ => some (.answered ttl)
  | .printed line => some (.line line)

def World.sights (world : World) : List Sight := world.log.filterMap Event.sight

/-! ## The language of a trace -/

def heard : Language Sight := {word | ∃ ttl, word = [.answered ttl]}

/-- A line about a host on the way. -/
def hopLine : Language Sight := {word | ∃ ttl source rtt, word = [.line (.hop ttl source rtt)]}

/-- A line about this host. -/
def localLine : Language Sight := {word | ∃ ttl rtt outcome, word = [.line (.localhost ttl rtt outcome)]}

/-- What may be told at any time: an answer is entered, or there is a line about it. -/
def remark : Language Sight := heard + (hopLine + localLine)

def remarks : Language Sight := remark∗

def hostLine : Language Sight := {word | ∃ ttl rtt, word = [.line (.unreachable ttl rtt)]}

section

variable (target : IpAddr) (pmtu : UInt32)

def reachedLines : Language Sight :=
  {word | ∃ ttl rtt hopsTo hopsFrom, word = [.line (.reached ttl target rtt), .line (.resume pmtu hopsTo hopsFrom)]}

def resumeLine : Language Sight := {word | ∃ hopsTo hopsFrom, word = [.line (.resume pmtu hopsTo hopsFrom)]}

/-- What the wait for an answer prints about messages: the routers, the target, and hosts that cannot be reached. -/
def reports : Language Sight := (remark + (reachedLines target pmtu + hostLine))∗

/-- Reports, where the last message that ends the trace is of this kind. -/
def verdict : ResponseType → Language Sight
  | .reached => reports target pmtu * (reachedLines target pmtu * remarks)
  | .unreachable => reports target pmtu * ((hostLine + localLine) * remarks)
  | .timeExceeded => 0

def isProbed (ttl : UInt8) : Language Sight := {[.probe ttl true]}

/-- An attempt that does not end the trace. -/
def attempted (ttl : UInt8) : Language Sight := remarks * ({[.probe ttl false]} + isProbed ttl * remarks)

/-- An attempt that ends it, before its probe or behind it. -/
def lastAttempt (ttl : UInt8) : Language Sight :=
  remarks * ((reachedLines target pmtu + hostLine * resumeLine pmtu) +
    isProbed ttl * (verdict target pmtu .reached + verdict target pmtu .unreachable * resumeLine pmtu))

/-- An attempt at which the trace stops. -/
def brokenAttempt (ttl : UInt8) : Language Sight :=
  remarks * ({[]} + isProbed ttl * (reports target pmtu + remarks * {[.line .blank]}))

/-- Fewer than three attempts, and then the last one. -/
def thirdAtMost (ttl : UInt8) (last : Language Sight) : Language Sight := upTo (fun _ => attempted ttl)
    (fun _ => last) 0 3

def withAnswer (ttl : UInt8) (words : Language Sight) : Language Sight := {word | word ∈ words ∧ .answered ttl ∈ word}

def withoutAnswer (ttl : UInt8) (words : Language Sight) : Language Sight := {word | word ∈ words ∧ .answered ttl ∉ word}

/-- A TTL that the trace goes on behind: an answer for it has been heard, or there have been three attempts, and then
the line says that nobody answered. -/
def passed (ttl : UInt8) : Language Sight :=
  withAnswer ttl (thirdAtMost ttl (attempted ttl)) + withoutAnswer ttl (attempted ttl ^ 3) * {[.line (.noReply ttl)]}

/-- The large probe of the discovery. -/
def opening : Language Sight := {[.discovery]} * ({[]} + localLine)

variable (hops : Nat)

/-- A trace that returns. -/
def complete : Language Sight :=
  opening * (each (fun ttl => passed (UInt8.ofNat ttl)) 1 hops * {[.line .tooManyHops]} +
    upTo (fun ttl => passed (UInt8.ofNat ttl))
      (fun ttl => thirdAtMost (UInt8.ofNat ttl) (lastAttempt target pmtu (UInt8.ofNat ttl))) 1 hops)

/-- A trace that stops on the way. -/
def incomplete : Language Sight :=
  opening * upTo (fun ttl => passed (UInt8.ofNat ttl))
    (fun ttl => thirdAtMost (UInt8.ofNat ttl) (brokenAttempt target pmtu (UInt8.ofNat ttl))) 1 hops

end

/-! ### How they compose -/

section

variable {target : IpAddr} {pmtu : UInt32}

theorem nil_mem_remarks : [] ∈ remarks := (one_le_kstar : 1 ≤ remarks) rfl

theorem nil_mem_reports : [] ∈ reports target pmtu := (one_le_kstar : 1 ≤ reports target pmtu) rfl

theorem mem_isProbed (ttl : UInt8) : [.probe ttl true] ∈ isProbed ttl := rfl

theorem probed_append {ttl : UInt8} {words : Language Sight} {lines : List Sight} (member : lines ∈ words) :
    .probe ttl true :: lines ∈ isProbed ttl * words :=
  Language.append_mem_mul (mem_isProbed ttl) member

theorem remarks_le_reports : remarks ≤ reports target pmtu := kstar_mono le_self_add

theorem remarks_append {first second : List Sight} (isFirst : first ∈ remarks) (isSecond : second ∈ remarks) :
    first ++ second ∈ remarks :=
  (kstar_mul_kstar remark).le (Language.append_mem_mul isFirst isSecond)

theorem reports_append {first second : List Sight} (isFirst : first ∈ reports target pmtu)
    (isSecond : second ∈ reports target pmtu) : first ++ second ∈ reports target pmtu :=
  (kstar_mul_kstar (remark + (reachedLines target pmtu + hostLine))).le (Language.append_mem_mul isFirst isSecond)

theorem reached_append {first second : List Sight} (isFirst : first ∈ reachedLines target pmtu)
    (isSecond : second ∈ remarks) : first ++ second ∈ verdict target pmtu .reached := by
  show [] ++ (first ++ second) ∈ reports target pmtu * (reachedLines target pmtu * remarks)
  exact Language.append_mem_mul nil_mem_reports (Language.append_mem_mul isFirst isSecond)

theorem unreachable_append {first second : List Sight} (isFirst : first ∈ hostLine + localLine)
    (isSecond : second ∈ remarks) : first ++ second ∈ verdict target pmtu .unreachable := by
  show [] ++ (first ++ second) ∈ reports target pmtu * ((hostLine + localLine) * remarks)
  exact Language.append_mem_mul nil_mem_reports (Language.append_mem_mul isFirst isSecond)

theorem verdict_append {response : ResponseType} {first second : List Sight} (isFirst : first ∈ reports target pmtu)
    (isSecond : second ∈ verdict target pmtu response) : first ++ second ∈ verdict target pmtu response := by
  have absorbed : ∀ words : Language Sight, second ∈ reports target pmtu * words →
      first ++ second ∈ reports target pmtu * words := by
    intro words member
    obtain ⟨reported, isReported, rest, isRest, rfl⟩ := Language.mem_mul.mp member
    rw [← List.append_assoc]
    exact Language.append_mem_mul (reports_append isFirst isReported) isRest
  cases response with
  | reached => exact absorbed _ isSecond
  | unreachable => exact absorbed _ isSecond
  | timeExceeded => exact isSecond.elim

end

/-! ## What the parts of the trace show -/

/-- The run is at this TTL, and none of its probes was made for a later one. -/
structure RunState.Stands (target : IpAddr) (ttl : UInt8) (runState : RunState) : Prop where
  made : ∀ entry ∈ runState.history, entry.hops ≤ ttl
  target : runState.target = target
  ttl : runState.ttl = ttl

/-- The entries of `ttl_responses` are those that the log tells of, and none is for a later TTL. -/
structure Entered (ttl : UInt8) (responses : UInt8 → Bool) (sights : List Sight) : Prop where
  told : ∀ other, responses other = true ↔ .answered other ∈ sights
  upTo : ∀ other, responses other = true → other ≤ ttl

/-- The trace is at this TTL, and an answer for it may have been found. -/
structure World.Stands (target : IpAddr) (ttl : UInt8) (found : Bool) (world : World) : Prop where
  run : world.runState.Stands target ttl
  entered : Entered ttl world.ttlResponses world.sights
  found : found = true → world.ttlResponses ttl = true

section

variable {tpConfig : TracepathConfig} {target : IpAddr} {ttl : UInt8}

theorem sights_append (world : World) (events : List Event) :
    (world.record events).sights = world.sights ++ events.filterMap Event.sight :=
  List.filterMap_append

theorem emits_print {pre : World → Prop} (line : Line)
    (kept : ∀ world, pre world → pre (world.record [.printed line])) :
    Emits World.sights pre (print line) (fun _ => {[.line line]}) (fun _ => pre) 0 :=
  emits_modify fun world holds => ⟨kept world holds, _, rfl, sights_append world [.printed line]⟩

/-- What a message is reported with in the drain. -/
def drainWords (target : IpAddr) (pmtu : UInt32) : Option ResponseType → Language Sight
  | some .reached => reachedLines target pmtu
  | some .unreachable => hostLine * resumeLine pmtu
  | some .timeExceeded => hopLine
  | none => 1

/-- What a message is reported with while an answer is awaited. -/
def waitWords (target : IpAddr) (pmtu : UInt32) : Option ResponseType → Language Sight
  | some .reached => reachedLines target pmtu
  | some .unreachable => hostLine + localLine
  | some .timeExceeded => hopLine + localLine
  | none => 1

theorem findSendHistoryByPort_place (runState : RunState) (port : UInt16) (recvTime : Instant) :
    (findSendHistoryByPort runState port recvTime).2.target = runState.target ∧
      (findSendHistoryByPort runState port recvTime).2.ttl = runState.ttl := by
  obtain ⟨history, frame⟩ := findSendHistoryByPort_frame runState port recvTime
  rw [frame]
  exact ⟨rfl, rfl⟩

theorem le_of_mem_set {history : Vector HistoryEntry HIS_ARRAY_SIZE} {slot : Nat} {inside : slot < HIS_ARRAY_SIZE}
    {new : HistoryEntry} (made : ∀ entry ∈ history, entry.hops ≤ ttl) (isNew : new.hops ≤ ttl) :
    ∀ entry ∈ history.set slot new inside, entry.hops ≤ ttl := by
  intro entry member
  rcases Vector.mem_or_eq_of_mem_set member with old | rfl
  · exact made entry old
  · exact isNew

/-- A lookup finds no later TTL. -/
theorem findSendHistoryByPort_upTo {runState : RunState} (stands : runState.Stands target ttl) (port : UInt16)
    (recvTime : Instant) : (findSendHistoryByPort runState port recvTime).1.1 ≤ ttl ∧
      ∀ entry ∈ (findSendHistoryByPort runState port recvTime).2.history, entry.hops ≤ ttl := by
  have here : runState.ttl ≤ ttl := Nat.le_of_eq (congrArg UInt8.toNat stands.ttl)
  simp only [findSendHistoryByPort]
  split_ifs with zero inside made
  · exact ⟨here, stands.made⟩
  · exact ⟨stands.made _ (Vector.getElem_mem inside), @le_of_mem_set ttl _ _ inside _ stands.made (Nat.zero_le _)⟩
  · exact ⟨here, stands.made⟩
  · exact ⟨here, stands.made⟩

theorem drainMessage_words (message : Message) (runState : RunState) :
    let handled := drainMessage tpConfig message runState
    (handled.state.target = runState.target ∧ handled.state.ttl = runState.ttl) ∧
      handled.lines.map Sight.line ∈ drainWords runState.target tpConfig.getLength handled.response := by
  have place := findSendHistoryByPort_place runState message.receivedPort message.recvTime
  simp only [drainMessage]
  split_ifs with refused unreachable exceeded
  · exact ⟨place, _, _, _, _, by rw [place.1]; rfl⟩
  · exact ⟨place, [.line (.unreachable _ _)], ⟨_, _, rfl⟩, _, ⟨_, _, rfl⟩, rfl⟩
  · cases message.errorInfo.sourceAddr with
    | some sourceAddr => exact ⟨place, _, _, _, rfl⟩
    | none => exact ⟨place, rfl⟩
  · exact ⟨place, rfl⟩

theorem waitMessage_words (message : Message) (runState : RunState) :
    let handled := waitMessage tpConfig message runState
    (handled.state.target = runState.target ∧ handled.state.ttl = runState.ttl) ∧
      handled.lines.map Sight.line ∈ waitWords runState.target tpConfig.getLength handled.response := by
  have place := findSendHistoryByPort_place runState message.receivedPort message.recvTime
  simp only [waitMessage]
  split_ifs with isLocal terminal refused unreachable hopLimit exceeded
  · exact ⟨place, .inr ⟨_, _, _, rfl⟩⟩
  · exact ⟨place, .inr ⟨_, _, _, rfl⟩⟩
  · exact ⟨place, _, _, _, _, by rw [place.1]; rfl⟩
  · cases message.errorInfo.sourceAddr with
    | some sourceAddr => exact ⟨place, .inl ⟨_, _, _, rfl⟩⟩
    | none => exact ⟨place, rfl⟩
  · exact ⟨place, .inl ⟨_, _, rfl⟩⟩
  · cases message.errorInfo.sourceAddr with
    | some sourceAddr => exact ⟨place, .inl ⟨_, _, _, rfl⟩⟩
    | none => exact ⟨place, rfl⟩
  · exact ⟨place, rfl⟩

/-- Behind a send only the target ends the trace. -/
theorem afterSendMessage_words (message : Message) (runState : RunState) :
    let handled := afterSendMessage tpConfig message runState
    (handled.state.target = runState.target ∧ handled.state.ttl = runState.ttl) ∧
      ((handled.response = none ∧ handled.lines.map Sight.line ∈ remarks) ∨
        (handled.response = some .reached ∧
          handled.lines.map Sight.line ∈ reachedLines runState.target tpConfig.getLength)) := by
  have place := findSendHistoryByPort_place runState message.receivedPort message.recvTime
  have single : ∀ ttl rtt outcome, [Sight.line (.localhost ttl rtt outcome)] ∈ remarks := fun ttl rtt outcome =>
    (le_kstar : remark ≤ remarks) (.inr (.inr ⟨ttl, rtt, outcome, rfl⟩))
  simp only [afterSendMessage]
  split_ifs with isLocal refused
  · exact ⟨place, .inl ⟨rfl, single _ _ _⟩⟩
  · exact ⟨place, .inr ⟨rfl, _, _, _, _, by rw [place.1]; rfl⟩⟩
  · exact ⟨place, .inl ⟨rfl, nil_mem_remarks⟩⟩

/-! ### Messages -/

/-- The credited TTL is entered. -/
theorem Entered.enter {responses : UInt8 → Bool} {sights lines : List Sight} {credit : UInt8}
    (entered : Entered ttl responses sights) (upTo : credit ≤ ttl) (only : ∀ other, .answered other ∉ lines) :
    Entered ttl (Function.update responses credit true) (sights ++ .answered credit :: lines) := by
  constructor
  · intro other
    rw [Function.update_apply, List.mem_append, List.mem_cons, ← entered.told]
    split
    · next same => simp [same]
    · next different => simp [different, only]
  · intro other isEntered
    rw [Function.update_apply] at isEntered
    split at isEntered
    · next same => exact same ▸ upTo
    · exact entered.upTo other isEntered

/-- What is shown beyond that enters nothing. -/
theorem Entered.shows {responses : UInt8 → Bool} {sights more : List Sight} (entered : Entered ttl responses sights)
    (only : ∀ other, .answered other ∉ more) : Entered ttl responses (sights ++ more) where
  told other := by simp [entered.told, only]
  upTo := entered.upTo

/-- Printing enters nothing. -/
theorem World.Stands.print {found : Bool} {world : World} (here : world.Stands target ttl found) (line : Line) :
    (world.record [.printed line]).Stands target ttl found where
  run := here.run
  entered := by
    rw [sights_append]
    exact here.entered.shows (by simp [Event.sight])
  found := here.found

theorem not_answered_lines (lines : List Line) (other : UInt8) : .answered other ∉ lines.map Sight.line := by simp

/-- A message that has been handled is entered, and shows the lines of its report. -/
theorem emits_handleMessage {words : Option ResponseType → Language Sight} {found : Bool} (place : Place)
    (message : Message) (handler : RunState → Handled) (enters : place = .drain ∨ place = .wait)
    (reported : ∀ runState : RunState, runState.target = target →
      ((handler runState).state.target = runState.target ∧ (handler runState).state.ttl = runState.ttl) ∧
        (handler runState).lines.map Sight.line ∈ words (handler runState).response)
    (looked : ∀ runState,
      (handler runState).credit = (findSendHistoryByPort runState message.receivedPort message.recvTime).1.1 ∧
      (handler runState).state.history =
        (findSendHistoryByPort runState message.receivedPort message.recvTime).2.history ∧
      (handler runState).marked = true) :
    Emits World.sights (World.Stands target ttl found) (handleMessage place message handler)
      (fun handled => heard * words handled.response)
      (fun handled => World.Stands target ttl (found || handled.credit == ttl)) 0 := by
  refine emits_done fun world here => ⟨_, _, rfl, ?_⟩
  obtain ⟨⟨sameTarget, sameTtl⟩, isReported⟩ := reported world.runState here.run.target
  obtain ⟨credit, history, marked⟩ := looked world.runState
  obtain ⟨upTo, made⟩ := findSendHistoryByPort_upTo here.run message.receivedPort message.recvTime
  generalize handler world.runState = handled at *
  have shown : (world.handle place message handled).sights =
      world.sights ++ .answered handled.credit :: handled.lines.map Sight.line := by
    show (world.log ++ _ :: handled.lines.map Event.printed).filterMap Event.sight = _
    have told : Event.sight (.credited place message handled.credit world.runState.ttl) =
        some (.answered handled.credit) := by
      rcases enters with rfl | rfl <;> rfl
    have lines : (handled.lines.map Event.printed).filterMap Event.sight = handled.lines.map Sight.line := by
      rw [List.filterMap_map]
      exact List.filterMap_eq_map ▸ rfl
    rw [List.filterMap_append, List.filterMap_cons_some told, lines]
    rfl
  have responses : (world.handle place message handled).ttlResponses =
      Function.update world.ttlResponses handled.credit true := if_pos marked
  refine ⟨⟨⟨?_, sameTarget.trans here.run.target, sameTtl.trans here.run.ttl⟩, ?_, fun isFound => ?_⟩, _, ?_, shown⟩
  · show ∀ entry ∈ handled.state.history, entry.hops ≤ ttl
    rw [history]
    exact made
  · rw [responses, shown]
    exact here.entered.enter (credit ▸ upTo) (not_answered_lines handled.lines)
  · rw [responses, Function.update_apply]
    split
    · rfl
    · next different =>
      rw [beq_false_of_ne (Ne.symm different), Bool.or_false] at isFound
      exact here.found isFound
  · exact ⟨_, ⟨handled.credit, rfl⟩, _, isReported, rfl⟩

/-- A step that neither shows anything nor touches the state of the run. -/
theorem emits_bind_quiet {α β : Type} {process : Proc World α} {next : α → Proc World β} {words : β → Language Sight}
    {found : Bool} {final : β → World → Prop} {cut : Language Sight}
    (quiet : Leaves (fun world => (world.runState, world.ttlResponses, world.sights)) process)
    (after : ∀ value, Emits World.sights (World.Stands target ttl found) (next value) words final cut)
    (empty : [] ∈ cut) :
    Emits World.sights (World.Stands target ttl found) (process >>= next) words final cut := by
  have kept : Triple (World.Stands target ttl found) process (fun _ => World.Stands target ttl found)
      fun _ => True := by
    refine triple_stopped (triple_conseq (quiet.triple fun seen => seen.1.Stands target ttl ∧
      Entered ttl seen.2.1 seen.2.2 ∧ (found = true → seen.2.1 ttl = true)) ?_ ?_) fun _ _ => trivial
    · exact fun _ here => ⟨here.run, here.entered, here.found⟩
    · exact fun _ _ here => ⟨here.1, here.2.1, here.2.2⟩
  exact emits_bind_silent (fun world => congrArg (·.2.2) (quiet world)) kept after empty

/-- Less may be said of the answers. -/
theorem World.Stands.lose {found : Bool} {world : World} (here : world.Stands target ttl found) :
    world.Stands target ttl false :=
  ⟨here.run, here.entered, nofun⟩

/-! ### The drain -/

/-- What the drain shows, by whether the trace ends in it. -/
def drainSights (target : IpAddr) (pmtu : UInt32) : Bool → Language Sight
  | true => remarks * (reachedLines target pmtu + hostLine * resumeLine pmtu)
  | false => remarks

/-- What the last turn of the drain shows. -/
def drainEnd (target : IpAddr) (pmtu : UInt32) (ended : Bool) : Language Sight :=
  if ended then heard * (reachedLines target pmtu + hostLine * resumeLine pmtu) else 1

theorem emits_drainStep (carried : Unit) :
    Emits World.sights (World.Stands target ttl false) (drainStep tpConfig carried)
      (Turn.spells (heard * (1 + hopLine)) (drainEnd target tpConfig.getLength))
      (Turn.post (fun _ => World.Stands target ttl false) fun _ => World.Stands target ttl false) 1 := by
  refine emits_bind_quiet (leaves_modifyGet fun _ => rfl) (fun answer => ?_) rfl
  rcases answer with _ | _ | message
  · exact emits_pure (fun _ here => here) rfl
  · exact emits_pure (fun _ here => here) rfl
  · have handled := @emits_handleMessage target ttl (drainWords target tpConfig.getLength) false .drain message
      (drainMessage tpConfig message) (.inl rfl) (fun runState same => same ▸ drainMessage_words message runState)
      fun runState => ⟨drainMessage_credit .., congrArg _ (drainMessage_state ..), drainMessage_marked ..⟩
    refine emits_bind handled bot_le fun handled word shown => ?_
    obtain ⟨mark, isMark, lines, isLines, rfl⟩ := Language.mem_mul.mp shown
    cases response : handled.response with
    | none =>
      rw [response] at isLines
      exact emits_pure_behind (fun _ here => here.lose) (Language.append_mem_mul isMark (.inl isLines))
    | some response' =>
      rw [response] at isLines
      cases response' with
      | reached => exact emits_pure_behind (fun _ => World.Stands.lose) (Language.append_mem_mul isMark (.inl isLines))
      | unreachable =>
        exact emits_pure_behind (fun _ => World.Stands.lose) (Language.append_mem_mul isMark (.inr isLines))
      | timeExceeded =>
        exact emits_pure_behind (fun _ => World.Stands.lose) (Language.append_mem_mul isMark (.inr isLines))

/-- All that the drain passes over are remarks. -/
theorem drained_le_remarks : (heard * (1 + hopLine))∗ ≤ remarks ∧ remarks * heard ≤ remarks := by
  have told : remarks * heard ≤ remarks :=
    (mul_le_mul_right (le_self_add : heard ≤ remark) remarks).trans kstar_mul_le_kstar
  refine ⟨kstar_le_of_mul_le_left one_le_kstar ?_, told⟩
  rw [← mul_assoc, mul_add, mul_one]
  refine sup_le told ((mul_le_mul_left told hopLine).trans ?_)
  have line : hopLine ≤ remark := fun _ member => .inr (.inl member)
  exact (mul_le_mul_right line remarks).trans kstar_mul_le_kstar

theorem emits_drain (fuel : Nat) :
    Emits World.sights (World.Stands target ttl false) (drain tpConfig fuel) (drainSights target tpConfig.getLength)
      (fun _ => World.Stands target ttl false) remarks := by
  obtain ⟨hops, told⟩ := drained_le_remarks
  refine emits_conseq (emits_forever (fun _ => World.Stands target ttl false) emits_drainStep rfl fuel ())
    (fun _ here => here) (fun ended => ?_) (fun _ _ here => here) ((mul_one _).le.trans hops)
  cases ended with
  | true =>
    show (heard * (1 + hopLine))∗ * (heard * _) ≤ remarks * _
    rw [← mul_assoc]
    exact mul_le_mul_left ((mul_le_mul_left hops heard).trans told) _
  | false => exact (mul_one _).le.trans hops

/-! ### A probe -/

/-- What a call of the sender shows, by what it returns. -/
def sendSights (target : IpAddr) (pmtu : UInt32) (ttl : UInt8) : Except String (Option ResponseType) → Language Sight
  | .error _ => {[.probe ttl false]}
  | .ok none => isProbed ttl * remarks
  | .ok (some .reached) => isProbed ttl * reachedLines target pmtu
  | .ok (some .unreachable) => 0
  | .ok (some .timeExceeded) => 0

theorem recordProbe_stands {runState recorded : RunState} {sendTime : Instant}
    (written : recordProbe runState sendTime = some recorded) (stands : runState.Stands target ttl) :
    recorded.Stands target ttl := by
  simp only [recordProbe] at written
  split at written
  · next inside =>
    cases written
    have here : runState.ttl ≤ ttl := Nat.le_of_eq (congrArg UInt8.toNat stands.ttl)
    exact ⟨@le_of_mem_set ttl _ _ inside _ stands.made here, stands.target, stands.ttl⟩
  · cases written

theorem sendUdpProbeIpv6_words {answers : SendAnswers} {runState : RunState}
    {sent : Sent (Except String (Option ResponseType))}
    (built : sendUdpProbeIpv6 tpConfig answers runState = some sent) (stands : runState.Stands target ttl) :
    sent.state.Stands target ttl ∧ .probe ttl sent.result.isOk :: sent.lines.map Sight.line ∈
      sendSights target tpConfig.getLength ttl sent.result := by
  have silent : [Sight.probe ttl true] ∈ isProbed ttl * remarks := probed_append nil_mem_remarks
  simp only [sendUdpProbeIpv6] at built
  split at built
  · cases built
    exact ⟨stands, rfl⟩
  · split at built
    · cases built
    · next recorded written =>
      have made := recordProbe_stands written stands
      split at built
      · next message _ =>
        cases built
        obtain ⟨place, words⟩ := @afterSendMessage_words tpConfig message recorded
        have history := (afterSendMessage_frame tpConfig message recorded).1
        refine ⟨⟨?_, place.1.trans made.target, place.2.trans made.ttl⟩, ?_⟩
        · show ∀ entry ∈ (afterSendMessage tpConfig message recorded).state.history, entry.hops ≤ ttl
          rw [history]
          exact (findSendHistoryByPort_upTo made message.receivedPort message.recvTime).2
        · rcases words with ⟨response, lines⟩ | ⟨response, lines⟩
          · simp only [response]
            exact probed_append lines
          · simp only [response]
            rw [made.target] at lines
            exact probed_append lines
      · cases built
        exact ⟨made, silent⟩
      · cases built
        exact ⟨made, silent⟩

/-- The senders enter nothing. -/
theorem sights_creditEvents {Result : Type} (sent : Sent Result) {place : Place}
    (sends : place = .discovery ∨ place = .afterSend) :
    (World.creditEvents sent place).filterMap Event.sight = sent.lines.map Sight.line := by
  have lines : (sent.lines.map Event.printed).filterMap Event.sight = sent.lines.map Sight.line := by
    rw [List.filterMap_map]
    exact List.filterMap_eq_map ▸ rfl
  rw [World.creditEvents, List.filterMap_append, lines]
  cases sent.credit with
  | none => rfl
  | some credit => rcases sends with rfl | rfl <;> rfl

theorem sights_afterSend (world : World) (sent : Sent (Except String (Option ResponseType))) :
    (world.afterSend sent).sights =
      world.sights ++ .probe world.runState.ttl sent.result.isOk :: sent.lines.map Sight.line := by
  have probed : Event.sight (.probe sent.destPort world.runState.ttl sent.payloadLen sent.result.isOk) =
      some (.probe world.runState.ttl sent.result.isOk) := rfl
  show (world.log ++ _ :: World.creditEvents sent .afterSend).filterMap Event.sight = _
  rw [List.filterMap_append, List.filterMap_cons_some probed, sights_creditEvents sent (.inr rfl)]
  rfl

theorem emits_sendProbe : Emits World.sights (World.Stands target ttl false) (sendProbe tpConfig)
    (sendSights target tpConfig.getLength ttl) (fun _ => World.Stands target ttl false) 1 := by
  refine emits_get_bind fun world here => ?_
  cases built : sendUdpProbeIpv6 tpConfig world.sendAnswers.head world.runState with
  | none => exact emits_stop rfl
  | some sent =>
    obtain ⟨stands, words⟩ := sendUdpProbeIpv6_words built here.run
    have shown := sights_afterSend world sent
    rw [here.run.ttl] at shown
    refine emits_done fun state same => ⟨sent.result, world.afterSend sent, by rw [same]; rfl, ?_, _, words, ?_⟩
    · refine ⟨stands, ?_, nofun⟩
      rw [shown]
      exact here.entered.shows fun other => List.not_mem_cons_of_ne_of_not_mem nofun (not_answered_lines _ other)
    · rw [same]
      exact shown

/-! ### The wait -/

/-- The response that the flags hold behind a message. -/
def settles (flags : WaitFlags) : Option ResponseType → Option ResponseType
  | some .reached => some .reached
  | some .unreachable => some .unreachable
  | some .timeExceeded => flags.terminalResponse
  | none => flags.terminalResponse

theorem update_terminalResponse (flags : WaitFlags) (handled : Handled) (ttl : UInt8) :
    (flags.update handled ttl).terminalResponse = settles flags handled.response := by
  simp only [WaitFlags.update]
  rcases handled.response with _ | _ | _ | _ <;> rfl

/-- What a turn shows between these flags and the later ones. -/
def turnSights (target : IpAddr) (pmtu : UInt32) (flags later : WaitFlags) : Language Sight :=
  {word | ∃ response, word ∈ (1 + heard) * waitWords target pmtu response ∧
    later.terminalResponse = settles flags response}

/-- What is shown from these flags on, up to the last ones: a verdict, or nothing that would change it. -/
def waitRest (target : IpAddr) (pmtu : UInt32) (flags last : WaitFlags) : Language Sight :=
  {word | (∃ response, last.terminalResponse = some response ∧ word ∈ verdict target pmtu response) ∨
    (last.terminalResponse = flags.terminalResponse ∧ word ∈ remarks)}

theorem waitWords_le_reports {pmtu : UInt32} (response : Option ResponseType) :
    waitWords target pmtu response ≤ reports target pmtu := by
  have one : remark + (reachedLines target pmtu + hostLine) ≤ reports target pmtu := le_kstar
  rcases response with _ | _ | _ | _
  · exact one_le_kstar
  · exact fun _ member => one (.inr (.inl member))
  · exact fun _ member => one (.inl (.inr member))
  · exact fun _ member => one (member.elim (fun host => .inr (.inr host)) fun here => .inl (.inr (.inr here)))

theorem heard_le_remarks : heard ≤ remarks := fun _ member => (le_kstar : remark ≤ remarks) (.inl member)

/-- Remarks may stand ahead. -/
theorem waitRest_prepend {pmtu : UInt32} {flags last : WaitFlags} {remarked word : List Sight}
    (isRemarks : remarked ∈ remarks) (shown : word ∈ waitRest target pmtu flags last) :
    remarked ++ word ∈ waitRest target pmtu flags last := by
  rcases shown with ⟨final, isFinal, judged⟩ | ⟨same, isRest⟩
  · exact .inl ⟨final, isFinal, verdict_append (remarks_le_reports isRemarks) judged⟩
  · exact .inr ⟨same, remarks_append isRemarks isRest⟩

theorem mark_mem_remarks {mark : List Sight} (isMark : mark ∈ (1 + heard : Language Sight)) : mark ∈ remarks := by
  rcases isMark with none | isHeard
  · rw [show mark = [] from none]
    exact nil_mem_remarks
  · exact heard_le_remarks isHeard

/-- A turn, and what is shown from there on. -/
theorem waitRest_append {pmtu : UInt32} {flags later last : WaitFlags} {word rest : List Sight}
    (turn : word ∈ turnSights target pmtu flags later) (isRest : rest ∈ waitRest target pmtu later last) :
    word ++ rest ∈ waitRest target pmtu flags last := by
  obtain ⟨response, shown, settled⟩ := turn
  obtain ⟨mark, isMark, lines, isLines, rfl⟩ := Language.mem_mul.mp shown
  rw [List.append_assoc]
  refine waitRest_prepend (mark_mem_remarks isMark) ?_
  rcases isRest with ⟨final, isFinal, judged⟩ | ⟨same, remarked⟩
  · exact .inl ⟨final, isFinal, verdict_append (waitWords_le_reports response isLines) judged⟩
  · rcases response with _ | _ | _ | _
    · exact .inr ⟨same.trans settled, by rw [show lines = [] from isLines]; exact remarked⟩
    · exact .inl ⟨.reached, same.trans settled, reached_append isLines remarked⟩
    · exact .inr ⟨same.trans settled, remarks_append ((le_kstar : remark ≤ remarks) (.inr isLines)) remarked⟩
    · exact .inl ⟨.unreachable, same.trans settled, unreachable_append isLines remarked⟩

/-- The flags behind a turn, at whichever end. -/
def Turn.flags : Turn WaitFlags WaitFlags → WaitFlags
  | .next later => later
  | .exit last => last

/-- An answer that the flags tell of has been entered. -/
def Waits (target : IpAddr) (ttl : UInt8) (flags : WaitFlags) : World → Prop :=
  World.Stands target ttl flags.foundCurrentTtlResponse

theorem emits_waitStep (flags : WaitFlags) :
    Emits World.sights (Waits target ttl flags) (waitStep tpConfig flags)
      (fun turn => turnSights target tpConfig.getLength flags (Turn.flags turn))
      (Turn.post (Waits target ttl) (Waits target ttl)) (reports target tpConfig.getLength) := by
  have empty : [] ∈ turnSights target tpConfig.getLength flags flags :=
    ⟨none, ⟨[], .inl rfl, [], rfl, rfl⟩, rfl⟩
  refine emits_bind_quiet (leaves_modifyGet fun _ => rfl) (fun answer => ?_) nil_mem_reports
  rcases answer with _ | _ | message
  · exact emits_pure (fun _ here => here) empty
  · exact emits_pure (fun _ here => here) empty
  · have handled := @emits_handleMessage target ttl (waitWords target tpConfig.getLength) flags.foundCurrentTtlResponse
      .wait message (waitMessage tpConfig message) (.inr rfl)
        (fun runState same => same ▸ waitMessage_words message runState)
      fun runState => ⟨waitMessage_credit .., (waitMessage_frame ..).1, waitMessage_marked ..⟩
    refine emits_bind handled bot_le fun handled word shown => emits_get_bind fun world here => ?_
    have turn : word ∈ turnSights target tpConfig.getLength flags (flags.update handled world.runState.ttl) := by
      obtain ⟨mark, isMark, lines, isLines, rfl⟩ := Language.mem_mul.mp shown
      exact ⟨handled.response, Language.append_mem_mul (.inr isMark) isLines,
        update_terminalResponse flags handled world.runState.ttl⟩
    have waits : ∀ state, state = world → Waits target ttl (flags.update handled world.runState.ttl) state := by
      rintro _ rfl
      refine ⟨here.run, here.entered, fun found => here.found ?_⟩
      simp only [WaitFlags.update, here.run.ttl, Bool.or_eq_true, Bool.and_eq_true] at found ⊢
      exact found.imp_right And.right
    show Emits _ _ (if _ then _ else _) _ _ _
    split
    · exact emits_pure_behind waits turn
    · exact emits_pure_behind waits turn

theorem emits_wait (fuel : Nat) (flags : WaitFlags) :
    Emits World.sights (Waits target ttl flags) (forever (waitStep tpConfig) fuel flags)
      (waitRest target tpConfig.getLength flags) (Waits target ttl) (reports target tpConfig.getLength) := by
  refine emits_forever_rest (Waits target ttl) emits_waitStep (fun flags later word turn => ⟨?_, ?_⟩)
    (fun flags last word turn => ?_) nil_mem_reports fuel flags
  · exact fun last rest isRest => waitRest_append turn isRest
  · obtain ⟨response, shown, -⟩ := turn
    obtain ⟨mark, isMark, lines, isLines, rfl⟩ := Language.mem_mul.mp shown
    have reported := reports_append (remarks_le_reports (mark_mem_remarks isMark))
      (waitWords_le_reports response isLines)
    exact fun rest isRest => reports_append reported isRest
  · have ended := waitRest_append turn (.inr ⟨rfl, nil_mem_remarks⟩ : [] ∈ waitRest target tpConfig.getLength last last)
    rwa [List.append_nil] at ended

/-- The test for an answer tells whether one has been found. -/
theorem emits_hasResponse_bind {β : Type} {next : Bool → Proc World β} {words : β → Language Sight} {found : Bool}
    {final : β → World → Prop} {cut : Language Sight}
    (after : ∀ answered, Emits World.sights (World.Stands target ttl answered) (next answered) words final cut) :
    Emits World.sights (World.Stands target ttl found) (hasResponse >>= next) words final cut := by
  have tested : Emits World.sights (World.Stands target ttl found) hasResponse (fun _ => 1)
      (fun answered => World.Stands target ttl answered) 0 := by
    refine emits_done fun world here => ⟨_, _, rfl, ⟨here.run, here.entered, fun isTrue => ?_⟩, [], rfl,
      (List.append_nil _).symm⟩
    change world.ttlResponses world.runState.ttl = true at isTrue
    rwa [here.run.ttl] at isTrue
  exact emits_bind_wordless tested after

/-- What the wait for an answer shows before it returns. -/
def awaitSights (target : IpAddr) (pmtu : UInt32) : Except String (Option ResponseType) → Language Sight
  | .ok (some .reached) => verdict target pmtu .reached
  | .ok (some .unreachable) => verdict target pmtu .unreachable
  | .ok (some .timeExceeded) => remarks
  | .ok none => remarks
  | .error _ => remarks

/-- What is known behind it: a message for the TTL makes it return. -/
def Awaited (target : IpAddr) (ttl : UInt8) (received : Except String (Option ResponseType)) : World → Prop :=
  World.Stands target ttl (received matches .ok (some .timeExceeded))

/-- What it shows where the trace stops in it. -/
def awaitCut (target : IpAddr) (pmtu : UInt32) : Language Sight := reports target pmtu + remarks * {[.line .blank]}

theorem emits_receiveStep (fuel : Nat) :
    Emits World.sights (World.Stands target ttl false) (receiveStep tpConfig fuel ())
      (Turn.spells remarks (awaitSights target tpConfig.getLength))
      (Turn.post (fun _ => World.Stands target ttl false) (Awaited target ttl)) (awaitCut target tpConfig.getLength) := by
  have empty : [] ∈ awaitCut target tpConfig.getLength := .inl nil_mem_reports
  refine emits_bind_quiet (leaves_modifyGet fun _ => rfl) (fun waiting => ?_) empty
  cases waiting with
  | false => exact emits_pure (fun _ here => here) nil_mem_remarks
  | true =>
    refine emits_bind_quiet (leaves_modifyGet fun _ => rfl) (fun running => ?_) empty
    cases running with
    | false =>
      refine emits_bind (emits_print .blank fun _ here => World.Stands.print here .blank) bot_le fun _ word blank =>
        emits_stop ?_
      have interrupted : [] ++ (word ++ []) ∈ remarks * {[.line .blank]} := by
        rw [List.append_nil]
        exact Language.append_mem_mul nil_mem_remarks blank
      exact .inr interrupted
    | true =>
      refine emits_bind (emits_wait fuel {}) (fun _ member => .inl member) fun flags word shown => ?_
      cases final : flags.terminalResponse with
      | some response =>
        have judged : word ∈ verdict target tpConfig.getLength response := by
          obtain ⟨judge, isJudge, judged⟩ | ⟨same, -⟩ := shown
          · rw [final] at isJudge
            cases isJudge
            exact judged
          · rw [final] at same
            cases same
        cases response with
        | reached => exact emits_pure_behind (fun _ here => World.Stands.lose here) judged
        | unreachable => exact emits_pure_behind (fun _ here => World.Stands.lose here) judged
        | timeExceeded => exact judged.elim
      | none =>
        have remarked : word ∈ remarks := by
          obtain ⟨judge, isJudge, -⟩ | ⟨-, remarked⟩ := shown
          · rw [final] at isJudge
            cases isJudge
          · exact remarked
        cases found : flags.foundCurrentTtlResponse with
        | true => exact emits_pure_behind (fun _ here => (found ▸ here : World.Stands target ttl true _)) remarked
        | false =>
          refine emits_hasResponse_bind fun answered => ?_
          cases answered with
          | true => exact emits_pure_behind (fun _ here => World.Stands.lose here) remarked
          | false => exact emits_pure_behind (fun _ here => here) remarked

theorem emits_receiveErrorQueue (fuel : Nat) :
    Emits World.sights (World.Stands target ttl false) (receiveErrorQueueWithDelayedResponse tpConfig fuel)
      (awaitSights target tpConfig.getLength) (Awaited target ttl) (awaitCut target tpConfig.getLength) := by
  have loop := emits_forever (fun _ => World.Stands target ttl false) (fun _ => @emits_receiveStep tpConfig target ttl fuel)
    (.inl nil_mem_reports) fuel ()
  have idle : remarks∗ = remarks := kstar_idem _
  have absorbs : ∀ words : Language Sight, (∀ first ∈ remarks, ∀ second ∈ words, first ++ second ∈ words) →
      remarks∗ * words ≤ words := by
    intro words closed word member
    rw [idle] at member
    obtain ⟨first, isFirst, second, isSecond, rfl⟩ := Language.mem_mul.mp member
    exact closed first isFirst second isSecond
  refine emits_conseq loop (fun _ here => here) (fun received => absorbs _ fun first isFirst second isSecond => ?_)
    (fun _ _ here => here) (absorbs _ fun first isFirst second isSecond => ?_)
  · rcases received with _ | _ | _ | _ | _
    · exact remarks_append isFirst isSecond
    · exact remarks_append isFirst isSecond
    · exact @verdict_append target tpConfig.getLength .reached _ _ (remarks_le_reports isFirst) isSecond
    · exact remarks_append isFirst isSecond
    · exact @verdict_append target tpConfig.getLength .unreachable _ _ (remarks_le_reports isFirst) isSecond
  · rcases isSecond with reported | blank
    · exact .inl (reports_append (remarks_le_reports isFirst) reported)
    · obtain ⟨remarked, isRemarks, last, isBlank, rfl⟩ := Language.mem_mul.mp blank
      rw [← List.append_assoc]
      exact .inr (Language.append_mem_mul (remarks_append isFirst isRemarks) isBlank)

/-! ### Attempts -/

/-- What an attempt shows. -/
def attemptSights (target : IpAddr) (pmtu : UInt32) (ttl : UInt8) : Turn Unit AttemptEnd → Language Sight :=
  Turn.spells (attempted ttl) fun
    | .found => attempted ttl
    | .returned => lastAttempt target pmtu ttl

section

variable {pmtu : UInt32} {drained probed shown : List Sight}

theorem attempted_append (isDrained : drained ∈ remarks) (isProbe : probed ∈ isProbed ttl * remarks)
    (isShown : shown ∈ remarks) : drained ++ (probed ++ shown) ∈ attempted ttl := by
  obtain ⟨probe, isFirst, rest, isRest, rfl⟩ := Language.mem_mul.mp isProbe
  rw [List.append_assoc]
  exact Language.append_mem_mul isDrained (.inr (Language.append_mem_mul isFirst (remarks_append isRest isShown)))

/-- A verdict ends the trace, whatever has been remarked behind the probe. -/
theorem lastAttempt_append (isDrained : drained ∈ remarks) (isProbe : probed ∈ isProbed ttl * remarks)
    (isShown : shown ∈ verdict target pmtu .reached + verdict target pmtu .unreachable * resumeLine pmtu) :
    drained ++ (probed ++ shown) ∈ lastAttempt target pmtu ttl := by
  obtain ⟨probe, isFirst, rest, isRest, rfl⟩ := Language.mem_mul.mp isProbe
  rw [List.append_assoc]
  refine Language.append_mem_mul isDrained (.inr (Language.append_mem_mul isFirst ?_))
  rcases isShown with reached | unreachable
  · exact .inl (verdict_append (remarks_le_reports isRest) reached)
  · obtain ⟨judged, isJudged, last, isLast, rfl⟩ := Language.mem_mul.mp unreachable
    rw [← List.append_assoc]
    exact .inr (Language.append_mem_mul (verdict_append (remarks_le_reports isRest) isJudged) isLast)

theorem brokenAttempt_append (isDrained : drained ∈ remarks) (isProbe : probed ∈ isProbed ttl * remarks)
    (isShown : shown ∈ awaitCut target pmtu) : drained ++ (probed ++ shown) ∈ brokenAttempt target pmtu ttl := by
  obtain ⟨probe, isFirst, rest, isRest, rfl⟩ := Language.mem_mul.mp isProbe
  rw [List.append_assoc]
  refine Language.append_mem_mul isDrained (.inr (Language.append_mem_mul isFirst ?_))
  rcases isShown with reported | blank
  · exact .inl (reports_append (remarks_le_reports isRest) reported)
  · obtain ⟨remarked, isRemarks, last, isLast, rfl⟩ := Language.mem_mul.mp blank
    rw [← List.append_assoc]
    exact .inr (Language.append_mem_mul (remarks_append isRest isRemarks) isLast)

end

/-- What is known behind an attempt that ends them: it has found an answer, or it ends the trace. -/
def EndedAttempt (target : IpAddr) (ttl : UInt8) (ends : AttemptEnd) : World → Prop :=
  World.Stands target ttl (ends matches .found)

/-- The attempt behind the drain, when the answer has not come with the send. -/
theorem emits_awaited (fuel : Nat) {drained probed : List Sight} (isDrained : drained ∈ remarks)
    (isProbe : probed ∈ isProbed ttl * remarks) :
    Emits World.sights (World.Stands target ttl false)
      (do
        match ← receiveErrorQueueWithDelayedResponse tpConfig fuel with
        | .ok (some response) => endedBy tpConfig response
        | .ok none | .error _ =>
          if ← hasResponse then pure (.exit .found)
          else pure (.next ()))
      (fun turn => ((attemptSights target tpConfig.getLength ttl turn).leftQuotient drained).leftQuotient probed)
      (Turn.post (fun _ => World.Stands target ttl false) (EndedAttempt target ttl))
      (((brokenAttempt target tpConfig.getLength ttl).leftQuotient drained).leftQuotient probed) := by
  refine emits_bind (emits_receiveErrorQueue fuel) (fun _ cut => brokenAttempt_append isDrained isProbe cut)
    fun received word shown => ?_
  -- nothing that ends the trace has been reported
  have tried : word ∈ remarks → Emits World.sights (World.Stands target ttl false)
      (do if ← hasResponse then pure (.exit .found) else pure (.next ()) : Proc World (Turn Unit AttemptEnd))
      (fun turn => (((attemptSights target tpConfig.getLength ttl turn).leftQuotient drained).leftQuotient
        probed).leftQuotient word)
      (Turn.post (fun _ => World.Stands target ttl false) (EndedAttempt target ttl))
      ((((brokenAttempt target tpConfig.getLength ttl).leftQuotient drained).leftQuotient probed).leftQuotient word) :=
        by
    intro remarked
    have behind := attempted_append isDrained isProbe remarked
    refine emits_hasResponse_bind fun answered => ?_
    cases answered with
    | true => exact emits_pure_behind (fun _ here => here) behind
    | false => exact emits_pure_behind (fun _ here => here) behind
  rcases received with _ | _ | response
  · exact tried shown
  · exact tried shown
  · cases response with
    | reached => exact emits_pure_behind (fun _ here => here) (lastAttempt_append isDrained isProbe (.inl shown))
    | timeExceeded => exact emits_pure_behind (fun _ here => here) (attempted_append isDrained isProbe shown)
    | unreachable =>
      refine emits_done fun world here => ⟨_, _, rfl, World.Stands.print here (printResume tpConfig world.runState),
        [.line (printResume tpConfig world.runState)], ?_,
        sights_append world [.printed (printResume tpConfig world.runState)]⟩
      exact lastAttempt_append isDrained isProbe (.inr (Language.append_mem_mul shown ⟨_, _, rfl⟩))

theorem emits_attempt (fuel : Nat) :
    Emits World.sights (World.Stands target ttl false) (attempt tpConfig fuel) (attemptSights target tpConfig.getLength ttl)
      (Turn.post (fun _ => World.Stands target ttl false) (EndedAttempt target ttl))
      (brokenAttempt target tpConfig.getLength ttl) := by
  have unprobed : ∀ drained ∈ remarks, drained ∈ brokenAttempt target tpConfig.getLength ttl := by
    intro drained isDrained
    have alone := @Language.append_mem_mul _ remarks ({[]} + isProbed ttl * (reports target tpConfig.getLength +
      remarks * {[.line .blank]})) drained [] isDrained (.inl rfl)
    rwa [List.append_nil] at alone
  refine emits_bind (emits_drain fuel) unprobed fun ended drained isDrained => ?_
  cases ended with
  | true =>
    refine emits_pure_behind (fun _ here => here) ?_
    obtain ⟨remarked, isRemarks, last, isLast, rfl⟩ := Language.mem_mul.mp isDrained
    exact Language.append_mem_mul isRemarks (.inl isLast)
  | false =>
    refine emits_bind emits_sendProbe (fun word none => ?_) fun sent probed isProbe => ?_
    · rw [show word = [] from none]
      show drained ++ [] ∈ brokenAttempt target tpConfig.getLength ttl
      rw [List.append_nil]
      exact unprobed drained isDrained
    rcases sent with _ | _ | response
    · exact emits_pure_behind (fun _ here => here) (Language.append_mem_mul isDrained (.inl isProbe))
    · exact emits_awaited fuel isDrained isProbe
    · cases response with
      | reached =>
        obtain ⟨probe, isFirst, rest, isRest, rfl⟩ := Language.mem_mul.mp isProbe
        have judged : rest ++ [] ∈ verdict target tpConfig.getLength .reached := reached_append isRest nil_mem_remarks
        rw [List.append_nil] at judged
        exact emits_pure_behind (fun _ here => here)
          (Language.append_mem_mul isDrained (.inr (Language.append_mem_mul isFirst (.inl judged))))
      | timeExceeded => exact isProbe.elim
      | unreachable => exact isProbe.elim

/-! ### TTLs -/

/-- What a TTL shows. -/
def ttlSights (target : IpAddr) (pmtu : UInt32) (ttl : UInt8) : Turn Unit Unit → Language Sight :=
  Turn.spells (passed ttl) fun _ => thirdAtMost ttl (lastAttempt target pmtu ttl)

/-- The third attempt may be one like the others. -/
theorem thrice_le_thirdAtMost : attempted ttl ^ 3 ≤ thirdAtMost ttl (attempted ttl) := by
  intro word member
  refine mem_upTo.mpr ⟨2, by omega, ?_⟩
  rw [each_const, ← pow_succ]
  exact member

/-- The trace comes to a TTL: no answer has been entered for it or a later one. -/
structure World.Comes (target : IpAddr) (next : Nat) (world : World) : Prop where
  target : world.runState.target = target
  made : ∀ entry ∈ world.runState.history, entry.hops.toNat ≤ next
  told : ∀ other, world.ttlResponses other = true ↔ .answered other ∈ world.sights
  earlier : ∀ other, world.ttlResponses other = true → other.toNat < next

theorem World.Comes.start {ttl : Nat} {world : World} (comes : world.Comes target ttl) (small : ttl < 256) :
    (world.setTtl (UInt8.ofNat ttl)).Stands target (UInt8.ofNat ttl) false ∧
      Sight.answered (UInt8.ofNat ttl) ∉ world.sights := by
  have same : (UInt8.ofNat ttl).toNat = ttl := by rw [UInt8.toNat_ofNat', Nat.mod_eq_of_lt small]
  have upTo : ∀ other : UInt8, other.toNat ≤ ttl → other ≤ UInt8.ofNat ttl := fun other below =>
    UInt8.le_iff_toNat_le.mpr (same.symm ▸ below)
  refine ⟨⟨⟨fun entry member => upTo _ (comes.made entry member), comes.target, rfl⟩, ⟨comes.told, fun other isEntered =>
    upTo other (comes.earlier other isEntered).le⟩, nofun⟩, fun isTold => ?_⟩
  have before := comes.earlier _ ((comes.told _).mpr isTold)
  omega

theorem World.Stands.comes {ttl : Nat} {found : Bool} {world : World}
    (here : world.Stands target (UInt8.ofNat ttl) found) : world.Comes target (ttl + 1) := by
  have below : ∀ other : UInt8, other ≤ UInt8.ofNat ttl → other.toNat ≤ ttl := fun other upTo =>
    (UInt8.le_iff_toNat_le.mp upTo).trans ((UInt8.toNat_ofNat' ..).le.trans (Nat.mod_le ..))
  refine ⟨here.run.target, fun entry member => ?_, here.entered.told, fun other isEntered => ?_⟩
  · exact (below _ (here.run.made entry member)).trans (Nat.le_succ ttl)
  · exact Nat.lt_succ_of_le (below other (here.entered.upTo other isEntered))

/-- What is known behind the attempts: an answer that has been entered has been heard in them. -/
def Heard (target : IpAddr) (ttl : UInt8) (word : List Sight) (world : World) : Prop :=
  world.Stands target ttl false ∧ (world.ttlResponses ttl = true ↔ .answered ttl ∈ word)

theorem heard_of_fresh {start state : World} {turn : Turn Unit AttemptEnd} {word : List Sight}
    (fresh : .answered ttl ∉ start.sights)
    (reached : Turn.post (fun _ => World.Stands target ttl false) (EndedAttempt target ttl) turn state)
    (shown : state.sights = start.sights ++ word) : state.ttlResponses ttl = true ↔ .answered ttl ∈ word := by
  have entered : Entered ttl state.ttlResponses state.sights := by
    cases turn with
    | next => exact reached.entered
    | exit => exact reached.entered
  rw [entered.told, shown, List.mem_append, or_iff_right fresh]

/-- The test behind the attempts tells whether an answer has been heard in them. -/
theorem emits_heard {word : List Sight} : Emits World.sights (Heard target ttl word) hasResponse (fun _ => 1)
    (fun answered state => World.Stands target ttl false state ∧ (answered = true ↔ .answered ttl ∈ word)) 0 := by
  refine emits_done fun world here => ⟨_, _, rfl, ⟨here.1, ?_⟩, [], rfl, (List.append_nil _).symm⟩
  show world.ttlResponses world.runState.ttl = true ↔ _
  rw [here.1.run.ttl]
  exact here.2

/-- Behind three attempts that have not ended at an answer. -/
theorem emits_thirdPassed {ttl : Nat} {word : List Sight} (thrice : word ∈ attempted (UInt8.ofNat ttl) ^ 3) :
    Emits World.sights (Heard target (UInt8.ofNat ttl) word)
      (do
        if ← hasResponse then pure (.next ())
        else
          print (.noReply (UInt8.ofNat ttl))
          pure (.next ()))
      (fun turn => (ttlSights target tpConfig.getLength (UInt8.ofNat ttl) turn).leftQuotient word)
      (Turn.post (fun _ => World.Comes target (ttl + 1)) fun _ _ => True) 0 := by
  refine emits_bind_wordless emits_heard fun answered => ?_
  cases answered with
  | true =>
    refine emits_given (fun _ here => here.2.mp rfl) fun isHeard => ?_
    exact emits_pure_behind (fun _ here => World.Stands.comes here.1) (.inl ⟨thrice_le_thirdAtMost thrice, isHeard⟩)
  | false =>
    refine emits_given (fun _ here => mt here.2.mpr Bool.false_ne_true) fun unheard => ?_
    have printed := @emits_print (World.Stands target (UInt8.ofNat ttl) false) (.noReply (UInt8.ofNat ttl))
      fun _ here => here.print _
    refine emits_bind (emits_conseq printed (fun _ here => here.1) (fun _ => le_rfl) (fun _ _ here => here) le_rfl)
      bot_le fun _ line isLine => ?_
    have withoutReply : word ++ line ∈ passed (UInt8.ofNat ttl) :=
      .inr (Language.append_mem_mul (⟨thrice, unheard⟩ : word ∈ withoutAnswer _ _) isLine)
    exact emits_pure_behind (fun _ here => World.Stands.comes here) withoutReply

theorem emits_traceTtl (fuel ttl : Nat) (small : ttl < 256) :
    Emits World.sights (World.Comes target ttl) (traceTtl tpConfig fuel ttl)
      (ttlSights target tpConfig.getLength (UInt8.ofNat ttl))
      (Turn.post (fun _ => World.Comes target (ttl + 1)) fun _ _ => True)
      (thirdAtMost (UInt8.ofNat ttl) (brokenAttempt target tpConfig.getLength (UInt8.ofNat ttl))) := by
  have started : Emits World.sights (World.Comes target ttl)
      (modify fun world : World => world.setTtl (UInt8.ofNat ttl)) (fun _ => 1)
      (fun _ world => world.Stands target (UInt8.ofNat ttl) false ∧ .answered (UInt8.ofNat ttl) ∉ world.sights) 0 :=
    emits_modify fun world comes => ⟨comes.start small, [], rfl, (List.append_nil _).symm⟩
  have attempts := @emits_forRange Sight World Unit AttemptEnd World.sights (fun _ _ => attempt tpConfig fuel)
    (fun _ => attempted (UInt8.ofNat ttl)) _ _ (fun _ _ => World.Stands target (UInt8.ofNat ttl) false) _ 0 3
    (fun _ _ _ _ => emits_attempt fuel) ()
  refine emits_bind_wordless started fun _ => ?_
  refine emits_bind_knowing (emits_conseq attempts (fun _ fresh => fresh.1) (fun _ => le_rfl)
    (fun _ _ reached => reached) le_rfl) le_rfl (fun _ _ _ _ fresh => heard_of_fresh fresh.2) fun turn word shown => ?_
  rcases turn with _ | _ | _
  · have thrice : word ∈ attempted (UInt8.ofNat ttl) ^ 3 := each_const (attempted (UInt8.ofNat ttl)) ▸ shown
    exact emits_conseq (emits_thirdPassed thrice) (fun _ here => here) (fun _ => le_rfl) (fun _ _ reached => reached)
      bot_le
  · refine emits_given (fun _ here => here.2.mp (here.1.found rfl)) fun isHeard => ?_
    exact emits_pure_behind (fun _ here => World.Stands.comes here.1) (.inl ⟨shown, isHeard⟩)
  · exact emits_pure_behind (fun _ _ => trivial) shown

/-! ### The whole trace -/

/-- Nothing has been sent, heard or shown. -/
structure World.Fresh (target : IpAddr) (world : World) : Prop where
  target : world.runState.target = target
  hisptr : world.runState.hisptr < HIS_ARRAY_SIZE
  made : ∀ entry ∈ world.runState.history, entry.hops = 0
  ttlResponses : ∀ other, world.ttlResponses other = false
  sights : world.sights = []

theorem performPmtuDiscovery_words {answers : PmtuAnswers} {runState : RunState}
    (inside : runState.hisptr < HIS_ARRAY_SIZE) (made : ∀ entry ∈ runState.history, entry.hops = 0) :
    ∃ sent, performPmtuDiscovery answers runState = some sent ∧ sent.state.Stands runState.target 1 ∧
      sent.lines.map Sight.line ∈ ({[]} + localLine : Language Sight) := by
  have silent : [] ∈ ({[]} + localLine : Language Sight) := .inl rfl
  have zero : ∀ entry ∈ runState.history, entry.hops ≤ 1 := fun entry member => by
    rw [made entry member]
    decide
  let written : RunState := { runState with
    ttl := 1
    history := runState.history.set runState.hisptr ⟨1, some answers.sendTime⟩
    sendTime := some answers.sendTime }
  have stands : written.Stands runState.target 1 := ⟨@le_of_mem_set 1 _ _ inside _ zero (Nat.le_refl 1), rfl, rfl⟩
  have looked : ∀ message : Message,
      (findSendHistoryByPort written message.receivedPort message.recvTime).2.Stands runState.target 1 := fun message =>
    have place := findSendHistoryByPort_place written message.receivedPort message.recvTime
    ⟨(findSendHistoryByPort_upTo stands message.receivedPort message.recvTime).2, place.1, place.2⟩
  simp only [performPmtuDiscovery, inside, dite_true]
  rcases answers.sent with _ | ⟨⟩
  · rcases answers.message with _ | _ | message
    · exact ⟨_, rfl, stands, silent⟩
    · exact ⟨_, rfl, stands, silent⟩
    · simp only
      split_ifs with emsgsize
      · exact ⟨_, rfl, looked message, .inr ⟨_, _, _, rfl⟩⟩
      · exact ⟨_, rfl, looked message, silent⟩
  · exact ⟨_, rfl, stands, silent⟩

theorem emits_discover :
    Emits World.sights (World.Fresh target) discover (fun _ => opening) (fun _ => World.Comes target 1) 0 := by
  have opened : [Sight.discovery] ∈ ({[.discovery]} : Language Sight) := rfl
  refine emits_get_bind fun world fresh => ?_
  obtain ⟨sent, discovered, stands, words⟩ := @performPmtuDiscovery_words world.pmtuAnswers _ fresh.hisptr fresh.made
  have shown : (world.afterDiscovery sent).sights = world.sights ++ .discovery :: sent.lines.map Sight.line := by
    show (world.log ++ _ :: World.creditEvents sent .discovery).filterMap Event.sight = _
    have told : Event.sight (.discovery sent.destPort) = some .discovery := rfl
    rw [List.filterMap_append, List.filterMap_cons_some told, sights_creditEvents sent (.inl rfl)]
    rfl
  simp only [discovered]
  refine emits_modify fun state same => ⟨⟨stands.target.trans fresh.target, ?_, fun other => ?_, fun other isEntered => ?_⟩,
    .discovery :: sent.lines.map Sight.line, ?_, ?_⟩
  · exact fun entry member => UInt8.le_iff_toNat_le.mp (stands.made entry member)
  · rw [same, shown, fresh.sights]
    show world.ttlResponses other = true ↔ _
    simp [fresh.ttlResponses]
  · rw [same] at isEntered
    change world.ttlResponses other = true at isEntered
    rw [fresh.ttlResponses] at isEntered
    cases isEntered
  · exact Language.append_mem_mul opened words
  · rw [same]
    exact shown

/-- A run adds a complete transcript if it returns, and one that breaks off in an attempt if it stops. -/
theorem emits_tracepathRunUdpIpv6 (fuel : Nat) :
    Emits World.sights (World.Fresh target) (tracepathRunUdpIpv6 tpConfig fuel)
      (fun _ => complete target tpConfig.getLength tpConfig.getHops.toNat)
      (fun _ _ => True) (incomplete target tpConfig.getLength tpConfig.getHops.toNat) := by
  have hops := tpConfig.getHops.toNat_lt
  have loop := @emits_forRange Sight World Unit Unit World.sights (fun ttl _ => traceTtl tpConfig fuel ttl)
    (fun ttl => passed (UInt8.ofNat ttl))
    (fun ttl _ => thirdAtMost (UInt8.ofNat ttl) (lastAttempt target tpConfig.getLength (UInt8.ofNat ttl)))
    (fun ttl => thirdAtMost (UInt8.ofNat ttl) (brokenAttempt target tpConfig.getLength (UInt8.ofNat ttl)))
    (fun ttl _ => World.Comes target ttl) (fun _ _ => True) 1 tpConfig.getHops.toNat
    (fun ttl _ _ below => emits_traceTtl fuel ttl (by omega)) ()
  refine emits_bind emits_discover bot_le fun _ opened isOpening => ?_
  refine emits_bind loop (fun _ broken => Language.append_mem_mul isOpening broken) fun turn word shown => ?_
  cases turn with
  | next =>
    have printed := @emits_print (fun _ => True) .tooManyHops fun _ same => same
    refine emits_conseq printed (fun _ _ => trivial) (fun _ line isLine => ?_) (fun _ _ _ => trivial) bot_le
    exact Language.append_mem_mul isOpening (.inl (Language.append_mem_mul shown isLine))
  | exit =>
    refine emits_pure (fun _ _ => trivial) ?_
    show opened ++ (word ++ []) ∈ complete target _ _
    rw [List.append_nil]
    exact Language.append_mem_mul isOpening (.inr shown)

end

end Utiputils.Tracepath
