import Utiputils.Lib.EventLog
import Utiputils.Lib.Proc
import Utiputils.Tracepath.Types

/-! # The port and the length of a probe

The senders add the ring pointer to the base port and take the headers off the length. Both are done in the unsigned
types of the operands, whatever the command line has put into them. -/

namespace Utiputils.Tracepath

open Utiputils.Lib Proc

/-! ## What is computed, and what should be -/

/-- What a sender computes for a probe, and whether the datagram goes out. -/
structure Computed where
  port : UInt16
  payloadLen : Nat
  sent : Bool
  deriving DecidableEq

/-- The ring pointer behind some probes. -/
def pointer (probes : List Computed) : Nat := probes.countP (·.sent) % HIS_ARRAY_SIZE

/-- The arithmetic of the machine. -/
def Follows (basePort : UInt16) (payloadLen : Nat) : List Computed → Prop :=
  Law fun before probe => probe.port = basePort + UInt16.ofNat (pointer before) ∧ probe.payloadLen = payloadLen

/-- The arithmetic of the numbers: no port goes round, and the datagram has the length that was asked for. -/
def Exact (basePort : UInt16) (headers length : Nat) : List Computed → Prop :=
  Law fun before probe =>
    probe.port.toNat = basePort.toNat + pointer before ∧ probe.payloadLen + headers = length

/-- The highest port of a trace is a port. -/
def PortsStay (tpConfig : TracepathConfig) : Prop :=
  tpConfig.getPort.toNat + min 63 (3 * tpConfig.getHops.toNat - 1) ≤ 65535

instance (tpConfig : TracepathConfig) : Decidable (PortsStay tpConfig) := inferInstanceAs (Decidable (_ ≤ _))

theorem pointer_le (probes : List Computed) : pointer probes ≤ min 63 probes.length := by
  have sent : probes.countP (·.sent) ≤ probes.length := List.countP_le_length
  have bound : probes.countP (·.sent) % 64 ≤ min 63 probes.length := by omega
  exact bound

theorem pointer_of_all {probes : List Computed} (all : ∀ probe ∈ probes, probe.sent) :
    pointer probes = probes.length % HIS_ARRAY_SIZE := by
  rw [pointer, List.countP_eq_length.mpr all]

/-- The parser leaves the length its sign. -/
theorem TracepathConfig.getLength_ge (tpConfig : TracepathConfig) : 29 ≤ tpConfig.getLength.toNat := by
  unfold getLength
  cases given : tpConfig.length with
  | none => decide
  | some value =>
    have least := tpConfig.length_ge value given
    have nonnegative : 0 ≤ value := Int32.le_iff_toInt_le.mpr (by rw [Int32.toInt_zero]; omega)
    rw [Option.getD_some, Int32.toNat_toUInt32_of_le nonnegative]
    show 29 ≤ value.toInt.toNat
    omega

section

variable {basePort : UInt16} {headers length : UInt32} {most : Nat} {probes : List Computed}

/-- Where there is room, the machine computes with the numbers. -/
theorem exact_of_follows (follows : Follows basePort (length - headers).toNat probes) (few : probes.length ≤ most)
    (room : basePort.toNat + min 63 (most - 1) ≤ 65535) (long : headers ≤ length) :
    Exact basePort headers.toNat length.toNat probes := by
  intro before probe after split
  obtain ⟨port, payloadLen⟩ := follows before probe after split
  have bound := pointer_le before
  rw [split, List.length_append, List.length_cons] at few
  rw [port, payloadLen]
  constructor
  · rw [UInt16.toNat_add, UInt16.toNat_ofNat']
    omega
  · rw [UInt32.toNat_sub_of_le _ _ long]
    have := UInt32.le_iff_toNat_le.mp long
    omega

/-- If all probes go out, the last port that is needed is used. -/
theorem room_of_exact {headers length : Nat} (exact : Exact basePort headers length probes)
    (all : ∀ probe ∈ probes, probe.sent) (some : probes ≠ []) :
    basePort.toNat + min 63 (probes.length - 1) ≤ 65535 ∧ headers ≤ length := by
  have inside : min 63 (probes.length - 1) < probes.length := by
    have := List.length_pos_of_ne_nil some
    omega
  have split : probes = probes.take (min 63 (probes.length - 1)) ++ probes[min 63 (probes.length - 1)] ::
      probes.drop (min 63 (probes.length - 1) + 1) := by
    rw [List.getElem_cons_drop, List.take_append_drop]
  obtain ⟨port, payloadLen⟩ := exact _ _ _ split
  have before : pointer (probes.take (min 63 (probes.length - 1))) = min 63 (probes.length - 1) := by
    rw [pointer_of_all fun probe member => all probe (List.mem_of_mem_take member), List.length_take,
      min_eq_left inside.le]
    exact Nat.mod_eq_of_lt (by show _ < 64; omega)
  have small := (probes[min 63 (probes.length - 1)]).port.toNat_lt
  rw [before] at port
  exact ⟨by omega, by omega⟩

end

/-! ## The ring -/

/-- What the arithmetic sees of a state. -/
structure Ring where
  basePort : UInt16
  hisptr : Nat
  probes : List Computed

namespace Ring

/-- A probe; the pointer moves if it goes out. -/
def send (ring : Ring) (payloadLen : Nat) (sent : Bool) : Ring :=
  { ring with
    hisptr := if sent then (ring.hisptr + 1) % HIS_ARRAY_SIZE else ring.hisptr
    probes := ring.probes ++ [⟨ring.basePort + UInt16.ofNat ring.hisptr, payloadLen, sent⟩] }

structure Counts (basePort : UInt16) (payloadLen most : Nat) (ring : Ring) : Prop where
  base : ring.basePort = basePort
  hisptr : ring.hisptr = pointer ring.probes
  follows : Follows basePort payloadLen ring.probes
  few : ring.probes.length ≤ most

variable {basePort : UInt16} {payloadLen most : Nat} {ring : Ring}

theorem counts_start (basePort : UInt16) (payloadLen : Nat) : Counts basePort payloadLen 0 ⟨basePort, 0, []⟩ :=
  ⟨rfl, rfl, law_nil, le_rfl⟩

theorem Counts.mono {more : Nat} (counts : ring.Counts basePort payloadLen most) (below : most ≤ more) :
    ring.Counts basePort payloadLen more :=
  { counts with few := counts.few.trans below }

theorem Counts.send (counts : ring.Counts basePort payloadLen most) (sent : Bool) :
    (ring.send payloadLen sent).Counts basePort payloadLen (most + 1) where
  base := counts.base
  hisptr := by
    rw [Ring.send, pointer, List.countP_append, List.countP_singleton, counts.hisptr, pointer]
    cases sent with
    | true => exact Nat.mod_add_mod _ _ _
    | false => rfl
  follows := law_concat.mpr ⟨counts.follows, by rw [counts.base, counts.hisptr], rfl⟩
  few := by
    rw [Ring.send, List.length_append, List.length_singleton]
    exact Nat.succ_le_succ counts.few

/-- All of so many probes have gone out. -/
structure Full (count : Nat) (ring : Ring) : Prop where
  count : ring.probes.length = count
  all : ∀ probe ∈ ring.probes, probe.sent

theorem Full.send {count : Nat} (full : ring.Full count) (payloadLen : Nat) :
    (ring.send payloadLen true).Full (count + 1) where
  count := by rw [Ring.send, List.length_append, full.count, List.length_singleton]
  all := by
    intro probe member
    obtain earlier | last := List.mem_append.mp member
    · exact full.all probe earlier
    · rw [List.mem_singleton.mp last]

end Ring

/-! ## The attempts for a TTL -/

/-- Where a body raises a count by one at most, some runs of it raise it by their number at most. -/
theorem triple_forRange_counted {σ γ : Type} {counted : Nat → σ → Prop} {total most times : Nat}
    {body : Proc σ (Turn Unit γ)} (mono : ∀ few more state, few ≤ more → counted few state → counted more state)
    (each : ∀ most < total, Triple (counted most) body (fun _ => counted (most + 1)) (counted total))
    (inside : most + times ≤ total) :
    Triple (counted most) (forRange (fun _ _ => body) 0 times ())
      (Turn.post (fun _ => counted (most + times)) fun _ => counted (most + times)) (counted total) := by
  have loop := @triple_forRange σ Unit γ (counted total) (fun _ _ => body) (fun index _ => counted (most + index))
    (fun _ => counted (most + times)) 0 times (fun index _ _ below => ?_) ()
  · rw [Nat.zero_add] at loop
    exact loop
  · refine triple_conseq (each (most + index) (by omega)) (fun _ reached => reached) fun turn state reached => ?_
    cases turn with
    | next => exact reached
    | exit => exact mono _ _ state (by omega) reached

end Utiputils.Tracepath
