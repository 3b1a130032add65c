import Utiputils.Pnet

/-! # Configuration and statistics of ping

`PingConfig` with the fields that the echo loops and what they print read, and `PingStats` with its operations. The round
trip figures of `PingStats` are floating point numbers that no branch depends on; they are left out, and
so is the text that the summary makes of them. -/

namespace Utiputils.Ping

open Utiputils.Lib

/-- A reading of the monotonic clock. -/
abbrev Instant := Nat

/-- `std::time::Duration` in nanoseconds. -/
abbrev Duration := Nat

def Duration.fromMillis (millis : Nat) : Duration := millis * 1000000

/-- `Instant::elapsed`, which saturates. -/
def Instant.elapsed (earlier now : Instant) : Duration := now - earlier

/-! ## The configuration -/

structure PingConfig where
  host : Option String := none
  count : Option UInt32 := none
  deadline : Duration := 0
  startTime : Instant := 0
  identifier : UInt16 := 0
  preload : UInt16 := 0
  packetSize : Nat := 56
  pattern : Bytes := []
  ttl : UInt32 := 64
  timestamp : String := ""
  recordRoute : Bool := false
  flood : Bool := false
  audible : Bool := false
  outstanding : Bool := false
  connectSk : Bool := false
  numericOnly : Bool := false
  quiet : Bool := false
  verbose : Bool := false
  printTimestamp : Bool := false
  isDirectIpInput : Bool := false
  -- as `preloadOf` makes it
  preload_le : preload.toNat ≤ 10 := by decide

/-- The preload that `init_runtime_fields` makes of the argument of `-l`. -/
def preloadOf (preloadArg : Option UInt16) : UInt16 := (preloadArg.map fun preload => min preload 10).getD 0

theorem preloadOf_le (preloadArg : Option UInt16) : (preloadOf preloadArg).toNat ≤ 10 := by
  cases preloadArg with
  | none => decide
  | some preload =>
    show (if preload ≤ 10 then preload else 10).toNat ≤ 10
    split
    next small => exact UInt16.le_iff_toNat_le.mp small
    next => decide

theorem noPreload : (0 : UInt16).toNat ≤ 10 := preloadOf_le none

/-! ## The statistics -/

structure PingStats where
  transmitted : UInt32 := 0
  received : UInt32 := 0
  errors : UInt32 := 0
  startTime : Option Instant := none
  sentTimes : Std.TreeMap UInt16 Instant := ∅

namespace PingStats

def new : PingStats := {}

def recordSentTime (self : PingStats) (seq : UInt16) (now : Instant) : PingStats :=
  { self with sentTimes := self.sentTimes.insert seq now, transmitted := self.transmitted + 1 }

def getSentTime (self : PingStats) (seq : UInt16) : Option Instant × PingStats :=
  (self.sentTimes[seq]?, { self with sentTimes := self.sentTimes.erase seq })

def update (self : PingStats) : PingStats := { self with received := self.received + 1 }

def recordError (self : PingStats) : PingStats := { self with errors := self.errors + 1 }

/-- The counts that `summary` prints: transmitted, received, errors and lost packets. The subtraction
that finds the lost packets is checked. -/
def summary (self : PingStats) : Option (UInt32 × UInt32 × UInt32 × UInt32) :=
  if 0 < self.transmitted then
    if self.received ≤ self.transmitted then
      some (self.transmitted, self.received, self.errors, self.transmitted - self.received)
    else none
  else some (self.transmitted, self.received, self.errors, 0)

/-! ## The table of open requests -/

theorem size_recordSentTime (self : PingStats) (seq : UInt16) (now : Instant) :
    (self.recordSentTime seq now).sentTimes.size =
      if self.sentTimes[seq]?.isSome then self.sentTimes.size else self.sentTimes.size + 1 := by
  simp only [recordSentTime, Std.TreeMap.size_insert, Std.TreeMap.contains_eq_isSome_getElem?]

theorem size_getSentTime (self : PingStats) (seq : UInt16) :
    (self.getSentTime seq).2.sentTimes.size =
      if self.sentTimes[seq]?.isSome then self.sentTimes.size - 1 else self.sentTimes.size := by
  simp only [getSentTime, Std.TreeMap.size_erase, Std.TreeMap.contains_eq_isSome_getElem?]

theorem size_pos_of_lookup (self : PingStats) (seq : UInt16) (present : self.sentTimes[seq]?.isSome) :
    0 < self.sentTimes.size := by
  have contains : self.sentTimes.contains seq = true := by
    rw [Std.TreeMap.contains_eq_isSome_getElem?]
    exact present
  have notEmpty := Std.TreeMap.isEmpty_eq_false_of_contains contains
  rw [Std.TreeMap.isEmpty_eq_size_eq_zero, beq_eq_false_iff_ne] at notEmpty
  exact Nat.pos_of_ne_zero notEmpty

theorem lookup_recordSentTime (self : PingStats) (seq : UInt16) (now : Instant) (other : UInt16) :
    (self.recordSentTime seq now).sentTimes[other]? =
      if other = seq then some now else self.sentTimes[other]? := by
  simp only [recordSentTime, Std.TreeMap.getElem?_insert, Std.compare_eq_iff_eq, @eq_comm _ other]

theorem lookup_getSentTime (self : PingStats) (seq other : UInt16) :
    (self.getSentTime seq).2.sentTimes[other]? = if other = seq then none else self.sentTimes[other]? := by
  simp only [getSentTime, Std.TreeMap.getElem?_erase, Std.compare_eq_iff_eq, @eq_comm _ other]

end PingStats

end Utiputils.Ping
