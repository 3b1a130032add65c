import Utiputils.Tracepath.Types

/-! # The history of probes

A ring of 64 entries remembers which probe went to which port. For its users it is a partial map from
ports to unanswered probes: `pending` reads that map off the ring, sending a probe enters its port, and
a lookup takes the port out again. -/

namespace Utiputils.Tracepath

/-- `value as usize` for an `i32`: a negative value becomes a huge one. -/
def i32AsUsize (value : Int) : Nat := (value % 2 ^ 64).toNat

/-! ## The operations -/

/-- The history part of `send_udp_probe_ipv6`, once `send_to` has succeeded. Out of bounds it panics. -/
def recordProbe (runState : RunState) (sendTime : Instant) : Option RunState :=
  let slot := runState.hisptr
  if inside : slot < HIS_ARRAY_SIZE then
    some { runState with
      history := runState.history.set slot ⟨runState.ttl, some sendTime⟩
      hisptr := (runState.hisptr + 1) &&& (HIS_ARRAY_SIZE - 1)
      sendTime := some sendTime }
  else none

/-- The TTL that a message is credited to, its round trip, and the state afterwards. -/
def findSendHistoryByPort (runState : RunState) (receivedPort : UInt16) (recvTime : Instant) :
    (UInt8 × Duration) × RunState :=
  if receivedPort = 0 then
    let rtt := match runState.sendTime with
      | some sendTime => durationSince recvTime sendTime
      | none => 0
    ((runState.ttl, rtt), runState)
  else
    -- a port below the base makes a huge slot, which fails the bound
    let slot := i32AsUsize (receivedPort.toNat - runState.basePort.toNat)
    if inside : slot < HIS_ARRAY_SIZE then
      if 0 < (runState.history[slot]).hops then
        let actualTtl := (runState.history[slot]).hops
        let rtt := match (runState.history[slot]).sendTime with
          | some sendTime => durationSince recvTime sendTime
          | none => 0
        ((actualTtl, rtt), { runState with history := runState.history.set slot {} })
      else ((runState.ttl, 0), runState)
    else ((runState.ttl, 0), runState)

/-! ## The ring as a map -/

/-- One slot of the ring is emptied. -/
def RunState.clearSlot (runState : RunState) (slot : Fin HIS_ARRAY_SIZE) : RunState :=
  { runState with history := runState.history.set slot {} }

/-- The ports of the ring stay clear of zero and of the end of the port range. -/
def PortsFit (basePort : UInt16) : Prop := 1 ≤ basePort.toNat ∧ basePort.toNat + 63 ≤ 65535

instance (basePort : UInt16) : Decidable (PortsFit basePort) := inferInstanceAs (Decidable (_ ∧ _))

/-- The slot of a port, if it has one. -/
def slotOf (basePort port : UInt16) : Option (Fin HIS_ARRAY_SIZE) :=
  if inside : basePort.toNat ≤ port.toNat ∧ port.toNat - basePort.toNat < HIS_ARRAY_SIZE then
    some ⟨port.toNat - basePort.toNat, inside.2⟩
  else none

def portOf (basePort : UInt16) (slot : Nat) : UInt16 := basePort + UInt16.ofNat slot

/-- The unanswered probe of a port. -/
def RunState.pending (runState : RunState) (port : UInt16) : Option HistoryEntry :=
  (slotOf runState.basePort port).bind fun slot =>
    if 0 < (runState.history[slot]).hops then some runState.history[slot] else none

theorem pending_congr {left right : RunState} (history : left.history = right.history)
    (basePort : left.basePort = right.basePort) : left.pending = right.pending := by
  funext port
  simp only [RunState.pending, history, basePort]

/-- The assignment of the loop over TTLs. -/
def RunState.setTtl (runState : RunState) (ttl : UInt8) : RunState := { runState with ttl }

@[simp] theorem setTtl_ttl (runState : RunState) (ttl : UInt8) : (runState.setTtl ttl).ttl = ttl := rfl
@[simp] theorem setTtl_hisptr (runState : RunState) (ttl : UInt8) :
    (runState.setTtl ttl).hisptr = runState.hisptr := rfl
@[simp] theorem setTtl_basePort (runState : RunState) (ttl : UInt8) :
    (runState.setTtl ttl).basePort = runState.basePort := rfl
@[simp] theorem setTtl_pending (runState : RunState) (ttl : UInt8) :
    (runState.setTtl ttl).pending = runState.pending := rfl

theorem i32AsUsize_sub (port basePort : UInt16) :
    i32AsUsize (port.toNat - basePort.toNat) =
      if basePort.toNat ≤ port.toNat then port.toNat - basePort.toNat
      else 2 ^ 64 + port.toNat - basePort.toNat := by
  have portBound := port.toNat_lt
  have baseBound := basePort.toNat_lt
  unfold i32AsUsize
  split <;> omega

section PortsFit

variable {basePort : UInt16} (fit : PortsFit basePort)
include fit

theorem portOf_toNat {slot : Nat} (inside : slot < HIS_ARRAY_SIZE) :
    (portOf basePort slot).toNat = basePort.toNat + slot := by
  have bound := fit.2
  rw [HIS_ARRAY_SIZE] at inside
  rw [portOf, UInt16.toNat_add, UInt16.toNat_ofNat']
  omega

theorem slotOf_portOf (slot : Fin HIS_ARRAY_SIZE) : slotOf basePort (portOf basePort slot) = some slot := by
  have exact := portOf_toNat fit slot.isLt
  simp only [slotOf, exact, Nat.le_add_right, Nat.add_sub_cancel_left, slot.isLt, and_self, dite_true]

theorem slotOf_eq_some_iff (port : UInt16) (slot : Fin HIS_ARRAY_SIZE) :
    slotOf basePort port = some slot ↔ port = portOf basePort slot := by
  constructor
  · intro found
    simp only [slotOf, Option.dite_none_right_eq_some, Option.some.injEq] at found
    obtain ⟨⟨above, -⟩, rfl⟩ := found
    apply UInt16.toNat_inj.mp
    rw [portOf_toNat fit (by assumption)]
    simp only
    omega
  · rintro rfl
    exact slotOf_portOf fit slot

theorem portOf_injective : Function.Injective fun slot : Fin HIS_ARRAY_SIZE => portOf basePort slot := by
  intro slot other same
  have found := congrArg (slotOf basePort) same
  rwa [slotOf_portOf fit, slotOf_portOf fit, Option.some_inj] at found

omit fit in
theorem slotOf_of_foreign {port : UInt16}
    (foreign : port.toNat < basePort.toNat ∨ basePort.toNat + 63 < port.toNat) :
    slotOf basePort port = none := by
  refine dif_neg ?_
  rw [HIS_ARRAY_SIZE]
  omega

theorem portOf_ne_zero {slot : Nat} (inside : slot < HIS_ARRAY_SIZE) : portOf basePort slot ≠ 0 := by
  intro isZero
  have exact := portOf_toNat fit inside
  have positive := fit.1
  rw [isZero] at exact
  simp only [UInt16.toNat_zero] at exact
  omega

end PortsFit

/-! ## Lookups -/

/-- A lookup by cases: the port has no slot, its slot is empty, or it holds an unanswered probe. -/
theorem findSendHistoryByPort_eq (runState : RunState) (port : UInt16) (recvTime : Instant)
    (notZero : port ≠ 0) : findSendHistoryByPort runState port recvTime =
      match slotOf runState.basePort port with
      | none => ((runState.ttl, 0), runState)
      | some slot =>
        if 0 < (runState.history[slot]).hops then
          (((runState.history[slot]).hops,
            match (runState.history[slot]).sendTime with
            | some sendTime => durationSince recvTime sendTime
            | none => 0),
          runState.clearSlot slot)
        else ((runState.ttl, 0), runState) := by
  have portBound := port.toNat_lt
  have baseBound := runState.basePort.toNat_lt
  by_cases above : runState.basePort.toNat ≤ port.toNat
  · by_cases below : port.toNat - runState.basePort.toNat < HIS_ARRAY_SIZE
    · have slot : i32AsUsize (port.toNat - runState.basePort.toNat) =
          port.toNat - runState.basePort.toNat := by rw [i32AsUsize_sub, if_pos above]
      simp only [findSendHistoryByPort, notZero, if_false, slot, below, dite_true, slotOf, above, and_self]
      rfl
    · simp [findSendHistoryByPort, notZero, i32AsUsize_sub, slotOf, above, below]
  · have huge : ¬ 2 ^ 64 + port.toNat - runState.basePort.toNat < HIS_ARRAY_SIZE := by
      rw [HIS_ARRAY_SIZE]
      omega
    simp only [findSendHistoryByPort, notZero, if_false, i32AsUsize_sub, above, huge, slotOf, false_and,
      dite_false]

/-- A lookup touches nothing but the history. -/
theorem findSendHistoryByPort_frame (runState : RunState) (port : UInt16) (recvTime : Instant) :
    ∃ history, (findSendHistoryByPort runState port recvTime).2 = { runState with history } := by
  simp only [findSendHistoryByPort]
  split_ifs
  · exact ⟨runState.history, rfl⟩
  · exact ⟨_, rfl⟩
  · exact ⟨runState.history, rfl⟩
  · exact ⟨runState.history, rfl⟩

/-- A port without an unanswered probe: nothing changes, and the credit goes to the current TTL. -/
theorem findSendHistoryByPort_of_none {runState : RunState} {port : UInt16} (recvTime : Instant)
    (noProbe : runState.pending port = none) :
    (findSendHistoryByPort runState port recvTime).1.1 = runState.ttl ∧
      (findSendHistoryByPort runState port recvTime).2 = runState := by
  by_cases isZero : port = 0
  · simp [findSendHistoryByPort, isZero]
  · rw [findSendHistoryByPort_eq _ _ _ isZero]
    cases found : slotOf runState.basePort port with
    | none => exact ⟨rfl, rfl⟩
    | some slot =>
      rw [RunState.pending, found, Option.bind_some, ite_eq_right_iff] at noProbe
      simp only [reduceCtorEq, imp_false] at noProbe
      simp only [noProbe, if_false, and_self]

section PortsFit

variable {runState : RunState} (fit : PortsFit runState.basePort)
include fit

/-- A port with an unanswered probe: the credit goes to that probe, and its slot is cleared. -/
theorem findSendHistoryByPort_of_some {port : UInt16} {entry : HistoryEntry} (recvTime : Instant)
    (probe : runState.pending port = some entry) :
    ∃ slot : Fin HIS_ARRAY_SIZE, port = portOf runState.basePort slot ∧
      findSendHistoryByPort runState port recvTime =
        ((entry.hops,
          match entry.sendTime with
          | some sendTime => durationSince recvTime sendTime
          | none => 0),
        runState.clearSlot slot) := by
  obtain ⟨slot, found, filled⟩ := Option.bind_eq_some_iff.mp probe
  rw [Option.ite_none_right_eq_some, Option.some_inj] at filled
  obtain ⟨positive, rfl⟩ := filled
  have port_eq := (slotOf_eq_some_iff fit port slot).mp found
  refine ⟨slot, port_eq, ?_⟩
  have notZero : port ≠ 0 := port_eq ▸ portOf_ne_zero fit slot.isLt
  rw [findSendHistoryByPort_eq _ _ _ notZero, found]
  simp only [positive, if_true]

/-- The credit of a lookup, read off the map. -/
theorem credit_findSendHistoryByPort (port : UInt16) (recvTime : Instant) :
    (findSendHistoryByPort runState port recvTime).1.1 =
      ((runState.pending port).map (·.hops)).getD runState.ttl := by
  cases probe : runState.pending port with
  | none => exact (findSendHistoryByPort_of_none recvTime probe).1
  | some entry =>
    obtain ⟨slot, rfl, found⟩ := findSendHistoryByPort_of_some fit recvTime probe
    rw [found]
    rfl

/-- Writing a slot of the ring is writing its port in the map. -/
theorem pending_set (slot : Fin HIS_ARRAY_SIZE) (entry : HistoryEntry) :
    RunState.pending { runState with history := runState.history.set slot entry } =
      Function.update runState.pending (portOf runState.basePort slot)
        (if 0 < entry.hops then some entry else none) := by
  funext port
  by_cases same : port = portOf runState.basePort slot
  · subst same
    rw [Function.update_self, RunState.pending, slotOf_portOf fit, Option.bind_some]
    simp
  · rw [Function.update_of_ne same, RunState.pending, RunState.pending]
    cases found : slotOf runState.basePort port with
    | none => rfl
    | some other =>
      have different : slot ≠ other := by
        rintro rfl
        exact same ((slotOf_eq_some_iff fit port slot).mp found)
      have untouched : (runState.history.set slot entry)[other] = runState.history[other] :=
        Vector.getElem_set_ne _ _ (by simpa [Fin.ext_iff] using different)
      simp only [Option.bind_some, untouched]

/-- A lookup takes its port out of the map. -/
theorem pending_findSendHistoryByPort (port : UInt16) (recvTime : Instant) :
    (findSendHistoryByPort runState port recvTime).2.pending = Function.update runState.pending port none := by
  cases probe : runState.pending port with
  | none =>
    rw [(findSendHistoryByPort_of_none recvTime probe).2, ← probe, Function.update_eq_self]
  | some entry =>
    obtain ⟨slot, rfl, found⟩ := findSendHistoryByPort_of_some fit recvTime probe
    rw [found, RunState.clearSlot, pending_set fit]
    rfl

/-- Recording a probe enters it under its destination port. -/
theorem pending_recordProbe (sendTime : Instant) (inside : runState.hisptr < HIS_ARRAY_SIZE)
    (positive : 0 < runState.ttl) :
    ∃ recorded, recordProbe runState sendTime = some recorded ∧
      recorded.pending = Function.update runState.pending (portOf runState.basePort runState.hisptr)
        (some ⟨runState.ttl, some sendTime⟩) ∧
      recorded.hisptr = (runState.hisptr + 1) % HIS_ARRAY_SIZE ∧
      recorded.basePort = runState.basePort ∧ recorded.ttl = runState.ttl := by
  refine ⟨_, dif_pos inside, ?_, Nat.and_two_pow_sub_one_eq_mod (runState.hisptr + 1) 6, rfl, rfl⟩
  have written := pending_set fit ⟨runState.hisptr, inside⟩ ⟨runState.ttl, some sendTime⟩
  rw [if_pos positive] at written
  exact written

end PortsFit

end Utiputils.Tracepath
