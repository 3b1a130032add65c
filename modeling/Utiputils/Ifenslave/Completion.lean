import Utiputils.Ifenslave.Confinement

/-! # The outcome of a batch

The command refuses for one of four reasons, or it gives every slave its turn, whatever becomes of the others, and tells
of each one that failed. On a system that keeps its word it never panics. -/

namespace Utiputils.Ifenslave

open Utiputils.Lib Utiputils.Pnet Proc Fallible

/-! ## Complaints -/

def Event.complaint? : Event → Option String
  | .printed (.error line) => some line
  | _ => none

/-- The lines on standard error, in their order. -/
def complaints (log : List (Event × Moment)) : List String := log.reverse.filterMap fun entry => entry.1.complaint?

theorem complaints_cons (event : Event) (now : Moment) (log : List (Event × Moment)) :
    complaints ((event, now) :: log) = complaints log ++ event.complaint?.toList := by
  rw [complaints, List.reverse_cons, List.filterMap_append]
  rfl

theorem Event.IsStep.complaint?_eq_none {event : Event} (isStep : event.IsStep) : event.complaint? = none := by
  unfold Event.complaint?
  split
  · next line => exact absurd rfl (isStep.2 line)
  · rfl

/-- What an operation on the slaves is: how it is attempted, what it writes in front of their names, whether its end
stands in the log, and how it complains. -/
structure Operation where
  master : String
  attempt : String → Io Unit
  sign : String
  noted : Bool
  failed : String

namespace Operation

def complaint (operation : Operation) (slave : String) : Except IoError Unit → Option String
  | .ok _ => none
  | .error e =>
    some ("Master interface '" ++ operation.master ++ "', Slave interface '" ++ slave ++ operation.failed ++ e.message)

/-- The line that the driver reads. -/
def written (operation : Operation) (slave : String) : Event :=
  .writeFile (slavesFile operation.master) (operation.sign ++ slave) none

/-- What the command does behind an attempt. -/
def tell (operation : Operation) (slave : String) (result : Except IoError Unit) (world : World) : World :=
  let noted := if operation.noted then world.note (.enslaved slave result) else world
  match operation.complaint slave result with
  | some line => noted.note (.printed (.error line))
  | none => noted

/-- The turn of a slave; whether the operation failed. -/
def takeTurn (operation : Operation) (slave : String) : Proc World Bool := do
  let result ← (operation.attempt slave).run
  modify (operation.tell slave result)
  pure (!result.isOk)

/-- These slaves have had their turns one after the other: each attempt began in the world that the turn before it left,
and the result is the one with which it returned there. -/
inductive Turned (operation : Operation) (start : World) : List String → List (Except IoError Unit) → World → Prop where
  | start : Turned operation start [] [] start
  | turn {done : List String} {results : List (Except IoError Unit)} {slave : String} {result : Except IoError Unit}
      {before returned : World} (earlier : Turned operation start done results before)
      (attempted : (operation.attempt slave).run before = .done result returned) :
      Turned operation start (done ++ [slave]) (results ++ [result]) (operation.tell slave result returned)

theorem complaints_tell (operation : Operation) (slave : String) (result : Except IoError Unit) (world : World) :
    Ifenslave.complaints (operation.tell slave result world).log =
      Ifenslave.complaints world.log ++ (operation.complaint slave result).toList := by
  have noted : Ifenslave.complaints (if operation.noted then world.note (.enslaved slave result) else world).log =
      Ifenslave.complaints world.log := by
    split
    · exact (complaints_cons _ _ _).trans (List.append_nil _)
    · rfl
  rw [tell, ← noted]
  cases operation.complaint slave result with
  | none => exact (List.append_nil _).symm
  | some line => exact complaints_cons _ _ _

theorem subset_tell (operation : Operation) (slave : String) (result : Except IoError Unit) (world : World) :
    world.log ⊆ (operation.tell slave result world).log := by
  have noted : world.log ⊆ (if operation.noted then world.note (.enslaved slave result) else world).log := by
    split
    · exact List.subset_cons_self _ _
    · exact List.Subset.refl _
  rw [tell]
  cases operation.complaint slave result with
  | none => exact noted
  | some line => exact List.subset_cons_of_subset _ noted

/-- Telling of a turn changes nothing else. -/
theorem tell_toMoment (operation : Operation) (slave : String) (result : Except IoError Unit) (world : World) :
    (operation.tell slave result world).toMoment = world.toMoment := by
  rw [tell]
  cases operation.noted <;> cases operation.complaint slave result <;> rfl

/-- Where these slaves have had their turn, with these results. -/
structure Progress (operation : Operation) (done : List String) (results : List (Except IoError Unit))
    (log : List (Event × Moment)) : Prop where
  each : results.length = done.length
  complaints : complaints log = (done.zip results).filterMap fun entry => operation.complaint entry.1 entry.2
  written : ∀ entry ∈ done.zip results, entry.2 = .ok () → ∃ moment, (operation.written entry.1, moment) ∈ log

theorem Progress.start (operation : Operation) : operation.Progress [] [] [] := ⟨rfl, rfl, List.forall_mem_nil _⟩

/-- The turn of a slave is over: a complaint is added for a failure, and what was written stays. -/
theorem Progress.turn {operation : Operation} {done : List String} {results : List (Except IoError Unit)}
    {log log' : List (Event × Moment)} (progress : operation.Progress done results log) {slave : String}
    {result : Except IoError Unit} (longer : log ⊆ log')
    (complained : Ifenslave.complaints log' = Ifenslave.complaints log ++ (operation.complaint slave result).toList)
    (success : result = .ok () → ∃ moment, (operation.written slave, moment) ∈ log') :
    operation.Progress (done ++ [slave]) (results ++ [result]) log' := by
  have split : (done ++ [slave]).zip (results ++ [result]) = done.zip results ++ [(slave, result)] :=
    List.zip_append progress.each.symm
  refine ⟨?_, ?_, ?_⟩
  · rw [List.length_append, List.length_append, progress.each]
    rfl
  · rw [complained, progress.complaints, split, List.filterMap_append]
    cases result <;> rfl
  · rw [split]
    intro entry member isOk
    obtain before | now := List.mem_append.mp member
    · obtain ⟨moment, inside⟩ := progress.written entry before isOk
      exact ⟨moment, longer inside⟩
    · rw [List.mem_singleton.mp now] at isOk ⊢
      exact success isOk

end Operation

/-! ## One turn -/

section

variable {permission : Permission} {setting : Setting} (trusted : setting.trusted)
include trusted

/-- A step adds nothing to the complaints, and takes nothing off the log. -/
theorem Confines.quiet {Failure Result : Type} {process : Fallible World Failure Result} {about : Result → Prop}
    (confined : Confines permission setting process about) (log : List (Event × Moment)) :
    Triple (fun world => world.log = log ∧ Sane setting world.toMoment) process.run
      (fun _ world => (complaints world.log = complaints log ∧ log ⊆ world.log) ∧ Sane setting world.toMoment)
      fun _ => False := by
  have stable : Stable (fun event now next => event.IsStep ∧ Act permission setting event now next)
      fun past _ => complaints past = complaints log ∧ log ⊆ past := by
    intro past now event next ⟨isStep, _⟩ ⟨same, longer⟩
    refine ⟨?_, fun _ member => List.mem_cons_of_mem _ (longer member)⟩
    rw [complaints_cons, same, isStep.complaint?_eq_none]
    exact List.append_nil _
  refine triple_conseq (triple_stopped (confined _ stable) fun _ reached => reached.2 trusted) ?_
    fun _ _ reached => reached.1
  rintro world ⟨rfl, sane⟩
  exact ⟨⟨rfl, List.Subset.refl _⟩, sane⟩

end

section

variable {permission : Permission} {setting : Setting} {master slave : String} {fromStr : String → Option MacAddr}

/-- Where an event has happened. -/
def Happened (event : Event) (world : World) : Prop := ∃ moment, (event, moment) ∈ world.log

theorem Confines.sane {Failure Result : Type} {process : Fallible World Failure Result} {about : Result → Prop}
    (confined : Confines permission setting process about) :
    Tries (fun world => Sane setting world.toMoment) process (fun _ world => Sane setting world.toMoment) fun _ => True :=
  tries_conseq (tries_broken ((confined (fun _ _ => True) fun _ _ _ _ _ _ => trivial).tries fun _ reached => reached.1)
    fun _ _ => trivial) (fun _ sane => ⟨trivial, sane⟩) fun _ _ reached => reached.2.2

/-- What has happened stays. -/
theorem Confines.happened {Failure Result : Type} {process : Fallible World Failure Result} {about : Result → Prop}
    (confined : Confines permission setting process about) (event : Event) :
    Tries (fun world => Happened event world ∧ Sane setting world.toMoment) process
      (fun _ world => Happened event world ∧ Sane setting world.toMoment) fun _ => True := by
  have stable : Stable (fun event now next => event.IsStep ∧ Act permission setting event now next)
      fun past _ => ∃ moment, (event, moment) ∈ past :=
    fun _ _ _ _ _ ⟨moment, member⟩ => ⟨moment, List.mem_cons_of_mem _ member⟩
  exact tries_conseq (tries_broken ((confined _ stable).tries fun _ reached => reached.1) fun _ _ => trivial)
    (fun _ holds => holds) fun _ _ reached => reached.2

theorem writeFile_happened {path contents : String} (permitted : (path, contents) ∈ permission.files) :
    Tries (fun world => Sane setting world.toMoment) (writeFile path contents)
      (fun _ world => Happened (.writeFile path contents none) world ∧ Sane setting world.toMoment) fun _ => True := by
  have written : Tries (fun _ => True) (writeFile path contents)
      (fun _ => Happened (.writeFile path contents none)) fun _ => True := by
    refine tries_mk (triple_modifyGet fun world _ => ?_)
    cases world.sysfsFailures.head with
    | some failure => trivial
    | none => exact ⟨world.toMoment, List.mem_cons_self⟩
  exact tries_conseq (tries_broken (tries_and written (confines_writeFile permitted).sane) fun _ _ => trivial)
    (fun _ sane => ⟨trivial, sane⟩) fun _ _ reached => reached

/-- Where enslaving succeeds, the driver was told. -/
theorem enslave_happened (permitted : permission.Enslaves setting.version master slave)
    (parses : setting.trusted → (fromStr "00:00:00:00:00:00").isSome) :
    Tries (fun world => Sane setting world.toMoment) (enslave fromStr master slave)
      (fun _ world => Happened (.writeFile (slavesFile master) ("+" ++ slave) none) world ∧ Sane setting world.toMoment)
      fun _ => True :=
  tries_bind (@confines_slaveFlags permission setting slave).sane fun flags =>
    tries_bind (@confines_refuseSlave permission setting slave flags).sane fun _ =>
    tries_bind (confines_disableSlave permitted.flags).sane fun _ =>
    tries_bind (@confines_matchAddresses permission setting master slave permitted.addresses).sane fun _ =>
    tries_bind (@confines_matchMtu permission setting master slave permitted.mtu).sane fun _ =>
    tries_bind (confines_matchHardwareAddress permitted.toMatchesMac parses).sane fun _ =>
    tries_bind (tries_mapError (writeFile_happened permitted.file)) fun _ =>
    (@confines_report permission setting _ _ fun _ => Output.noConfusion).happened _

theorem release_happened (flags : slave ∈ permission.flags) (mtu : slave ∈ permission.mtu)
    (file : (slavesFile master, "-" ++ slave) ∈ permission.files) :
    Tries (fun world => Sane setting world.toMoment) (release master slave)
      (fun _ world => Happened (.writeFile (slavesFile master) ("-" ++ slave) none) world ∧ Sane setting world.toMoment)
      fun _ => True :=
  tries_bind (@confines_slaveFlags permission setting slave).sane fun flags' =>
    tries_bind (@confines_requireSlave permission setting slave flags').sane fun _ =>
    tries_bind (tries_mapError (writeFile_happened file)) fun _ =>
    tries_bind ((confines_whenOld fun _ => confines_disableSlave flags).happened _) fun _ =>
    tries_bind ((confines_orFail (confines_setInterfaceMtu mtu 1500)).happened _) fun _ =>
    (@confines_report permission setting _ _ fun _ => Output.noConfusion).happened _

/-- What is known when the attempt on a slave, which began in a world, has returned. -/
structure Operation.Returned (operation : Operation) (setting : Setting) (before : World) (slave : String)
    (result : Except IoError Unit) (world : World) : Prop where
  attempted : (operation.attempt slave).run before = .done result world
  quiet : complaints world.log = complaints before.log
  longer : before.log ⊆ world.log
  sane : Sane setting world.toMoment
  happened : result = .ok () → Happened (operation.written slave) world

theorem returned_run (trusted : setting.trusted) {operation : Operation} {about : Unit → Prop}
    (confined : Confines permission setting (operation.attempt slave) about)
    (happened : Tries (fun world => Sane setting world.toMoment) (operation.attempt slave)
      (fun _ world => Happened (operation.written slave) world ∧ Sane setting world.toMoment) fun _ => True)
    (before : World) :
    Triple (fun world => world = before ∧ Sane setting world.toMoment) (operation.attempt slave).run
      (operation.Returned setting before slave) fun _ => False := by
  have succeeded := @Tries.run _ _ _ _ _ _ _
    (fun result world => result = .ok () → Happened (operation.written slave) world) happened
    (fun _ _ reached _ => reached.1) fun _ _ _ contra => nomatch contra
  have both := triple_and (triple_ran (operation.attempt slave).run before)
    (triple_and (confined.quiet trusted before.log) succeeded)
  refine triple_conseq (triple_stopped both fun _ reached => reached.2.1.elim) ?_ fun _ _ reached =>
    ⟨reached.1, reached.2.1.1.1, reached.2.1.1.2, reached.2.1.2, reached.2.2⟩
  rintro world ⟨rfl, sane⟩
  exact ⟨rfl, ⟨rfl, sane⟩, sane⟩

/-- Where these slaves have had their turn. -/
structure Operation.Stands (operation : Operation) (setting : Setting) (start : World) (done : List String)
    (results : List (Except IoError Unit)) (world : World) : Prop where
  sane : Sane setting world.toMoment
  turned : operation.Turned start done results world
  progress : operation.Progress done results world.log

variable {operation : Operation} {start : World}

theorem Operation.Returned.stands {before world : World} {result : Except IoError Unit}
    (returned : operation.Returned setting before slave result world) {done : List String}
    {results : List (Except IoError Unit)} (stands : operation.Stands setting start done results before) :
    operation.Stands setting start (done ++ [slave]) (results ++ [result]) (operation.tell slave result world) := by
  have longer := operation.subset_tell slave result world
  refine ⟨by rw [operation.tell_toMoment]; exact returned.sane, stands.turned.turn returned.attempted, ?_⟩
  refine stands.progress.turn (List.Subset.trans returned.longer longer) ?_ fun isOk => ?_
  · rw [operation.complaints_tell, returned.quiet]
  · obtain ⟨moment, member⟩ := returned.happened isOk
    exact ⟨moment, longer member⟩

/-- The turn of one slave in the batch. -/
def Operation.Turns (operation : Operation) (setting : Setting) (slave : String) : Prop :=
  ∀ start done results, Triple (operation.Stands setting start done results) (operation.takeTurn slave)
    (fun failed world => ∃ result, failed = !result.isOk ∧
      operation.Stands setting start (done ++ [slave]) (results ++ [result]) world)
    fun _ => False

theorem turns_takeTurn (trusted : setting.trusted) {about : Unit → Prop}
    (confined : Confines permission setting (operation.attempt slave) about)
    (happened : Tries (fun world => Sane setting world.toMoment) (operation.attempt slave)
      (fun _ world => Happened (operation.written slave) world ∧ Sane setting world.toMoment) fun _ => True) :
    operation.Turns setting slave := by
  intro start done results before stands
  refine triple_bind (returned_run trusted confined happened before) (fun result => ?_) before ⟨rfl, stands.sane⟩
  have told : Triple (operation.Returned setting before slave result) (modify (operation.tell slave result))
      (fun _ => operation.Stands setting start (done ++ [slave]) (results ++ [result])) fun _ => False :=
    triple_modify fun world returned => returned.stands stands
  exact triple_bind told fun _ => triple_pure fun _ holds => ⟨result, rfl, holds⟩

def releasing (master : String) : Operation := ⟨master, release master, "-", false, "': Error: Detach failed: "⟩

def enslaving (fromStr : String → Option MacAddr) (master : String) : Operation :=
  ⟨master, enslave fromStr master, "+", true, "': Error: Add failed: "⟩

theorem releaseOne_eq (master slave : String) : releaseOne master slave = (releasing master).takeTurn slave :=
  bind_congr fun result => by cases result <;> rfl

theorem enslaveOne_eq (fromStr : String → Option MacAddr) (master slave : String) :
    enslaveOne fromStr master slave = (enslaving fromStr master).takeTurn slave :=
  bind_congr fun result => by cases result <;> rfl

theorem turns_releasing (trusted : setting.trusted) (flags : slave ∈ permission.flags) (mtu : slave ∈ permission.mtu)
    (file : (slavesFile master, "-" ++ slave) ∈ permission.files) : (releasing master).Turns setting slave :=
  @turns_takeTurn permission setting slave (releasing master) trusted _ (confines_release flags mtu file)
    (release_happened flags mtu file)

theorem turns_enslaving (trusted : setting.trusted) (permitted : permission.Enslaves setting.version master slave)
    (parses : setting.trusted → (fromStr "00:00:00:00:00:00").isSome) :
    (enslaving fromStr master).Turns setting slave :=
  @turns_takeTurn permission setting slave (enslaving fromStr master) trusted _ (confines_enslave permitted parses)
    (enslave_happened permitted parses)

/-- Every slave has its turn, in order, and the batch knows whether one has failed. -/
theorem stands_batch {slaves : List String} (each : ∀ slave ∈ slaves, operation.Turns setting slave)
    (done : List String) (results : List (Except IoError Unit)) :
    Triple (operation.Stands setting start done results) (batch operation.takeTurn slaves (results.any (!·.isOk)))
      (fun errors world => ∃ results, errors = results.any (!·.isOk) ∧
        operation.Stands setting start (done ++ slaves) results world)
      fun _ => False := by
  induction slaves generalizing done results with
  | nil => exact triple_pure fun _ stands => ⟨results, rfl, by rwa [List.append_nil]⟩
  | cons slave slaves inductionHypothesis =>
    obtain ⟨first, later⟩ := List.forall_mem_cons.mp each
    refine triple_bind (first start done results) fun failed => triple_exists fun result => triple_given ?_
    rintro rfl
    have rest := inductionHypothesis later (done ++ [slave]) (results ++ [result])
    rw [List.append_assoc, List.any_append, List.any_cons, List.any_nil, Bool.or_false] at rest
    exact rest

end

/-! ## Refusals -/

/-- The world behind one query. -/
def World.queried (world : World) : World := { world with readFailures := world.readFailures.tail }

/-- Whether a query shows that a flag of the interface is set. -/
def World.showsFlag (world : World) (name : String) (flag : UInt32) : Bool :=
  world.readFailures.head.isNone && (world.kernel.find name).any fun link => link.flags &&& flag != 0

/-- With what the command refuses a master: it is none, or it is not enabled, each asked for in a query of its own. -/
def masterRefusal (master : String) (world : World) : Option IoError :=
  if !world.showsFlag master IFF_MASTER then
    some ⟨.invalidInput, "Invalid operation: Specified interface '" ++ master ++ "' is not a master interface"⟩
  else if !world.queried.showsFlag master IFF_UP then
    some ⟨.invalidInput, "Invalid operation: Specified master interface '" ++ master ++ "' is not enabled"⟩
  else none

/-- With what the command refuses: it has no connection, the driver does not answer for the master, or it refuses the
master. -/
def refusal (connection : Except String Unit) (master : String) (world : World) : Option IoError :=
  match connection with
  | .error _ => some ⟨.other, "Failed to initialize network interface: Failed to create network connection"⟩
  | .ok _ =>
    if !world.showsFlag master IFF_MASTER then
      some ⟨.other, "Master '" ++ master ++ "': Error: handshake with driver failed. Aborting"⟩
    else masterRefusal master world.queried

section

variable (name : String) (flag : UInt32) (world : World)

theorem getInterfaceFlags_run : ∃ answer : Except NetlinkError UInt32,
    (getInterfaceFlags name).run world = .done answer world.queried ∧
      (answer.toOption.any fun flags => flags &&& flag != 0) = world.showsFlag name flag := by
  rw [World.showsFlag, getInterfaceFlags]
  cases failed : world.readFailures.head with
  | some failure =>
    have asked : (getLinkInfo name).run world = .done (.error failure) world.queried := by
      simp only [getLinkInfo, ExceptT.run_mk, Proc.modifyGet, failed, World.queried]
    exact ⟨.error failure, run_bind_error asked, rfl⟩
  | none =>
    cases found : world.kernel.find name with
    | none =>
      have asked : (getLinkInfo name).run world = .done (.error .requestFailed) world.queried := by
        simp only [getLinkInfo, ExceptT.run_mk, Proc.modifyGet, failed, found, World.queried]
      exact ⟨.error .requestFailed, run_bind_error asked, rfl⟩
    | some link =>
      have asked : (getLinkInfo name).run world = .done (.ok link.message) world.queried := by
        simp only [getLinkInfo, ExceptT.run_mk, Proc.modifyGet, failed, found, World.queried]
      exact ⟨.ok link.flags, run_bind_ok asked, rfl⟩

theorem getDrvInfo_run : ∃ answer : Except NetlinkError Unit,
    (getDrvInfo name).run world = .done answer world.queried ∧ answer.isOk = world.showsFlag name IFF_MASTER := by
  obtain ⟨answer, asked, shows⟩ := getInterfaceFlags_run name IFF_MASTER world
  cases answer with
  | error failure => exact ⟨.error failure, run_bind_error asked, shows⟩
  | ok flags =>
    by_cases isMaster : flags &&& IFF_MASTER = 0
    · refine ⟨.error .requestFailed, (run_bind_ok asked).trans ?_, ?_⟩
      · rw [if_pos isMaster]
        rfl
      · rw [← shows]
        exact (bne_eq_false_iff_eq.mpr isMaster).symm
    · refine ⟨.ok (), (run_bind_ok asked).trans ?_, ?_⟩
      · rw [if_neg isMaster]
        rfl
      · rw [← shows]
        exact (bne_iff_ne.mpr isMaster).symm

theorem requireFlag_run (message : String) : (requireFlag name flag message).run world =
    .done (if world.showsFlag name flag then .ok () else .error ⟨.invalidInput, message⟩) world.queried := by
  obtain ⟨answer, asked, shows⟩ := getInterfaceFlags_run name flag world
  have said : (hasFlag name flag).run world = .done (.ok (world.showsFlag name flag)) world.queried := by
    rw [← shows]
    show (((getInterfaceFlags name).run >>= _) >>= _) world = _
    simp only [bind, asked]
    cases answer <;> rfl
  rw [requireFlag, run_bind_ok said]
  cases world.showsFlag name flag <;> rfl

end

/-! ## The command -/

/-- The answer of the command that is due: it refuses and nothing has been done, or each slave has had its turn. -/
def Operation.Answers (operation : Operation) (slaves : List String) (refused : Option IoError) (ready : World)
    (answer : Except IoError Unit) (final : World) : Prop :=
  match refused with
  | some failure => answer = .error failure ∧ final.log = [] ∧ final.kernel = ready.kernel
  | none => ∃ results, operation.Turned ready slaves results final ∧ operation.Progress slaves results final.log ∧
      answer = if results.any (!·.isOk) then
        .error ⟨.other, "Errors occurred while processing one or more interfaces"⟩ else .ok ()

section

variable {setting : Setting} {operation : Operation} {slaves : List String}

theorem answers_batch (each : ∀ slave ∈ slaves, operation.Turns setting slave) {ready : World}
    (sane : Sane setting ready.toMoment) (unlogged : ready.log = []) :
    ∃ answer final, (do
        let errors ← ExceptT.lift (batch operation.takeTurn slaves false)
        errorsOccurred errors : Io Unit).run ready = .done answer final ∧
      operation.Answers slaves none ready answer final := by
  have stands : operation.Stands setting ready [] [] ready := ⟨sane, .start, unlogged ▸ .start operation⟩
  have ran := stands_batch each [] [] ready stands
  have first : batch operation.takeTurn slaves (([] : List (Except IoError Unit)).any (!·.isOk)) =
      batch operation.takeTurn slaves false := rfl
  rw [first] at ran
  cases ended : batch operation.takeTurn slaves false ready with
  | stopped final =>
    rw [ended] at ran
    exact ran.elim
  | done errors final =>
    rw [ended] at ran
    obtain ⟨results, rfl, reached⟩ := ran
    have lifted : (ExceptT.lift (batch operation.takeTurn slaves false) : Io Bool).run ready =
        .done (.ok (results.any (!·.isOk))) final := by
      show (batch operation.takeTurn slaves false >>= _) ready = _
      simp only [bind, ended]
      rfl
    rw [run_bind_ok lifted, errorsOccurred]
    refine ⟨_, final, ?_, results, reached.turned, reached.progress, rfl⟩
    cases results.any (!·.isOk) <;> rfl

end

/-- What is done with each slave. -/
def IfenslaveConfig.operation (optArgs : IfenslaveConfig) (fromStr : String → Option MacAddr) (master : String) :
    Operation :=
  if optArgs.detach then releasing master else enslaving fromStr master

section

variable {setting : Setting} {fromStr : String → Option MacAddr} {optArgs : IfenslaveConfig} {master : String}
  {slaves : List String} (trusted : setting.trusted) (parses : setting.trusted → (fromStr "00:00:00:00:00:00").isSome)
include trusted parses

theorem turns_operation : ∀ slave ∈ slaves, (optArgs.operation fromStr master).Turns setting slave := by
  intro slave member
  rw [IfenslaveConfig.operation]
  by_cases detach : optArgs.detach = true
  · rw [if_pos detach]
    exact @turns_releasing
      { flags := slaves, mtu := slaves, files := slaves.map fun slave => (slavesFile master, "-" ++ slave) }
      setting master slave trusted member member (List.mem_map_of_mem member)
  · rw [if_neg detach]
    have later := List.mem_cons_of_mem master member
    let permission : Permission :=
      { flags := master :: slaves, mac := master :: slaves, mtu := slaves, addresses := slaves
        files := slaves.map fun slave => (slavesFile master, "+" ++ slave) }
    have permitted : permission.Enslaves setting.version master slave :=
      ⟨⟨List.mem_cons_self, fun _ => later, fun _ => List.mem_cons_self, fun _ => later⟩, later, member, member,
        List.mem_map_of_mem member⟩
    exact turns_enslaving trusted permitted parses

theorem answers_operate (keepsActive : ¬ optArgs.changeActive = true) {passed : World}
    (sane : Sane setting passed.toMoment) (unlogged : passed.log = []) :
    ∃ answer final, (operate fromStr optArgs master slaves).run passed = .done answer final ∧
      (optArgs.operation fromStr master).Answers slaves (masterRefusal master passed) passed.queried.queried answer
        final := by
  have isMaster := requireFlag_run master IFF_MASTER passed
    ("Invalid operation: Specified interface '" ++ master ++ "' is not a master interface")
  have isUp := requireFlag_run master IFF_UP passed.queried
    ("Invalid operation: Specified master interface '" ++ master ++ "' is not enabled")
  unfold operate
  rw [masterRefusal]
  cases masters : passed.showsFlag master IFF_MASTER with
  | false =>
    rw [masters] at isMaster
    exact ⟨_, _, run_bind_error isMaster, rfl, unlogged, rfl⟩
  | true =>
    rw [masters] at isMaster
    rw [run_bind_ok isMaster]
    cases enabled : passed.queried.showsFlag master IFF_UP with
    | false =>
      rw [enabled] at isUp
      exact ⟨_, _, run_bind_error isUp, rfl, unlogged, rfl⟩
    | true =>
      rw [enabled] at isUp
      have answers := answers_batch (@turns_operation setting fromStr optArgs master slaves trusted parses)
        (show Sane setting passed.queried.queried.toMoment from sane) unlogged
      rw [run_bind_ok isUp, if_neg keepsActive]
      rw [IfenslaveConfig.operation] at answers ⊢
      by_cases detach : optArgs.detach = true
      · rw [if_pos detach] at answers ⊢
        rw [if_pos detach, funext (releaseOne_eq master)]
        exact answers
      · rw [if_neg detach] at answers ⊢
        rw [if_neg detach, funext (enslaveOne_eq fromStr master)]
        exact answers

end

/-- The world when the command has its connection. -/
def World.opened (environment : Environment) (kernel : Kernel) (verbose : Bool) (abiVersion : Option Int) : World :=
  { World.start environment kernel with network := ⟨verbose, abiVersion.getD 0, false⟩ }

/-- On a system that reports the addresses of IPv4 and reads a hardware address, the command never panics when it is
given slaves to enslave or release. It refuses for a reason without having changed anything, or each slave has had its
turn, in order, whatever became of the others: the operation on it began where the turn before it had ended, and has
returned. A line on standard error tells of each that failed and of no other, each that succeeded was told to the driver,
and the answer is `Ok` exactly if none failed. -/
theorem mainRun_completes (fromStr : String → Option MacAddr) (parses : (fromStr "00:00:00:00:00:00").isSome)
    (showError : NetlinkError → String) (optArgs : IfenslaveConfig) (master : String) (slaves : List String)
    (arguments : optArgs.interfaces = master :: slaves) (some : slaves ≠ []) (notAll : ¬ optArgs.allInterfaces = true)
    (keepsActive : ¬ optArgs.changeActive = true) (environment : Environment) (kernel : Kernel)
    (proper : kernel.Proper True) (connection : Except String Unit) (abiVersion : Option Int) :
    let opened := World.opened environment kernel optArgs.verbose abiVersion
    ∃ answer final, (mainRun fromStr showError optArgs connection abiVersion).run (World.start environment kernel) =
        .done answer final ∧
      (optArgs.operation fromStr master).Answers slaves (refusal connection master opened) opened.queried.queried.queried
        answer final := by
  intro opened
  cases connection with
  | error failure => exact ⟨_, _, rfl, rfl, rfl, rfl⟩
  | ok value =>
    have notShown : ¬ optArgs.isShowMode = true := by
      intro shows
      rw [IfenslaveConfig.isShowMode, arguments, Bool.and_eq_true, beq_iff_eq] at shows
      exact some (List.length_eq_zero_iff.mp (Nat.succ.inj shows.1))
    have same : (mainRun fromStr showError optArgs (.ok value) abiVersion).run (World.start environment kernel) =
        (orFail (getDrvInfo master) .other ("Master '" ++ master ++ "': Error: handshake with driver failed. Aborting") >>=
          fun _ => operate fromStr optArgs master slaves).run opened := by
      show (mainRunWith fromStr showError optArgs).run opened = _
      simp only [mainRunWith, if_neg notAll, arguments, if_neg notShown]
    obtain ⟨answer, asked, answers⟩ := getDrvInfo_run master opened
    have handshake : (orFail (getDrvInfo master) .other
        ("Master '" ++ master ++ "': Error: handshake with driver failed. Aborting")).run opened =
        .done (answer.mapError fun _ =>
          ⟨.other, "Master '" ++ master ++ "': Error: handshake with driver failed. Aborting"⟩) opened.queried :=
      run_mapError asked
    rw [same, refusal]
    cases greeted : opened.showsFlag master IFF_MASTER with
    | false =>
      rw [greeted] at answers
      cases answer with
      | ok value => cases answers
      | error failure => exact ⟨_, _, run_bind_error handshake, rfl, rfl, rfl⟩
    | true =>
      rw [greeted] at answers
      cases answer with
      | error failure => cases answers
      | ok value =>
        let setting : Setting := ⟨kernel, abiVersion.getD 0, True⟩
        have sane : Sane setting opened.queried.toMoment := ⟨fun _ _ => rfl, proper, rfl⟩
        rw [run_bind_ok handshake]
        exact answers_operate trivial (fun _ => parses) keepsActive sane rfl

theorem twoInterfaces_proper : twoInterfaces.Proper True := by
  have bare : ∀ link ∈ twoInterfaces.links, link.addresses = [] := by decide
  intro link member message inside
  rw [bare link member] at inside
  exact absurd inside List.not_mem_nil

/-- One of two slaves fails. -/
theorem mainRun_completes_twoSlaves :
    ∃ answer final, (mainRun colonMac (fun _ => "failed") { interfaces := ["bond0", "eth0", "eth1"] } (.ok ())
        (some 0)).run (World.start failingOnce twoInterfaces) = .done answer final ∧
      (enslaving colonMac "bond0").Answers ["eth0", "eth1"] none
        (World.opened failingOnce twoInterfaces false (some 0)).queried.queried.queried answer final := by
  have begins : refusal (.ok ()) "bond0" (World.opened failingOnce twoInterfaces false (some 0)) = none := by
    decide +kernel
  rw [← begins]
  exact mainRun_completes colonMac (by decide +kernel) (fun _ => "failed")
    { interfaces := ["bond0", "eth0", "eth1"] } "bond0" ["eth0", "eth1"] rfl (by decide) (by decide) (by decide)
    failingOnce twoInterfaces twoInterfaces_proper (.ok ()) (some 0)

end Utiputils.Ifenslave
