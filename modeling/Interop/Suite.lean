import Interop.Execution
import Interop.Matrix.Expansion
import Interop.Reporter

/-!
# Suites

A suite runs every case of every test.  A scheduler takes the cases in generation order,
reserves a slot of the report for each, and either skips the case or admits it as soon as one
of a fixed number of permits is free.  An admitted case is a job: its execution goes on beside
the scheduler and the other jobs, and when it is over the job sets the fail-fast flag, submits
the record and returns its permit, in this order.

A suite is moved on by single steps of the scheduler, of a job or of an execution, by aborts,
and by nodes that others return.  Every order of moves is possible.
-/

namespace Interop

inductive Phase
  | admitted
  | running (execution : Execution)
  | recorded (record : CaseRecord)
  | flagged (record : CaseRecord)
  | submitted
  | ended

def Phase.isEnded : Phase → Bool
  | .ended => true
  | _ => false

structure Job where
  slot : Nat
  test : Test
  case : TestCase
  phase : Phase

structure Candidate where
  slot : Nat
  test : Test
  case : TestCase

inductive Scheduler
  | choose
  | screen (candidate : Candidate)
  | screenTrip (candidate : Candidate)
  | queue (candidate : Candidate)
  | review (candidate : Candidate) (permit : Bool)
  | reviewTrip (candidate : Candidate) (permit : Bool)
  | skip (slot : Nat) (reason : String) (permit : Bool)
  | submit (slot : Nat) (record : CaseRecord) (permit : Bool)
  | join
  | done (result : Except ReportError Report)

structure Suite where
  config : Config
  pool : Pool
  reporter : Reporter
  permits : Nat
  tripped : Bool
  signal : AbortSignal
  plan : List (Test × Expansion)
  scheduler : Scheduler
  jobs : List Job

inductive SuiteMove
  | schedule
  | advance (job : Nat)
  | play (job : Nat) (move : CaseMove)
  | abort (reason : AbortReason)
  /-- Nodes leased by others come back. -/
  | giveBack (lease : Lease)

namespace Suite

def ofTests (config : Config) (cores : Nat) (tests : List Test) : Suite :=
  { config
    pool := .ofHosts config.hosts
    reporter := .empty
    permits := config.permits cores
    tripped := false
    signal := .quiet
    plan := tests.map fun test => (test, test.matrix.expand)
    scheduler := .choose
    jobs := [] }

/-! ## The scheduler -/

def failFastReason : String := "earlier case did not pass (fail-fast)"

/-- Why a case is skipped that got no permit and for which there is no better reason. -/
def abortedReason : String := "run aborted"

def returnPermit (s : Suite) (permit : Bool) : Suite :=
  if permit then { s with permits := s.permits + 1 } else s

def choose (s : Suite) : Suite :=
  match s.plan with
  | [] => { s with scheduler := .join }
  | (test, expansion) :: rest =>
    match expansion.next with
    | (none, _) => { s with plan := rest }
    | (some case, expansion) =>
      let (reporter, slot) := s.reporter.reserve test.name case
      { s with
        reporter
        plan := (test, expansion) :: rest
        scheduler := .screen ⟨slot, test, case⟩ }

def engage (s : Suite) (c : Candidate) : Suite :=
  { s with jobs := s.jobs ++ [⟨c.slot, c.test, c.case, .admitted⟩], scheduler := .choose }

/-- A step of the scheduler; while it has to wait it stays as it is. -/
def schedule (now : Instant) (s : Suite) : Suite :=
  match s.scheduler with
  | .choose => s.choose
  | .screen c =>
    match s.signal.reason with
    | some reason => { s with scheduler := .skip c.slot reason.skipReason false }
    | none => { s with scheduler := .screenTrip c }
  | .screenTrip c =>
    if s.tripped then { s with scheduler := .skip c.slot failFastReason false }
    else { s with scheduler := .queue c }
  | .queue c =>
    if s.signal.reason.isSome then { s with scheduler := .review c false }
    else if s.permits > 0 then
      { s with permits := s.permits - 1, scheduler := .review c true }
    else s
  | .review c permit =>
    match s.signal.reason with
    | some reason => { s with scheduler := .skip c.slot reason.skipReason permit }
    | none => { s with scheduler := .reviewTrip c permit }
  | .reviewTrip c permit =>
    if s.tripped then { s with scheduler := .skip c.slot failFastReason permit }
    else if permit then s.engage c
    else { s with scheduler := .skip c.slot abortedReason false }
  | .skip slot reason permit =>
    match s.reporter.skippedRecord slot reason with
    | .error e => { s with scheduler := .done (.error e) }
    | .ok record => { s with scheduler := .submit slot record permit }
  | .submit slot record permit =>
    match s.reporter.submit slot record with
    | .error e => { s with scheduler := .done (.error e) }
    | .ok reporter => { s with reporter, scheduler := .choose }.returnPermit permit
  | .join =>
    if s.jobs.all fun job => job.phase.isEnded then
      { s with scheduler := .done (s.reporter.finalize (.between 0 now)) }
    else s
  | .done _ => s

/-! ## Jobs -/

def Job.verdict? (job : Job) (e : Execution) : Option CaseRecord :=
  match e.stage with
  | .closed record => some record
  | .panicked message => some (.ofOutcome job.test.name job.case (.error "panic" message))
  | _ => none

def setPhase (s : Suite) (job : Nat) (phase : Phase) : Suite :=
  { s with jobs := s.jobs.modify job fun j => { j with phase } }

/-- A step of a job; while its execution goes on it stays as it is. -/
def advance (index : Nat) (s : Suite) : Suite :=
  match s.jobs[index]? with
  | none => s
  | some job =>
    match job.phase with
    | .admitted => s.setPhase index (.running (.ofCase s.config job.test job.case))
    | .running e =>
      match Job.verdict? job e with
      | some record => s.setPhase index (.recorded record)
      | none => s
    | .recorded record =>
      let tripped := s.tripped || (s.config.failFast && !record.outcome.isPass)
      { s with tripped }.setPhase index (.flagged record)
    | .flagged record =>
      let s := match s.reporter.submit job.slot record with
        | .ok reporter => { s with reporter }
        | .error _ => s
      s.setPhase index .submitted
    | .submitted => { s with permits := s.permits + 1 }.setPhase index .ended
    | .ended => s

def play (now : Instant) (index : Nat) (move : CaseMove) (s : Suite) : Suite :=
  match s.jobs[index]? with
  | none => s
  | some job =>
    match job.phase with
    | .running e =>
      let (e, pool) := e.step now job.slot s.signal move s.pool
      { s with pool }.setPhase index (.running e)
    | _ => s

/-! ## Moves -/

def step (now : Instant) (s : Suite) : SuiteMove → Suite
  | .schedule => s.schedule now
  | .advance job => s.advance job
  | .play job move => s.play now job move
  | .abort reason => { s with signal := s.signal.abort reason }
  | .giveBack lease => { s with pool := s.pool.release lease }

def result? (s : Suite) : Option (Except ReportError Report) :=
  match s.scheduler with
  | .done result => some result
  | _ => none

def isDone (s : Suite) : Bool := s.result?.isSome

end Suite

end Interop
