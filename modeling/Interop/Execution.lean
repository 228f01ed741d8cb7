import Interop.Abort
import Interop.Body
import Interop.Config
import Interop.Descriptor.Order
import Interop.Span.Seconds

/-!
# Executing a case

The execution of one case goes from its template to its record: the services are ordered,
their nodes are reserved in one step, the services are provisioned and started, the body runs,
and whatever happened all services are stopped.  The limit of the case and the abort signal
may cut it off wherever it waits, up to the moment when the teardown begins.

An execution is moved on from outside: by the beginning and the end of its turns, by answers to
what it waits for, by its clock, and by whatever breaks down in the course of it.
-/

namespace Interop

inductive Purpose
  /-- Nodes for all services; these are provisioned next. -/
  | reserve (pending : List Descriptor)
  /-- A service; these are provisioned after it. -/
  | provision (pending : List Descriptor)
  | startAll
  | control (next : Reply → Body) (limit : Option Instant)
  | stopEarly (next : Reply → Body) (limit : Option Instant)
  /-- The teardown; the outcome is settled. -/
  | close (outcome : Outcome)

/-- When the body gives an operation up, and what it does then. -/
def Purpose.limit? : Purpose → Option (Instant × (Reply → Body))
  | .control next limit | .stopEarly next limit => limit.map fun time => (time, next)
  | .reserve _ | .provision _ | .startAll | .close _ => none

inductive Stage
  | fresh
  | working (purpose : Purpose) (operation : Operation)
  | sleeping (wake : Instant) (next : Reply → Body)
  | closed (record : CaseRecord)
  | panicked (message : String)

structure Execution where
  test : Test
  case : TestCase
  limit : Span
  overflowChecks : Bool
  controller : Controller
  began : Instant
  warnings : List Warning
  notes : List String
  attentive : Bool
  stage : Stage

inductive CaseMove
  /-- A turn begins: the abort signal is looked at. -/
  | enter
  | answer (answer : Answer)
  | wake
  /-- The limit of the case has passed. -/
  | expire
  /-- The limit of what the body does has passed. -/
  | giveUp
  | observe (service : Nat) (exposure : Exposure)
  | breakDown (message : Option String)
  /-- The turn ends. -/
  | park

namespace Execution

def ofCase (config : Config) (test : Test) (case : TestCase) : Execution :=
  { test, case
    limit := test.timeout.getD config.caseTimeout
    overflowChecks := config.overflowChecks
    controller := .ofSettings (config.settings test.numNodes)
    began := 0, warnings := [], notes := [], attentive := false, stage := .fresh }

def deadline (e : Execution) : Instant :=
  e.limit.limitAfter e.controller.settings.horizon e.began

def bound (now : Instant) (e : Execution) (limit : Option Span) : Option Instant :=
  limit.map fun length => length.limitAfter e.controller.settings.horizon now

def isClosing (e : Execution) : Bool :=
  match e.stage with
  | .working (.close _) _ | .closed _ | .panicked _ => true
  | _ => false

def isOver (e : Execution) : Bool :=
  match e.stage with
  | .closed _ | .panicked _ => true
  | _ => false

def record (e : Execution) (now : Instant) (outcome : Outcome) (problems : List Warning) :
    CaseRecord :=
  { test := e.test.name
    case := e.case
    outcome
    duration := .between e.began now
    warnings := (e.warnings ++ problems).map Warning.message
    logs := e.controller.events.map fun event => event.describe e.began
    logFiles := e.controller.logFiles }

def limitOutcome (e : Execution) : Outcome := .timeout ("case exceeded " ++ e.limit.limitText)

/-! ## The end -/

/-- Tears everything down; the outcome is settled. -/
def conclude (now : Instant) (ticket : Nat) (outcome : Outcome) (e : Execution) (p : Pool) :
    Execution × Pool :=
  match Site.issue now ticket .teardown ⟨p, e.controller⟩ with
  | (.waiting operation, site) =>
    ({ e with controller := site.controller, stage := .working (.close outcome) operation },
      site.pool)
  | (.finished (.tornDown problems), site) =>
    let e := { e with controller := site.controller }
    ({ e with stage := .closed (e.record now outcome problems) }, site.pool)
  | (.finished _, site) => ({ e with controller := site.controller }, site.pool)

def concludeWith (now : Instant) (ticket : Nat) (error : CaseError) (e : Execution)
    (p : Pool) : Execution × Pool :=
  conclude now ticket error.toOutcome e p

def nameless : String := "unknown panic payload"

def collapse (message : Option String) (e : Execution) (p : Pool) : Execution × Pool :=
  let site := Site.drop ⟨p, e.controller⟩
  ({ e with
      controller := site.controller
      stage := .panicked (message.getD nameless) },
    site.pool)

def breakDown (ticket : Nat) (message : Option String) (e : Execution) (p : Pool) :
    Execution × Pool :=
  match e.stage with
  | .working _ operation =>
    let site := Site.cancel ticket operation ⟨p, e.controller⟩
    collapse message { e with controller := site.controller } site.pool
  | _ => collapse message e p

def cut (now : Instant) (ticket : Nat) (outcome : Outcome) (e : Execution) (p : Pool) :
    Execution × Pool :=
  match e.stage with
  | .working _ operation =>
    let site := Site.cancel ticket operation ⟨p, e.controller⟩
    conclude now ticket outcome { e with controller := site.controller } site.pool
  | _ => conclude now ticket outcome e p

/-! ## The body -/

def keepWarning (e : Execution) (completion : Completion) : Execution :=
  match completion with
  | .stopped (some warning) => { e with warnings := e.warnings ++ [warning] }
  | _ => e

/-- Lets the body go on until it waits or ends. -/
def play (now : Instant) (ticket : Nat) :
    Body → Execution → Pool → Execution × Pool
  | .ends (.ok _), e, p => conclude now ticket .pass e p
  | .ends (.error error), e, p => concludeWith now ticket error e p
  | .panics message, e, p => collapse message e p
  | .asks .look next, e, p => play now ticket (next (.seen e.controller)) e p
  | .asks (.note line) next, e, p =>
    play now ticket (next .done) { e with notes := line :: e.notes } p
  | .asks (.sleep length) next, e, p =>
    if length.isZero then play now ticket (next .done) e p
    else ({ e with stage := .sleeping (length.asSleep.after now) next }, p)
  | .asks (.control command limit) next, e, p =>
    match Site.issue now ticket command ⟨p, e.controller⟩ with
    | (.waiting operation, site) =>
      ({ e with
          controller := site.controller
          stage := .working (.control next (e.bound now limit)) operation },
        site.pool)
    | (.finished (.panicked message), site) =>
      collapse (some message) { e with controller := site.controller } site.pool
    | (.finished completion, site) =>
      play now ticket (next (.completed completion)) { e with controller := site.controller }
        site.pool
  | .asks (.stopEarly service limit) next, e, p =>
    match Site.issue now ticket (.stop service) ⟨p, e.controller⟩ with
    | (.waiting operation, site) =>
      ({ e with
          controller := site.controller
          stage := .working (.stopEarly next (e.bound now limit)) operation },
        site.pool)
    | (.finished completion, site) =>
      play now ticket (next .done)
        ({ e with controller := site.controller }.keepWarning completion) site.pool

/-! ## The way to the body -/

def startServices (now : Instant) (ticket : Nat) (e : Execution) (p : Pool) :
    Execution × Pool :=
  match Site.issue now ticket .startAll ⟨p, e.controller⟩ with
  | (.waiting operation, site) =>
    ({ e with controller := site.controller, stage := .working .startAll operation }, site.pool)
  | (.finished (.startedAll (.error error)), site) =>
    concludeWith now ticket (.lifecycle error) { e with controller := site.controller } site.pool
  | (.finished (.panicked message), site) =>
    collapse (some message) { e with controller := site.controller } site.pool
  | (.finished _, site) =>
    play now ticket (e.test.body e.case) { e with controller := site.controller } site.pool

def provisionAll (now : Instant) (ticket : Nat) :
    List Descriptor → Execution → Pool → Execution × Pool
  | [], e, p => startServices now ticket e p
  | d :: pending, e, p =>
    match Site.issue now ticket (.provision d) ⟨p, e.controller⟩ with
    | (.waiting operation, site) =>
      ({ e with
          controller := site.controller
          stage := .working (.provision pending) operation },
        site.pool)
    | (.finished (.provisioned (.error error)), site) =>
      concludeWith now ticket (.lifecycle error) { e with controller := site.controller }
        site.pool
    | (.finished (.panicked message), site) =>
      collapse (some message) { e with controller := site.controller } site.pool
    | (.finished _, site) =>
      provisionAll now ticket pending { e with controller := site.controller } site.pool

/-- The nodes that a case takes for so many before it provisions anything. -/
def wantedOf (numNodes : Option Nat) (total : Nat) : Nat :=
  match numNodes with
  | some budget => min total budget
  | none => total

def wantedNodes? (checked : Bool) (numNodes : Option Nat) (ds : List Descriptor) : Option Nat :=
  (Descriptor.wordTotal? checked ds).map (wantedOf numNodes)

def reserveNodes (now : Instant) (ticket count : Nat) (ds : List Descriptor) (e : Execution)
    (p : Pool) : Execution × Pool :=
  match Site.issue now ticket (.reserve count) ⟨p, e.controller⟩ with
  | (.waiting operation, site) =>
    ({ e with controller := site.controller, stage := .working (.reserve ds) operation },
      site.pool)
  | (.finished (.reserved (.error error)), site) =>
    concludeWith now ticket (.lifecycle error) { e with controller := site.controller } site.pool
  | (.finished (.panicked message), site) =>
    collapse (some message) { e with controller := site.controller } site.pool
  | (.finished _, site) =>
    provisionAll now ticket ds { e with controller := site.controller } site.pool

def plan (e : Execution) : Except CaseError (List Descriptor) := do
  (Descriptor.dependencyOrder (← e.test.template e.case)).mapError .provision

def begin (now : Instant) (ticket : Nat) (e : Execution) (p : Pool) : Execution × Pool :=
  match e.plan with
  | .error error => concludeWith now ticket error e p
  | .ok ds =>
    match wantedNodes? e.overflowChecks e.test.numNodes ds with
    | none => collapse (some Descriptor.beyondWord) e p
    | some count => reserveNodes now ticket count ds e p

/-! ## Moves -/

def complete (now : Instant) (ticket : Nat) (purpose : Purpose) (completion : Completion)
    (e : Execution) (p : Pool) : Execution × Pool :=
  match purpose, completion with
  | .close outcome, .tornDown problems =>
    ({ e with stage := .closed (e.record now outcome problems) }, p)
  | .close _, _ => (e, p)
  | _, .panicked message => collapse (some message) e p
  | .reserve _, .reserved (.error error) | .provision _, .provisioned (.error error)
  | .startAll, .startedAll (.error error) => concludeWith now ticket (.lifecycle error) e p
  | .reserve ds, _ | .provision ds, _ => provisionAll now ticket ds e p
  | .startAll, _ => play now ticket (e.test.body e.case) e p
  | .control next _, completion => play now ticket (next (.completed completion)) e p
  | .stopEarly next _, completion => play now ticket (next .done) (e.keepWarning completion) p

def answer (now : Instant) (ticket : Nat) (answer : Answer) (e : Execution) (p : Pool) :
    Execution × Pool :=
  match e.stage with
  | .working purpose operation =>
    match Site.resume now ticket operation answer ⟨p, e.controller⟩ with
    | (.waiting operation, site) =>
      ({ e with controller := site.controller, stage := .working purpose operation }, site.pool)
    | (.finished completion, site) =>
      complete now ticket purpose completion { e with controller := site.controller } site.pool
  | _ => (e, p)

def giveUp (now : Instant) (ticket : Nat) (e : Execution) (p : Pool) : Execution × Pool :=
  match e.stage with
  | .working purpose operation =>
    match purpose.limit? with
    | some (limit, next) =>
      if limit ≤ now then
        let site := Site.cancel ticket operation ⟨p, e.controller⟩
        play now ticket (next .gaveUp) { e with controller := site.controller } site.pool
      else (e, p)
    | none => (e, p)
  | _ => (e, p)

def enter (now : Instant) (ticket : Nat) (signal : AbortSignal) (e : Execution) (p : Pool) :
    Execution × Pool :=
  let e := { e with attentive := true }
  if e.isClosing then (e, p)
  else
    match e.stage, signal.reason with
    | .fresh, some reason => conclude now ticket reason.outcome { e with began := now } p
    | .fresh, none => begin now ticket { e with began := now } p
    | _, some reason => cut now ticket reason.outcome e p
    | _, none => (e, p)

/-- One move.  Only a turn that has looked at the abort signal gets on. -/
def step (now : Instant) (ticket : Nat) (signal : AbortSignal) (move : CaseMove)
    (e : Execution) (p : Pool) : Execution × Pool :=
  match move with
  | .enter => if e.attentive then (e, p) else enter now ticket signal e p
  | .observe service exposure =>
    ({ e with controller := e.controller.observe service exposure }, p)
  | .breakDown message => if e.isOver then (e, p) else breakDown ticket message e p
  | .park => ({ e with attentive := false }, p)
  | .answer a => if e.attentive then answer now ticket a e p else (e, p)
  | .wake =>
    match e.stage with
    | .sleeping wake next =>
      if e.attentive && decide (wake ≤ now) then play now ticket (next .done) e p else (e, p)
    | _ => (e, p)
  | .expire =>
    match e.stage with
    | .fresh => (e, p)
    | _ =>
      if e.attentive && !e.isClosing && decide (e.deadline ≤ now) then
        cut now ticket e.limitOutcome e p
      else (e, p)
  | .giveUp => if e.attentive then giveUp now ticket e p else (e, p)

end Execution

end Interop
