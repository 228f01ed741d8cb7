import Interop.Proofs.Execution.Heeding

/-!
# What a case returns

From its template to the end of its body a case is one program, which asks for the reservation,
for its services one after another and for their start before it gets to the body.  What decides
on the outcome of a case is the first of three things: the program returns, the limit of the
case passes, or a turn begins after an abort.
-/

namespace Interop

namespace Body

/-- What the body returns when it goes on here, unless it has to wait or breaks down first. -/
def result? (now : Instant) (ticket : Nat) : Body → Site → Option (Except CaseError Unit)
  | .ends result, _ => some result
  | .panics _, _ => none
  | .asks .look next, s => result? now ticket (next (.seen s.controller)) s
  | .asks (.note _) next, s => result? now ticket (next .done) s
  | .asks (.sleep length) next, s =>
    if length.isZero then result? now ticket (next .done) s else none
  | .asks (.control command _) next, s =>
    match Site.issue now ticket command s with
    | (.waiting _, _) | (.finished (.panicked _), _) => none
    | (.finished completion, s) => result? now ticket (next (.completed completion)) s
  | .asks (.stopEarly service _) next, s =>
    match Site.issue now ticket (.stop service) s with
    | (.waiting _, _) => none
    | (.finished _, s) => result? now ticket (next .done) s

/-! ## The whole case -/

def afterStart (body : Body) : Body :=
  .asks (.control .startAll none) fun
    | .completed (.startedAll (.error error)) => .ends (.error (.lifecycle error))
    | .completed _ => body
    | _ => astray

def afterProvisioning (body : Body) : List Descriptor → Body
  | [] => body.afterStart
  | d :: pending =>
    .asks (.control (.provision d) none) fun
      | .completed (.provisioned (.error error)) => .ends (.error (.lifecycle error))
      | .completed _ => afterProvisioning body pending
      | _ => astray

end Body

def Test.program (test : Test) (checked : Bool) (case : TestCase) : Body :=
  match test.template case with
  | .error error => .ends (.error error)
  | .ok ds =>
    match Descriptor.dependencyOrder ds with
    | .error cause => .ends (.error (.provision cause))
    | .ok order =>
      match Execution.wantedNodes? checked test.numNodes order with
      | none => .panics (some Descriptor.beyondWord)
      | some count =>
        .asks (.control (.reserve count) none) fun
          | .completed (.reserved (.error error)) => .ends (.error (.lifecycle error))
          | .completed _ => (test.body case).afterProvisioning order
          | _ => .astray

/-- What is left of the program of a case when an operation for this purpose is done; after the
teardown nothing is, and neither is after a breakdown. -/
def Purpose.rest? (body : Body) : Purpose → Completion → Option Body
  | .close _, _ | _, .panicked _ => none
  | .reserve _, .reserved (.error error) | .provision _, .provisioned (.error error)
  | .startAll, .startedAll (.error error) => some (.ends (.error (.lifecycle error)))
  | .reserve ds, _ | .provision ds, _ => some (body.afterProvisioning ds)
  | .startAll, _ => some body
  | .control next _, completion => some (next (.completed completion))
  | .stopEarly next _, _ => some (next .done)

def resultOutcome : Except CaseError Unit → Outcome
  | .ok _ => .pass
  | .error error => error.toOutcome

inductive Decision
  | returned (result : Except CaseError Unit)
  | late
  | aborted (reason : AbortReason)

namespace Decision

def outcome (limit : Span) : Decision → Outcome
  | .returned result => resultOutcome result
  | .late => .timeout ("case exceeded " ++ limit.limitText)
  | .aborted reason => reason.outcome

theorem isPass_toOutcome (error : CaseError) : error.toOutcome.isPass = false := by
  unfold CaseError.toOutcome
  split <;> rfl

end Decision

namespace Execution

/-- What decides on the outcome in a move, if it was open until then. -/
def decides? (ticket : Nat) (e : Execution) (b : Beat) : Option Decision :=
  if e.isClosing then none
  else
    match b.move with
    | .enter =>
      if e.attentive then none
      else
        match e.stage, b.signal.reason with
        | _, some reason => some (.aborted reason)
        | .fresh, none =>
          ((e.test.program e.overflowChecks e.case).result? b.now ticket
            ⟨b.pool, e.controller⟩).map .returned
        | _, none => none
    | .answer a =>
      match e.attentive, e.stage with
      | true, .working purpose operation =>
        match Site.resume b.now ticket operation a ⟨b.pool, e.controller⟩ with
        | (.waiting _, _) => none
        | (.finished completion, site) =>
          ((purpose.rest? (e.test.body e.case) completion).bind fun rest =>
            rest.result? b.now ticket site).map .returned
      | _, _ => none
    | .wake =>
      match e.stage with
      | .sleeping wake next =>
        if e.attentive && decide (wake ≤ b.now) then
          ((next .done).result? b.now ticket ⟨b.pool, e.controller⟩).map .returned
        else none
      | _ => none
    | .expire =>
      match e.stage with
      | .fresh => none
      | _ => if e.attentive && decide (e.deadline ≤ b.now) then some .late else none
    | .giveUp =>
      match e.attentive, e.stage with
      | true, .working purpose operation =>
        purpose.limit?.bind fun (limit, next) =>
          if limit ≤ b.now then
            ((next .gaveUp).result? b.now ticket
              (Site.cancel ticket operation ⟨b.pool, e.controller⟩)).map .returned
          else none
      | _, _ => none
    | .observe _ _ | .breakDown _ | .park => none

/-- What decides on the outcome in a run: the first that does. -/
def decision? (ticket : Nat) : Execution → List Beat → Option Decision
  | _, [] => none
  | e, b :: beats => (e.decides? ticket b).or (decision? ticket (e.beat ticket b) beats)

variable {now : Instant} {ticket : Nat} {e : Execution} {p : Pool} {limit : Span}

/-! ## Programs -/

theorem settled?_play (now : Instant) (ticket : Nat) (body : Body) (e : Execution)
    (p : Pool) :
    (play now ticket body e p).1.settled? =
      (body.result? now ticket ⟨p, e.controller⟩).map resultOutcome := by
  induction body generalizing e p with
  | ends result => cases result <;> exact settled?_conclude now ticket _ e p
  | panics message => rfl
  | asks act next ih =>
      cases act with
      | look => exact ih _ e p
      | note line => exact ih _ _ p
      | sleep length =>
          unfold play Body.result?
          split
          · exact ih _ e p
          · rfl
      | control command limit =>
          unfold play Body.result?
          rcases Site.issue now ticket command ⟨p, e.controller⟩ with
            ⟨operation | completion, site⟩
          · rfl
          · cases completion with
            | panicked message => rfl
            | reserved | provisioned | started | startedAll | ran | stopped | tornDown =>
                exact ih _ _ _
      | stopEarly service limit =>
          unfold play Body.result?
          rcases Site.issue now ticket (.stop service) ⟨p, e.controller⟩ with
            ⟨operation | completion, site⟩
          · rfl
          · refine (ih _ _ _).trans ?_
            cases completion with
            | stopped warning => cases warning <;> rfl
            | reserved | provisioned | started | startedAll | ran | tornDown | panicked => rfl

private theorem settled?_startServices (now : Instant) (ticket : Nat) (e : Execution)
    (p : Pool) :
    (startServices now ticket e p).1.settled? =
      ((e.test.body e.case).afterStart.result? now ticket ⟨p, e.controller⟩).map resultOutcome := by
  unfold startServices Body.afterStart Body.result?
  rcases Site.issue now ticket .startAll ⟨p, e.controller⟩ with ⟨operation | completion, site⟩
  · rfl
  · cases completion with
    | startedAll result =>
        cases result with
        | error error => exact settled?_conclude now ticket _ _ _
        | ok _ => exact settled?_play now ticket _ _ _
    | panicked message => rfl
    | reserved | provisioned | started | ran | stopped | tornDown =>
        exact settled?_play now ticket _ _ _

theorem settled?_provisionAll (now : Instant) (ticket : Nat)
    (pending : List Descriptor) (e : Execution) (p : Pool) :
    (provisionAll now ticket pending e p).1.settled? =
      (((e.test.body e.case).afterProvisioning pending).result? now ticket
        ⟨p, e.controller⟩).map resultOutcome := by
  induction pending generalizing e p with
  | nil => exact settled?_startServices now ticket e p
  | cons d pending ih =>
      unfold provisionAll Body.afterProvisioning Body.result?
      rcases Site.issue now ticket (.provision d) ⟨p, e.controller⟩ with
        ⟨operation | completion, site⟩
      · rfl
      · cases completion with
        | provisioned result =>
            cases result with
            | error error => exact settled?_conclude now ticket _ _ _
            | ok _ => exact ih _ _
        | panicked message => rfl
        | reserved | started | startedAll | ran | stopped | tornDown => exact ih _ _

private theorem settled?_begin (now : Instant) (ticket : Nat) (e : Execution) (p : Pool) :
    (begin now ticket e p).1.settled? =
      ((e.test.program e.overflowChecks e.case).result? now ticket
        ⟨p, e.controller⟩).map resultOutcome := by
  unfold begin plan Test.program
  cases e.test.template e.case with
  | error error => exact settled?_conclude now ticket _ e p
  | ok ds =>
      simp only [bind, Except.bind]
      cases Descriptor.dependencyOrder ds with
      | error cause => exact settled?_conclude now ticket _ e p
      | ok order =>
          have fine : (Except.ok order).mapError CaseError.provision = .ok order := rfl
          simp only [fine]
          cases wantedNodes? e.overflowChecks e.test.numNodes order with
          | none => rfl
          | some count =>
              simp only [reserveNodes, Body.result?]
              rcases Site.issue now ticket (.reserve count) ⟨p, e.controller⟩ with
                ⟨operation | completion, site⟩
              · rfl
              · cases completion with
                | reserved result =>
                    cases result with
                    | error error => exact settled?_conclude now ticket _ _ _
                    | ok _ => exact settled?_provisionAll now ticket order _ _
                | panicked message => rfl
                | provisioned | started | startedAll | ran | stopped | tornDown =>
                    exact settled?_provisionAll now ticket order _ _

private theorem settled?_complete (now : Instant) (ticket : Nat) {purpose : Purpose}
    (live : purpose.isClose = false) (completion : Completion) (e : Execution) (p : Pool) :
    (complete now ticket purpose completion e p).1.settled? =
      ((purpose.rest? (e.test.body e.case) completion).bind fun rest =>
        rest.result? now ticket ⟨p, e.controller⟩).map resultOutcome := by
  cases purpose with
  | reserve ds =>
      cases completion with
      | reserved result =>
          cases result with
          | error error => exact settled?_conclude now ticket _ e p
          | ok _ => exact settled?_provisionAll now ticket ds e p
      | panicked message => rfl
      | provisioned | started | startedAll | ran | stopped | tornDown =>
          exact settled?_provisionAll now ticket ds e p
  | provision ds =>
      cases completion with
      | provisioned result =>
          cases result with
          | error error => exact settled?_conclude now ticket _ e p
          | ok _ => exact settled?_provisionAll now ticket ds e p
      | panicked message => rfl
      | reserved | started | startedAll | ran | stopped | tornDown =>
          exact settled?_provisionAll now ticket ds e p
  | startAll =>
      cases completion with
      | startedAll result =>
          cases result with
          | error error => exact settled?_conclude now ticket _ e p
          | ok _ => exact settled?_play now ticket _ e p
      | panicked message => rfl
      | reserved | provisioned | started | ran | stopped | tornDown =>
          exact settled?_play now ticket _ e p
  | control next limit =>
      cases completion with
      | panicked message => rfl
      | reserved | provisioned | started | startedAll | ran | stopped | tornDown =>
          exact settled?_play now ticket _ e p
  | stopEarly next limit =>
      cases completion with
      | panicked message => rfl
      | stopped warning =>
          refine (settled?_play now ticket _ _ p).trans ?_
          cases warning <;> rfl
      | reserved | provisioned | started | startedAll | ran | tornDown =>
          exact settled?_play now ticket _ _ p
  | close outcome => cases live

/-! ## Moves -/

private theorem map_returned (limit : Span) (result : Option (Except CaseError Unit)) :
    (result.map Decision.returned).map (Decision.outcome limit) = result.map resultOutcome := by
  cases result <;> rfl

private theorem isClose_of_working {purpose : Purpose} {operation : Operation}
    (live : e.isClosing = false)
    (working : e.stage = .working purpose operation) : purpose.isClose = false := by
  cases purpose with
  | close outcome => simp [isClosing, working] at live
  | reserve | provision | startAll | control | stopEarly => rfl

private theorem settled?_working {purpose : Purpose} (live : purpose.isClose = false)
    (operation : Operation) {e : Execution} (working : e.stage = .working purpose operation) :
    e.settled? = none := by
  cases purpose with
  | close => cases live
  | reserve | provision | startAll | control | stopEarly => simp [settled?, working]

private theorem settled?_beat (live : e.isClosing = false) (ticket : Nat) (b : Beat) :
    (e.beat ticket b).settled? = (e.decides? ticket b).map (Decision.outcome e.limit) := by
  obtain ⟨now, signal, move, p⟩ := b
  have unset : e.settled? = none := settled?_of_not_isClosing live
  cases move with
  | enter =>
      simp only [beat, step, decides?, live, Bool.false_eq_true, if_false]
      split
      · exact unset
      · have live : { e with attentive := true }.isClosing = false := live
        simp only [enter, live, Bool.false_eq_true, if_false]
        cases told : signal.reason with
        | some reason =>
            cases stage : e.stage with
            | fresh => exact settled?_conclude now ticket _ _ p
            | working | sleeping | closed | panicked => exact settled?_cut now ticket _ _ p
        | none =>
            cases stage : e.stage with
            | fresh =>
                rw [map_returned]
                exact settled?_begin now ticket _ p
            | working purpose operation =>
                exact settled?_working (isClose_of_working live stage) operation rfl
            | sleeping => rfl
            | closed | panicked => simp [isClosing, stage] at live
  | answer a =>
      simp only [beat, step, decides?, live, Bool.false_eq_true, if_false]
      cases attentive : e.attentive with
      | false => exact unset
      | true =>
          cases stage : e.stage with
          | working purpose operation =>
              have onward := isClose_of_working live stage
              simp only [if_true, answer, stage]
              rcases Site.resume now ticket operation a ⟨p, e.controller⟩ with
                ⟨later | completion, site⟩
              · exact settled?_working onward later rfl
              · rw [map_returned]
                exact settled?_complete now ticket onward completion _ _
          | fresh | sleeping | closed | panicked =>
              simp only [if_true, answer, stage]
              exact unset
  | wake =>
      simp only [beat, step, decides?, live, Bool.false_eq_true, if_false]
      cases stage : e.stage with
      | sleeping wake next =>
          simp only
          split
          · rw [map_returned]
            exact settled?_play now ticket _ e p
          · exact unset
      | fresh | working | closed | panicked => exact unset
  | expire =>
      simp only [beat, step, decides?, live, Bool.false_eq_true, if_false, Bool.not_false,
        Bool.and_true]
      cases stage : e.stage with
      | fresh => exact unset
      | working | sleeping | closed | panicked =>
          simp only
          split
          · exact settled?_cut now ticket _ e p
          · exact unset
  | observe | park =>
      simp only [decides?, live, Bool.false_eq_true, if_false]
      exact unset
  | giveUp =>
      simp only [beat, step, decides?, live, Bool.false_eq_true, if_false]
      cases attentive : e.attentive with
      | false => exact unset
      | true =>
          cases stage : e.stage with
          | working purpose operation =>
              simp only [if_true, giveUp, stage]
              cases purpose.limit? with
              | none => exact unset
              | some bound =>
                  simp only [Option.bind_some]
                  split
                  · rw [map_returned]
                    exact settled?_play now ticket _ _ _
                  · exact unset
          | fresh | sleeping | closed | panicked =>
              simp only [if_true, giveUp, stage]
              exact unset
  | breakDown message =>
      have broken := stage_breakDown ticket message e p
      simp [beat, step, decides?, live, isOver_of_not_isClosing live, settled?, broken]

private theorem decides?_of_isClosing (closing : e.isClosing = true) (ticket : Nat) (b : Beat) :
    e.decides? ticket b = none := if_pos closing

/-! ## Runs -/

private theorem decision?_of_isClosing (closing : e.isClosing = true) (ticket : Nat)
    (beats : List Beat) :
    decision? ticket e beats = none := by
  induction beats generalizing e with
  | nil => rfl
  | cons b beats ih =>
      have later : (e.beat ticket b).isClosing = true :=
        isClosing_step b.now b.signal b.move b.pool closing
      rw [decision?, decides?_of_isClosing closing, ih later]
      rfl

private theorem limit_beat (live : e.isClosing = false) (ticket : Nat) (b : Beat) :
    (e.beat ticket b).limit = e.limit := by
  have judged : Judged e.limit (fun _ => True) e := .unsettled rfl (settled?_of_not_isClosing live)
  exact (judged.step b.now ticket (fun _ _ => trivial) b.move b.pool).limited

theorem stage_run_of_isOver (ended : e.isOver = true) (ticket : Nat) (beats : List Beat) :
    (e.run ticket beats).stage = e.stage := by
  induction beats generalizing e with
  | nil => rfl
  | cons b beats ih =>
      have same : (e.beat ticket b).stage = e.stage :=
        stage_step_of_isOver b.now b.signal b.move b.pool ended
      have still : (e.beat ticket b).isOver = true := by rwa [isOver, same]
      exact (ih still).trans same

/-- What decides on the outcome of an open case settles it; as long as nothing does, nothing is
settled. -/
theorem settled?_run (live : e.isClosing = false) (ticket : Nat) (beats : List Beat) :
    (∀ decision, decision? ticket e beats = some decision →
      Rules (decision.outcome e.limit) (e.run ticket beats)) ∧
    (decision? ticket e beats = none → (e.run ticket beats).settled? = none) := by
  induction beats generalizing e with
  | nil => exact ⟨nofun, fun _ => settled?_of_not_isClosing live⟩
  | cons b beats ih =>
      have now := settled?_beat live ticket b
      have same := limit_beat live ticket b
      cases ends : e.decides? ticket b with
      | some first =>
          rw [ends] at now
          refine ⟨?_, ?_⟩
          · intro decision decided
            rw [decision?, ends] at decided
            cases decided
            exact Rules.run (.inl now) ticket beats
          · intro undecided
            rw [decision?, ends] at undecided
            cases undecided
      | none =>
          rw [ends] at now
          have rest : decision? ticket e (b :: beats) =
              decision? ticket (e.beat ticket b) beats := by
            rw [decision?, ends]
            rfl
          rw [rest]
          cases closing : (e.beat ticket b).isClosing with
          | false =>
              rw [← same]
              exact ih closing
          | true =>
              -- Nothing was settled, so the case has broken down.
              obtain ⟨message, broken⟩ := stage_of_isClosing closing now
              have stays : ((e.beat ticket b).run ticket beats).settled? = none := by
                have still := stage_run_of_isOver (isOver_of_panicked broken) ticket beats
                simp [settled?, still, broken]
              rw [decision?_of_isClosing closing]
              refine ⟨?_, fun _ => stays⟩
              rintro _ ⟨⟩

theorem decision?_of_closed (config : Config) (test : Test) (case : TestCase) (ticket : Nat)
    {beats : List Beat} {record : CaseRecord}
    (closed : ((ofCase config test case).run ticket beats).stage = .closed record) :
    ∃ decision, decision? ticket (ofCase config test case) beats = some decision ∧
      record.outcome = decision.outcome (test.timeout.getD config.caseTimeout) := by
  have settled : ((ofCase config test case).run ticket beats).settled? = some record.outcome := by
    simp [settled?, closed]
  obtain ⟨decides, waits⟩ :=
    settled?_run (rfl : (ofCase config test case).isClosing = false) ticket beats
  cases decided : decision? ticket (ofCase config test case) beats with
  | none => cases (waits decided).symm.trans settled
  | some decision => exact ⟨decision, rfl, (decides decision decided).eq settled⟩

end Execution

end Interop
