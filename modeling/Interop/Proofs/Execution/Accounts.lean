import Interop.Execution

/-!
# Accounts of an execution

An account of a move is what the move comes to together with the operations that were begun in
the course of it: on whose behalf, where, and what came of them.  The functions below do what
those of the same name in `Execution` do; whatever begins an operation there goes through
`serve` here.
-/

namespace Interop

/-- An item of an account: an operation that was begun. -/
structure Item where
  own : Bool
  command : Command
  before : Site
  result : Progress × Site

def Purpose.isOwn : Purpose → Bool
  | .control _ _ | .stopEarly _ _ => false
  | .reserve _ | .provision _ | .startAll | .close _ => true

theorem Purpose.of_limit? {bound : Instant × (Reply → Body)} (purpose : Purpose)
    (limited : purpose.limit? = some bound) :
    (∃ limit, purpose = .control bound.2 limit) ∨ ∃ limit, purpose = .stopEarly bound.2 limit := by
  cases purpose with
  | control next limit =>
      obtain ⟨time, -, rfl⟩ := Option.map_eq_some_iff.mp limited
      exact .inl ⟨limit, rfl⟩
  | stopEarly next limit =>
      obtain ⟨time, -, rfl⟩ := Option.map_eq_some_iff.mp limited
      exact .inr ⟨limit, rfl⟩
  | reserve | provision | startAll | close => cases limited

structure Account where
  execution : Execution
  pool : Pool
  items : List Item

namespace Account

def result (a : Account) : Execution × Pool := (a.execution, a.pool)

def silent (r : Execution × Pool) : Account := ⟨r.1, r.2, []⟩

def after (a : Account) (item : Item) : Account := { a with items := item :: a.items }

variable (now : Instant) (ticket : Nat)

def serve (purpose : Purpose) (command : Command)
    (next : Completion → Execution → Pool → Account) (e : Execution) (p : Pool) : Account :=
  let issued := Site.issue now ticket command ⟨p, e.controller⟩
  let item : Item := ⟨purpose.isOwn, command, ⟨p, e.controller⟩, issued⟩
  match issued with
  | (.waiting operation, site) =>
    (silent ({ e with controller := site.controller, stage := .working purpose operation },
      site.pool)).after item
  | (.finished completion, site) =>
    (next completion { e with controller := site.controller } site.pool).after item

def conclude (outcome : Outcome) (e : Execution) (p : Pool) : Account :=
  serve now ticket (.close outcome) .teardown
    (fun completion e p => silent (Execution.complete now ticket (.close outcome) completion e p))
    e p

def play : Body → Execution → Pool → Account
  | .ends (.ok _), e, p => conclude now ticket .pass e p
  | .ends (.error error), e, p => conclude now ticket error.toOutcome e p
  | .panics message, e, p => silent (Execution.collapse message e p)
  | .asks .look next, e, p => play (next (.seen e.controller)) e p
  | .asks (.note line) next, e, p => play (next .done) { e with notes := line :: e.notes } p
  | .asks (.sleep length) next, e, p =>
    if length.isZero then play (next .done) e p
    else silent ({ e with stage := .sleeping (length.asSleep.after now) next }, p)
  | .asks (.control command limit) next, e, p =>
    serve now ticket (.control next (e.bound now limit)) command
      (fun
        | .panicked message, e, p => silent (Execution.collapse (some message) e p)
        | completion, e, p => play (next (.completed completion)) e p)
      e p
  | .asks (.stopEarly service limit) next, e, p =>
    serve now ticket (.stopEarly next (e.bound now limit)) (.stop service)
      (fun completion e p => play (next .done) (e.keepWarning completion) p) e p

def startServices (e : Execution) (p : Pool) : Account :=
  serve now ticket .startAll .startAll
    (fun
      | .startedAll (.error error), e, p =>
        conclude now ticket (CaseError.lifecycle error).toOutcome e p
      | .panicked message, e, p => silent (Execution.collapse (some message) e p)
      | _, e, p => play now ticket (e.test.body e.case) e p)
    e p

def provisionAll : List Descriptor → Execution → Pool → Account
  | [], e, p => startServices now ticket e p
  | d :: pending, e, p =>
    serve now ticket (.provision pending) (.provision d)
      (fun
        | .provisioned (.error error), e, p =>
          conclude now ticket (CaseError.lifecycle error).toOutcome e p
        | .panicked message, e, p => silent (Execution.collapse (some message) e p)
        | _, e, p => provisionAll pending e p)
      e p

def complete (purpose : Purpose) (completion : Completion) (e : Execution) (p : Pool) :
    Account :=
  match purpose, completion with
  | .close outcome, completion =>
    silent (Execution.complete now ticket (.close outcome) completion e p)
  | _, .panicked message => silent (Execution.collapse (some message) e p)
  | .reserve _, .reserved (.error error) | .provision _, .provisioned (.error error)
  | .startAll, .startedAll (.error error) =>
    conclude now ticket (CaseError.lifecycle error).toOutcome e p
  | .reserve ds, _ | .provision ds, _ => provisionAll now ticket ds e p
  | .startAll, _ => play now ticket (e.test.body e.case) e p
  | .control next _, completion => play now ticket (next (.completed completion)) e p
  | .stopEarly next _, completion => play now ticket (next .done) (e.keepWarning completion) p

def reserveNodes (count : Nat) (ds : List Descriptor) (e : Execution) (p : Pool) : Account :=
  serve now ticket (.reserve ds) (.reserve count) (complete now ticket (.reserve ds)) e p

def begin (e : Execution) (p : Pool) : Account :=
  match e.plan with
  | .error error => conclude now ticket error.toOutcome e p
  | .ok ds =>
    match Execution.wantedNodes? e.overflowChecks e.test.numNodes ds with
    | none => silent (Execution.collapse (some Descriptor.beyondWord) e p)
    | some count => reserveNodes now ticket count ds e p

def answer (a : Answer) (e : Execution) (p : Pool) : Account :=
  match e.stage with
  | .working purpose operation =>
    match Site.resume now ticket operation a ⟨p, e.controller⟩ with
    | (.waiting operation, site) =>
      silent ({ e with controller := site.controller, stage := .working purpose operation },
        site.pool)
    | (.finished completion, site) =>
      complete now ticket purpose completion { e with controller := site.controller } site.pool
  | _ => silent (e, p)

def cut (outcome : Outcome) (e : Execution) (p : Pool) : Account :=
  match e.stage with
  | .working _ operation =>
    let site := Site.cancel ticket operation ⟨p, e.controller⟩
    conclude now ticket outcome { e with controller := site.controller } site.pool
  | _ => conclude now ticket outcome e p

def giveUp (e : Execution) (p : Pool) : Account :=
  match e.stage with
  | .working purpose operation =>
    match purpose.limit? with
    | some (limit, next) =>
      if limit ≤ now then
        let site := Site.cancel ticket operation ⟨p, e.controller⟩
        play now ticket (next .gaveUp) { e with controller := site.controller } site.pool
      else silent (e, p)
    | none => silent (e, p)
  | _ => silent (e, p)

def enter (signal : AbortSignal) (e : Execution) (p : Pool) : Account :=
  let e := { e with attentive := true }
  if e.isClosing then silent (e, p)
  else
    match e.stage, signal.reason with
    | .fresh, some reason => conclude now ticket reason.outcome { e with began := now } p
    | .fresh, none => begin now ticket { e with began := now } p
    | _, some reason => cut now ticket reason.outcome e p
    | _, none => silent (e, p)

def step (signal : AbortSignal) (move : CaseMove) (e : Execution) (p : Pool) : Account :=
  match move with
  | .enter => if e.attentive then silent (e, p) else enter now ticket signal e p
  | .observe _ _ | .breakDown _ | .park => silent (e.step now ticket signal move p)
  | .answer a => if e.attentive then answer now ticket a e p else silent (e, p)
  | .wake =>
    match e.stage with
    | .sleeping wake next =>
      if e.attentive && decide (wake ≤ now) then play now ticket (next .done) e p
      else silent (e, p)
    | _ => silent (e, p)
  | .expire =>
    match e.stage with
    | .fresh => silent (e, p)
    | _ =>
      if e.attentive && !e.isClosing && decide (e.deadline ≤ now) then
        cut now ticket e.limitOutcome e p
      else silent (e, p)
  | .giveUp => if e.attentive then giveUp now ticket e p else silent (e, p)

/-! ## An account tells what the move comes to -/

@[simp]
theorem result_silent (r : Execution × Pool) : (silent r).result = r := rfl

@[simp]
theorem result_after (a : Account) (item : Item) : (a.after item).result = a.result := rfl

section Serve

variable {now ticket} {purpose : Purpose} {command : Command}
  {next : Completion → Execution → Pool → Account} {e : Execution} {p : Pool} {site : Site}

theorem serve_of_waiting {operation : Operation}
    (issued : Site.issue now ticket command ⟨p, e.controller⟩ = (.waiting operation, site)) :
    serve now ticket purpose command next e p =
      (silent ({ e with controller := site.controller, stage := .working purpose operation },
        site.pool)).after
          ⟨purpose.isOwn, command, ⟨p, e.controller⟩, (.waiting operation, site)⟩ := by
  simp only [serve, issued]

theorem serve_of_finished {completion : Completion}
    (issued : Site.issue now ticket command ⟨p, e.controller⟩ = (.finished completion, site)) :
    serve now ticket purpose command next e p =
      (next completion { e with controller := site.controller } site.pool).after
        ⟨purpose.isOwn, command, ⟨p, e.controller⟩, (.finished completion, site)⟩ := by
  simp only [serve, issued]

end Serve

theorem result_conclude (outcome : Outcome) (e : Execution) (p : Pool) :
    (conclude now ticket outcome e p).result = Execution.conclude now ticket outcome e p := by
  unfold conclude Execution.conclude
  rcases issued : Site.issue now ticket .teardown ⟨p, e.controller⟩ with
    ⟨operation | completion, site⟩
  · rw [serve_of_waiting issued]
    rfl
  · rw [serve_of_finished issued]
    cases completion <;> rfl

theorem result_play (body : Body) (e : Execution) (p : Pool) :
    (play now ticket body e p).result = Execution.play now ticket body e p := by
  induction body generalizing e p with
  | ends result => cases result <;> exact result_conclude now ticket _ e p
  | panics message => rfl
  | asks act next ih =>
      cases act with
      | look => exact ih _ e p
      | note line => exact ih _ _ p
      | sleep length =>
          unfold play Execution.play
          split
          · exact ih _ e p
          · rfl
      | control command limit =>
          unfold play Execution.play
          rcases issued : Site.issue now ticket command ⟨p, e.controller⟩ with
            ⟨operation | completion, site⟩
          · rw [serve_of_waiting issued]
            rfl
          · rw [serve_of_finished issued, result_after]
            split <;> simp_all
      | stopEarly service limit =>
          unfold play Execution.play
          rcases issued : Site.issue now ticket (.stop service) ⟨p, e.controller⟩ with
            ⟨operation | completion, site⟩
          · rw [serve_of_waiting issued]
            rfl
          · rw [serve_of_finished issued]
            exact ih _ _ _

theorem result_startServices (e : Execution) (p : Pool) :
    (startServices now ticket e p).result = Execution.startServices now ticket e p := by
  unfold startServices Execution.startServices
  rcases issued : Site.issue now ticket .startAll ⟨p, e.controller⟩ with
    ⟨operation | completion, site⟩
  · rw [serve_of_waiting issued]
    rfl
  · rw [serve_of_finished issued, result_after]
    split <;> simp_all [result_conclude, result_play, Execution.concludeWith]

private theorem result_provisionAll (ds : List Descriptor) (e : Execution) (p : Pool) :
    (provisionAll now ticket ds e p).result = Execution.provisionAll now ticket ds e p := by
  induction ds generalizing e p with
  | nil => exact result_startServices now ticket e p
  | cons d pending ih =>
      unfold provisionAll Execution.provisionAll
      rcases issued : Site.issue now ticket (.provision d) ⟨p, e.controller⟩ with
        ⟨operation | completion, site⟩
      · rw [serve_of_waiting issued]
        rfl
      · rw [serve_of_finished issued, result_after]
        split <;> simp_all [result_conclude, Execution.concludeWith]

theorem result_complete (purpose : Purpose) (completion : Completion) (e : Execution)
    (p : Pool) :
    (complete now ticket purpose completion e p).result =
      Execution.complete now ticket purpose completion e p := by
  unfold complete Execution.complete
  split <;>
    simp [result_conclude, result_provisionAll, result_play, Execution.concludeWith]

private theorem result_reserveNodes (count : Nat) (ds : List Descriptor) (e : Execution)
    (p : Pool) :
    (reserveNodes now ticket count ds e p).result =
      Execution.reserveNodes now ticket count ds e p := by
  unfold reserveNodes Execution.reserveNodes
  rcases issued : Site.issue now ticket (.reserve count) ⟨p, e.controller⟩ with
    ⟨operation | completion, site⟩
  · rw [serve_of_waiting issued]
    rfl
  · rw [serve_of_finished issued, result_after, result_complete]
    cases completion with
    | reserved result => cases result <;> rfl
    | provisioned | started | startedAll | ran | stopped | tornDown | panicked => rfl

private theorem result_begin (e : Execution) (p : Pool) :
    (begin now ticket e p).result = Execution.begin now ticket e p := by
  unfold begin Execution.begin
  cases e.plan with
  | error error => exact result_conclude now ticket _ e p
  | ok ds =>
      cases counted : Execution.wantedNodes? e.overflowChecks e.test.numNodes ds with
      | none => simp only [counted, result_silent]
      | some count =>
          simp only [counted]
          exact result_reserveNodes now ticket count ds e p

private theorem result_answer (a : Answer) (e : Execution) (p : Pool) :
    (answer now ticket a e p).result = Execution.answer now ticket a e p := by
  unfold answer Execution.answer
  cases e.stage with
  | working purpose operation =>
      simp only
      rcases Site.resume now ticket operation a ⟨p, e.controller⟩ with
        ⟨later | completion, site⟩
      · rfl
      · exact result_complete now ticket purpose completion _ _
  | fresh | sleeping | closed | panicked => rfl

theorem result_cut (outcome : Outcome) (e : Execution) (p : Pool) :
    (cut now ticket outcome e p).result = Execution.cut now ticket outcome e p := by
  unfold cut Execution.cut
  cases e.stage <;> exact result_conclude now ticket outcome _ _

theorem result_giveUp (e : Execution) (p : Pool) :
    (giveUp now ticket e p).result = Execution.giveUp now ticket e p := by
  unfold giveUp Execution.giveUp
  cases e.stage with
  | working purpose operation =>
      cases limited : purpose.limit? with
      | none => simp only [limited, result_silent]
      | some bound =>
          simp only [limited]
          split
          · exact result_play now ticket _ _ _
          · rfl
  | fresh | sleeping | closed | panicked => rfl

private theorem result_enter (signal : AbortSignal) (e : Execution) (p : Pool) :
    (enter now ticket signal e p).result = Execution.enter now ticket signal e p := by
  unfold enter Execution.enter
  simp only
  split
  · rfl
  · cases signal.reason with
    | none =>
        cases e.stage with
        | fresh => exact result_begin now ticket _ p
        | working | sleeping | closed | panicked => rfl
    | some reason =>
        cases e.stage with
        | fresh => exact result_conclude now ticket _ _ p
        | working | sleeping | closed | panicked => exact result_cut now ticket _ _ p

theorem result_step (signal : AbortSignal) (move : CaseMove) (e : Execution) (p : Pool) :
    (step now ticket signal move e p).result = e.step now ticket signal move p := by
  cases move with
  | enter =>
      simp only [step, Execution.step]
      split
      · rfl
      · exact result_enter now ticket signal e p
  | observe | breakDown | park => rfl
  | answer a =>
      simp only [step, Execution.step]
      split
      · exact result_answer now ticket a e p
      · rfl
  | wake =>
      simp only [step, Execution.step]
      cases e.stage with
      | sleeping wake next =>
          simp only
          split
          · exact result_play now ticket _ e p
          · rfl
      | fresh | working | closed | panicked => rfl
  | expire =>
      simp only [step, Execution.step]
      cases e.stage with
      | fresh => rfl
      | working | sleeping | closed | panicked =>
          simp only
          split
          · exact result_cut now ticket _ e p
          · rfl
  | giveUp =>
      simp only [step, Execution.step]
      split
      · exact result_giveUp now ticket e p
      · rfl

end Account

end Interop
