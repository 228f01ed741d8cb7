import Interop.Proofs.Loopback.Handshake
import Interop.Proofs.Loopback.Listening
import Interop.Proofs.Text.Utf8

/-!
# Agreement of client and server

A connection takes bytes to the other side one after the other, and each side acts when its line is
complete.  However long the bytes take, the server has read exactly what the client wrote once it
answers, and the other way round, so a handshake over the connection ends as an exchange of whole
texts does: after a bounded number of steps, with the outcome that the compatibility of the two
versions demands.
-/

namespace Interop

open Text (Bytes encode decode? lineFeed)

/-! ## Connections -/

def lineBytes : Bytes → Bytes
  | [] => []
  | b :: bytes => if b = lineFeed then [b] else b :: lineBytes bytes

structure Connection where
  outbound : Bytes
  heard : Bytes
  asked : List (Version × Version)
  closed : Bool
  inbound : Bytes
  received : Bytes
  result : Option (Except LifecycleError AppOutcome)

namespace Connection

def opened (client : Version) : Connection :=
  { outbound := encode (Handshake.hello client), heard := [], asked := [], closed := false
    inbound := [], received := [], result := none }

/-- The server reads its line and answers; it hangs up on what is no text. -/
def answer (s : LoopbackServer) (c : Connection) : Connection :=
  match decode? (lineBytes c.heard) with
  | some sent =>
    { c with
      asked := c.asked ++ (Handshake.question? s.version (Handshake.readLine sent)).toList
      closed := true
      inbound := encode (Handshake.reply s.accepts s.version sent) }
  | none => { c with closed := true }

def notUtf8 : LifecycleError := .io "stream did not contain valid UTF-8"

def conclude (client : LoopbackClient) (c : Connection) : Connection :=
  { c with result := some (match decode? (lineBytes c.received) with
    | some answer => .ok (Handshake.verdict client.version answer)
    | none => .error notUtf8) }

/-- A byte arrives, or a side acts on its line; the client does so, too, when no byte can come any
more. -/
inductive Step (s : LoopbackServer) (client : LoopbackClient) : Connection → Connection → Prop
  | hear {c : Connection} {b : UInt8} {rest : Bytes} (next : c.outbound = b :: rest) :
      Step s client c { c with outbound := rest, heard := c.heard ++ [b] }
  | answer {c : Connection} (fresh : c.closed = false) (line : lineFeed ∈ c.heard) :
      Step s client c (c.answer s)
  | receive {c : Connection} {b : UInt8} {rest : Bytes} (next : c.inbound = b :: rest) :
      Step s client c { c with inbound := rest, received := c.received ++ [b] }
  | conclude {c : Connection} (fresh : c.result = none)
      (line : lineFeed ∈ c.received ∨ c.closed = true ∧ c.inbound = []) :
      Step s client c (c.conclude client)

/-- What a connection can come to in some steps. -/
inductive Run (s : LoopbackServer) (client : LoopbackClient) : Nat → Connection → Prop
  | start : Run s client 0 (opened client.version)
  | step {steps : Nat} {c next : Connection} (run : Run s client steps c)
      (step : Step s client c next) : Run s client (steps + 1) next

/-! ## Complete lines -/

private theorem lineBytes_append {front : Bytes} (mem : lineFeed ∈ front) (rest : Bytes) :
    lineBytes (front ++ rest) = lineBytes front := by
  induction front with
  | nil => cases mem
  | cons b front ih =>
    rw [List.cons_append, lineBytes, lineBytes]
    split
    · rfl
    · next other =>
      rw [ih ((List.mem_cons.mp mem).resolve_left (Ne.symm other))]

private theorem lineBytes_line {bytes : Bytes} (inner : lineFeed ∉ bytes) :
    lineBytes (bytes ++ [lineFeed]) = bytes ++ [lineFeed] := by
  induction bytes with
  | nil => rfl
  | cons b bytes ih =>
    rw [List.mem_cons, not_or] at inner
    rw [List.cons_append, lineBytes, if_neg (Ne.symm inner.1), ih inner.2]

theorem decode?_lineBytes {line : String} (inner : '\n' ∉ line.toList) {front rest : Bytes}
    (sent : front ++ rest = encode (line ++ "\n")) (mem : lineFeed ∈ front) :
    decode? (lineBytes front) = some (line ++ "\n") := by
  have whole : lineBytes front = encode (line ++ "\n") :=
    calc lineBytes front = lineBytes (front ++ rest) := (lineBytes_append mem rest).symm
      _ = lineBytes (encode line ++ [lineFeed]) := by rw [sent, Text.encode_line]
      _ = encode line ++ [lineFeed] := lineBytes_line (Text.lineFeed_not_mem_encode inner)
      _ = encode (line ++ "\n") := (Text.encode_line line).symm
  rw [whole, Text.decode?_encode]

theorem lineFeed_mem_encode (line : String) : lineFeed ∈ encode (line ++ "\n") := by
  rw [Text.encode_line]
  exact List.mem_append_right _ (List.mem_singleton.mpr rfl)

/-! ## Runs of a connection -/

section

variable {s : LoopbackServer} {client : LoopbackClient}

def greeting (client : LoopbackClient) : Bytes := encode (Handshake.hello client.version)

def response (s : LoopbackServer) (client : LoopbackClient) : Bytes :=
  encode (Handshake.reply s.accepts s.version (Handshake.hello client.version))

def left (s : LoopbackServer) (client : LoopbackClient) (c : Connection) : Nat :=
  c.outbound.length + c.inbound.length +
    (if c.closed then 0 else (response s client).length + 1) + if c.result.isNone then 1 else 0

structure Sound (s : LoopbackServer) (client : LoopbackClient) (steps : Nat) (c : Connection) :
    Prop where
  sent : c.heard ++ c.outbound = greeting client
  waiting : c.closed = false → c.asked = [] ∧ c.inbound = [] ∧ c.received = [] ∧ c.result = none
  answered : c.closed = true → c.asked = [(s.version, client.version)] ∧
    c.received ++ c.inbound = response s client
  ended : ∀ r, c.result = some r →
    r = .ok (Handshake.agreed s.accepts s.version client.version)
  count : steps + left s client c = (greeting client).length + (response s client).length + 2

theorem Sound.closed_of {steps : Nat} {c : Connection} (sound : Sound s client steps c)
    (busy : c.inbound ≠ [] ∨ c.received ≠ [] ∨ c.result ≠ none) : c.closed = true := by
  rw [← Bool.not_eq_false]
  intro opened
  obtain ⟨-, inbound, received, result⟩ := sound.waiting opened
  rcases busy with busy | busy | busy
  · exact busy inbound
  · exact busy received
  · exact busy result

private theorem sound_opened : Sound s client 0 (opened client.version) where
  sent := rfl
  waiting := fun _ => ⟨rfl, rfl, rfl, rfl⟩
  answered := fun closed => nomatch closed
  ended := fun _ result => nomatch result
  count := by simp [left, opened, greeting]; omega

private theorem answer_eq (parsed : client.version.IsParsed) {c : Connection}
    (sent : c.heard ++ c.outbound = greeting client) (line : lineFeed ∈ c.heard) :
    c.answer s = { c with
      asked := c.asked ++ [(s.version, client.version)]
      closed := true
      inbound := response s client } := by
  have token := parsed.isToken
  have heard : decode? (lineBytes c.heard) = some (Handshake.hello client.version) :=
    decode?_lineBytes (Handshake.lineFeed_not_mem Handshake.isWord_hello token) sent line
  simp only [answer, heard, Handshake.question?_hello parsed]
  rfl

private theorem exists_response (serverParsed : s.version.IsParsed)
    (parsed : client.version.IsParsed) :
    ∃ line, '\n' ∉ line.toList ∧ Handshake.reply s.accepts s.version
      (Handshake.hello client.version) = line ++ "\n" := by
  have token := serverParsed.isToken
  rw [Handshake.reply_hello parsed]
  refine ⟨_, Handshake.lineFeed_not_mem ?_ token, rfl⟩
  split
  · exact Handshake.isWord_welcome
  · exact Handshake.isWord_reject

private theorem conclude_eq (serverParsed : s.version.IsParsed) (parsed : client.version.IsParsed)
    {c : Connection} (sent : c.received ++ c.inbound = response s client)
    (line : lineFeed ∈ c.received ∨ c.inbound = []) :
    c.conclude client = { c with
      result := some (.ok (Handshake.agreed s.accepts s.version client.version)) } := by
  obtain ⟨text, inner, reply⟩ := exists_response serverParsed parsed
  rw [response, reply] at sent
  have complete : lineFeed ∈ c.received := by
    refine line.elim id fun last => ?_
    rw [last, List.append_nil] at sent
    rw [sent]
    exact lineFeed_mem_encode text
  rw [conclude, decode?_lineBytes inner sent complete]
  simp only [← reply, Handshake.verdict_reply serverParsed parsed]

private theorem Step.sound (serverParsed : s.version.IsParsed) (parsed : client.version.IsParsed)
    {steps : Nat} {c next : Connection} (step : Step s client c next)
    (sound : Sound s client steps c) : Sound s client (steps + 1) next := by
  have count := sound.count
  cases step with
  | hear more =>
    refine ⟨by simp [← sound.sent, more], sound.waiting, sound.answered, sound.ended, ?_⟩
    simp only [left, more, List.length_cons] at count ⊢
    omega
  | receive more =>
    have closed : c.closed = true := sound.closed_of (.inl (by simp [more]))
    obtain ⟨asked, whole⟩ := sound.answered closed
    refine ⟨sound.sent, ?_, fun _ => ⟨asked, by simp [← whole, more]⟩, sound.ended, ?_⟩
    · simp [closed]
    · simp only [left, more, List.length_cons] at count ⊢
      omega
  | answer fresh line =>
    obtain ⟨asked, inbound, received, result⟩ := sound.waiting fresh
    rw [answer_eq parsed sound.sent line]
    refine ⟨sound.sent, ?_, ?_, sound.ended, ?_⟩
    · rintro ⟨⟩
    · simp [asked, received]
    · simp [left, fresh, inbound] at count ⊢
      omega
  | conclude fresh line =>
    have closed : c.closed = true :=
      line.elim (fun mem => sound.closed_of (.inr (.inl (List.ne_nil_of_mem mem)))) And.left
    obtain ⟨asked, whole⟩ := sound.answered closed
    rw [conclude_eq serverParsed parsed whole (line.imp_right And.right)]
    refine ⟨sound.sent, ?_, sound.answered, ?_, ?_⟩
    · simp [closed]
    · rintro _ ⟨⟩
      rfl
    · simp [left, fresh] at count ⊢
      omega

private theorem Run.sound (serverParsed : s.version.IsParsed) (parsed : client.version.IsParsed)
    {steps : Nat} {c : Connection} (run : Run s client steps c) : Sound s client steps c := by
  induction run with
  | start => exact sound_opened
  | step _ step ih => exact step.sound serverParsed parsed ih

/-- Somebody can always go on until the client has ended. -/
theorem Sound.exists_step {steps : Nat} {c : Connection} (sound : Sound s client steps c)
    (unfinished : c.result = none) : ∃ next, Step s client c next := by
  cases closed : c.closed with
  | false =>
    cases out : c.outbound with
    | cons b rest => exact ⟨_, .hear out⟩
    | nil =>
      have heard := sound.sent
      rw [out, List.append_nil] at heard
      refine ⟨_, .answer closed ?_⟩
      rw [heard]
      exact lineFeed_mem_encode _
  | true =>
    cases coming : c.inbound with
    | cons b rest => exact ⟨_, .receive coming⟩
    | nil => exact ⟨_, .conclude unfinished (.inr ⟨closed, coming⟩)⟩

end

end Connection

/-! ## Clients of a server -/

private theorem LoopbackClient.run_eq {s : LoopbackServer} {client : LoopbackClient} {n : Network}
    {params : Params String} {address : String} (serverParsed : s.version.IsParsed)
    (parsed : client.version.IsParsed)
    (target : params.get? Descriptor.connectionParam = some address)
    (reached : n.connectTo address = .ok (Handshake.reply s.accepts s.version)) :
    client.run params n = Handshake.agreed s.accepts s.version client.version := by
  simp only [run, target, reached, Handshake.verdict_reply serverParsed parsed]

/-- A client that is connected to a server passes if the two versions are compatible and otherwise
fails with a text that names both.  The server asks about these two versions only, and it does not
matter how long the bytes between the two take. -/
theorem LoopbackClient.run_agrees {s : LoopbackServer} {client : LoopbackClient} {n : Network}
    {params : Params String} {address : String} (serverParsed : s.version.IsParsed)
    (parsed : client.version.IsParsed)
    (target : params.get? Descriptor.connectionParam = some address)
    (reached : n.connectTo address = .ok (Handshake.reply s.accepts s.version)) :
    (client.run params n = .passed ↔ s.accepts s.version client.version = true) ∧
    (s.accepts s.version client.version = false → client.run params n =
      .failed ("server " ++ s.version.text ++ " rejected client " ++ client.version.text)) ∧
    (∀ reason, client.run params n ≠ .exception reason) ∧
    ∀ steps c, Connection.Run s client steps c →
      (c.result = none → ∃ next, Connection.Step s client c next) ∧
      (∀ r, c.result = some r →
        r = .ok (client.run params n) ∧ c.asked = [(s.version, client.version)]) ∧
      steps ≤ (Connection.greeting client).length + (Connection.response s client).length + 2 := by
  have same := run_eq serverParsed parsed target reached
  refine ⟨?_, ?_, ?_, ?_⟩
  · rw [same, Handshake.agreed_eq_passed_iff]
  · intro incompatible
    rw [same, Handshake.agreed, if_neg (by simp [incompatible])]
  · intro reason
    rw [same, Handshake.agreed]
    split <;> simp
  · intro steps c run
    have sound := run.sound serverParsed parsed
    refine ⟨sound.exists_step, ?_, ?_⟩
    · intro r ended
      have closed : c.closed = true := sound.closed_of (.inr (.inr (by simp [ended])))
      rw [same]
      exact ⟨sound.ended r ended, (sound.answered closed).1⟩
    · exact Nat.le.intro sound.count

/-- A server that accepts its own version only, once it listens. -/
def strictServer : LoopbackServer × Network :=
  (LoopbackServer.idle .dev 1 (fun server client => server == client) .zero).start.begin 0
    .connected

theorem LoopbackClient.run_latest :
    LoopbackClient.run ⟨.latest⟩ [(Descriptor.connectionParam, "127.0.0.1:40000")] strictServer.2 =
      .failed "server dev rejected client latest" := by
  have run : Harbour.Run ⟨[strictServer.1], strictServer.2⟩ := by
    have idle := Harbour.Run.start.step (@Harbour.Step.settle [] [] .connected .dev 1
      (fun server client => server == client) .zero)
    have started := idle.step (@Harbour.Step.turn [] [] _ _ _ .start)
    exact started.step (@Harbour.Step.turn [] [] _ _ _ (.begin 0))
  have address : Endpoint.text ⟨LoopbackServer.host, 40000⟩ = "127.0.0.1:40000" := by decide
  have reached := run.connectTo (List.mem_singleton.mpr rfl)
    (show ⟨LoopbackServer.host, 40000⟩ ∈ strictServer.1.exposure.endpoints by decide) (by decide)
  rw [address] at reached
  have target : Params.get? [(Descriptor.connectionParam, "127.0.0.1:40000")]
      Descriptor.connectionParam = some "127.0.0.1:40000" := rfl
  exact (LoopbackClient.run_agrees ⟨"dev", rfl⟩ ⟨"latest", rfl⟩ target reached).2.1 rfl

end Interop
