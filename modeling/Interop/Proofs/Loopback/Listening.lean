import Interop.Service.Loopback

/-!
# Listening servers

Servers on one network open ports one after the other, and each port is given out once.  Whatever
the servers do, an endpoint that one of them shows leads to this server, until it is killed.
-/

namespace Interop

/-! ## Addresses of endpoints -/

namespace HostAddress

private theorem digit?_of_isDigit {c : Char} (digit : c.isDigit = true) :
    digit? 10 c = some (c.toNat - '0'.toNat) := by
  have bounds : 48 ≤ c.toNat ∧ c.toNat ≤ 57 := Char.isDigit_iff_toNat.mp digit
  have zero : '0'.toNat = 48 := rfl
  rw [digit?, if_pos digit, if_pos (by omega)]

private theorem foldl_digits {cs : List Char} (digits : ∀ c ∈ cs, c.isDigit = true) (n : Nat) :
    cs.foldl (fun n? c => n?.bind fun n => (digit? 10 c).map fun d => 10 * n + d) (some n) =
      some (Nat.ofDigitChars 10 cs n) := by
  induction cs generalizing n with
  | nil => rfl
  | cons c cs ih =>
    have rest : ∀ c ∈ cs, c.isDigit = true := fun c mem => digits c (List.mem_cons_of_mem _ mem)
    rw [List.foldl_cons, Option.bind_some, digit?_of_isDigit (digits c List.mem_cons_self),
      Option.map_some, ih rest, Nat.ofDigitChars_cons]

theorem digits?_toDigits (n : Nat) : digits? 10 (Nat.toDigits 10 n) = some n := by
  have digits : ∀ c ∈ Nat.toDigits 10 n, c.isDigit = true :=
    fun c mem => Nat.isDigit_of_mem_toDigits (by decide) (by decide) mem
  rw [digits?, if_neg (by simp), foldl_digits digits, Nat.ofDigitChars_ten_toDigits]

private theorem octets?_host : octets? LoopbackServer.host = some [32512, 1] := by
  have parts : LoopbackServer.host.splitOn "." = ["127", "0", "0", "1"] := by
    simp +decide [LoopbackServer.host, String.splitOn, String.splitOnAux]
  rw [octets?, parts]
  decide

end HostAddress

namespace Network

private theorem splitAddress_colon {host digits : List Char} (free : ':' ∉ digits) :
    splitAddress (String.ofList (host ++ ':' :: digits)) = some (String.ofList host, digits) := by
  have other : ∀ c ∈ digits.reverse, (c != ':') = true := by
    intro c mem
    rw [bne_iff_ne]
    rintro rfl
    exact free (List.mem_reverse.mp mem)
  have reversed : (host ++ ':' :: digits).reverse = digits.reverse ++ ':' :: host.reverse := by simp
  rw [splitAddress, String.toList_ofList, reversed, List.dropWhile_append_of_pos other,
    List.takeWhile_append_of_pos other]
  simp

private theorem parsePort_toDigits {port : Nat} (small : port ≤ maxPort) :
    parsePort (Nat.toDigits 10 port) = some port := by
  have unsigned : ∀ rest, Nat.toDigits 10 port ≠ '+' :: rest := by
    intro rest eq
    have mem : '+' ∈ Nat.toDigits 10 port := by simp [eq]
    have digit : Char.isDigit '+' = true :=
      Nat.isDigit_of_mem_toDigits (by decide) (by decide) mem
    cases digit
  unfold parsePort
  split
  · next rest eq => exact absurd eq (unsigned rest)
  · simp [HostAddress.digits?_toDigits, small]

private theorem connectTo_endpoint {n : Network} {port : Nat} (small : port ≤ maxPort) :
    n.connectTo (Endpoint.text ⟨LoopbackServer.host, port⟩) =
      n.reach (some (.short 2130706433)) port := by
  have free : ':' ∉ Nat.toDigits 10 port := by
    intro mem
    have digit : Char.isDigit ':' = true :=
      Nat.isDigit_of_mem_toDigits (by decide) (by decide) mem
    cases digit
  have text : Endpoint.text ⟨LoopbackServer.host, port⟩ =
      String.ofList (LoopbackServer.host.toList ++ ':' :: Nat.toDigits 10 port) := by
    rw [← String.toList_inj]
    simp [Endpoint.text, Nat.repr_eq_ofList_toDigits]
    rfl
  have number : numeric? LoopbackServer.host (Nat.toDigits 10 port) =
      some (.short 2130706433) := by
    have plain : inBrackets? LoopbackServer.host = none := by decide
    rw [numeric?, HostAddress.digits?_toDigits, plain, HostAddress.octets?_host]
    rfl
  rw [connectTo, text, splitAddress_colon free, String.ofList_toList]
  simp only [parsePort_toDigits small, number]

/-! ## Orderly networks -/

structure Orderly (n : Network) : Prop where
  reachable : n.reachable = true
  apart : n.listeners.Pairwise fun a b => a.port ≠ b.port
  below : ∀ socket ∈ n.listeners, socket.port < n.nextPort

private theorem orderly_connected : connected.Orderly := ⟨rfl, .nil, by simp [connected, isolated]⟩

private theorem Orderly.listenAnywhere {n : Network} (orderly : n.Orderly)
    (reply : String → String) :
    (n.listenAnywhere reply).2.Orderly where
  reachable := orderly.reachable
  apart := by
    refine List.pairwise_append.mpr ⟨orderly.apart, List.pairwise_singleton _ _, ?_⟩
    intro a mem b new
    obtain rfl := List.mem_singleton.mp new
    exact Nat.ne_of_lt (orderly.below a mem)
  below := by
    intro socket mem
    rcases List.mem_append.mp mem with mem | new
    · exact Nat.lt_succ_of_lt (orderly.below socket mem)
    · obtain rfl := List.mem_singleton.mp new
      exact Nat.lt_succ_self _

private theorem Orderly.close {n : Network} (orderly : n.Orderly) (ports : List Nat) :
    (n.close ports).Orderly where
  reachable := orderly.reachable
  apart := orderly.apart.filter _
  below := fun socket mem => orderly.below socket (List.mem_filter.mp mem).1

private theorem Orderly.reach {n : Network} (orderly : n.Orderly) {socket : Socket}
    {address : Option HostAddress} (mem : socket ∈ n.listeners)
    (near : address.all HostAddress.isLocal = true) :
    n.reach address socket.port = .ok socket.reply := by
  have found : n.listeners.find? (fun other => other.port == socket.port &&
      address.all HostAddress.isLocal) = some socket := by
    obtain ⟨before, rest, split⟩ := List.append_of_mem mem
    rw [List.find?_eq_some_iff_append]
    refine ⟨by simp [near], before, rest, split, ?_⟩
    intro other earlier
    have apart := orderly.apart
    rw [split] at apart
    have differ := (List.pairwise_append.mp apart).2.2 other earlier socket List.mem_cons_self
    simp [differ]
  rw [Network.reach, orderly.reachable, found]
  rfl

end Network

/-! ## Servers among others -/

namespace LoopbackServer

def socket (s : LoopbackServer) (port : Nat) : Socket :=
  ⟨port, Handshake.reply s.accepts s.version⟩

def Listens (s : LoopbackServer) (n : Network) : Prop :=
  ∀ port ∈ s.ports, s.socket port ∈ n.listeners

def Apart (s t : LoopbackServer) : Prop := ∀ port ∈ s.ports, port ∉ t.ports

private theorem Apart.symm {s t : LoopbackServer} (apart : s.Apart t) : t.Apart s :=
  fun port mem other => apart port other mem

private theorem Listens.close {s : LoopbackServer} {n : Network} (listens : s.Listens n)
    {ports : List Nat} (other : ∀ port ∈ ports, port ∉ s.ports) : s.Listens (n.close ports) := by
  intro port mem
  refine List.mem_filter.mpr ⟨listens port mem, ?_⟩
  simpa [socket] using fun closed => other port closed mem

structure Among (s : LoopbackServer) (others : List LoopbackServer) (n : Network) : Prop where
  orderly : n.Orderly
  listens : s.Listens n
  peers : ∀ t ∈ others, t.Listens n
  apart : ∀ t ∈ others, s.Apart t

variable {others : List LoopbackServer} {s : LoopbackServer} {n : Network}

theorem Among.of_hidden (orderly : n.Orderly) (peers : ∀ t ∈ others, t.Listens n)
    (hidden : s.ports = []) : s.Among others n where
  orderly := orderly
  listens := by simp [Listens, hidden]
  peers := peers
  apart := by simp [Apart, hidden]

private theorem Among.openPort (among : s.Among others n) :
    (openPort (s, n)).1.Among others (openPort (s, n)).2 where
  orderly := among.orderly.listenAnywhere _
  listens := by
    intro port mem
    rcases List.mem_append.mp mem with mem | new
    · exact List.mem_append_left _ (among.listens port mem)
    · obtain rfl := List.mem_singleton.mp new
      exact List.mem_append_right _ (List.mem_singleton.mpr rfl)
  peers := fun t mem port shown => List.mem_append_left _ (among.peers t mem port shown)
  apart := by
    intro t mem port shown taken
    rcases List.mem_append.mp shown with shown | new
    · exact among.apart t mem port shown taken
    · obtain rfl := List.mem_singleton.mp new
      -- the new port is above all that were given out
      exact Nat.lt_irrefl _ (among.orderly.below _ (among.peers t mem _ taken))

private theorem Among.foldl_openPort {α : Type} (among : s.Among others n) (due : List α) :
    (due.foldl (fun state _ => LoopbackServer.openPort state) (s, n)).1.Among others
      (due.foldl (fun state _ => LoopbackServer.openPort state) (s, n)).2 := by
  induction due generalizing s n with
  | nil => exact among
  | cons _ due ih => exact ih among.openPort

theorem Among.catchUp (among : s.Among others n) (now : Instant) :
    (s.catchUp now n).1.Among others (s.catchUp now n).2 :=
  Among.foldl_openPort
    (s := { s with opening := s.opening.filter fun time => now < time })
    ⟨among.orderly, among.listens, among.peers, among.apart⟩ _

private theorem Among.begin (among : s.Among others n) (now : Instant) :
    (s.begin now n).1.Among others (s.begin now n).2 :=
  Among.catchUp
    (s := { s with
      fresh := 0
      opening := s.opening ++ List.replicate s.fresh (s.startupDelay.asSleep.after now) })
    ⟨among.orderly, among.listens, among.peers, among.apart⟩ now

theorem Among.close (among : s.Among others n) :
    (n.close s.ports).Orderly ∧ ∀ t ∈ others, t.Listens (n.close s.ports) :=
  ⟨among.orderly.close _, fun t mem => (among.peers t mem).close (among.apart t mem)⟩

inductive Turn (s : LoopbackServer) (n : Network) : LoopbackServer × Network → Prop
  | start : Turn s n (s.start, n)
  | begin (now : Instant) : Turn s n (s.begin now n)
  | catchUp (now : Instant) : Turn s n (s.catchUp now n)
  | stop : Turn s n (s.stop n)

private theorem Among.turn {state : LoopbackServer × Network} (among : s.Among others n)
    (turn : s.Turn n state) : state.1.Among others state.2 := by
  cases turn with
  | start => exact ⟨among.orderly, among.listens, among.peers, among.apart⟩
  | begin now => exact among.begin now
  | catchUp now => exact among.catchUp now
  | stop =>
    obtain ⟨orderly, peers⟩ := among.close
    exact Among.of_hidden orderly peers rfl

end LoopbackServer

/-! ## Harbours -/

structure Harbour where
  servers : List LoopbackServer
  network : Network

namespace Harbour

inductive Step : Harbour → Harbour → Prop
  | settle {before rest : List LoopbackServer} {n : Network} (version : Version)
      (nodeCount : Nat) (accepts : Compatibility) (startupDelay : Span) :
      Step ⟨before ++ rest, n⟩
        ⟨before ++ LoopbackServer.idle version nodeCount accepts startupDelay :: rest, n⟩
  | turn {before rest : List LoopbackServer} {s : LoopbackServer} {n : Network}
      {state : LoopbackServer × Network} (turn : s.Turn n state) :
      Step ⟨before ++ s :: rest, n⟩ ⟨before ++ state.1 :: rest, state.2⟩
  | kill {before rest : List LoopbackServer} {s : LoopbackServer} {n : Network} :
      Step ⟨before ++ s :: rest, n⟩ ⟨before ++ rest, (s.kill n).2⟩

inductive Run : Harbour → Prop
  | start : Run ⟨[], .connected⟩
  | step {harbour next : Harbour} (run : Run harbour) (step : Step harbour next) : Run next

structure Sound (harbour : Harbour) : Prop where
  orderly : harbour.network.Orderly
  listens : ∀ s ∈ harbour.servers, s.Listens harbour.network
  apart : harbour.servers.Pairwise LoopbackServer.Apart

private theorem sound_middle {before rest : List LoopbackServer} {s : LoopbackServer}
    {n : Network} :
    Sound ⟨before ++ s :: rest, n⟩ ↔
      s.Among (before ++ rest) n ∧ (before ++ rest).Pairwise LoopbackServer.Apart := by
  have symm : ∀ {s t : LoopbackServer}, s.Apart t → t.Apart s := LoopbackServer.Apart.symm
  constructor
  · rintro ⟨orderly, listens, apart⟩
    obtain ⟨own, others⟩ := List.pairwise_cons.mp ((List.pairwise_middle symm).mp apart)
    refine ⟨⟨orderly, listens s (by simp), fun t mem => listens t ?_, own⟩, others⟩
    rcases List.mem_append.mp mem with mem | mem <;> simp [mem]
  · rintro ⟨among, others⟩
    refine ⟨among.orderly, fun t mem => ?_,
      (List.pairwise_middle symm).mpr (List.pairwise_cons.mpr ⟨among.apart, others⟩)⟩
    rcases List.mem_cons.mp (List.perm_middle.mem_iff.mp mem) with rfl | mem
    · exact among.listens
    · exact among.peers t mem

private theorem Step.sound {harbour next : Harbour} (step : Step harbour next)
    (sound : harbour.Sound) :
    next.Sound := by
  cases step with
  | settle version nodeCount accepts startupDelay =>
    exact sound_middle.mpr
      ⟨LoopbackServer.Among.of_hidden sound.orderly sound.listens rfl, sound.apart⟩
  | turn turn =>
    obtain ⟨among, others⟩ := sound_middle.mp sound
    exact sound_middle.mpr ⟨among.turn turn, others⟩
  | kill =>
    obtain ⟨among, others⟩ := sound_middle.mp sound
    obtain ⟨orderly, peers⟩ := among.close
    exact ⟨orderly, peers, others⟩

private theorem Run.sound {harbour : Harbour} (run : Run harbour) : harbour.Sound := by
  induction run with
  | start => exact ⟨Network.orderly_connected, List.forall_mem_nil _, .nil⟩
  | step _ step ih => exact step.sound ih

theorem Run.connectTo {harbour : Harbour} (run : Run harbour) {s : LoopbackServer}
    (mem : s ∈ harbour.servers) {e : Endpoint} (shown : e ∈ s.exposure.endpoints)
    (small : e.port ≤ Network.maxPort) :
    harbour.network.connectTo e.text = .ok (Handshake.reply s.accepts s.version) := by
  obtain ⟨port, known, rfl⟩ := List.mem_map.mp shown
  rw [Network.connectTo_endpoint small]
  exact run.sound.orderly.reach (run.sound.listens s mem port known) rfl

end Harbour

end Interop
