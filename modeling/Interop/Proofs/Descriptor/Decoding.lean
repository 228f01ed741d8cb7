import Interop.Descriptor.Json
import Interop.Matrix.Json
import Interop.Outcome
import Interop.Proofs.Version.Token
import Mathlib.Data.String.Basic

/-!
# Reading back what was written

What is written for a descriptor, an outcome or a case is read as the same value again.  The
descriptors for which this holds are exactly those that can be read at all: the version was read
from a text, the numbers fit their words, and the parameters ascend.  A form with a version that
is none, without a required part or with too large a port is not read.
-/

namespace Interop

/-! ## Parameters -/

namespace Params

variable {α : Type}

/-- The keys ascend, so that none stands twice. -/
def Ascending (params : Params α) : Prop := (params.map Prod.fst).Pairwise (· < ·)

private theorem mem_keys_insert {key : String} {value : α} {params : Params α} {name : String} :
    name ∈ (params.insert key value).map Prod.fst ↔ name = key ∨ name ∈ params.map Prod.fst := by
  induction params with
  | nil => simp [insert]
  | cons pair rest ih =>
      obtain ⟨other, old⟩ := pair
      simp only [insert]
      split
      · simp
      split
      · next same => simp [same]
      · simp only [List.map_cons, List.mem_cons, ih]
        exact or_left_comm

private theorem Ascending.insert {params : Params α} (ascending : params.Ascending) (key : String)
    (value : α) : (params.insert key value).Ascending := by
  induction params with
  | nil => exact List.pairwise_singleton _ _
  | cons pair rest ih =>
      obtain ⟨other, old⟩ := pair
      obtain ⟨least, sorted⟩ := List.pairwise_cons.mp ascending
      simp only [Params.insert]
      split
      · next before =>
          refine List.pairwise_cons.mpr ⟨?_, ascending⟩
          intro name mem
          rcases List.mem_cons.mp mem with rfl | mem
          · exact before
          · exact lt_trans before (least name mem)
      split
      · next same =>
          subst same
          exact ascending
      · next before apart =>
          refine List.pairwise_cons.mpr ⟨?_, ih sorted⟩
          intro name mem
          rcases mem_keys_insert.mp mem with rfl | mem
          · exact lt_of_le_of_ne (not_lt.mp before) (Ne.symm apart)
          · exact least name mem

private theorem ascending_foldl {pairs params : Params α} (ascending : params.Ascending) :
    (pairs.foldl (fun params pair => params.insert pair.1 pair.2) params).Ascending := by
  induction pairs generalizing params with
  | nil => exact ascending
  | cons pair pairs ih => exact ih (ascending.insert pair.1 pair.2)

theorem ascending_ofList (pairs : List (String × α)) : (ofList pairs).Ascending :=
  ascending_foldl List.Pairwise.nil

private theorem insert_last {params : Params α} {key : String} {value : α}
    (last : ∀ name ∈ params.map Prod.fst, name < key) :
    params.insert key value = params ++ [(key, value)] := by
  induction params with
  | nil => rfl
  | cons pair rest ih =>
      obtain ⟨other, old⟩ := pair
      have before : other < key := last other List.mem_cons_self
      simp only [insert]
      rw [if_neg (lt_asymm before), if_neg (ne_of_gt before),
        ih fun name mem => last name (List.mem_cons_of_mem _ mem)]
      rfl

private theorem foldl_insert {pairs params : Params α} (ascending : (params ++ pairs).Ascending) :
    pairs.foldl (fun params pair => params.insert pair.1 pair.2) params = params ++ pairs := by
  induction pairs generalizing params with
  | nil => simp
  | cons pair pairs ih =>
      have last : ∀ name ∈ params.map Prod.fst, name < pair.1 := by
        intro name mem
        rw [Ascending, List.map_append, List.pairwise_append] at ascending
        exact ascending.2.2 name mem pair.1 List.mem_cons_self
      rw [List.foldl_cons, insert_last last, ih (by simpa using ascending)]
      simp

private theorem ofList_eq_self {params : Params α} : ofList params = params ↔ params.Ascending := by
  constructor
  · intro same
    rw [← same]
    exact ascending_ofList params
  · intro ascending
    have whole : ([] ++ params : Params α).Ascending := ascending
    exact foldl_insert whole

end Params

/-! ## Parts -/

namespace Json

theorem list?_arr_map {α : Type} {read : Json → Option α} {write : α → Json}
    (reads : ∀ a, read (write a) = some a) (items : List α) :
    list? read (.arr (items.map write)) = some items := by
  simp only [list?]
  induction items with
  | nil => rfl
  | cons a items ih =>
      rw [List.map_cons, List.mapM_cons, reads, ih]
      rfl

theorem natBelow?_nat {bound n m : Nat} :
    natBelow? bound (.nat n) = some m ↔ n < bound ∧ n = m := by
  simp only [natBelow?]
  split
  · next below => simp [below]
  · next beyond => simp [beyond]

private theorem lt_of_natBelow? {bound n : Nat} {value : Json}
    (read : natBelow? bound value = some n) :
    n < bound := by
  cases value with
  | nat m =>
      obtain ⟨below, rfl⟩ := natBelow?_nat.mp read
      exact below
  | _ => cases read

theorem optional?_some {α : Type} {read : Json → Option α} {value : Json} (solid : value ≠ .null) :
    optional? read (some value) = (read value).map some := by
  cases value with
  | null => exact absurd rfl solid
  | _ => rfl

private theorem optional?_ofOption {α : Type} {read : Json → Option α} {write : α → Json}
    {o : Option α}
    (reads : ∀ a ∈ o, read (write a) = some a) (solid : ∀ a, write a ≠ .null) :
    optional? read (some (ofOption write o)) = some o := by
  cases o with
  | none => rfl
  | some a => rw [ofOption, optional?_some (solid a), reads a rfl, Option.map_some]

private theorem exists_of_optional? {α : Type} {read : Json → Option α} {field : Option Json}
    {a : α}
    (given : optional? read field = some (some a)) :
    ∃ value, field = some value ∧ read value = some a := by
  unfold optional? at given
  split at given
  · cases given
  · cases given
  · next value _ => exact ⟨value, rfl, by simpa using given⟩

theorem members?_eq_some {names : List String} {fields : List (String × Json)}
    {member : String → Option Json} :
    members? names fields = some member ↔
      (∀ name ∈ names, fields.countP (fun field => field.1 == name) ≤ 1) ∧
        field? fields = member := by
  simp only [members?, List.all_eq_true, decide_eq_true_eq]
  split
  · next once => rw [Option.some.injEq, and_iff_right once]
  · next twice => exact iff_of_false nofun fun both => twice both.1

theorem word?_nat {n m : Nat} : word? (.nat n) = some m ↔ n ≤ Span.maxWord ∧ n = m := by
  rw [word?, natBelow?_nat]
  exact and_congr_left' Nat.lt_succ_iff

end Json

private theorem Role.ofText?_text (role : Role) : Role.ofText? role.text = some role := by
  cases role <;> rfl

private theorem StartupMode.ofText?_text (mode : StartupMode) :
    StartupMode.ofText? mode.text = some mode := by
  cases mode <;> rfl

theorem Version.ofJson?_toJson {v : Version} (parsed : v.IsParsed) :
    Version.ofJson? v.toJson = some v := by
  simp [Version.toJson, Version.ofJson?, parse_text_iff.mpr parsed, Except.toOption]

theorem Version.isParsed_of_ofJson? {value : Json} {v : Version}
    (read : Version.ofJson? value = some v) :
    ∃ text, value = .str text ∧ Version.parse text = .ok v := by
  cases value with
  | str text =>
      refine ⟨text, rfl, ?_⟩
      cases parsed : Version.parse text with
      | ok w => simpa [Version.ofJson?, parsed, Except.toOption] using read
      | error e => simp [Version.ofJson?, parsed, Except.toOption] at read
  | _ => cases read

theorem Span.ofWords?_eq_some {secs nanos : Json} {d : Span} :
    Span.ofWords? secs nanos = some d ↔
      ∃ s n, secs.word? = some s ∧ Json.natBelow? 4294967296 nanos = some n ∧
        s + n / 1000000000 ≤ Span.maxWord ∧ Span.ofParts s n = d := by
  simp only [Span.ofWords?, Option.bind_eq_bind, Option.bind_eq_some_iff]
  constructor
  · rintro ⟨s, first, n, second, rest⟩
    split at rest
    · next fits => exact ⟨s, n, first, second, fits, Option.some.inj rest⟩
    · cases rest
  · rintro ⟨s, n, first, second, fits, rfl⟩
    exact ⟨s, first, n, second, if_pos fits⟩

private theorem Span.seconds_ofParts (s n : Nat) :
    (Span.ofParts s n).seconds = s + n / 1000000000 := by
  simp only [Span.seconds, Span.ofParts]
  omega

private theorem Span.ofJson?_toJson {d : Span} (fits : d.seconds ≤ Span.maxWord) :
    Span.ofJson? d.toJson = some d := by
  have read : Span.ofWords? (.nat d.seconds) (.nat d.subsecond) = some d := by
    have small : d.subsecond < 1000000000 := Nat.mod_lt _ (by decide)
    refine Span.ofWords?_eq_some.mpr ⟨d.seconds, d.subsecond, ?_, ?_, ?_, ?_⟩
    · exact Json.word?_nat.mpr ⟨fits, rfl⟩
    · exact Json.natBelow?_nat.mpr ⟨by omega, rfl⟩
    · omega
    · have parts := Nat.div_add_mod' d.nanos 1000000000
      exact congrArg Span.mk parts
  exact read

private theorem Span.seconds_le_of_ofJson? {value : Json} {d : Span}
    (read : Span.ofJson? value = some d) :
    d.seconds ≤ Span.maxWord := by
  have fits : ∀ {secs nanos}, Span.ofWords? secs nanos = some d → d.seconds ≤ Span.maxWord := by
    intro secs nanos read
    obtain ⟨s, n, -, -, fits, rfl⟩ := Span.ofWords?_eq_some.mp read
    rwa [Span.seconds_ofParts]
  unfold Span.ofJson? at read
  split at read
  · split at read
    · simp only [Option.bind_eq_bind, Option.bind_eq_some_iff] at read
      obtain ⟨member, -, secs, -, nanos, -, read⟩ := read
      exact fits read
    · cases read
  · exact fits read
  · cases read

private theorem ParamValue.ofJson?_toJson (value : ParamValue) :
    ParamValue.ofJson? value.toJson = some value := by
  cases value <;> rfl

private theorem paramsOfJson?_toJson {params : Params ParamValue} (ascending : params.Ascending) :
    paramsOfJson? (paramsToJson params) = some params := by
  have reads : ∀ pairs : List (String × ParamValue),
      (pairs.map fun pair => (pair.1, pair.2.toJson)).mapM
        (fun field => do return (field.1, ← ParamValue.ofJson? field.2)) = some pairs := by
    intro pairs
    induction pairs with
    | nil => rfl
    | cons pair pairs ih =>
        rw [List.map_cons, List.mapM_cons, ih, ParamValue.ofJson?_toJson]
        rfl
  simp only [paramsOfJson?, paramsToJson, reads]
  exact congrArg some (Params.ofList_eq_self.mpr ascending)

private theorem ascending_of_paramsOfJson? {value : Json} {params : Params ParamValue}
    (read : paramsOfJson? value = some params) : params.Ascending := by
  cases value with
  | obj fields =>
      simp only [paramsOfJson?, Option.bind_eq_bind, Option.bind_eq_some_iff] at read
      obtain ⟨pairs, -, same⟩ := read
      cases same
      exact Params.ascending_ofList pairs
  | _ => cases read

private theorem connectorOfJson?_toJson {port : Nat} (fits : port < 65536) :
    connectorOfJson? (connectorToJson port) = some port :=
  Json.natBelow?_nat.mpr ⟨fits, rfl⟩

private theorem Outcome.ofJson?_toJson (o : Outcome) : Outcome.ofJson? o.toJson = some o := by
  cases o <;> rfl

private theorem Assignment.ofJson?_toJson
    (a : Assignment) : Assignment.ofJson? a.toJson = some a := rfl

private theorem TestCase.ofJson?_toJson {c : TestCase} :
    TestCase.ofJson? c.toJson = some c ↔ c.ordinal ≤ Span.maxWord := by
  have fields : TestCase.ofJson? c.toJson =
      (Json.nat c.ordinal).word?.bind fun ordinal =>
        ((Json.arr (c.assignments.map Assignment.toJson)).list? Assignment.ofJson?).bind
          fun assignments => some ⟨ordinal, assignments⟩ := rfl
  rw [fields, Json.list?_arr_map Assignment.ofJson?_toJson]
  constructor
  · intro read
    obtain ⟨ordinal, word, -⟩ := Option.bind_eq_some_iff.mp read
    exact (Json.word?_nat.mp word).1
  · intro fits
    rw [Json.word?_nat.mpr ⟨fits, rfl⟩]
    rfl

/-! ## Descriptors -/

namespace Descriptor

/-- What can be read: a version that some text has, numbers that fit, parameters in order. -/
structure Readable (d : Descriptor) : Prop where
  version : d.version.IsParsed
  nodeCount : d.nodeCount ≤ Span.maxWord
  connector : ∀ port ∈ d.connector, port < 65536
  params : d.params.Ascending
  startupTimeout : ∀ timeout ∈ d.startupTimeout, timeout.seconds ≤ Span.maxWord

def requiredKeys : List String :=
  ["name", "role", "version", "node_count", "startup_mode", "params", "depends_on"]

/-- A part of a written descriptor, by its name or by its place. -/
def part? (key : String) : Json → Option Json
  | .obj fields => Json.field? fields key
  | .arr items => if items.length = keys.length then items[keys.idxOf key]? else none
  | _ => none

/-- The port in a written connector. -/
def port? : Json → Option Json
  | .obj fields => Json.field? fields "port"
  | .arr [port] => some port
  | _ => none

variable {d : Descriptor}

theorem ofFields?_eq_some {name role version nodeCount mode params dependsOn : Json}
    {connector entryPoint startupTimeout : Option Json} :
    ofFields? name role version nodeCount mode params dependsOn connector entryPoint
        startupTimeout = some d ↔
      name.text? = some d.name ∧ role.constant?.bind Role.ofText? = some d.role ∧
        Version.ofJson? version = some d.version ∧ nodeCount.word? = some d.nodeCount ∧
        mode.constant?.bind StartupMode.ofText? = some d.mode ∧
        Json.optional? connectorOfJson? connector = some d.connector ∧
        Json.optional? Json.text? entryPoint = some d.entryPoint ∧
        paramsOfJson? params = some d.params ∧
        dependsOn.list? Json.text? = some d.dependsOn ∧
        Json.optional? Span.ofJson? startupTimeout = some d.startupTimeout := by
  obtain ⟨n, r, v, c, m, k, e, ps, ds, t⟩ := d
  simp only [ofFields?, Option.bind_eq_bind, Option.bind_eq_some_iff, Option.pure_def]
  constructor
  · rintro ⟨_, name, _, constant, _, role, _, version, _, count, _, word, _, mode, _, connector, _,
      entry, _, params, _, depends, _, timeout, same⟩
    cases same
    exact ⟨name, ⟨_, constant, role⟩, version, count, ⟨_, word, mode⟩, connector, entry, params,
      depends, timeout⟩
  · rintro ⟨name, ⟨_, constant, role⟩, version, count, ⟨_, word, mode⟩, connector, entry, params,
      depends, timeout⟩
    exact ⟨_, name, _, constant, _, role, _, version, _, count, _, word, _, mode, _, connector, _,
      entry, _, params, _, depends, _, timeout, rfl⟩

theorem parts_of_ofJson? {value : Json} (read : ofJson? value = some d) :
    ∃ name role version nodeCount mode params dependsOn,
      part? "name" value = some name ∧ part? "role" value = some role ∧
        part? "version" value = some version ∧ part? "node_count" value = some nodeCount ∧
        part? "startup_mode" value = some mode ∧ part? "params" value = some params ∧
        part? "depends_on" value = some dependsOn ∧
        ofFields? name role version nodeCount mode params dependsOn
          (part? "client_connector" value) (part? "entry_point" value)
          (part? "startup_timeout" value) = some d := by
  unfold ofJson? at read
  split at read
  · next fields =>
      simp only [Option.bind_eq_bind, Option.bind_eq_some_iff] at read
      obtain ⟨member, found, name, n, role, r, version, v, nodeCount, c, mode, m, params, p,
        dependsOn, ds, read⟩ := read
      obtain ⟨-, rfl⟩ := Json.members?_eq_some.mp found
      exact ⟨name, role, version, nodeCount, mode, params, dependsOn, n, r, v, c, m, p, ds, read⟩
  · next name role version nodeCount mode connector entryPoint params dependsOn startupTimeout =>
      exact ⟨name, role, version, nodeCount, mode, params, dependsOn, rfl, rfl, rfl, rfl, rfl, rfl,
        rfl, read⟩
  · cases read

private theorem Readable.ofJson?_toJson (readable : d.Readable) : ofJson? d.toJson = some d := by
  have fields : ofJson? d.toJson = ofFields? (.str d.name) (.str d.role.text) d.version.toJson
      (.nat d.nodeCount) (.str d.mode.text) (paramsToJson d.params)
      (.arr (d.dependsOn.map Json.str)) (some (Json.ofOption connectorToJson d.connector))
      (some (Json.ofOption Json.str d.entryPoint))
      (some (Json.ofOption Span.toJson d.startupTimeout)) := rfl
  have dependsOn : (Json.arr (d.dependsOn.map Json.str)).list? Json.text? = some d.dependsOn :=
    Json.list?_arr_map (fun text => show Json.text? (.str text) = some text from rfl) d.dependsOn
  rw [fields, ofFields?_eq_some]
  refine ⟨rfl, Role.ofText?_text d.role, Version.ofJson?_toJson readable.version,
    Json.word?_nat.mpr ⟨readable.nodeCount, rfl⟩, StartupMode.ofText?_text d.mode, ?_, ?_,
    paramsOfJson?_toJson readable.params, dependsOn, ?_⟩
  · apply Json.optional?_ofOption
    · exact fun port given => connectorOfJson?_toJson (readable.connector port given)
    · exact fun port => nofun
  · apply Json.optional?_ofOption
    · exact fun text _ => rfl
    · exact fun text => nofun
  · apply Json.optional?_ofOption
    · exact fun timeout given => Span.ofJson?_toJson (readable.startupTimeout timeout given)
    · exact fun timeout => nofun

theorem port_of_connectorOfJson? {value : Json} {port : Nat}
    (read : connectorOfJson? value = some port) :
    port < 65536 ∧ port? value = some (.nat port) := by
  have small : ∀ {value}, Json.natBelow? 65536 value = some port →
      port < 65536 ∧ value = .nat port := by
    intro value read
    cases value with
    | nat n =>
        obtain ⟨below, rfl⟩ := Json.natBelow?_nat.mp read
        exact ⟨below, rfl⟩
    | _ => cases read
  unfold connectorOfJson? at read
  split at read
  · simp only [Option.bind_eq_bind, Option.bind_eq_some_iff] at read
    obtain ⟨member, found, value, given, read⟩ := read
    obtain ⟨-, rfl⟩ := Json.members?_eq_some.mp found
    obtain ⟨below, rfl⟩ := small read
    exact ⟨below, given⟩
  · obtain ⟨below, rfl⟩ := small read
    exact ⟨below, rfl⟩
  · cases read

private theorem readable_of_ofJson? {value : Json}
    (read : ofJson? value = some d) : d.Readable := by
  obtain ⟨_, _, _, _, _, _, _, -, -, -, -, -, -, -, read⟩ := parts_of_ofJson? read
  obtain ⟨-, -, version, nodeCount, -, connector, -, params, -, timeout⟩ :=
    ofFields?_eq_some.mp read
  constructor
  · obtain ⟨text, -, parsed⟩ := Version.isParsed_of_ofJson? version
    exact ⟨text, parsed⟩
  · exact Nat.le_of_lt_succ (Json.lt_of_natBelow? nodeCount)
  · intro port given
    rw [Option.mem_def.mp given] at connector
    obtain ⟨value, -, read⟩ := Json.exists_of_optional? connector
    exact (port_of_connectorOfJson? read).1
  · exact ascending_of_paramsOfJson? params
  · intro timeout' given
    rw [Option.mem_def.mp given] at timeout
    obtain ⟨value, -, read⟩ := Json.exists_of_optional? timeout
    exact Span.seconds_le_of_ofJson? read

private theorem ofJson?_toJson_iff : ofJson? d.toJson = some d ↔ d.Readable :=
  ⟨readable_of_ofJson?, Readable.ofJson?_toJson⟩

/-! ## Forms that are refused -/

private theorem version_of_ofJson? {value : Json} (read : ofJson? value = some d) :
    ∃ text, part? "version" value = some (.str text) ∧ Version.parse text = .ok d.version := by
  obtain ⟨_, _, _, _, _, _, _, -, -, given, -, -, -, -, read⟩ := parts_of_ofJson? read
  obtain ⟨-, -, version, -⟩ := ofFields?_eq_some.mp read
  obtain ⟨text, rfl, parsed⟩ := Version.isParsed_of_ofJson? version
  exact ⟨text, given, parsed⟩

private theorem isSome_part?_of_ofJson? {value : Json} (read : ofJson? value = some d) :
    ∀ key ∈ requiredKeys, (part? key value).isSome := by
  obtain ⟨_, _, _, _, _, _, _, name, role, version, count, mode, params, depends, -⟩ :=
    parts_of_ofJson? read
  simp [requiredKeys, name, role, version, count, mode, params, depends]

private theorem once_of_ofJson? {fields : List (String × Json)}
    (read : ofJson? (.obj fields) = some d) :
    ∀ key ∈ keys, fields.countP (fun field => field.1 == key) ≤ 1 := by
  simp only [ofJson?, Option.bind_eq_bind, Option.bind_eq_some_iff] at read
  obtain ⟨member, found, -⟩ := read
  exact (Json.members?_eq_some.mp found).1

private theorem port_lt_of_ofJson? {value connector : Json} {port : Nat}
    (read : ofJson? value = some d)
    (given : part? "client_connector" value = some connector)
    (written : port? connector = some (.nat port)) : port < 65536 := by
  obtain ⟨_, _, _, _, _, _, _, -, -, -, -, -, -, -, read⟩ := parts_of_ofJson? read
  obtain ⟨-, -, -, -, -, told, -⟩ := ofFields?_eq_some.mp read
  have solid : connector ≠ .null := by
    rintro rfl
    cases written
  rw [given, Json.optional?_some solid] at told
  obtain ⟨other, read, -⟩ := Option.map_eq_some_iff.mp told
  obtain ⟨below, same⟩ := port_of_connectorOfJson? read
  rw [written] at same
  cases same
  exact below

end Descriptor

/-- What was written is read as the same value: an outcome always, a case when its ordinal is a
word, and a descriptor exactly when it is one that can be read at all.  A form is refused when the
text of its version does not parse, when a required part is missing, and when the port of its
connector is too large, whether the parts have names or only places; and when a part is named
twice. -/
theorem reads_what_was_written :
    (∀ d : Descriptor, Descriptor.ofJson? d.toJson = some d ↔ d.Readable) ∧
      (∀ o : Outcome, Outcome.ofJson? o.toJson = some o) ∧
      (∀ c : TestCase, TestCase.ofJson? c.toJson = some c ↔ c.ordinal ≤ Span.maxWord) ∧
      (∀ value text e, Descriptor.part? "version" value = some (.str text) →
        Version.parse text = .error e → Descriptor.ofJson? value = none) ∧
      (∀ value, ∀ key ∈ Descriptor.requiredKeys, Descriptor.part? key value = none →
        Descriptor.ofJson? value = none) ∧
      (∀ value connector port, Descriptor.part? "client_connector" value = some connector →
        Descriptor.port? connector = some (.nat port) → 65535 < port →
          Descriptor.ofJson? value = none) ∧
      ∀ fields, ∀ key ∈ Descriptor.keys, 1 < fields.countP (fun field => field.1 == key) →
        Descriptor.ofJson? (.obj fields) = none := by
  refine ⟨fun d => Descriptor.ofJson?_toJson_iff, Outcome.ofJson?_toJson,
    fun c => TestCase.ofJson?_toJson, ?_, ?_, ?_, ?_⟩
  · intro value text e given refused
    apply Option.eq_none_iff_forall_ne_some.mpr
    intro d read
    obtain ⟨other, same, parsed⟩ := Descriptor.version_of_ofJson? read
    rw [given] at same
    cases same
    rw [refused] at parsed
    cases parsed
  · intro value key required missing
    apply Option.eq_none_iff_forall_ne_some.mpr
    intro d read
    have present := Descriptor.isSome_part?_of_ofJson? read key required
    rw [missing] at present
    cases present
  · intro value connector port given written large
    apply Option.eq_none_iff_forall_ne_some.mpr
    intro d read
    have small := Descriptor.port_lt_of_ofJson? read given written
    omega
  · intro fields key known twice
    apply Option.eq_none_iff_forall_ne_some.mpr
    intro d read
    have once := Descriptor.once_of_ofJson? read key known
    omega

end Interop
