import Interop.Proofs.Json.Readability
import Interop.Report
import Mathlib.Data.List.Forall2

/-!
# Reports as JSON lose nothing

Two reports have the same JSON text exactly when they tell the same in whole milliseconds: the
same time for the run, and record by record the same test, case, outcome, time, warnings and logs.
-/

namespace Interop

open Json (Plain)

/-! ## Cases and outcomes -/

private theorem Assignment.toJson_inj {a b : Assignment} : a.toJson = b.toJson ↔ a = b := by
  cases a
  cases b
  simp [Assignment.toJson]

private theorem TestCase.toJson_inj {c d : TestCase} : c.toJson = d.toJson ↔ c = d := by
  cases c
  cases d
  simp [TestCase.toJson, List.map_inj_right fun _ _ => Assignment.toJson_inj.mp]

private theorem TestCase.plain_toJson (c : TestCase) : Plain c.toJson := by
  refine .obj ?_
  simp only [List.forall_mem_cons, List.not_mem_nil, false_implies, implies_true, and_true]
  refine ⟨.nat _, .arr ?_⟩
  intro item mem
  obtain ⟨a, -, rfl⟩ := List.mem_map.mp mem
  refine .obj ?_
  simp [Plain.str]

private theorem Outcome.fields_inj {o p : Outcome} {rest rest' : List (String × Json)}
    (same : o.fields ++ rest = p.fields ++ rest') : o = p ∧ rest = rest' := by
  cases o <;> cases p <;> simp_all [Outcome.fields, Outcome.kind, OutcomeKind.name]

private theorem Outcome.plain_fields (o : Outcome) : ∀ field ∈ o.fields, Plain field.2 := by
  cases o <;> simp [Outcome.fields, Plain.str]

/-! ## Records -/

namespace CaseRecord

/-- The two records tell the same in whole milliseconds. -/
structure Alike (r s : CaseRecord) : Prop where
  test : r.test = s.test
  case : r.case = s.case
  outcome : r.outcome = s.outcome
  duration : r.duration.millis = s.duration.millis
  warnings : r.warnings = s.warnings
  logs : r.logs = s.logs
  logFiles : r.logFiles = s.logFiles

private theorem listField_nil (name : String) : listField name [] = [] := rfl

private theorem listField_cons (name item : String) (items : List String) :
    listField name (item :: items) = [(name, .arr ((item :: items).map Json.str))] := rfl

private theorem fst_ne_of_mem_listField {name other : String} (apart : other ≠ name)
    (items : List String) : ∀ field ∈ listField other items, field.1 ≠ name := by
  intro field mem
  cases items with
  | nil => cases mem
  | cons item items =>
      rw [List.mem_singleton.mp mem]
      exact apart

private theorem listField_inj {name : String} {items items' : List String}
    {rest rest' : List (String × Json)} (apart : ∀ field ∈ rest, field.1 ≠ name)
    (apart' : ∀ field ∈ rest', field.1 ≠ name)
    (same : listField name items ++ rest = listField name items' ++ rest') :
    items = items' ∧ rest = rest' := by
  cases items with
  | nil =>
      cases items' with
      | nil => exact ⟨rfl, same⟩
      | cons item' items' =>
          rw [listField_nil, listField_cons, List.nil_append] at same
          subst same
          exact absurd rfl (apart _ List.mem_cons_self)
  | cons item items =>
      cases items' with
      | nil =>
          rw [listField_nil, listField_cons, List.nil_append] at same
          subst same
          exact absurd rfl (apart' _ List.mem_cons_self)
      | cons item' items' =>
          simp only [listField_cons, List.cons_append, List.nil_append, List.cons.injEq,
            Prod.mk.injEq, Json.arr.injEq, true_and] at same
          exact ⟨List.map_injective_iff.mpr (fun _ _ => Json.str.inj) same.1, same.2⟩

private theorem plain_listField (name : String) (items : List String) :
    ∀ field ∈ listField name items, Plain field.2 := by
  cases items with
  | nil => exact fun field mem => nomatch mem
  | cons item items =>
      intro field mem
      rw [List.mem_singleton.mp mem]
      refine .arr ?_
      intro value mem
      obtain ⟨text, -, rfl⟩ := List.mem_map.mp mem
      exact .str text

private theorem plain_toJson (r : CaseRecord) : Plain r.toJson := by
  refine .obj ?_
  simp only [List.forall_mem_append, List.forall_mem_cons, List.not_mem_nil, false_implies,
    implies_true, and_true]
  exact ⟨⟨⟨⟨⟨⟨.str _, r.case.plain_toJson⟩, r.outcome.plain_fields⟩, .nat _⟩, plain_listField _ _⟩,
    plain_listField _ _⟩, plain_listField _ _⟩

private theorem toJson_inj {r s : CaseRecord} : r.toJson = s.toJson ↔ Alike r s := by
  constructor
  · intro same
    simp only [CaseRecord.toJson, Json.obj.injEq, List.append_assoc, List.cons_append,
      List.nil_append, List.cons.injEq, Prod.mk.injEq, Json.str.injEq, true_and] at same
    obtain ⟨test, case, same⟩ := same
    obtain ⟨outcome, same⟩ := Outcome.fields_inj same
    simp only [List.cons.injEq, Prod.mk.injEq, Json.nat.injEq, true_and] at same
    obtain ⟨duration, same⟩ := same
    have behind : ∀ logs logFiles : List String,
        ∀ field ∈ listField "logs" logs ++ listField "log_files" logFiles,
          field.1 ≠ "warnings" := by
      intro logs logFiles
      refine List.forall_mem_append.mpr ⟨?_, ?_⟩
      · exact fst_ne_of_mem_listField (by decide) logs
      · exact fst_ne_of_mem_listField (by decide) logFiles
    obtain ⟨warnings, same⟩ := listField_inj (behind _ _) (behind _ _) same
    obtain ⟨logs, same⟩ := listField_inj (fst_ne_of_mem_listField (by decide) r.logFiles)
      (fst_ne_of_mem_listField (by decide) s.logFiles) same
    rw [← List.append_nil (listField _ r.logFiles),
      ← List.append_nil (listField _ s.logFiles)] at same
    obtain ⟨logFiles, -⟩ := listField_inj (List.forall_mem_nil _) (List.forall_mem_nil _) same
    exact ⟨test, TestCase.toJson_inj.mp case, outcome, duration, warnings, logs, logFiles⟩
  · rintro ⟨test, case, outcome, duration, warnings, logs, logFiles⟩
    simp only [CaseRecord.toJson, test, case, outcome, duration, warnings, logs, logFiles]

end CaseRecord

/-! ## Reports -/

namespace Report

private theorem plain_toJson (r : Report) : Plain r.toJson := by
  refine .obj ?_
  simp only [List.forall_mem_cons, List.not_mem_nil, false_implies, implies_true, and_true]
  refine ⟨.obj ?_, .nat _, .arr ?_⟩
  · simp [Plain.nat]
  · intro item mem
    obtain ⟨record, -, rfl⟩ := List.mem_map.mp mem
    exact record.plain_toJson

private theorem map_toJson_eq_iff {records others : List CaseRecord} :
    records.map CaseRecord.toJson = others.map CaseRecord.toJson ↔
      List.Forall₂ CaseRecord.Alike records others := by
  rw [← List.forall₂_eq_eq_eq, List.forall₂_map_left_iff, List.forall₂_map_right_iff]
  constructor
  · exact List.Forall₂.imp fun _ _ => CaseRecord.toJson_inj.mp
  · exact List.Forall₂.imp fun _ _ => CaseRecord.toJson_inj.mpr

private theorem summary_eq {records others : List CaseRecord}
    (alike : List.Forall₂ CaseRecord.Alike records others) :
    Summary.ofRecords records = Summary.ofRecords others := by
  have step : ∀ start : Summary, records.foldl (fun s r => s.add r.outcome.kind) start =
      others.foldl (fun s r => s.add r.outcome.kind) start := by
    induction alike with
    | nil => exact fun _ => rfl
    | cons same _ ih =>
        intro start
        rw [List.foldl_cons, List.foldl_cons, same.outcome]
        exact ih _
  exact step .empty

/-- The JSON text of a report tells everything but fractions of milliseconds, and nothing else. -/
theorem json_eq_iff (r s : Report) :
    r.json = s.json ↔
      r.elapsed.millis = s.elapsed.millis ∧
        List.Forall₂ CaseRecord.Alike r.records s.records := by
  unfold json
  rw [Json.pretty_inj r.plain_toJson s.plain_toJson]
  constructor
  · intro same
    simp only [toJson, Json.obj.injEq, List.cons.injEq, Prod.mk.injEq, Json.nat.injEq,
      Json.arr.injEq, true_and, and_true] at same
    exact ⟨same.2.1, map_toJson_eq_iff.mp same.2.2⟩
  · rintro ⟨elapsed, alike⟩
    simp only [toJson, summary, summary_eq alike, elapsed, map_toJson_eq_iff.mpr alike]

end Report

end Interop
