import Interop.Proofs.Text.Lines
import Interop.Report
import Mathlib.Data.List.Nodup

/-!
# The lines of a report

A report as text has a line for each record, one for each of its warnings and one at the end, and
the kind of every outcome can be read back from the beginning of its line.  Diagnostics of several
lines do not disturb this.  A line feed in a name, a value or a warning does: it gives one line
more, which may look like any other.
-/

namespace Interop

open Text (breaks linesWithin withoutReturn)

namespace Text

theorem breaks_padRight (width : Nat) (s : String) : breaks (padRight width s) = breaks s := by
  have blanks : (List.replicate (width - s.length) ' ').count '\n' = 0 := by
    rw [List.count_eq_zero]
    intro mem
    exact absurd (List.eq_of_mem_replicate mem) (by decide)
  rw [padRight, breaks_append, breaks_ofList, blanks, Nat.add_zero]

private theorem breaks_padZeros (width n : Nat) : breaks (padZeros width n) = 0 := by
  have zeros : (List.replicate (width - (toString n).length) '0').count '\n' = 0 := by
    rw [List.count_eq_zero]
    intro mem
    exact absurd (List.eq_of_mem_replicate mem) (by decide)
  rw [padZeros, breaks_append, breaks_ofList, zeros, breaks_toString]

end Text

theorem Span.breaks_inSeconds (d : Span) : breaks d.inSeconds = 0 := by
  have point : breaks "." = 0 := Text.breaks_eq_zero.2 (by simp)
  have unit : breaks "s" = 0 := Text.breaks_eq_zero.2 (by simp)
  simp only [inSeconds, Fraction.thousandths, Text.breaks_append, Text.breaks_toString,
    Text.breaks_padZeros, point, unit]

namespace OutcomeKind

theorem breaks_name (kind : OutcomeKind) : breaks kind.name = 0 := by
  cases kind <;> exact Text.breaks_eq_zero.2 (by simp [name])

def all : List OutcomeKind := [.pass, .fail, .error, .timeout, .skipped]

def ofLine? (line : String) : Option OutcomeKind :=
  all.find? fun kind => kind.name.toList.isPrefixOf line.toList

theorem ofLine?_of_begins {kind : OutcomeKind} {line : String}
    (start : kind.name.toList <+: line.toList) : ofLine? line = some kind := by
  obtain ⟨rest, whole⟩ := start
  rw [ofLine?, ← whole]
  cases kind <;> simp [all, name]

theorem ofLine?_of_head {line : String} {c : Char} (head : line.toList.head? = some c)
    (lower : c ∉ ['P', 'F', 'E', 'T', 'S']) : ofLine? line = none := by
  refine List.find?_eq_none.2 fun kind _ start => lower ?_
  obtain ⟨rest, whole⟩ := List.isPrefixOf_iff_prefix.1 start
  rw [← whole] at head
  cases kind <;> simp [name] at head <;> simp [← head]

end OutcomeKind

namespace CaseRecord

/-- The report line of a record. -/
def headline (r : CaseRecord) : String :=
  Text.padRight 8 r.outcome.kind.name ++ " " ++ r.label ++ " (" ++ r.duration.inSeconds ++ ")" ++
    match r.outcome.diagnostic? with
    | some text => " - " ++ Text.firstLine text
    | none => ""

-- Irreducible, so that no proof compares texts character by character.
@[irreducible]
def warningLine (warning : String) : String := "         warning: " ++ warning

theorem lines_eq (r : CaseRecord) : r.lines = r.headline :: r.warnings.map warningLine := by
  have same : warningLine = fun warning => "         warning: " ++ warning :=
    funext fun warning => by rw [warningLine]
  rw [same]
  rfl

def feeds (r : CaseRecord) : Nat :=
  breaks r.test + (r.case.assignments.map fun a => breaks a.axis + breaks a.value).sum +
    (r.warnings.map breaks).sum

/-- There is no line feed in a name, a value or a warning. -/
structure Unbroken (r : CaseRecord) : Prop where
  test : '\n' ∉ r.test.toList
  case : ∀ a ∈ r.case.assignments, '\n' ∉ a.axis.toList ∧ '\n' ∉ a.value.toList
  warnings : ∀ warning ∈ r.warnings, '\n' ∉ warning.toList

theorem feeds_eq_zero {r : CaseRecord} : r.feeds = 0 ↔ r.Unbroken := by
  simp only [feeds, Nat.add_eq_zero_iff, List.sum_eq_zero_iff_forall_eq_nat, List.forall_mem_map,
    Text.breaks_eq_zero]
  constructor
  · rintro ⟨⟨test, case⟩, warnings⟩
    exact ⟨test, case, warnings⟩
  · rintro ⟨test, case, warnings⟩
    exact ⟨⟨test, case⟩, warnings⟩

/-! ## Where line feeds come from -/

private theorem breaks_label_case (c : TestCase) :
    breaks c.label = (c.assignments.map fun a => breaks a.axis + breaks a.value).sum := by
  rw [TestCase.label]
  split
  · next empty =>
      have number : breaks ("#" ++ toString c.ordinal) = 0 := by
        rw [Text.breaks_append, Text.breaks_toString]
        exact Text.breaks_eq_zero.2 (by simp)
      rw [List.isEmpty_iff.1 empty]
      exact number
  · have glue : breaks "." = 0 := Text.breaks_eq_zero.2 (by simp)
    have equals : breaks "=" = 0 := Text.breaks_eq_zero.2 (by simp)
    rw [TestCase.id, Text.breaks_intercalate glue, List.map_map]
    simp [Function.comp_def, equals]

theorem breaks_headline (r : CaseRecord) :
    breaks r.headline =
      breaks r.test + (r.case.assignments.map fun a => breaks a.axis + breaks a.value).sum := by
  have diagnostic : breaks (match r.outcome.diagnostic? with
      | some text => " - " ++ Text.firstLine text
      | none => "") = 0 := by
    split
    · rw [Text.breaks_append, Text.breaks_firstLine]
      exact Text.breaks_eq_zero.2 (by simp)
    · exact Text.breaks_empty
  have marks : breaks " " = 0 ∧ breaks " (" = 0 ∧ breaks ")" = 0 ∧ breaks "[" = 0 ∧
      breaks "]" = 0 := by
    refine ⟨?_, ?_, ?_, ?_, ?_⟩ <;> exact Text.breaks_eq_zero.2 (by simp)
  simp only [headline, label, Text.breaks_append, diagnostic, Text.breaks_padRight,
    OutcomeKind.breaks_name, marks, breaks_label_case, Span.breaks_inSeconds, Nat.add_zero,
    Nat.zero_add]

theorem breaks_warningLine (warning : String) : breaks (warningLine warning) = breaks warning := by
  have lead : breaks "         warning: " = 0 := Text.breaks_eq_zero.2 (by simp)
  have sum := Text.breaks_append "         warning: " warning
  rwa [lead, Nat.zero_add, ← warningLine] at sum

private theorem length_linesWithin_lines (r : CaseRecord) :
    (r.lines.flatMap linesWithin).length = 1 + r.warnings.length + r.feeds := by
  have warnings : (r.warnings.map fun warning => breaks warning + 1).sum =
      (r.warnings.map breaks).sum + r.warnings.length := by
    induction r.warnings with
    | nil => rfl
    | cons warning warnings ih =>
        simp only [List.map_cons, List.sum_cons, List.length_cons, ih]
        omega
  rw [lines_eq, List.flatMap_cons, List.length_append, List.length_flatMap, List.map_map,
    Text.length_linesWithin, breaks_headline]
  simp only [Function.comp_def, Text.length_linesWithin, breaks_warningLine, warnings, feeds]
  omega

/-- The first line of a record begins with the kind of its outcome, whatever else is in it. -/
theorem linesWithin_headline (r : CaseRecord) :
    ∃ first rest, linesWithin r.headline = first :: rest ∧
      r.outcome.kind.name.toList <+: first.toList := by
  have kind : breaks (Text.padRight 8 r.outcome.kind.name) = 0 := by
    rw [Text.breaks_padRight, OutcomeKind.breaks_name]
  obtain ⟨first, rest, split, start⟩ := Text.linesWithin_blank kind
    (r.label ++ " (" ++ r.duration.inSeconds ++ ")" ++
      match r.outcome.diagnostic? with
      | some text => " - " ++ Text.firstLine text
      | none => "")
  refine ⟨first, rest, ?_, List.IsPrefix.trans ?_ start⟩
  · rw [← split, headline]
    simp only [String.append_assoc]
  · rw [Text.padRight, String.toList_append]
    exact List.prefix_append _ _

theorem Unbroken.headline {r : CaseRecord} (unbroken : r.Unbroken) : breaks r.headline = 0 := by
  have none := feeds_eq_zero.2 unbroken
  rw [feeds] at none
  rw [breaks_headline]
  omega

theorem linesWithin_lines {r : CaseRecord} (unbroken : r.Unbroken) :
    r.lines.flatMap linesWithin =
      withoutReturn r.headline ::
        r.warnings.map fun warning => withoutReturn (warningLine warning) := by
  have warnings : ∀ warning ∈ r.warnings, linesWithin (warningLine warning) =
      [withoutReturn (warningLine warning)] := by
    intro warning mem
    refine Text.linesWithin_of_breaks ?_
    rw [breaks_warningLine, Text.breaks_eq_zero]
    exact unbroken.warnings warning mem
  rw [lines_eq, List.flatMap_cons, Text.linesWithin_of_breaks unbroken.headline, List.flatMap_map,
    List.flatMap_congr warnings, List.singleton_append]
  congr 1
  induction r.warnings with
  | nil => rfl
  | cons warning warnings ih => rw [List.flatMap_cons, ih]; rfl

private theorem Unbroken.ofLine?_headline {r : CaseRecord} (unbroken : r.Unbroken) :
    OutcomeKind.ofLine? (withoutReturn r.headline) = some r.outcome.kind := by
  obtain ⟨first, rest, split, start⟩ := r.linesWithin_headline
  rw [Text.linesWithin_of_breaks unbroken.headline, List.cons.injEq] at split
  rw [split.1]
  exact OutcomeKind.ofLine?_of_begins start

private theorem ofLine?_warningLine (warning : String) :
    OutcomeKind.ofLine? (withoutReturn (warningLine warning)) = none := by
  obtain ⟨rest, begins⟩ : ∃ rest, (warningLine warning).toList = [' '] ++ ' ' :: rest := by
    simp [warningLine]
  have head : (withoutReturn (warningLine warning)).toList.head? = some ' ' := by
    rw [withoutReturn, String.toList_ofList, begins,
      Text.dropReturn_append _ (List.cons_ne_nil _ _)]
    rfl
  exact OutcomeKind.ofLine?_of_head head (by decide)

end CaseRecord

namespace OutcomeKind

/-- The kinds that are read back from the lines of a report. -/
def ofLines (lines : List String) : List OutcomeKind := lines.filterMap ofLine?

theorem ofLines_append (lines more : List String) :
    ofLines (lines ++ more) = ofLines lines ++ ofLines more := List.filterMap_append

private theorem sublist_ofLines (r : CaseRecord) :
    [r.outcome.kind].Sublist (ofLines (r.lines.flatMap linesWithin)) := by
  obtain ⟨first, rest, split, start⟩ := r.linesWithin_headline
  rw [CaseRecord.lines_eq, List.flatMap_cons, split, List.cons_append, ofLines,
    List.filterMap_cons_some (ofLine?_of_begins start)]
  exact (List.nil_sublist _).cons_cons _

private theorem ofLines_of_unbroken {r : CaseRecord} (unbroken : r.Unbroken) :
    ofLines (r.lines.flatMap linesWithin) = [r.outcome.kind] := by
  have warnings : (r.warnings.map fun warning =>
      withoutReturn (CaseRecord.warningLine warning)).filterMap ofLine? = [] := by
    rw [List.filterMap_map, List.filterMap_eq_nil_iff]
    intro warning _
    rw [Function.comp_apply, CaseRecord.ofLine?_warningLine]
  rw [CaseRecord.linesWithin_lines unbroken, ofLines,
    List.filterMap_cons_some unbroken.ofLine?_headline, warnings]

private theorem map_kind_sublist (records : List CaseRecord) :
    (records.map fun r => r.outcome.kind).Sublist
      (ofLines (records.flatMap fun r => r.lines.flatMap linesWithin)) := by
  induction records with
  | nil => exact .slnil
  | cons r records ih =>
      rw [List.map_cons, List.flatMap_cons, ofLines_append, ← List.singleton_append]
      exact (sublist_ofLines r).append ih

private theorem ofLines_flatMap {records : List CaseRecord} (unbroken : ∀ r ∈ records, r.Unbroken) :
    ofLines (records.flatMap fun r => r.lines.flatMap linesWithin) =
      records.map fun r => r.outcome.kind := by
  induction records with
  | nil => rfl
  | cons r records ih =>
      obtain ⟨first, others⟩ := List.forall_mem_cons.1 unbroken
      rw [List.flatMap_cons, ofLines_append, ofLines_of_unbroken first, ih others, List.map_cons,
        List.singleton_append]

end OutcomeKind

/-! ## Reports -/

namespace Report

private theorem breaks_closingLine (r : Report) : breaks r.closingLine = 0 := by
  have marks : breaks " in " = 0 ∧ breaks " cases: " = 0 ∧ breaks " passed, " = 0 ∧
      breaks " failed, " = 0 ∧ breaks " errors, " = 0 ∧ breaks " timed out, " = 0 ∧
      breaks " skipped" = 0 := by
    refine ⟨?_, ?_, ?_, ?_, ?_, ?_, ?_⟩ <;> exact Text.breaks_eq_zero.2 (by simp)
  have shown : ∀ s : String, breaks (toString s) = breaks s := fun _ => rfl
  simp only [closingLine, Summary.text, Text.breaks_append, shown, marks, Text.breaks_toString,
    Span.breaks_inSeconds, Nat.add_zero]

private theorem linesWithin_closingLine (r : Report) : linesWithin r.closingLine =
    [r.closingLine] := by
  obtain ⟨front, ends⟩ : ∃ front, r.closingLine.toList = front ++ ['s'] := by
    refine ⟨(r.summary.text ++ " in " ++ r.elapsed.binarySeconds.thousandths).toList, ?_⟩
    simp [closingLine, Span.inSeconds]
  have kept : withoutReturn r.closingLine = r.closingLine := by
    rw [withoutReturn, ends, Text.dropReturn_append _ (List.cons_ne_nil _ _)]
    exact (congrArg String.ofList ends).symm.trans String.ofList_toList
  rw [Text.linesWithin_of_breaks r.breaks_closingLine, kept]

private theorem ofLine?_closingLine (r : Report) : OutcomeKind.ofLine? r.closingLine = none := by
  obtain ⟨c, digits, number⟩ : ∃ c digits, Nat.toDigits 10 r.summary.total = c :: digits :=
    List.exists_cons_of_ne_nil (by simp)
  have digit : c.isDigit = true :=
    Nat.isDigit_of_mem_toDigits (by decide) (by decide) (number ▸ List.mem_cons_self)
  have head : r.closingLine.toList.head? = some c := by
    simp [closingLine, Summary.text, number]
  refine OutcomeKind.ofLine?_of_head head fun mem => ?_
  simp only [List.mem_cons, List.not_mem_nil, or_false] at mem
  rcases mem with rfl | rfl | rfl | rfl | rfl <;> simp at digit

theorem lines_text (r : Report) :
    Text.lines r.text = (r.records.flatMap fun record => record.lines.flatMap linesWithin) ++
      [r.closingLine] := by
  rw [text, Text.lines_join, List.flatMap_append, List.flatMap_assoc, List.flatMap_singleton,
    linesWithin_closingLine]

/-- The number of all warnings. -/
def warningCount (r : Report) : Nat := (r.records.map fun record => record.warnings.length).sum

/-- The line feeds in all names, values and warnings. -/
def feeds (r : Report) : Nat := (r.records.map CaseRecord.feeds).sum

private theorem length_lines_text (r : Report) :
    (Text.lines r.text).length = r.records.length + r.warningCount + 1 + r.feeds := by
  have records : ∀ records : List CaseRecord,
      (records.flatMap fun record => record.lines.flatMap linesWithin).length =
        records.length + (records.map fun record => record.warnings.length).sum +
          (records.map CaseRecord.feeds).sum := by
    intro records
    induction records with
    | nil => rfl
    | cons record records ih =>
        simp only [List.flatMap_cons, List.length_append, ih, record.length_linesWithin_lines,
          List.length_cons, List.map_cons, List.sum_cons]
        omega
  rw [lines_text, List.length_append, records, List.length_singleton, warningCount, feeds]
  omega

private theorem feeds_eq_zero
    {r : Report} : r.feeds = 0 ↔ ∀ record ∈ r.records, record.Unbroken := by
  simp only [feeds, List.sum_eq_zero_iff_forall_eq_nat, List.forall_mem_map,
    CaseRecord.feeds_eq_zero]

/-- How a report looks as text, line by line. -/
theorem text_layout (r : Report) :
    -- There is a line for each record, each warning and the summary, and one more for each line
    -- feed in a name, a value or a warning; diagnostics have no part in this.
    (Text.lines r.text).length = r.records.length + r.warningCount + 1 + r.feeds ∧
    ((Text.lines r.text).length = r.records.length + r.warningCount + 1 ↔
      ∀ record ∈ r.records, record.Unbroken) ∧
    -- In any case the kinds of the outcomes are among those read back, in their order.
    (r.records.map fun record => record.outcome.kind).Sublist
      (OutcomeKind.ofLines (Text.lines r.text)) ∧
    -- Without such line feeds each record has its line, which begins with the kind, and behind it
    -- a line for each of its warnings, and exactly the kinds of the outcomes are read back.
    ((∀ record ∈ r.records, record.Unbroken) →
      Text.lines r.text =
        (r.records.flatMap fun record => withoutReturn record.headline ::
          record.warnings.map fun warning => withoutReturn (CaseRecord.warningLine warning)) ++
        [r.closingLine] ∧
      (∀ record ∈ r.records,
        record.outcome.kind.name.toList <+: (withoutReturn record.headline).toList) ∧
      OutcomeKind.ofLines (Text.lines r.text) =
        r.records.map fun record => record.outcome.kind) := by
  refine ⟨r.length_lines_text, ?_, ?_, fun unbroken => ⟨?_, ?_, ?_⟩⟩
  · rw [r.length_lines_text, ← feeds_eq_zero]
    omega
  · rw [lines_text, OutcomeKind.ofLines_append]
    exact (OutcomeKind.map_kind_sublist r.records).trans (List.sublist_append_left _ _)
  · rw [lines_text, List.flatMap_congr fun record mem =>
      CaseRecord.linesWithin_lines (unbroken record mem)]
  · intro record mem
    obtain ⟨first, rest, split, start⟩ := record.linesWithin_headline
    rw [Text.linesWithin_of_breaks (unbroken record mem).headline, List.cons.injEq] at split
    rwa [split.1]
  · have last : OutcomeKind.ofLines [r.closingLine] = [] := by
      rw [OutcomeKind.ofLines, List.filterMap_cons_none r.ofLine?_closingLine, List.filterMap_nil]
    rw [lines_text, OutcomeKind.ofLines_append, last, List.append_nil,
      OutcomeKind.ofLines_flatMap unbroken]

/-- A failed case with a diagnostic of two lines and a warning of one. -/
def rejected : Report :=
  { records :=
      [{ test := "connect", case := ⟨3, [⟨"client", "dev"⟩]⟩
         outcome := .fail "server rejected client\nin line 7", duration := .zero
         warnings := ["node: did not stop"], logs := [], logFiles := [] }]
    elapsed := .zero }

theorem text_of_rejected :
    (∀ record ∈ rejected.records, record.Unbroken) ∧
    Text.lines rejected.text = ["FAIL     connect[client=dev] (0.000s) - server rejected client",
      "         warning: node: did not stop", rejected.closingLine] ∧
    OutcomeKind.ofLines (Text.lines rejected.text) = [.fail] := by
  have unbroken : ∀ record ∈ rejected.records, record.Unbroken := by
    intro record mem
    rw [List.mem_singleton.1 mem]
    exact ⟨by simp, by simp, by simp⟩
  obtain ⟨layout, -, kinds⟩ := (text_layout rejected).2.2.2 unbroken
  refine ⟨unbroken, ?_, kinds⟩
  have record : (rejected.records.flatMap fun record => withoutReturn record.headline ::
      record.warnings.map fun warning => withoutReturn (CaseRecord.warningLine warning)) =
        ["FAIL     connect[client=dev] (0.000s) - server rejected client",
          "         warning: node: did not stop"] := by
    decide +kernel
  rw [layout, record]
  rfl

/-- A passed case with a warning of two lines, of which the second one looks like a record. -/
def forged : Report :=
  { records :=
      [{ test := "stop", case := ⟨0, []⟩, outcome := .pass, duration := .zero
         warnings := ["node: lost\nFAIL     stop[#1]"], logs := [], logFiles := [] }]
    elapsed := .zero }

/-- Two records and one warning are read from the text of one record with one warning. -/
theorem text_of_forged :
    forged.records.length + forged.warningCount + 1 = 3 ∧
    Text.lines forged.text = ["PASS     stop[#0] (0.000s)", "         warning: node: lost",
      "FAIL     stop[#1]", forged.closingLine] ∧
    OutcomeKind.ofLines (Text.lines forged.text) = [.pass, .fail] := by
  have shown : Text.lines forged.text = ["PASS     stop[#0] (0.000s)",
      "         warning: node: lost", "FAIL     stop[#1]", forged.closingLine] := by
    have record : (forged.records.flatMap fun record => record.lines.flatMap linesWithin) =
        ["PASS     stop[#0] (0.000s)", "         warning: node: lost", "FAIL     stop[#1]"] := by
      decide +kernel
    rw [lines_text, record]
    rfl
  refine ⟨rfl, shown, ?_⟩
  rw [shown]
  decide +kernel

end Report

end Interop
