import Interop.Proofs.Descriptor.Decoding
import Interop.Proofs.Text.Trimming

/-!
# Reading versions

A text is read as a version by its token, which is what trimming leaves of it.  Reading fails
for exactly two reasons, and otherwise the token and the version tell each other: the version is
written as its token, what is written is read back, and versions are the same just when their
tokens are.
-/

namespace Interop

namespace Version

open Text (trim isBlank)

private theorem parse_eq_empty {s : String} : parse s = .error .empty ↔ trim s = "" := by
  simp only [parse]
  split
  · next none => simpa using none
  · next filled =>
      split <;> simpa using filled

private theorem parse_eq_whitespace {s text : String} :
    parse s = .error (.whitespace text) ↔
      text = trim s ∧ text ≠ "" ∧ ∃ c ∈ text.toList, isBlank c = true := by
  simp only [parse]
  split
  · next none =>
      constructor
      · rintro ⟨⟩
      · rintro ⟨rfl, filled, -⟩
        exact absurd (by simpa using none) filled
  split
  · next filled inside =>
      constructor
      · rintro ⟨⟩
        exact ⟨rfl, by simpa using filled, List.any_eq_true.1 inside⟩
      · rintro ⟨rfl, -, -⟩
        rfl
  · next filled solid =>
      constructor
      · rintro ⟨⟩
      · rintro ⟨rfl, -, inside⟩
        exact absurd (List.any_eq_true.2 inside) solid

private theorem exists_parse_eq_ok {s : String} : (∃ v, parse s = .ok v) ↔ IsToken (trim s) := by
  simp only [parse_eq_ok]
  exact ⟨fun ⟨_, token, _⟩ => token, fun token => ⟨_, token, rfl⟩⟩

private theorem text_of_parse {s : String} {v : Version}
    (read : parse s = .ok v) : v.text = trim s := by
  obtain ⟨-, rfl⟩ := parse_eq_ok.1 read
  exact text_ofToken _

private theorem IsParsed.eq_iff {v w : Version} (parsed : v.IsParsed) (parsed' : w.IsParsed) :
    v = w ↔ v.text = w.text := by
  constructor
  · exact congrArg text
  · intro same
    rw [← (isParsed_iff.1 parsed).2, same, (isParsed_iff.1 parsed').2]

/-- What reading a text gives, for which reasons it fails, and how versions are told apart. -/
theorem parse_reads (s : String) :
    -- Trimming takes exactly the blank characters at the two ends.
    (∃ before after, s.toList = before ++ (trim s).toList ++ after ∧
      (∀ c ∈ before, isBlank c = true) ∧ ∀ c ∈ after, isBlank c = true) ∧
    (∀ c, (trim s).toList.head? = some c ∨ (trim s).toList.getLast? = some c →
      isBlank c = false) ∧
    -- Reading fails when nothing is left or something blank is inside.
    (parse s = .error .empty ↔ ∀ c ∈ s.toList, isBlank c = true) ∧
    (∀ text, parse s = .error (.whitespace text) ↔
      text = trim s ∧ text ≠ "" ∧ ∃ c ∈ text.toList, isBlank c = true) ∧
    ((∃ v, parse s = .ok v) ↔ trim s ≠ "" ∧ ∀ c ∈ (trim s).toList, isBlank c = false) ∧
    -- Otherwise the version is written as the trimmed text, and read back from that.
    (∀ v, parse s = .ok v →
      v.text = trim s ∧ parse v.text = .ok v ∧
      v.toJson = .str (trim s) ∧ ofJson? v.toJson = some v) ∧
    -- Two texts are read as the same version when trimming leaves the same of them.
    (∀ other v w, parse s = .ok v → parse other = .ok w → (v = w ↔ trim s = trim other)) ∧
    ∀ v w : Version, v.IsParsed → w.IsParsed → (v = w ↔ v.text = w.text) := by
  refine ⟨?_, ?_, parse_eq_empty.trans Text.trim_eq_empty, fun text => parse_eq_whitespace,
    exists_parse_eq_ok.trans ?_, ?_, ?_, ?_⟩
  · rw [Text.toList_trim]
    exact Text.exists_append_trimChars s.toList
  · rw [Text.toList_trim]
    rintro c (first | last)
    · exact Text.head?_trimChars c first
    · exact Text.getLast?_trimChars c last
  · exact ⟨fun ⟨filled, solid⟩ => ⟨filled, solid⟩, fun ⟨filled, solid⟩ => ⟨filled, solid⟩⟩
  · intro v read
    have parsed : v.IsParsed := ⟨s, read⟩
    have token := text_of_parse read
    exact ⟨token, parse_text_iff.2 parsed, congrArg Json.str token, ofJson?_toJson parsed⟩
  · intro other v w read read'
    rw [IsParsed.eq_iff ⟨s, read⟩ ⟨other, read'⟩, text_of_parse read, text_of_parse read']
  · exact fun v w => IsParsed.eq_iff

example : parse "\u3000dev\n" = .ok .dev := by decide +kernel

example : parse " 2.16\u2028rc" = .error (.whitespace "2.16\u2028rc") := by decide +kernel

end Version

end Interop
