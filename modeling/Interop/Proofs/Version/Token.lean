import Interop.Proofs.Text.Trimming
import Interop.Version

/-!
# Tokens of versions

The versions that reading gives are those whose token is a text without blanks that stands for
them.  Such a token reads as its version again, also with something blank around it.
-/

namespace Interop

namespace Version

structure IsToken (token : String) : Prop where
  ne_empty : token ≠ ""
  solid : ∀ c ∈ token.toList, Text.isBlank c = false

@[simp]
theorem text_ofToken (token : String) : (ofToken token).text = token := by
  unfold ofToken
  split
  · next same => exact same.symm
  split
  · next same => exact same.symm
  · rfl

theorem parse_eq_ok {s : String} {v : Version} :
    parse s = .ok v ↔ IsToken (Text.trim s) ∧ ofToken (Text.trim s) = v := by
  simp only [parse]
  constructor
  · intro read
    split at read
    · cases read
    split at read
    · cases read
    next filled solid =>
    refine ⟨⟨by simpa using filled, ?_⟩, Except.ok.inj read⟩
    simpa using solid
  · rintro ⟨⟨filled, solid⟩, rfl⟩
    rw [if_neg (by simpa using filled), if_neg (by simpa using solid)]

/-- Reading gives this version for some text. -/
def IsParsed (v : Version) : Prop := ∃ s, parse s = .ok v

theorem isParsed_iff {v : Version} : v.IsParsed ↔ IsToken v.text ∧ ofToken v.text = v := by
  constructor
  · rintro ⟨s, read⟩
    obtain ⟨token, rfl⟩ := parse_eq_ok.mp read
    rw [text_ofToken]
    exact ⟨token, rfl⟩
  · rintro ⟨token, same⟩
    refine ⟨v.text, parse_eq_ok.mpr ?_⟩
    rw [Text.trim_of_solid token.solid]
    exact ⟨token, same⟩

theorem IsParsed.isToken {v : Version} (parsed : v.IsParsed) : IsToken v.text :=
  (isParsed_iff.mp parsed).1

theorem parse_text_iff {v : Version} : parse v.text = .ok v ↔ v.IsParsed := by
  constructor
  · exact fun read => ⟨v.text, read⟩
  · intro parsed
    obtain ⟨token, same⟩ := isParsed_iff.mp parsed
    rw [parse_eq_ok, Text.trim_of_solid token.solid]
    exact ⟨token, same⟩

end Version

end Interop
