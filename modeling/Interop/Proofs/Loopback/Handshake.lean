import Interop.Service.Loopback
import Interop.Proofs.Version.Token

/-!
# Handshakes

Both sides of a handshake send one word with one version behind it.  A version that was read from a
text has nothing blank in it, so trimming the line leaves it as it is, and the word is followed by
exactly this version.  The server therefore looks up the compatibility with the client's own
version, and the client understands every answer.
-/

namespace Interop

namespace Version

private theorem IsToken.exists_getLast {token : String} (valid : IsToken token) :
    ∃ c, token.toList.getLast? = some c ∧ Text.isBlank c = false := by
  have filled : token.toList ≠ [] := by simpa using valid.ne_empty
  exact ⟨_, List.getLast?_eq_some_getLast filled, valid.solid _ (List.getLast_mem filled)⟩

private theorem IsToken.lineFeed_not_mem {token : String} (valid : IsToken token) :
    '\n' ∉ token.toList := by
  intro mem
  have blank := valid.solid _ mem
  cases blank

end Version

namespace Handshake

/-! ## Lines of a handshake -/

structure IsWord (word : String) : Prop where
  bold : ∃ c rest, word.toList = c :: rest ∧ Text.isBlank c = false
  inner : '\n' ∉ word.toList

theorem isWord_hello : IsWord helloWord := ⟨⟨'H', _, rfl, rfl⟩, by decide⟩

theorem isWord_welcome : IsWord welcomeWord := ⟨⟨'W', _, rfl, rfl⟩, by decide⟩

theorem isWord_reject : IsWord rejectWord := ⟨⟨'R', _, rfl, rfl⟩, by decide⟩

theorem lineFeed_not_mem {word token : String} (lead : IsWord word)
    (valid : Version.IsToken token) : '\n' ∉ (word ++ token).toList := by
  rw [String.toList_append, List.mem_append]
  rintro (mem | mem)
  · exact lead.inner mem
  · exact valid.lineFeed_not_mem mem

private theorem trim_line {word token : String} (lead : IsWord word)
    (valid : Version.IsToken token) :
    Text.trim (word ++ token) = word ++ token := by
  apply Text.trim_of_ends
  · obtain ⟨c, rest, chars, bold⟩ := lead.bold
    rw [String.toList_append, chars]
    rintro _ ⟨⟩
    exact bold
  · obtain ⟨c, last, solid⟩ := valid.exists_getLast
    rw [String.toList_append, List.getLast?_append, last]
    rintro _ ⟨⟩
    exact solid

theorem readLine_line {word token : String} (lead : IsWord word) (valid : Version.IsToken token) :
    readLine (word ++ token ++ "\n") = word ++ token := by
  have single : ∀ c ∈ (word ++ token).toList, (c != '\n') = true := by
    intro c mem
    rw [bne_iff_ne]
    rintro rfl
    exact lineFeed_not_mem lead valid mem
  have cut : (word ++ token ++ "\n").toList.takeWhile (· != '\n') = (word ++ token).toList := by
    rw [String.toList_append, List.takeWhile_append_of_pos single]
    exact List.append_nil _
  rw [readLine, cut, String.ofList_toList, trim_line lead valid]

@[simp]
theorem after?_append (word rest : String) : after? word (word ++ rest) = some rest := by
  have begins : word.toList.isPrefixOf (word.toList ++ rest.toList) = true := by simp
  rw [after?, String.toList_append, Text.afterLead?, if_pos begins, List.drop_left,
    Option.map_some, String.ofList_toList]

private theorem after?_welcome_reject (rest : String) : after? welcomeWord
    (rejectWord ++ rest) = none := by
  have apart : welcomeWord.toList.isPrefixOf (rejectWord.toList ++ rest.toList) = false := rfl
  rw [after?, String.toList_append, Text.afterLead?, apart]
  rfl

/-! ## What the server hears -/

def question? (server : Version) (line : String) : Option (Version × Version) :=
  (after? helloWord line).bind fun text =>
    match Version.parse text with
    | .ok client => some (server, client)
    | .error _ => none

private theorem admits_eq (accepts : Compatibility) (server : Version) (line : String) :
    admits accepts server line =
      (question? server line).any fun versions => accepts versions.1 versions.2 := by
  unfold admits question?
  cases after? helloWord line with
  | none => rfl
  | some text =>
    simp only [Option.bind_some]
    cases Version.parse text with
    | ok client => rfl
    | error _ => rfl

section

variable {accepts : Compatibility} {server client : Version}

theorem question?_hello (parsed : client.IsParsed) :
    question? server (readLine (hello client)) = some (server, client) := by
  have token := parsed.isToken
  rw [hello, readLine_line isWord_hello token, question?, after?_append, Option.bind_some,
    Version.parse_text_iff.mpr parsed]

theorem reply_hello (parsed : client.IsParsed) :
    reply accepts server (hello client) =
      (if accepts server client then welcomeWord else rejectWord) ++ server.text ++ "\n" := by
  rw [reply, admits_eq, question?_hello parsed, Option.any_some]

/-! ## What the client concludes -/

def agreed (accepts : Compatibility) (server client : Version) : AppOutcome :=
  if accepts server client then .passed
  else .failed ("server " ++ server.text ++ " rejected client " ++ client.text)

theorem verdict_reply (serverParsed : server.IsParsed) (clientParsed : client.IsParsed) :
    verdict client (reply accepts server (hello client)) = agreed accepts server client := by
  have token := serverParsed.isToken
  rw [reply_hello clientParsed, agreed]
  -- its equation would have the words evaluated letter by letter
  delta verdict
  split
  · simp only [readLine_line isWord_welcome token, after?_append]
  · simp only [readLine_line isWord_reject token, after?_welcome_reject, after?_append]
    rfl

theorem agreed_eq_passed_iff :
    agreed accepts server client = .passed ↔ accepts server client = true := by
  unfold agreed
  split
  · next ok => simp [ok]
  · next no => simp [no]

end

end Handshake

end Interop
