import EventFeed.Proofs.Connection.Encoding
import EventFeed.Settings.Load
import Mathlib

/-!
# Tokens that reach the server

A server is not told the fragment of an address, and it finds the token in the query, as the value
of the last parameter. `presented?` is what it finds there. A token is put at the end of an
address, so it is in the query only if the base address has no fragment; otherwise nothing of the
token is told to the server, whatever the token is. The main result is `token_presented_iff`.
-/

namespace EventFeed.Connection.Address

/-- What a server is told of an address: all that stands before the fragment. -/
def requested (url : String) : List Char := url.toList.takeWhile (· ≠ '#')

/-- What stands before the first `=` of a parameter. -/
def parameterName (parameter : List Char) : List Char := parameter.takeWhile (· ≠ '=')

/-- What the text after the first `=` of a parameter says. -/
def parameterValue? (parameter : List Char) : Option String := (after? '=' parameter).bind decoded?

/-- The value of the last parameter of the query, if that parameter is named `token`. -/
def presented? (url : String) : Option String :=
  (parameters url).getLast?.bind fun p ↦
    if parameterName p = ['t', 'o', 'k', 'e', 'n'] then parameterValue? p else none

section Requested

variable {base url url' : String} {token : Token}

theorem query?_eq (url : String) : query? url = after? '?' (requested url) := rfl

/-- The query is part of what the server is told. -/
theorem presented?_congr (h : requested url = requested url') :
    presented? url = presented? url' := by
  rw [presented?, presented?, parameters, parameters, query?_eq, query?_eq, h]

theorem requested_withToken_of_fragment (hhash : '#' ∈ base.toList) (token : Option Token) :
    requested (withToken base token) = requested base := by
  cases token with
  | none => rfl
  | some token =>
      by_cases hempty : token.secret = ""
      · rw [withToken, if_pos hempty]
      · rw [requested, toList_withToken hempty, takeWhile_append_of_mem hhash, requested]

theorem parameterName_tokenParameter (token : Token) :
    parameterName (tokenParameter token) = ['t', 'o', 'k', 'e', 'n'] := by
  have hname : '=' ∉ ['t', 'o', 'k', 'e', 'n'] := by decide
  exact takeWhile_append_cons hname (percentEncode token.secret)

theorem parameterValue?_tokenParameter (token : Token) :
    parameterValue? (tokenParameter token) = some token.secret := by
  have hname : '=' ∉ ['t', 'o', 'k', 'e', 'n'] := by decide
  have hafter : after? '=' (tokenParameter token) = some (percentEncode token.secret) :=
    after?_append_cons hname (percentEncode token.secret)
  rw [parameterValue?, hafter, Option.bind_some, decoded?_percentEncode]

theorem presented?_withToken (hhash : '#' ∉ base.toList) (h : token.secret ≠ "") :
    presented? (withToken base (some token)) = some token.secret := by
  have hlast : (parameters (withToken base (some token))).getLast? =
      some (tokenParameter token) := by
    rw [parameters_withToken h, if_neg hhash, List.getLast?_concat]
  rw [presented?, hlast, Option.bind_some, if_pos (parameterName_tokenParameter token),
    parameterValue?_tokenParameter]

/-- Every token that is not empty is what the server finds in the query, exactly if the base address
has no fragment. If it has one, the server is told the base address alone, whatever the token. -/
theorem token_presented_iff (base : String) :
    ((∀ token : Token, token.secret ≠ "" →
        presented? (withToken base (some token)) = some token.secret) ↔ '#' ∉ base.toList) ∧
      ('#' ∈ base.toList → ∀ token, requested (withToken base token) = requested base) := by
  refine ⟨⟨fun hall hhash ↦ ?_, fun hhash token ↦ presented?_withToken hhash⟩,
    requested_withToken_of_fragment⟩
  -- Two tokens that the server is told alike cannot both be found.
  have hsame : requested (withToken base (some ⟨"a"⟩)) =
      requested (withToken base (some ⟨"b"⟩)) := by
    rw [requested_withToken_of_fragment hhash, requested_withToken_of_fragment hhash]
  have hpresented := presented?_congr hsame
  rw [hall ⟨"a"⟩ (by decide), hall ⟨"b"⟩ (by decide)] at hpresented
  exact absurd hpresented (by decide)

/-- The query of the base address has a parameter of the same name, and a mark that is cut at. -/
theorem second_token_presented :
    '#' ∉ "wss://h/ws?token=old&q=?".toList ∧
      presented? (withToken "wss://h/ws?token=old&q=?" (some ⟨"&#=%\xe9"⟩)) =
        some "&#=%\xe9" := by
  have hhash : '#' ∉ "wss://h/ws?token=old&q=?".toList := by decide
  obtain ⟨hiff, -⟩ := token_presented_iff "wss://h/ws?token=old&q=?"
  exact ⟨hhash, hiff.2 hhash ⟨"&#=%\xe9"⟩ (by decide)⟩

/-- Settings with this address pass their check, but the server is not told the token. -/
theorem fragment_takes_token :
    let s : Settings := { Settings.default with
      client := { Settings.Client.default with url := "ws://h/ws#a" } }
    Settings.check s = .ok () ∧
      withToken s.client.url (some ⟨"t"⟩) = "ws://h/ws#a?token=t" ∧
      presented? (withToken s.client.url (some ⟨"t"⟩)) = none := by
  exact ⟨by rfl, by decide, by rfl⟩

end Requested

end EventFeed.Connection.Address
