/-
# LdapClient.Proofs.BareSignal -- texts that are no code and a message

A signal without a code is a text and nothing else, and the text alone says whether there is a code.
So a text that begins with a 32-bit number and a colon is taken for a coded signal, whoever wrote it:
its number becomes the code and its head is lost (`numbered_text_misread`).  Every other text is the
message of a failure without a code, and as it is.

The main statement is `bare_signal_kept_iff`.
-/
import LdapClient.Failure
import LdapClient.Proofs.Text.Decimal

namespace LdapClient

open Text

theorem ResultCode.ofInt?_eq_some_iff {n : Int} {code : ResultCode} :
    ofInt? n = some code ↔ code.value = n := by
  constructor
  · intro h
    unfold ofInt? at h
    split at h
    · cases h
      rfl
    · cases h
  · rintro rfl
    exact dif_pos ⟨code.lower, code.upper⟩

namespace Signal

variable {text message : String} {code : ResultCode} {front : List Char}

theorem code?_eq_some_iff : code? front = some code ↔ Decimal.Numeral front code.value := by
  unfold code?
  rw [Option.bind_eq_some_iff]
  constructor
  · rintro ⟨n, hread, hcode⟩
    obtain rfl := ResultCode.ofInt?_eq_some_iff.mp hcode
    exact Decimal.signed?_eq_some_iff.mp hread
  · intro h
    exact ⟨code.value, Decimal.signed?_eq_some_iff.mpr h, ResultCode.ofInt?_eq_some_iff.mpr rfl⟩

/-- The text is a number that is a result code, a colon and a message. -/
def IsCoded (text : String) (code : ResultCode) (message : String) : Prop :=
  ∃ front, Decimal.Numeral front code.value ∧ text.toList = front ++ ':' :: message.toList

/-- No number holds a colon, so the first colon of a coded text is the one behind the code. -/
theorem IsCoded.cutOnce_eq (h : IsCoded text code message) :
    ∃ front, cutOnce ':' text.toList = some (front, message.toList) ∧ code? front = some code := by
  obtain ⟨front, hnumeral, htext⟩ := h
  refine ⟨front, ?_, code?_eq_some_iff.mpr hnumeral⟩
  refine cutOnce_eq_some.mpr ⟨htext, fun hcolon => ?_⟩
  rcases hnumeral.mem hcolon with h | h | h
  · exact absurd h (by decide)
  · exact absurd h (by decide)
  · exact absurd h (by decide)

theorem toFailure_of_isCoded (h : IsCoded text code message) :
    (Signal.mk text).toFailure = ⟨code, message⟩ := by
  obtain ⟨front, hcut, hcode⟩ := h.cutOnce_eq
  simp only [toFailure, hcut, hcode, String.ofList_toList]

theorem toFailure_of_not_isCoded (h : ∀ code message, ¬ IsCoded text code message) :
    (Signal.mk text).toFailure = ⟨.unknown, text⟩ := by
  unfold toFailure
  split
  · rfl
  · rename_i front back hcut
    split
    · rename_i code hcode
      obtain ⟨htext, -⟩ := cutOnce_eq_some.mp hcut
      refine absurd ⟨front, code?_eq_some_iff.mp hcode, ?_⟩ (h code (String.ofList back))
      rw [String.toList_ofList]
      exact htext
    · rfl

/-- The message of a coded text is shorter than the text. -/
theorem IsCoded.ne (h : IsCoded text code message) : message ≠ text := by
  rintro rfl
  obtain ⟨front, -, htext⟩ := h
  have hlength := congrArg List.length htext
  simp only [List.length_append, List.length_cons] at hlength
  omega

end Signal

/-- Whatever text a signal is made of: it is read as a failure without a code, with exactly this text
as its message, if and only if it is not a 32-bit number, a colon and a message.  If it is, the
number is the code and the rest is the message.  If it is not, the failure is of the kind `unknown`,
so it is no success and comes neither from the server nor from the client. -/
theorem bare_signal_kept_iff (text : String) :
    let failure := (Signal.mk text).toFailure
    (failure = ⟨.unknown, text⟩ ↔ ∀ code message, ¬ Signal.IsCoded text code message) ∧
    (∀ code message, Signal.IsCoded text code message → failure = ⟨code, message⟩) ∧
    ((∀ code message, ¬ Signal.IsCoded text code message) →
      failure.code.value ≠ 0 ∧ failure.kind = .unknown) := by
  intro failure
  refine ⟨⟨?_, Signal.toFailure_of_not_isCoded⟩, fun _ _ => Signal.toFailure_of_isCoded, ?_⟩
  · intro hbare code message hcoded
    have hread : failure = ⟨code, message⟩ := Signal.toFailure_of_isCoded hcoded
    rw [hread] at hbare
    exact hcoded.ne (congrArg Failure.message hbare)
  · intro hnot
    have hread : failure = ⟨.unknown, text⟩ := Signal.toFailure_of_not_isCoded hnot
    rw [hread]
    have hcode : ResultCode.unknown.value ≠ 0 := by decide
    exact ⟨hcode, rfl⟩

/-- A number beyond 32 bits in front of a colon is no code. -/
theorem large_number_kept :
    let failure := (Signal.mk "2147483648:x").toFailure
    (∀ code message, ¬ Signal.IsCoded "2147483648:x" code message) ∧
      failure = ⟨.unknown, "2147483648:x"⟩ ∧ failure.code.value ≠ 0 ∧ failure.kind = .unknown := by
  intro failure
  obtain ⟨hiff, -, hkind⟩ := bare_signal_kept_iff "2147483648:x"
  have hread : failure = ⟨.unknown, "2147483648:x"⟩ := by decide
  have hnot := hiff.mp hread
  exact ⟨hnot, hread, hkind hnot⟩

/-- Four texts that begin with a number and a colon come out as a success, as a failure of the
server, as one of the client, and without their head. -/
theorem numbered_text_misread :
    (Signal.mk "0: all good").toFailure = ⟨⟨0, by decide, by decide⟩, " all good"⟩ ∧
      (Signal.mk "49:engine stopped").toFailure.kind = .protocol ∧
      (Signal.mk "+200:engine stopped").toFailure.kind = .clientLocal ∧
      (Signal.mk "-1:engine stopped").toFailure = ⟨.unknown, "engine stopped"⟩ := by
  decide

end LdapClient
