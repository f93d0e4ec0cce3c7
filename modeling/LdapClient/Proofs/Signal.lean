/-
# LdapClient.Proofs.Signal -- failures arrive as they were sent

A signal puts a code in front of a message, in decimal and with a colon between the two.  A written
number holds no colon, so the first colon of the signal is that one, whatever the message looks
like: `toFailure_withCode` gives back the code and the message, or the whole text if no result code
is that large.

Results of a server come up through the same signals, which is `Wire.answer_failing`.  The main
statement is `coded_failure_arrives`.
-/
import LdapClient.Proofs.Text.Decimal
import LdapClient.Wire.Message

namespace LdapClient

open Text

/-! ## Signals with a code -/

namespace Signal

theorem cutOnce_withCode (n : Int) (message : String) :
    cutOnce ':' (withCode n message).text.toList =
      some ((Decimal.ofInt n).toList, message.toList) := by
  have htext : (withCode n message).text.toList =
      (Decimal.ofInt n).toList ++ ':' :: message.toList := by
    rw [withCode, String.toList_append, String.toList_append, List.append_assoc]
    rfl
  have hcolon : ':' ∉ (Decimal.ofInt n).toList :=
    Decimal.not_mem_ofInt (by decide) (by decide)
  rw [htext, cutOnce_append hcolon]

theorem code?_ofInt (n : Int) : code? (Decimal.ofInt n).toList = ResultCode.ofInt? n := by
  rw [code?, Decimal.signed?_ofInt]
  rfl

/-- A code that is a result code comes out with exactly its message.  A larger one is none, and then
the whole text is the message. -/
theorem toFailure_withCode (n : Int) (message : String) :
    (withCode n message).toFailure =
      match ResultCode.ofInt? n with
      | some code => ⟨code, message⟩
      | none => ⟨.unknown, Decimal.ofInt n ++ ":" ++ message⟩ := by
  simp only [toFailure, cutOnce_withCode, code?_ofInt, String.ofList_toList]
  rfl

end Signal

theorem ResultCode.ofInt?_of_fits {n : Int} (h : -2147483648 ≤ n ∧ n ≤ 2147483647) :
    ofInt? n = some ⟨n, h.1, h.2⟩ :=
  dif_pos h

theorem ResultCode.ofInt?_eq_none {n : Int} (h : ¬ (-2147483648 ≤ n ∧ n ≤ 2147483647)) :
    ofInt? n = none :=
  dif_neg h

/-! ## Results of a server -/

namespace Wire

/-- A result that is no success fails the call, whichever it is, with its code and its text; where
there is no text, with what the code means. -/
theorem answer_failing (call : SessionCall) {code : Nat} (text : String)
    (entries : List WireEntry) (hfailing : code ≠ 0) (hfits : code ≤ 2147483647) :
    ∃ signal, Response.answer call (.result code text entries) = .error signal ∧
      signal.toFailure.code.value = code ∧
      signal.toFailure.message =
        if text = "" then signal.toFailure.code.description else text := by
  have hcode : ResultCode.ofInt? code = some ⟨code, by omega, by omega⟩ :=
    ResultCode.ofInt?_of_fits ⟨by omega, by omega⟩
  have hfailure : (resultSignal code text).toFailure =
      ⟨⟨code, by omega, by omega⟩,
        if text.isEmpty then ResultCode.description ⟨code, by omega, by omega⟩ else text⟩ := by
    rw [resultSignal, Signal.toFailure_withCode, hcode]
    rfl
  refine ⟨resultSignal code text, if_neg hfailing, ?_, ?_⟩
  · rw [hfailure]
  · simp only [hfailure, String.isEmpty_iff]

end Wire

/-! ## Both -/

/-- Whatever the code and the message are, a signal with a code is read as this code and exactly this
message if the code fits in 32 bits, and as a failure without a code and with the whole text
otherwise.  So a result of a server that is no success, whichever call it answers, arrives with its
code and exactly its text, or with the meaning of its code where it has no text. -/
theorem coded_failure_arrives (n : Int) (message : String) (call : SessionCall) (code : Nat)
    (text : String) (entries : List Wire.WireEntry) :
    (let failure := (Signal.withCode n message).toFailure
      if -2147483648 ≤ n ∧ n ≤ 2147483647 then
        failure.code.value = n ∧ failure.message = message
      else
        failure.code = .unknown ∧ failure.message = Decimal.ofInt n ++ ":" ++ message) ∧
    (code ≠ 0 → code ≤ 2147483647 →
      ∃ signal, Wire.Response.answer call (.result code text entries) = .error signal ∧
        signal.toFailure.code.value = code ∧
        signal.toFailure.message =
          if text = "" then signal.toFailure.code.description else text) := by
  refine ⟨?_, Wire.answer_failing call text entries⟩
  intro failure
  have hread : failure = _ := Signal.toFailure_withCode n message
  split
  · rename_i hfits
    rw [hread, ResultCode.ofInt?_of_fits hfits]
    exact ⟨rfl, rfl⟩
  · rename_i hlarge
    rw [hread, ResultCode.ofInt?_eq_none hlarge]
    exact ⟨rfl, rfl⟩

/-- A text that begins like another signal is kept as it is, and so is the least of all codes. -/
theorem diagnostic_kept :
    (Signal.withCode (-2147483648) "32:x").toFailure.message = "32:x" ∧
      ∃ signal,
        Wire.Response.answer (.delete "cn=a") (.result 49 "80090308: LdapErr" []) =
          .error signal ∧
        signal.toFailure.code.value = 49 ∧ signal.toFailure.message = "80090308: LdapErr" := by
  obtain ⟨hsignal, hanswer⟩ := coded_failure_arrives (-2147483648) "32:x" (.delete "cn=a") 49
    "80090308: LdapErr" []
  obtain ⟨signal, hfailing, hcode, hmessage⟩ := hanswer (by decide) (by decide)
  rw [if_pos (by decide)] at hsignal
  rw [if_neg (by decide)] at hmessage
  exact ⟨hsignal.2, signal, hfailing, hcode, hmessage⟩

end LdapClient
