/-
# LdapClient.Proofs.Rendering -- reading a failure off its line

A failure is shown as its code, the quoted meaning of the code and the message.  Quoting writes every
character that would not show up as itself as an escape, but the meanings in the registry hold no
such characters, so each stands between the quotes as it is (`quoted_description`).

The code ends at the first blank behind the fixed words.  With the code its meaning is known, and
what stands behind that is the message, whatever it looks like: `ofDisplay?_display` reads the
failure back.  So failures that are shown alike are equal, and a line can be read by whoever knows
what was put in front of the failure.  The main statement is `display_faithful`.
-/
import LdapClient.Failure
import LdapClient.Proofs.BareSignal
import Mathlib.Data.List.Basic

namespace LdapClient

open Text

/-! ## Quoting plain text -/

namespace Text

/-- An ASCII character that shows up as itself between quotes. -/
def isShown (c : Char) : Bool :=
  0x20 ≤ c.toNat && c.toNat < 0x7F && c != '\\' && c != '"'

theorem escapeChar_of_isShown {c : Char} (h : isShown c = true) : escapeChar c = [c] := by
  simp only [isShown, Bool.and_eq_true, decide_eq_true_eq, bne_iff_ne] at h
  obtain ⟨⟨⟨hlow, hhigh⟩, hbackslash⟩, hquote⟩ := h
  have hcontrol (control : Char) (hcontrol : control.toNat < 0x20) : c ≠ control := by
    rintro rfl
    omega
  rw [escapeChar, if_neg (hcontrol _ (by decide)), if_neg (hcontrol _ (by decide)),
    if_neg (hcontrol _ (by decide)), if_neg (hcontrol _ (by decide)), if_neg hbackslash,
    if_neg hquote, if_pos]
  simp [hlow, hhigh]

/-- No such character is escaped. -/
theorem quoted_of_isShown {chars : List Char} (h : chars.all isShown = true) :
    quoted (String.ofList chars) = "\"" ++ String.ofList chars ++ "\"" := by
  have hsame : chars.flatMap escapeChar = chars := by
    rw [List.flatMap_congr fun c hc => escapeChar_of_isShown (List.all_eq_true.mp h c hc)]
    exact List.flatMap_singleton' chars
  apply String.toList_inj.mp
  rw [quoted, String.toList_ofList, String.toList_ofList, hsame]
  simp

end Text

/-- A registered meaning is a literal, so its characters are given: they need not be decoded to be
looked at. -/
theorem ResultCode.isShown_registry :
    ∀ registered ∈ registry, ∃ chars, registered.description = String.ofList chars ∧
      chars.all isShown = true := by
  simp only [registry, List.forall_mem_cons]
  repeat' apply And.intro
  all_goals first | exact ⟨_, rfl, by decide⟩ | simp

theorem ResultCode.quoted_description (code : ResultCode) :
    quoted code.description = "\"" ++ code.description ++ "\"" := by
  obtain ⟨chars, hchars, hshown⟩ : ∃ chars, code.description = String.ofList chars ∧
      chars.all isShown = true := by
    unfold description
    split
    · rename_i registered hfound
      exact isShown_registry registered (List.mem_of_find?_eq_some hfound)
    · exact ⟨[], rfl, rfl⟩
  rw [hchars]
  exact quoted_of_isShown hshown

/-! ## Reading -/

namespace Failure

/-- The words in front of the code. -/
def frontWords : List Char :=
  "LDAP Result Code ".toList

/-- What stands between the code and the message. -/
def middleWords (code : ResultCode) : List Char :=
  (quoted code.description ++ ": ").toList

/-- Reads a failure as it is shown: the code up to the first blank behind the words in front, and
the message behind what the code means. -/
def ofDisplay? (shown : List Char) : Option Failure := do
  let rest ← shown.dropPrefix? frontWords
  let (number, rest) ← cutOnce ' ' rest
  let code ← Signal.code? number
  let message ← rest.dropPrefix? (middleWords code)
  return ⟨code, String.ofList message⟩

/-- Reads the failure off a line with this heading. -/
def ofLine? (heading line : String) : Option Failure :=
  (line.toList.dropPrefix? heading.toList).bind ofDisplay?

theorem toList_display (failure : Failure) :
    failure.display.toList = frontWords ++ ((Decimal.ofInt failure.code.value).toList ++
      ' ' :: (middleWords failure.code ++ failure.message.toList)) := by
  have hblank : " ".toList = [' '] := by decide
  unfold display ResultCode.display frontWords middleWords
  simp only [String.toList_append, List.append_assoc, hblank, List.cons_append, List.nil_append]

theorem dropPrefix?_append (front rest : List Char) :
    (front ++ rest).dropPrefix? front = some rest :=
  List.dropPrefix?_append_of_beq rest (beq_self_eq_true front)

/-- A failure that is shown is read back. -/
theorem ofDisplay?_display (failure : Failure) :
    ofDisplay? failure.display.toList = some failure := by
  have hblank : ' ' ∉ (Decimal.ofInt failure.code.value).toList :=
    Decimal.not_mem_ofInt (by decide) (by decide)
  have hcode : Signal.code? (Decimal.ofInt failure.code.value).toList = some failure.code := by
    rw [Signal.code?, Decimal.signed?_ofInt]
    exact ResultCode.ofInt?_eq_some_iff.mpr rfl
  rw [toList_display]
  simp only [ofDisplay?, dropPrefix?_append, cutOnce_append hblank, hcode, Option.bind_eq_bind,
    Option.bind_some, String.ofList_toList]
  rfl

/-- A failure can be read off a line by whoever knows the heading. -/
theorem ofLine?_append (heading : String) (failure : Failure) :
    ofLine? heading (heading ++ failure.display) = some failure := by
  rw [ofLine?, String.toList_append, dropPrefix?_append, Option.bind_some]
  exact ofDisplay?_display failure

theorem display_injective : Function.Injective display := by
  intro a b heq
  have hread := ofDisplay?_display a
  rw [heq, ofDisplay?_display b] at hread
  exact (Option.some.inj hread).symm

end Failure

/-- Whatever its code and its message are, a failure is shown as the fixed words, the code in
decimal, a blank, the registered meaning between quotes with every character of it as it is, a colon,
a blank and the message as it is.  Failures that are shown alike are equal.  Behind any heading, the
code and the message can be read off the line again. -/
theorem display_faithful (failure : Failure) :
    failure.display = "LDAP Result Code " ++ Decimal.ofInt failure.code.value ++ " \"" ++
      failure.code.description ++ "\": " ++ failure.message ∧
    (∀ other : Failure, other.display = failure.display ↔ other = failure) ∧
    ∀ heading : String, Failure.ofLine? heading (heading ++ failure.display) = some failure := by
  refine ⟨?_, fun other => Failure.display_injective.eq_iff, fun heading => ?_⟩
  · have hopen : " \"" = " " ++ "\"" := by decide
    have hclose : "\": " = "\"" ++ ": " := by decide
    unfold Failure.display ResultCode.display
    rw [ResultCode.quoted_description, hopen, hclose]
    simp only [String.append_assoc]
  · exact Failure.ofLine?_append heading failure

example : (Failure.mk .noSuchObject "no \"cn=a\"").display =
    "LDAP Result Code 32 \"No Such Object\": no \"cn=a\"" := by
  decide

end LdapClient
