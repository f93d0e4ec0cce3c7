/-
# LdapClient.Proofs.Connection.Rename -- what a rename takes for a relative name

A rename looks for something before and something behind the first equals sign of the new relative
name.  If that is there, the text is sent as it is written, and else it is refused without a call
(`rename_course`).  So no relative name is ever refused, but this is not all that reading a relative
name asks for: commas, plus signs and backslashes are not looked at.

The main statement is `rename_sent_iff`, which puts the two side by side for every text;
`ill_formed_names_sent` has texts that are sent although they are no relative names.
-/
import LdapClient.Proofs.Connection.Move
import LdapClient.Proofs.Dn.Relative

namespace LdapClient.Connection

open Dialogue Text

variable {c : Connection} {session : SessionId} {dn newRdn : String} {n m : Nat}
  {events : List Event} {result : Except Failure Unit}

theorem isRdn_iff : isRdn newRdn = true ↔ Dn.IsTypeValue newRdn.toList := by
  unfold isRdn
  constructor
  · split
    · exact fun h => absurd h Bool.false_ne_true
    · rename_i type value hcut
      obtain ⟨htext, hfirst⟩ := cutOnce_eq_some.mp hcut
      intro h
      simp only [Bool.and_eq_true, Bool.not_eq_true', List.isEmpty_eq_false_iff] at h
      exact ⟨type, value, htext, hfirst, trim_ne_nil_iff.mp h.1, trim_ne_nil_iff.mp h.2⟩
  · rintro ⟨type, value, htext, hfirst, htype, hvalue⟩
    rw [cutOnce_eq_some.mpr ⟨htext, hfirst⟩]
    simp [trim_ne_nil htype, trim_ne_nil hvalue]

/-! ## Courses of a rename -/

/-- All that a rename can do on a held session. -/
inductive RenameCourse (c : Connection) (session : SessionId) (dn newRdn : String) :
    List Event → Except Failure Unit → Prop
  | refused (h : ¬ Dn.IsTypeValue newRdn.toList) :
      RenameCourse c session dn newRdn [] (Refusal.malformedRdn newRdn).refuse
  /-- The new relative name is sent as it is written. -/
  | sent (h : Dn.IsTypeValue newRdn.toList) (answer : Except Signal Unit)
      {result : Except Failure Unit} (hresult : result = answer.mapError Signal.toFailure) :
      RenameCourse c session dn newRdn
        [relocating session (.inPlace dn newRdn true) answer, c.ending "modify_dn" result] result

theorem rename_course (hs : c.heldSession = .ok session)
    (h : (c.rename dn newRdn).Admits n events result m) :
    RenameCourse c session dn newRdn events result := by
  unfold rename at h
  split at h
  · rename_i hrdn
    obtain ⟨_, rfl, hused⟩ := withSession_held hs h
    obtain ⟨answer, rfl, hresult, rfl⟩ := admits_call.mp hused
    exact .sent (isRdn_iff.mp hrdn) answer hresult
  · rename_i hrdn
    obtain ⟨rfl, rfl, rfl⟩ := admits_done.mp h
    exact .refused (mt isRdn_iff.mpr hrdn)

namespace RenameCourse

theorem sent_iff (h : RenameCourse c session dn newRdn events result) :
    (∃ answer, relocating session (.inPlace dn newRdn true) answer ∈ events) ↔
      Dn.IsTypeValue newRdn.toList := by
  cases h with
  | refused h => exact iff_of_false (fun ⟨_, hmem⟩ => List.not_mem_nil hmem) h
  | sent h answer => exact iff_of_true ⟨answer, List.mem_cons_self⟩ h

/-- A request is all that is asked, and its answer is the result. -/
theorem eq_of_sent (h : RenameCourse c session dn newRdn events result)
    (hsent : Dn.IsTypeValue newRdn.toList) :
    ∃ answer : Except Signal Unit, result = answer.mapError Signal.toFailure ∧
      events = [relocating session (.inPlace dn newRdn true) answer,
        c.ending "modify_dn" result] := by
  cases h with
  | refused h => exact absurd hsent h
  | sent _ answer hresult => exact ⟨answer, hresult, rfl⟩

theorem eq_of_not_sent (h : RenameCourse c session dn newRdn events result)
    (hnot : ¬ Dn.IsTypeValue newRdn.toList) :
    events = [] ∧ ∃ failure, result = .error failure ∧ failure.code.value = 89 := by
  cases h with
  | refused => exact ⟨rfl, _, rfl, rfl⟩
  | sent h => exact absurd h hnot

end RenameCourse

/-! ## Relative names and what is sent -/

/-- Whatever is renamed on a bound connection, whatever the new relative name is, and whatever the
session answers: one request with the name as it is written is sent if something stands before and
something behind its first equals sign, and the answer is the result; otherwise nothing is asked and
the result is the failure 89.  A text is one relative name if and only if no comma stands in it
without an escape, no escape is left open and all its parts are assertions (`IsSingle`).  Every such
text is sent, and of the texts without comma, plus sign and backslash no other is. -/
theorem rename_sent_iff {σ : Type} (env : Environment σ) (standing : Standing σ)
    (hphase : c.phase = .bound) (hsession : c.state.session = some session)
    (dn newRdn : String) :
    let outcome := (c.rename dn newRdn).run env standing
    let Sent := ∃ answer, relocating session (.inPlace dn newRdn true) answer ∈ outcome.events
    (Sent ↔ Dn.IsTypeValue newRdn.toList) ∧
    (Sent → ∃ answer : Except Signal Unit, outcome.value = answer.mapError Signal.toFailure ∧
      outcome.events = [relocating session (.inPlace dn newRdn true) answer,
        c.ending "modify_dn" outcome.value]) ∧
    (¬ Sent → outcome.events = [] ∧
      ∃ failure, outcome.value = .error failure ∧ failure.code.value = 89) ∧
    (Dn.IsRelative newRdn ↔ Dn.IsSingle newRdn.toList) ∧
    (Dn.IsRelative newRdn → Sent) ∧
    ((∀ char ∈ newRdn.toList, char ∉ [',', '+', '\\']) → (Sent ↔ Dn.IsRelative newRdn)) := by
  intro outcome Sent
  have hcourse : RenameCourse c session dn newRdn outcome.events outcome.value :=
    rename_course (heldSession_of_bound hphase hsession) (run_admits env _ standing)
  have hsent : Sent ↔ Dn.IsTypeValue newRdn.toList := hcourse.sent_iff
  have hrelative : Dn.IsRelative newRdn → Sent := fun h =>
    hsent.mpr (Dn.isRelative_iff.mp h).isTypeValue
  refine ⟨hsent, fun h => hcourse.eq_of_sent (hsent.mp h),
    fun h => hcourse.eq_of_not_sent (mt hsent.mpr h), Dn.isRelative_iff, hrelative, ?_⟩
  intro hplain
  exact ⟨fun h => Dn.isRelative_iff.mpr ((hsent.mp h).isSingle hplain), hrelative⟩

/-- A relative name of two parts with an escaped comma is sent. -/
theorem two_part_name_sent :
    let c : Connection :=
      ⟨⟨"ldap://ds1", .ldap, "ds1", none⟩, {}, "",
        ⟨.bound, some 0, false, some ⟨.simple, .plain, "ldap://ds1"⟩⟩⟩
    let newRdn := " cn=a\\, b + uid=1 "
    let outcome := (c.rename "cn=c,dc=org" newRdn).run obliging ⟨(), 1⟩
    c.phase = .bound ∧ c.state.session = some 0 ∧ Dn.IsRelative newRdn ∧
      ∃ answer, relocating 0 (.inPlace "cn=c,dc=org" newRdn true) answer ∈ outcome.events := by
  intro c newRdn outcome
  have hparse : Dn.parse " cn=a\\, b + uid=1 " =
      .ok ⟨[⟨"cn=a\\, b + uid=1".toList,
        [⟨"cn".toList, "a\\, b".toList⟩, ⟨"uid".toList, "1".toList⟩]⟩]⟩ := rfl
  have hrelative : Dn.IsRelative newRdn := ⟨_, hparse⟩
  have hsent := rename_sent_iff obliging ⟨(), 1⟩ (c := c) rfl rfl "cn=c,dc=org" newRdn
  exact ⟨rfl, rfl, hrelative, hsent.2.2.2.2.1 hrelative⟩

/-- A text is sent although a backslash stands in front of its equals sign, although its second part
is no assertion, although it is a name of two relative names, and although it ends inside an
escape. -/
theorem ill_formed_names_sent :
    let c : Connection :=
      ⟨⟨"ldap://ds1", .ldap, "ds1", none⟩, {}, "",
        ⟨.bound, some 0, false, some ⟨.simple, .plain, "ldap://ds1"⟩⟩⟩
    ∀ newRdn ∈ ["c\\n=a", "cn=a+b", "cn=a,dc=org", "cn=a\\"],
      let outcome := (c.rename "cn=c,dc=org" newRdn).run obliging ⟨(), 1⟩
      ¬ Dn.IsRelative newRdn ∧ outcome.value = .ok () ∧
        outcome.events = [relocating 0 (.inPlace "cn=c,dc=org" newRdn true) (.ok ()),
          c.note .debug "modify_dn on ldap://ds1: ok"] := by
  intro c newRdn hmem
  have htype : Dn.parse "c\\n=a" = .error (.component "c\\n=a") := rfl
  have hpart : Dn.parse "cn=a+b" = .error (.component "b") := rfl
  have hcomma : Dn.parse "cn=a,dc=org" =
      .ok ⟨[⟨"cn=a".toList, [⟨"cn".toList, "a".toList⟩]⟩,
        ⟨"dc=org".toList, [⟨"dc".toList, "org".toList⟩]⟩]⟩ := rfl
  have hopen : Dn.parse "cn=a\\" = .error .unterminatedEscape := rfl
  simp only [List.mem_cons, List.not_mem_nil, or_false] at hmem
  rcases hmem with rfl | rfl | rfl | rfl
  · refine ⟨?_, rfl, rfl⟩
    rintro ⟨rdn, h⟩
    cases htype.symm.trans h
  · refine ⟨?_, rfl, rfl⟩
    rintro ⟨rdn, h⟩
    cases hpart.symm.trans h
  · refine ⟨?_, rfl, rfl⟩
    rintro ⟨rdn, h⟩
    cases hcomma.symm.trans h
  · refine ⟨?_, rfl, rfl⟩
    rintro ⟨rdn, h⟩
    cases hopen.symm.trans h

end LdapClient.Connection
