/-
# LdapClient.Proofs.Connection.Helper -- operations that come down to others

Setting and clearing an attribute, renaming an entry and moving it have code of their own, with their
own checks and their own name in the log.  Apart from the log each of them is a public operation
that a caller could have made instead, or two of them one after the other: `clearByModify` and
`moveByParts` spell out the ones that take a second step.  Both sides are compared without their lines
(`Matches`): on every connection, and whatever the session answers, they ask the same, come to the
same and leave the same connection.

The main statement is `helpers_match`.
-/
import LdapClient.Proofs.Connection.Report

namespace LdapClient.Connection

open Dialogue

variable {α β : Type} {c : Connection} {session : SessionId}

/-! ## Operations without their lines -/

theorem quiet_logEnd (c : Connection) (name : String) (result : Except Failure α) :
    (c.logEnd name result).quiet = done () := by
  cases result <;> rfl

/-- Without its line an operation is what it does with the session. -/
theorem quiet_withSession {name : String} {use : SessionId → Dialogue (Except Failure α)}
    (huse : ∀ session, (use session).Silent) :
    (c.withSession name use).quiet = c.useSession use := by
  simp only [withSession, bind_eq_bind, pure_eq_done, quiet_bind, quiet_logEnd, done_bind, quiet,
    bind_done, (useSession_silent huse).quiet_eq]

theorem quiet_answerBy (make : α → Answer) (d : Dialogue (Except Failure α)) :
    (answerBy make d).quiet = d.quiet.bind fun result => done (result.map make) := by
  simp only [answerBy, bind_eq_bind, pure_eq_done, quiet_bind, quiet]

theorem quiet_perform_operation (c : Connection) (operation : Operation) :
    (c.perform (.operation operation)).quiet =
      (c.operate operation).quiet.bind fun result => done (result, c) := by
  simp only [perform, bind_eq_bind, pure_eq_done, quiet_bind, quiet]

/-- What is made of the result can as well be made of it where the session is used, as long as the
want of a session is left as it is. -/
theorem useSession_bind {use : SessionId → Dialogue (Except Failure α)}
    {f : Except Failure α → Except Failure β}
    (hf : ∀ failure, c.heldSession = .error failure → f (.error failure) = .error failure) :
    (c.useSession use).bind (fun result => done (f result)) =
      c.useSession fun session => (use session).bind fun result => done (f result) := by
  unfold useSession
  cases hs : c.heldSession with
  | ok session => rfl
  | error failure =>
    show done (f (.error failure)) = done (.error failure)
    rw [hf failure hs]

/-! ## Calls -/

/-- The call that makes one change. -/
def change (session : SessionId) (dn : String) (change : Change) :
    Dialogue (Except Failure Unit) :=
  .call session (.modify dn change)

/-- The call that gives an entry another name. -/
def changeName (session : SessionId) (request : RenameRequest) : Dialogue (Except Failure Unit) :=
  .call session (.modifyDn request)

theorem change_silent (dn : String) (made : Change) : (change session dn made).Silent :=
  silent_call session _

theorem quiet_modifyDn (c : Connection) (request : RenameRequest) :
    (c.modifyDn request).quiet = c.useSession fun session => changeName session request :=
  quiet_withSession fun session => silent_call session (.modifyDn request)

theorem quiet_exists (c : Connection) (dn : String) :
    (c.exists? dn).quiet = c.useSession fun session => probe session dn "*" :=
  quiet_withSession fun _ => probe_silent dn "*"

theorem applyChanges_single (session : SessionId) (dn : String) (made : Change) :
    applyChanges session dn [made] = change session dn made := by
  refine Eq.trans ?_ (bind_done (change session dn made))
  show (change session dn made).bind _ = _
  congr 1
  funext result
  cases result <;> rfl

/-- A request for one change is one call, if there is something to add in an addition. -/
theorem quiet_modify_single {made : Change} (hmade : isEmptyAdd made = false) (c : Connection)
    (dn : String) :
    (c.modify ⟨dn, [made]⟩).quiet = c.useSession fun session => change session dn made := by
  have hfind : [made].find? isEmptyAdd = none := by
    rw [List.find?_cons, hmade]
    rfl
  have hmodify : c.modify ⟨dn, [made]⟩ =
      c.withSession "modify" fun session => applyChanges session dn [made] := by
    simp only [modify, hfind]
    rfl
  rw [hmodify, quiet_withSession fun _ => applyChanges_silent dn [made]]
  simp only [applyChanges_single]

/-! ## Setting an attribute -/

theorem quiet_setAttribute (c : Connection) (object name : String) {values : List String}
    (hvalues : values ≠ []) :
    (c.setAttribute object name values).quiet =
      (c.modify ⟨object, [⟨.replace, name, values⟩]⟩).quiet := by
  have hset : c.setAttribute object name values =
      c.withSession "set_object_attribute" fun session =>
        change session object ⟨.replace, name, values⟩ :=
    if_neg (mt List.isEmpty_iff.mp hvalues)
  rw [hset, quiet_withSession fun _ => change_silent _ _, quiet_modify_single rfl]

/-! ## Clearing an attribute -/

/-- That an attribute is not there is no failure of a removal. -/
def pardonAbsence (value : α) : Except Failure α → Except Failure α
  | .ok value => .ok value
  | .error failure => if failure.code.value = 16 then .ok value else .error failure

/-- Removes an attribute by a request for one change. -/
def clearByModify (c : Connection) (object name : String) :
    Dialogue (Except Failure Answer × Connection) := do
  let (result, c) ← c.perform (.operation (.modify ⟨object, [⟨.delete, name, []⟩]⟩))
  return (pardonAbsence .nothing result, c)

theorem pardonAbsence_map (value : α) (make : α → β) (result : Except Failure α) :
    pardonAbsence (make value) (result.map make) = (pardonAbsence value result).map make := by
  cases result with
  | ok _ => rfl
  | error failure =>
    show (if failure.code.value = 16 then _ else _) = (if failure.code.value = 16 then _ else _ :
      Except Failure α).map make
    split <;> rfl

theorem code_eq_noSuchAttribute_iff {code : ResultCode} :
    code = .noSuchAttribute ↔ code.value = 16 := by
  constructor
  · rintro rfl
    rfl
  · intro h
    cases code
    cases h
    rfl

/-- A connection without a session does not fail for want of an attribute. -/
theorem heldSession_code {failure : Failure} (h : c.heldSession = .error failure) :
    failure.code.value ≠ 16 := by
  unfold heldSession at h
  cases hphase : c.phase <;> simp only [hphase] at h
  · cases h
    decide
  · cases hsession : c.state.session <;> rw [hsession] at h <;> cases h
    decide
  · cases h
    decide
  · cases h
    decide

theorem clearAttribute_eq (c : Connection) (object name : String) :
    c.clearAttribute object name =
      c.withSession "clear_object_attribute" fun session =>
        (change session object ⟨.delete, name, []⟩).bind fun result =>
          done (pardonAbsence () result) := by
  show c.withSession "clear_object_attribute" (fun session =>
    (change session object ⟨.delete, name, []⟩).bind _) = _
  congr 1
  funext session
  congr 1
  funext result
  cases result with
  | ok _ => rfl
  | error failure =>
    show (if failure.code = .noSuchAttribute then _ else _) =
      done (if failure.code.value = 16 then _ else _)
    by_cases hcode : failure.code = .noSuchAttribute
    · rw [if_pos hcode, if_pos (code_eq_noSuchAttribute_iff.mp hcode)]
      rfl
    · rw [if_neg hcode, if_neg (mt code_eq_noSuchAttribute_iff.mpr hcode)]
      rfl

theorem quiet_clearAttribute (c : Connection) (object name : String) :
    (c.clearAttribute object name).quiet =
      (c.modify ⟨object, [⟨.delete, name, []⟩]⟩).quiet.bind fun result =>
        done (pardonAbsence () result) := by
  have hsilent : ∀ session, ((change session object ⟨.delete, name, []⟩).bind fun result =>
      done (pardonAbsence () result)).Silent := by
    intro session
    exact (change_silent _ _).bind fun result => silent_done _
  rw [clearAttribute_eq, quiet_withSession hsilent, quiet_modify_single rfl, useSession_bind]
  intro failure hs
  exact if_neg (heldSession_code hs)

/-! ## Moving an entry -/

/-- Moves an entry by looking for the destination and then changing the name. -/
def moveByParts (c : Connection) (dn rdn container : String) :
    Dialogue (Except Failure Answer × Connection) := do
  let (result, c) ← c.perform (.operation (.exists? container))
  match result with
  | .error failure => return (.error failure, c)
  | .ok answer =>
    if answer = .truth true then
      c.perform (.operation (.modifyDn ⟨dn, rdn, true, container⟩))
    else return (.error (.param ("destination " ++ container ++ " does not exist")), c)

theorem quiet_move (c : Connection) {dn : String} {name : Dn} (hname : Dn.parse dn = .ok name)
    (container : String) :
    (c.perform (.operation (.move dn container))).quiet =
      (c.moveByParts dn name.firstRdn container).quiet := by
  have hmove : c.move dn container =
      c.withSession "move_object" fun session => relocate session dn name.firstRdn container := by
    simp only [move, hname]
  simp only [moveByParts, bind_eq_bind, quiet_bind, quiet_perform_operation, operate,
    quiet_answerBy, hmove, quiet_withSession fun _ => relocate_silent dn name.firstRdn container,
    quiet_exists, bind_bind, done_bind]
  unfold useSession
  cases hs : c.heldSession with
  | error failure => rfl
  | ok session =>
    show ((probe session container "*").bind _).bind _ = (probe session container "*").bind _
    rw [bind_bind]
    congr 1
    funext result
    rcases result with failure | found | found
    · rfl
    · rfl
    · -- the session is still held when the name is changed
      show (changeName session _).bind _ =
        (c.perform (.operation (.modifyDn ⟨dn, name.firstRdn, true, container⟩))).quiet
      rw [quiet_perform_operation, operate, quiet_answerBy, quiet_modifyDn, useSession, hs,
        bind_bind]
      rfl

/-! ## All of them -/

/-- Whatever connection it is made on and whatever it is answered, each of these operations asks the
same, comes to the same and leaves the same connection as another: setting an attribute to some
values is a request for this one change; clearing an attribute is a request to delete it, of which
the failure 16 is pardoned; renaming an entry is changing its name under the same parent, without
keeping the old one; moving an entry is looking for the destination, and then changing the name to
the leading relative name under the destination, or refusing the destination with the failure 89. -/
theorem helpers_match (c : Connection) :
    (∀ object name values, values ≠ [] →
      (c.perform (.operation (.setAttribute object name values))).Matches
        (c.perform (.operation (.modify ⟨object, [⟨.replace, name, values⟩]⟩)))) ∧
    (∀ object name,
      (c.perform (.operation (.clearAttribute object name))).Matches
        (c.clearByModify object name)) ∧
    (∀ dn newRdn, isRdn newRdn = true →
      (c.perform (.operation (.rename dn newRdn))).Matches
        (c.perform (.operation (.modifyDn ⟨dn, newRdn, true, ""⟩)))) ∧
    (∀ dn container name, Dn.parse dn = .ok name →
      (c.perform (.operation (.move dn container))).Matches
        (c.moveByParts dn name.firstRdn container)) ∧
    ∀ message, (Failure.param message).code.value = 89 := by
  refine ⟨?_, ?_, ?_, ?_, fun _ => rfl⟩
  · intro object name values hvalues
    apply matches_of_quiet
    simp only [quiet_perform_operation, operate, quiet_answerBy,
      quiet_setAttribute c object name hvalues]
  · intro object name
    apply matches_of_quiet
    simp only [clearByModify, bind_eq_bind, pure_eq_done, quiet_bind, quiet_perform_operation,
      operate, quiet_answerBy, quiet_clearAttribute, bind_bind, done_bind, quiet,
      pardonAbsence_map () fun _ => Answer.nothing]
  · intro dn newRdn hrdn
    have hrename : c.rename dn newRdn = c.modifyDn ⟨dn, newRdn, true, ""⟩ := if_pos hrdn
    apply matches_of_quiet
    simp only [quiet_perform_operation, operate, quiet_answerBy, hrename]
  · intro dn container name hname
    exact matches_of_quiet (quiet_move c hname container)

/-- A value is set, an entry is renamed and an entry with an escaped comma is moved. -/
theorem bound_helpers_match :
    let c : Connection :=
      ⟨⟨"ldap://ds1", .ldap, "ds1", none⟩, {}, "",
        ⟨.bound, some 0, false, some ⟨.simple, .plain, "ldap://ds1"⟩⟩⟩
    let name : Dn :=
      ⟨[⟨"cn=a\\, b".toList, [⟨"cn".toList, "a\\, b".toList⟩]⟩,
        ⟨"dc=org".toList, [⟨"dc".toList, "org".toList⟩]⟩]⟩
    ["a@example.org"] ≠ [] ∧
      (c.perform (.operation (.setAttribute "cn=a" "mail" ["a@example.org"]))).Matches
        (c.perform (.operation (.modify ⟨"cn=a", [⟨.replace, "mail", ["a@example.org"]⟩]⟩))) ∧
      isRdn " cn = b " = true ∧
      (c.perform (.operation (.rename "cn=a" " cn = b "))).Matches
        (c.perform (.operation (.modifyDn ⟨"cn=a", " cn = b ", true, ""⟩))) ∧
      Dn.parse "cn=a\\, b,dc=org" = .ok name ∧
      (c.perform (.operation (.move "cn=a\\, b,dc=org" "ou=new,dc=org"))).Matches
        (c.moveByParts "cn=a\\, b,dc=org" "cn=a\\, b" "ou=new,dc=org") := by
  intro c name
  obtain ⟨hset, -, hrename, hmove, -⟩ := helpers_match c
  have hvalues : ["a@example.org"] ≠ [] := List.cons_ne_nil _ _
  have hrdn : isRdn " cn = b " = true := by decide
  have hname : Dn.parse "cn=a\\, b,dc=org" = .ok name := rfl
  exact ⟨hvalues, hset _ _ _ hvalues, hrdn, hrename _ _ hrdn, hname, hmove _ _ _ hname⟩

end LdapClient.Connection
