/-
# LdapClient.Proofs.Connection.Report -- which failures get into the log

A call that got as far as its connector or its session writes one line at error level if it fails
and none if it succeeds: `BindCourse` shows it for binds, and the directory operations end with
their line, whatever they did before (`operate_reported`).  What happens in between is silent, and
the failure of the unbind after a rejected bind is told at debug level only.

A call that is refused before that comes to nothing but its failure: `RefusedEarly` lists these calls.
So the same closed connection is an error in the log when an entry is deleted and is not there when
a bind is tried (`refused_bind_unreported`).  The main statement is `failures_reported`.
-/
import LdapClient.Proofs.Lines
import LdapClient.Proofs.Connection.Omission

namespace LdapClient.Connection

open Dialogue

variable {α β σ : Type} {c : Connection} {session : SessionId} {n m : Nat} {events : List Event}

/-! ## What operations do in silence -/

theorem enumerate_silent (base : String) (scope : Scope) (filter : String) :
    (enumerate session base scope filter).Silent := by
  refine (silent_call session _).bind fun result => ?_
  cases result <;> trivial

theorem readEntries_silent (names dns : List String) :
    (readEntries session names dns).Silent := by
  induction dns with
  | nil => trivial
  | cons dn dns ih =>
    refine (silent_call session _).bind fun result => ?_
    cases result with
    | error failure => trivial
    | ok found =>
      refine ih.bind fun result => ?_
      cases result <;> trivial

theorem applyChanges_silent (dn : String) (changes : List Change) :
    (applyChanges session dn changes).Silent := by
  induction changes with
  | nil => trivial
  | cons change changes ih =>
    refine (silent_call session _).bind fun result => ?_
    cases result with
    | error failure => trivial
    | ok _ => exact ih

theorem silent_pardon (failure : Failure) (code : ResultCode) (value : α) :
    (if failure.code = code then done (.ok value) else done (.error failure) :
      Dialogue (Except Failure α)).Silent := by
  split <;> trivial

theorem probe_silent (dn objectClass : String) : (probe session dn objectClass).Silent := by
  refine (silent_call session _).bind fun result => ?_
  cases result with
  | ok found => trivial
  | error failure => exact silent_pardon failure .noSuchObject false

theorem relocate_silent (dn newRdn container : String) :
    (relocate session dn newRdn container).Silent := by
  refine (probe_silent container "*").bind fun result => ?_
  rcases result with failure | found | found
  · trivial
  · trivial
  · exact silent_call session _

/-! ## Reports -/

/-- What a call with this result has to write at error level: nothing if it succeeded, and one line
with the failure if not. -/
def report (c : Connection) (heading : String) : Except Failure α → List Line
  | .ok _ => []
  | .error failure =>
    [⟨c.options.logger, .error, heading ++ c.address.text ++ ": " ++ failure.display⟩]

theorem report_map (heading : String) (result : Except Failure α) (f : α → β) :
    c.report heading (result.map f) = c.report heading result := by
  cases result <;> rfl

/-- Whatever the dialogue is answered, it writes what has to be written about its result. -/
def Reported (c : Connection) (d : Dialogue (Except Failure α)) : Prop :=
  ∀ n events result m, d.Admits n events result m →
    ∃ heading, errorLines events = c.report heading result

theorem reported_ok (value : α) : c.Reported (done (.ok value)) := by
  intro n events result m h
  obtain ⟨rfl, rfl, -⟩ := admits_done.mp h
  exact ⟨"", rfl⟩

theorem useSession_silent {use : SessionId → Dialogue (Except Failure α)}
    (huse : ∀ session, (use session).Silent) : (c.useSession use).Silent := by
  unfold useSession
  split
  · exact huse _
  · trivial

/-- The line at the end of an operation is all that it writes. -/
theorem reported_withSession {name : String} {use : SessionId → Dialogue (Except Failure α)}
    (huse : ∀ session, (use session).Silent) : c.Reported (c.withSession name use) := by
  intro n events result m h
  obtain ⟨used, rfl, hused⟩ := withSession_course h
  refine ⟨name ++ " on ", ?_⟩
  rw [errorLines_append, (useSession_silent huse).errorLines_eq hused]
  cases result <;> rfl

theorem Reported.map {d : Dialogue (Except Failure α)} (h : c.Reported d) (f : α → β) :
    c.Reported (d.bind fun result => done (result.map f)) := by
  intro n events result m hmap
  obtain ⟨first, value, k, _, hd, hdone, rfl⟩ := admits_bind.mp hmap
  obtain ⟨rfl, rfl, rfl⟩ := admits_done.mp hdone
  obtain ⟨heading, hlines⟩ := h _ _ _ _ hd
  refine ⟨heading, ?_⟩
  rw [List.append_nil, report_map, hlines]

/-! ## Directory operations -/

theorem modifyDn_reported (request : RenameRequest) : c.Reported (c.modifyDn request) :=
  reported_withSession fun session => silent_call session _

theorem attributes_reported (object : String) (names : List String) :
    c.Reported (c.attributes object names) := by
  refine reported_withSession fun session => (silent_call session _).bind fun result => ?_
  rcases result with failure | found
  · trivial
  · cases found <;> trivial

theorem attributeValues_eq (object name : String) :
    c.attributeValues object name = (c.attributes object [name]).bind fun result =>
      done (result.map fun found => (found.findFolded? name).getD []) := by
  unfold attributeValues
  congr 1
  funext result
  cases result <;> rfl

theorem modify_reported {dn : String} {changes : List Change}
    (hverdict : ∀ code, ¬ Verdict (.modify ⟨dn, changes⟩) (some code)) :
    c.Reported (c.modify ⟨dn, changes⟩) := by
  unfold modify
  split
  · rename_i change hchange
    have hmem := List.mem_of_find?_eq_some hchange
    obtain ⟨hkind, hvalues⟩ := isEmptyAdd_iff.mp (List.find?_some hchange)
    exact absurd (.emptyAdd hmem hkind hvalues) (hverdict 89)
  · split
    · exact reported_ok ()
    · exact reported_withSession fun _ => applyChanges_silent _ _

/-- An operation whose arguments are not refused writes what has to be written about its result. -/
theorem operate_reported {operation : Operation}
    (hverdict : ∀ code, ¬ Verdict operation (some code)) : c.Reported (c.operate operation) := by
  cases operation with
  | search request =>
    refine (reported_withSession fun session => ?_).map Answer.found
    refine (enumerate_silent _ _ _).bind fun result => ?_
    cases result with
    | error failure => trivial
    | ok dns =>
      refine (readEntries_silent _ dns).bind fun result => ?_
      cases result <;> trivial
  | searchDns base scope filter =>
    exact (reported_withSession fun _ => enumerate_silent base scope filter).map Answer.texts
  | modify request =>
    obtain ⟨dn, changes⟩ := request
    exact (modify_reported hverdict).map fun _ => Answer.nothing
  | modifyDn request => exact (modifyDn_reported request).map fun _ => Answer.nothing
  | delete dn =>
    exact (reported_withSession fun session => silent_call session _).map fun _ => Answer.nothing
  | rename dn newRdn =>
    refine Reported.map ?_ fun _ => Answer.nothing
    unfold rename
    split
    · exact modifyDn_reported _
    · rename_i hrdn
      exact absurd (.malformedRdn dn (Bool.eq_false_iff.mpr hrdn)) (hverdict 89)
  | move dn container =>
    refine Reported.map ?_ fun _ => Answer.nothing
    unfold move
    split
    · rename_i fault hread
      exact absurd (.unreadable container hread) (hverdict 34)
    · exact reported_withSession fun _ => relocate_silent _ _ _
  | attributes object names => exact (attributes_reported object names).map Answer.attributes
  | attributeValues object name =>
    refine Reported.map ?_ Answer.texts
    rw [attributeValues_eq]
    exact (attributes_reported object [name]).map _
  | setAttribute object name values =>
    refine Reported.map ?_ fun _ => Answer.nothing
    unfold setAttribute
    split
    · rename_i hnone
      obtain rfl : values = [] := List.isEmpty_iff.mp hnone
      exact absurd (.noValues object name) (hverdict 89)
    · exact reported_withSession fun session => silent_call session _
  | clearAttribute object name =>
    refine (reported_withSession fun session => ?_).map fun _ => Answer.nothing
    refine (silent_call session _).bind fun result => ?_
    cases result with
    | error failure => exact silent_pardon failure .noSuchAttribute ()
    | ok _ => trivial
  | exists? dn =>
    exact (reported_withSession fun _ => probe_silent dn "*").map Answer.truth
  | existsWithClass dn objectClass =>
    exact (reported_withSession fun _ => probe_silent dn objectClass).map Answer.truth

/-! ## Binds -/

/-- A bind that got as far as the connector writes what has to be written about its result; what
comes of the unbind after a rejected one is no error. -/
theorem BindCourse.reported {bound : Connection} {method : LoginMethod} {startTls : Bool}
    {made : SessionCall} {result : Except Failure Unit}
    (course : BindCourse c method startTls made n events result bound m)
    (hc : c.phase = .unbound) : ∃ heading, errorLines events = c.report heading result := by
  cases course with
  | refused hrefused =>
    rw [ensureUnbound_ok_iff.mpr hc] at hrefused
    cases hrefused
  | unreachable _ signal => exact ⟨"connect to ", rfl⟩
  | rejected _ signal goodbye =>
    refine ⟨method.display ++ " bind to ", ?_⟩
    rcases goodbye with parting | ⟨⟨⟩⟩ <;> rfl
  | accepted => exact ⟨"", rfl⟩

/-! ## Any call -/

/-- The call is refused before the connector or the session is needed: StartTLS or a bind in the
wrong phase, StartTLS on top of implicit TLS, a bind without a password, or an operation whose
arguments settle that it fails. -/
inductive RefusedEarly (c : Connection) : Command → Prop
  | startTls (h : c.phase ≠ .unbound ∨ c.address.scheme = .ldaps) : RefusedEarly c .startTls
  | noPassword (dn : String) : RefusedEarly c (.simpleBind dn "")
  | simpleBind (dn password : String) (h : c.phase ≠ .unbound) :
      RefusedEarly c (.simpleBind dn password)
  | gssapiBind (realm : String) (keytab : Option String) (h : c.phase ≠ .unbound) :
      RefusedEarly c (.gssapiBind realm keytab)
  | argument {operation : Operation} {code : Int} (h : Verdict operation (some code)) :
      RefusedEarly c (.operation operation)

theorem refusedEarly_simpleBind_iff {dn password : String} :
    c.RefusedEarly (.simpleBind dn password) ↔ password = "" ∨ c.phase ≠ .unbound := by
  constructor
  · intro h
    cases h with
    | noPassword => exact Or.inl rfl
    | simpleBind _ _ hphase => exact Or.inr hphase
  · rintro (rfl | hphase)
    · exact .noPassword dn
    · exact .simpleBind dn password hphase

theorem startTls_refused_iff :
    (∃ failure, c.startTls = .error failure) ↔
      c.phase ≠ .unbound ∨ c.address.scheme = .ldaps := by
  constructor
  · rintro ⟨failure, hfailure⟩
    by_cases hphase : c.phase = .unbound
    · by_cases hscheme : c.address.scheme = .ldaps
      · exact Or.inr hscheme
      · simp only [startTls, ensureUnbound_ok_iff.mpr hphase, if_neg hscheme] at hfailure
        cases hfailure
    · exact Or.inl hphase
  · intro h
    cases hstart : c.startTls with
    | error failure => exact ⟨failure, rfl⟩
    | ok asked =>
      obtain ⟨hphase, hscheme, -⟩ := startTls_eq_ok hstart
      rcases h with h | h
      · exact absurd hphase h
      · exact absurd h hscheme

/-- Such a call comes to nothing but its failure. -/
theorem RefusedEarly.perform_eq {command : Command} (h : c.RefusedEarly command) :
    ∃ failure after, c.perform command = done (.error failure, after) := by
  cases h with
  | startTls h =>
    obtain ⟨failure, hfailure⟩ := startTls_refused_iff.mpr h
    refine ⟨failure, c, ?_⟩
    simp only [perform, hfailure, pure_eq_done]
  | noPassword dn => exact ⟨_, c, perform_simpleBind_empty c dn⟩
  | simpleBind dn password h =>
    obtain ⟨failure, hfailure⟩ := ensureUnbound_eq_error h
    by_cases hpassword : password = ""
    · subst hpassword
      exact ⟨_, c, perform_simpleBind_empty c dn⟩
    · exact ⟨failure, c, perform_simpleBind_refused hfailure dn (by simpa using hpassword)⟩
  | gssapiBind realm keytab h =>
    obtain ⟨failure, hfailure⟩ := ensureUnbound_eq_error h
    exact ⟨failure, _, perform_gssapiBind_refused hfailure realm keytab⟩
  | argument h =>
    obtain ⟨result, ⟨failure, rfl, -⟩, hoperate⟩ := h.operate_eq
    refine ⟨failure, c, ?_⟩
    simp only [perform, hoperate]
    rfl

/-- All other calls write what has to be written about their result. -/
theorem perform_reported {command : Command} (hcommand : command ≠ .close)
    (hrefused : ¬ c.RefusedEarly command) {after : Connection} {result : Except Failure Answer}
    (h : (c.perform command).Admits n events (result, after) m) :
    ∃ heading, errorLines events = c.report heading result := by
  cases command with
  | startTls =>
    simp only [perform] at h
    split at h
    · rename_i failure hfailure
      exact absurd (.startTls (startTls_refused_iff.mp ⟨failure, hfailure⟩)) hrefused
    · obtain ⟨rfl, heq, -⟩ := admits_done.mp h
      cases heq
      exact ⟨"", rfl⟩
  | simpleBind dn password =>
    obtain ⟨bound, rfl, hbind⟩ := admits_answered h
    rw [refusedEarly_simpleBind_iff, not_or, Decidable.not_not] at hrefused
    obtain ⟨hpassword, hphase⟩ := hrefused
    unfold simpleBind at hbind
    split at hbind
    · rename_i hempty
      exact absurd (by simpa using hempty) hpassword
    · obtain ⟨heading, hlines⟩ := (bindBy_course hbind).reported hphase
      exact ⟨heading, hlines.trans (report_map heading bound _).symm⟩
  | gssapiBind realm keytab =>
    obtain ⟨bound, rfl, hbind⟩ := admits_answered h
    have hphase : c.phase = .unbound :=
      Decidable.byContradiction fun hphase => hrefused (.gssapiBind realm keytab hphase)
    -- dropping the wish for StartTLS changes neither the logger nor the address
    obtain ⟨heading, hlines⟩ := (bindBy_course hbind).reported hphase
    exact ⟨heading, hlines.trans (report_map heading bound _).symm⟩
  | close => exact absurd rfl hcommand
  | operation operation =>
    obtain ⟨first, value, k, _, hoperate, hdone, rfl⟩ := admits_bind.mp h
    obtain ⟨rfl, heq, rfl⟩ := admits_done.mp hdone
    cases heq
    rw [List.append_nil]
    have hverdict : ∀ code, ¬ Verdict operation (some code) := by
      intro code hverdict
      exact hrefused (.argument hverdict)
    exact operate_reported hverdict _ _ _ _ hoperate

/-- Whatever call but a close is made on whatever connection, and whatever it is answered: a call
that is refused early fails and writes nothing at all; any other call writes one line at error level
if it fails, with its failure, and none if it succeeds. -/
theorem failures_reported (env : Environment σ) (standing : Standing σ) (c : Connection)
    {command : Command} (hcommand : command ≠ .close) :
    let outcome := (c.perform command).run env standing
    (c.RefusedEarly command →
      (∃ failure, outcome.value.1 = .error failure) ∧ outcome.events = []) ∧
    (¬ c.RefusedEarly command →
      ∃ heading, errorLines outcome.events = c.report heading outcome.value.1) := by
  intro outcome
  constructor
  · intro hrefused
    obtain ⟨failure, after, hperform⟩ := hrefused.perform_eq
    have houtcome : outcome = ⟨(.error failure, after), standing, []⟩ := by
      simp only [outcome, hperform]
      rfl
    rw [houtcome]
    exact ⟨⟨failure, rfl⟩, rfl⟩
  · intro hrefused
    exact perform_reported hcommand hrefused (run_admits env (c.perform command) standing)

/-- The environment that opens sessions and fails every call to them. -/
def failing (signal : Signal) : Environment Unit where
  answer
    | .call _ (.search _), world => (.error signal, world)
    | .call _ (.simpleBind _ _), world => (.error signal, world)
    | .call _ (.gssapiBind _), world => (.error signal, world)
    | .call _ (.modify _ _), world => (.error signal, world)
    | .call _ (.modifyDn _), world => (.error signal, world)
    | .call _ (.delete _), world => (.error signal, world)
    | .call _ .unbind, world => (.error signal, world)
    | question, world => obliging.answer question world

/-- A bind is rejected, and so is the unbind after it: one line at error level. -/
theorem rejected_bind_reported :
    let c : Connection := ⟨⟨"ldap://ds1", .ldap, "ds1", none⟩, {}, "", .dialed⟩
    let command : Command := .simpleBind "cn=admin" "secret"
    let signal : Signal := .withCode 49 "no"
    let outcome := (c.perform command).run (failing signal) ⟨(), 0⟩
    command ≠ .close ∧ ¬ c.RefusedEarly command ∧
      outcome.value.1 = .error signal.toFailure ∧ outcome.events.length = 5 ∧
      ∃ heading, errorLines outcome.events = c.report heading outcome.value.1 := by
  intro c command signal outcome
  have hcommand : command ≠ .close := nofun
  have hrefused : ¬ c.RefusedEarly command := by
    intro h
    rcases refusedEarly_simpleBind_iff.mp h with hpassword | hphase
    · exact absurd hpassword (by decide)
    · exact hphase rfl
  have hreport := (failures_reported (failing signal) ⟨(), 0⟩ c hcommand).2 hrefused
  exact ⟨hcommand, hrefused, rfl, rfl, hreport⟩

/-- On a closed connection a bind and a deletion fail for the same reason, which is of the kind that
deserves attention.  The deletion puts it into the log and the bind does not, nor does a bind
without a password on an open connection. -/
theorem refused_bind_unreported :
    let c : Connection := ⟨⟨"ldap://ds1", .ldap, "ds1", none⟩, {}, "", .closed⟩
    let fresh : Connection := ⟨⟨"ldap://ds1", .ldap, "ds1", none⟩, {}, "", .dialed⟩
    let failure : Failure := .network "connection is closed"
    let delete := (c.perform (.operation (.delete "cn=a"))).run obliging ⟨(), 1⟩
    let bind := (c.perform (.simpleBind "cn=a" "secret")).run obliging ⟨(), 1⟩
    let anonymous := (fresh.perform (.simpleBind "cn=a" "")).run obliging ⟨(), 0⟩
    failure.isSerious = true ∧
      delete.value.1 = .error failure ∧
      errorLines delete.events = c.report "delete on " delete.value.1 ∧
      bind.value.1 = .error failure ∧ bind.events = [] ∧
      Failure.emptyPassword.isSerious = true ∧
      anonymous.value.1 = .error .emptyPassword ∧ anonymous.events = [] :=
  ⟨rfl, rfl, rfl, rfl, rfl, rfl, rfl, rfl⟩

end LdapClient.Connection
