/-
# LdapClient.Proofs.Connection.Precondition -- where the failure of an operation comes from

A failure of the kind `precondition` is meant to be noticed before a session is asked anything.  The
kind is read off the code alone, so this takes a look at each operation.  `FailureCourse` lists the
ways in which operations fail: an argument is refused, no session is held, the last call failed, or
the destination of a move turned out not to exist.  Only the first and the last are refusals with the
code of a precondition, and the last one is found out by a call (`missing_destination_asked`).  A
server that answers with this code is repeated like any other.  `precondition_failure` says that
there is nothing else.
-/
import LdapClient.Proofs.Connection.Use

namespace LdapClient

/-! ## Failures of calls -/

namespace Dialogue

variable {α β : Type} {n m : Nat} {events : List Event} {failure : Failure}

/-- Nothing was asked any more after a call that failed, and this is its failure. -/
def Relayed (events : List Event) (failure : Failure) : Prop :=
  ∃ before session made signal lines,
    events = before ++ .exchange (.call session made) (.error signal) :: List.map .line lines ∧
      failure = signal.toFailure

theorem Relayed.append (h : Relayed events failure) (before : List Event) :
    Relayed (before ++ events) failure := by
  obtain ⟨between, session, made, signal, lines, rfl, rfl⟩ := h
  exact ⟨before ++ between, session, made, signal, lines, (List.append_assoc _ _ _).symm, rfl⟩

theorem Relayed.line (h : Relayed events failure) (line : Line) :
    Relayed (events ++ [.line line]) failure := by
  obtain ⟨before, session, made, signal, lines, rfl, rfl⟩ := h
  refine ⟨before, session, made, signal, lines ++ [line], ?_, rfl⟩
  rw [List.map_append, List.append_assoc]
  rfl

/-- If the dialogue fails, then with the failure of its last call. -/
def Relays (d : Dialogue (Except Failure α)) : Prop :=
  ∀ n events failure m, d.Admits n events (.error failure) m → Relayed events failure

theorem relays_ok (value : α) : (done (.ok value) : Dialogue (Except Failure α)).Relays := by
  intro n events failure m h
  obtain ⟨-, heq, -⟩ := admits_done.mp h
  cases heq

theorem relays_call (session : SessionId) (made : SessionCall) : (call session made).Relays := by
  intro n events failure m h
  obtain ⟨answer, rfl, heq, rfl⟩ := admits_call.mp h
  rcases answer with signal | value
  · cases heq
    exact ⟨[], session, made, signal, [], rfl, rfl⟩
  · cases heq

/-- A failure is passed on at once, or is none for what comes after. -/
theorem Relays.bind {d : Dialogue (Except Failure α)}
    {f : Except Failure α → Dialogue (Except Failure β)} (hd : d.Relays)
    (hok : ∀ value, (f (.ok value)).Relays)
    (herror : ∀ failure, f (.error failure) = done (.error failure) ∨
      ∃ value, f (.error failure) = done (.ok value)) :
    (d.bind f).Relays := by
  intro n events failure m h
  obtain ⟨first, value, k, second, hfirst, hsecond, rfl⟩ := admits_bind.mp h
  cases value with
  | ok value =>
    -- the failure comes from the second part, and so does its call
    exact (hok value _ _ _ _ hsecond).append first
  | error earlier =>
    rcases herror earlier with heq | ⟨value, heq⟩
    · rw [heq] at hsecond
      obtain ⟨rfl, hfailure, rfl⟩ := admits_done.mp hsecond
      cases hfailure
      rw [List.append_nil]
      exact hd _ _ _ _ hfirst
    · rw [heq] at hsecond
      obtain ⟨-, hfailure, -⟩ := admits_done.mp hsecond
      cases hfailure

end Dialogue

namespace Connection

open Dialogue

variable {α : Type} {c : Connection} {session : SessionId} {n m : Nat} {events : List Event}
  {failure : Failure}

/-! ## What operations do with a session -/

theorem enumerate_relays (base : String) (scope : Scope) (filter : String) :
    (enumerate session base scope filter).Relays :=
  (relays_call session _).bind (fun _ => relays_ok _) fun _ => Or.inl rfl

theorem readEntries_relays (names dns : List String) :
    (readEntries session names dns).Relays := by
  induction dns with
  | nil => exact relays_ok _
  | cons dn dns ih =>
    refine (relays_call session _).bind (fun found => ?_) fun _ => Or.inl rfl
    exact ih.bind (fun _ => relays_ok _) fun _ => Or.inl rfl

theorem applyChanges_relays (dn : String) (changes : List Change) :
    (applyChanges session dn changes).Relays := by
  induction changes with
  | nil => exact relays_ok _
  | cons change changes ih =>
    exact (relays_call session _).bind (fun _ => ih) fun _ => Or.inl rfl

/-- A failure with one code may be pardoned, all others are passed on. -/
theorem pardoned_or_passed (failure : Failure) (code : ResultCode) (value : α) :
    (if failure.code = code then done (.ok value) else done (.error failure) :
        Dialogue (Except Failure α)) = done (.error failure) ∨
      ∃ other, (if failure.code = code then done (.ok value) else done (.error failure) :
        Dialogue (Except Failure α)) = done (.ok other) := by
  by_cases hcode : failure.code = code
  · exact Or.inr ⟨value, if_pos hcode⟩
  · exact Or.inl (if_neg hcode)

theorem probe_relays (dn objectClass : String) : (probe session dn objectClass).Relays :=
  (relays_call session _).bind (fun _ => relays_ok _) fun failure =>
    pardoned_or_passed failure .noSuchObject false

/-- The answer to a search for an entry that is not there. -/
def Absent (answer : Except Signal (List RawEntry)) : Prop :=
  answer = .ok [] ∨ ∃ signal, answer = .error signal ∧ signal.toFailure.code = .noSuchObject

theorem presence_eq_true {answer : Except Signal (List RawEntry)} :
    presence answer = .ok true ↔ ∃ found, found ≠ [] ∧ answer = .ok found := by
  constructor
  · intro h
    rcases answer with signal | found
    · rw [presence] at h
      split at h <;> cases h
    · refine ⟨found, ?_, rfl⟩
      rintro rfl
      cases h
  · rintro ⟨found, hfound, rfl⟩
    simpa [presence] using hfound

theorem presence_eq_false {answer : Except Signal (List RawEntry)} :
    presence answer = .ok false ↔ Absent answer := by
  constructor
  · intro h
    rcases answer with signal | found
    · rw [presence] at h
      split at h
      · exact Or.inr ⟨signal, rfl, ‹_›⟩
      · cases h
    · cases found with
      | nil => exact Or.inl rfl
      | cons raw others => cases h
  · rintro (rfl | ⟨signal, rfl, hcode⟩)
    · rfl
    · rw [presence, if_pos hcode]

theorem presence_eq_error {answer : Except Signal (List RawEntry)} :
    presence answer = .error failure ↔
      ∃ signal, answer = .error signal ∧ signal.toFailure.code ≠ .noSuchObject ∧
        failure = signal.toFailure := by
  constructor
  · intro h
    rcases answer with signal | found
    · rw [presence] at h
      split at h
      · cases h
      · cases h
        exact ⟨signal, rfl, ‹_›, rfl⟩
    · cases h
  · rintro ⟨signal, rfl, hcode, rfl⟩
    rw [presence, if_neg hcode]

theorem relocate_failure {dn newRdn container : String}
    (h : (relocate session dn newRdn container).Admits n events (.error failure) m) :
    Relayed events failure ∨
      failure = (Refusal.noDestination container).toFailure ∧
        ∃ answer, events = [asking session (probeRequest container "*") answer] ∧ Absent answer := by
  obtain ⟨first, found, k, second, hprobe, hrest, rfl⟩ := admits_bind.mp h
  -- the look at the destination fails, finds nothing, or is followed by the move itself
  rcases found with earlier | found | found
  · obtain ⟨rfl, heq, rfl⟩ := admits_done.mp hrest
    cases heq
    rw [List.append_nil]
    exact Or.inl (probe_relays _ _ _ _ _ _ hprobe)
  · obtain ⟨rfl, heq, rfl⟩ := admits_done.mp hrest
    cases heq
    rw [List.append_nil]
    obtain ⟨-, answer, rfl, hfalse⟩ := probe_course hprobe
    exact Or.inr ⟨rfl, answer, rfl, presence_eq_false.mp hfalse.symm⟩
  · exact Or.inl ((relays_call session _ _ _ _ _ hrest).append first)

/-! ## How operations fail -/

/-- The destination of a move was looked for, by the only call, and is not there. -/
def DestinationMissing (operation : Operation) (events : List Event) (failure : Failure) : Prop :=
  ∃ dn container session answer line,
    operation = .move dn container ∧
      events = [asking session ⟨container, .baseObject, "(objectclass=*)", ["1.1"]⟩ answer,
        .line line] ∧
      Absent answer ∧ failure = .param ("destination " ++ container ++ " does not exist")

/-- The events of a directory operation that fails, and its failure. -/
inductive FailureCourse (c : Connection) (operation : Operation) : List Event → Failure → Prop
  /-- An argument is refused. -/
  | refused (failure : Failure) : FailureCourse c operation [] failure
  /-- There is no session to use. -/
  | unheld {failure : Failure} (hs : c.heldSession = .error failure) (line : Line) :
      FailureCourse c operation [.line line] failure
  | relayed {events : List Event} {failure : Failure} (h : Relayed events failure) :
      FailureCourse c operation events failure
  | destinationMissing {events : List Event} {failure : Failure}
      (h : DestinationMissing operation events failure) : FailureCourse c operation events failure

variable {operation : Operation}

theorem answerBy_failure {make : α → Answer} {d : Dialogue (Except Failure α)}
    (h : (answerBy make d).Admits n events (.error failure) m) :
    d.Admits n events (.error failure) m := by
  obtain ⟨first, result, k, _, hd, hdone, rfl⟩ := admits_bind.mp h
  obtain ⟨rfl, heq, rfl⟩ := admits_done.mp hdone
  rw [List.append_nil]
  cases result with
  | error earlier =>
    cases heq
    exact hd
  | ok value => cases heq

/-- An operation that fails had no session to use, or failed to use it. -/
theorem withSession_error {name : String} {use : SessionId → Dialogue (Except Failure α)}
    (h : (c.withSession name use).Admits n events (.error failure) m) :
    ∃ used line, events = used ++ [.line line] ∧
      ((c.heldSession = .error failure ∧ used = []) ∨
        ∃ session, (use session).Admits n used (.error failure) m) := by
  obtain ⟨used, rfl, hused⟩ := withSession_course h
  refine ⟨used, _, rfl, ?_⟩
  unfold useSession at hused
  cases hs : c.heldSession with
  | error refused =>
    rw [hs] at hused
    obtain ⟨rfl, heq, rfl⟩ := admits_done.mp hused
    cases heq
    exact Or.inl ⟨rfl, rfl⟩
  | ok session =>
    rw [hs] at hused
    exact Or.inr ⟨session, hused⟩

theorem withSession_failure {name : String} {use : SessionId → Dialogue (Except Failure α)}
    (huse : ∀ session, (use session).Relays)
    (h : (c.withSession name use).Admits n events (.error failure) m) :
    FailureCourse c operation events failure := by
  obtain ⟨used, line, rfl, ⟨hs, rfl⟩ | ⟨session, hused⟩⟩ := withSession_error h
  · exact .unheld hs line
  · exact .relayed ((huse session _ _ _ _ hused).line line)

theorem modify_failure {request : ModifyRequest}
    (h : (c.modify request).Admits n events (.error failure) m) :
    FailureCourse c operation events failure := by
  unfold modify at h
  split at h
  · obtain ⟨rfl, -, rfl⟩ := admits_done.mp h
    exact .refused failure
  · split at h
    · obtain ⟨-, heq, -⟩ := admits_done.mp h
      cases heq
    · exact withSession_failure (fun _ => applyChanges_relays _ _) h

theorem modifyDn_failure {request : RenameRequest}
    (h : (c.modifyDn request).Admits n events (.error failure) m) :
    FailureCourse c operation events failure :=
  withSession_failure (fun session => relays_call session _) h

theorem move_failure {dn container : String}
    (h : (c.move dn container).Admits n events (.error failure) m) :
    FailureCourse c (.move dn container) events failure := by
  unfold move at h
  split at h
  · obtain ⟨rfl, -, rfl⟩ := admits_done.mp h
    exact .refused failure
  · obtain ⟨used, line, rfl, ⟨hs, rfl⟩ | ⟨session, hused⟩⟩ := withSession_error h
    · exact .unheld hs line
    · rcases relocate_failure hused with hrelayed | ⟨rfl, answer, rfl, habsent⟩
      · exact .relayed (hrelayed.line line)
      · exact .destinationMissing ⟨dn, container, session, answer, line, rfl, rfl, habsent, rfl⟩

theorem attributes_failure {object : String} {names : List String}
    (h : (c.attributes object names).Admits n events (.error failure) m) :
    FailureCourse c operation events failure := by
  refine withSession_failure (fun session => ?_) h
  refine (relays_call session _).bind (fun found => ?_) fun _ => Or.inl rfl
  rcases found with _ | ⟨raw, others⟩
  · exact relays_ok _
  · exact relays_ok _

/-- `FailureCourse` lists all ways in which directory operations fail. -/
theorem operate_failure (h : (c.operate operation).Admits n events (.error failure) m) :
    FailureCourse c operation events failure := by
  cases operation with
  | search request =>
    refine withSession_failure (fun session => ?_) (answerBy_failure h)
    refine (enumerate_relays _ _ _).bind (fun dns => ?_) fun _ => Or.inl rfl
    exact (readEntries_relays _ dns).bind (fun _ => relays_ok _) fun _ => Or.inl rfl
  | searchDns base scope filter =>
    exact withSession_failure (fun _ => enumerate_relays base scope filter) (answerBy_failure h)
  | modify request => exact modify_failure (answerBy_failure h)
  | modifyDn request => exact modifyDn_failure (answerBy_failure h)
  | delete dn =>
    exact withSession_failure (fun session => relays_call session _) (answerBy_failure h)
  | rename dn newRdn =>
    have hrename := answerBy_failure h
    unfold rename at hrename
    split at hrename
    · exact modifyDn_failure hrename
    · obtain ⟨rfl, -, rfl⟩ := admits_done.mp hrename
      exact .refused failure
  | move dn container => exact move_failure (answerBy_failure h)
  | attributes object names => exact attributes_failure (answerBy_failure h)
  | attributeValues object name =>
    obtain ⟨first, found, k, second, hread, hrest, rfl⟩ := admits_bind.mp (answerBy_failure h)
    cases found with
    | error earlier =>
      obtain ⟨rfl, heq, rfl⟩ := admits_done.mp hrest
      cases heq
      rw [List.append_nil]
      exact attributes_failure hread
    | ok found =>
      obtain ⟨-, heq, -⟩ := admits_done.mp hrest
      cases heq
  | setAttribute object name values =>
    have hset := answerBy_failure h
    unfold setAttribute at hset
    split at hset
    · obtain ⟨rfl, -, rfl⟩ := admits_done.mp hset
      exact .refused failure
    · exact withSession_failure (fun session => relays_call session _) hset
  | clearAttribute object name =>
    refine withSession_failure (fun session => ?_) (answerBy_failure h)
    exact (relays_call session _).bind (fun _ => relays_ok _) fun failure =>
      pardoned_or_passed failure .noSuchAttribute ()
  | exists? dn =>
    exact withSession_failure (fun _ => probe_relays dn "*") (answerBy_failure h)
  | existsWithClass dn objectClass =>
    exact withSession_failure (fun _ => probe_relays dn objectClass) (answerBy_failure h)

/-! ## Preconditions -/

theorem kind_of_heldSession_error (hs : c.heldSession = .error failure) :
    failure.kind ≠ .precondition := by
  unfold heldSession at hs
  cases hphase : c.phase <;> simp only [hphase] at hs
  · cases hs
    decide
  · cases hsession : c.state.session <;> rw [hsession] at hs <;> cases hs
    decide
  · cases hs
    decide
  · cases hs
    decide

/-- Whatever operation is tried on whatever connection, and whatever its session answers: a failure
of the kind `precondition` is found before anything is asked, or it is the failure of the last call,
or a move has looked for its destination and for nothing else. -/
theorem precondition_failure {σ : Type} (env : Environment σ) (standing : Standing σ)
    (c : Connection) (operation : Operation) {failure : Failure}
    (hvalue : ((c.operate operation).run env standing).value = .error failure)
    (hkind : failure.kind = .precondition) :
    let events := ((c.operate operation).run env standing).events
    events = [] ∨ Relayed events failure ∨ DestinationMissing operation events failure := by
  have hrun := run_admits env (c.operate operation) standing
  rw [hvalue] at hrun
  generalize ((c.operate operation).run env standing).events = events at hrun
  cases operate_failure hrun with
  | refused => exact Or.inl rfl
  | unheld hs line => exact absurd hkind (kind_of_heldSession_error hs)
  | relayed h => exact Or.inr (Or.inl h)
  | destinationMissing h => exact Or.inr (Or.inr h)

/-- No values to set: refused on any connection, here on a closed one. -/
theorem no_values_refused :
    let c : Connection := ⟨⟨"ldap://ds1", .ldap, "ds1", none⟩, {}, "", .closed⟩
    let operation : Operation := .setAttribute "cn=a" "mail" []
    let outcome := (c.operate operation).run obliging ⟨(), 1⟩
    let failure : Failure := .param "no values given for `mail` on cn=a"
    outcome.value = .error failure ∧ failure.kind = .precondition ∧
      (outcome.events = [] ∨ Relayed outcome.events failure ∨
        DestinationMissing operation outcome.events failure) := by
  intro c operation outcome failure
  have hkind : failure.kind = .precondition := by decide
  exact ⟨rfl, hkind, precondition_failure obliging ⟨(), 1⟩ c operation rfl hkind⟩

/-- Two failures of the kind `precondition` after a call: the destination of a move is looked for
and not found, and a server answers with the code of a precondition. -/
theorem missing_destination_asked :
    let c : Connection :=
      ⟨⟨"ldap://ds1", .ldap, "ds1", none⟩, {}, "",
        ⟨.bound, some 0, false, some ⟨.simple, .plain, "ldap://ds1"⟩⟩⟩
    let move := (c.operate (.move "cn=a,dc=org" "ou=gone,dc=org")).run obliging ⟨(), 1⟩
    let refusal : Failure := .param "destination ou=gone,dc=org does not exist"
    let answer : Signal := .withCode 89 "bad parameter"
    let look := (c.operate (.exists? "cn=a,dc=org")).run recounting ⟨[.error answer], 1⟩
    (move.value = .error refusal ∧ refusal.kind = .precondition ∧
      move.events =
        [asking 0 ⟨"ou=gone,dc=org", .baseObject, "(objectclass=*)", ["1.1"]⟩ (.ok []),
          c.note .error ("move_object on ldap://ds1: " ++ refusal.display)]) ∧
    look.value = .error answer.toFailure ∧ answer.toFailure.kind = .precondition ∧
      look.events =
        [asking 0 ⟨"cn=a,dc=org", .baseObject, "(objectclass=*)", ["1.1"]⟩ (.error answer),
          c.note .error ("dn_exists on ldap://ds1: " ++ answer.toFailure.display)] :=
  ⟨⟨rfl, rfl, rfl⟩, rfl, rfl, rfl⟩

end Connection

end LdapClient
