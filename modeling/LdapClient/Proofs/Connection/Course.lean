/-
# LdapClient.Proofs.Connection.Course -- what one call on a connection can do

Each call on a connection is a small conversation.  This module lists, once, the ways in which such
a conversation can go: `CloseCourse` and `BindCourse` give all events of closing and of binding, and
`CommandCourse` puts together what any call can do.  The theorems named `_course` say that nothing
else happens; whatever holds of a connection over time is derived from them.

Directory operations differ in what they ask, but not in this: they only make directory calls, only
to the session that the connection holds, and leave the connection as it is.  `operate_asks` says
so.
-/
import LdapClient.Connection.Command
import LdapClient.Proofs.Conversation

namespace LdapClient

open Dialogue

/-- The call works on the directory. -/
def SessionCall.isUse : SessionCall → Bool
  | search _ => true
  | modify _ _ => true
  | modifyDn _ => true
  | delete _ => true
  | simpleBind _ _ => false
  | gssapiBind _ => false
  | unbind => false

namespace Connection

variable {α : Type}

/-! ## Lines -/

/-- A line in the connection's log, as an event. -/
def note (c : Connection) (level : Level) (text : String) : Event :=
  .line ⟨c.options.logger, level, text⟩

theorem admits_log {c : Connection} {level : Level} {text : String} {n m : Nat}
    {events : List Event} {result : Unit} :
    (c.log level text).Admits n events result m ↔ events = [c.note level text] ∧ m = n :=
  admits_say

/-! ## Dialing -/

/-- Dialing writes one line and asks nothing. -/
theorem dial_events {address : String} {options : DialOptions} {n m : Nat} {events : List Event}
    {result : Except Failure Connection} (h : (dial address options).Admits n events result m) :
    m = n ∧ match Address.parse address with
      | .error failure =>
        result = .error failure ∧ events =
          [.line ⟨options.logger, .error, "dial " ++ address ++ ": " ++ failure.display⟩]
      | .ok server =>
        result = .ok ⟨server, options, "", .dialed⟩ ∧
          events = [.line ⟨options.logger, .debug, "dialed " ++ server.text⟩] := by
  unfold dial at h
  cases hread : Address.parse address with
  | error failure =>
    simp only [hread] at h
    obtain ⟨_, _, _, _, hsay, hdone, rfl⟩ := admits_bind.mp h
    obtain ⟨rfl, rfl⟩ := admits_say.mp hsay
    obtain ⟨rfl, rfl, rfl⟩ := admits_done.mp hdone
    exact ⟨rfl, rfl, rfl⟩
  | ok server =>
    simp only [hread] at h
    obtain ⟨_, _, _, _, hsay, hdone, rfl⟩ := admits_bind.mp h
    obtain ⟨rfl, rfl⟩ := admits_say.mp hsay
    obtain ⟨rfl, rfl, rfl⟩ := admits_done.mp hdone
    exact ⟨rfl, rfl, rfl⟩

/-! ## Closing -/

/-- What follows an unbind when the connection is closed. -/
def farewell (c : Connection) : Except Signal Unit → List Event
  | .ok () => []
  | .error signal =>
    [c.note (if signal.toFailure.isSerious then .error else .debug)
      ("unbind " ++ c.address.text ++ ": " ++ signal.toFailure.display)]

/-- The events of closing a connection, and the connection after them. -/
inductive CloseCourse (c : Connection) : List Event → Connection → Prop
  | already (hc : c.phase = .closed) : CloseCourse c [] c
  | idle (hc : c.phase ≠ .closed) (hs : c.state.session = none) :
      CloseCourse c [c.note .debug ("closed " ++ c.address.text)] { c with state := .closed }
  | ending {session : SessionId} (hc : c.phase ≠ .closed) (hs : c.state.session = some session)
      (answer : Except Signal Unit) :
      CloseCourse c (.exchange (.call session .unbind) answer :: c.farewell answer ++
        [c.note .debug ("closed " ++ c.address.text)]) { c with state := .closed }

theorem CloseCourse.questions {c closed : Connection} {events : List Event}
    (course : CloseCourse c events closed) :
    ∀ event ∈ events, event.IsWithin fun question =>
      ∃ session, question = .call session .unbind := by
  cases course with
  | already => exact List.forall_mem_nil _
  | idle => simp [note, Event.IsWithin]
  | ending _ _ answer => cases answer <;> simp [note, farewell, Event.IsWithin]

theorem release_course {c : Connection} {session : SessionId} {n m : Nat} {events : List Event}
    {result : Unit} (h : (c.release session).Admits n events result m) :
    m = n ∧ ∃ answer : Except Signal Unit,
      events = .exchange (.call session .unbind) answer :: c.farewell answer := by
  obtain ⟨first, reply, k, second, hcall, hrest, rfl⟩ := admits_bind.mp h
  obtain ⟨answer, rfl, rfl, rfl⟩ := admits_call.mp hcall
  rcases answer with signal | ⟨⟨⟩⟩
  · obtain ⟨rfl, rfl⟩ := admits_log.mp hrest
    exact ⟨rfl, .error signal, rfl⟩
  · obtain ⟨rfl, -, rfl⟩ := admits_done.mp hrest
    exact ⟨rfl, .ok (), rfl⟩

theorem close_course {c closed : Connection} {n m : Nat} {events : List Event}
    (h : c.close.Admits n events closed m) : m = n ∧ CloseCourse c events closed := by
  unfold close at h
  split at h
  case isTrue hc =>
    obtain ⟨rfl, rfl, rfl⟩ := admits_done.mp h
    exact ⟨rfl, .already hc⟩
  case isFalse hc =>
    cases hs : c.state.session with
    | none =>
      simp only [hs] at h
      obtain ⟨_, _, _, _, hlog, hdone, rfl⟩ := admits_bind.mp h
      obtain ⟨rfl, rfl⟩ := admits_log.mp hlog
      obtain ⟨rfl, rfl, rfl⟩ := admits_done.mp hdone
      exact ⟨rfl, .idle hc hs⟩
    | some session =>
      simp only [hs] at h
      obtain ⟨_, _, _, _, hgoodbye, hrest, rfl⟩ := admits_bind.mp h
      obtain ⟨rfl, answer, rfl⟩ := release_course hgoodbye
      obtain ⟨_, _, _, _, hlog, hdone, rfl⟩ := admits_bind.mp hrest
      obtain ⟨rfl, rfl⟩ := admits_log.mp hlog
      obtain ⟨rfl, rfl, rfl⟩ := admits_done.mp hdone
      exact ⟨rfl, .ending hc hs answer⟩

/-! ## Binding -/

/-- What follows the unbind after a rejected bind. -/
def abandonment (c : Connection) : Except Signal Unit → List Event
  | .ok () => []
  | .error signal =>
    [c.note .debug
      ("unbind " ++ c.address.text ++ " after rejected bind: " ++ signal.toFailure.display)]

/-- The question that opens the transport of a connection. -/
def opening (c : Connection) (n : Nat) (startTls : Bool) : Question :=
  .connect n c.options.connector c.address (c.options.transport startTls)

/-- The events of a bind, its result, and the connection and the numbered sessions after it. -/
inductive BindCourse (c : Connection) (method : LoginMethod) (startTls : Bool)
    (made : SessionCall) (n : Nat) :
    List Event → Except Failure Unit → Connection → Nat → Prop
  | refused {failure : Failure} (hc : c.ensureUnbound = .error failure) :
      BindCourse c method startTls made n [] (.error failure) c n
  | unreachable (hc : c.phase = .unbound) (signal : Signal) :
      BindCourse c method startTls made n
        [.exchange (c.opening n startTls) (.error signal),
          c.note .error ("connect to " ++ c.address.text ++ ": " ++ signal.toFailure.display)]
        (.error signal.toFailure) (c.enter .failed) (n + 1)
  | rejected (hc : c.phase = .unbound) (signal : Signal) (goodbye : Except Signal Unit) :
      BindCourse c method startTls made n
        ([.exchange (c.opening n startTls) (.ok ()), .exchange (.call n made) (.error signal),
          c.note .error (method.display ++ " bind to " ++ c.address.text ++ ": " ++
            signal.toFailure.display),
          .exchange (.call n .unbind) goodbye] ++ c.abandonment goodbye)
        (.error signal.toFailure) (c.enter .failed) (n + 1)
  | accepted (hc : c.phase = .unbound) (value : made.Value) :
      BindCourse c method startTls made n
        [.exchange (c.opening n startTls) (.ok ()), .exchange (.call n made) (.ok value),
          c.note .debug (method.display ++ " bind to " ++ c.address.text ++ " over " ++
            (TransportMethod.of c.address.scheme startTls).display)]
        (.ok ())
        (c.hold n ⟨method, TransportMethod.of c.address.scheme startTls, c.address.text⟩) (n + 1)

theorem abandon_course {c : Connection} {session : SessionId} {n m : Nat} {events : List Event}
    {result : Unit} (h : (c.abandon session).Admits n events result m) :
    m = n ∧ ∃ answer : Except Signal Unit,
      events = .exchange (.call session .unbind) answer :: c.abandonment answer := by
  obtain ⟨first, reply, k, second, hcall, hrest, rfl⟩ := admits_bind.mp h
  obtain ⟨answer, rfl, rfl, rfl⟩ := admits_call.mp hcall
  rcases answer with signal | ⟨⟨⟩⟩
  · obtain ⟨rfl, rfl⟩ := admits_log.mp hrest
    exact ⟨rfl, .error signal, rfl⟩
  · obtain ⟨rfl, -, rfl⟩ := admits_done.mp hrest
    exact ⟨rfl, .ok (), rfl⟩

theorem ensureUnbound_ok_iff {c : Connection} : c.ensureUnbound = .ok () ↔ c.phase = .unbound := by
  unfold ensureUnbound
  cases c.phase <;> simp [Refusal.refuse]

theorem bindBy_course {c bound : Connection} {method : LoginMethod} {startTls : Bool}
    {made : SessionCall} {n m : Nat} {events : List Event} {result : Except Failure Unit}
    (h : (c.bindBy method startTls made).Admits n events (result, bound) m) :
    BindCourse c method startTls made n events result bound m := by
  unfold bindBy at h
  cases hc : c.ensureUnbound with
  | error failure =>
    rw [hc] at h
    obtain ⟨rfl, heq, rfl⟩ := admits_done.mp h
    cases heq
    exact .refused hc
  | ok _ =>
    have hphase := ensureUnbound_ok_iff.mp hc
    rw [hc] at h
    obtain ⟨first, reply, k, second, hconnect, hrest, rfl⟩ := admits_bind.mp h
    obtain ⟨rfl, answer, rfl, rfl⟩ := admits_connect.mp hconnect
    -- each answer that is a signal ends the bind
    rcases answer with signal | ⟨⟨⟩⟩
    · obtain ⟨_, _, _, _, hlog, hdone, rfl⟩ := admits_bind.mp hrest
      obtain ⟨rfl, rfl⟩ := admits_log.mp hlog
      obtain ⟨rfl, heq, rfl⟩ := admits_done.mp hdone
      cases heq
      exact .unreachable hphase signal
    · obtain ⟨_, _, _, _, hcall, hafter, rfl⟩ := admits_bind.mp hrest
      obtain ⟨answer, rfl, rfl, rfl⟩ := admits_call.mp hcall
      rcases answer with signal | value
      · obtain ⟨_, _, _, _, hlog, hgoodbye, rfl⟩ := admits_bind.mp hafter
        obtain ⟨rfl, rfl⟩ := admits_log.mp hlog
        obtain ⟨_, _, _, _, habandon, hdone, rfl⟩ := admits_bind.mp hgoodbye
        obtain ⟨rfl, goodbye, rfl⟩ := abandon_course habandon
        obtain ⟨rfl, heq, rfl⟩ := admits_done.mp hdone
        cases heq
        rw [List.append_nil]
        exact .rejected hphase signal goodbye
      · obtain ⟨_, _, _, _, hlog, hdone, rfl⟩ := admits_bind.mp hafter
        obtain ⟨rfl, rfl⟩ := admits_log.mp hlog
        obtain ⟨rfl, heq, rfl⟩ := admits_done.mp hdone
        cases heq
        exact .accepted hphase value

/-- What a bind asks of an unbound connection's server: for a session, and of that session the bind
and an unbind. -/
theorem BindCourse.questions {c bound : Connection} {method : LoginMethod} {startTls : Bool}
    {made : SessionCall} {n m : Nat} {events : List Event} {result : Except Failure Unit}
    (course : BindCourse c method startTls made n events result bound m) :
    ∀ event ∈ events, event.IsWithin fun question => c.phase = .unbound ∧
      (question = c.opening n startTls ∨ question = .call n made ∨
        question = .call n .unbind) := by
  cases course with
  | refused => exact List.forall_mem_nil _
  | unreachable hc => simp [hc, note, Event.IsWithin]
  | rejected hc _ goodbye => cases goodbye <;> simp [hc, note, abandonment, Event.IsWithin]
  | accepted hc => simp [hc, note, Event.IsWithin]

/-! ## Directory operations -/

/-- The questions of a directory operation: directory calls to the held session. -/
def Uses (c : Connection) (question : Question) : Prop :=
  ∃ session made, c.heldSession = .ok session ∧ question = .call session made ∧
    made.isUse = true

theorem asks_answerBy {allowed : Question → Prop} {make : α → Answer}
    {d : Dialogue (Except Failure α)} (hd : d.Asks allowed) : (answerBy make d).Asks allowed :=
  hd.bind fun _ => trivial

/-- An operation asks what its use of the held session asks. -/
theorem asks_withSession {c : Connection} {allowed : Question → Prop} {name : String}
    {use : SessionId → Dialogue (Except Failure α)}
    (huse : ∀ session, c.heldSession = .ok session → (use session).Asks allowed) :
    (c.withSession name use).Asks allowed := by
  -- the line at the end asks nothing
  refine Asks.bind ?_ fun result => Asks.bind ?_ fun _ => trivial
  · unfold useSession
    split
    · exact huse _ ‹_›
    · trivial
  · cases result <;> trivial

theorem uses_call {c : Connection} {session : SessionId} {made : SessionCall}
    (hs : c.heldSession = .ok session) (hmade : made.isUse = true) :
    (call session made).Asks c.Uses :=
  asks_call ⟨session, made, hs, rfl, hmade⟩

section Held

variable {c : Connection} {session : SessionId} (hs : c.heldSession = .ok session)
include hs

theorem enumerate_asks (base : String) (scope : Scope) (filter : String) :
    (enumerate session base scope filter).Asks c.Uses := by
  refine (uses_call hs rfl).bind fun result => ?_
  cases result <;> trivial

theorem readEntries_asks (names dns : List String) :
    (readEntries session names dns).Asks c.Uses := by
  induction dns with
  | nil => trivial
  | cons dn dns ih =>
    refine (uses_call hs rfl).bind fun result => ?_
    cases result with
    | error failure => trivial
    | ok found =>
      refine ih.bind fun result => ?_
      cases result <;> trivial

theorem applyChanges_asks (dn : String) (changes : List Change) :
    (applyChanges session dn changes).Asks c.Uses := by
  induction changes with
  | nil => trivial
  | cons change changes ih =>
    refine (uses_call hs rfl).bind fun result => ?_
    cases result with
    | error failure => trivial
    | ok _ => exact ih

theorem probe_asks (dn objectClass : String) : (probe session dn objectClass).Asks c.Uses := by
  refine (uses_call hs rfl).bind fun result => ?_
  cases result with
  | ok found => trivial
  | error failure => dsimp only; split <;> trivial

theorem relocate_asks (dn newRdn container : String) :
    (relocate session dn newRdn container).Asks c.Uses := by
  refine (probe_asks hs _ _).bind fun result => ?_
  rcases result with failure | found | found
  · trivial
  · trivial
  · exact uses_call hs rfl

end Held

theorem search_asks (c : Connection) (request : SearchRequest) :
    (c.search request).Asks c.Uses := by
  refine asks_withSession fun session hs => ?_
  refine (enumerate_asks hs _ _ _).bind fun result => ?_
  cases result with
  | error failure => trivial
  | ok dns =>
    refine (readEntries_asks hs _ dns).bind fun result => ?_
    cases result <;> trivial

theorem modify_asks (c : Connection) (request : ModifyRequest) :
    (c.modify request).Asks c.Uses := by
  unfold modify
  split
  · trivial
  · split
    · trivial
    · exact asks_withSession fun session hs => applyChanges_asks hs _ _

theorem modifyDn_asks (c : Connection) (request : RenameRequest) :
    (c.modifyDn request).Asks c.Uses :=
  asks_withSession fun _ hs => uses_call hs rfl

theorem move_asks (c : Connection) (dn container : String) : (c.move dn container).Asks c.Uses := by
  unfold move
  split
  · trivial
  · exact asks_withSession fun session hs => relocate_asks hs _ _ _

theorem attributes_asks (c : Connection) (object : String) (names : List String) :
    (c.attributes object names).Asks c.Uses := by
  refine asks_withSession fun session hs => (uses_call hs rfl).bind fun result => ?_
  rcases result with failure | found
  · trivial
  · cases found <;> trivial

theorem existsWithClass_asks (c : Connection) (dn objectClass : String) :
    (c.existsWithClass dn objectClass).Asks c.Uses :=
  asks_withSession fun _ hs => probe_asks hs dn objectClass

/-- A directory operation only makes directory calls, and only to the held session. -/
theorem operate_asks (c : Connection) (operation : Operation) :
    (c.operate operation).Asks c.Uses := by
  cases operation with
  | search request => exact asks_answerBy (c.search_asks request)
  | searchDns base scope filter =>
    exact asks_answerBy (asks_withSession fun _ hs => enumerate_asks hs base scope filter)
  | modify request => exact asks_answerBy (c.modify_asks request)
  | modifyDn request => exact asks_answerBy (c.modifyDn_asks request)
  | delete dn => exact asks_answerBy (asks_withSession fun _ hs => uses_call hs rfl)
  | rename dn newRdn =>
    refine asks_answerBy ?_
    unfold rename
    split
    · exact c.modifyDn_asks _
    · trivial
  | move dn container => exact asks_answerBy (c.move_asks dn container)
  | attributes object names => exact asks_answerBy (c.attributes_asks object names)
  | attributeValues object name =>
    refine asks_answerBy ((c.attributes_asks object [name]).bind fun result => ?_)
    cases result <;> trivial
  | setAttribute object name values =>
    refine asks_answerBy ?_
    unfold setAttribute
    split
    · trivial
    · exact asks_withSession fun _ hs => uses_call hs rfl
  | clearAttribute object name =>
    refine asks_answerBy (asks_withSession fun _ hs => (uses_call hs rfl).bind fun result => ?_)
    rcases result with failure | ⟨⟨⟩⟩
    · dsimp only; split <;> trivial
    · trivial
  | exists? dn => exact asks_answerBy (c.existsWithClass_asks dn "*")
  | existsWithClass dn objectClass => exact asks_answerBy (c.existsWithClass_asks dn objectClass)

/-! ## Any call -/

/-- What one call on a connection can do: the events, and the connection and the numbered sessions
after it. -/
inductive CommandCourse (c : Connection) (n : Nat) : List Event → Connection → Nat → Prop
  /-- The call is refused before anything is asked. -/
  | quiet : CommandCourse c n [] c n
  /-- StartTLS is asked for. -/
  | wishes (hc : c.phase = .unbound) : CommandCourse c n [] (c.setStartTls true) n
  /-- A bind, before which a wish for StartTLS may be dropped.  A simple bind has a password. -/
  | binds {method : LoginMethod} {wish startTls : Bool} {made : SessionCall} {events : List Event}
      {result : Except Failure Unit} {bound : Connection} {m : Nat}
      (hmade : made.isBind = true) (hwish : wish = c.state.startTls ∨ wish = false)
      (course : BindCourse (c.setStartTls wish) method startTls made n events result bound m)
      (hpassword : ∀ dn, made ≠ .simpleBind dn "") :
      CommandCourse c n events bound m
  /-- A directory operation. -/
  | operates {events : List Event} (huses : ∀ event ∈ events, event.IsWithin c.Uses) :
      CommandCourse c n events c n
  | closes {events : List Event} {closed : Connection} (course : CloseCourse c events closed) :
      CommandCourse c n events closed n

/-- What a call on a connection asks. -/
inductive IsCommandQuestion (c : Connection) : Question → Prop
  | connect (hc : c.phase = .unbound) (session : SessionId) (transport : TransportOptions) :
      IsCommandQuestion c (.connect session c.options.connector c.address transport)
  | bind (hc : c.phase = .unbound) (session : SessionId) {made : SessionCall}
      (hpassword : ∀ dn, made ≠ .simpleBind dn "") : IsCommandQuestion c (.call session made)
  | use (session : SessionId) {made : SessionCall} (hmade : made.isUse = true) :
      IsCommandQuestion c (.call session made)
  | unbind (session : SessionId) : IsCommandQuestion c (.call session .unbind)

theorem CommandCourse.questions {c after : Connection} {n m : Nat} {events : List Event}
    (course : CommandCourse c n events after m) :
    ∀ event ∈ events, event.IsWithin c.IsCommandQuestion := by
  cases course with
  | quiet => exact List.forall_mem_nil _
  | wishes => exact List.forall_mem_nil _
  | binds _ _ course hpassword =>
    refine fun event hmem => (course.questions event hmem).mono ?_
    rintro question ⟨hc, rfl | rfl | rfl⟩
    · exact IsCommandQuestion.connect (c := c) hc n _
    · exact IsCommandQuestion.bind (c := c) hc n hpassword
    · exact .unbind n
  | operates huses =>
    refine fun event hmem => (huses event hmem).mono ?_
    rintro question ⟨session, made, -, rfl, hmade⟩
    exact .use session hmade
  | closes course =>
    refine fun event hmem => (course.questions event hmem).mono ?_
    rintro question ⟨session, rfl⟩
    exact .unbind session

theorem startTls_eq_ok {c asked : Connection} (h : c.startTls = .ok asked) :
    c.phase = .unbound ∧ c.address.scheme ≠ .ldaps ∧ asked = c.setStartTls true := by
  unfold startTls at h
  cases hc : c.ensureUnbound with
  | error failure => simp [hc] at h
  | ok _ =>
    simp only [hc] at h
    split at h
    · cases h
    · cases h
      exact ⟨ensureUnbound_ok_iff.mp hc, ‹_›, rfl⟩

theorem simpleBind_course {c bound : Connection} {dn password : String} {n m : Nat}
    {events : List Event} {result : Except Failure Unit}
    (h : (c.simpleBind dn password).Admits n events (result, bound) m) :
    CommandCourse c n events bound m := by
  unfold simpleBind at h
  split at h
  · obtain ⟨rfl, heq, rfl⟩ := admits_done.mp h
    cases heq
    exact .quiet
  · rename_i hempty
    refine .binds rfl (Or.inl rfl) (bindBy_course h) fun dn heq => hempty ?_
    rw [(SessionCall.simpleBind.inj heq).2]
    rfl

theorem gssapiBind_course {c bound : Connection} {realm : String} {keytab : Option String}
    {n m : Nat} {events : List Event} {result : Except Failure Unit}
    (h : (c.gssapiBind realm keytab).Admits n events (result, bound) m) :
    CommandCourse c n events bound m :=
  .binds rfl (Or.inr rfl) (bindBy_course h) nofun

/-- The result of a bind is its answer, and nothing else happens. -/
theorem admits_answered {d : Dialogue (Except Failure Unit × Connection)} {after : Connection}
    {n m : Nat} {events : List Event} {answer : Except Failure Answer}
    (h : (d.bind fun made => done (made.1.map fun _ => Answer.nothing, made.2)).Admits n events
      (answer, after) m) :
    ∃ result, answer = result.map (fun _ => .nothing) ∧ d.Admits n events (result, after) m := by
  obtain ⟨events, ⟨result, bound⟩, k, _, hbind, hdone, rfl⟩ := admits_bind.mp h
  obtain ⟨rfl, heq, rfl⟩ := admits_done.mp hdone
  cases heq
  rw [List.append_nil]
  exact ⟨result, rfl, hbind⟩

/-- Nothing but what `CommandCourse` lists happens in a call on a connection. -/
theorem perform_course {c after : Connection} {command : Command} {n m : Nat}
    {events : List Event} {result : Except Failure Answer}
    (h : (c.perform command).Admits n events (result, after) m) :
    CommandCourse c n events after m := by
  cases command with
  | startTls =>
    simp only [perform] at h
    split at h
    · obtain ⟨rfl, heq, rfl⟩ := admits_done.mp h
      cases heq
      exact .quiet
    · rename_i asked hasked
      obtain ⟨rfl, heq, rfl⟩ := admits_done.mp h
      cases heq
      obtain ⟨hc, -, rfl⟩ := startTls_eq_ok hasked
      exact .wishes hc
  | simpleBind dn password =>
    obtain ⟨_, -, hbind⟩ := admits_answered h
    exact simpleBind_course hbind
  | gssapiBind realm keytab =>
    obtain ⟨_, -, hbind⟩ := admits_answered h
    exact gssapiBind_course hbind
  | close =>
    obtain ⟨events, closed, k, _, hclose, hdone, rfl⟩ := admits_bind.mp h
    obtain ⟨rfl, heq, rfl⟩ := admits_done.mp hdone
    cases heq
    rw [List.append_nil]
    obtain ⟨rfl, hcourse⟩ := close_course hclose
    exact .closes hcourse
  | operation operation =>
    obtain ⟨events, result, k, _, hoperate, hdone, rfl⟩ := admits_bind.mp h
    obtain ⟨rfl, heq, rfl⟩ := admits_done.mp hdone
    cases heq
    rw [List.append_nil]
    obtain ⟨rfl, huses⟩ := (c.operate_asks operation).admits hoperate
    exact .operates huses

/-- A directory operation leaves the connection as it is. -/
theorem perform_operation_unchanged {c after : Connection} {operation : Operation} {n m : Nat}
    {events : List Event} {result : Except Failure Answer}
    (h : (c.perform (.operation operation)).Admits n events (result, after) m) : after = c := by
  obtain ⟨_, result, _, _, -, hdone, rfl⟩ := admits_bind.mp h
  obtain ⟨-, heq, -⟩ := admits_done.mp hdone
  cases heq
  rfl

end Connection

end LdapClient
