/-
# LdapClient.Proofs.Login.Credentials -- where a password goes

A simple bind hands the password to whoever listens at the other end, so what matters is which
sessions ever receive one.  `IsLoginQuestion` bounds all that is asked from the beginning of a login
to the end of the connection that it brings: what its attempts ask, and later nothing that a bind
would ask, because the connection is bound.  On a connection that was dialed directly the caller
binds, and `live_questions` bounds what is asked.

That a session which receives a simple bind was opened before, and opened over StartTLS where the
parameters ask for it, takes its story (`IsLife.opened_before_call`) and the bound together.  The
main statement is `credentials_protected`.
-/
import LdapClient.Proofs.Login.Failover

namespace LdapClient

open Dialogue

/-! ## Openings in stories -/

theorem IsLife.starts_opened {happenings : List Happening} (h : IsLife happenings) :
    happenings = [] ∨ happenings = [.opened false] ∨
      ∃ later, happenings = .opened true :: later := by
  cases h with
  | unborn => exact Or.inl rfl
  | refused => exact Or.inr (Or.inl rfl)
  | rejected => exact Or.inr (Or.inr ⟨_, rfl⟩)
  | used hopen =>
    obtain ⟨bind, uses, -, -, rfl⟩ := hopen
    exact Or.inr (Or.inr ⟨_, rfl⟩)

/-- A session that receives a call was opened before. -/
theorem IsLife.opened_before_call {before after : List Happening} {made : SessionCall}
    {accepted : Bool} (h : IsLife (before ++ .called made accepted :: after)) :
    .opened true ∈ before := by
  -- a life begins with an opening, so nothing is called first
  cases before with
  | nil => rcases h.starts_opened with h | h | ⟨_, h⟩ <;> cases h
  | cons first before =>
    rcases h.starts_opened with h | h | ⟨_, h⟩
    · cases h
    · simp at h
    · cases h
      exact List.mem_cons_self

theorem connect_of_opened {session : SessionId} {events : List Event}
    (h : .opened true ∈ story session events) :
    ∃ connector server transport,
      Event.exchange (.connect session connector server transport) (.ok () : Except Signal Unit) ∈
        events := by
  obtain ⟨event, hmem, hhappening⟩ := List.mem_filterMap.mp h
  cases event with
  | line line => cases hhappening
  | exchange question answer =>
    cases question with
    | systemResolver => cases hhappening
    | lookup name => cases hhappening
    | connect s connector server transport =>
      simp only [Event.happening?, Option.ite_none_right_eq_some, Option.some.injEq,
        Happening.opened.injEq] at hhappening
      obtain ⟨rfl, haccepted⟩ := hhappening
      rcases answer with signal | ⟨⟨⟩⟩
      · cases haccepted
      · exact ⟨connector, server, transport, hmem⟩
    | call s made => simp [Event.happening?] at hhappening

/-! ## Calls on a connection -/

theorem Phase.Moves.ne_unbound {before after : Phase} (h : before.Moves after)
    (hbefore : before ≠ .unbound) : after ≠ .unbound := by
  cases h with
  | stay => exact hbefore
  | bind => decide
  | fail => decide
  | close => decide

theorem SessionCall.isBind_of_isUse {made : SessionCall} (h : made.isUse = true) :
    made.isBind = false := by
  cases made <;> first | rfl | contradiction

namespace Connection

variable {c : Connection} {history : History} {n m : Nat} {events : List Event}

/-- What holds of a connection as long as it lives bounds what is asked. -/
theorem live_questions (holds : Connection → Prop) {allowed : Question → Prop}
    {after : Connection} {results : List (Except Failure Answer)}
    (hstep : ∀ {c after : Connection} {n m : Nat} {events : List Event},
      holds c → CommandCourse c n events after m → holds after)
    (hallowed : ∀ {c : Connection}, holds c → ∀ question, c.IsCommandQuestion question →
      allowed question)
    (h : (c.live history).Admits n events (results, after) m) (hc : holds c) :
    ∀ event ∈ events, event.IsWithin allowed := by
  obtain ⟨first, last, second, hall, hclose, rfl⟩ := live_course h
  -- the bound on the past cannot be kept alone, it needs what holds of the connection
  have hlast : holds last ∧ ∀ event ∈ first, event.IsWithin allowed := by
    refine performAll_induction
      (fun c _ past => holds c ∧ ∀ event ∈ past, event.IsWithin allowed) ?_ [] hall
      ⟨hc, List.forall_mem_nil _⟩
    rintro c after n m past events ⟨hc, hpast⟩ course
    refine ⟨hstep hc course, List.forall_mem_append.mpr ⟨hpast, fun event hmem => ?_⟩⟩
    exact (course.questions event hmem).mono (hallowed hc)
  refine List.forall_mem_append.mpr ⟨hlast.2, fun event hmem => ?_⟩
  refine (hclose.questions event hmem).mono ?_
  rintro _ ⟨session, rfl⟩
  exact hallowed hlast.1 _ (.unbind session)

/-- The question is no simple bind without a password. -/
def HasPassword (question : Question) : Prop :=
  ∀ session dn, question ≠ .call session (.simpleBind dn "")

theorem live_hasPassword {after : Connection} {results : List (Except Failure Answer)}
    (h : (c.live history).Admits n events (results, after) m) :
    ∀ event ∈ events, event.IsWithin HasPassword := by
  refine live_questions (fun _ => True) (fun _ _ => trivial) ?_ h trivial
  rintro c - question hquestion session dn rfl
  cases hquestion with
  | bind _ _ hpassword => exact hpassword dn rfl
  | use _ hmade => cases hmade

/-- The question is a call, and not a bind. -/
def IsPlain (question : Question) : Prop :=
  ∃ session made, question = .call session made ∧ made.isBind = false

/-- Once the bind of a connection is behind it, no bind is made and the connector is not asked. -/
theorem live_plain {after : Connection} {results : List (Except Failure Answer)}
    (h : (c.live history).Admits n events (results, after) m) (hc : c.phase ≠ .unbound) :
    ∀ event ∈ events, event.IsWithin IsPlain := by
  refine live_questions (fun c => c.phase ≠ .unbound)
    (fun hc course => course.moves.ne_unbound hc) ?_ h hc
  intro c hc question hquestion
  cases hquestion with
  | connect hunbound => exact absurd hunbound hc
  | bind hunbound => exact absurd hunbound hc
  | use session hmade => exact ⟨session, _, rfl, SessionCall.isBind_of_isUse hmade⟩
  | unbind session => exact ⟨session, _, rfl, rfl⟩

end Connection

/-! ## A login and what follows it -/

namespace Login

open Connection

variable {params : Params} {options : DialOptions} {history : History} {n m : Nat}
  {events : List Event}

/-- What is asked from the beginning of a login to the end of the connection that it brings. -/
inductive IsLoginQuestion (params : Params) (options : DialOptions) : Question → Prop
  | resolver {question : Question} (h : IsResolverQuestion question) :
      IsLoginQuestion params options question
  | attempt (hallowed : ensureAllowed params = .ok ()) {question : Question}
      (h : IsAttemptQuestion params (options.withParams params) question) :
      IsLoginQuestion params options question
  | later (session : SessionId) {made : SessionCall} (hmade : made.isBind = false) :
      IsLoginQuestion params options (.call session made)

theorem LoginCourse.questions {result : Except Failure Connection}
    (course : LoginCourse params options n events result m) :
    ∀ event ∈ events, event.IsWithin (IsLoginQuestion params options) := by
  cases course with
  | refused => exact List.forall_mem_nil _
  | lost _ hlookups => exact fun event hmem => (hlookups event hmem).mono fun _ => .resolver
  | tried hallowed hlookups hattempts =>
    refine List.forall_mem_append.mpr ⟨fun event hmem => ?_, fun event hmem => ?_⟩
    · exact (hlookups event hmem).mono fun _ => .resolver
    · exact (hattempts.questions event hmem).mono fun _ => .attempt hallowed

theorem LoginCourse.bound {c : Connection}
    (course : LoginCourse params options n events (.ok c) m) : c.phase = .bound := by
  generalize hresult : Except.ok c = result at course
  cases course with
  | refused => cases hresult
  | lost => cases hresult
  | tried _ _ hattempts =>
    obtain ⟨_, _, _, hphase, _⟩ := hattempts.failsOver.connection c hresult.symm
    exact hphase

/-- Nothing else is asked, whatever the connection is used for. -/
theorem useAndDrop_login_questions {result : Except Failure (List (Except Failure Answer))}
    (h : (useAndDrop (login params options) history).Admits n events result m) :
    ∀ event ∈ events, event.IsWithin (IsLoginQuestion params options) := by
  rcases useAndDrop_course h with ⟨failure, hfailed⟩ | ⟨_, c, _, _, _, _, hlogin, hlive, rfl⟩
  · exact (login_course hfailed).questions
  · have hcourse := login_course hlogin
    refine List.forall_mem_append.mpr ⟨hcourse.questions, fun event hmem => ?_⟩
    -- a login brings a bound connection, so its bind is over
    refine (live_plain hlive ?_ event hmem).mono ?_
    · rw [hcourse.bound]
      decide
    · rintro _ ⟨session, made, rfl, hmade⟩
      exact .later session hmade

/-- A login makes a simple bind only if it was allowed to, with a password, and without GSSAPI. -/
theorem IsLoginQuestion.simpleBind {session : SessionId} {dn password : String}
    (h : IsLoginQuestion params options (.call session (.simpleBind dn password))) :
    params.secured = false ∧ params.wantsGssapi = false ∧ password ≠ "" := by
  cases h with
  | resolver h => cases h
  | later _ hmade => cases hmade
  | attempt hallowed h =>
    -- the bind call of the parameters is a simple bind only without GSSAPI
    generalize hquestion : Question.call session (.simpleBind dn password) = question at h
    cases h with
    | connect => cases hquestion
    | unbind => cases hquestion
    | bind hfits =>
      obtain ⟨-, hmade⟩ := Question.call.inj hquestion
      unfold bindCall at hmade
      split at hmade
      · cases hmade
      · rename_i hmethod
        obtain ⟨-, rfl⟩ := SessionCall.simpleBind.inj hmade
        have hmethod : params.wantsGssapi = false := Bool.eq_false_iff.mpr hmethod
        refine ⟨?_, hmethod, hfits.hasPassword hmethod⟩
        -- a secured login without GSSAPI is not allowed
        cases hsecured : params.secured with
        | false => rfl
        | true =>
          have hgssapi := (ensureAllowed_ok_iff.mp hallowed).2 hsecured
          rw [Params.wantsGssapi, hsecured, hgssapi] at hmethod
          contradiction

/-- A login opens sessions over StartTLS as the parameters say, and then not over implicit TLS. -/
theorem IsLoginQuestion.connect {session : SessionId} {connector : Connector} {server : Address}
    {transport : TransportOptions}
    (h : IsLoginQuestion params options (.connect session connector server transport)) :
    transport.startTls = bindStartTls params ∧
      (params.useStartTls = true → server.scheme ≠ .ldaps) := by
  cases h with
  | resolver h => cases h
  | attempt _ h =>
    cases h with
    | connect hfits => exact ⟨rfl, hfits.upgradable⟩

/-- Parameters that are not allowed are refused at once. -/
theorem login_refused
    (h : params.ensureValid ≠ .ok () ∨ (params.secured = true ∧ params.useGssapi = false))
    (options : DialOptions) : ∃ failure, login params options = done (.error failure) := by
  cases hallowed : ensureAllowed params with
  | error failure => exact ⟨failure, by simp only [login, hallowed, pure_eq_done]⟩
  | ok _ =>
    obtain ⟨hvalid, hmethod⟩ := ensureAllowed_ok_iff.mp hallowed
    rcases h with hbroken | ⟨hsecured, hgssapi⟩
    · exact absurd hvalid hbroken
    · rw [hmethod hsecured] at hgssapi
      contradiction

end Login

/-! ## Simple binds -/

namespace Connection

theorem useAndDrop_dial_hasPassword {address : String} {options : DialOptions} {history : History}
    {n m : Nat} {events : List Event} {result : Except Failure (List (Except Failure Answer))}
    (h : (useAndDrop (dial address options) history).Admits n events result m) :
    ∀ event ∈ events, event.IsWithin HasPassword := by
  rcases useAndDrop_course h with ⟨failure, hfailed⟩ | ⟨_, c, _, _, _, _, hdial, hlive, rfl⟩
  · obtain ⟨-, line, rfl, -⟩ := dial_course hfailed
    exact List.forall_mem_singleton.mpr trivial
  · obtain ⟨-, line, rfl, -⟩ := dial_course hdial
    exact List.forall_mem_cons.mpr ⟨trivial, live_hasPassword hlive⟩

end Connection

/-- The session receives the call. -/
def Receives (session : SessionId) (made : SessionCall) (events : List Event) : Prop :=
  ∃ answer, Event.exchange (.call session made) answer ∈ events

/-- The session was opened, over StartTLS and with a server that has no TLS of its own. -/
structure OpenedByStartTls (session : SessionId) (events : List Event) : Prop where
  opened : ∃ connector server transport,
    Event.exchange (.connect session connector server transport) (.ok () : Except Signal Unit) ∈
      events
  guarded : ∀ connector server transport answer,
    Event.exchange (.connect session connector server transport) answer ∈ events →
      transport.startTls = true ∧ server.scheme ≠ .ldaps

/-- A session that receives a simple bind was opened as the parameters ask. -/
theorem openedByStartTls {params : Params} {options : DialOptions} {before after : List Event}
    {session : SessionId} {dn password : String}
    {answer : (SessionCall.simpleBind dn password).Answer} (htls : params.useStartTls = true)
    (hquestions : ∀ event ∈ before ++ .exchange (.call session (.simpleBind dn password)) answer ::
      after, event.IsWithin (Login.IsLoginQuestion params options))
    (hlife : IsLife (story session
      (before ++ .exchange (.call session (.simpleBind dn password)) answer :: after))) :
    OpenedByStartTls session before := by
  obtain ⟨hbefore, hbind⟩ := List.forall_mem_append.mp hquestions
  have hmethod := (Login.IsLoginQuestion.simpleBind (hbind _ List.mem_cons_self)).2.1
  rw [story_append, story_call, if_pos rfl] at hlife
  refine ⟨connect_of_opened hlife.opened_before_call, ?_⟩
  intro connector server transport opening hopening
  obtain ⟨hstartTls, hscheme⟩ := Login.IsLoginQuestion.connect (hbefore _ hopening)
  rw [hstartTls, Login.bindStartTls, htls, hmethod]
  exact ⟨rfl, hscheme htls⟩

open Login Connection in
/-- Whatever the parameters and the options are, whatever is answered, and however the connection is
used until it is dropped: after a secured login no session receives a simple bind; where the
parameters ask for StartTLS, a session that receives one was opened with it before; no simple bind
goes out without a password, after a login or on a connection that was dialed directly; and
parameters that are not allowed make a login fail before anything is asked or written. -/
theorem credentials_protected {σ : Type} (env : Environment σ) (standing : Standing σ)
    (address : String) (params : Params) (options : DialOptions) (history : History) :
    let loggedIn := (useAndDrop (login params options) history).run env standing
    let dialed := (useAndDrop (dial address options) history).run env standing
    (params.secured = true →
      ∀ session dn password, ¬ Receives session (.simpleBind dn password) loggedIn.events) ∧
    (params.useStartTls = true → ∀ before session dn password answer after,
      loggedIn.events =
          before ++ .exchange (.call session (.simpleBind dn password)) answer :: after →
        OpenedByStartTls session before) ∧
    (∀ session dn, ¬ Receives session (.simpleBind dn "") loggedIn.events ∧
      ¬ Receives session (.simpleBind dn "") dialed.events) ∧
    (params.ensureValid ≠ .ok () ∨ (params.secured = true ∧ params.useGssapi = false) →
      loggedIn.value.isOk = false ∧ loggedIn.events = []) := by
  intro loggedIn dialed
  have hloggedIn := run_admits env (useAndDrop (login params options) history) standing
  have hquestions : ∀ event ∈ loggedIn.events, event.IsWithin (IsLoginQuestion params options) :=
    useAndDrop_login_questions hloggedIn
  refine ⟨fun hsecured session dn password => ?_, fun htls before session dn password answer after
    hevents => ?_, fun session dn => ⟨?_, ?_⟩, fun hrefused => ?_⟩
  · rintro ⟨answer, hmem⟩
    have hsimple := IsLoginQuestion.simpleBind (hquestions _ hmem)
    rw [hsecured] at hsimple
    exact Bool.noConfusion hsimple.1
  · have hsettled := useAndDrop_settled (fun h => login_leaves h (settled_nil _)) hloggedIn
    have hlife : IsLife (story session loggedIn.events) := hsettled.lived session
    rw [hevents] at hlife hquestions
    exact openedByStartTls htls hquestions hlife
  · rintro ⟨answer, hmem⟩
    exact (IsLoginQuestion.simpleBind (hquestions _ hmem)).2.2 rfl
  · rintro ⟨answer, hmem⟩
    have hdialed := run_admits env (useAndDrop (dial address options) history) standing
    exact useAndDrop_dial_hasPassword hdialed _ hmem session dn rfl
  · obtain ⟨failure, hlogin⟩ := login_refused hrefused options
    simp only [loggedIn, useAndDrop, hlogin]
    exact ⟨rfl, rfl⟩

open Login Connection in
/-- A password that goes out after StartTLS. -/
theorem startTls_login_opened :
    let params : Params :=
      { uris := ["ds1"], secured := false, useStartTls := true,
        bindDn := "cn=admin", bindPassword := ⟨"secret"⟩ }
    let events := ((useAndDrop (login params {}) []).run obliging ⟨(), 0⟩).events
    let bind : SessionCall := .simpleBind "cn=admin" "secret"
    ∃ before after,
      events = before ++ .exchange (.call 0 bind) (.ok () : Except Signal Unit) :: after ∧
        OpenedByStartTls 0 before := by
  intro params events bind
  have hlogin := credentials_protected obliging ⟨(), 0⟩ "ds1" params {} []
  have hevents : events =
      events.take 2 ++ .exchange (.call 0 bind) (.ok () : Except Signal Unit) :: events.drop 3 := by
    subst bind events params
    rfl
  exact ⟨_, _, hevents, hlogin.2.1 rfl _ _ _ _ _ _ hevents⟩

end LdapClient
