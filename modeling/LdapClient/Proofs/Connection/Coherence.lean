/-
# LdapClient.Proofs.Connection.Coherence -- the parts of a connection's state agree

The phase, the held session, the wish for StartTLS and the recorded binding of a connection are
written one by one, and each call on the connection has several ways to end.  `State.Coherent` says
how the four agree, `Phase.Moves` which changes of the phase there are.  Both hold for every call
that `CommandCourse` lists, and `performAll_induction` carries them through every history, whatever
the connector and the sessions answer.

The main statement is `reached_state_coherent`.
-/
import LdapClient.Proofs.Connection.Course

namespace LdapClient

open Dialogue

/-- The changes of phase that there are. -/
inductive Phase.Moves : Phase → Phase → Prop
  | stay (phase : Phase) : Moves phase phase
  | bind : Moves .unbound .bound
  | fail : Moves .unbound .failed
  | close (phase : Phase) : Moves phase .closed

namespace Connection

variable {σ : Type}

/-! ## Coherent states -/

/-- The parts of the state agree: a session is held and a binding is recorded just while the
connection is bound, and nothing is left of either, or of a wish for StartTLS, once it is closed. -/
structure State.Coherent (state : State) : Prop where
  bound_iff_session : state.phase = .bound ↔ state.session.isSome = true
  bound_iff_binding : state.phase = .bound ↔ state.binding.isSome = true
  closed_empty : state.phase = .closed →
    state.session = none ∧ state.binding = none ∧ state.startTls = false

theorem coherent_dialed : State.dialed.Coherent := by
  constructor <;> simp [State.dialed]

theorem coherent_closed : State.closed.Coherent := by
  constructor <;> simp [State.closed]

/-- A wish for StartTLS that is dropped, or made before the connection is closed, disturbs
nothing. -/
theorem State.Coherent.setStartTls {c : Connection} (hc : c.state.Coherent) {startTls : Bool}
    (h : c.phase = .closed → startTls = false) : (c.setStartTls startTls).state.Coherent where
  bound_iff_session := hc.bound_iff_session
  bound_iff_binding := hc.bound_iff_binding
  closed_empty hphase := ⟨(hc.closed_empty hphase).1, (hc.closed_empty hphase).2.1, h hphase⟩

/-- An unbound connection holds nothing, so it can fail. -/
theorem State.Coherent.fail {c : Connection} (hc : c.state.Coherent) (h : c.phase = .unbound) :
    (c.enter .failed).state.Coherent := by
  have hphase : c.state.phase ≠ .bound := by
    rw [show c.state.phase = .unbound from h]
    decide
  have hsession := mt hc.bound_iff_session.mpr hphase
  have hbinding := mt hc.bound_iff_binding.mpr hphase
  exact ⟨iff_of_false (by simp [enter]) hsession, iff_of_false (by simp [enter]) hbinding,
    by simp [enter]⟩

theorem coherent_hold (c : Connection) (session : SessionId) (binding : Binding) :
    (c.hold session binding).state.Coherent := by
  constructor <;> simp [hold]

/-! ## One call -/

theorem CloseCourse.coherent {c closed : Connection} {events : List Event}
    (course : CloseCourse c events closed) (hc : c.state.Coherent) :
    closed.state.Coherent ∧ closed.phase = .closed := by
  cases course with
  | already h => exact ⟨hc, h⟩
  | idle => exact ⟨coherent_closed, rfl⟩
  | ending => exact ⟨coherent_closed, rfl⟩

theorem BindCourse.coherent {c bound : Connection} {method : LoginMethod} {startTls : Bool}
    {made : SessionCall} {n m : Nat} {events : List Event} {result : Except Failure Unit}
    (course : BindCourse c method startTls made n events result bound m)
    (hc : c.state.Coherent) : bound.state.Coherent := by
  cases course with
  | refused => exact hc
  | unreachable h => exact hc.fail h
  | rejected h => exact hc.fail h
  | accepted => exact coherent_hold c _ _

theorem BindCourse.moves {c bound : Connection} {method : LoginMethod} {startTls : Bool}
    {made : SessionCall} {n m : Nat} {events : List Event} {result : Except Failure Unit}
    (course : BindCourse c method startTls made n events result bound m) :
    Phase.Moves c.phase bound.phase := by
  cases course with
  | refused => exact .stay c.phase
  | unreachable h => exact h ▸ .fail
  | rejected h => exact h ▸ .fail
  | accepted h => exact h ▸ .bind

/-- Every call keeps the state coherent. -/
theorem CommandCourse.coherent {c after : Connection} {n m : Nat} {events : List Event}
    (course : CommandCourse c n events after m) (hc : c.state.Coherent) :
    after.state.Coherent := by
  cases course with
  | quiet => exact hc
  | wishes h =>
    refine hc.setStartTls fun hclosed => ?_
    rw [h] at hclosed
    contradiction
  | binds _ hwish course =>
    refine course.coherent (hc.setStartTls fun hclosed => ?_)
    rcases hwish with rfl | rfl
    · exact (hc.closed_empty hclosed).2.2
    · rfl
  | operates => exact hc
  | closes course => exact (course.coherent hc).1

/-- Every call leaves the phase alone, binds or fails an unbound connection, or closes. -/
theorem CommandCourse.moves {c after : Connection} {n m : Nat} {events : List Event}
    (course : CommandCourse c n events after m) : Phase.Moves c.phase after.phase := by
  cases course with
  | quiet => exact .stay c.phase
  | wishes => exact .stay c.phase
  | binds _ _ course => exact course.moves
  | operates => exact .stay c.phase
  | closes course =>
    cases course with
    | already => exact .stay c.phase
    | idle => exact .close c.phase
    | ending => exact .close c.phase

/-- The held session of a coherent state is there when the connection is bound. -/
theorem heldSession_ne_noSession {c : Connection} (hc : c.state.Coherent) :
    c.heldSession ≠ Refusal.noSession.refuse := by
  unfold heldSession
  cases hphase : c.phase with
  | bound =>
    obtain ⟨session, hs⟩ := Option.isSome_iff_exists.mp (hc.bound_iff_session.mp hphase)
    simp [hs, Refusal.refuse]
  | unbound => simp [Refusal.refuse, Refusal.toFailure]
  | failed => simp [Refusal.refuse, Refusal.toFailure]
  | closed => simp [Refusal.refuse, Refusal.toFailure, Failure.network]

/-! ## Histories -/

/-- What every call carries from one state and past to the next holds after every history. -/
theorem performAll_induction (holds : Connection → Nat → List Event → Prop)
    (hstep : ∀ {c after : Connection} {n m : Nat} {past events : List Event},
      holds c n past → CommandCourse c n events after m → holds after m (past ++ events))
    {c after : Connection} {history : History} {n m : Nat} (past : List Event) {events : List Event}
    {results : List (Except Failure Answer)}
    (h : (c.performAll history).Admits n events (results, after) m) (hc : holds c n past) :
    holds after m (past ++ events) := by
  induction history generalizing c n past events results with
  | nil =>
    obtain ⟨rfl, heq, rfl⟩ := admits_done.mp h
    cases heq
    simpa using hc
  | cons command history ih =>
    obtain ⟨first, ⟨result, next⟩, k, _, hperform, hrest, rfl⟩ := admits_bind.mp h
    obtain ⟨second, ⟨results, last⟩, _, _, hall, hdone, rfl⟩ := admits_bind.mp hrest
    obtain ⟨rfl, heq, rfl⟩ := admits_done.mp hdone
    cases heq
    rw [List.append_nil, ← List.append_assoc]
    exact ih _ hall (hstep hc (perform_course hperform))

theorem performAll_coherent {c after : Connection} {history : History} {n m : Nat}
    {events : List Event} {results : List (Except Failure Answer)}
    (h : (c.performAll history).Admits n events (results, after) m) (hc : c.state.Coherent) :
    after.state.Coherent :=
  performAll_induction (fun c _ _ => c.state.Coherent) (fun hc course => course.coherent hc) [] h hc

/-- Dialing opens nothing and yields a connection in the state `dialed`. -/
theorem dial_course {address : String} {options : DialOptions} {n m : Nat} {events : List Event}
    {result : Except Failure Connection} (h : (dial address options).Admits n events result m) :
    m = n ∧ ∃ line, events = [.line line] ∧
      ∀ c, result = .ok c → c.options = options ∧ c.state = .dialed ∧
        Address.parse address = .ok c.address := by
  obtain ⟨rfl, hdial⟩ := dial_events h
  cases hread : Address.parse address with
  | error failure =>
    rw [hread] at hdial
    obtain ⟨rfl, rfl⟩ := hdial
    exact ⟨rfl, _, rfl, by simp⟩
  | ok server =>
    rw [hread] at hdial
    obtain ⟨rfl, rfl⟩ := hdial
    refine ⟨rfl, _, rfl, ?_⟩
    rintro c heq
    cases heq
    exact ⟨rfl, rfl, rfl⟩

theorem live_course {c after : Connection} {history : History} {n m : Nat} {events : List Event}
    {results : List (Except Failure Answer)}
    (h : (c.live history).Admits n events (results, after) m) :
    ∃ first last second, (c.performAll history).Admits n first (results, last) m ∧
      CloseCourse last second after ∧ events = first ++ second := by
  obtain ⟨first, ⟨results, last⟩, _, _, hall, hrest, rfl⟩ := admits_bind.mp h
  obtain ⟨second, closed, _, _, hclose, hdone, rfl⟩ := admits_bind.mp hrest
  obtain ⟨rfl, hcourse⟩ := close_course hclose
  obtain ⟨rfl, heq, rfl⟩ := admits_done.mp hdone
  cases heq
  exact ⟨first, last, second, hall, hcourse, by rw [List.append_nil]⟩

/-- Whatever is called on a dialed connection, in any order, and whatever the connector and the
sessions answer: the parts of its state agree, the next call moves the phase only from unbound to
bound or failed, or to closed, and a directory operation changes nothing.  So a bound connection
never lacks its session.  Dropping it leaves it closed. -/
theorem reached_state_coherent (env : Environment σ) (standing : Standing σ) (address : String)
    (options : DialOptions) (history : History) (command : Command) {c : Connection}
    (hc : ((dial address options).run env standing).value = .ok c) :
    let dialed := ((dial address options).run env standing).standing
    let reached := (c.performAll history).run env dialed
    let next := (reached.value.2.perform command).run env reached.standing
    let dropped := (c.live history).run env dialed
    reached.value.2.state.Coherent ∧
      reached.value.2.heldSession ≠ Refusal.noSession.refuse ∧
      Phase.Moves reached.value.2.phase next.value.2.phase ∧
      (∀ operation, command = .operation operation →
        next.value.2.phase = reached.value.2.phase ∧
          next.value.2.binding? = reached.value.2.binding?) ∧
      dropped.value.2.state.Coherent ∧ dropped.value.2.phase = .closed := by
  intro dialed reached next dropped
  have hdial := run_admits env (dial address options) standing
  obtain ⟨-, -, -, hdialed⟩ := dial_course hdial
  have hstart : c.state.Coherent := by
    rw [(hdialed c hc).2.1]
    exact coherent_dialed
  have hall := run_admits env (c.performAll history) dialed
  have hreached : reached.value.2.state.Coherent := performAll_coherent hall hstart
  have hnext := run_admits env (reached.value.2.perform command) reached.standing
  have hlive := run_admits env (c.live history) dialed
  obtain ⟨_, last, _, hall, hclose, -⟩ := live_course hlive
  refine ⟨hreached, heldSession_ne_noSession hreached, (perform_course hnext).moves, ?_,
    hclose.coherent (performAll_coherent hall hstart)⟩
  rintro operation rfl
  have hsame : next.value.2 = reached.value.2 := perform_operation_unchanged hnext
  rw [hsame]
  exact ⟨rfl, rfl⟩

/-- A connection that was bound over StartTLS holds its session. -/
theorem bound_state_coherent :
    let dialed := (dial "ldap://ds1" {}).run obliging ⟨(), 0⟩
    ∃ c, dialed.value = .ok c ∧
      let reached := (c.performAll [.startTls, .simpleBind "cn=admin" "secret"]).run obliging
        dialed.standing
      reached.value.2.phase = .bound ∧ reached.value.2.state.Coherent ∧
        reached.value.2.heldSession ≠ Refusal.noSession.refuse := by
  refine ⟨⟨⟨"ldap://ds1", .ldap, "ds1", none⟩, {}, "", .dialed⟩, rfl, rfl, ?_⟩
  have hreached := reached_state_coherent obliging ⟨(), 0⟩ "ldap://ds1" {}
    [.startTls, .simpleBind "cn=admin" "secret"] .close rfl
  exact ⟨hreached.1, hreached.2.1⟩

end Connection

end LdapClient
