/-
# LdapClient.Proofs.Connection.Protection -- how a transport is opened and what is shown of it

A wish for StartTLS is made by one call and used by a later one, and what a bound connection shows
of its transport is worked out apart from what the connector was asked.  `Recorded` ties both to the
calls that were made: while a connection is unbound its wish is one that was granted, and once it is
bound there was one opening, and the binding says how that was.  One call keeps this
(`Recorded.perform`), so it holds after every run (`steps_induction`).

The main statement is `transport_selected`.
-/
import LdapClient.Proofs.Connection.Omission

namespace LdapClient

open Dialogue

/-! ## Openings -/

namespace Dialogue

/-- The server that the connector is asked for, and how the transport is to be opened. -/
def Event.opening? : Event → Option (Address × TransportOptions)
  | .exchange (.connect _ _ server transport) _ => some (server, transport)
  | .exchange .systemResolver _ => none
  | .exchange (.lookup _) _ => none
  | .exchange (.call _ _) _ => none
  | .line _ => none

/-- What the connector is asked for in a conversation. -/
def openings (events : List Event) : List (Address × TransportOptions) :=
  events.filterMap Event.opening?

@[simp]
theorem openings_append (first second : List Event) :
    openings (first ++ second) = openings first ++ openings second :=
  List.filterMap_append

theorem openings_eq_nil {events : List Event} (h : events.countP Event.isConnect = 0) :
    openings events = [] := by
  refine List.filterMap_eq_nil_iff.mpr fun event hmem => ?_
  have hevent := List.countP_eq_zero.mp h event hmem
  cases event with
  | line line => rfl
  | exchange question answer =>
    cases question with
    | systemResolver => rfl
    | lookup name => rfl
    | connect => exact absurd rfl hevent
    | call => rfl

end Dialogue

namespace Connection

variable {σ : Type} {env : Environment σ} {c after : Connection} {standing : Standing σ}
  {n m : Nat} {events : List Event}

/-! ## Calls that bind -/

/-- How a call binds, if it does. -/
def Command.method? : Command → Option LoginMethod
  | .simpleBind _ _ => some .simple
  | .gssapiBind _ _ => some .gssapi
  | .startTls => none
  | .close => none
  | .operation _ => none

/-- The wish for StartTLS that a bind comes with; only a simple one heeds it. -/
def wishFor (c : Connection) : LoginMethod → Bool
  | .simple => c.state.startTls
  | .gssapi => false

/-- A call that binds is refused for want of a password, or is a bind with the wish that goes with
its method. -/
theorem perform_bind_course {command : Command} {method : LoginMethod}
    (hmethod : command.method? = some method) {result : Except Failure Answer}
    (h : (c.perform command).Admits n events (result, after) m) :
    (events = [] ∧ result.isOk = false ∧ after = c) ∨
      ∃ made outcome, BindCourse (c.setStartTls (c.wishFor method)) method (c.wishFor method) made
          n events outcome after m ∧ result = outcome.map fun _ => .nothing := by
  cases command with
  | simpleBind dn password =>
    cases hmethod
    obtain ⟨outcome, rfl, hbind⟩ := admits_answered h
    unfold simpleBind at hbind
    split at hbind
    · obtain ⟨rfl, heq, -⟩ := admits_done.mp hbind
      cases heq
      exact Or.inl ⟨rfl, rfl, rfl⟩
    · exact Or.inr ⟨_, outcome, bindBy_course hbind, rfl⟩
  | gssapiBind realm keytab =>
    cases hmethod
    obtain ⟨outcome, rfl, hbind⟩ := admits_answered h
    exact Or.inr ⟨_, outcome, bindBy_course hbind, rfl⟩
  | startTls => cases hmethod
  | close => cases hmethod
  | operation operation => cases hmethod

/-- A bind that is not refused asks the connector once. -/
theorem BindCourse.opens {method : LoginMethod} {startTls : Bool} {made : SessionCall}
    {outcome : Except Failure Unit}
    (course : BindCourse c method startTls made n events outcome after m) :
    (∃ failure, c.ensureUnbound = .error failure ∧ outcome = .error failure ∧ events = [] ∧
        after = c) ∨
      c.phase = .unbound ∧
        openings events = [(c.address, c.options.transport startTls)] ∧
        ((∃ failure, outcome = .error failure ∧ after = c.enter .failed) ∨
          ∃ session, outcome = .ok () ∧ after =
            c.hold session ⟨method, .of c.address.scheme startTls, c.address.text⟩) := by
  cases course with
  | refused hc => exact Or.inl ⟨_, hc, rfl, rfl, rfl⟩
  | unreachable hc => exact Or.inr ⟨hc, rfl, Or.inl ⟨_, rfl, rfl⟩⟩
  | rejected hc _ goodbye =>
    refine Or.inr ⟨hc, ?_, Or.inl ⟨_, rfl, rfl⟩⟩
    cases goodbye <;> rfl
  | accepted hc => exact Or.inr ⟨hc, rfl, Or.inr ⟨_, rfl, rfl⟩⟩

/-- No other call asks the connector. -/
theorem openings_of_no_method {command : Command} (hmethod : command.method? = none)
    {result : Except Failure Answer}
    (h : (c.perform command).Admits n events (result, after) m) : openings events = [] := by
  cases command with
  | simpleBind dn password => cases hmethod
  | gssapiBind realm keytab => cases hmethod
  | startTls =>
    simp only [perform] at h
    split at h <;> (obtain ⟨rfl, -, -⟩ := admits_done.mp h; rfl)
  | close =>
    obtain ⟨_, _, _, _, hclose, hdone, rfl⟩ := admits_bind.mp h
    obtain ⟨rfl, -, -⟩ := admits_done.mp hdone
    rw [List.append_nil]
    exact openings_eq_nil (countP_isConnect_close (close_course hclose).2)
  | operation operation =>
    obtain ⟨_, _, _, _, hoperate, hdone, rfl⟩ := admits_bind.mp h
    obtain ⟨rfl, -, -⟩ := admits_done.mp hdone
    rw [List.append_nil]
    exact openings_eq_nil (countP_isConnect_uses ((c.operate_asks operation).admits hoperate).2)

/-! ## The record of a run -/

/-- The call is a wish for StartTLS that was granted. -/
def Step.IsGrant (step : Step) : Prop :=
  step.command = .startTls ∧ step.result.isOk = true

/-- StartTLS was asked for, and the wish was granted. -/
def AskedFor (past : List Step) : Prop :=
  ∃ step ∈ past, step.IsGrant

/-- What the connector was asked for in a run. -/
def openingsOf (past : List Step) : List (Address × TransportOptions) :=
  openings (past.flatMap Step.events)

/-- A binding comes from this call of the run, the only one to have the connector asked, and says
how it was asked. -/
structure BoundBy (server : Address) (past : List Step) (binding : Binding) (bind : Step)
    (transport : TransportOptions) : Prop where
  made : bind ∈ past
  accepted : bind.result.isOk = true
  login : bind.command.method? = some binding.login
  opened : openings bind.events = [(server, transport)]
  once : openingsOf past = [(server, transport)]
  shown : binding.transport = .of server.scheme transport.startTls
  uri : binding.uri = server.text
  heeded : transport.startTls = true → AskedFor past

/-- What the calls so far say of a connection. -/
structure Recorded (server : Address) (past : List Step) (c : Connection) : Prop where
  address : c.address = server
  coherent : c.state.Coherent
  /-- While it still matters, the wish is one that was granted. -/
  wish : c.phase = .unbound → (c.state.startTls = true ↔ AskedFor past)
  unopened : c.phase = .unbound → openingsOf past = []
  /-- No wish is granted under implicit TLS. -/
  suited : AskedFor past → server.scheme ≠ .ldaps
  bound : ∀ binding, c.binding? = some binding →
    ∃ bind transport, BoundBy server past binding bind transport

theorem askedFor_concat {past : List Step} {step : Step} :
    AskedFor (past ++ [step]) ↔ AskedFor past ∨ step.IsGrant := by
  simp [AskedFor, or_and_right, exists_or]

theorem openingsOf_concat (past : List Step) (step : Step) :
    openingsOf (past ++ [step]) = openingsOf past ++ openings step.events := by
  simp [openingsOf]

theorem binding_eq_none_of_phase_ne_bound (h : c.state.Coherent) (hc : c.phase ≠ .bound) :
    c.binding? = none :=
  Option.not_isSome_iff_eq_none.mp (mt h.bound_iff_binding.mpr hc)

theorem BoundBy.concat {server : Address} {past : List Step} {binding : Binding} {bind : Step}
    {transport : TransportOptions} (h : BoundBy server past binding bind transport) {step : Step}
    (hevents : openings step.events = []) :
    BoundBy server (past ++ [step]) binding bind transport where
  made := List.mem_append_left [step] h.made
  accepted := h.accepted
  login := h.login
  opened := h.opened
  once := by rw [openingsOf_concat, hevents, List.append_nil, h.once]
  shown := h.shown
  uri := h.uri
  heeded htls := askedFor_concat.mpr (Or.inl (h.heeded htls))

section Recorded

variable {server : Address} {past : List Step} {last : Step}

/-- A call that neither opens nor grants anything leaves the record as it is, even where it drops a
wish that came too late. -/
theorem Recorded.keep (h : Recorded server past c) (hgrant : ¬ last.IsGrant)
    (hevents : openings last.events = []) (hcoherent : after.state.Coherent)
    (haddress : after.address = c.address) (hphase : after.phase = c.phase)
    (hbinding : after.binding? = c.binding?)
    (hwish : c.phase = .unbound → after.state.startTls = c.state.startTls) :
    Recorded server (past ++ [last]) after := by
  have hasked : AskedFor (past ++ [last]) ↔ AskedFor past := by simp [askedFor_concat, hgrant]
  refine ⟨haddress.trans h.address, hcoherent, fun hc => ?_, fun hc => ?_, fun hstep => ?_,
    fun binding hb => ?_⟩
  · rw [hphase] at hc
    rw [hwish hc, hasked]
    exact h.wish hc
  · rw [hphase] at hc
    rw [openingsOf_concat, hevents, h.unopened hc, List.append_nil]
  · exact h.suited (hasked.mp hstep)
  · rw [hbinding] at hb
    obtain ⟨bind, transport, hbound⟩ := h.bound binding hb
    exact ⟨bind, transport, hbound.concat hevents⟩

/-- Nothing needs to be said of a connection that is neither unbound nor bound. -/
theorem Recorded.spend (h : Recorded server past c) (hgrant : ¬ last.IsGrant)
    (hcoherent : after.state.Coherent) (haddress : after.address = c.address)
    (hunbound : after.phase ≠ .unbound) (hbound : after.phase ≠ .bound) :
    Recorded server (past ++ [last]) after := by
  refine ⟨haddress.trans h.address, hcoherent, fun hc => absurd hc hunbound,
    fun hc => absurd hc hunbound, fun hstep => ?_, fun binding hb => ?_⟩
  · exact h.suited ((askedFor_concat.mp hstep).resolve_right hgrant)
  · rw [binding_eq_none_of_phase_ne_bound hcoherent hbound] at hb
    contradiction

/-- A wish that is granted is recorded. -/
theorem Recorded.grant (h : Recorded server past c) (hgrant : last.IsGrant)
    (hevents : openings last.events = []) (hc : c.phase = .unbound)
    (hscheme : c.address.scheme ≠ .ldaps) :
    Recorded server (past ++ [last]) (c.setStartTls true) where
  address := h.address
  coherent := by
    refine h.coherent.setStartTls fun hclosed => ?_
    rw [hc] at hclosed
    contradiction
  wish _ := iff_of_true rfl (askedFor_concat.mpr (Or.inr hgrant))
  unopened _ := by rw [openingsOf_concat, hevents, h.unopened hc, List.append_nil]
  suited _ := h.address ▸ hscheme
  bound binding hb := by
    obtain ⟨bind, transport, hbound⟩ := h.bound binding hb
    exact ⟨bind, transport, hbound.concat hevents⟩

theorem Recorded.wishFor_iff (h : Recorded server past c) (hc : c.phase = .unbound)
    (method : LoginMethod) : c.wishFor method = true ↔ method = .simple ∧ AskedFor past := by
  cases method with
  | simple => simpa [wishFor] using h.wish hc
  | gssapi => simp [wishFor]

/-- The connector is asked by calls that bind, and for StartTLS just if it is a simple bind and a
wish for it was granted before. -/
theorem Recorded.opens (h : Recorded server past c) {command : Command}
    {result : Except Failure Answer}
    (hmade : (c.perform command).Admits n events (result, after) m) :
    ∀ opening ∈ openings events, ∃ method, command.method? = some method ∧
      opening.1 = server ∧
      (opening.2.startTls = true ↔ method = .simple ∧ AskedFor past) := by
  intro opening hmem
  cases hmethod : command.method? with
  | none =>
    rw [openings_of_no_method hmethod hmade] at hmem
    contradiction
  | some method =>
    rcases perform_bind_course hmethod hmade with ⟨rfl, -, -⟩ | ⟨_, _, course, -⟩
    · contradiction
    · rcases course.opens with ⟨_, -, -, rfl, -⟩ | ⟨hc, hopenings, -⟩
      · contradiction
      · rw [hopenings] at hmem
        obtain rfl := List.mem_singleton.mp hmem
        exact ⟨method, rfl, h.address, h.wishFor_iff hc method⟩

/-- A bind that is accepted is recorded. -/
theorem Recorded.hold (h : Recorded server past c) (hc : c.phase = .unbound)
    {method : LoginMethod} {session : SessionId} (hmethod : last.command.method? = some method)
    (hresult : last.result.isOk = true)
    (hevents : openings last.events =
      [(c.address, c.options.transport (c.wishFor method))])
    (hafter : after = (c.setStartTls (c.wishFor method)).hold session
      ⟨method, .of c.address.scheme (c.wishFor method), c.address.text⟩) :
    Recorded server (past ++ [last]) after := by
  have hserver := h.address
  subst hserver hafter
  have hgrant : ¬ last.IsGrant := by
    rintro ⟨hcommand, -⟩
    rw [hcommand] at hmethod
    contradiction
  refine ⟨rfl, coherent_hold _ _ _, nofun, nofun, fun hstep => ?_, fun binding hb => ?_⟩
  · exact h.suited ((askedFor_concat.mp hstep).resolve_right hgrant)
  · cases hb
    exact ⟨last, _, {
      made := List.mem_append_right past List.mem_cons_self
      accepted := hresult
      login := hmethod
      opened := hevents
      once := by rw [openingsOf_concat, h.unopened hc, hevents, List.nil_append]
      shown := rfl
      uri := rfl
      heeded := fun htls => askedFor_concat.mpr (Or.inl ((h.wishFor_iff hc method).mp htls).2) }⟩

section Perform

variable {command : Command} (standing : Standing σ)

theorem Recorded.perform_bind (h : Recorded server past c) {method : LoginMethod}
    (hmethod : command.method? = some method) :
    Recorded server (past ++ [step env c standing command])
      ((c.perform command).run env standing).value.2 := by
  have hmade := run_admits env (c.perform command) standing
  have hcoherent := (perform_course hmade).coherent h.coherent
  have hgrant : ¬ (step env c standing command).IsGrant := by
    rintro ⟨hcommand, -⟩
    rw [show command = .startTls from hcommand] at hmethod
    contradiction
  rcases perform_bind_course hmethod hmade with
    ⟨hevents, -, hafter⟩ | ⟨_, outcome, course, hresult⟩
  · have hopenings := congrArg openings hevents
    exact h.keep hgrant hopenings hcoherent (by rw [hafter]) (by rw [hafter]) (by rw [hafter])
      fun _ => by rw [hafter]
  · rcases course.opens with ⟨failure, hc, -, hevents, hafter⟩ |
      ⟨hc, hopenings, ⟨failure, -, hafter⟩ | ⟨session, houtcome, hafter⟩⟩
    · -- the bind came too late, and so did the wish that it may have dropped
      have hopenings := congrArg openings hevents
      refine h.keep hgrant hopenings hcoherent (by rw [hafter]; rfl) (by rw [hafter]; rfl)
        (by rw [hafter]; rfl) fun hphase => ?_
      have hunbound : (c.setStartTls (c.wishFor method)).phase = .unbound := hphase
      rw [ensureUnbound_ok_iff.mpr hunbound] at hc
      contradiction
    · refine h.spend hgrant hcoherent ?_ ?_ ?_ <;> rw [hafter]
      · rfl
      · exact nofun
      · exact nofun
    · refine h.hold hc hmethod ?_ hopenings hafter
      show ((c.perform command).run env standing).value.1.isOk = true
      rw [hresult, houtcome]
      rfl

theorem Recorded.perform_startTls (h : Recorded server past c) :
    Recorded server (past ++ [step env c standing .startTls])
      ((c.perform .startTls).run env standing).value.2 := by
  cases hasked : c.startTls with
  | error failure =>
    have hmade : (c.perform .startTls).run env standing = ⟨(.error failure, c), standing, []⟩ := by
      simp only [perform, hasked, pure_eq_done, run]
    rw [step, hmade]
    exact h.keep (fun hgrant => Bool.noConfusion hgrant.2) rfl h.coherent rfl rfl rfl fun _ => rfl
  | ok asked =>
    obtain ⟨hphase, hscheme, rfl⟩ := startTls_eq_ok hasked
    have hmade : (c.perform .startTls).run env standing =
        ⟨(.ok .nothing, c.setStartTls true), standing, []⟩ := by
      simp only [perform, hasked, pure_eq_done, run]
    rw [step, hmade]
    exact h.grant ⟨rfl, rfl⟩ rfl hphase hscheme

theorem Recorded.perform_close (h : Recorded server past c) :
    Recorded server (past ++ [step env c standing .close])
      ((c.perform .close).run env standing).value.2 := by
  have hmade := run_admits env (c.perform .close) standing
  have hopenings := openings_of_no_method rfl hmade
  have hcoherent := (perform_course hmade).coherent h.coherent
  have hgrant : ¬ (step env c standing .close).IsGrant := fun hgrant => nomatch hgrant.1
  obtain ⟨_, closed, _, _, hclose, hdone, -⟩ := admits_bind.mp hmade
  obtain ⟨-, heq, -⟩ := admits_done.mp hdone
  have hafter : ((c.perform .close).run env standing).value.2 = closed := congrArg Prod.snd heq
  have hcourse := (close_course hclose).2
  rw [hafter] at hcoherent ⊢
  cases hcourse with
  | already => exact h.keep hgrant hopenings hcoherent rfl rfl rfl fun _ => rfl
  | idle => exact h.spend hgrant hcoherent rfl nofun nofun
  | ending => exact h.spend hgrant hcoherent rfl nofun nofun

end Perform

/-- Every call keeps the record. -/
theorem Recorded.perform (h : Recorded server past c) (standing : Standing σ)
    (command : Command) :
    Recorded server (past ++ [step env c standing command])
      ((c.perform command).run env standing).value.2 := by
  cases command with
  | simpleBind dn password => exact h.perform_bind standing rfl
  | gssapiBind realm keytab => exact h.perform_bind standing rfl
  | startTls => exact h.perform_startTls standing
  | close => exact h.perform_close standing
  | operation operation =>
    have hmade := run_admits env (c.perform (.operation operation)) standing
    have hopenings := openings_of_no_method rfl hmade
    have hafter := perform_operation_unchanged hmade
    have hcoherent := (perform_course hmade).coherent h.coherent
    exact h.keep (fun hgrant => nomatch hgrant.1) hopenings hcoherent (by rw [hafter])
      (by rw [hafter]) (by rw [hafter]) fun _ => by rw [hafter]

end Recorded

/-! ## Whole runs -/

/-- What every call carries on holds after every run. -/
theorem steps_induction (holds : Connection → List Step → Prop)
    (hstep : ∀ {c : Connection} {past : List Step} (standing : Standing σ) (command : Command),
      holds c past →
        holds ((c.perform command).run env standing).value.2 (past ++ [step env c standing command]))
    {past : List Step} (hc : holds c past) (standing : Standing σ) (history : History) :
    holds ((c.performAll history).run env standing).value.2
      (past ++ steps env c standing history) := by
  induction history generalizing c past standing with
  | nil =>
    rw [steps, List.append_nil]
    exact hc
  | cons command history ih =>
    let made := (c.perform command).run env standing
    have hrest := ih (hstep standing command hc) made.standing
    rw [List.append_assoc] at hrest
    have hlast : ((c.performAll (command :: history)).run env standing).value.2 =
        ((made.value.2.performAll history).run env made.standing).value.2 := by
      simp only [performAll, bind_eq_bind, run_bind, pure_eq_done, run, Outcome.after, made]
    rw [hlast]
    exact hrest

theorem recorded_dialed (hc : c.state = .dialed) : Recorded c.address [] c where
  address := rfl
  coherent := hc ▸ coherent_dialed
  wish _ := by simp [hc, State.dialed, AskedFor]
  unopened _ := rfl
  suited h := by simp [AskedFor] at h
  bound binding hb := by simp [binding?, hc, State.dialed] at hb

theorem run_recorded {address : String} {options : DialOptions} {standing : Standing σ}
    (hc : ((dial address options).run env standing).value = .ok c) (history : History) :
    let dialed := ((dial address options).run env standing).standing
    Recorded c.address (steps env c dialed history)
      ((c.performAll history).run env dialed).value.2 := by
  intro dialed
  obtain ⟨-, -, -, hdialed⟩ := dial_course (run_admits env (dial address options) standing)
  have hstart := recorded_dialed (hdialed c hc).2.1
  exact steps_induction (fun c past => Recorded _ past c) (fun standing command h =>
    h.perform standing command) hstart dialed history

/-- What a bound connection shows agrees with the bind that was accepted and the one opening. -/
theorem Recorded.view {server : Address} {past : List Step} (h : Recorded server past c)
    (hc : c.phase = .bound) :
    ∃ bind ∈ past, ∃ transport, bind.result.isOk = true ∧
      openings bind.events = [(server, transport)] ∧
      openingsOf past = [(server, transport)] ∧
      c.view.login = bind.command.method? ∧ c.view.boundUri = some server.text ∧
      (c.view.transport = some .ldaps ↔ server.scheme = .ldaps) ∧
      (c.view.transport = some .startTls ↔ transport.startTls = true) ∧
      (c.view.transport = some .plain ↔ server.scheme ≠ .ldaps ∧ transport.startTls = false) := by
  obtain ⟨binding, hb⟩ := Option.isSome_iff_exists.mp (h.coherent.bound_iff_binding.mp hc)
  obtain ⟨bind, transport, hbound⟩ := h.bound binding hb
  have hbinding : c.binding? = some binding := hb
  have hsuited : transport.startTls = true → server.scheme ≠ .ldaps :=
    fun htls => h.suited (hbound.heeded htls)
  refine ⟨bind, hbound.made, transport, hbound.accepted, hbound.opened, hbound.once, ?_, ?_, ?_⟩
  · simp only [Connection.view, hbinding, Option.map_some, hbound.login]
  · simp only [Connection.view, hbinding, Option.map_some, hbound.uri]
  · simp only [Connection.view, hbinding, Option.map_some, hbound.shown, TransportMethod.of]
    by_cases hscheme : server.scheme = .ldaps
    · have htls : transport.startTls = false := by
        simpa using mt hsuited (not_not_intro hscheme)
      simp [hscheme, htls]
    · cases transport.startTls <;> simp [hscheme]

/-- Whatever is called on a dialed connection, in any order, and whatever is answered: the connector
is asked for a transport by calls that bind, and for StartTLS just if the call is a simple bind and
StartTLS was granted by an earlier call, which never happens under implicit TLS.  While the
connection is bound, it shows the method of the bind that was accepted, the dialed address and the
protection of the one transport that was asked for; otherwise it shows none of these. -/
theorem transport_selected (env : Environment σ) (standing : Standing σ) (address : String)
    (options : DialOptions) (history : History) (command : Command) {c : Connection}
    (hc : ((dial address options).run env standing).value = .ok c) :
    let dialed := ((dial address options).run env standing).standing
    let past := steps env c dialed history
    let reached := (c.performAll history).run env dialed
    let next := step env reached.value.2 reached.standing command
    let view := reached.value.2.view
    (∀ opening ∈ openings next.events, ∃ method, command.method? = some method ∧
      opening.1 = c.address ∧
      (opening.2.startTls = true ↔ method = .simple ∧ AskedFor past) ∧
      (opening.2.startTls = true → c.address.scheme ≠ .ldaps)) ∧
    (view.phase = .bound → ∃ bind ∈ past, ∃ transport, bind.result.isOk = true ∧
      openings bind.events = [(c.address, transport)] ∧
      openingsOf past = [(c.address, transport)] ∧
      view.login = bind.command.method? ∧ view.boundUri = some c.address.text ∧
      (view.transport = some .ldaps ↔ c.address.scheme = .ldaps) ∧
      (view.transport = some .startTls ↔ transport.startTls = true) ∧
      (view.transport = some .plain ↔
        c.address.scheme ≠ .ldaps ∧ transport.startTls = false)) ∧
    (view.phase ≠ .bound → view.login = none ∧ view.boundUri = none ∧ view.transport = none) := by
  intro dialed past reached next view
  have hrecorded : Recorded c.address past reached.value.2 := run_recorded hc history
  refine ⟨fun opening hmem => ?_, hrecorded.view, fun hphase => ?_⟩
  · have hmade := run_admits env (reached.value.2.perform command) reached.standing
    obtain ⟨method, hmethod, hserver, htls⟩ := hrecorded.opens hmade opening hmem
    exact ⟨method, hmethod, hserver, htls, fun h => hrecorded.suited (htls.mp h).2⟩
  · have hnone : reached.value.2.binding? = none :=
      binding_eq_none_of_phase_ne_bound hrecorded.coherent hphase
    simp [view, Connection.view, hnone]

/-- A simple bind after a wish for StartTLS opens the transport with it, and the connection shows
that. -/
theorem startTls_selected :
    let dialed := (dial "ldap://ds1" {}).run obliging ⟨(), 0⟩
    ∃ c, dialed.value = .ok c ∧
      let asked := (c.performAll [.startTls]).run obliging dialed.standing
      let bind := step obliging asked.value.2 asked.standing (.simpleBind "cn=admin" "secret")
      let bound := (c.performAll [.startTls, .simpleBind "cn=admin" "secret"]).run obliging
        dialed.standing
      (∃ opening ∈ openings bind.events, opening.2.startTls = true ∧
        c.address.scheme ≠ .ldaps) ∧
      bound.value.2.view.phase = .bound ∧ bound.value.2.view.transport = some .startTls := by
  let c : Connection := ⟨⟨"ldap://ds1", .ldap, "ds1", none⟩, {}, "", .dialed⟩
  let bind : Command := .simpleBind "cn=admin" "secret"
  refine ⟨c, rfl, ?_, rfl, ?_⟩
  · have hselected := transport_selected obliging ⟨(), 0⟩ "ldap://ds1" {} [.startTls] bind
      (c := c) rfl
    have hmem := List.mem_singleton_self (c.address, c.options.transport true)
    obtain ⟨_, -, -, -, hscheme⟩ := hselected.1 _ hmem
    exact ⟨_, hmem, rfl, hscheme rfl⟩
  · have hselected := transport_selected obliging ⟨(), 0⟩ "ldap://ds1" {} [.startTls, bind] .close
      (c := c) rfl
    obtain ⟨_, -, transport, -, -, honce, -, -, -, hstartTls, -⟩ := hselected.2.1 rfl
    have htransport : c.options.transport true = transport :=
      (Prod.mk.inj (List.cons.inj honce).1).2
    exact hstartTls.mpr (htransport ▸ rfl)

end Connection

end LdapClient
