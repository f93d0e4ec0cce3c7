/-
# LdapClient.Proofs.Connection.Omission -- calls that ask nothing can be left out

`steps` is a run on one connection, call by call, with all that can be seen of each call: its
result, its questions with their answers, its lines, and what the connection shows before and after
it; `Covers` says that this leaves out nothing of the run.  A call is idle if it was refused without
a question, or had no changes to make, or closed what was closed already.

An idle call is not without effect.  A refused GSSAPI bind drops a wish for StartTLS, which is a
part of the state.  But then the connection is no longer unbound, and such a wish is only looked at
while it is: `essence` is the connection without a wish that comes too late, `steps_essence` says
that runs depend on no more, and `IsIdle.essence_eq` that an idle call keeps it.  The main statement
is `omitted_calls_unseen`.
-/
import LdapClient.Proofs.Connection.Verdict
import LdapClient.Proofs.SessionLife

namespace LdapClient

open Dialogue

namespace Dialogue

variable {σ α : Type}

/-- Whoever answers learns nothing from lines. -/
theorem run_world_eq (env : Environment σ) (d : Dialogue α) (standing : Standing σ)
    (h : ∀ event ∈ (d.run env standing).events, event.isLine = true) :
    (d.run env standing).standing.world = standing.world := by
  induction d generalizing standing with
  | done value => rfl
  | ask question next ih =>
    have hfirst := h (.exchange question (env.answer question standing.world).1)
      List.mem_cons_self
    contradiction
  | tell line next ih =>
    exact ih standing fun event hmem => h event (List.mem_cons_of_mem _ hmem)
  | number next ih => exact ih standing.sessions _ h

end Dialogue

namespace Connection

variable {σ : Type}

/-! ## Runs call by call -/

/-- What a connection shows. -/
structure View where
  phase : Phase
  boundUri : Option String
  login : Option LoginMethod
  transport : Option TransportMethod
deriving DecidableEq

/-- What the connection shows. -/
def view (c : Connection) : View :=
  ⟨c.phase, c.binding?.map Binding.uri, c.binding?.map Binding.login,
    c.binding?.map Binding.transport⟩

/-- All that can be seen of one call. -/
structure Step where
  command : Command
  before : View
  result : Except Failure Answer
  events : List Event
  after : View

/-- A call, as it can be seen. -/
def step (env : Environment σ) (c : Connection) (standing : Standing σ) (command : Command) :
    Step :=
  let made := (c.perform command).run env standing
  ⟨command, c.view, made.value.1, made.events, made.value.2.view⟩

/-- The calls of a history, one after the other. -/
def steps (env : Environment σ) (c : Connection) (standing : Standing σ) : History → List Step
  | [] => []
  | command :: history =>
    let made := (c.perform command).run env standing
    step env c standing command :: steps env made.value.2 made.standing history

/-- The steps cover one run: there is one for each call of the history, together they bring and ask
all that the run does, and the connection shows at the end what the last of them says. -/
structure Covers (env : Environment σ) (c : Connection) (standing : Standing σ) (history : History)
    (run : List Step) : Prop where
  commands : run.map Step.command = history
  results : ((c.performAll history).run env standing).value.1 = run.map Step.result
  events : ((c.performAll history).run env standing).events = run.flatMap Step.events
  shown : ((c.performAll history).run env standing).value.2.view =
    (run.getLast?.map Step.after).getD c.view

/-- Taking the calls one by one leaves nothing out and adds nothing. -/
theorem steps_cover (env : Environment σ) (c : Connection) (standing : Standing σ)
    (history : History) : Covers env c standing history (steps env c standing history) := by
  induction history generalizing c standing with
  | nil => exact ⟨rfl, rfl, rfl, rfl⟩
  | cons command history ih =>
    let made := (c.perform command).run env standing
    let later := (made.value.2.performAll history).run env made.standing
    obtain ⟨hcommands, hresults, hevents, hshown⟩ := ih made.value.2 made.standing
    have hrun : (c.performAll (command :: history)).run env standing =
        ⟨(made.value.1 :: later.value.1, later.value.2), later.standing,
          made.events ++ later.events⟩ := by
      simp only [performAll, bind_eq_bind, run_bind, pure_eq_done, run, Outcome.after,
        List.append_nil]
      rfl
    rw [steps]
    constructor
    · exact congrArg (command :: ·) hcommands
    · rw [hrun]
      exact congrArg (made.value.1 :: ·) hresults
    · rw [hrun]
      exact congrArg (made.events ++ ·) hevents
    · rw [hrun, List.getLast?_cons]
      refine hshown.trans ?_
      cases (steps env made.value.2 made.standing history).getLast? <;> rfl

/-- The call was refused without a question, or it had no changes to make, or it closed what was
closed already. -/
inductive Step.IsIdle (step : Step) : Prop
  | refused (hresult : step.result.isOk = false)
      (hevents : ∀ event ∈ step.events, event.isLine = true)
  | unchanging {dn : String} (hcommand : step.command = .operation (.modify ⟨dn, []⟩))
  | closedAgain (hcommand : step.command = .close) (hbefore : step.before.phase = .closed)

/-- The second run is the first without some of its idle calls. -/
inductive Omits : List Step → List Step → Prop
  | nil : Omits [] []
  | keep (step : Step) {run rest : List Step} (h : Omits run rest) :
      Omits (step :: run) (step :: rest)
  | drop {step : Step} (hidle : step.IsIdle) {run rest : List Step} (h : Omits run rest) :
      Omits (step :: run) rest

/-! ## Wishes that come too late -/

/-- The connection without a wish for StartTLS once its bind is behind it. -/
def essence (c : Connection) : Connection :=
  if c.phase = .unbound then c else c.setStartTls false

theorem essence_of_unbound {c : Connection} (h : c.phase = .unbound) : c.essence = c :=
  if_pos h

theorem essence_of_ne {c : Connection} (h : c.phase ≠ .unbound) :
    c.essence = c.setStartTls false :=
  if_neg h

theorem essence_setStartTls {c : Connection} (h : c.phase ≠ .unbound) (wish : Bool) :
    (c.setStartTls wish).essence = c.essence := by
  have hwish : (c.setStartTls wish).phase ≠ .unbound := h
  rw [essence_of_ne h, essence_of_ne hwish]
  rfl

@[simp]
theorem view_essence (c : Connection) : c.essence.view = c.view := by
  unfold essence
  split <;> rfl

/-! ## Calls that are refused -/

section Refused

variable {c : Connection} {failure : Failure}

theorem ensureUnbound_eq_error (h : c.phase ≠ .unbound) :
    ∃ failure, c.ensureUnbound = .error failure := by
  cases hc : c.ensureUnbound with
  | error failure => exact ⟨failure, rfl⟩
  | ok _ => exact absurd (ensureUnbound_ok_iff.mp hc) h

theorem perform_startTls_refused (h : c.ensureUnbound = .error failure) :
    c.perform .startTls = done (.error failure, c) := by
  simp only [perform, startTls, h, pure_eq_done]

theorem perform_simpleBind_empty (c : Connection) (dn : String) :
    c.perform (.simpleBind dn "") = done (Refusal.emptyPassword.refuse, c) :=
  rfl

theorem perform_simpleBind_refused (h : c.ensureUnbound = .error failure) (dn : String)
    {password : String} (hpassword : password.isEmpty = false) :
    c.perform (.simpleBind dn password) = done (.error failure, c) := by
  simp only [perform, simpleBind, hpassword, bindBy, h]
  rfl

/-- The wish for StartTLS is dropped before the phase is looked at. -/
theorem perform_gssapiBind_refused (h : c.ensureUnbound = .error failure) (realm : String)
    (keytab : Option String) :
    c.perform (.gssapiBind realm keytab) = done (.error failure, c.setStartTls false) := by
  have hwish : (c.setStartTls false).ensureUnbound = .error failure := h
  simp only [perform, gssapiBind, bindBy, hwish]
  rfl

theorem perform_close_closed (h : c.phase = .closed) :
    c.perform .close = done (.ok .nothing, c) := by
  simp only [perform, close, if_pos h]
  rfl

end Refused

/-! ## Runs depend on the essence alone -/

theorem perform_operation_run (env : Environment σ) (c : Connection) (standing : Standing σ)
    (operation : Operation) :
    let operated := (c.operate operation).run env standing
    (c.perform (.operation operation)).run env standing =
      ⟨(operated.value, c), operated.standing, operated.events⟩ := by
  simp [perform, run_bind, run, Outcome.after]

theorem operate_setStartTls (c : Connection) (wish : Bool) (operation : Operation) :
    (c.setStartTls wish).operate operation = c.operate operation := by
  cases operation <;> rfl

theorem perform_close_setStartTls {c : Connection} (h : c.phase ≠ .closed) (wish : Bool) :
    (c.setStartTls wish).perform .close = c.perform .close := by
  have hwish : (c.setStartTls wish).phase ≠ .closed := h
  simp only [perform, close, if_neg h, if_neg hwish]
  rfl

/-- Made on the essence of a connection, a call brings the same, asks the same, writes the same
lines and leaves the same essence. -/
theorem perform_essence (env : Environment σ) (c : Connection) (standing : Standing σ)
    (command : Command) :
    let made := (c.perform command).run env standing
    let again := (c.essence.perform command).run env standing
    again.value.1 = made.value.1 ∧ again.events = made.events ∧ again.standing = made.standing ∧
      again.value.2.essence = made.value.2.essence := by
  intro made again
  by_cases hc : c.phase = .unbound
  · have hsame : again = made := by simp only [again, made, essence_of_unbound hc]
    rw [hsame]
    exact ⟨rfl, rfl, rfl, rfl⟩
  have hagain : again = ((c.setStartTls false).perform command).run env standing := by
    simp only [again, essence_of_ne hc]
  have hessence := essence_setStartTls hc false
  obtain ⟨failure, hfailure⟩ := ensureUnbound_eq_error hc
  have hfailure' : (c.setStartTls false).ensureUnbound = .error failure := hfailure
  rw [hagain]
  simp only [made]
  cases command with
  | startTls =>
    rw [perform_startTls_refused hfailure, perform_startTls_refused hfailure']
    exact ⟨rfl, rfl, rfl, hessence⟩
  | simpleBind dn password =>
    by_cases hpassword : password = ""
    · subst hpassword
      exact ⟨rfl, rfl, rfl, hessence⟩
    · have hempty : password.isEmpty = false := by simpa using hpassword
      rw [perform_simpleBind_refused hfailure dn hempty,
        perform_simpleBind_refused hfailure' dn hempty]
      exact ⟨rfl, rfl, rfl, hessence⟩
  | gssapiBind realm keytab =>
    rw [perform_gssapiBind_refused hfailure, perform_gssapiBind_refused hfailure']
    exact ⟨rfl, rfl, rfl, rfl⟩
  | close =>
    by_cases hclosed : c.phase = .closed
    · have hclosed' : (c.setStartTls false).phase = .closed := hclosed
      rw [perform_close_closed hclosed, perform_close_closed hclosed']
      exact ⟨rfl, rfl, rfl, hessence⟩
    · rw [perform_close_setStartTls hclosed]
      exact ⟨rfl, rfl, rfl, rfl⟩
  | operation operation =>
    rw [perform_operation_run, perform_operation_run, operate_setStartTls]
    exact ⟨rfl, rfl, rfl, hessence⟩

/-- Runs on connections of the same essence cannot be told apart. -/
theorem steps_essence (env : Environment σ) (c : Connection) (standing : Standing σ)
    (history : History) : steps env c.essence standing history = steps env c standing history := by
  induction history generalizing c standing with
  | nil => rfl
  | cons command history ih =>
    obtain ⟨hresult, hevents, hstanding, hafter⟩ := perform_essence env c standing command
    have hview := congrArg view hafter
    rw [view_essence, view_essence] at hview
    -- the connections after the call may differ, but not in their essence
    have hrest := ih ((c.essence.perform command).run env standing).value.2
      ((c.essence.perform command).run env standing).standing
    rw [hafter, hstanding, ih] at hrest
    rw [steps, steps, step, step, hresult, hevents, hstanding, hview, view_essence, ← hrest]

theorem steps_congr {env : Environment σ} {c d : Connection} (h : c.essence = d.essence)
    (standing : Standing σ) (history : History) :
    steps env c standing history = steps env d standing history := by
  rw [← steps_essence env c, h, steps_essence]

/-! ## Idle calls -/

section Idle

variable {env : Environment σ} {c : Connection} {standing : Standing σ} {command : Command}

/-- An idle call asks nothing. -/
theorem Step.IsIdle.isLine (h : (step env c standing command).IsIdle) :
    ∀ event ∈ ((c.perform command).run env standing).events, event.isLine = true := by
  cases h with
  | refused hresult hevents => exact hevents
  | unchanging hcommand =>
    obtain rfl : command = .operation (.modify ⟨_, []⟩) := hcommand
    rw [perform_operation_run]
    exact List.forall_mem_nil _
  | closedAgain hcommand hbefore =>
    obtain rfl : command = .close := hcommand
    rw [perform_close_closed hbefore]
    exact List.forall_mem_nil _

/-- A bind that asks nothing was refused. -/
theorem BindCourse.refused_of_isLine {bound : Connection} {method : LoginMethod} {startTls : Bool}
    {made : SessionCall} {n m : Nat} {events : List Event} {result : Except Failure Unit}
    (course : BindCourse c method startTls made n events result bound m)
    (h : ∀ event ∈ events, event.isLine = true) : c.phase ≠ .unbound ∧ bound = c ∧ m = n := by
  cases course with
  | refused hc =>
    refine ⟨fun hphase => ?_, rfl, rfl⟩
    rw [ensureUnbound_ok_iff.mpr hphase] at hc
    contradiction
  | unreachable => exact absurd (h _ List.mem_cons_self) Bool.false_ne_true
  | rejected => exact absurd (h _ List.mem_cons_self) Bool.false_ne_true
  | accepted => exact absurd (h _ List.mem_cons_self) Bool.false_ne_true

/-- An idle call opens no session and leaves the essence of the connection. -/
theorem Step.IsIdle.essence_eq (h : (step env c standing command).IsIdle) :
    let made := (c.perform command).run env standing
    made.standing.sessions = standing.sessions ∧ made.value.2.essence = c.essence := by
  intro made
  have hlines : ∀ event ∈ made.events, event.isLine = true := h.isLine
  have hmade := run_admits env (c.perform command) standing
  cases command with
  | startTls =>
    cases hc : c.startTls with
    | error failure =>
      have hdone : c.perform .startTls = done (.error failure, c) := by
        simp only [perform, hc, pure_eq_done]
      simp only [made, hdone]
      exact ⟨rfl, rfl⟩
    | ok asked =>
      -- a wish that is granted is an answer, so the call is not idle
      have hresult : made.value.1.isOk = true := by
        simp only [made, perform, hc]
        rfl
      cases h with
      | refused hresult' => exact absurd (hresult.symm.trans hresult') (by decide)
      | unchanging hcommand => cases hcommand
      | closedAgain hcommand => cases hcommand
  | simpleBind dn password =>
    obtain ⟨_, -, hbind⟩ := admits_answered hmade
    by_cases hpassword : password.isEmpty = true
    · rw [simpleBind, if_pos hpassword] at hbind
      obtain ⟨-, heq, hsessions⟩ := admits_done.mp hbind
      rw [show made.value.2 = c from congrArg Prod.snd heq]
      exact ⟨hsessions, rfl⟩
    · rw [simpleBind, if_neg hpassword] at hbind
      obtain ⟨-, hbound, hsessions⟩ := (bindBy_course hbind).refused_of_isLine hlines
      rw [show made.value.2 = c from hbound]
      exact ⟨hsessions, rfl⟩
  | gssapiBind realm keytab =>
    obtain ⟨_, -, hbind⟩ := admits_answered hmade
    obtain ⟨hphase, hbound, hsessions⟩ := (bindBy_course hbind).refused_of_isLine hlines
    rw [show made.value.2 = c.setStartTls false from hbound]
    exact ⟨hsessions, essence_setStartTls (c := c) hphase false⟩
  | close =>
    cases h with
    | refused hresult =>
      have hok : made.value.1 = .ok .nothing := by
        simp only [made, perform, bind_eq_bind, run_bind]
        rfl
      rw [show (step env c standing .close).result = made.value.1 from rfl, hok] at hresult
      contradiction
    | unchanging hcommand => cases hcommand
    | closedAgain _ hbefore =>
      simp only [made, perform_close_closed hbefore]
      exact ⟨rfl, rfl⟩
  | operation operation =>
    have hoperated := (c.operate_asks operation).admits
      (run_admits env (c.operate operation) standing)
    rw [show made = _ from perform_operation_run env c standing operation]
    exact ⟨hoperated.1, rfl⟩

/-- After an idle call everything goes on as if it had not been made. -/
theorem Step.IsIdle.steps_eq (h : (step env c standing command).IsIdle) (history : History) :
    let made := (c.perform command).run env standing
    steps env made.value.2 made.standing history = steps env c standing history := by
  intro made
  obtain ⟨hsessions, hessence⟩ := h.essence_eq
  have hstanding : made.standing = standing := by
    have hworld : made.standing.world = standing.world := run_world_eq env _ _ h.isLine
    calc made.standing = ⟨made.standing.world, made.standing.sessions⟩ := rfl
      _ = ⟨standing.world, standing.sessions⟩ := by rw [hworld, hsessions]
      _ = standing := rfl
  rw [hstanding]
  exact steps_congr hessence standing history

end Idle

/-! ## Calls that are refused without a question -/

/-- The calls that a connection refuses by itself. -/
inductive IsRefused (c : Connection) : Command → Prop
  | startTls (hc : c.phase ≠ .unbound ∨ c.address.scheme = .ldaps) : IsRefused c .startTls
  | emptyPassword (dn : String) : IsRefused c (.simpleBind dn "")
  | simpleBind (hc : c.phase ≠ .unbound) (dn password : String) :
      IsRefused c (.simpleBind dn password)
  | gssapiBind (hc : c.phase ≠ .unbound) (realm : String) (keytab : Option String) :
      IsRefused c (.gssapiBind realm keytab)
  | notBound (hc : c.phase ≠ .bound) (operation : Operation) : IsRefused c (.operation operation)
  | emptyAdd {request : ModifyRequest} (h : request.changes.any isEmptyAdd = true) :
      IsRefused c (.operation (.modify request))
  | noValues (object name : String) : IsRefused c (.operation (.setAttribute object name []))
  | malformedRdn (dn : String) {newRdn : String} (h : isRdn newRdn = false) :
      IsRefused c (.operation (.rename dn newRdn))
  | unreadable {dn : String} (container : String) {fault : Dn.Fault}
      (h : Dn.parse dn = .error fault) : IsRefused c (.operation (.move dn container))

theorem isIdle_of_done {env : Environment σ} {c after : Connection} {command : Command}
    {failure : Failure} (h : c.perform command = done (.error failure, after))
    (standing : Standing σ) : (step env c standing command).IsIdle := by
  apply Step.IsIdle.refused
  · rw [step, h]
    rfl
  · rw [step, h]
    exact List.forall_mem_nil _

theorem isIdle_of_failure {env : Environment σ} {c : Connection} {operation : Operation}
    {standing : Standing σ} {failure : Failure}
    (hvalue : ((c.operate operation).run env standing).value = .error failure)
    (hevents : ∀ event ∈ ((c.operate operation).run env standing).events, event.isLine = true) :
    (step env c standing (.operation operation)).IsIdle := by
  apply Step.IsIdle.refused
  · rw [step, perform_operation_run, hvalue]
    rfl
  · rwa [step, perform_operation_run]

/-- An operation whose arguments settle the matter is idle on every connection. -/
theorem Verdict.isIdle {operation : Operation} {code : Option Int} (h : Verdict operation code)
    (env : Environment σ) (c : Connection) (standing : Standing σ) :
    (step env c standing (.operation operation)).IsIdle := by
  obtain ⟨result, hends, hresult⟩ := h.operate_eq
  cases code with
  | none =>
    cases h
    exact .unchanging rfl
  | some code =>
    obtain ⟨failure, rfl, -⟩ := hends
    apply isIdle_of_failure
    · rw [hresult c]
      rfl
    · rw [hresult c]
      exact List.forall_mem_nil _

/-- Without a bind every operation is idle. -/
theorem isIdle_of_ne_bound {c : Connection} (hc : c.phase ≠ .bound) (operation : Operation)
    (env : Environment σ) (standing : Standing σ) :
    (step env c standing (.operation operation)).IsIdle := by
  by_cases hverdict : ∃ code, Verdict operation code
  · obtain ⟨code, hcode⟩ := hverdict
    exact hcode.isIdle env c standing
  · obtain ⟨failure, hs, -⟩ := heldSession_of_ne_bound hc
    obtain ⟨line, hline⟩ := operate_unheld hs (not_exists.mp hverdict)
    apply isIdle_of_failure
    · rw [hline]
      rfl
    · rw [hline]
      exact List.forall_mem_singleton.mpr rfl

/-- What a connection refuses by itself is idle. -/
theorem IsRefused.isIdle {c : Connection} {command : Command} (h : IsRefused c command)
    (env : Environment σ) (standing : Standing σ) : (step env c standing command).IsIdle := by
  cases h with
  | startTls hc =>
    cases hphase : c.ensureUnbound with
    | error failure => exact isIdle_of_done (perform_startTls_refused hphase) standing
    | ok _ =>
      have hscheme := hc.resolve_left (not_not_intro (ensureUnbound_ok_iff.mp hphase))
      have hasked : c.startTls = Refusal.startTlsOverLdaps.refuse := by
        simp only [Connection.startTls, hphase, if_pos hscheme]
      have hdone : c.perform .startTls = done (Refusal.startTlsOverLdaps.refuse, c) := by
        rw [perform, hasked]
        rfl
      exact isIdle_of_done hdone standing
  | emptyPassword dn => exact isIdle_of_done (perform_simpleBind_empty c dn) standing
  | simpleBind hc dn password =>
    obtain ⟨failure, hfailure⟩ := ensureUnbound_eq_error hc
    by_cases hpassword : password = ""
    · subst hpassword
      exact isIdle_of_done (perform_simpleBind_empty c dn) standing
    · have hempty : password.isEmpty = false := by simpa using hpassword
      exact isIdle_of_done (perform_simpleBind_refused hfailure dn hempty) standing
  | gssapiBind hc realm keytab =>
    obtain ⟨failure, hfailure⟩ := ensureUnbound_eq_error hc
    exact isIdle_of_done (perform_gssapiBind_refused hfailure realm keytab) standing
  | notBound hc operation => exact isIdle_of_ne_bound hc operation env standing
  | @emptyAdd request h =>
    obtain ⟨change, hmem, hempty⟩ := List.any_eq_true.mp h
    obtain ⟨hkind, hvalues⟩ := isEmptyAdd_iff.mp hempty
    exact (Verdict.emptyAdd hmem hkind hvalues).isIdle env c standing
  | noValues object name => exact (Verdict.noValues object name).isIdle env c standing
  | malformedRdn dn h => exact (Verdict.malformedRdn dn h).isIdle env c standing
  | unreadable container h => exact (Verdict.unreadable container h).isIdle env c standing

/-! ## Leaving calls out -/

/-- The run of the calls that remain is what remains of the run. -/
theorem Omits.steps_eq {env : Environment σ} {c : Connection} {standing : Standing σ}
    {history : History} {rest : List Step} (h : Omits (steps env c standing history) rest) :
    steps env c standing (rest.map Step.command) = rest := by
  induction history generalizing c standing rest with
  | nil =>
    cases h
    rfl
  | cons command history ih =>
    cases h with
    | keep _ hrest => exact congrArg _ (ih hrest)
    | drop hidle hrest => rw [← hidle.steps_eq, ih hrest]

/-- Whatever idle calls are left out of a run, all other calls bring the same, ask the same, write
the same lines and show the same connection: the steps that remain cover the run of the calls that
remain.  Idle are all calls that a connection refuses by itself. -/
theorem omitted_calls_unseen (env : Environment σ) (c : Connection) (standing : Standing σ)
    (history : History) (rest : List Step) (h : Omits (steps env c standing history) rest) :
    steps env c standing (rest.map Step.command) = rest ∧
      Covers env c standing history (steps env c standing history) ∧
      Covers env c standing (rest.map Step.command) rest ∧
      ∀ command, IsRefused c command → (step env c standing command).IsIdle := by
  have hrest := steps_cover env c standing (rest.map Step.command)
  rw [h.steps_eq] at hrest
  exact ⟨h.steps_eq, steps_cover env c standing history, hrest,
    fun command hrefused => hrefused.isIdle env standing⟩

/-- A second bind, by GSSAPI, drops the wish for StartTLS of a bound connection. -/
theorem second_bind_omitted :
    let c : Connection := ⟨⟨"ldap://ds1", .ldap, "ds1", none⟩, {}, "",
      ⟨.bound, some 0, true, some ⟨.simple, .startTls, "ldap://ds1"⟩⟩⟩
    let run := steps obliging c ⟨(), 1⟩
      [.gssapiBind "ORG" none, .operation (.delete "cn=a"), .close, .close]
    ∃ rest, Omits run rest ∧
      steps obliging c ⟨(), 1⟩ [.operation (.delete "cn=a"), .close] = rest := by
  intro c run
  have hbind : (step obliging c ⟨(), 1⟩ (.gssapiBind "ORG" none)).IsIdle :=
    (IsRefused.gssapiBind (by decide) "ORG" none).isIdle _ _
  have hrest : ∃ rest, Omits run rest ∧
      rest.map Step.command = [.operation (.delete "cn=a"), .close] :=
    ⟨_, .drop hbind (.keep _ (.keep _ (.drop (.closedAgain rfl rfl) .nil))), rfl⟩
  obtain ⟨rest, homits, hcommands⟩ := hrest
  have hsame := (omitted_calls_unseen obliging c ⟨(), 1⟩ _ rest homits).1
  rw [hcommands] at hsame
  exact ⟨rest, homits, hsame⟩

end Connection

end LdapClient
