/-
# LdapClient.Proofs.Login.Failover -- a login tries its servers in order

`FailsOver` says all that there is to say about the attempts of a login: which servers they are for,
what each of them does, where they stop, and what the login brings.  It is read off `Attempts` by
induction.

That a failed attempt is over before the next one begins is said of the events themselves:
`Orderly` means that whenever the connector is asked, every session that there was has been
unbound.  The main statement is `login_fails_over`.
-/
import LdapClient.Proofs.Login.SessionLife
import LdapClient.Proofs.Text.Trim
import Mathlib.Data.List.Infix

namespace LdapClient.Login

open Dialogue Connection Text

variable {params : Params} {options : DialOptions} {n m : Nat} {past events : List Event}

/-! ## Addresses -/

theorem address_text {text : String} {server : Address} (h : Address.parse text = .ok server) :
    server.text = trimmed text := by
  unfold Address.parse at h
  split at h
  · cases h
  · split at h
    · cases h
      rfl
    · cases h

theorem toList_trimmed (text : String) : (trimmed text).toList = trim text.toList :=
  String.toList_ofList

/-- A text without blanks at its ends stays as it is. -/
theorem trimmed_eq_self {text : String} (h : Tight text.toList) : trimmed text = text := by
  rw [trimmed, h.trim_eq, String.ofList_toList]

/-- The address of a server with its scheme: a text that holds the marks behind a scheme anywhere
has one already. -/
def completed (useLdaps : Bool) (uri : String) : String :=
  if [':', '/', '/'] <:+: (trimmed uri).toList then trimmed uri
  else (if useLdaps then "ldaps://" else "ldap://") ++ trimmed uri

theorem hasScheme_iff {text : List Char} :
    hasScheme text = true ↔ [':', '/', '/'] <:+: text := by
  induction text with
  | nil => simp [hasScheme]
  | cons c rest ih =>
    rw [hasScheme, Bool.or_eq_true, Bool.and_eq_true, decide_eq_true_iff,
      List.isPrefixOf_iff_prefix, ih, List.infix_cons_iff, List.cons_prefix_cons, and_comm,
      @eq_comm _ c]

theorem addressOf_eq (useLdaps : Bool) (uri : String) :
    addressOf useLdaps uri = completed useLdaps uri := by
  unfold addressOf completed
  rw [toList_trimmed]
  simp only [hasScheme_iff]

/-- No blanks are left at the ends of an address, with or without a scheme of its own. -/
theorem tight_completed (useLdaps : Bool) (uri : String) :
    Tight (completed useLdaps uri).toList := by
  have huri : Tight (trimmed uri).toList := by
    rw [toList_trimmed]
    exact trim_tight _
  unfold completed
  split
  · exact huri
  · generalize hscheme : (if useLdaps then "ldaps://" else "ldap://" : String) = scheme
    have htight : Tight scheme.toList ∧ scheme.toList ≠ [] := by
      subst hscheme
      cases useLdaps <;> exact ⟨tight_iff_trim_eq.mpr (by decide), by decide⟩
    rw [String.toList_append]
    by_cases hempty : (trimmed uri).toList = []
    · rw [hempty, List.append_nil]
      exact htight.1
    · simpa using htight.1.enclose huri htight.2 hempty []

/-! ## One session at a time -/

/-- After such a past, whenever the connector is asked, all stories so far are complete. -/
def Orderly : List Event → List Event → Prop
  | _, [] => True
  | past, event :: later =>
    (event.isConnect = true → ∀ session, IsLife (story session past)) ∧
      Orderly (past ++ [event]) later

theorem Orderly.append {second : List Event} (h : Orderly past events)
    (hsecond : Orderly (past ++ events) second) : Orderly past (events ++ second) := by
  induction events generalizing past with
  | nil => rwa [List.append_nil] at hsecond
  | cons event events ih =>
    refine ⟨h.1, ih h.2 ?_⟩
    rwa [List.append_cons] at hsecond

theorem orderly_of_quiet (h : ∀ event ∈ events, event.isConnect = false) :
    Orderly past events := by
  induction events generalizing past with
  | nil => trivial
  | cons event events ih =>
    have hevent := h event List.mem_cons_self
    exact ⟨fun hconnect => by rw [hevent] at hconnect; contradiction,
      ih fun e he => h e (List.mem_cons_of_mem event he)⟩

theorem Orderly.before {before after : List Event} {event : Event}
    (h : Orderly past (before ++ event :: after)) (hevent : event.isConnect = true)
    (session : SessionId) : IsLife (story session (past ++ before)) := by
  induction before generalizing past with
  | nil =>
    rw [List.append_nil]
    exact h.1 hevent session
  | cons first before ih =>
    rw [List.append_cons]
    exact ih h.2

theorem bindAttempt_orderly {server : Address} {result : Except Failure Unit} {bound : Connection}
    (course : BindAttempt params options server n events result bound m)
    (hpast : Settled n past) : Orderly past events := by
  -- the connector is asked first or not at all
  cases course with
  | refused => trivial
  | unreachable =>
    exact ⟨fun _ => hpast.lived, orderly_of_quiet (by simp [note, Event.isConnect])⟩
  | rejected _ _ goodbye =>
    refine ⟨fun _ => hpast.lived, orderly_of_quiet ?_⟩
    cases goodbye <;> simp [note, abandonment, Event.isConnect]
  | accepted =>
    exact ⟨fun _ => hpast.lived, orderly_of_quiet (by simp [note, Event.isConnect])⟩

theorem AttemptCourse.orderly {address : String} {result : Except Failure Connection}
    (course : AttemptCourse params options address n events result m) (hpast : Settled n past) :
    Orderly past events := by
  have hdialed : ∀ server, Settled n (past ++ [dialedNote server options]) := fun server =>
    hpast.append_quiet fun _ => rfl
  cases course with
  | unread => exact orderly_of_quiet (by simp [Event.isConnect])
  | unsuited => exact orderly_of_quiet (by simp [dialedNote, closedNote, Event.isConnect])
  | passwordless => exact orderly_of_quiet (by simp [dialedNote, closedNote, Event.isConnect])
  | @failed server _ _ _ _ _ _ course =>
    refine ⟨fun h => absurd h Bool.false_ne_true, ?_⟩
    have hbind := bindAttempt_orderly course (hdialed server)
    exact hbind.append (orderly_of_quiet (by simp [closedNote, Event.isConnect]))
  | @bound server _ _ _ _ _ course =>
    exact ⟨fun h => absurd h Bool.false_ne_true, bindAttempt_orderly course (hdialed server)⟩

/-- A failed attempt is over before the next one begins. -/
theorem Attempts.orderly {uris : List String} {attempts : List Attempt}
    (h : Attempts params options uris n attempts m) (hpast : Settled n past) :
    Orderly past (attempts.flatMap (Attempt.trace params options)) := by
  -- the past grows with each attempt, and stays settled because a failed one leaves nothing open
  induction h generalizing past with
  | exhausted => trivial
  | success course =>
    rw [List.flatMap_singleton]
    exact course.orderly hpast
  | failure course _ ih =>
    have hsettled : Settled _ (past ++ _) := course.leaves hpast
    rw [List.flatMap_cons, Attempt.trace]
    refine Orderly.append ((course.orderly hpast).append (orderly_of_quiet ?_)) (ih ?_)
    · simp [Event.isConnect]
    · rw [← List.append_assoc]
      exact hsettled.append_quiet fun _ => rfl

/-! ## Which attempts are made -/

/-- How a login to these servers goes: which attempts there are, where they stop, and what comes of
them. -/
structure FailsOver (params : Params) (options : DialOptions) (uris : List String)
    (attempts : List Attempt) (result : Except Failure Connection) : Prop where
  /-- The servers are tried in order, and none is left out. -/
  inOrder : attempts.map Attempt.uri <+: uris
  /-- An attempt dials, protects and binds, and does nothing else. -/
  each : ∀ attempt ∈ attempts, ∃ n m, AttemptCourse params options
    (completed params.useLdaps attempt.uri) n attempt.events attempt.result m
  /-- Nothing follows an attempt that succeeds. -/
  stops : ∀ attempt ∈ attempts.dropLast, attempt.succeeded = false
  isOk_iff : result.isOk = true ↔ ∃ attempt ∈ attempts, attempt.succeeded = true
  /-- The connection is bound to the server of the attempt that succeeded.  Its search base is the
  one in the parameters, or else the root of the domain. -/
  connection : ∀ c, result = .ok c →
    ∃ attempt, attempts.getLast? = some attempt ∧ attempt.succeeded = true ∧ c.phase = .bound ∧
      c.binding?.map Binding.uri = some (completed params.useLdaps attempt.uri) ∧
      c.searchBase =
        if params.searchBase = "" then Dn.ofDomain params.domain else params.searchBase
  /-- A login fails when all servers were tried, with the failure of the last. -/
  failure : ∀ failure, result = .error failure →
    attempts.map Attempt.uri = uris ∧
      (uris = [] → failure.code.value = 89 ∧ failure.message = "no server URIs configured") ∧
      ∀ attempt, attempts.getLast? = some attempt → attempt.result = .error failure

theorem searchBase_eq (params : Params) :
    searchBase params =
      if params.searchBase = "" then Dn.ofDomain params.domain else params.searchBase := by
  simp [searchBase]

/-- The connection that an attempt brings. -/
theorem AttemptCourse.connection {useLdaps : Bool} {uri : String} {c : Connection}
    (course : AttemptCourse params options (completed useLdaps uri) n events (.ok c) m) :
    c.phase = .bound ∧ c.binding?.map Binding.uri = some (completed useLdaps uri) := by
  cases course with
  | bound hread _ course =>
    cases course with
    | accepted =>
      refine ⟨rfl, congrArg some ?_⟩
      rw [← trimmed_eq_self (tight_completed useLdaps uri)]
      exact address_text hread

theorem Attempts.inOrder {uris : List String} {attempts : List Attempt}
    (h : Attempts params options uris n attempts m) : attempts.map Attempt.uri <+: uris := by
  induction h with
  | exhausted => exact List.prefix_rfl
  | success => exact List.prefix_append [_] _
  | failure _ _ ih => exact List.cons_prefix_cons.mpr ⟨rfl, ih⟩

theorem Attempts.each {uris : List String} {attempts : List Attempt}
    (h : Attempts params options uris n attempts m) :
    ∀ attempt ∈ attempts, ∃ n m, AttemptCourse params options
      (completed params.useLdaps attempt.uri) n attempt.events attempt.result m := by
  simp only [← addressOf_eq]
  induction h with
  | exhausted => exact List.forall_mem_nil _
  | success course => exact List.forall_mem_singleton.mpr ⟨_, _, course⟩
  | failure course _ ih => exact List.forall_mem_cons.mpr ⟨⟨_, _, course⟩, ih⟩

/-- The attempts of a login fail one after the other, or all but the last do. -/
theorem Attempts.outcome {uris : List String} {attempts : List Attempt}
    (h : Attempts params options uris n attempts m) :
    (attempts.map Attempt.uri = uris ∧ ∀ attempt ∈ attempts, attempt.succeeded = false) ∨
      ∃ failed last, attempts = failed ++ [last] ∧ last.succeeded = true ∧
        ∀ attempt ∈ failed, attempt.succeeded = false := by
  induction h with
  | exhausted => exact Or.inl ⟨rfl, List.forall_mem_nil _⟩
  | success => exact Or.inr ⟨[], _, rfl, rfl, List.forall_mem_nil _⟩
  | failure _ _ ih =>
    rcases ih with ⟨huris, hfailed⟩ | ⟨failed, last, rfl, hlast, hfailed⟩
    · exact Or.inl ⟨congrArg _ huris, List.forall_mem_cons.mpr ⟨rfl, hfailed⟩⟩
    · exact Or.inr ⟨_ :: failed, last, rfl, hlast, List.forall_mem_cons.mpr ⟨rfl, hfailed⟩⟩

theorem failure_of_not_succeeded {attempt : Attempt} (h : attempt.succeeded = false) :
    ∃ failure, attempt.result = .error failure := by
  cases hresult : attempt.result with
  | error failure => exact ⟨failure, rfl⟩
  | ok c =>
    rw [Attempt.succeeded, hresult] at h
    contradiction

theorem connection_of_succeeded {attempt : Attempt} (h : attempt.succeeded = true) :
    ∃ c, attempt.result = .ok c := by
  cases hresult : attempt.result with
  | ok c => exact ⟨c, rfl⟩
  | error failure =>
    rw [Attempt.succeeded, hresult] at h
    contradiction

theorem ending_of_getLast? {last : Failure} {attempts : List Attempt} {attempt : Attempt}
    (h : attempts.getLast? = some attempt) : ending last attempts = attempt.result := by
  rw [ending, h]

/-- Attempts that all fail end with the failure of the last one. -/
theorem ending_of_failed (last : Failure) {attempts : List Attempt}
    (h : ∀ attempt ∈ attempts, attempt.succeeded = false) :
    ∃ failure, ending last attempts = .error failure ∧ (attempts = [] → failure = last) ∧
      ∀ attempt, attempts.getLast? = some attempt → attempt.result = .error failure := by
  cases hlast : attempts.getLast? with
  | none =>
    obtain rfl := List.getLast?_eq_none_iff.mp hlast
    exact ⟨last, rfl, fun _ => rfl, by simp⟩
  | some attempt =>
    have hmem : attempt ∈ attempts := List.mem_of_getLast? hlast
    obtain ⟨failure, hfailure⟩ := failure_of_not_succeeded (h attempt hmem)
    refine ⟨failure, (ending_of_getLast? hlast).trans hfailure, ?_, ?_⟩
    · rintro rfl
      contradiction
    · rintro _ ⟨rfl⟩
      exact hfailure

/-- All of that follows from how the attempts succeed each other. -/
theorem Attempts.failsOver {uris : List String} {attempts : List Attempt}
    (h : Attempts params options uris n attempts m) :
    FailsOver params options uris attempts
      ((ending Refusal.noServers.toFailure attempts).map fun c =>
        { c with searchBase := searchBase params }) := by
  rcases h.outcome with ⟨huris, hfailed⟩ | ⟨failed, last, rfl, hlast, hfailed⟩
  · -- every server was tried in vain
    obtain ⟨failure, hending, hnone, hfailure⟩ :=
      ending_of_failed Refusal.noServers.toFailure hfailed
    rw [hending, Except.map]
    refine ⟨h.inOrder, h.each, ?_, ?_, by simp, ?_⟩
    · exact fun attempt hmem => hfailed attempt (List.dropLast_subset attempts hmem)
    · refine iff_of_false Bool.false_ne_true ?_
      rintro ⟨attempt, hmem, hsucceeded⟩
      rw [hfailed attempt hmem] at hsucceeded
      contradiction
    · intro _ heq
      obtain rfl := Except.error.inj heq
      refine ⟨huris, fun hempty => ?_, hfailure⟩
      obtain rfl := hnone (List.map_eq_nil_iff.mp (huris.trans hempty))
      exact ⟨rfl, rfl⟩
  · -- the last attempt brought the connection
    have hgetLast : (failed ++ [last]).getLast? = some last := List.getLast?_concat
    have hmem : last ∈ failed ++ [last] := List.mem_concat_self
    obtain ⟨c, hc⟩ := connection_of_succeeded hlast
    rw [ending_of_getLast? hgetLast, hc, Except.map]
    refine ⟨h.inOrder, h.each, ?_, iff_of_true rfl ⟨last, hmem, hlast⟩, ?_, by simp⟩
    · rwa [List.dropLast_concat]
    · intro _ heq
      obtain rfl := Except.ok.inj heq
      obtain ⟨_, _, course⟩ := h.each last hmem
      rw [hc] at course
      obtain ⟨hphase, huri⟩ := course.connection
      exact ⟨last, hgetLast, hlast, hphase, huri, searchBase_eq params⟩

/-! ## A whole login -/

/-- Once the servers are known no resolver is asked. -/
theorem Attempts.not_resolver {uris : List String} {attempts : List Attempt}
    (h : Attempts params options uris n attempts m) {question : Question}
    (hquestion : IsResolverQuestion question) (answer : question.Answer) :
    Event.exchange question answer ∉ attempts.flatMap (Attempt.trace params options) := by
  intro hmem
  have hattempt : IsAttemptQuestion params options question := h.questions _ hmem
  cases hquestion <;> cases hattempt

theorem isConnect_of_lookup {event : Event} (h : event.IsWithin IsResolverQuestion) :
    event.isConnect = false := by
  cases event with
  | line line => rfl
  | exchange question answer =>
    have hquestion : IsResolverQuestion question := h
    cases hquestion <;> rfl

/-- Whenever a login asks the connector, every session that it has opened is unbound. -/
theorem login_orderly {result : Except Failure Connection}
    (h : (login params options).Admits n events result m) : Orderly [] events := by
  have hpast := settled_nil n
  cases login_course h with
  | refused => trivial
  | lost _ hlookups => exact orderly_of_quiet fun e he => isConnect_of_lookup (hlookups e he)
  | tried _ hlookups hattempts =>
    have hfound : Settled n _ := hpast.append_quiet (story_of_lookups hlookups)
    refine Orderly.append (orderly_of_quiet fun e he => ?_) (hattempts.orderly hfound)
    exact isConnect_of_lookup (hlookups e he)

section Run

variable {σ : Type} (env : Environment σ) (standing : Standing σ) (options)

/-- A login that knows its servers works on them. -/
theorem login_run_attempts (hallowed : ensureAllowed params = .ok ()) {uris : List String}
    (hfound : ((servers params (options.withParams params)).run env standing).value = .ok uris) :
    let found := (servers params (options.withParams params)).run env standing
    let outcome := (login params options).run env standing
    ∃ attempts, Attempts params (options.withParams params) uris found.standing.sessions attempts
        outcome.standing.sessions ∧
      FailsOver params (options.withParams params) uris attempts outcome.value ∧
      outcome.events =
        found.events ++ attempts.flatMap (Attempt.trace params (options.withParams params)) := by
  intro found outcome
  let tried := (tryAll params (options.withParams params) Refusal.noServers.toFailure uris).run env
    found.standing
  obtain ⟨attempts, hattempts, hevents, hvalue⟩ :=
    tryAll_course (run_admits env (tryAll params _ _ uris) found.standing)
  have houtcome : outcome = ⟨tried.value.map fun c => { c with searchBase := searchBase params },
      tried.standing, found.events ++ tried.events⟩ :=
    login_run_found options env standing hallowed hfound
  rw [houtcome]
  refine ⟨attempts, hattempts, ?_, congrArg (found.events ++ ·) hevents⟩
  rw [show tried.value = _ from hvalue]
  exact hattempts.failsOver

/-- A login that has to discover its servers works on those that it finds.  It fails as the
discovery does, or as its resolver does before. -/
theorem login_run_discovered (hallowed : ensureAllowed params = .ok ()) (huris : params.uris = [])
    (hdomain : params.domain ≠ "") :
    let outcome := (login params options).run env standing
    let dialing := options.withParams params
    let ready := (prepareResolver options).run env standing
    let discovery := (Discovery.servers params.domain params.site).run env ready.standing
    (∀ failure, ready.value = .error failure →
      outcome = ⟨.error failure, ready.standing, ready.events⟩) ∧
    (ready.value = .ok () →
      (∀ failure, discovery.value = .error failure →
        outcome = ⟨.error failure, discovery.standing, ready.events ++ discovery.events⟩) ∧
      ∀ hosts, discovery.value = .ok hosts →
        ∃ attempts, FailsOver params dialing hosts attempts outcome.value ∧
          outcome.events = ready.events ++ discovery.events ++
            discoveredNote params dialing hosts ::
              attempts.flatMap (Attempt.trace params dialing)) := by
  intro outcome dialing ready discovery
  obtain ⟨hunready, hready⟩ := servers_run_discovered dialing env standing huris hdomain
  refine ⟨fun failure hfailure => ?_, fun hok => ⟨fun failure hfailure => ?_,
    fun hosts hhosts => ?_⟩⟩
  · have hservers := hunready failure hfailure
    rw [show outcome = _ from
      login_run_failed options env standing hallowed (congrArg Outcome.value hservers), hservers]
    rfl
  · have hservers := (hready hok).1 failure hfailure
    rw [show outcome = _ from
      login_run_failed options env standing hallowed (congrArg Outcome.value hservers), hservers]
    rfl
  · have hservers := (hready hok).2 hosts hhosts
    obtain ⟨attempts, -, hfails, hevents⟩ :=
      login_run_attempts options env standing hallowed (congrArg Outcome.value hservers)
    rw [hservers, ← List.append_cons] at hevents
    exact ⟨attempts, hfails, hevents⟩

end Run

/-- A login works on the servers of its parameters, and no resolver is asked; without such servers
it works on those that it discovers in its domain.  If there is no resolver for that, or if the
discovery fails, so does the login, without asking the connector.  It tries the servers in order, up
to the first that accepts it: `FailsOver`.  Whenever the connector is asked, every session that was
opened before has been unbound. -/
theorem login_fails_over {σ : Type} (env : Environment σ) (standing : Standing σ) (params : Params)
    (options : DialOptions) (hvalid : params.ensureValid = .ok ())
    (hsecured : params.secured = true → params.useGssapi = true) :
    let outcome := (login params options).run env standing
    let dialing := options.withParams params
    let ready := (prepareResolver options).run env standing
    let discovery := (Discovery.servers params.domain params.site).run env ready.standing
    (params.uris ≠ [] ∨ params.domain = "" →
      ∃ attempts, FailsOver params dialing params.uris attempts outcome.value ∧
        outcome.events = attempts.flatMap (Attempt.trace params dialing) ∧
        (∀ answer, Event.exchange .systemResolver answer ∉ outcome.events) ∧
        ∀ name answer, Event.exchange (.lookup name) answer ∉ outcome.events) ∧
    (params.uris = [] → params.domain ≠ "" →
      Prepared options standing ready ∧
      (∀ failure, ready.value = .error failure →
        outcome.value = .error failure ∧ outcome.events = ready.events ∧
          ∀ event ∈ outcome.events, event.isConnect = false) ∧
      (ready.value = .ok () →
        (∀ hosts, discovery.value = .ok hosts →
          ∃ attempts, FailsOver params dialing hosts attempts outcome.value ∧
            outcome.events = ready.events ++ discovery.events ++
              discoveredNote params dialing hosts ::
                attempts.flatMap (Attempt.trace params dialing)) ∧
        ∀ failure, discovery.value = .error failure →
          outcome.value = .error failure ∧ outcome.events = ready.events ++ discovery.events ∧
            .exchange (.lookup ("_ldap._tcp." ++ params.domain)) (.error failure) ∈
              outcome.events ∧
            ∀ event ∈ outcome.events, event.isConnect = false)) ∧
    ∀ before event after, outcome.events = before ++ event :: after → event.isConnect = true →
      ∀ session, IsLife (story session before) := by
  intro outcome dialing ready discovery
  have hallowed := ensureAllowed_ok_iff.mpr ⟨hvalid, hsecured⟩
  refine ⟨fun hconfigured => ?_, fun huris hdomain => ⟨prepared_run options env standing, ?_⟩,
    fun before event after hevents hevent session => ?_⟩
  · -- the servers of the parameters
    have hfound := servers_run_configured dialing env standing hconfigured
    obtain ⟨attempts, hattempts, hfails, hevents⟩ :=
      login_run_attempts options env standing hallowed (congrArg Outcome.value hfound)
    rw [hfound] at hevents
    refine ⟨attempts, hfails, hevents, fun answer => ?_, fun name answer => ?_⟩
    · rw [hevents]
      exact hattempts.not_resolver .system answer
    · rw [hevents]
      exact hattempts.not_resolver (.lookup name) answer
  · -- the servers of the domain
    obtain ⟨hunready, hready⟩ := login_run_discovered options env standing hallowed huris hdomain
    have hprepared := ((prepareResolver_asks options).admits (run_admits env _ standing)).2
    refine ⟨fun failure hfailure => ?_, fun hok => ⟨(hready hok).2, fun failure hfailure => ?_⟩⟩
    · rw [show outcome = _ from hunready failure hfailure]
      exact ⟨rfl, rfl, fun event hmem => isConnect_of_lookup (hprepared event hmem)⟩
    · -- the lookup for the domain failed, and nothing followed it
      have hdiscovery := run_admits env (Discovery.servers params.domain params.site) ready.standing
      have hlookups := ((discovery_asks _ _).admits hdiscovery).2
      rw [show outcome = _ from (hready hok).1 failure hfailure]
      rw [hfailure] at hdiscovery
      refine ⟨rfl, rfl, List.mem_append_right _ (discovery_failure hdiscovery), ?_⟩
      refine List.forall_mem_append.mpr ⟨fun event hmem => ?_, fun event hmem => ?_⟩
      · exact isConnect_of_lookup (hprepared event hmem)
      · exact isConnect_of_lookup (hlookups event hmem)
  · have horderly := login_orderly (run_admits env (login params options) standing)
    rw [show (run env (login params options) standing).events = _ from hevents] at horderly
    exact horderly.before hevent session

/-- A server that StartTLS does not go with is passed over for the next one.  The connection to that
one has the limits of the parameters, and searches from the root of the domain unless the parameters
name another base. -/
theorem second_server_bound :
    let params : Params :=
      { domain := "example.org", uris := ["ldaps://ds1", " ds2 "], secured := false,
        useStartTls := true, bindDn := "cn=admin", bindPassword := ⟨"secret"⟩,
        networkTimeout := 5 }
    let outcome := (login params {}).run obliging ⟨(), 0⟩
    let based := (login { params with searchBase := "ou=people" } {}).run obliging ⟨(), 0⟩
    params.ensureValid = .ok () ∧ (params.secured = true → params.useGssapi = true) ∧
      outcome.events.countP Event.isConnect = 1 ∧
      (∃ attempts, FailsOver params (DialOptions.withParams {} params) params.uris attempts
          outcome.value ∧
        ∃ c, outcome.value = .ok c ∧ c.binding? = some ⟨.simple, .startTls, "ldap://ds2"⟩ ∧
          c.searchBase = "DC=example,DC=org" ∧
          c.options.networkTimeout = some (.ofSeconds 5)) ∧
      ∃ c, based.value = .ok c ∧ c.searchBase = "ou=people" := by
  intro params outcome based
  have hvalid : params.ensureValid = .ok () := rfl
  have hsecured : params.secured = true → params.useGssapi = true := by decide
  obtain ⟨attempts, hfails, -⟩ :=
    (login_fails_over obliging ⟨(), 0⟩ params {} hvalid hsecured).1 (Or.inl (by decide))
  -- without the local names the runs are closed terms, which evaluate at once
  subst outcome based params
  exact ⟨hvalid, hsecured, rfl, ⟨attempts, hfails, _, rfl, rfl, rfl, rfl⟩, _, rfl, rfl⟩

end LdapClient.Login
