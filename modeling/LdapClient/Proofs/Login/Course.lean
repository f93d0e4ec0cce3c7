/-
# LdapClient.Proofs.Login.Course -- what a login can do

`AttemptCourse` lists the ways in which an attempt to log in to one server can go, with all events:
the address cannot be read, the parameters do not go with the server, or the bind fails or succeeds.
Whatever fails after dialing is closed before the attempt ends.

A login makes its attempts one after the other.  `Attempts` says how they follow each other, and
`tryAll_course` that a login does nothing else.  What holds of a login as a whole is derived from
these two.
-/
import LdapClient.Login
import LdapClient.Proofs.Connection.Coherence

namespace LdapClient.Login

open Dialogue Connection Text

variable {params : Params} {options : DialOptions} {n m : Nat} {events : List Event}

/-! ## What is tried -/

/-- An unbound connection. -/
def unboundTo (server : Address) (options : DialOptions) (startTls : Bool) : Connection :=
  ⟨server, options, "", ⟨.unbound, none, startTls, none⟩⟩

/-- How the parameters bind. -/
def bindMethod (params : Params) : LoginMethod :=
  if params.wantsGssapi then .gssapi else .simple

/-- The parameters bind over StartTLS; GSSAPI never does. -/
def bindStartTls (params : Params) : Bool :=
  params.useStartTls && !params.wantsGssapi

/-- The bind call that the parameters make to a server. -/
def bindCall (params : Params) (server : Address) : SessionCall :=
  if params.wantsGssapi then .gssapiBind ⟨params.domain, params.keytab, server.host⟩
  else .simpleBind params.bindDn params.bindPassword.reveal

/-- The parameters go with the server, and there is a password if it takes one. -/
structure Fits (params : Params) (server : Address) : Prop where
  upgradable : params.useStartTls = true → server.scheme ≠ .ldaps
  hasPassword : params.wantsGssapi = false → params.bindPassword.reveal ≠ ""

/-- The bind of an attempt. -/
abbrev BindAttempt (params : Params) (options : DialOptions) (server : Address) (n : Nat) :
    List Event → Except Failure Unit → Connection → Nat → Prop :=
  BindCourse (unboundTo server options (bindStartTls params)) (bindMethod params)
    (bindStartTls params) (bindCall params server) n

/-! ## One attempt -/

/-- The line about a dialed server. -/
def dialedNote (server : Address) (options : DialOptions) : Event :=
  .line ⟨options.logger, .debug, "dialed " ++ server.text⟩

/-- The line about a closed connection. -/
def closedNote (server : Address) (options : DialOptions) : Event :=
  .line ⟨options.logger, .debug, "closed " ++ server.text⟩

/-- The events of an attempt, its result, and the numbered sessions after it. -/
inductive AttemptCourse (params : Params) (options : DialOptions) (address : String) (n : Nat) :
    List Event → Except Failure Connection → Nat → Prop
  /-- The address cannot be read. -/
  | unread {failure : Failure} (hread : Address.parse address = .error failure) :
      AttemptCourse params options address n
        [.line ⟨options.logger, .error, "dial " ++ address ++ ": " ++ failure.display⟩]
        (.error failure) n
  /-- StartTLS is asked for under implicit TLS. -/
  | unsuited {server : Address} (hread : Address.parse address = .ok server)
      (htls : params.useStartTls = true) (hscheme : server.scheme = .ldaps) :
      AttemptCourse params options address n [dialedNote server options, closedNote server options]
        Refusal.startTlsOverLdaps.refuse n
  /-- There is no password. -/
  | passwordless {server : Address} (hread : Address.parse address = .ok server)
      (hmethod : params.wantsGssapi = false) (hpassword : params.bindPassword.reveal = "") :
      AttemptCourse params options address n [dialedNote server options, closedNote server options]
        Refusal.emptyPassword.refuse n
  /-- The bind fails. -/
  | failed {server : Address} {events : List Event} {failure : Failure} {bound : Connection}
      {m : Nat} (hread : Address.parse address = .ok server) (hfits : Fits params server)
      (course : BindAttempt params options server n events (.error failure) bound m) :
      AttemptCourse params options address n
        (dialedNote server options :: (events ++ [closedNote server options])) (.error failure) m
  /-- The bind succeeds. -/
  | bound {server : Address} {events : List Event} {bound : Connection} {m : Nat}
      (hread : Address.parse address = .ok server) (hfits : Fits params server)
      (course : BindAttempt params options server n events (.ok ()) bound m) :
      AttemptCourse params options address n (dialedNote server options :: events) (.ok bound) m

/-- A connection that holds no session is given up without a question. -/
theorem giveUp_events {c : Connection} {failure : Failure} {result : Except Failure Connection}
    (h : (giveUp c failure).Admits n events result m) (hc : c.phase ≠ .closed)
    (hs : c.state.session = none) :
    m = n ∧ result = .error failure ∧ events = [closedNote c.address c.options] := by
  obtain ⟨first, closed, k, second, hclose, hdone, rfl⟩ := admits_bind.mp h
  obtain ⟨rfl, hcourse⟩ := close_course hclose
  obtain ⟨rfl, rfl, rfl⟩ := admits_done.mp hdone
  cases hcourse with
  | already hclosed => exact absurd hclosed hc
  | idle => exact ⟨rfl, rfl, rfl⟩
  | ending _ hheld =>
    rw [hs] at hheld
    contradiction

theorem protect_unboundTo (params : Params) (options : DialOptions) (server : Address) :
    protect params (unboundTo server options false) =
      if params.useStartTls = true ∧ server.scheme = .ldaps then Refusal.startTlsOverLdaps.refuse
      else .ok (unboundTo server options params.useStartTls) := by
  unfold protect
  cases htls : params.useStartTls with
  | false => rfl
  | true =>
    show (if server.scheme = .ldaps then _ else _) = _
    simp only [true_and]
    rfl

/-- A bind by the parameters is refused for want of a password, or it is the bind call that they
make. -/
theorem authenticate_course {server : Address} {result : Except Failure Unit} {bound : Connection}
    (h : (authenticate params (unboundTo server options params.useStartTls)).Admits n events
      (result, bound) m) :
    (params.wantsGssapi = false ∧ params.bindPassword.reveal = "" ∧ events = [] ∧
        result = Refusal.emptyPassword.refuse ∧
        bound = unboundTo server options params.useStartTls ∧ m = n) ∨
      (params.wantsGssapi = false → params.bindPassword.reveal ≠ "") ∧
        BindAttempt params options server n events result bound m := by
  unfold authenticate at h
  cases hmethod : params.wantsGssapi with
  | true =>
    rw [hmethod, if_pos rfl] at h
    have hcourse := bindBy_course h
    refine Or.inr ⟨fun hsimple => absurd hsimple (by decide), ?_⟩
    simp only [BindAttempt, bindMethod, bindStartTls, bindCall, hmethod, if_true, Bool.not_true,
      Bool.and_false]
    exact hcourse
  | false =>
    rw [hmethod, if_neg (by decide)] at h
    by_cases hpassword : params.bindPassword.reveal = ""
    · rw [hpassword] at h
      obtain ⟨rfl, heq, rfl⟩ := admits_done.mp h
      cases heq
      exact Or.inl ⟨rfl, hpassword, rfl, rfl, rfl, rfl⟩
    · have hempty : ¬ params.bindPassword.reveal.isEmpty = true := by simpa using hpassword
      rw [simpleBind, if_neg hempty] at h
      have hcourse := bindBy_course h
      refine Or.inr ⟨fun _ => hpassword, ?_⟩
      simp only [BindAttempt, bindMethod, bindStartTls, bindCall, hmethod, Bool.false_eq_true,
        if_false, Bool.not_false, Bool.and_true]
      exact hcourse

theorem failed_of_error {server : Address} {failure : Failure} {bound : Connection}
    (course : BindAttempt params options server n events (.error failure) bound m) :
    bound = (unboundTo server options (bindStartTls params)).enter .failed := by
  cases course with
  | refused hc => cases hc
  | unreachable => rfl
  | rejected => rfl

/-- Nothing but what `AttemptCourse` lists happens in an attempt. -/
theorem attempt_course {address : String} {result : Except Failure Connection}
    (h : (attempt params options address).Admits n events result m) :
    AttemptCourse params options address n events result m := by
  obtain ⟨first, dialed, k, second, hdial, hrest, rfl⟩ := admits_bind.mp h
  obtain ⟨rfl, hdialed⟩ := dial_events hdial
  cases hread : Address.parse address with
  | error failure =>
    simp only [hread] at hdialed
    obtain ⟨rfl, rfl⟩ := hdialed
    obtain ⟨rfl, rfl, rfl⟩ := admits_done.mp hrest
    exact .unread hread
  | ok server =>
    rw [hread] at hdialed
    obtain ⟨rfl, rfl⟩ : dialed = .ok (unboundTo server options false) ∧
      first = [dialedNote server options] := hdialed
    simp only [protect_unboundTo] at hrest
    by_cases htls : params.useStartTls = true ∧ server.scheme = .ldaps
    · simp only [if_pos htls] at hrest
      obtain ⟨rfl, rfl, rfl⟩ := giveUp_events hrest nofun rfl
      exact .unsuited hread htls.1 htls.2
    · simp only [if_neg htls] at hrest
      obtain ⟨_, ⟨outcome, bound⟩, _, _, hbind, hend, rfl⟩ := admits_bind.mp hrest
      rcases authenticate_course hbind with
        ⟨hmethod, hpassword, rfl, rfl, rfl, rfl⟩ | ⟨hpassword, hcourse⟩
      · obtain ⟨rfl, rfl, rfl⟩ := giveUp_events hend nofun rfl
        exact .passwordless hread hmethod hpassword
      · have hfits : Fits params server := ⟨fun h h' => htls ⟨h, h'⟩, hpassword⟩
        cases outcome with
        | error failure =>
          -- a bind that fails leaves no session to unbind
          obtain rfl := failed_of_error hcourse
          obtain ⟨rfl, rfl, rfl⟩ := giveUp_events hend nofun rfl
          exact .failed hread hfits hcourse
        | ok _ =>
          obtain ⟨rfl, rfl, rfl⟩ := admits_done.mp hend
          rw [List.append_nil]
          exact .bound hread hfits hcourse

/-- What an attempt asks: for a session with a server that the parameters go with, and of that
session the bind and an unbind. -/
inductive IsAttemptQuestion (params : Params) (options : DialOptions) : Question → Prop
  | connect {server : Address} (hfits : Fits params server) (session : SessionId) :
      IsAttemptQuestion params options
        (.connect session options.connector server (options.transport (bindStartTls params)))
  | bind {server : Address} (hfits : Fits params server) (session : SessionId) :
      IsAttemptQuestion params options (.call session (bindCall params server))
  | unbind (session : SessionId) : IsAttemptQuestion params options (.call session .unbind)

theorem bindAttempt_questions {server : Address} {result : Except Failure Unit} {bound : Connection}
    (hfits : Fits params server)
    (course : BindAttempt params options server n events result bound m) :
    ∀ event ∈ events, event.IsWithin (IsAttemptQuestion params options) := by
  refine fun event hmem => (BindCourse.questions course event hmem).mono ?_
  rintro question ⟨-, rfl | rfl | rfl⟩
  · exact .connect hfits n
  · exact .bind hfits n
  · exact .unbind n

theorem AttemptCourse.questions {address : String} {result : Except Failure Connection}
    (course : AttemptCourse params options address n events result m) :
    ∀ event ∈ events, event.IsWithin (IsAttemptQuestion params options) := by
  cases course with
  | unread => simp [Event.IsWithin]
  | unsuited => simp [dialedNote, closedNote, Event.IsWithin]
  | passwordless => simp [dialedNote, closedNote, Event.IsWithin]
  | failed _ hfits course =>
    have hbind := bindAttempt_questions hfits course
    simpa [dialedNote, closedNote, Event.IsWithin, or_imp, forall_and] using hbind
  | bound _ hfits course =>
    exact List.forall_mem_cons.mpr ⟨trivial, bindAttempt_questions hfits course⟩

/-! ## All attempts -/

/-- An attempt that was made: the server as it is configured, what happened, and the result. -/
structure Attempt where
  uri : String
  events : List Event
  result : Except Failure Connection

/-- The attempt brought a connection. -/
def Attempt.succeeded (attempt : Attempt) : Bool :=
  attempt.result.isOk

/-- The events of an attempt, and the line about it if it failed. -/
def Attempt.trace (params : Params) (options : DialOptions) (attempt : Attempt) : List Event :=
  match attempt.result with
  | .ok _ => attempt.events
  | .error failure =>
    attempt.events ++ [.line ⟨options.logger, .error,
      "login to " ++ addressOf params.useLdaps attempt.uri ++ ": " ++ failure.display⟩]

/-- Attempts at these servers, one after the other, up to the first that succeeds. -/
inductive Attempts (params : Params) (options : DialOptions) :
    List String → Nat → List Attempt → Nat → Prop
  /-- No server is left. -/
  | exhausted (n : Nat) : Attempts params options [] n [] n
  | success {uri : String} {uris : List String} {n : Nat} {events : List Event} {c : Connection}
      {m : Nat}
      (course : AttemptCourse params options (addressOf params.useLdaps uri) n events (.ok c) m) :
      Attempts params options (uri :: uris) n [⟨uri, events, .ok c⟩] m
  | failure {uri : String} {uris : List String} {n : Nat} {events : List Event} {failure : Failure}
      {k : Nat} {attempts : List Attempt} {m : Nat}
      (course : AttemptCourse params options (addressOf params.useLdaps uri) n events
        (.error failure) k)
      (more : Attempts params options uris k attempts m) :
      Attempts params options (uri :: uris) n (⟨uri, events, .error failure⟩ :: attempts) m

theorem Attempts.questions {uris : List String} {attempts : List Attempt}
    (h : Attempts params options uris n attempts m) :
    ∀ event ∈ attempts.flatMap (Attempt.trace params options),
      event.IsWithin (IsAttemptQuestion params options) := by
  induction h with
  | exhausted => exact List.forall_mem_nil _
  | success course =>
    rw [List.flatMap_singleton]
    exact course.questions
  | failure course _ ih =>
    rw [List.flatMap_cons, Attempt.trace]
    refine List.forall_mem_append.mpr ⟨List.forall_mem_append.mpr ⟨course.questions, ?_⟩, ih⟩
    exact List.forall_mem_singleton.mpr trivial

/-- The result of the last attempt; a failure if there was none. -/
def ending (last : Failure) (attempts : List Attempt) : Except Failure Connection :=
  match attempts.getLast? with
  | none => .error last
  | some attempt => attempt.result

theorem ending_cons (last : Failure) {attempt : Attempt} {failure : Failure}
    (h : attempt.result = .error failure) (attempts : List Attempt) :
    ending last (attempt :: attempts) = ending failure attempts := by
  cases attempts with
  | nil => exact h
  | cons next attempts => rw [ending, ending, List.getLast?_cons_cons]; rfl

/-- A login to several servers makes such attempts and ends with the last one. -/
theorem tryAll_course {last : Failure} {uris : List String} {result : Except Failure Connection}
    (h : (tryAll params options last uris).Admits n events result m) :
    ∃ attempts, Attempts params options uris n attempts m ∧
      events = attempts.flatMap (Attempt.trace params options) ∧
      result = ending last attempts := by
  -- the failure so far changes with each attempt
  induction uris generalizing n events last with
  | nil =>
    obtain ⟨rfl, rfl, rfl⟩ := admits_done.mp h
    exact ⟨[], .exhausted _, rfl, rfl⟩
  | cons uri uris ih =>
    obtain ⟨first, outcome, k, second, hattempt, hrest, rfl⟩ := admits_bind.mp h
    have hcourse := attempt_course hattempt
    cases outcome with
    | ok c =>
      obtain ⟨rfl, rfl, rfl⟩ := admits_done.mp hrest
      exact ⟨_, .success hcourse, by simp [Attempt.trace], rfl⟩
    | error failure =>
      obtain ⟨_, _, _, _, hsay, hmore, rfl⟩ := admits_bind.mp hrest
      obtain ⟨rfl, rfl⟩ := admits_say.mp hsay
      obtain ⟨attempts, hattempts, rfl, rfl⟩ := ih hmore
      refine ⟨_, .failure hcourse hattempts, ?_, (ending_cons last rfl attempts).symm⟩
      rw [List.flatMap_cons, Attempt.trace, List.append_assoc]

/-! ## Resolvers -/

/-- The question has to do with a resolver. -/
inductive IsResolverQuestion : Question → Prop
  | system : IsResolverQuestion .systemResolver
  | lookup (name : String) : IsResolverQuestion (.lookup name)

theorem prepareResolver_asks (options : DialOptions) :
    (prepareResolver options).Asks IsResolverQuestion := by
  unfold prepareResolver
  split
  · trivial
  · exact ⟨.system, fun _ => trivial⟩

theorem asks_lookup (name : String) : (lookup name).Asks IsResolverQuestion :=
  ⟨.lookup name, fun _ => trivial⟩

theorem discovery_asks (domain site : String) :
    (Discovery.servers domain site).Asks IsResolverQuestion := by
  have hsite : (Discovery.siteServers domain site).Asks IsResolverQuestion := by
    unfold Discovery.siteServers
    split
    · trivial
    · refine (asks_lookup _).bind fun result => ?_
      cases result <;> trivial
  refine hsite.bind fun nearby => (asks_lookup _).bind fun result => ?_
  cases result <;> trivial

/-- A discovery fails with the failure of the lookup for the domain. -/
theorem discovery_failure {domain site : String} {failure : Failure}
    (h : (Discovery.servers domain site).Admits n events (.error failure) m) :
    .exchange (.lookup ("_ldap._tcp." ++ domain)) (.error failure) ∈ events := by
  obtain ⟨first, nearby, k, second, -, hrest, rfl⟩ := admits_bind.mp h
  obtain ⟨_, answer, _, _, hlookup, hend, rfl⟩ := admits_bind.mp hrest
  obtain ⟨rfl, rfl⟩ := admits_lookup.mp hlookup
  cases answer with
  | error failure' =>
    obtain ⟨rfl, heq, rfl⟩ := admits_done.mp hend
    cases heq
    exact List.mem_append_right first List.mem_cons_self
  | ok hosts =>
    obtain ⟨-, heq, -⟩ := admits_done.mp hend
    cases heq

theorem discover_asks (params : Params) (options : DialOptions) :
    (discover params options).Asks IsResolverQuestion := by
  refine (prepareResolver_asks options).bind fun ready => ?_
  cases ready with
  | error failure => trivial
  | ok _ => exact discovery_asks _ _

theorem servers_asks (params : Params) (options : DialOptions) :
    (servers params options).Asks IsResolverQuestion := by
  unfold servers
  split
  · refine (discover_asks _ _).bind fun result => ?_
    cases result <;> trivial
  · trivial

/-! ## A whole login -/

/-- The events of a login, its result, and the numbered sessions after it. -/
inductive LoginCourse (params : Params) (options : DialOptions) (n : Nat) :
    List Event → Except Failure Connection → Nat → Prop
  /-- The parameters are refused. -/
  | refused {failure : Failure} (hrefused : ensureAllowed params = .error failure) :
      LoginCourse params options n [] (.error failure) n
  /-- No servers can be found. -/
  | lost {lookups : List Event} {failure : Failure} (hallowed : ensureAllowed params = .ok ())
      (hlookups : ∀ event ∈ lookups, event.IsWithin IsResolverQuestion) :
      LoginCourse params options n lookups (.error failure) n
  /-- Servers are tried. -/
  | tried {lookups : List Event} {uris : List String} {attempts : List Attempt} {m : Nat}
      (hallowed : ensureAllowed params = .ok ())
      (hlookups : ∀ event ∈ lookups, event.IsWithin IsResolverQuestion)
      (hattempts : Attempts params (options.withParams params) uris n attempts m) :
      LoginCourse params options n
        (lookups ++ attempts.flatMap (Attempt.trace params (options.withParams params)))
        ((ending Refusal.noServers.toFailure attempts).map fun c =>
          { c with searchBase := searchBase params }) m

/-- Nothing but what `LoginCourse` lists happens in a login. -/
theorem login_course {result : Except Failure Connection}
    (h : (login params options).Admits n events result m) :
    LoginCourse params options n events result m := by
  unfold login at h
  split at h
  case h_1 failure hrefused =>
    obtain ⟨rfl, rfl, rfl⟩ := admits_done.mp h
    exact .refused hrefused
  case h_2 hallowed =>
    obtain ⟨first, found, k, second, hservers, hrest, rfl⟩ := admits_bind.mp h
    obtain ⟨rfl, hlookups⟩ := (servers_asks _ _).admits hservers
    cases found with
    | error failure =>
      obtain ⟨rfl, rfl, rfl⟩ := admits_done.mp hrest
      rw [List.append_nil]
      exact .lost hallowed hlookups
    | ok uris =>
      obtain ⟨_, outcome, _, _, htry, hdone, rfl⟩ := admits_bind.mp hrest
      obtain ⟨attempts, hattempts, rfl, houtcome⟩ := tryAll_course htry
      have hcourse := LoginCourse.tried hallowed hlookups hattempts
      rw [← houtcome] at hcourse
      cases outcome with
      | error failure =>
        obtain ⟨rfl, rfl, rfl⟩ := admits_done.mp hdone
        rw [List.append_nil]
        exact hcourse
      | ok c =>
        obtain ⟨rfl, rfl, rfl⟩ := admits_done.mp hdone
        rw [List.append_nil]
        exact hcourse

section Run

variable {σ : Type} (env : Environment σ) (standing : Standing σ) (options)

theorem ensureAllowed_ok_iff :
    ensureAllowed params = .ok () ↔
      params.ensureValid = .ok () ∧ (params.secured = true → params.useGssapi = true) := by
  unfold ensureAllowed
  cases params.ensureValid with
  | error failure => simp
  | ok _ => cases params.secured <;> cases params.useGssapi <;> simp [Refusal.refuse]

/-- The line about the servers of a domain. -/
def discoveredNote (params : Params) (options : DialOptions) (hosts : List String) : Event :=
  .line ⟨options.logger, .debug, "discovered " ++ Decimal.ofNat hosts.length ++ " servers for " ++
    params.domain ++ ": " ++ join " " hosts⟩

theorem servers_run_configured (h : params.uris ≠ [] ∨ params.domain = "") :
    (servers params options).run env standing = ⟨.ok params.uris, standing, []⟩ := by
  have hcond : ¬ (params.uris.isEmpty && !params.domain.isEmpty) = true := by
    have hdomain : params.uris = [] → params.domain = "" :=
      fun huris => h.resolve_left (not_not_intro huris)
    simpa using hdomain
  rw [servers, if_neg hcond]
  rfl

/-- How a resolver comes to hand: the caller's is there, and that of the system is asked for. -/
structure Prepared (options : DialOptions) (standing : Standing σ)
    (ready : Outcome σ (Except Failure Unit)) : Prop where
  own : options.customResolver = true → ready = ⟨.ok (), standing, []⟩
  system : options.customResolver = false →
    ∃ answer : Except String Unit, ready.events = [.exchange .systemResolver answer] ∧
      ready.value = answer.mapError fun reason =>
        .network ("failed to load resolver configuration: " ++ reason)

theorem prepared_run :
    Prepared options standing ((prepareResolver options).run env standing) := by
  unfold prepareResolver
  constructor
  · intro hown
    rw [if_pos hown]
    rfl
  · intro hsystem
    rw [if_neg (Bool.eq_false_iff.mp hsystem)]
    obtain ⟨answer, hevents, hvalue, -⟩ :=
      admits_systemResolver.mp (run_admits env systemResolver standing)
    exact ⟨answer, hevents, hvalue⟩

/-- Without a resolver nothing is looked up. -/
theorem discover_run_unready {failure : Failure}
    (h : ((prepareResolver options).run env standing).value = .error failure) :
    let ready := (prepareResolver options).run env standing
    (discover params options).run env standing =
      ⟨.error failure, ready.standing, ready.events⟩ := by
  intro ready
  rw [discover, bind_eq_bind, run_bind, h]
  simp [run, Outcome.after, ready]

theorem discover_run_ready (h : ((prepareResolver options).run env standing).value = .ok ()) :
    let ready := (prepareResolver options).run env standing
    (discover params options).run env standing =
      ((Discovery.servers params.domain params.site).run env ready.standing).after
        ready.events := by
  intro ready
  rw [discover, bind_eq_bind, run_bind, h]

/-- Without servers in the parameters those of the domain are discovered, once there is a
resolver. -/
theorem servers_run_discovered (huris : params.uris = []) (hdomain : params.domain ≠ "") :
    let ready := (prepareResolver options).run env standing
    let discovery := (Discovery.servers params.domain params.site).run env ready.standing
    (∀ failure, ready.value = .error failure →
      (servers params options).run env standing =
        ⟨.error failure, ready.standing, ready.events⟩) ∧
    (ready.value = .ok () →
      (∀ failure, discovery.value = .error failure →
        (servers params options).run env standing =
          ⟨.error failure, discovery.standing, ready.events ++ discovery.events⟩) ∧
      ∀ hosts, discovery.value = .ok hosts →
        (servers params options).run env standing =
          ⟨.ok hosts, discovery.standing,
            ready.events ++ discovery.events ++ [discoveredNote params options hosts]⟩) := by
  intro ready discovery
  have hcond : (params.uris.isEmpty && !params.domain.isEmpty) = true := by
    simpa [huris] using hdomain
  rw [servers, if_pos hcond, bind_eq_bind, run_bind]
  refine ⟨fun failure hfailure => ?_, fun hok => ⟨fun failure hfailure => ?_,
    fun hosts hhosts => ?_⟩⟩
  · rw [discover_run_unready options env standing hfailure]
    simp [run, Outcome.after, ready]
  · rw [discover_run_ready options env standing hok,
      show (discovery.after ready.events).value = .error failure from hfailure]
    simp [run, Outcome.after, ready, discovery]
  · rw [discover_run_ready options env standing hok,
      show (discovery.after ready.events).value = .ok hosts from hhosts]
    rfl

theorem login_run_failed (h : ensureAllowed params = .ok ()) {failure : Failure}
    (hfound : ((servers params (options.withParams params)).run env standing).value =
      .error failure) :
    let found := (servers params (options.withParams params)).run env standing
    (login params options).run env standing = ⟨.error failure, found.standing, found.events⟩ := by
  intro found
  simp only [login, h, bind_eq_bind, run_bind, hfound]
  simp [run, Outcome.after, found]

/-- A login that has found its servers tries them, and gives the connection that it gets a search
base. -/
theorem login_run_found (h : ensureAllowed params = .ok ()) {uris : List String}
    (hfound : ((servers params (options.withParams params)).run env standing).value = .ok uris) :
    let found := (servers params (options.withParams params)).run env standing
    let tried := (tryAll params (options.withParams params) Refusal.noServers.toFailure uris).run
      env found.standing
    (login params options).run env standing =
      ⟨tried.value.map fun c => { c with searchBase := searchBase params }, tried.standing,
        found.events ++ tried.events⟩ := by
  intro found tried
  subst tried found
  simp only [login, h, bind_eq_bind, run_bind, hfound]
  -- only how the attempts end matters from here on
  generalize (tryAll params _ _ uris).run env _ = tried
  obtain ⟨value, reached, events⟩ := tried
  cases value with
  | error failure => simp [run, Outcome.after, Except.map]
  | ok c => simp [run, Outcome.after, Except.map]

end Run

end LdapClient.Login
