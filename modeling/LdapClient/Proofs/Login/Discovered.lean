/-
# LdapClient.Proofs.Login.Discovered -- servers that are tried twice

A login to a domain tries the servers that it discovers, in the order in which they were found and
up to the first that accepts it.  So whether it tries a server twice depends on the list.  The main
statement is `servers_distinct_iff`: the list holds no host twice, up to ASCII case, if and only if
the answer for the site does not, and then no host is tried twice; a login that tries them all in
vain tries a host twice if the site lists it twice (`site_server_tried_twice`).
-/
import LdapClient.Proofs.Discovery
import LdapClient.Proofs.Login.Failover

namespace LdapClient.Login

open Dialogue Connection Discovery

/-- The parameters log in to servers that are discovered for this domain and site. -/
structure Discovers (params : Params) (domain site : String) : Prop where
  domain_eq : params.domain = domain
  site_eq : params.site = site
  named : domain ≠ ""
  unconfigured : params.uris = []
  allowed : ensureAllowed params = .ok ()

/-- What a login tries of the hosts that it has discovered, and how that ends. -/
structure Tries (params : Params) (options : DialOptions) (hosts : List String)
    (attempts : List Attempt) (result : Except Failure Connection) : Prop where
  failsOver : FailsOver params options hosts attempts result
  /-- No host is tried twice that is not listed twice. -/
  distinct : Distinct hosts → Distinct (attempts.map Attempt.uri)
  /-- A login that fails has tried all of them. -/
  exhausted : ∀ failure, result = .error failure →
    (Distinct (attempts.map Attempt.uri) ↔ Distinct hosts)

theorem FailsOver.tries {params : Params} {options : DialOptions} {hosts : List String}
    {attempts : List Attempt} {result : Except Failure Connection}
    (h : FailsOver params options hosts attempts result) :
    Tries params options hosts attempts result where
  failsOver := h
  distinct := fun hhosts => hhosts.sublist h.inOrder.sublist
  exhausted := fun failure hfailure => by rw [(h.failure failure hfailure).1]

/-- Whatever is answered to a discovery: the hosts that it finds are distinct if and only if those
of the site are.  A login that discovers them, with a resolver of either kind, tries them in order,
so it tries no host twice if those of the site are distinct; if it fails, they are distinct if it
has tried no host twice. -/
theorem servers_distinct_iff {σ : Type} (env : Environment σ) (standing : Standing σ)
    (domain site : String) :
    let discovery := (Discovery.servers domain site).run env standing
    ∃ nearby answer, Lookups domain site discovery.events nearby answer ∧
      ∀ hosts, discovery.value = .ok hosts → (Distinct hosts ↔ Distinct nearby) ∧
        ∀ params options start asked, Discovers params domain site →
          (prepareResolver options).run env start = ⟨.ok (), standing, asked⟩ →
          let outcome := (login params options).run env start
          let dialing := options.withParams params
          ∃ attempts, Tries params dialing hosts attempts outcome.value ∧
            outcome.events = asked ++ discovery.events ++ discoveredNote params dialing hosts ::
              attempts.flatMap (Attempt.trace params dialing) := by
  intro discovery
  obtain ⟨nearby, answer, hlookups, hvalue⟩ := servers_course (run_admits env _ standing)
  refine ⟨nearby, answer, hlookups, fun hosts hhosts => ⟨?_, ?_⟩⟩
  · rw [show discovery.value = _ from hvalue] at hhosts
    cases answer with
    | error failure => cases hhosts
    | ok wide =>
      cases hhosts
      exact distinct_merge_iff
  · intro params options start asked h hprepared outcome dialing
    obtain ⟨rfl, rfl, hnamed, hunconfigured, hallowed⟩ := h
    obtain ⟨-, hready⟩ := login_run_discovered options env start hallowed hunconfigured hnamed
    rw [hprepared] at hready
    obtain ⟨attempts, hfails, hevents⟩ := (hready rfl).2 hosts hhosts
    exact ⟨attempts, hfails.tries, hevents⟩

/-! ## A site and its domain -/

/-- The environment in which these service records stand and no server can be reached. -/
def stranded (records : List (String × List String)) : Environment Unit where
  answer
    | .lookup name, world =>
      ((records.lookup name).elim (.error (.network ("no SRV records for " ++ name))) .ok, world)
    | .connect .., world => (.error ⟨"200:unreachable"⟩, world)
    | question, world => obliging.answer question world

/-- The server of the site stands among those of the domain in another case, and is tried once. -/
theorem site_server_tried_once :
    let records := [("_ldap._tcp.Paris._sites.example.org", ["dc3"]),
      ("_ldap._tcp.example.org", ["dc1", "DC3", "dc1", "dc2"])]
    let params : Params :=
      { domain := "example.org", site := "Paris", secured := false, bindPassword := ⟨"secret"⟩ }
    let discovery := (Discovery.servers "example.org" "Paris").run (stranded records) ⟨(), 0⟩
    let outcome := (login params {}).run (stranded records) ⟨(), 0⟩
    discovery.value = .ok ["dc3", "dc1", "dc2"] ∧ Discovers params "example.org" "Paris" ∧
      outcome.value = .error ⟨.network, "unreachable"⟩ ∧
      outcome.events.countP Event.isConnect = 3 ∧
      ∃ attempts, Tries params (DialOptions.withParams {} params) ["dc3", "dc1", "dc2"] attempts
          outcome.value ∧
        Distinct (attempts.map Attempt.uri) := by
  intro records params discovery outcome
  have hdiscovers : Discovers params "example.org" "Paris" :=
    ⟨rfl, rfl, by decide, rfl, rfl⟩
  have hvalue : discovery.value = .ok ["dc3", "dc1", "dc2"] := rfl
  obtain ⟨nearby, answer, -, hfound⟩ :=
    servers_distinct_iff (stranded records) ⟨(), 0⟩ "example.org" "Paris"
  obtain ⟨-, hlogin⟩ := hfound _ hvalue
  obtain ⟨attempts, htries, -⟩ := hlogin params {} ⟨(), 0⟩ _ hdiscovers rfl
  have hdistinct : Distinct ["dc3", "dc1", "dc2"] := by
    unfold Distinct
    decide
  refine ⟨hvalue, hdiscovers, ?_, ?_, attempts, htries, htries.distinct hdistinct⟩
  -- without the local names the run is a closed term, which evaluates at once
  · subst outcome params records
    rfl
  · subst outcome params records
    rfl

/-- A server that the site lists twice is found twice and tried twice. -/
theorem site_server_tried_twice :
    let records := [("_ldap._tcp.Paris._sites.example.org", ["dc1.example.org", "DC1.example.org"]),
      ("_ldap._tcp.example.org", ["dc1.example.org"])]
    let params : Params :=
      { domain := "example.org", site := "Paris", secured := false, bindPassword := ⟨"secret"⟩ }
    let discovery := (Discovery.servers "example.org" "Paris").run (stranded records) ⟨(), 0⟩
    let outcome := (login params {}).run (stranded records) ⟨(), 0⟩
    discovery.value = .ok ["dc1.example.org", "DC1.example.org"] ∧
      Text.sameFolded "dc1.example.org" "DC1.example.org" = true ∧
      outcome.events.countP Event.isConnect = 2 :=
  ⟨rfl, by decide, rfl⟩

end LdapClient.Login
