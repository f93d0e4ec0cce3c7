/-
# LdapClient.Proofs.Login.Secrecy -- a password shows nowhere but in the bind

Two clients that differ only in the password that they bind with are compared.  `Dialogue.Alike`
relates dialogues that ask the same questions and write the same lines in the same order, except
that where one binds with one password the other binds with the other; after equal answers they go
on alike and end with equal values.  Such dialogues can be put together (`Dialogue.Alike.bind`), so
that a login is compared part by part.

How two alike dialogues go may depend on the passwords only through the answers: the two servers may
tell one password from the other.  `SameAnswers` says that they do not, and `Dialogue.Alike.admits`
that then nothing else tells the two conversations apart.  The main statement is
`password_unobservable`.
-/
import Mathlib.Data.List.Forall2
import LdapClient.Login
import LdapClient.Proofs.Conversation

namespace LdapClient

open Dialogue

/-! ## Alike conversations -/

section Alike

variable (password other : String)

/-- The questions are the same, or they are simple binds with the two passwords. -/
inductive Question.Alike : Question → Question → Prop
  | same (question : Question) : Alike question question
  | bind (session : SessionId) (dn : String) :
      Alike (.call session (.simpleBind dn password)) (.call session (.simpleBind dn other))

/-- The events are the same line, or alike questions with the same answer. -/
inductive Dialogue.Event.Alike : Event → Event → Prop
  | line (line : Line) : Alike (.line line) (.line line)
  | exchange {first second : Question} {answer : first.Answer} {reply : second.Answer}
      (h : first.Alike password other second) (hsame : HEq answer reply) :
      Alike (.exchange first answer) (.exchange second reply)

/-- As long as the two conversations go alike, alike questions get the same answer; once they have
come apart, nothing is said about the answers. -/
def SameAnswers : List Event → List Event → Prop
  | .exchange first answer :: events, .exchange second reply :: others =>
    first.Alike password other second → HEq answer reply ∧ SameAnswers events others
  | .line first :: events, .line second :: others => first = second → SameAnswers events others
  | _, _ => True

namespace Dialogue

variable {α β : Type}

/-- The two dialogues ask alike questions and write the same lines, go on alike after the same
answers, and end with the same value. -/
inductive Alike : Dialogue α → Dialogue α → Prop
  | done (value : α) : Alike (done value) (done value)
  | ask {first second : Question} {next : first.Answer → Dialogue α}
      {later : second.Answer → Dialogue α} (h : first.Alike password other second)
      (hnext : ∀ answer reply, HEq answer reply → Alike (next answer) (later reply)) :
      Alike (ask first next) (ask second later)
  | tell (line : Line) {next later : Dialogue α} (hnext : Alike next later) :
      Alike (tell line next) (tell line later)
  | number {next later : SessionId → Dialogue α}
      (hnext : ∀ session, Alike (next session) (later session)) :
      Alike (number next) (number later)

variable {password other}

theorem Alike.refl (d : Dialogue α) : d.Alike password other d := by
  induction d with
  | done value => exact .done value
  | ask question next ih =>
    refine .ask (.same question) fun answer reply h => ?_
    cases h
    exact ih answer
  | tell line next ih => exact .tell line ih
  | number next ih => exact .number ih

theorem Alike.bind {d e : Dialogue α} {f g : α → Dialogue β} (h : d.Alike password other e)
    (hf : ∀ value, (f value).Alike password other (g value)) :
    (d.bind f).Alike password other (e.bind g) := by
  induction h with
  | done value => exact hf value
  | ask h _ ih => exact .ask h ih
  | tell line _ ih => exact .tell line ih
  | number _ ih => exact .number ih

/-- Alike dialogues that get the same answers go alike. -/
theorem Alike.admits {d e : Dialogue α} (h : d.Alike password other e) {n m k : Nat}
    {events others : List Event} {result value : α} (hd : d.Admits n events result m)
    (he : e.Admits n others value k) (hsame : SameAnswers password other events others) :
    result = value ∧ m = k ∧ List.Forall₂ (Event.Alike password other) events others := by
  induction h generalizing n events others with
  | done value =>
    obtain ⟨rfl, rfl, rfl⟩ := admits_done.mp hd
    obtain ⟨rfl, rfl, rfl⟩ := admits_done.mp he
    exact ⟨rfl, rfl, .nil⟩
  | ask hquestion _ ih =>
    obtain ⟨answer, events, rfl, hd'⟩ := admits_ask.mp hd
    obtain ⟨reply, others, rfl, he'⟩ := admits_ask.mp he
    obtain ⟨hanswer, hrest⟩ := hsame hquestion
    obtain ⟨hresult, hnumber, hevents⟩ := ih answer reply hanswer hd' he' hrest
    exact ⟨hresult, hnumber, .cons (.exchange hquestion hanswer) hevents⟩
  | tell line _ ih =>
    obtain ⟨events, rfl, hd'⟩ := admits_tell.mp hd
    obtain ⟨others, rfl, he'⟩ := admits_tell.mp he
    obtain ⟨hresult, hnumber, hevents⟩ := ih hd' he' (hsame rfl)
    exact ⟨hresult, hnumber, .cons (.line line) hevents⟩
  | number _ ih => exact ih _ (admits_number.mp hd) (admits_number.mp he) hsame

/-- The outcomes differ at most in the passwords of the binds. -/
structure Outcome.Alike {σ τ : Type} (password other : String) (first : Outcome σ α)
    (second : Outcome τ α) : Prop where
  value : first.value = second.value
  sessions : first.standing.sessions = second.standing.sessions
  events : List.Forall₂ (Event.Alike password other) first.events second.events

/-- Nobody can tell the two dialogues apart but by the passwords of the binds, as long as alike
questions get the same answer: who answers may know which of the two it talks to. -/
def Indistinguishable (password other : String) (d e : Dialogue α) : Prop :=
  ∀ ⦃σ τ : Type⦄ (env : Environment σ) (env' : Environment τ) (world : σ) (world' : τ) (n : Nat),
    SameAnswers password other (d.run env ⟨world, n⟩).events (e.run env' ⟨world', n⟩).events →
      Outcome.Alike password other (d.run env ⟨world, n⟩) (e.run env' ⟨world', n⟩)

theorem Alike.indistinguishable {d e : Dialogue α} (h : d.Alike password other e) :
    Indistinguishable password other d e := by
  intro σ τ env env' world world' n hsame
  obtain ⟨hvalue, hsessions, hevents⟩ :=
    h.admits (run_admits env d ⟨world, n⟩) (run_admits env' e ⟨world', n⟩) hsame
  exact ⟨hvalue, hsessions, hevents⟩

/-- The environment does not tell a bind with one password from a bind with the other. -/
def Environment.Overlooks {σ : Type} (env : Environment σ) (password other : String) : Prop :=
  ∀ session dn world, env.answer (.call session (.simpleBind dn password)) world =
    env.answer (.call session (.simpleBind dn other)) world

theorem Environment.Overlooks.answer {σ : Type} {env : Environment σ}
    (henv : env.Overlooks password other) {first second : Question}
    (h : first.Alike password other second) (world : σ) :
    HEq (env.answer first world).1 (env.answer second world).1 ∧
      (env.answer first world).2 = (env.answer second world).2 := by
  cases h with
  | same question => exact ⟨.rfl, rfl⟩
  | bind session dn =>
    have hreply := henv session dn world
    exact ⟨heq_of_eq (congrArg Prod.fst hreply), congrArg Prod.snd hreply⟩

/-- An environment that overlooks the passwords gives alike dialogues the same answers. -/
theorem Alike.sameAnswers {σ : Type} {d e : Dialogue α} (h : d.Alike password other e)
    {env : Environment σ} (henv : env.Overlooks password other) (standing : Standing σ) :
    SameAnswers password other (d.run env standing).events (e.run env standing).events := by
  induction h generalizing standing with
  | done value => trivial
  | ask hquestion _ ih =>
    obtain ⟨hanswer, hworld⟩ := henv.answer hquestion standing.world
    simp only [Dialogue.run, hworld]
    exact fun _ => ⟨hanswer, ih _ _ hanswer _⟩
  | tell line _ ih => exact fun _ => ih standing
  | number _ ih => exact ih _ _

-- A run is not to be computed wherever the answers of two runs are compared.
attribute [irreducible] SameAnswers

end Dialogue

end Alike

/-! ## Binds -/

namespace Connection

variable {password other : String}

variable (password other) in
theorem simpleBind_call_alike (session : SessionId) (dn : String) :
    Alike password other
      (call session (.simpleBind dn password) : Dialogue (Except Failure Unit))
      (call session (.simpleBind dn other) : Dialogue (Except Failure Unit)) := by
  refine .ask (.bind session dn) fun answer reply h => ?_
  rw [eq_of_heq h]
  exact .done _

theorem bindSession_alike (c : Connection) (method : LoginMethod) (startTls : Bool) (dn : String)
    (session : SessionId) :
    (c.bindSession method startTls (.simpleBind dn password) session).Alike password other
      (c.bindSession method startTls (.simpleBind dn other) session) := by
  refine (simpleBind_call_alike password other session dn).bind fun result => ?_
  cases result with
  | error failure => exact .refl _
  | ok value => exact .refl _

theorem bindBy_alike (c : Connection) (method : LoginMethod) (startTls : Bool) (dn : String) :
    (c.bindBy method startTls (.simpleBind dn password)).Alike password other
      (c.bindBy method startTls (.simpleBind dn other)) := by
  unfold bindBy
  cases c.ensureUnbound with
  | error failure => exact .refl _
  | ok _ =>
    refine (Alike.refl _).bind fun result => ?_
    cases result with
    | error failure => exact .refl _
    | ok session => exact bindSession_alike c method startTls dn session

/-- That a password is not empty is all that a bind looks at. -/
theorem simpleBind_alike (hpassword : password ≠ "") (hother : other ≠ "") (c : Connection)
    (dn : String) :
    (c.simpleBind dn password).Alike password other (c.simpleBind dn other) := by
  unfold simpleBind
  rw [if_neg (by simpa using hpassword), if_neg (by simpa using hother)]
  exact bindBy_alike c _ _ dn

end Connection

/-! ## Parameters

What a login reads of its parameters beside the bind does not change with the password. -/

/-- The parameters with another password. -/
def Params.withPassword (params : Params) (password : String) : Params :=
  { params with bindPassword := ⟨password⟩ }

section Params

variable (params : Params) (password : String)

theorem Params.satisfies_withPassword (rule : Params.Rule) :
    (params.withPassword password).satisfies rule = params.satisfies rule := by
  cases rule <;> rfl

theorem Params.ruleLine_withPassword :
    (params.withPassword password).ruleLine = params.ruleLine := by
  funext rule
  cases rule <;> rfl

theorem Params.ensureValid_withPassword :
    (params.withPassword password).ensureValid = params.ensureValid := by
  simp only [Params.ensureValid, Params.reported, Params.brokenLimits,
    Params.satisfies_withPassword, Params.ruleLine_withPassword]

theorem Params.wantsGssapi_withPassword :
    (params.withPassword password).wantsGssapi = params.wantsGssapi :=
  rfl

theorem Params.useLdaps_withPassword :
    (params.withPassword password).useLdaps = params.useLdaps :=
  rfl

theorem Params.describe_withPassword :
    (params.withPassword password).describe = params.describe :=
  rfl

theorem Login.ensureAllowed_withPassword :
    Login.ensureAllowed (params.withPassword password) = Login.ensureAllowed params := by
  unfold Login.ensureAllowed
  rw [Params.ensureValid_withPassword]
  rfl

theorem Login.servers_withPassword (options : DialOptions) :
    Login.servers (params.withPassword password) options = Login.servers params options :=
  rfl

theorem Login.protect_withPassword (c : Connection) :
    Login.protect (params.withPassword password) c = Login.protect params c :=
  rfl

end Params

/-! ## Logins -/

namespace Login

open Connection

section Attempts

variable {password other : String} (hpassword : password ≠ "") (hother : other ≠ "")
  (params : Params) (options : DialOptions)
include hpassword hother

theorem authenticate_alike (c : Connection) :
    (authenticate (params.withPassword password) c).Alike password other
      (authenticate (params.withPassword other) c) := by
  unfold authenticate
  rw [Params.wantsGssapi_withPassword, Params.wantsGssapi_withPassword]
  cases params.wantsGssapi with
  | true => exact .refl _
  | false => exact simpleBind_alike hpassword hother c _

theorem attempt_alike (address : String) :
    (attempt (params.withPassword password) options address).Alike password other
      (attempt (params.withPassword other) options address) := by
  refine (Alike.refl _).bind fun dialed => ?_
  cases dialed with
  | error failure => exact .refl _
  | ok c =>
    simp only [protect_withPassword]
    cases protect params c with
    | error failure => exact .refl _
    | ok c => exact (authenticate_alike hpassword hother params c).bind fun _ => .refl _

theorem tryAll_alike (last : Failure) (uris : List String) :
    (tryAll (params.withPassword password) options last uris).Alike password other
      (tryAll (params.withPassword other) options last uris) := by
  induction uris generalizing last with
  | nil => exact .refl _
  | cons uri uris ih =>
    simp only [tryAll, Params.useLdaps_withPassword]
    refine (attempt_alike hpassword hother params options _).bind fun result => ?_
    cases result with
    | error failure => exact (Alike.refl _).bind fun _ => ih failure
    | ok c => exact .refl _

theorem login_alike :
    (login (params.withPassword password) options).Alike password other
      (login (params.withPassword other) options) := by
  unfold login
  rw [ensureAllowed_withPassword, ensureAllowed_withPassword]
  cases ensureAllowed params with
  | error failure => exact .refl _
  | ok _ =>
    simp only [servers_withPassword]
    refine (Alike.refl _).bind fun found => ?_
    cases found with
    | error failure => exact .refl _
    | ok uris =>
      exact (tryAll_alike hpassword hother params _ _ uris).bind fun _ => .refl _

end Attempts

/-! ## The password is not observable -/

/-- Parameters that differ in a password that is not empty have the same description, and their
logins bring the same result, write the same lines and ask the same questions in the same order,
except that the binds carry the password; so does a bind of a connection.  The connections that
result are equal, with all that they show of themselves. -/
theorem password_unobservable {password other : String} (hpassword : password ≠ "")
    (hother : other ≠ "") (params : Params) (options : DialOptions) (c : Connection) (dn : String) :
    (params.withPassword password).describe = (params.withPassword other).describe ∧
      Indistinguishable password other (login (params.withPassword password) options)
        (login (params.withPassword other) options) ∧
      Indistinguishable password other (c.simpleBind dn password) (c.simpleBind dn other) := by
  refine ⟨?_, ?_, ?_⟩
  · rw [Params.describe_withPassword, Params.describe_withPassword]
  · exact (login_alike hpassword hother params options).indistinguishable
  · exact (simpleBind_alike hpassword hother c dn).indistinguishable

/-- With a server that takes any password, two logins bind, and nothing tells them apart. -/
theorem two_passwords_bound :
    let params : Params := { uris := ["ds1"], secured := false, bindDn := "cn=admin" }
    let first := (login (params.withPassword "secret") {}).run obliging ⟨(), 0⟩
    let second := (login (params.withPassword "changed") {}).run obliging ⟨(), 0⟩
    "secret" ≠ "" ∧ "changed" ≠ "" ∧
      SameAnswers "secret" "changed" first.events second.events ∧
      (∃ c, first.value = .ok c ∧ c.phase = .bound) ∧
      Outcome.Alike "secret" "changed" first second := by
  intro params first second
  have hsecret : "secret" ≠ "" := by decide
  have hchanged : "changed" ≠ "" := by decide
  have hoverlooks : obliging.Overlooks "secret" "changed" := fun _ _ _ => rfl
  have hsame := (login_alike hsecret hchanged params {}).sameAnswers hoverlooks ⟨(), 0⟩
  have hlogin := (password_unobservable hsecret hchanged params {}
    ⟨⟨"ldap://ds1", .ldap, "ds1", none⟩, {}, "", .dialed⟩ "cn=admin").2.1
  have halike := hlogin obliging obliging () () 0 hsame
  subst first second params
  exact ⟨hsecret, hchanged, hsame, ⟨_, rfl, rfl⟩, halike⟩

example :
    ({ domain := "org", uris := ["ds1"], bindPassword := ⟨"secret"⟩ } : Params).describe =
      "ConnectionParams \x7b domain: \"org\", site: \"\", uris: [\"ds1\"], bind_dn: \"\", " ++
        "bind_password: SecretBox<str>([REDACTED]), search_base: \"\", secured: true, " ++
        "use_gssapi: false, use_ldaps: false, use_start_tls: false, network_timeout_secs: -1, " ++
        "time_limit_secs: -1, keytab: None, tls_verify: true, tls_ca_cert: None \x7d" := by
  decide +kernel

end Login

end LdapClient
