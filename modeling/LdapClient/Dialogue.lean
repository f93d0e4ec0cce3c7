/-
# LdapClient.Dialogue -- a client's part in a conversation

What a client does is a conversation with its surroundings: it asks a question, gets an answer and
goes on from there, and now and then it writes a line to a log.  A `Dialogue` is the client's part:
it says what comes next for every answer, and so leaves all answers open.

An `Environment` is the other part: it answers every question, and its answers may depend on
everything that it has been asked before.  `Dialogue.run` lets the two talk.  The outcome lists all
that happened in order, and `run_bind` says that the parts of a dialogue happen one after the
other.

A client numbers the sessions that it opens.  A number is used once, so it names a session in the
whole conversation.
-/
import LdapClient.Address
import LdapClient.Log
import LdapClient.Session

namespace LdapClient

/-! ## Questions -/

/-- The number that a client gives to a session. -/
abbrev SessionId := Nat

/-- Who opens transports. -/
inductive Connector where
  /-- The transport that comes with the client. -/
  | standard
  /-- One that the caller supplies. -/
  | custom
deriving DecidableEq

/-- What a client asks of its surroundings. -/
inductive Question where
  /-- The resolver of the system, ready for lookups. -/
  | systemResolver
  /-- The hosts of a service record. -/
  | lookup (name : String)
  /-- A new session with a server. -/
  | connect (session : SessionId) (connector : Connector) (address : Address)
      (options : TransportOptions)
  /-- A call to an open session. -/
  | call (session : SessionId) (made : SessionCall)
deriving DecidableEq

/-- The answers to a question. -/
def Question.Answer : Question → Type
  | .systemResolver => Except String Unit
  | .lookup _ => Except Failure (List String)
  | .connect .. => Except Signal Unit
  | .call _ made => made.Answer

/-! ## Dialogues -/

/-- A client's part in a conversation that ends with a value. -/
inductive Dialogue (α : Type) where
  | done (value : α)
  | ask (question : Question) (next : question.Answer → Dialogue α)
  | tell (line : Line) (next : Dialogue α)
  /-- Takes the next number for a session. -/
  | number (next : SessionId → Dialogue α)

namespace Dialogue

variable {α β γ : Type}

/-- One dialogue after another. -/
def bind : Dialogue α → (α → Dialogue β) → Dialogue β
  | done value, f => f value
  | ask question next, f => ask question fun answer => (next answer).bind f
  | tell line next, f => tell line (next.bind f)
  | number next, f => number fun session => (next session).bind f

instance : Monad Dialogue where
  pure := done
  bind := bind

@[simp]
theorem pure_eq_done (value : α) : (pure value : Dialogue α) = done value :=
  rfl

@[simp]
theorem bind_eq_bind (d : Dialogue α) (f : α → Dialogue β) : d >>= f = d.bind f :=
  rfl

@[simp]
theorem done_bind (value : α) (f : α → Dialogue β) : (done value).bind f = f value :=
  rfl

@[simp]
theorem bind_done (d : Dialogue α) : d.bind done = d := by
  induction d with
  | done => rfl
  | ask _ _ ih => simp only [bind, ih]
  | tell _ _ ih => simp only [bind, ih]
  | number _ ih => simp only [bind, ih]

theorem bind_bind (d : Dialogue α) (f : α → Dialogue β) (g : β → Dialogue γ) :
    (d.bind f).bind g = d.bind fun value => (f value).bind g := by
  induction d with
  | done => rfl
  | ask _ _ ih => simp only [bind, ih]
  | tell _ _ ih => simp only [bind, ih]
  | number _ ih => simp only [bind, ih]

/-- Writes a line. -/
def say (logger : Logger) (level : Level) (text : String) : Dialogue Unit :=
  tell ⟨logger, level, text⟩ (done ())

/-- Asks for the resolver of the system, which says why it cannot be had. -/
def systemResolver : Dialogue (Except Failure Unit) :=
  ask .systemResolver fun answer =>
    done (Except.mapError
      (fun reason => .network ("failed to load resolver configuration: " ++ reason)) answer)

/-- Asks for the hosts of a service record. -/
def lookup (name : String) : Dialogue (Except Failure (List String)) :=
  ask (.lookup name) done

/-- Opens a session and gives it the next number. -/
def connect (connector : Connector) (address : Address) (options : TransportOptions) :
    Dialogue (Except Failure SessionId) :=
  number fun session =>
    ask (.connect session connector address options) fun answer =>
      match (answer : Except Signal Unit) with
      | .ok () => done (.ok session)
      | .error signal => done (.error signal.toFailure)

/-- Makes a call to a session. -/
def call (session : SessionId) (made : SessionCall) : Dialogue (Except Failure made.Value) :=
  ask (.call session made) fun answer =>
    done (Except.mapError Signal.toFailure answer)

/-! ## Conversations -/

/-- Something that happened in a conversation. -/
inductive Event where
  | line (line : Line)
  | exchange (question : Question) (answer : question.Answer)

/-- Whoever answers; `σ` is what the answers depend on. -/
structure Environment (σ : Type) where
  answer : (question : Question) → σ → question.Answer × σ

/-- Where a conversation stands: what the answers depend on, and how many sessions are numbered. -/
structure Standing (σ : Type) where
  world : σ
  sessions : Nat

/-- How a conversation went. -/
structure Outcome (σ α : Type) where
  value : α
  standing : Standing σ
  events : List Event

variable {σ : Type}

/-- The outcome with events in front. -/
def Outcome.after (outcome : Outcome σ α) (events : List Event) : Outcome σ α :=
  { outcome with events := events ++ outcome.events }

/-- A conversation. -/
def run (env : Environment σ) : Dialogue α → Standing σ → Outcome σ α
  | done value, standing => ⟨value, standing, []⟩
  | ask question next, standing =>
    let reply := env.answer question standing.world
    ((next reply.1).run env { standing with world := reply.2 }).after
      [.exchange question reply.1]
  | tell line next, standing => (next.run env standing).after [.line line]
  | number next, standing =>
    (next standing.sessions).run env { standing with sessions := standing.sessions + 1 }

theorem run_bind (env : Environment σ) (d : Dialogue α) (f : α → Dialogue β)
    (standing : Standing σ) :
    (d.bind f).run env standing =
      ((f (d.run env standing).value).run env (d.run env standing).standing).after
        (d.run env standing).events := by
  induction d generalizing standing with
  | done => rfl
  | ask _ _ ih => simp only [bind, run, ih, Outcome.after, List.append_assoc]
  | tell _ _ ih => simp only [bind, run, ih, Outcome.after, List.append_assoc]
  | number _ ih => simp only [bind, run, ih]

end Dialogue

end LdapClient
