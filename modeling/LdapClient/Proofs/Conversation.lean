/-
# LdapClient.Proofs.Conversation -- all that a dialogue can do

`Dialogue.run` lets a dialogue talk to one environment.  Most of what matters about a client holds
whatever it is answered, and is said without an environment: `Dialogue.Admits` relates a dialogue to
every course that a conversation with it can take, and `run_admits` says that each run is such a
course.

Courses are taken apart by one lemma for each way to build a dialogue.  `Dialogue.Asks` bounds what
a dialogue asks at all, and `Asks.bind` builds such a bound from those of the parts.
-/
import LdapClient.Dialogue

namespace LdapClient.Dialogue

variable {α β σ : Type}

/-! ## Courses -/

/-- A conversation with this dialogue can begin with `n` sessions numbered, go through these events
and end with this value and `m` sessions numbered. -/
def Admits : Dialogue α → Nat → List Event → α → Nat → Prop
  | done value, n, events, result, m => events = [] ∧ result = value ∧ m = n
  | ask question next, n, events, result, m =>
    ∃ answer later, events = .exchange question answer :: later ∧
      (next answer).Admits n later result m
  | tell line next, n, events, result, m =>
    ∃ later, events = .line line :: later ∧ next.Admits n later result m
  | number next, n, events, result, m => (next n).Admits (n + 1) events result m

@[simp]
theorem admits_done {value result : α} {n m : Nat} {events : List Event} :
    (done value).Admits n events result m ↔ events = [] ∧ result = value ∧ m = n :=
  Iff.rfl

@[simp]
theorem admits_ask {question : Question} {next : question.Answer → Dialogue α} {result : α}
    {n m : Nat} {events : List Event} :
    (ask question next).Admits n events result m ↔
      ∃ answer later, events = .exchange question answer :: later ∧
        (next answer).Admits n later result m :=
  Iff.rfl

@[simp]
theorem admits_tell {line : Line} {next : Dialogue α} {result : α} {n m : Nat}
    {events : List Event} :
    (tell line next).Admits n events result m ↔
      ∃ later, events = .line line :: later ∧ next.Admits n later result m :=
  Iff.rfl

@[simp]
theorem admits_number {next : SessionId → Dialogue α} {result : α} {n m : Nat}
    {events : List Event} :
    (number next).Admits n events result m ↔ (next n).Admits (n + 1) events result m :=
  Iff.rfl

/-- The course of one dialogue after another falls into the courses of the two. -/
theorem admits_bind {d : Dialogue α} {f : α → Dialogue β} {n m : Nat} {events : List Event}
    {result : β} :
    (d.bind f).Admits n events result m ↔
      ∃ first value k second, d.Admits n first value k ∧ (f value).Admits k second result m ∧
        events = first ++ second := by
  -- the dialogue is read from its front, where the events are, so the induction is on it alone
  induction d generalizing n events with
  | done value =>
    constructor
    · intro h
      exact ⟨[], value, n, events, ⟨rfl, rfl, rfl⟩, h, rfl⟩
    · rintro ⟨_, _, _, second, ⟨rfl, rfl, rfl⟩, h, rfl⟩
      exact h
  | ask question next ih =>
    constructor
    · rintro ⟨answer, later, rfl, h⟩
      obtain ⟨first, value, k, second, hd, hf, rfl⟩ := (ih answer).mp h
      exact ⟨.exchange question answer :: first, value, k, second, ⟨answer, first, rfl, hd⟩, hf,
        rfl⟩
    · rintro ⟨_, value, k, second, ⟨answer, later, rfl, hd⟩, hf, rfl⟩
      exact ⟨answer, later ++ second, rfl, (ih answer).mpr ⟨later, value, k, second, hd, hf, rfl⟩⟩
  | tell line next ih =>
    constructor
    · rintro ⟨later, rfl, h⟩
      obtain ⟨first, value, k, second, hd, hf, rfl⟩ := ih.mp h
      exact ⟨.line line :: first, value, k, second, ⟨first, rfl, hd⟩, hf, rfl⟩
    · rintro ⟨_, value, k, second, ⟨later, rfl, hd⟩, hf, rfl⟩
      exact ⟨later ++ second, rfl, ih.mpr ⟨later, value, k, second, hd, hf, rfl⟩⟩
  | number next ih => exact ih n

/-- What happens in a conversation is a course of the dialogue. -/
theorem run_admits (env : Environment σ) (d : Dialogue α) (standing : Standing σ) :
    d.Admits standing.sessions (d.run env standing).events (d.run env standing).value
      (d.run env standing).standing.sessions := by
  -- what the environment knows changes from answer to answer
  induction d generalizing standing with
  | done value => exact ⟨rfl, rfl, rfl⟩
  | ask question next ih =>
    let reply := env.answer question standing.world
    exact ⟨reply.1, _, rfl, ih reply.1 { standing with world := reply.2 }⟩
  | tell line next ih => exact ⟨_, rfl, ih standing⟩
  | number next ih => exact ih standing.sessions { standing with sessions := standing.sessions + 1 }

/-! ## Courses of single questions -/

@[simp]
theorem admits_say {logger : Logger} {level : Level} {text : String} {n m : Nat}
    {events : List Event} {result : Unit} :
    (say logger level text).Admits n events result m ↔
      events = [.line ⟨logger, level, text⟩] ∧ m = n := by
  constructor
  · rintro ⟨_, rfl, rfl, -, rfl⟩
    exact ⟨rfl, rfl⟩
  · rintro ⟨rfl, rfl⟩
    exact ⟨[], rfl, rfl, rfl, rfl⟩

/-- The resolver of the system is one exchange; a reason arrives as the failure that reports it. -/
theorem admits_systemResolver {n m : Nat} {events : List Event} {result : Except Failure Unit} :
    systemResolver.Admits n events result m ↔
      ∃ answer : Except String Unit, events = [.exchange .systemResolver answer] ∧
        result = answer.mapError (fun reason =>
          .network ("failed to load resolver configuration: " ++ reason)) ∧ m = n := by
  constructor
  · rintro ⟨answer, _, rfl, rfl, rfl, rfl⟩
    exact ⟨answer, rfl, rfl, rfl⟩
  · rintro ⟨answer, rfl, rfl, rfl⟩
    exact ⟨answer, [], rfl, rfl, rfl, rfl⟩

theorem admits_lookup {name : String} {n m : Nat} {events : List Event}
    {result : Except Failure (List String)} :
    (lookup name).Admits n events result m ↔
      events = [.exchange (.lookup name) result] ∧ m = n := by
  constructor
  · rintro ⟨answer, _, rfl, rfl, rfl, rfl⟩
    exact ⟨rfl, rfl⟩
  · rintro ⟨rfl, rfl⟩
    exact ⟨result, [], rfl, rfl, rfl, rfl⟩

/-- A call is one exchange; a signal arrives as the failure that it reports. -/
theorem admits_call {session : SessionId} {made : SessionCall} {n m : Nat} {events : List Event}
    {result : Except Failure made.Value} :
    (call session made).Admits n events result m ↔
      ∃ answer : made.Answer, events = [.exchange (.call session made) answer] ∧
        result = Except.mapError Signal.toFailure answer ∧ m = n := by
  constructor
  · rintro ⟨answer, _, rfl, rfl, rfl, rfl⟩
    exact ⟨answer, rfl, rfl, rfl⟩
  · rintro ⟨answer, rfl, rfl, rfl⟩
    exact ⟨answer, [], rfl, rfl, rfl, rfl⟩

/-- Opening a session uses up one number, whether it is opened or not. -/
theorem admits_connect {connector : Connector} {address : Address} {options : TransportOptions}
    {n m : Nat} {events : List Event} {result : Except Failure SessionId} :
    (connect connector address options).Admits n events result m ↔
      m = n + 1 ∧ ∃ answer : Except Signal Unit,
        events = [.exchange (.connect n connector address options) answer] ∧
        result = (answer.mapError Signal.toFailure).map fun _ => n := by
  constructor
  · rintro ⟨answer, later, rfl, h⟩
    rcases answer with signal | ⟨⟨⟩⟩ <;> obtain ⟨rfl, rfl, rfl⟩ := h
    · exact ⟨rfl, .error signal, rfl, rfl⟩
    · exact ⟨rfl, .ok (), rfl, rfl⟩
  · rintro ⟨rfl, signal | ⟨⟨⟩⟩, rfl, rfl⟩
    · exact ⟨.error signal, [], rfl, rfl, rfl, rfl⟩
    · exact ⟨.ok (), [], rfl, rfl, rfl, rfl⟩

-- From here on a course is taken apart by the lemmas above.  Left to unfold by itself, `Admits`
-- would have the dialogue computed wherever a course is mentioned.
attribute [irreducible] Admits

/-- The event is a line. -/
def Event.isLine : Event → Bool
  | .line _ => true
  | .exchange _ _ => false

/-! ## Bounds on what is asked -/

/-- The dialogue opens no session, and all its questions are allowed, whatever it is answered. -/
def Asks (allowed : Question → Prop) : Dialogue α → Prop
  | done _ => True
  | ask question next => allowed question ∧ ∀ answer, (next answer).Asks allowed
  | tell _ next => next.Asks allowed
  | number _ => False

theorem Asks.bind {allowed : Question → Prop} {d : Dialogue α} {f : α → Dialogue β}
    (hd : d.Asks allowed) (hf : ∀ value, (f value).Asks allowed) : (d.bind f).Asks allowed := by
  induction d with
  | done value => exact hf value
  | ask question next ih => exact ⟨hd.1, fun answer => ih answer (hd.2 answer)⟩
  | tell line next ih => exact ih hd
  | number next ih => exact hd.elim

theorem asks_call {allowed : Question → Prop} {session : SessionId} {made : SessionCall}
    (h : allowed (.call session made)) : (call session made).Asks allowed :=
  ⟨h, fun _ => trivial⟩

/-- An event that is a line, or an exchange that a bound on the questions allows. -/
def Event.IsWithin (allowed : Question → Prop) : Event → Prop
  | .line _ => True
  | .exchange question _ => allowed question

theorem Event.IsWithin.mono {allowed more : Question → Prop} {event : Event}
    (h : event.IsWithin allowed) (hmore : ∀ question, allowed question → more question) :
    event.IsWithin more := by
  cases event with
  | line line => trivial
  | exchange question answer => exact hmore question h

/-- A bound on the questions is a bound on the events of every course. -/
theorem Asks.admits {allowed : Question → Prop} {d : Dialogue α} {n m : Nat}
    {events : List Event} {result : α} (hd : d.Asks allowed)
    (h : d.Admits n events result m) :
    m = n ∧ ∀ event ∈ events, event.IsWithin allowed := by
  induction d generalizing events with
  | done value =>
    obtain ⟨rfl, rfl, rfl⟩ := admits_done.mp h
    exact ⟨rfl, by simp⟩
  | ask question next ih =>
    obtain ⟨answer, later, rfl, hnext⟩ := admits_ask.mp h
    obtain ⟨hm, hlater⟩ := ih answer (hd.2 answer) hnext
    exact ⟨hm, List.forall_mem_cons.mpr ⟨hd.1, hlater⟩⟩
  | tell line next ih =>
    obtain ⟨later, rfl, hnext⟩ := admits_tell.mp h
    obtain ⟨hm, hlater⟩ := ih hd hnext
    exact ⟨hm, List.forall_mem_cons.mpr ⟨trivial, hlater⟩⟩
  | number next ih => exact hd.elim

/-! ## Environments -/

/-- The environment that opens every session, accepts every call and finds nothing. -/
def obliging : Environment Unit where
  answer
    | .systemResolver, world => (.ok (), world)
    | .lookup _, world => (.ok [], world)
    | .connect .., world => (.ok (), world)
    | .call _ (.search _), world => (.ok [], world)
    | .call _ (.simpleBind _ _), world => (.ok (), world)
    | .call _ (.gssapiBind _), world => (.ok (), world)
    | .call _ (.modify _ _), world => (.ok (), world)
    | .call _ (.modifyDn _), world => (.ok (), world)
    | .call _ (.delete _), world => (.ok (), world)
    | .call _ .unbind, world => (.ok (), world)

/-- The environment that answers one search after another from a list, and everything else, or when
the list is used up, like the obliging one. -/
def recounting : Environment (List (Except Signal (List RawEntry))) where
  answer
    | .call _ (.search _), world => (world.headD (.ok []), world.tail)
    | question, world => ((obliging.answer question ()).1, world)

end LdapClient.Dialogue
