/-
# LdapClient.Proofs.Lines -- what is written apart from what is asked

A conversation is made of exchanges and of lines for a logger.  Two questions are asked of the lines.
Which of them are errors: `errorLines` picks those out of the events, and a dialogue that is `Silent`
writes none.  And what is left without them: `quiet` takes the lines out of a dialogue, and `run_quiet`
says that the conversation is the same but for its lines.  So two dialogues that are equal once they
are quiet cannot be told apart by whoever answers (`matches_of_quiet`).
-/
import LdapClient.Proofs.Conversation

namespace LdapClient.Dialogue

variable {α β σ : Type} {n m : Nat} {events : List Event}

/-! ## Lines of errors -/

/-- The line that an event is, if it is one at error level. -/
def Event.errorLine? : Event → Option Line
  | .line written => if written.level = .error then some written else none
  | .exchange _ _ => none

/-- The lines at error level, in order. -/
def errorLines (events : List Event) : List Line :=
  events.filterMap Event.errorLine?

@[simp]
theorem errorLines_append (before after : List Event) :
    errorLines (before ++ after) = errorLines before ++ errorLines after :=
  List.filterMap_append

@[simp]
theorem errorLines_exchange (question : Question) (answer : question.Answer)
    (events : List Event) :
    errorLines (.exchange question answer :: events) = errorLines events :=
  rfl

/-! ## Silent dialogues -/

/-- The dialogue writes no line, whatever it is answered. -/
def Silent : Dialogue α → Prop
  | done _ => True
  | ask _ next => ∀ answer, (next answer).Silent
  | tell _ _ => False
  | number next => ∀ session, (next session).Silent

theorem silent_done (value : α) : (done value).Silent :=
  trivial

theorem silent_call (session : SessionId) (made : SessionCall) : (call session made).Silent :=
  fun _ => trivial

theorem Silent.bind {d : Dialogue α} {f : α → Dialogue β} (hd : d.Silent)
    (hf : ∀ value, (f value).Silent) : (d.bind f).Silent := by
  induction d with
  | done value => exact hf value
  | ask question next ih =>
    intro answer
    exact ih answer (hd answer)
  | tell line next ih => exact hd.elim
  | number next ih =>
    intro session
    exact ih session (hd session)

theorem Silent.errorLines_eq {d : Dialogue α} {result : α} (hd : d.Silent)
    (h : d.Admits n events result m) : errorLines events = [] := by
  induction d generalizing n events with
  | done value =>
    obtain ⟨rfl, -, -⟩ := admits_done.mp h
    rfl
  | ask question next ih =>
    obtain ⟨answer, later, rfl, hnext⟩ := admits_ask.mp h
    rw [errorLines_exchange]
    exact ih answer (hd answer) hnext
  | tell line next ih => exact hd.elim
  | number next ih => exact ih n (hd n) (admits_number.mp h)

/-! ## Dialogues without their lines -/

/-- The dialogue without its lines. -/
def quiet : Dialogue α → Dialogue α
  | done value => done value
  | ask question next => ask question fun answer => (next answer).quiet
  | tell _ next => next.quiet
  | number next => number fun session => (next session).quiet

theorem quiet_bind (d : Dialogue α) (f : α → Dialogue β) :
    (d.bind f).quiet = d.quiet.bind fun value => (f value).quiet := by
  induction d with
  | done value => rfl
  | ask question next ih => simp only [bind, quiet, ih]
  | tell line next ih => simp only [bind, quiet, ih]
  | number next ih => simp only [bind, quiet, ih]

/-- There is nothing to take out of a silent dialogue. -/
theorem Silent.quiet_eq {d : Dialogue α} (hd : d.Silent) : d.quiet = d := by
  induction d with
  | done value => rfl
  | ask question next ih =>
    rw [quiet]
    congr 1
    funext answer
    exact ih answer (hd answer)
  | tell line next ih => exact hd.elim
  | number next ih =>
    rw [quiet]
    congr 1
    funext session
    exact ih session (hd session)

/-- The exchanges of a conversation, in order. -/
def exchanges (events : List Event) : List Event :=
  events.filter fun event => !event.isLine

/-- Without its lines a dialogue comes to the same and asks the same. -/
theorem run_quiet (env : Environment σ) (d : Dialogue α) (standing : Standing σ) :
    d.quiet.run env standing =
      ⟨(d.run env standing).value, (d.run env standing).standing,
        exchanges (d.run env standing).events⟩ := by
  induction d generalizing standing with
  | done value => rfl
  | ask question next ih =>
    simp only [quiet, run, ih]
    rfl
  | tell line next ih =>
    simp only [quiet, run, ih]
    rfl
  | number next ih => simp only [quiet, run, ih]

/-- The two come to the same, leave the same behind and ask the same, whoever answers. -/
def Matches (d e : Dialogue α) : Prop :=
  ∀ {σ : Type} (env : Environment σ) (standing : Standing σ),
    let first := d.run env standing
    let second := e.run env standing
    first.value = second.value ∧ first.standing = second.standing ∧
      exchanges first.events = exchanges second.events

theorem matches_of_quiet {d e : Dialogue α} (h : d.quiet = e.quiet) : d.Matches e := by
  intro σ env standing
  have hrun : d.quiet.run env standing = e.quiet.run env standing := by rw [h]
  rw [run_quiet, run_quiet] at hrun
  have hvalue := congrArg Outcome.value hrun
  have hstanding := congrArg Outcome.standing hrun
  have hevents := congrArg Outcome.events hrun
  exact ⟨hvalue, hstanding, hevents⟩

end LdapClient.Dialogue
