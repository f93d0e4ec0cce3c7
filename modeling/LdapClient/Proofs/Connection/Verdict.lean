/-
# LdapClient.Proofs.Connection.Verdict -- what an operation makes of its arguments

An operation looks at its arguments first and at the connection afterwards.  `Verdict` lists the
arguments that settle the matter by themselves, with the code of the failure that they lead to; an
operation with such arguments is the same on every connection and comes to nothing but its result
(`Verdict.operate_eq`).  Any other operation needs a session, and where there is none it fails for
that reason and writes one line (`operate_unheld`).

The main statement is `operation_without_bind`.
-/
import LdapClient.Proofs.Connection.Use

namespace LdapClient.Connection

open Dialogue

variable {α : Type} {c : Connection} {operation : Operation}

/-! ## Verdicts on arguments -/

/-- The arguments of an operation settle how it ends: with a failure of this code, or with success
if there is none. -/
inductive Verdict : Operation → Option Int → Prop
  /-- There is nothing to add, in one of the changes. -/
  | emptyAdd {dn : String} {changes : List Change} {change : Change} (hmem : change ∈ changes)
      (hkind : change.kind = .add) (hvalues : change.values = []) :
      Verdict (.modify ⟨dn, changes⟩) (some 89)
  /-- There is nothing to change. -/
  | noChanges (dn : String) : Verdict (.modify ⟨dn, []⟩) none
  /-- There is nothing to set. -/
  | noValues (object name : String) : Verdict (.setAttribute object name []) (some 89)
  | malformedRdn (dn : String) {newRdn : String} (h : isRdn newRdn = false) :
      Verdict (.rename dn newRdn) (some 89)
  /-- The name of the entry to move cannot be read. -/
  | unreadable {dn : String} (container : String) {fault : Dn.Fault}
      (h : Dn.parse dn = .error fault) : Verdict (.move dn container) (some 34)

/-- The result is a failure with this code, or a success with nothing to show if there is none. -/
def EndsWith (result : Except Failure Answer) : Option Int → Prop
  | none => result = .ok .nothing
  | some code => ∃ failure, result = .error failure ∧ failure.code.value = code

theorem isEmptyAdd_iff {change : Change} :
    isEmptyAdd change = true ↔ change.kind = .add ∧ change.values = [] := by
  simp [isEmptyAdd]

/-- One addition of nothing, wherever it stands in the list, settles a request on every
connection. -/
theorem modify_emptyAdd (request : ModifyRequest) {change : Change}
    (hmem : change ∈ request.changes) (hkind : change.kind = .add) (hvalues : change.values = []) :
    ∃ first, ∀ c : Connection,
      c.modify request = done (Refusal.emptyAdd first request.dn).refuse := by
  have hempty : isEmptyAdd change = true := isEmptyAdd_iff.mpr ⟨hkind, hvalues⟩
  obtain ⟨first, hfirst⟩ :=
    Option.isSome_iff_exists.mp (List.find?_isSome.mpr ⟨change, hmem, hempty⟩)
  refine ⟨first.target, fun c => ?_⟩
  simp only [modify, hfirst]
  rfl

/-- Arguments that settle the matter do so on every connection. -/
theorem Verdict.operate_eq {code : Option Int} (h : Verdict operation code) :
    ∃ result, EndsWith result code ∧ ∀ c : Connection, c.operate operation = done result := by
  cases h with
  | @emptyAdd dn changes change hmem hkind hvalues =>
    obtain ⟨first, hmodify⟩ := modify_emptyAdd ⟨dn, changes⟩ hmem hkind hvalues
    refine ⟨(Refusal.emptyAdd first dn).refuse, ⟨_, rfl, rfl⟩, fun c => ?_⟩
    simp only [operate, hmodify]
    rfl
  | noChanges dn => exact ⟨.ok .nothing, rfl, fun c => rfl⟩
  | noValues object name =>
    exact ⟨(Refusal.noValues name object).refuse, ⟨_, rfl, rfl⟩, fun c => rfl⟩
  | @malformedRdn dn newRdn h =>
    refine ⟨(Refusal.malformedRdn newRdn).refuse, ⟨_, rfl, rfl⟩, fun c => ?_⟩
    simp only [operate, rename, h]
    rfl
  | @unreadable dn container fault h =>
    refine ⟨.error fault.toFailure, ⟨_, rfl, rfl⟩, fun c => ?_⟩
    simp only [operate, move, h]
    rfl

/-! ## Operations without a session -/

/-- The dialogue writes one line and ends with this failure. -/
def Reports (failure : Failure) (d : Dialogue (Except Failure α)) : Prop :=
  ∃ line, d = tell line (done (.error failure))

variable {failure : Failure}

theorem withSession_unheld (hs : c.heldSession = .error failure) (name : String)
    (use : SessionId → Dialogue (Except Failure α)) : Reports failure (c.withSession name use) := by
  simp only [withSession, useSession, hs]
  exact ⟨_, rfl⟩

/-- A failure that is passed on is still all that happens. -/
theorem Reports.bind {β : Type} {d : Dialogue (Except Failure α)}
    {f : Except Failure α → Dialogue (Except Failure β)} (h : Reports failure d)
    (hf : f (.error failure) = done (.error failure)) : Reports failure (d.bind f) := by
  obtain ⟨line, rfl⟩ := h
  exact ⟨line, congrArg (tell line) hf⟩

/-- Without a session an operation reports just that, unless its arguments settle the matter. -/
theorem operate_unheld (hs : c.heldSession = .error failure)
    (hverdict : ∀ code, ¬ Verdict operation code) : Reports failure (c.operate operation) := by
  cases operation with
  | search request => exact (withSession_unheld hs _ _).bind rfl
  | searchDns base scope filter => exact (withSession_unheld hs _ _).bind rfl
  | modify request =>
    refine Reports.bind ?_ rfl
    obtain ⟨dn, changes⟩ := request
    unfold modify
    split
    · rename_i change hchange
      have hempty := isEmptyAdd_iff.mp (List.find?_some hchange)
      have hmem := List.mem_of_find?_eq_some hchange
      exact absurd (.emptyAdd hmem hempty.1 hempty.2) (hverdict (some 89))
    · split
      · rename_i hnone
        obtain rfl : changes = [] := List.isEmpty_iff.mp hnone
        exact absurd (.noChanges dn) (hverdict none)
      · exact withSession_unheld hs _ _
  | modifyDn request => exact (withSession_unheld hs _ _).bind rfl
  | delete dn => exact (withSession_unheld hs _ _).bind rfl
  | rename dn newRdn =>
    refine Reports.bind ?_ rfl
    unfold rename
    split
    · exact withSession_unheld hs _ _
    · rename_i hrdn
      exact absurd (.malformedRdn dn (Bool.eq_false_iff.mpr hrdn)) (hverdict (some 89))
  | move dn container =>
    refine Reports.bind ?_ rfl
    unfold move
    split
    · rename_i fault hread
      exact absurd (.unreadable container hread) (hverdict (some 34))
    · exact withSession_unheld hs _ _
  | attributes object names => exact (withSession_unheld hs _ _).bind rfl
  | attributeValues object name =>
    refine Reports.bind ?_ rfl
    exact (withSession_unheld hs _ _).bind rfl
  | setAttribute object name values =>
    refine Reports.bind ?_ rfl
    unfold setAttribute
    split
    · rename_i hnone
      obtain rfl : values = [] := List.isEmpty_iff.mp hnone
      exact absurd (.noValues object name) (hverdict (some 89))
    · exact withSession_unheld hs _ _
  | clearAttribute object name => exact (withSession_unheld hs _ _).bind rfl
  | exists? dn => exact (withSession_unheld hs _ _).bind rfl
  | existsWithClass dn objectClass => exact (withSession_unheld hs _ _).bind rfl

/-- The code of the failure for want of a bind. -/
theorem heldSession_of_ne_bound (hc : c.phase ≠ .bound) :
    ∃ failure, c.heldSession = .error failure ∧
      failure.code.value = if c.phase = .closed then 200 else 1 := by
  unfold heldSession
  cases hphase : c.phase with
  | bound => contradiction
  | unbound => exact ⟨_, rfl, rfl⟩
  | failed => exact ⟨_, rfl, rfl⟩
  | closed => exact ⟨_, rfl, rfl⟩

/-- Whatever is asked of a connection that is not bound, and whatever is answered: no question is
asked.  Arguments that settle the matter do so here as on every other connection; else the operation
fails because the connection is closed, or because it is not bound. -/
theorem operation_without_bind {σ : Type} (env : Environment σ) (standing : Standing σ)
    (c : Connection) (operation : Operation) (hc : c.phase ≠ .bound) :
    let outcome := (c.operate operation).run env standing
    (∀ event ∈ outcome.events, ∃ line, event = .line line) ∧
      (∀ code, Verdict operation code → EndsWith outcome.value code ∧
        ∀ {τ : Type} (env : Environment τ) (standing : Standing τ) (other : Connection),
          ((other.operate operation).run env standing).value = outcome.value) ∧
      ((∀ code, ¬ Verdict operation code) →
        EndsWith outcome.value (some (if c.phase = .closed then 200 else 1))) := by
  intro outcome
  obtain ⟨failure, hs, hcode⟩ := heldSession_of_ne_bound hc
  by_cases hverdict : ∃ code, Verdict operation code
  · obtain ⟨code, hcode⟩ := hverdict
    obtain ⟨result, -, hresult⟩ := hcode.operate_eq
    have houtcome : outcome = ⟨result, standing, []⟩ := by
      simp only [outcome, hresult]
      rfl
    rw [houtcome]
    refine ⟨List.forall_mem_nil _, fun code h => ?_, fun hnone => absurd hcode (hnone code)⟩
    obtain ⟨same, hends, hsame⟩ := h.operate_eq
    obtain rfl : result = same := by
      have heq := (hresult c).symm.trans (hsame c)
      cases heq
      rfl
    refine ⟨hends, fun env standing other => ?_⟩
    rw [hresult other]
    rfl
  · have hnone := not_exists.mp hverdict
    obtain ⟨line, hline⟩ := operate_unheld hs hnone
    have houtcome : outcome = ⟨.error failure, standing, [.line line]⟩ := by
      simp only [outcome, hline]
      rfl
    rw [houtcome]
    refine ⟨?_, fun code h => absurd h (hnone code), fun _ => ⟨failure, rfl, hcode⟩⟩
    exact List.forall_mem_singleton.mpr ⟨line, rfl⟩

/-- On a closed connection an entry without a readable name is refused for its name, and a deletion
because the connection is closed. -/
theorem closed_connection_refuses :
    let c : Connection := ⟨⟨"ldap://ds1", .ldap, "ds1", none⟩, {}, "", .closed⟩
    let move := (c.operate (.move "org" "dc=org")).run obliging ⟨(), 1⟩
    let delete := (c.operate (.delete "cn=a")).run obliging ⟨(), 1⟩
    c.phase ≠ .bound ∧ EndsWith move.value (some 34) ∧ EndsWith delete.value (some 200) := by
  intro c move delete
  have hphase : c.phase ≠ .bound := by decide
  have hread : Dn.parse "org" = .error (.component "org") := by rfl
  have hmove := operation_without_bind obliging ⟨(), 1⟩ c (.move "org" "dc=org") hphase
  have hdelete := operation_without_bind obliging ⟨(), 1⟩ c (.delete "cn=a") hphase
  exact ⟨hphase, (hmove.2.1 (some 34) (.unreadable "dc=org" hread)).1, hdelete.2.2 nofun⟩

end LdapClient.Connection
