/-
# LdapClient.Proofs.Connection.Search -- a search lists first and then reads what it listed

A search asks in two rounds, and the second depends on the answer to the first.  `ListsAndReads`
says what is asked, in which order, where it stops and what the answers come to; the main statement
is `search_lists_and_reads`.  The sessions may answer as they like: with entries of other names, with
several or none, or with a signal at any point.
-/
import LdapClient.Proofs.Connection.Use

namespace LdapClient.Connection

open Dialogue

variable {σ : Type} {c : Connection} {session : SessionId}

/-! ## What happens -/

/-- The answer to the first round decides what the second is about, and the last answer of all
decides the result. -/
theorem search_course {request : SearchRequest} {n m : Nat} {events : List Event}
    {result : Except Failure SearchResult} (hs : c.heldSession = .ok session)
    (h : (c.search request).Admits n events result m) :
    ∃ listing reads,
      events = asking session ⟨request.base, request.scope, request.filter, noAttributes⟩ listing ::
          List.zipWith (fun dn read => asking session (readRequest dn request.attributes) read)
            (listed listing) reads ++
        [c.ending "search" result] ∧
      ((∃ signal, listing = .error signal ∧ reads = [] ∧ result = .error signal.toFailure) ∨
        ∃ found outcome, listing = .ok found ∧ InTurn found.length reads outcome ∧
          result = (outcome.mapError Signal.toFailure).map fun reads =>
            ⟨List.zipWith entryOf (found.map RawEntry.dn) reads⟩) := by
  obtain ⟨used, rfl, huse⟩ := withSession_held hs h
  obtain ⟨_, _, _, _, henumerate, hrest, rfl⟩ := admits_bind.mp huse
  obtain ⟨rfl, listing, rfl, rfl⟩ := enumerate_course henumerate
  rcases listing with signal | found
  · obtain ⟨rfl, rfl, rfl⟩ := admits_done.mp hrest
    exact ⟨.error signal, [], rfl, Or.inl ⟨signal, rfl, rfl, rfl⟩⟩
  · obtain ⟨_, _, _, _, hread, hdone, rfl⟩ := admits_bind.mp hrest
    obtain ⟨rfl, reads, outcome, hturn, rfl, rfl⟩ := readEntries_course hread
    rw [List.length_map] at hturn
    refine ⟨.ok found, reads, ?_, Or.inr ⟨found, outcome, rfl, hturn, ?_⟩⟩
    · cases outcome <;> obtain ⟨rfl, rfl, rfl⟩ := admits_done.mp hdone <;>
        simp only [List.append_nil] <;> rfl
    · cases outcome <;> obtain ⟨rfl, rfl, rfl⟩ := admits_done.mp hdone <;> rfl

/-! ## Entries -/

/-- The attributes of the first entry that an answer holds. -/
def firstAttributes : Except Signal (List RawEntry) → List Attribute
  | .ok (raw :: _) => (Entry.ofRaw raw).attributes
  | .ok [] => []
  | .error _ => []

theorem entryOf_dn (dn : String) (found : List RawEntry) : (entryOf dn found).dn = dn := by
  cases found <;> rfl

theorem entryOf_attributes (dn : String) (found : List RawEntry) :
    (entryOf dn found).attributes = firstAttributes (.ok found) := by
  cases found <;> rfl

section Entries

variable {dns : List String} {reads : List (List RawEntry)} (h : dns.length = reads.length)
include h

theorem map_dn_entries : (List.zipWith entryOf dns reads).map Entry.dn = dns := by
  rw [← List.map_uncurry_zip_eq_zipWith, List.map_map]
  calc (dns.zip reads).map (Entry.dn ∘ Function.uncurry entryOf)
      = (dns.zip reads).map Prod.fst := List.map_congr_left fun pair _ => entryOf_dn pair.1 pair.2
    _ = dns := List.map_fst_zip (Nat.le_of_eq h)

theorem map_attributes_entries :
    (List.zipWith entryOf dns reads).map Entry.attributes =
      reads.map fun read => firstAttributes (.ok read) := by
  rw [← List.map_uncurry_zip_eq_zipWith, List.map_map]
  calc (dns.zip reads).map (Entry.attributes ∘ Function.uncurry entryOf)
      = (dns.zip reads).map ((fun read => firstAttributes (.ok read)) ∘ Prod.snd) :=
        List.map_congr_left fun pair _ => entryOf_attributes pair.1 pair.2
    _ = reads.map fun read => firstAttributes (.ok read) := by
        rw [← List.map_map, List.map_snd_zip (Nat.le_of_eq h.symm)]

end Entries

/-! ## The search as a whole -/

/-- What a search on a session asks and what it brings, given the answer to the first round and
those to the second. -/
structure ListsAndReads (c : Connection) (session : SessionId) (request : SearchRequest)
    (listing : Except Signal (List RawEntry)) (reads : List (Except Signal (List RawEntry)))
    (outcome : Outcome σ (Except Failure SearchResult)) : Prop where
  /-- One search lists the names, as the caller wants it but without attributes; then the entries
  are read one by one in the order of the list, with the attributes that the caller wants. -/
  asked : outcome.events =
    asking session ⟨request.base, request.scope, request.filter, ["1.1"]⟩ listing ::
        List.zipWith
          (fun dn read => asking session
            ⟨dn, .baseObject, "(objectclass=*)",
              if request.attributes = [] then ["*"] else request.attributes⟩ read)
          (listed listing) reads ++
      [c.ending "search" outcome.value]
  bounded : reads.length ≤ (listed listing).length
  /-- Nothing is asked after a call that failed. -/
  stopped : ∀ answer ∈ (listing :: reads).dropLast, answer.isOk = true
  /-- If no call failed there is one entry for each name, in the order of the list. -/
  complete : (∀ answer ∈ listing :: reads, answer.isOk = true) →
    reads.length = (listed listing).length ∧ ∃ result, outcome.value = .ok result ∧
      result.entries.map Entry.dn = listed listing ∧
      result.entries.map Entry.attributes = reads.map firstAttributes
  /-- If a call failed, so does the search, and brings nothing else. -/
  failed : ∀ signal, .error signal ∈ listing :: reads → outcome.value = .error signal.toFailure

/-- Whatever is searched for on a bound connection, and whatever its session answers: the names are
listed by one search, then each of the entries is read by itself in the order of the list, up to the
first call that fails.  The result is one entry for each name, or the failure of that call. -/
theorem search_lists_and_reads (env : Environment σ) (standing : Standing σ)
    (request : SearchRequest) (hphase : c.phase = .bound)
    (hsession : c.state.session = some session) :
    ∃ listing reads,
      ListsAndReads c session request listing reads ((c.search request).run env standing) := by
  have hrun := run_admits env (c.search request) standing
  obtain ⟨listing, reads, hevents, hresult⟩ :=
    search_course (heldSession_of_bound hphase hsession) hrun
  simp only [readRequest_eq] at hevents
  refine ⟨listing, reads, ?_⟩
  rcases hresult with ⟨signal, rfl, rfl, hvalue⟩ | ⟨found, outcome, rfl, hturn, hvalue⟩
  · -- without a list there is nothing to read
    exact {
      asked := hevents
      bounded := Nat.le_refl 0
      stopped := List.forall_mem_nil _
      complete := fun hok => absurd (hok _ List.mem_cons_self) Bool.false_ne_true
      failed := fun other hother => by
        obtain ⟨rfl⟩ := List.mem_singleton.mp hother
        exact hvalue }
  · have hlisted : (listed (.ok found)).length = found.length := List.length_map _
    exact {
      asked := hevents
      bounded := hlisted ▸ hturn.length_le
      stopped := by
        cases reads with
        | nil => exact List.forall_mem_nil _
        | cons read reads => exact List.forall_mem_cons.mpr ⟨rfl, hturn.isOk_of_mem_dropLast⟩
      complete := fun hok => by
        obtain ⟨values, rfl, rfl, hlength⟩ := hturn.complete (List.forall_mem_cons.mp hok).2
        have hsame : (found.map RawEntry.dn).length = values.length := by
          rw [List.length_map, hlength]
        refine ⟨by rw [List.length_map, hlisted, hlength], _, hvalue, map_dn_entries hsame, ?_⟩
        rw [List.map_map]
        exact map_attributes_entries hsame
      failed := fun signal hsignal => by
        have hread : .error signal ∈ reads := List.mem_of_ne_of_mem (by simp) hsignal
        rw [hvalue, hturn.eq_error_of_mem hread]
        rfl }

/-- Of three listed entries the first is answered under another name, with a text and with octets
that are no text, and the second not at all.  If the third is answered there is an entry for each of
them; if it cannot be read there is none. -/
theorem three_names_read :
    let c : Connection :=
      ⟨⟨"ldap://ds1", .ldap, "ds1", none⟩, {}, "",
        ⟨.bound, some 0, false, some ⟨.simple, .plain, "ldap://ds1"⟩⟩⟩
    let raw : String → RawEntry := fun dn => ⟨dn, .empty, .empty⟩
    let host : RawEntry :=
      ⟨"CN=B", .ofList [("cn", ["b"])], .ofList [("objectSid", [[0x01, 0xFF]])]⟩
    let answers : List (Except Signal (List RawEntry)) :=
      [.ok [raw "cn=b", raw "cn=a", raw "cn=b"], .ok [host, raw "cn=c"], .ok []]
    let request : SearchRequest := ⟨"dc=org", .wholeSubtree, "(cn=*)", []⟩
    let answered := (c.search request).run recounting ⟨answers ++ [.ok [host]], 1⟩
    let refused := (c.search request).run recounting
      ⟨answers ++ [.error (.withCode 50 "no access")], 1⟩
    c.phase = .bound ∧ c.state.session = some 0 ∧
      (∃ listing reads, ListsAndReads c 0 request listing reads answered) ∧
      (∃ result, answered.value = .ok result ∧
        result.entries.map Entry.dn = ["cn=b", "cn=a", "cn=b"] ∧
        result.entries.map Entry.attributes =
          [[⟨"cn", [[0x62]]⟩, ⟨"objectSid", [[0x01, 0xFF]]⟩], [],
            [⟨"cn", [[0x62]]⟩, ⟨"objectSid", [[0x01, 0xFF]]⟩]]) ∧
      (∃ listing reads, ListsAndReads c 0 request listing reads refused) ∧
      refused.events.length = 5 ∧
      refused.value = .error ⟨⟨50, by decide, by decide⟩, "no access"⟩ := by
  intro c raw host answers request answered refused
  have hphase : c.phase = .bound := rfl
  have hsession : c.state.session = some 0 := rfl
  have hanswered :=
    search_lists_and_reads recounting ⟨answers ++ [.ok [host]], 1⟩ request hphase hsession
  have hrefused :=
    search_lists_and_reads recounting ⟨answers ++ [.error (.withCode 50 "no access")], 1⟩ request
      hphase hsession
  -- without the local names the runs are closed terms, which evaluate at once
  refine ⟨hphase, hsession, hanswered, ?_, hrefused, ?_⟩
  · subst answered refused request answers host raw c
    exact ⟨_, rfl, rfl, rfl⟩
  · subst answered refused request answers host raw c
    exact ⟨rfl, rfl⟩

end LdapClient.Connection
