/-
# LdapClient.Proofs.Discovery -- which servers are found, and in which order

A discovery looks up the servers of the caller's site, if there is one, and then those of the
domain.  `Lookups` says what is asked and what is answered, and nothing else bears on the result.

`newHosts` are the hosts of the second answer that stand neither in the first one nor further ahead
in the second, up to ASCII case.  Merging puts just these behind the hosts of the site (`merge_eq`),
although it compares each host with a list that grows as it goes.  The main statement is
`servers_in_order`.

No host of the domain is put behind one that it equals, but the hosts of the site are taken as they
come: what was found holds no host twice if and only if they do not (`distinct_merge_iff`).
-/
import LdapClient.Discovery
import LdapClient.Proofs.Conversation

namespace LdapClient.Discovery

open Dialogue Text

/-! ## Known hosts -/

variable {host other : String} {hosts more nearby wide : List String}

theorem isKnown_iff :
    isKnown host hosts = true ↔ ∃ known ∈ hosts, fold known.toList = fold host.toList := by
  simp [isKnown, sameFolded]

theorem isKnown_eq_false_iff :
    isKnown host hosts = false ↔ ∀ known ∈ hosts, fold known.toList ≠ fold host.toList := by
  simp [isKnown, sameFolded]

theorem isKnown_append :
    isKnown host (hosts ++ more) = (isKnown host hosts || isKnown host more) :=
  List.any_append

theorem isKnown_self (h : host ∈ hosts) : isKnown host hosts = true :=
  isKnown_iff.mpr ⟨host, h, rfl⟩

/-- A host that equals a known one tells nothing new. -/
theorem isKnown_append_known (h : isKnown other hosts = true) :
    isKnown host (hosts ++ [other]) = isKnown host hosts := by
  rw [isKnown_append, Bool.or_eq_left_iff_imp]
  intro hother
  obtain ⟨_, hmem, hsame⟩ := isKnown_iff.mp hother
  obtain rfl := List.mem_singleton.mp hmem
  obtain ⟨known, hknown, heq⟩ := isKnown_iff.mp h
  exact isKnown_iff.mpr ⟨known, hknown, heq.trans hsame⟩

/-! ## New hosts -/

/-- The hosts of the domain that no host of the site equals up to ASCII case, and none further
ahead. -/
def newHosts (nearby wide : List String) : List String :=
  (wide.zipIdx.filter fun place : String × Nat =>
    ∀ known ∈ nearby ++ wide.take place.2, fold known.toList ≠ fold place.1.toList).map Prod.fst

theorem newHosts_eq (nearby wide : List String) :
    newHosts nearby wide =
      (wide.zipIdx.filter fun place =>
        !isKnown place.1 (nearby ++ wide.take place.2)).map Prod.fst := by
  unfold newHosts
  congr 1
  refine List.filter_congr fun place _ => ?_
  rw [Bool.eq_iff_iff, decide_eq_true_iff, ← isKnown_eq_false_iff, Bool.not_eq_true']

/-- Whatever comes first is known to what follows. -/
theorem newHosts_cons (nearby : List String) (host : String) (wide : List String) :
    newHosts nearby (host :: wide) =
      (if isKnown host nearby then [] else [host]) ++ newHosts (nearby ++ [host]) wide := by
  have hrest : ((wide.zipIdx 1).filter fun place =>
      !isKnown place.1 (nearby ++ (host :: wide).take place.2)).map Prod.fst =
        newHosts (nearby ++ [host]) wide := by
    rw [List.zipIdx_succ, List.filter_map, List.map_map]
    simp [newHosts_eq, Function.comp_def]
  rw [newHosts_eq, List.zipIdx_cons, List.filter_cons, List.take_zero, List.append_nil]
  cases isKnown host nearby with
  | true => exact hrest
  | false => exact congrArg (host :: ·) hrest

theorem newHosts_append_known (h : isKnown other nearby = true) :
    newHosts (nearby ++ [other]) wide = newHosts nearby wide := by
  rw [newHosts_eq, newHosts_eq]
  congr 1
  refine List.filter_congr fun place _ => ?_
  rw [isKnown_append, isKnown_append_known h, ← isKnown_append]

theorem newHosts_sublist (nearby wide : List String) :
    (newHosts nearby wide).Sublist wide := by
  have hsub : (newHosts nearby wide).Sublist (wide.zipIdx.map Prod.fst) :=
    List.filter_sublist.map Prod.fst
  rwa [List.zipIdx_map_fst] at hsub

/-- A new host equals no host of the site. -/
theorem ne_of_mem_newHosts (h : host ∈ newHosts nearby wide) :
    ∀ known ∈ nearby, fold known.toList ≠ fold host.toList := by
  obtain ⟨place, hplace, rfl⟩ := List.mem_map.mp h
  have hnew := of_decide_eq_true (List.mem_filter.mp hplace).2
  exact fun known hknown => hnew known (List.mem_append_left _ hknown)

/-- Merging puts the new hosts behind the others. -/
theorem merge_eq (nearby wide : List String) :
    merge nearby wide = nearby ++ newHosts nearby wide := by
  -- what is known grows with each host that is put behind the others
  induction wide generalizing nearby with
  | nil => exact (List.append_nil nearby).symm
  | cons host wide ih =>
    rw [merge, newHosts_cons]
    cases hknown : isKnown host nearby with
    | true => exact (ih nearby).trans (congrArg (nearby ++ ·) (newHosts_append_known hknown).symm)
    | false => exact (ih (nearby ++ [host])).trans (List.append_assoc nearby [host] _)

/-- Every host of the domain equals one that is found. -/
theorem isKnown_merge (h : host ∈ wide) : isKnown host (merge nearby wide) = true := by
  induction wide generalizing nearby with
  | nil => cases h
  | cons first wide ih =>
    rw [merge]
    rcases List.mem_cons.mp h with rfl | hmem
    · -- it is known already or put there, and stays there
      cases hknown : isKnown host nearby with
      | true =>
        rw [if_pos rfl, merge_eq, isKnown_append, hknown, Bool.true_or]
      | false =>
        rw [if_neg Bool.false_ne_true, merge_eq, isKnown_append,
          isKnown_self List.mem_concat_self, Bool.true_or]
    · cases isKnown first nearby with
      | true => exact ih hmem
      | false => exact ih hmem

/-! ## Hosts that are listed twice -/

/-- No two of the hosts are equal up to ASCII case. -/
def Distinct (hosts : List String) : Prop :=
  hosts.Pairwise fun a b => fold a.toList ≠ fold b.toList

theorem Distinct.sublist (h : Distinct hosts) (hsub : more.Sublist hosts) : Distinct more :=
  List.Pairwise.sublist hsub h

theorem distinct_newHosts (nearby wide : List String) : Distinct (newHosts nearby wide) := by
  induction wide generalizing nearby with
  | nil => exact .nil
  | cons host wide ih =>
    have hrest := ih (nearby ++ [host])
    rw [newHosts_cons]
    cases isKnown host nearby with
    | true => exact hrest
    | false =>
      refine List.Pairwise.cons (fun new hnew => ?_) hrest
      exact ne_of_mem_newHosts hnew host List.mem_concat_self

/-- Merging lists no host twice that the site does not list twice. -/
theorem distinct_merge_iff : Distinct (merge nearby wide) ↔ Distinct nearby := by
  rw [merge_eq]
  refine ⟨fun h => h.sublist (List.sublist_append_left _ _), fun h => ?_⟩
  refine List.pairwise_append.mpr ⟨h, distinct_newHosts nearby wide, ?_⟩
  exact fun known hknown new hnew => ne_of_mem_newHosts hnew known hknown

/-! ## The lookups -/

/-- The hosts in the answer to a lookup; a lookup that fails brings none. -/
def brought : Except Failure (List String) → List String
  | .ok hosts => hosts
  | .error _ => []

/-- What a discovery asks, with the answers: the hosts that the site brings, and the answer for the
domain. -/
inductive Lookups (domain site : String) :
    List Event → List String → Except Failure (List String) → Prop
  /-- Without a site only the domain is looked up. -/
  | domainOnly (h : site = "") (answer : Except Failure (List String)) :
      Lookups domain site [.exchange (.lookup ("_ldap._tcp." ++ domain)) answer] [] answer
  | siteFirst (h : site ≠ "") (first answer : Except Failure (List String)) :
      Lookups domain site
        [.exchange (.lookup ("_ldap._tcp." ++ site ++ "._sites." ++ domain)) first,
          .exchange (.lookup ("_ldap._tcp." ++ domain)) answer]
        (brought first) answer

variable {domain site : String} {n m : Nat} {events : List Event}

theorem siteServers_course (h : (siteServers domain site).Admits n events nearby m) :
    (site = "" ∧ events = [] ∧ nearby = []) ∨
      site ≠ "" ∧ ∃ answer, events = [.exchange (.lookup (siteRecord domain site)) answer] ∧
        nearby = brought answer := by
  unfold siteServers at h
  split at h
  · rename_i hsite
    obtain ⟨rfl, rfl, rfl⟩ := admits_done.mp h
    exact Or.inl ⟨by simpa using hsite, rfl, rfl⟩
  · rename_i hsite
    obtain ⟨_, answer, _, _, hlookup, hend, rfl⟩ := admits_bind.mp h
    obtain ⟨rfl, rfl⟩ := admits_lookup.mp hlookup
    refine Or.inr ⟨by simpa using hsite, answer, ?_⟩
    cases answer <;> obtain ⟨rfl, rfl, -⟩ := admits_done.mp hend <;> exact ⟨rfl, rfl⟩

/-- A discovery makes these lookups and merges what they bring. -/
theorem servers_course {result : Except Failure (List String)}
    (h : (servers domain site).Admits n events result m) :
    ∃ nearby answer, Lookups domain site events nearby answer ∧
      result = answer.map (merge nearby) := by
  obtain ⟨_, nearby, _, _, hsite, hrest, rfl⟩ := admits_bind.mp h
  obtain ⟨_, answer, _, last, hlookup, hend, rfl⟩ := admits_bind.mp hrest
  obtain ⟨rfl, rfl⟩ := admits_lookup.mp hlookup
  obtain ⟨rfl, hresult⟩ : last = [] ∧ result = answer.map (merge nearby) := by
    cases answer <;> exact ⟨(admits_done.mp hend).1, (admits_done.mp hend).2.1⟩
  refine ⟨nearby, answer, ?_, hresult⟩
  rcases siteServers_course hsite with ⟨hempty, rfl, rfl⟩ | ⟨hne, first, rfl, rfl⟩
  · exact .domainOnly hempty answer
  · exact .siteFirst hne first answer

/-! ## What is found -/

/-- The hosts of a discovery, given those that the site brings and those of the domain. -/
structure Found (nearby wide hosts : List String) : Prop where
  /-- The hosts of the site come first, as they were answered, and then the new hosts of the
  domain. -/
  order : hosts = nearby ++ newHosts nearby wide
  /-- The new hosts stand in the order in which they were answered. -/
  inOrder : (newHosts nearby wide).Sublist wide
  /-- None of them equals a host of the site. -/
  unmatched : ∀ host ∈ newHosts nearby wide,
    ∀ known ∈ nearby, fold known.toList ≠ fold host.toList
  /-- Every host of the domain equals one that is found. -/
  complete : ∀ host ∈ wide, ∃ known ∈ hosts, fold known.toList = fold host.toList
  /-- Nothing is found that was not answered. -/
  sound : ∀ host ∈ hosts, host ∈ nearby ∨ host ∈ wide

theorem found_merge (nearby wide : List String) : Found nearby wide (merge nearby wide) where
  order := merge_eq nearby wide
  inOrder := newHosts_sublist nearby wide
  unmatched := fun _ => ne_of_mem_newHosts
  complete := fun _ hmem => isKnown_iff.mp (isKnown_merge hmem)
  sound := fun host hmem => by
    rw [merge_eq] at hmem
    exact (List.mem_append.mp hmem).imp_right fun h => (newHosts_sublist nearby wide).subset h

/-- Whatever is answered: a discovery looks up the site, if there is one, and then the domain.  It
fails if and only if the lookup for the domain does, and with the same failure.  Otherwise it finds
the hosts of the site and, behind them, those of the domain that are new at their place. -/
theorem servers_in_order {σ : Type} (env : Environment σ) (standing : Standing σ)
    (domain site : String) :
    let outcome := (servers domain site).run env standing
    ∃ nearby answer, Lookups domain site outcome.events nearby answer ∧
      (∀ failure, outcome.value = .error failure ↔ answer = .error failure) ∧
      ∀ wide, answer = .ok wide → ∃ hosts, outcome.value = .ok hosts ∧ Found nearby wide hosts := by
  intro outcome
  obtain ⟨nearby, answer, hlookups, hvalue⟩ := servers_course (run_admits env _ standing)
  refine ⟨nearby, answer, hlookups, fun failure => ?_, ?_⟩
  · rw [show outcome.value = _ from hvalue]
    cases answer <;> simp [Except.map]
  · rintro wide rfl
    exact ⟨merge nearby wide, hvalue, found_merge nearby wide⟩

end LdapClient.Discovery
