/-
# LdapClient.Proofs.Connection.Existence -- what a look for an entry asks for

An entry of an object class is looked for by a filter into which the name of the class is put as it
is.  The filter then asks for one value of `objectclass` if and only if the name is a written value
(`isEqualityItem_classFilter`), and reading the filter comes to the same (`parse?_classFilter`).
That value is the name itself if and only if none of the characters `( ) * \` and NUL stands in the
name, which is what `class_probe_exact_iff` says of every look for an entry.  Other names ask for
something else, or for nothing that can be read (`other_class_asked`).
-/
import LdapClient.Proofs.Connection.Move
import LdapClient.Proofs.SearchFilter

namespace LdapClient.Connection

open Dialogue Text SearchFilter

variable {c : Connection} {session : SessionId} {objectClass : String} {value : Octets}

/-! ## The filter for an object class -/

theorem toList_classFilter (objectClass : String) :
    (classFilter objectClass).toList =
      '(' :: "objectclass".toList ++ '=' :: objectClass.toList ++ [')'] := by
  rw [classFilter, String.toList_append, String.toList_append]
  rfl

theorem isEqualityItem_classFilter :
    IsEqualityItem (classFilter objectClass) "objectclass" value ↔
      Encoded objectClass.toList value := by
  constructor
  · rintro ⟨written, hfilter, hwritten⟩
    rw [toList_classFilter] at hfilter
    have hsame : objectClass.toList = written := by simpa using hfilter
    rwa [hsame]
  · exact fun h => ⟨objectClass.toList, toList_classFilter objectClass, h⟩

/-- Between the parentheses stands a condition on the attribute. -/
theorem readInner_objectclass (fuel : Nat) (rest : List Char) :
    readInner (fuel + 1) ("objectclass".toList ++ '=' :: rest) =
      (ofPieces "objectclass" (cutValue rest).1).map (·, (cutValue rest).2) := by
  have hcut : cutOnce '=' ("objectclass".toList ++ '=' :: rest) =
      some ("objectclass".toList, rest) := cutOnce_append (by decide) rest
  have hread : readInner (fuel + 1) ("objectclass".toList ++ '=' :: rest) =
      readCondition ("objectclass".toList ++ '=' :: rest) := rfl
  rw [hread, readCondition, hcut]
  rfl

/-- The filter is read as what its value is read as, if that takes the whole name of the class. -/
theorem parse?_classFilter_eq_some {filter : SearchFilter} :
    parse? (classFilter objectClass) = some filter ↔
      ∃ pieces, cutValue (objectClass.toList ++ [')']) = (pieces, [')']) ∧
        ofPieces "objectclass" pieces = some filter := by
  rw [parse?, toList_classFilter]
  simp only [List.cons_append, List.append_assoc, readInner_objectclass]
  generalize cutValue (objectClass.toList ++ [')']) = cut
  obtain ⟨pieces, rest⟩ := cut
  constructor
  · split
    · rename_i read hread
      obtain ⟨_, hfilter, hrest⟩ := Option.map_eq_some_iff.mp hread
      obtain ⟨rfl, rfl⟩ := Prod.mk.inj hrest
      exact fun h => ⟨pieces, rfl, hfilter.trans h⟩
    · exact nofun
  · rintro ⟨_, hcut, hfilter⟩
    cases hcut
    rw [hfilter]
    rfl

/-- The filter is read as asking for one value just if that is what is written. -/
theorem parse?_classFilter :
    parse? (classFilter objectClass) = some (.equality "objectclass" value) ↔
      Encoded objectClass.toList value := by
  rw [parse?_classFilter_eq_some]
  constructor
  · rintro ⟨pieces, hcut, hpieces⟩
    rw [ofPieces_eq_equality.mp hpieces] at hcut
    obtain ⟨written, hwritten, hencoded⟩ := encoded_of_cutValue hcut
    rwa [List.append_cancel_right hwritten]
  · exact fun h => ⟨[value], cutValue_encoded h [], rfl⟩

theorem isEqualityItem_iff_parse? :
    IsEqualityItem (classFilter objectClass) "objectclass" value ↔
      parse? (classFilter objectClass) = some (.equality "objectclass" value) :=
  isEqualityItem_classFilter.trans parse?_classFilter.symm

/-! ## Looking for an entry of a class -/

/-- Whatever is looked for on a bound connection, and whatever the session answers: there is one
search, for the entry of this name alone, and its answer decides.  The filter asks for just those
values of `objectclass` that the name of the class is written for, and is read so.  It asks for the
name itself if and only if all characters of the name stand for themselves in a filter. -/
theorem class_probe_exact_iff {σ : Type} (env : Environment σ) (standing : Standing σ)
    (hphase : c.phase = .bound) (hsession : c.state.session = some session)
    (dn objectClass : String) :
    let outcome := (c.existsWithClass dn objectClass).run env standing
    let filter := "(objectclass=" ++ objectClass ++ ")"
    (∃ answer, outcome.value = presence answer ∧
      outcome.events = [asking session ⟨dn, .baseObject, filter, ["1.1"]⟩ answer,
        c.ending "dn_exists" outcome.value]) ∧
    (∀ value, IsEqualityItem filter "objectclass" value ↔
      parse? filter = some (.equality "objectclass" value)) ∧
    (IsEqualityItem filter "objectclass" (encode objectClass.toList) ↔
      ∀ char ∈ objectClass.toList, char ∉ ['(', ')', '*', '\\', '\x00']) := by
  intro outcome filter
  have hcourse : (c.withSession "dn_exists" fun session => probe session dn objectClass).Admits
      standing.sessions outcome.events outcome.value outcome.standing.sessions :=
    run_admits env (c.existsWithClass dn objectClass) standing
  obtain ⟨used, hevents, hused⟩ :=
    withSession_held (heldSession_of_bound hphase hsession) hcourse
  obtain ⟨-, answer, rfl, hvalue⟩ := probe_course hused
  exact ⟨⟨answer, hvalue, hevents⟩, fun _ => isEqualityItem_iff_parse?,
    isEqualityItem_classFilter.trans encoded_encode_iff⟩

/-- The class `person` is asked for. -/
theorem plain_class_asked :
    let c : Connection :=
      ⟨⟨"ldap://ds1", .ldap, "ds1", none⟩, {}, "",
        ⟨.bound, some 0, false, some ⟨.simple, .plain, "ldap://ds1"⟩⟩⟩
    let outcome := (c.existsWithClass "cn=a,dc=org" "person").run obliging ⟨(), 1⟩
    c.phase = .bound ∧ c.state.session = some 0 ∧ outcome.value = .ok false ∧
      IsEqualityItem "(objectclass=person)" "objectclass" (encode "person".toList) ∧
      parse? "(objectclass=person)" = some (.equality "objectclass" (encode "person".toList)) := by
  intro c outcome
  obtain ⟨-, hparse, hexact⟩ :=
    class_probe_exact_iff obliging ⟨(), 1⟩ (c := c) rfl rfl "cn=a,dc=org" "person"
  have hitem := hexact.mpr (by simp)
  exact ⟨rfl, rfl, rfl, hitem, (hparse _).mp hitem⟩

/-- With an asterisk in the name of the class a look asks for texts that begin and end like it, with
an escape for the escaped character, and with parentheses for nothing that can be read. -/
theorem other_class_asked :
    let c : Connection :=
      ⟨⟨"ldap://ds1", .ldap, "ds1", none⟩, {}, "",
        ⟨.bound, some 0, false, some ⟨.simple, .plain, "ldap://ds1"⟩⟩⟩
    ∀ asked ∈ [
        ("per*on", some (substrings "objectclass" [encode "per".toList, encode "on".toList])),
        ("a\\2a", some (equality "objectclass" (encode "a*".toList))), ("a)(b=c", none)],
      let filter := "(objectclass=" ++ asked.1 ++ ")"
      let outcome := (c.existsWithClass "cn=a,dc=org" asked.1).run obliging ⟨(), 1⟩
      outcome.events = [asking 0 ⟨"cn=a,dc=org", .baseObject, filter, ["1.1"]⟩ (.ok []),
        c.note .debug "dn_exists on ldap://ds1: ok"] ∧
      parse? filter = asked.2 ∧
      ¬ IsEqualityItem filter "objectclass" (encode asked.1.toList) := by
  intro c asked hmem
  have hother : ∀ {objectClass : String} (char : Char), char ∈ objectClass.toList →
      char ∈ reserved →
      ¬ IsEqualityItem (classFilter objectClass) "objectclass" (encode objectClass.toList) :=
    fun char hmem hreserved hitem =>
      encoded_encode_iff.mp (isEqualityItem_classFilter.mp hitem) char hmem hreserved
  have hplain : ∀ text : String, (∀ char ∈ text.toList, char ∉ reserved) →
      Encoded text.toList (encode text.toList) := fun _ => encoded_encode_iff.mpr
  have hstar : cutValue ("per*on".toList ++ [')']) =
      ([encode "per".toList, encode "on".toList], [')']) := by
    have htext : "per*on".toList ++ [')'] = "per".toList ++ '*' :: ("on".toList ++ [')']) := rfl
    rw [htext, cutValue_append (hplain _ (by simp [reserved])), cutValue_star,
      cutValue_encoded (hplain _ (by simp [reserved])) []]
    simp only [glueOctets, List.append_nil]
  have hescape : Encoded "a\\2a".toList (encode "a*".toList) :=
    .plain (by decide) (.escape (a := '2') (b := 'a') rfl rfl .nil)
  have hparen : cutValue ("a)(b=c".toList ++ [')']) = ([encode "a".toList], ")(b=c)".toList) :=
    cutValue_encoded (hplain "a" (by simp [reserved])) "(b=c)".toList
  simp only [List.mem_cons, List.not_mem_nil, or_false] at hmem
  rcases hmem with rfl | rfl | rfl
  · exact ⟨rfl, parse?_classFilter_eq_some.mpr ⟨_, hstar, rfl⟩,
      hother '*' (by decide) (by decide)⟩
  · exact ⟨rfl, parse?_classFilter.mpr hescape, hother '\\' (by decide) (by decide)⟩
  · refine ⟨rfl, Option.eq_none_iff_forall_ne_some.mpr fun filter hread => ?_,
      hother '(' (by decide) (by decide)⟩
    obtain ⟨pieces, hcut, -⟩ := parse?_classFilter_eq_some.mp hread
    cases (Prod.mk.inj (hparen.symm.trans hcut)).2

end LdapClient.Connection
