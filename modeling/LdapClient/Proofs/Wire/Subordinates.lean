/-
# LdapClient.Proofs.Wire.Subordinates -- what is left of a subtree without its base

A search below the base asks for the whole subtree and takes the base out of what comes back.  The
base is known by its name, which servers write in their own way, so this rests on when two texts
name the same entry.  Nothing below the base may go with it: a name with more relative names is
another name (`length_rdns_of_sameText`), and where the base is no name at all, what stands in front
of a comma makes another text (`sameText_behind_comma`).

The main statement is `subordinates_kept`.
-/
import LdapClient.Proofs.Dn.Composition
import LdapClient.Wire.Transport

namespace LdapClient

open Text

/-! ## Names below a name -/

namespace Dn

/-- Names of the same entry have as many relative names. -/
theorem length_rdns_of_sameText {x y : String} {a b : Dn} (hx : parse x = .ok a)
    (hy : parse y = .ok b) (h : sameText x y = true) : a.rdns.length = b.rdns.length := by
  rw [sameText, hx, hy] at h
  have hkeys := congrArg List.length (same_iff.mp h)
  simpa [keys] using hkeys

/-- A name in front of the comma leads away from the entry. -/
theorem sameText_below {p b base : String} {x y : Dn} (hp : parse p = .ok x)
    (hb : parse b = .ok y) (h : sameText b base = true) :
    sameText (p ++ "," ++ b) base = false := by
  obtain ⟨z, hbase, hkeys⟩ := exists_parse_of_sameText hb h
  have hbelow : parse (p ++ "," ++ b) = .ok ⟨x.rdns ++ y.rdns⟩ := parse_append hp hb
  have hne : x.rdns ≠ [] := by
    obtain ⟨pieces, hspells⟩ := parse_eq_ok.mp hp
    exact hspells.ne_nil
  refine Bool.eq_false_iff.mpr fun hsame => ?_
  have hlength := length_rdns_of_sameText hbelow hbase hsame
  have hlength' := length_rdns_of_sameText hb hbase h
  rw [List.length_append, hlength'] at hlength
  have hpos := List.length_pos_iff.mpr hne
  omega

/-- A text that is no name is another text than itself behind a comma. -/
theorem sameText_behind_comma {base : String} (h : (parse base).isOk = false) (p : String) :
    sameText (p ++ "," ++ base) base = false := by
  have hcommas : fold (trim (p ++ "," ++ base).toList) ≠ fold (trim base.toList) := by
    intro heq
    have hblank : isBlank ',' = false := by decide
    have hmark : IsMark ',' := by decide
    have hcount := congrArg (List.count ',') heq
    rw [count_fold hmark, count_fold hmark, count_trim hblank, count_trim hblank,
      String.toList_append, String.toList_append, List.count_append, List.count_append,
      show ",".toList.count ',' = 1 from rfl] at hcount
    omega
  unfold sameText
  cases hbase : parse base with
  | ok z =>
    rw [hbase] at h
    contradiction
  | error fault => simpa using hcommas

end Dn

/-! ## Entries below the base -/

namespace Wire

/-- What is kept of the entries of a subtree when its base is taken out. -/
structure KeepsSubordinates (base : String) (entries kept : List RawEntry) : Prop where
  inOrder : kept.Sublist entries
  /-- An entry goes if it has the name of the base, and otherwise stays as often as it came. -/
  counted : ∀ entry, kept.count entry =
    if Dn.sameText entry.dn base = true then 0 else entries.count entry
  /-- Below the base, however both are spelled, nothing goes. -/
  below : ∀ p b x y, Dn.parse p = .ok x → Dn.parse b = .ok y → Dn.sameText b base = true →
    ∀ entry, entry.dn = p ++ "," ++ b → kept.count entry = entries.count entry
  /-- If the base is no name, nothing goes that stands before its text and a comma. -/
  belowText : (Dn.parse base).isOk = false →
    ∀ p entry, entry.dn = p ++ "," ++ base → kept.count entry = entries.count entry

theorem count_withoutBase (base : String) (entries : List RawEntry) (entry : RawEntry) :
    (withoutBase base entries).count entry =
      if Dn.sameText entry.dn base = true then 0 else entries.count entry := by
  split
  · rename_i hsame
    apply List.count_eq_zero.mpr
    intro hmem
    have hkept := (List.mem_filter.mp hmem).2
    rw [hsame] at hkept
    contradiction
  · rename_i hother
    apply List.count_filter
    simpa using hother

theorem keepsSubordinates_withoutBase (base : String) (entries : List RawEntry) :
    KeepsSubordinates base entries (withoutBase base entries) where
  inOrder := List.filter_sublist
  counted := count_withoutBase base entries
  below := by
    intro p b x y hp hb hsame entry hdn
    have hother : Dn.sameText entry.dn base = false := hdn ▸ Dn.sameText_below hp hb hsame
    rw [count_withoutBase, if_neg (by simp [hother])]
  belowText := by
    intro hbase p entry hdn
    have hother : Dn.sameText entry.dn base = false := hdn ▸ Dn.sameText_behind_comma hbase p
    rw [count_withoutBase, if_neg (by simp [hother])]

/-- A search below the base brings the entries of the subtree in their order, each as often as it
came, without those that name the base; what is below the base is never left out.  Every other
search brings all entries. -/
theorem subordinates_kept (base : String) (entries : List RawEntry) :
    KeepsSubordinates base entries (withoutBase base entries) ∧
      ∀ (request : SearchRequest) (text : String) (found : List WireEntry),
        request.base = base → found.map WireEntry.toRaw = entries →
          (Response.result 0 text found).answer (.search request) =
            .ok (if request.scope = .subordinate then withoutBase base entries else entries) := by
  refine ⟨keepsSubordinates_withoutBase base entries, ?_⟩
  rintro request text found rfl rfl
  rfl

/-- A server answers the base in a spelling of its own, between two entries for one person below it;
and an empty base, which is no name, is behind the comma of an entry that is kept. -/
theorem people_kept :
    let base := "OU=People,DC=org"
    let p := "cn=Smith\\, J"
    let b := "ou=people , dc=\\4Frg"
    let x : Dn := ⟨[⟨"cn=Smith\\, J".toList, [⟨"cn".toList, "Smith\\, J".toList⟩]⟩]⟩
    let y : Dn := ⟨[⟨"ou=people".toList, [⟨"ou".toList, "people".toList⟩]⟩,
      ⟨"dc=\\4Frg".toList, [⟨"dc".toList, "\\4Frg".toList⟩]⟩]⟩
    let person : RawEntry := ⟨p ++ "," ++ b, .empty, .empty⟩
    let people : RawEntry := ⟨" ou=\\50eople,DC=ORG", .empty, .empty⟩
    let root : RawEntry := ⟨"dc=org" ++ "," ++ "", .empty, .empty⟩
    let found : List WireEntry := [⟨person.dn, []⟩, ⟨people.dn, []⟩, ⟨person.dn, []⟩]
    Dn.parse p = .ok x ∧ Dn.parse b = .ok y ∧ Dn.sameText b base = true ∧
      Dn.sameText people.dn base = true ∧
      (Response.result 0 "" found).answer (.search ⟨base, .subordinate, "(cn=*)", []⟩) =
        .ok (withoutBase base [person, people, person]) ∧
      (withoutBase base [person, people, person]).count person = 2 ∧
      (withoutBase base [person, people, person]).count people = 0 ∧
      (Dn.parse "").isOk = false ∧ (withoutBase "" [root]).count root = 1 := by
  intro base p b x y person people root found
  have hp : Dn.parse p = .ok x := by decide +kernel
  have hb : Dn.parse b = .ok y := by decide +kernel
  have hsame : Dn.sameText b base = true := by decide +kernel
  have hpeople : Dn.sameText people.dn base = true := by decide +kernel
  have hnone : (Dn.parse "").isOk = false := by decide
  obtain ⟨hkept, hsearch⟩ := subordinates_kept base [person, people, person]
  obtain ⟨hroot, -⟩ := subordinates_kept "" [root]
  have hpersons := hkept.below p b x y hp hb hsame person rfl
  have hbase := hkept.counted people
  rw [if_pos hpeople] at hbase
  have hanswer := hsearch ⟨base, .subordinate, "(cn=*)", []⟩ "" found rfl rfl
  exact ⟨hp, hb, hsame, hpeople, hanswer, hpersons.trans (by decide +kernel), hbase, hnone,
    (hroot.belowText hnone "dc=org" root rfl).trans (by decide +kernel)⟩

end Wire

end LdapClient
