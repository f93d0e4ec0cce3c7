/-
# LdapClient.Proofs.NameMap -- a name map is what is found in it

Names are listed in order and each only once, so a name map holds no more than what `find?` reads:
`ext_find?` says that two maps in which the same is found are the same.  Whole maps are then
described by what is found in them (`find?_mapValues`, `find?_extend`).

Of several names that agree up to ASCII case, `findFolded?` takes the least (`IsLeastFolded`).
-/
import LdapClient.NameMap
import LdapClient.Proofs.Ascending

namespace LdapClient.NameMap

open Text

variable {α β : Type}

/-! ## Finding -/

theorem lookup_eq_find? (name : String) (l : List (String × α)) :
    lookup name l = (l.find? fun entry => entry.1 = name).map Prod.snd := by
  induction l with
  | nil => rfl
  | cons head rest ih =>
    obtain ⟨other, value⟩ := head
    rw [lookup, List.find?_cons]
    by_cases hother : other = name
    · rw [if_pos hother, decide_eq_true hother]
      rfl
    · rw [if_neg hother, decide_eq_false hother, ih]

variable {m : NameMap α} {name : String}

theorem ascending_toList (m : NameMap α) : Ascending Prod.fst m.toList :=
  ascending_iff.mpr m.sorted

theorem find?_eq_some_iff {value : α} :
    m.find? name = some value ↔ (name, value) ∈ m.toList := by
  rw [find?, lookup_eq_find?, Option.map_eq_some_iff]
  constructor
  · rintro ⟨⟨name, value⟩, hfind, rfl⟩
    obtain ⟨hmem, rfl⟩ := m.ascending_toList.find?_eq_some_iff.mp hfind
    exact hmem
  · intro hmem
    exact ⟨_, m.ascending_toList.find?_eq_some_iff.mpr ⟨hmem, rfl⟩, rfl⟩

theorem find?_toList (m : NameMap α) (key : String) :
    m.toList.find? (fun entry => entry.1 = key) = (m.find? key).map fun value => (key, value) := by
  apply Option.ext
  rintro ⟨name, value⟩
  rw [m.ascending_toList.find?_eq_some_iff, Option.map_eq_some_iff]
  constructor
  · rintro ⟨hmem, rfl⟩
    exact ⟨value, find?_eq_some_iff.mpr hmem, rfl⟩
  · rintro ⟨_, hfind, ⟨rfl, rfl⟩⟩
    exact ⟨find?_eq_some_iff.mp hfind, rfl⟩

theorem mem_names_iff : name ∈ m.names ↔ ∃ value, m.find? name = some value := by
  simp [names, find?_eq_some_iff]

theorem find?_eq_none_iff : m.find? name = none ↔ name ∉ m.names := by
  rw [mem_names_iff, not_exists, Option.eq_none_iff_forall_ne_some]

/-- Maps in which the same is found are the same. -/
theorem ext_find? {m m' : NameMap α} (h : ∀ name, m.find? name = m'.find? name) : m = m' := by
  have hlist : m.toList = m'.toList := by
    apply m.ascending_toList.ext_find? m'.ascending_toList
    intro name
    rw [find?_toList, find?_toList, h]
  cases m
  cases m'
  cases hlist
  rfl

/-! ## Whole maps -/

theorem find?_mapValues (f : α → β) (m : NameMap α) (name : String) :
    (m.mapValues f).find? name = (m.find? name).map f := by
  obtain ⟨l, hl⟩ := m
  simp only [find?, mapValues]
  clear hl
  induction l with
  | nil => rfl
  | cons head rest ih =>
    simp only [List.map_cons, lookup]
    split
    · rfl
    · exact ih

theorem findFolded?_mapValues (f : α → β) (m : NameMap α) (name : String) :
    (m.mapValues f).findFolded? name = (m.findFolded? name).map f := by
  simp only [findFolded?, mapValues, List.find?_map, Option.map_map]
  rfl

/-- What is found under a name in both maps is put together. -/
theorem find?_extend (m more : NameMap (List α)) (name : String) :
    (m.extend more).find? name =
      match more.find? name with
      | none => m.find? name
      | some values => some ((m.find? name).getD [] ++ values) := by
  obtain ⟨l, hl⟩ := more
  simp only [extend, find?]
  induction l generalizing m with
  | nil => rfl
  | cons head rest ih =>
    obtain ⟨key, values⟩ := head
    obtain ⟨hhead, hrest⟩ := List.pairwise_cons.mp hl
    rw [List.foldl_cons, ih _ hrest]
    change (match lookup name rest with
      | none => (m.put key _).find? name
      | some later => some (((m.put key _).find? name).getD [] ++ later)) = _
    rw [find?_put, lookup]
    by_cases hkey : name = key
    · subst hkey
      rw [if_pos rfl, if_pos rfl, lookup_eq_none_of_before hhead]
    · rw [if_neg hkey, if_neg (Ne.symm hkey)]
      rfl

/-! ## Names up to case -/

/-- The least of the names that agree with a name up to ASCII case. -/
structure IsLeastFolded (names : List String) (name least : String) : Prop where
  mem : least ∈ names
  same : sameFolded least name = true
  before_of_mem : ∀ other ∈ names, sameFolded other name = true →
    other = least ∨ before least other = true

theorem IsLeastFolded.unique {names : List String} {least other : String}
    (h : IsLeastFolded names name least) (h' : IsLeastFolded names name other) :
    least = other := by
  rcases h.before_of_mem other h'.mem h'.same with heq | hbefore
  · exact heq.symm
  · rcases h'.before_of_mem least h.mem h.same with heq | hbefore'
    · exact heq
    · exact absurd rfl (ne_of_before (before_trans hbefore hbefore'))

/-- The least of some names is the least of fewer if it is still among them. -/
theorem IsLeastFolded.anti {names fewer : List String} {least : String}
    (h : IsLeastFolded names name least) (hfewer : fewer ⊆ names) (hmem : least ∈ fewer) :
    IsLeastFolded fewer name least :=
  ⟨hmem, h.same, fun other hother => h.before_of_mem other (hfewer hother)⟩

theorem findFolded?_eq_none_iff :
    m.findFolded? name = none ↔ ∀ other ∈ m.names, sameFolded other name = false := by
  simp [findFolded?, names, List.find?_eq_none]

theorem isLeastFolded_of_findFolded? {value : α} (h : m.findFolded? name = some value) :
    ∃ least, IsLeastFolded m.names name least ∧ m.find? least = some value := by
  obtain ⟨⟨least, value⟩, hfind, rfl⟩ := Option.map_eq_some_iff.mp h
  obtain ⟨hmem, hsame, hleast⟩ := m.ascending_toList.find?_eq_some_iff_least.mp hfind
  refine ⟨least, ⟨List.mem_map.mpr ⟨_, hmem, rfl⟩, hsame, ?_⟩, find?_eq_some_iff.mpr hmem⟩
  intro other hother hagrees
  obtain ⟨entry, hentry, rfl⟩ := List.mem_map.mp hother
  exact (hleast entry hentry hagrees).imp_left (congrArg Prod.fst)

/-- The value that is found up to case is that of the least name. -/
theorem findFolded?_eq_some_iff {value : α} :
    m.findFolded? name = some value ↔
      ∃ least, IsLeastFolded m.names name least ∧ m.find? least = some value := by
  refine ⟨isLeastFolded_of_findFolded?, ?_⟩
  rintro ⟨least, hleast, hvalue⟩
  cases hfound : m.findFolded? name with
  | none =>
    have hnot := findFolded?_eq_none_iff.mp hfound least hleast.mem
    rw [hleast.same] at hnot
    contradiction
  | some other =>
    obtain ⟨least', hleast', hother⟩ := isLeastFolded_of_findFolded? hfound
    rw [hleast.unique hleast', hother] at hvalue
    exact hvalue

end LdapClient.NameMap
