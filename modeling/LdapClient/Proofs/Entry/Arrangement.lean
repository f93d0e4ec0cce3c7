/-
# LdapClient.Proofs.Entry.Arrangement -- sorting by name and keeping the first of each name

What is listed under names can be brought into order in two steps: sort it by the octets of the
names, and of neighbours with the same name keep the first.  Sorting does not exchange what has the
same name, so the first of each name in the list is what is kept (`find?_arrange`), and after that
each name stands once, in ascending order (`ascending_arrange`).

These two facts say all there is to say, because ascending lists in which the same is found are the
same (`Ascending.ext_find?`).  So a name map that keeps the first value of each name is the arranged
list (`NameMap.toList_ofFirst`), though it is built by putting one value after the other at its
place.
-/
import LdapClient.Proofs.NameMap
import Mathlib.Data.List.Destutter

namespace LdapClient

open Text

/-! ## Arranging -/

section

variable {α β : Type} (name : α → String)

/-- The octets of the first name are not behind those of the second. -/
def isInOrder (a b : α) : Bool :=
  !octetsBefore (octets (name b)) (octets (name a))

/-- Sorts by the octets of the names.  What has the same name stays in the order that it had. -/
def sortByName (items : List α) : List α :=
  items.mergeSort (isInOrder name)

/-- Drops what has the same name as the last that was kept. -/
def dropRepeats (items : List α) : List α :=
  items.destutter fun a b => name a ≠ name b

/-- The first of each name, sorted by name. -/
def arrange (items : List α) : List α :=
  dropRepeats name (sortByName name items)

variable {name}

theorem isInOrder_iff {a b : α} :
    isInOrder name a b = true ↔ before (name b) (name a) = false := by
  rw [isInOrder, Bool.not_eq_true', octetsBefore_octets]

theorem isInOrder_trans (a b c : α) (hab : isInOrder name a b = true)
    (hbc : isInOrder name b c = true) : isInOrder name a c = true := by
  rw [isInOrder_iff] at *
  exact not_before_trans hab hbc

theorem isInOrder_total (a b : α) : (isInOrder name a b || isInOrder name b a) = true := by
  rw [Bool.or_eq_true, isInOrder_iff, isInOrder_iff]
  cases hba : before (name b) (name a) with
  | false => exact .inl rfl
  | true => exact .inr (before_asymm hba)

/-! ## What is found -/

/-- Items of one name are not exchanged. -/
theorem filter_sortByName (items : List α) (key : String) :
    (sortByName name items).filter (fun a => name a = key) =
      items.filter fun a => name a = key := by
  have hone : (items.filter fun a => name a = key).Sublist (sortByName name items) := by
    apply List.sublist_mergeSort isInOrder_trans isInOrder_total _ List.filter_sublist
    apply List.pairwise_of_forall_mem_list
    intro a ha b hb
    have hka : name a = key := by simpa using (List.mem_filter.mp ha).2
    have hkb : name b = key := by simpa using (List.mem_filter.mp hb).2
    rw [isInOrder_iff, hka, hkb, before_irrefl]
  have hall := hone.filter fun a => name a = key
  rw [List.filter_filter] at hall
  simp only [Bool.and_self] at hall
  -- both have as many items of that name, so neither has one more
  refine (hall.eq_of_length ?_).symm
  exact ((List.mergeSort_perm items _).filter _).length_eq.symm

theorem find?_sortByName (items : List α) (key : String) :
    (sortByName name items).find? (fun a => name a = key) = items.find? fun a => name a = key := by
  rw [← List.head?_filter, filter_sortByName, List.head?_filter]

/-- What is dropped stands behind one with the same name. -/
theorem find?_dropRepeats (items : List α) (key : String) :
    (dropRepeats name items).find? (fun a => name a = key) = items.find? fun a => name a = key := by
  cases items with
  | nil => rfl
  | cons first rest =>
    unfold dropRepeats
    rw [List.destutter_cons']
    -- the item that was kept last takes part in every comparison, so it is general
    induction rest generalizing first with
    | nil => rfl
    | cons next rest ih =>
      by_cases hname : name first = name next
      · rw [List.destutter'_cons_neg _ (by simpa using hname), ih, List.find?_cons, List.find?_cons,
          List.find?_cons, ← hname]
        split <;> rfl
      · rw [List.destutter'_cons_pos _ hname, List.find?_cons, List.find?_cons, ih]

/-- The first of each name is kept. -/
theorem find?_arrange (items : List α) (key : String) :
    (arrange name items).find? (fun a => name a = key) = items.find? fun a => name a = key := by
  rw [arrange, find?_dropRepeats, find?_sortByName]

/-! ## The order -/

theorem ascending_of_isChain {items : List α}
    (hsorted : items.Pairwise fun a b => isInOrder name a b = true)
    (hchain : items.IsChain fun a b => name a ≠ name b) : Ascending name items := by
  rw [ascending_iff]
  induction items with
  | nil => exact .nil
  | cons a rest ih =>
    obtain ⟨hfirst, hrest⟩ := List.pairwise_cons.mp hsorted
    cases rest with
    | nil => exact List.pairwise_singleton _ a
    | cons b rest =>
      obtain ⟨hne, hchain⟩ := List.isChain_cons_cons.mp hchain
      have hpairs := ih hrest hchain
      have hab : before (name a) (name b) = true := by
        rcases before_or_before hne with hlt | hlt
        · exact hlt
        · rw [isInOrder_iff.mp (hfirst b List.mem_cons_self)] at hlt
          contradiction
      refine List.pairwise_cons.mpr ⟨?_, hpairs⟩
      intro c hc
      rcases List.mem_cons.mp hc with rfl | hc
      · exact hab
      · exact before_trans hab ((List.pairwise_cons.mp hpairs).1 c hc)

theorem ascending_arrange (items : List α) : Ascending name (arrange name items) := by
  apply ascending_of_isChain
  · have hsorted : (sortByName name items).Pairwise fun a b => isInOrder name a b = true :=
      List.pairwise_mergeSort isInOrder_trans isInOrder_total items
    exact hsorted.sublist (List.destutter_sublist _ (sortByName name items))
  · exact List.isChain_destutter _ (sortByName name items)

/-- What is in order already stays as it is. -/
theorem Ascending.arrange_eq {items : List α} (h : Ascending name items) :
    arrange name items = items :=
  (ascending_arrange items).ext_find? h (find?_arrange items)

theorem map_arrange (name : α → String) (name' : β → String) {f : α → β}
    (hf : ∀ a, name' (f a) = name a) (items : List α) :
    (arrange name items).map f = arrange name' (items.map f) := by
  apply ((ascending_arrange items).map hf).ext_find? (ascending_arrange _)
  intro key
  rw [find?_arrange, find?_map_name hf, find?_map_name hf, find?_arrange]

/-- The names that stand in an arranged list are those that stood in it before. -/
theorem mem_map_arrange {items : List α} {key : String} :
    key ∈ (arrange name items).map name ↔ key ∈ items.map name := by
  rw [← isSome_find?_iff, find?_arrange, isSome_find?_iff]

/-- What is kept was there. -/
theorem mem_of_mem_arrange {items : List α} {a : α} (h : a ∈ arrange name items) : a ∈ items := by
  have hfind := (ascending_arrange items).find?_eq_some_iff.mpr ⟨h, rfl⟩
  rw [find?_arrange] at hfind
  exact List.mem_of_find?_eq_some hfind

end

/-! ## Name maps -/

namespace NameMap

variable {α : Type}

theorem find?_ofFirst (values : List (String × α)) (key : String) :
    (ofFirst values).find? key = (values.find? fun entry => entry.1 = key).map Prod.snd := by
  have hfrom (m : NameMap α) :
      (values.foldl (fun m entry => m.putNew entry.1 entry.2) m).find? key =
        (m.find? key).or ((values.find? fun entry => entry.1 = key).map Prod.snd) := by
    induction values generalizing m with
    | nil => simp
    | cons entry values ih =>
      rw [List.foldl_cons, ih, find?_putNew, List.find?_cons]
      by_cases hkey : key = entry.1
      · subst hkey
        cases m.find? entry.1 <;> simp
      · rw [if_neg hkey, decide_eq_false (Ne.symm hkey)]
  exact (hfrom empty).trans (Option.none_or)

/-- Keeping the first value of each name is sorting by name and dropping the repeated names. -/
theorem toList_ofFirst (values : List (String × α)) :
    (ofFirst values).toList = arrange Prod.fst values := by
  apply (ascending_toList _).ext_find? (ascending_arrange values)
  intro key
  rw [find?_toList, find?_ofFirst, find?_arrange, Option.map_map]
  cases hfind : values.find? fun entry => entry.1 = key with
  | none => rfl
  | some entry =>
    have hkey : entry.1 = key := by simpa using List.find?_some hfind
    subst hkey
    rfl

end NameMap

end LdapClient
