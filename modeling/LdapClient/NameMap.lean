/-
# LdapClient.NameMap -- values under names, in the order of the names

A name map holds at most one value for each name and lists its names in ascending order.  It is the
shape of everything that a directory says about an entry.  `find?` reads by the exact name;
`findFolded?` takes the first name that agrees up to ASCII case, hence the least one.

The order is part of the type.  `put` replaces or adds and `putNew` only adds; both are described
by what `find?` reads afterwards.
-/
import LdapClient.Text.Fold

namespace LdapClient

open Text

/-- Values under distinct names, listed in ascending order. -/
structure NameMap (α : Type) where
  toList : List (String × α)
  sorted : toList.Pairwise fun a b => before a.1 b.1 = true
deriving DecidableEq

namespace NameMap

variable {α β : Type}

/-- The map without names. -/
def empty : NameMap α :=
  ⟨[], List.Pairwise.nil⟩

/-- The names, in ascending order. -/
def names (m : NameMap α) : List String :=
  m.toList.map Prod.fst

/-! ## Reading -/

/-- The value in a list of named values. -/
def lookup (name : String) : List (String × α) → Option α
  | [] => none
  | (other, value) :: rest => if other = name then some value else lookup name rest

/-- The value under a name. -/
def find? (m : NameMap α) (name : String) : Option α :=
  lookup name m.toList

/-- The value under the first name that agrees up to ASCII case. -/
def findFolded? (m : NameMap α) (name : String) : Option α :=
  (m.toList.find? fun entry => sameFolded entry.1 name).map Prod.snd

/-! ## Writing -/

/-- Puts a value at its place, replacing the value of the same name if `replacing` says so. -/
def insert (replacing : Bool) (name : String) (value : α) :
    List (String × α) → List (String × α)
  | [] => [(name, value)]
  | (other, old) :: rest =>
    if other = name then (other, if replacing then value else old) :: rest
    else if before name other then (name, value) :: (other, old) :: rest
    else (other, old) :: insert replacing name value rest

theorem mem_insert {replacing : Bool} {name : String} {value : α} {l : List (String × α)}
    {entry : String × α} (h : entry ∈ insert replacing name value l) :
    entry.1 = name ∨ entry ∈ l := by
  induction l with
  | nil =>
    simp only [insert, List.mem_singleton] at h
    exact Or.inl (by rw [h])
  | cons head rest ih =>
    obtain ⟨other, old⟩ := head
    simp only [insert] at h
    split at h
    · next hname =>
      rcases List.mem_cons.mp h with h | h
      · exact Or.inl (by rw [h]; exact hname)
      · exact Or.inr (List.mem_cons_of_mem _ h)
    · split at h
      · rcases List.mem_cons.mp h with h | h
        · exact Or.inl (by rw [h])
        · exact Or.inr h
      · rcases List.mem_cons.mp h with h | h
        · exact Or.inr (h ▸ List.mem_cons_self)
        · rcases ih h with h | h
          · exact Or.inl h
          · exact Or.inr (List.mem_cons_of_mem _ h)

theorem sorted_insert {replacing : Bool} {name : String} {value : α} {l : List (String × α)}
    (h : l.Pairwise fun a b => before a.1 b.1 = true) :
    (insert replacing name value l).Pairwise fun a b => before a.1 b.1 = true := by
  induction l with
  | nil => exact List.pairwise_singleton _ _
  | cons head rest ih =>
    obtain ⟨other, old⟩ := head
    obtain ⟨hhead, hrest⟩ := List.pairwise_cons.mp h
    simp only [insert]
    split
    · exact List.pairwise_cons.mpr ⟨hhead, hrest⟩
    · next hne =>
      split
      · next hbefore =>
        refine List.pairwise_cons.mpr ⟨fun entry hentry => ?_, h⟩
        rcases List.mem_cons.mp hentry with hentry | hentry
        · rw [hentry]; exact hbefore
        · exact before_trans hbefore (hhead entry hentry)
      · next hbefore =>
        have hother : before other name = true := by
          rcases before_or_before hne with h' | h'
          · exact h'
          · exact absurd h' hbefore
        refine List.pairwise_cons.mpr ⟨fun entry hentry => ?_, ih hrest⟩
        rcases mem_insert hentry with hentry | hentry
        · rw [hentry]; exact hother
        · exact hhead entry hentry

/-- Sets the value of a name. -/
def put (m : NameMap α) (name : String) (value : α) : NameMap α :=
  ⟨insert true name value m.toList, sorted_insert m.sorted⟩

/-- Sets the value of a name that has none yet. -/
def putNew (m : NameMap α) (name : String) (value : α) : NameMap α :=
  ⟨insert false name value m.toList, sorted_insert m.sorted⟩

/-! ## What is read afterwards -/

theorem lookup_insert_of_ne {replacing : Bool} {name other : String} {value : α}
    {l : List (String × α)} (h : other ≠ name) :
    lookup other (insert replacing name value l) = lookup other l := by
  induction l with
  | nil => simp only [insert, lookup, if_neg (Ne.symm h)]
  | cons head rest ih =>
    obtain ⟨key, old⟩ := head
    simp only [insert]
    split
    · next hkey =>
      subst hkey
      simp only [lookup, if_neg (Ne.symm h)]
    · split
      · simp only [lookup, if_neg (Ne.symm h)]
      · simp only [lookup, ih]

theorem lookup_insert_true (name : String) (value : α) (l : List (String × α)) :
    lookup name (insert true name value l) = some value := by
  induction l with
  | nil => simp only [insert, lookup, if_true]
  | cons head rest ih =>
    obtain ⟨key, old⟩ := head
    simp only [insert]
    split
    · next hkey => simp only [lookup, if_pos hkey, if_true]
    · next hkey =>
      split
      · simp only [lookup, if_true]
      · simp only [lookup, if_neg hkey, ih]

/-- A name that stands before all listed names is not among them. -/
theorem lookup_eq_none_of_before {name : String} {l : List (String × α)}
    (h : ∀ entry ∈ l, before name entry.1 = true) : lookup name l = none := by
  induction l with
  | nil => rfl
  | cons head rest ih =>
    obtain ⟨key, old⟩ := head
    have hkey : key ≠ name := fun hkey => by
      have hbefore := h (key, old) List.mem_cons_self
      rw [hkey, before_irrefl] at hbefore
      exact absurd hbefore (by decide)
    simp only [lookup, if_neg hkey]
    exact ih fun entry hentry => h entry (List.mem_cons_of_mem _ hentry)

theorem lookup_insert_false {name : String} {value : α} {l : List (String × α)}
    (h : l.Pairwise fun a b => before a.1 b.1 = true) :
    lookup name (insert false name value l) = some ((lookup name l).getD value) := by
  induction l with
  | nil => simp only [insert, lookup, if_true, Option.getD_none]
  | cons head rest ih =>
    obtain ⟨key, old⟩ := head
    obtain ⟨hhead, hrest⟩ := List.pairwise_cons.mp h
    simp only [insert]
    split
    · next hkey => simp [lookup, hkey]
    · next hkey =>
      split
      · next hbefore =>
        have hnone : lookup name rest = none :=
          lookup_eq_none_of_before fun entry hentry => before_trans hbefore (hhead entry hentry)
        simp only [lookup, if_true, if_neg hkey, hnone, Option.getD_none]
      · simp only [lookup, if_neg hkey, ih hrest]

theorem find?_put (m : NameMap α) (name other : String) (value : α) :
    (m.put name value).find? other = if other = name then some value else m.find? other := by
  split
  · next h => rw [h]; exact lookup_insert_true name value m.toList
  · next h => exact lookup_insert_of_ne h

theorem find?_putNew (m : NameMap α) (name other : String) (value : α) :
    (m.putNew name value).find? other =
      if other = name then some ((m.find? name).getD value) else m.find? other := by
  split
  · next h => rw [h]; exact lookup_insert_false m.sorted
  · next h => exact lookup_insert_of_ne h

/-! ## Whole maps -/

/-- The map that a list of named values writes, later values replacing earlier ones. -/
def ofList (values : List (String × α)) : NameMap α :=
  values.foldl (fun m entry => m.put entry.1 entry.2) empty

/-- The map that keeps the first value of each name. -/
def ofFirst (values : List (String × α)) : NameMap α :=
  values.foldl (fun m entry => m.putNew entry.1 entry.2) empty

/-- The same names with changed values. -/
def mapValues (f : α → β) (m : NameMap α) : NameMap β :=
  ⟨m.toList.map fun entry => (entry.1, f entry.2), m.sorted.map _ fun _ _ h => h⟩

/-- A map of lists with the lists of another one put behind its own, name by name. -/
def extend (m : NameMap (List α)) (more : NameMap (List α)) : NameMap (List α) :=
  more.toList.foldl (fun m entry => m.put entry.1 ((m.find? entry.1).getD [] ++ entry.2)) m

end NameMap

end LdapClient
