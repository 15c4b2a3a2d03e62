/-! # Values by name

A finite map from names to values. Its entries are kept in ascending order of their names, by code
points, and each name has one entry; so two maps are equal when they answer every look-up alike.
-/
namespace Calculator

structure NameMap (α : Type) where
  entries : List (String × α)
  sorted : entries.Pairwise (fun a b => a.1 < b.1)

namespace NameMap

variable {α : Type}

def lookup (name : String) : List (String × α) → Option α
  | [] => none
  | (key, value) :: rest => if key = name then some value else lookup name rest

/-- The entries with a value stored under a name, in place of the former one if there was one. -/
def store (name : String) (value : α) : List (String × α) → List (String × α)
  | [] => [(name, value)]
  | (key, old) :: rest =>
    if name < key then (name, value) :: (key, old) :: rest
    else if key = name then (name, value) :: rest
    else (key, old) :: store name value rest

theorem mem_store {name : String} {value : α} {entry : String × α} {list : List (String × α)}
    (h : entry ∈ store name value list) : entry = (name, value) ∨ entry ∈ list := by
  induction list with
  | nil => simpa [store] using h
  | cons head rest ih =>
    obtain ⟨key, old⟩ := head
    rw [store] at h
    split at h
    · simpa using h
    · split at h
      · rcases List.mem_cons.1 h with h | h
        · exact Or.inl h
        · exact Or.inr (List.mem_cons_of_mem _ h)
      · rcases List.mem_cons.1 h with h | h
        · exact Or.inr (h ▸ List.mem_cons_self)
        · exact (ih h).imp id (List.mem_cons_of_mem _)

theorem lt_of_not_lt_of_ne {a b : String} (h : ¬ a < b) (hne : b ≠ a) : b < a := by
  rcases Decidable.em (b < a) with hlt | hge
  · exact hlt
  · exact absurd (String.le_antisymm (String.not_lt.1 h) (String.not_lt.1 hge)) hne

theorem pairwise_store (name : String) (value : α) {list : List (String × α)}
    (h : list.Pairwise (fun a b => a.1 < b.1)) :
    (store name value list).Pairwise (fun a b => a.1 < b.1) := by
  induction list with
  | nil => simp [store]
  | cons head rest ih =>
    obtain ⟨key, old⟩ := head
    have hhead := (List.pairwise_cons.1 h).1
    have hrest := (List.pairwise_cons.1 h).2
    rw [store]
    split
    · next hlt =>
      refine List.pairwise_cons.2 ⟨fun entry hentry => ?_, h⟩
      rcases List.mem_cons.1 hentry with rfl | hentry
      · exact hlt
      · exact String.lt_trans hlt (hhead entry hentry)
    · next hge =>
      split
      · next heq =>
        subst heq
        exact List.pairwise_cons.2 ⟨hhead, hrest⟩
      · next hne =>
        refine List.pairwise_cons.2 ⟨fun entry hentry => ?_, ih hrest⟩
        rcases mem_store hentry with rfl | hentry
        · exact lt_of_not_lt_of_ne hge hne
        · exact hhead entry hentry

theorem lookup_store (name key : String) (value : α) (list : List (String × α)) :
    lookup key (store name value list) = if name = key then some value else lookup key list := by
  induction list with
  | nil => rfl
  | cons head rest ih =>
    obtain ⟨other, old⟩ := head
    rw [store]
    split
    · rfl
    · split
      · next heq =>
        subst heq
        by_cases h : other = key <;> simp [lookup, h]
      · next hne =>
        by_cases h : other = key
        · subst h
          simp [lookup, Ne.symm hne]
        · simp [lookup, h, ih]

theorem lookup_filter_ne (name key : String) (list : List (String × α)) :
    lookup key (list.filter (·.1 != name)) = if name = key then none else lookup key list := by
  induction list with
  | nil => simp [lookup]
  | cons head rest ih =>
    obtain ⟨other, old⟩ := head
    by_cases h : other = name
    · subst h
      by_cases hk : other = key
      · subst hk
        simpa using ih
      · simpa [lookup, hk] using ih
    · by_cases hk : other = key
      · subst hk
        simp [lookup, h, Ne.symm h]
      · simp [lookup, h, hk, ih]

theorem lookup_eq_none_of_lt {name : String} {list : List (String × α)}
    (h : ∀ entry ∈ list, name < entry.1) : lookup name list = none := by
  induction list with
  | nil => rfl
  | cons head rest ih =>
    have hlt := h head (by simp)
    have hne : head.1 ≠ name := fun heq => String.lt_irrefl _ (heq ▸ hlt)
    simp [lookup, hne, ih fun entry hentry => h entry (List.mem_cons_of_mem _ hentry)]

theorem eq_of_lookup_eq {left right : List (String × α)}
    (hleft : left.Pairwise (fun a b => a.1 < b.1)) (hright : right.Pairwise (fun a b => a.1 < b.1))
    (h : ∀ name, lookup name left = lookup name right) : left = right := by
  induction left generalizing right with
  | nil =>
    cases right with
    | nil => rfl
    | cons head rest => simpa [lookup] using h head.1
  | cons first leftRest ih =>
    cases right with
    | nil => simpa [lookup] using h first.1
    | cons second rightRest =>
      obtain ⟨hfirst, hleftRest⟩ := List.pairwise_cons.1 hleft
      obtain ⟨hsecond, hrightRest⟩ := List.pairwise_cons.1 hright
      have key_le : ∀ (a b : String × α) (list : List (String × α)),
          (∀ entry ∈ list, b.1 < entry.1) → lookup a.1 (b :: list) = some a.2 → ¬ a.1 < b.1 := by
        intro a b list hlist hlookup hlt
        rw [lookup_eq_none_of_lt fun entry hentry => ?_] at hlookup
        · cases hlookup
        · rcases List.mem_cons.1 hentry with rfl | hentry
          · exact hlt
          · exact String.lt_trans hlt (hlist entry hentry)
      have hkey : first.1 = second.1 := by
        refine String.le_antisymm (String.not_lt.1 ?_) (String.not_lt.1 ?_)
        · exact key_le second first leftRest hfirst ((h second.1).trans (by simp [lookup]))
        · exact key_le first second rightRest hsecond ((h first.1).symm.trans (by simp [lookup]))
      have hhead : first = second := by
        have := h first.1
        simp only [lookup, if_true, hkey] at this
        exact Prod.ext hkey (Option.some.inj this)
      subst hhead
      refine congrArg _ (ih hleftRest hrightRest fun name => ?_)
      by_cases hname : first.1 = name
      · subst hname
        rw [lookup_eq_none_of_lt hfirst, lookup_eq_none_of_lt hsecond]
      · simpa [lookup, hname] using h name

def empty : NameMap α := ⟨[], List.Pairwise.nil⟩

def get? (map : NameMap α) (name : String) : Option α :=
  lookup name map.entries

def insert (map : NameMap α) (name : String) (value : α) : NameMap α :=
  ⟨store name value map.entries, pairwise_store name value map.sorted⟩

def erase (map : NameMap α) (name : String) : NameMap α :=
  ⟨map.entries.filter (·.1 != name), map.sorted.filter _⟩

/-- The map with the given entries; of two with the same name the later one counts. -/
def ofList (entries : List (String × α)) : NameMap α :=
  entries.foldl (fun map entry => map.insert entry.1 entry.2) empty

@[simp] theorem get?_empty (name : String) : (empty : NameMap α).get? name = none := rfl

theorem get?_insert (map : NameMap α) (name key : String) (value : α) :
    (map.insert name value).get? key = if name = key then some value else map.get? key :=
  lookup_store name key value map.entries

@[simp] theorem get?_insert_self (map : NameMap α) (name : String) (value : α) :
    (map.insert name value).get? name = some value := by
  simp [get?_insert]

theorem get?_insert_of_ne (map : NameMap α) {name key : String} (h : name ≠ key) (value : α) :
    (map.insert name value).get? key = map.get? key := by
  simp [get?_insert, h]

theorem get?_erase (map : NameMap α) (name key : String) :
    (map.erase name).get? key = if name = key then none else map.get? key :=
  lookup_filter_ne name key map.entries

@[ext] theorem ext_get? {left right : NameMap α} (h : ∀ name, left.get? name = right.get? name) :
    left = right := by
  obtain ⟨leftEntries, hleft⟩ := left
  obtain ⟨rightEntries, hright⟩ := right
  obtain rfl := eq_of_lookup_eq hleft hright h
  rfl

end NameMap

end Calculator
