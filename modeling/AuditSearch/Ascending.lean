/-!
Ascending lists without repeats. They carry sets of event ids and dictionaries keyed by texts, so
that equal contents are equal values.
-/
namespace AuditSearch

section Insert
variable {α : Type} [LT α] [DecidableLT α]

/-- Puts `a` at its place in an ascending list, unless the list holds it. -/
def insertAscending (a : α) : List α → List α
  | [] => [a]
  | b :: bs =>
    if a < b then a :: b :: bs
    else if b < a then b :: insertAscending a bs
    else b :: bs

theorem mem_of_mem_insertAscending {a x : α} {bs : List α} (h : x ∈ insertAscending a bs) :
    x = a ∨ x ∈ bs := by
  induction bs with
  | nil => simpa [insertAscending] using h
  | cons b bs ih =>
    rw [insertAscending] at h
    split at h
    · simpa using h
    · split at h
      · rcases List.mem_cons.1 h with h | h
        · exact .inr (h ▸ List.mem_cons_self)
        · exact (ih h).imp_right (List.mem_cons_of_mem b)
      · exact .inr h

theorem pairwise_insertAscending (trans : ∀ {a b c : α}, a < b → b < c → a < c) (a : α)
    {bs : List α} (h : bs.Pairwise (· < ·)) : (insertAscending a bs).Pairwise (· < ·) := by
  induction bs with
  | nil => simp [insertAscending]
  | cons b bs ih =>
    obtain ⟨hb, hbs⟩ := List.pairwise_cons.1 h
    rw [insertAscending]
    split
    · next hab =>
      refine List.pairwise_cons.2 ⟨fun x hx => ?_, h⟩
      rcases List.mem_cons.1 hx with rfl | hx
      · exact hab
      · exact trans hab (hb x hx)
    · split
      · next hba =>
        refine List.pairwise_cons.2 ⟨fun x hx => ?_, ih hbs⟩
        rcases mem_of_mem_insertAscending hx with rfl | hx
        · exact hba
        · exact hb x hx
      · exact h

end Insert

/-- A finite set of event ids. -/
structure IdSet where
  toList : List Int64
  ascending : toList.Pairwise (· < ·)
  deriving DecidableEq

namespace IdSet

def empty : IdSet :=
  ⟨[], .nil⟩

def insert (id : Int64) (s : IdSet) : IdSet :=
  ⟨insertAscending id s.toList, pairwise_insertAscending Int64.lt_trans id s.ascending⟩

def insertAll (ids : List Int64) (s : IdSet) : IdSet :=
  ids.foldr insert s

def ofList (ids : List Int64) : IdSet :=
  empty.insertAll ids

def union (s t : IdSet) : IdSet :=
  s.insertAll t.toList

def isEmpty (s : IdSet) : Bool :=
  s.toList.isEmpty

instance : Membership Int64 IdSet :=
  ⟨fun s id => id ∈ s.toList⟩

instance (id : Int64) (s : IdSet) : Decidable (id ∈ s) :=
  inferInstanceAs (Decidable (id ∈ s.toList))

end IdSet

section Entries
variable {α : Type}

/-- Puts an entry at its place among entries that ascend by key; an entry of that key is replaced. -/
def putEntry (key : String) (value : α) : List (String × α) → List (String × α)
  | [] => [(key, value)]
  | e :: es =>
    if key < e.1 then (key, value) :: e :: es
    else if e.1 < key then e :: putEntry key value es
    else (key, value) :: es

theorem mem_of_mem_putEntry {key : String} {value : α} {x : String × α} {es : List (String × α)}
    (h : x ∈ putEntry key value es) : x.1 = key ∨ x ∈ es := by
  induction es with
  | nil => simp_all [putEntry]
  | cons e es ih =>
    rw [putEntry] at h
    split at h
    · rcases List.mem_cons.1 h with rfl | h
      · exact .inl rfl
      · exact .inr h
    · split at h
      · rcases List.mem_cons.1 h with rfl | h
        · exact .inr List.mem_cons_self
        · exact (ih h).imp_right (List.mem_cons_of_mem e)
      · rcases List.mem_cons.1 h with rfl | h
        · exact .inl rfl
        · exact .inr (List.mem_cons_of_mem e h)

theorem pairwise_putEntry (key : String) (value : α) {es : List (String × α)}
    (h : es.Pairwise (·.1 < ·.1)) : (putEntry key value es).Pairwise (·.1 < ·.1) := by
  induction es with
  | nil => simp [putEntry]
  | cons e es ih =>
    obtain ⟨he, hes⟩ := List.pairwise_cons.1 h
    rw [putEntry]
    split
    · next hk =>
      refine List.pairwise_cons.2 ⟨fun x hx => ?_, h⟩
      rcases List.mem_cons.1 hx with rfl | hx
      · exact hk
      · exact String.lt_trans hk (he x hx)
    · next hk =>
      split
      · next hk' =>
        refine List.pairwise_cons.2 ⟨fun x hx => ?_, ih hes⟩
        rcases mem_of_mem_putEntry hx with hx | hx
        · exact hx ▸ hk'
        · exact he x hx
      · next hk' =>
        have hkey : e.1 = key := String.le_antisymm (String.not_lt.1 hk) (String.not_lt.1 hk')
        exact List.pairwise_cons.2 ⟨fun x hx => hkey ▸ he x hx, hes⟩

end Entries

/-- A finite map from texts, its entries in the order of their keys. -/
structure Dictionary (α : Type) where
  entries : List (String × α)
  ascending : entries.Pairwise (·.1 < ·.1)
  deriving DecidableEq

namespace Dictionary
variable {α : Type}

def empty : Dictionary α :=
  ⟨[], .nil⟩

/-- Sets the value of a key; an earlier value of it is gone. -/
def insert (key : String) (value : α) (d : Dictionary α) : Dictionary α :=
  ⟨putEntry key value d.entries, pairwise_putEntry key value d.ascending⟩

/-- The dictionary of a list of entries, of which the last one of a key counts. -/
def ofList (entries : List (String × α)) : Dictionary α :=
  entries.foldl (fun d e => d.insert e.1 e.2) empty

def get? (d : Dictionary α) (key : String) : Option α :=
  d.entries.lookup key

end Dictionary

end AuditSearch
