import AuditSearch.Ascending

/-! Dictionaries and the lists that they are made of. -/
namespace AuditSearch.Dictionary

variable {α : Type}

theorem putEntry_last {key : String} {value : α} {es : List (String × α)} (h : ∀ e ∈ es, e.1 < key) :
    putEntry key value es = es ++ [(key, value)] := by
  induction es with
  | nil => rfl
  | cons e es ih =>
    obtain ⟨he, hes⟩ := List.forall_mem_cons.mp h
    rw [putEntry, if_neg (String.lt_asymm he), if_pos he, ih hes, List.cons_append]

theorem foldl_insert (es : List (String × α)) : ∀ d : Dictionary α, (d.entries ++ es).Pairwise (·.1 < ·.1) →
    (es.foldl (fun d e => d.insert e.1 e.2) d).entries = d.entries ++ es := by
  induction es with
  | nil => simp
  | cons e es ih =>
    intro d h
    have hlast : ∀ f ∈ d.entries, f.1 < e.1 := fun f hf => (List.pairwise_append.mp h).2.2 f hf e (by simp)
    have hinsert : (d.insert e.1 e.2).entries = d.entries ++ [e] := putEntry_last hlast
    rw [List.foldl_cons, ih _ (by simpa [hinsert] using h), hinsert, List.append_assoc]
    rfl

theorem lookup_cons_eq (e : String × α) (es : List (String × α)) (name : String) :
    (e :: es).lookup name = if name = e.1 then some e.2 else es.lookup name := by
  by_cases h : name = e.1
  · rw [List.lookup_cons, if_pos h, beq_iff_eq.mpr h]
  · rw [List.lookup_cons, if_neg h, beq_eq_false_iff_ne.mpr h]

theorem lookup_putEntry (key : String) (value : α) (es : List (String × α)) (name : String) :
    (putEntry key value es).lookup name = if name = key then some value else es.lookup name := by
  induction es with
  | nil => rw [putEntry, lookup_cons_eq]
  | cons e es ih =>
    rw [putEntry]
    split
    · rw [lookup_cons_eq]
    · rename_i hnotBefore
      split
      · rename_i hbehind
        have hne : e.1 ≠ key := fun heq => String.lt_irrefl key (heq ▸ hbehind)
        rw [lookup_cons_eq, ih, lookup_cons_eq]
        by_cases h : name = key
        · rw [if_neg (fun heq => hne (heq.symm.trans h)), if_pos h, if_pos h]
        · rw [if_neg h, if_neg h]
      · rename_i hnotBehind
        have heq : e.1 = key := String.le_antisymm (String.not_lt.mp hnotBefore) (String.not_lt.mp hnotBehind)
        rw [lookup_cons_eq, lookup_cons_eq, heq]
        by_cases h : name = key
        · rw [if_pos h, if_pos h]
        · rw [if_neg h, if_neg h, if_neg h]

theorem length_putEntry {key : String} {value : α} {es : List (String × α)} (h : es.lookup key = none) :
    (putEntry key value es).length = es.length + 1 := by
  induction es with
  | nil => rfl
  | cons e es ih =>
    rw [lookup_cons_eq] at h
    split at h
    · cases h
    · rename_i hne
      rw [putEntry]
      split
      · rfl
      · rename_i hnotBefore
        split
        · rw [List.length_cons, ih h, List.length_cons]
        · rename_i hnotBehind
          exact absurd (String.le_antisymm (String.not_lt.mp hnotBehind) (String.not_lt.mp hnotBefore)) hne

theorem get_insert (d : Dictionary α) (key : String) (value : α) (name : String) :
    (d.insert key value).get? name = if name = key then some value else d.get? name :=
  lookup_putEntry key value d.entries name

theorem length_insert {d : Dictionary α} {key : String} (h : d.get? key = none) (value : α) :
    (d.insert key value).entries.length = d.entries.length + 1 :=
  length_putEntry h

theorem isSome_get_iff (d : Dictionary α) (name : String) : (d.get? name).isSome ↔ name ∈ d.entries.map (·.1) := by
  rw [get?, List.lookup_isSome_iff, List.mem_map]
  exact exists_congr fun e => and_congr_right fun _ => beq_iff_eq.trans eq_comm

theorem ofList_entries (d : Dictionary α) : ofList d.entries = d := by
  have h : (ofList d.entries).entries = d.entries := foldl_insert d.entries empty d.ascending
  rw [← mk.injEq] at h
  exact h

end AuditSearch.Dictionary
