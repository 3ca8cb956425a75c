import AuditSearch.Proofs.Text.Reading
import AuditSearch.Query.Term

/-!
The terms of a search: the words that they are read from, and the searches that are written for some terms. The value of
a term is a part of the search, and not empty.
-/
namespace AuditSearch

namespace Text

/-- A word is a text without blanks, and not the empty one. -/
def IsWord (w : String) : Prop :=
  w ≠ "" ∧ ∀ c ∈ w.toList, isBlank c = false

instance (w : String) : Decidable (IsWord w) :=
  letI := List.decidableBAll (fun c => isBlank c = false) w.toList
  inferInstanceAs (Decidable (_ ∧ _))

theorem mem_words {s w : String} (h : w ∈ words s) : w.toList ⊆ s.toList ∧ IsWord w := by
  obtain ⟨piece, hpiece, rfl⟩ := List.mem_map.mp h
  obtain ⟨hpiece, hempty⟩ := List.mem_filter.mp hpiece
  rw [IsWord, ne_eq, String.ofList_eq_empty_iff, String.toList_ofList]
  exact ⟨fun c hc => (mem_splitOnP hpiece c hc).1, by simpa using hempty, fun c hc => (mem_splitOnP hpiece c hc).2⟩

/-- A blank parts the words in front of it from those behind it. -/
theorem words_break {c : Char} (hc : isBlank c) (cs ds : List Char) :
    words (String.ofList (cs ++ c :: ds)) = words (String.ofList cs) ++ words (String.ofList ds) := by
  simp only [words, String.toList_ofList, List.splitOnP_append_cons _ _ hc, List.filter_append, List.map_append]

theorem words_append (s t : String) : words (s ++ " " ++ t) = words s ++ words t := by
  have hcons : s ++ " " ++ t = String.ofList (s.toList ++ ' ' :: t.toList) := by simp [← String.toList_inj]
  rw [hcons, words_break (by decide), String.ofList_toList, String.ofList_toList]

theorem words_of_isWord {w : String} (h : IsWord w) : words w = [w] := by
  have hkept : w.toList.isEmpty = false := by simpa using h.1
  rw [words, List.splitOnP_eq_singleton h.2]
  simp [hkept]

/-- Words that are written one after the other with blanks between them are read again. -/
theorem words_intercalate {ws : List String} (h : ∀ w ∈ ws, IsWord w) : words (" ".intercalate ws) = ws := by
  induction ws with
  | nil => rfl
  | cons w ws ih =>
    obtain ⟨hw, hws⟩ := List.forall_mem_cons.mp h
    cases ws with
    | nil => rw [String.intercalate_singleton, words_of_isWord hw]
    | cons v vs => rw [String.intercalate_cons_cons, words_append, words_of_isWord hw, ih hws, List.singleton_append]

/-- Every list of words is that of some text. -/
theorem exists_words {ws : List String} (h : ∀ w ∈ ws, IsWord w) : ∃ s, words s = ws :=
  ⟨_, words_intercalate h⟩

end Text

namespace Term

theorem splitColon_subset {cs key rest : List Char} (h : splitColon? cs = some (key, rest)) : rest ⊆ cs := by
  induction cs generalizing key rest with
  | nil => cases h
  | cons c cs ih =>
    rw [splitColon?] at h
    split at h
    · cases h
      exact List.subset_cons_self _ _
    · obtain ⟨⟨more, behind⟩, hmore, heq⟩ := Option.map_eq_some_iff.mp h
      cases heq
      exact List.subset_cons_of_subset c (ih hmore)

theorem parse_eq_some {atom : String} {t : Term} (h : parse? atom = some t) :
    t.value ≠ "" ∧ t.value.toList ⊆ atom.toList := by
  simp only [parse?, Option.bind_eq_bind, Option.bind_eq_some_iff] at h
  obtain ⟨⟨key, rest⟩, hsplit, h⟩ := h
  split at h
  · cases h
  · rename_i hempty
    cases h
    refine ⟨by simpa [String.isEmpty_iff] using hempty, ?_⟩
    have htrim := (Text.trim_isInfix (String.ofList rest)).subset
    rw [String.toList_ofList] at htrim
    exact List.Subset.trans htrim (splitColon_subset hsplit)

/-- The value of a term is not empty, and a part of the search. -/
theorem mem_ofSearch {raw : String} {t : Term} (h : t ∈ ofSearch raw) : t.value ≠ "" ∧ t.value.toList ⊆ raw.toList := by
  obtain ⟨atom, hatom, hparse⟩ := List.mem_filterMap.mp h
  obtain ⟨hne, hsubset⟩ := parse_eq_some hparse
  exact ⟨hne, List.Subset.trans hsubset (Text.mem_words hatom).1⟩

/-- A term that is written behind a search is its last one. -/
theorem ofSearch_append {atom : String} (hatom : Text.IsWord atom) {t : Term} (hparse : parse? atom = some t) (raw : String) :
    ofSearch (raw ++ " " ++ atom) = ofSearch raw ++ [t] := by
  rw [ofSearch, Text.words_append, Text.words_of_isWord hatom, List.filterMap_append, ofSearch]
  simp [hparse]

/-! ### Terms as they are written -/

/-- A name that can be written before a colon: it has no colon and no blank in it, and no dash in front. -/
def IsFieldName (name : String) : Prop :=
  ':' ∉ name.toList ∧ (∀ c ∈ name.toList, Text.isBlank c = false) ∧ name.toList.head? ≠ some '-'

instance (name : String) : Decidable (IsFieldName name) :=
  letI := List.decidableBAll (fun c => Text.isBlank c = false) name.toList
  inferInstanceAs (Decidable (_ ∧ _ ∧ _))

/-- A term that a search can hold: no colon and no blank stands in its field, its value is a word, and its field has a
dash in front only behind the dash of its sign. -/
def IsWritable (t : Term) : Prop :=
  ':' ∉ t.field.toList ∧ (∀ c ∈ t.field.toList, Text.isBlank c = false) ∧ Text.IsWord t.value ∧
    (t.negated = false → t.field.toList.head? ≠ some '-')

instance (t : Term) : Decidable t.IsWritable :=
  letI := List.decidableBAll (fun c => Text.isBlank c = false) t.field.toList
  inferInstanceAs (Decidable (_ ∧ _ ∧ _ ∧ _))

theorem IsFieldName.isWritable {t : Term} (hfield : IsFieldName t.field) (hvalue : Text.IsWord t.value) : t.IsWritable :=
  ⟨hfield.1, hfield.2.1, hvalue, fun _ => hfield.2.2⟩

def text (t : Term) : String :=
  (if t.negated then "-" else "") ++ t.field ++ ":" ++ t.value

/-- What is written of a term in front of its colon. -/
def key (t : Term) : List Char :=
  (if t.negated then ['-'] else []) ++ t.field.toList

theorem toList_text (t : Term) : t.text.toList = t.key ++ ':' :: t.value.toList := by
  cases h : t.negated <;> simp [text, key, h]

theorem isWord_of_isWritable {t : Term} (h : t.IsWritable) : Text.IsWord t.text := by
  obtain ⟨-, hfield, hvalue, -⟩ := h
  have hsign : ∀ c ∈ (if t.negated then ['-'] else []), Text.isBlank c = false := by
    have hdash : Text.isBlank '-' = false := by decide
    cases t.negated <;> simp [hdash]
  have hlist := t.toList_text
  refine ⟨fun hempty => ?_, ?_⟩
  · rw [hempty] at hlist
    exact List.append_ne_nil_of_right_ne_nil _ (List.cons_ne_nil _ _) hlist.symm
  · rw [hlist, key, List.forall_mem_append, List.forall_mem_append, List.forall_mem_cons]
    exact ⟨⟨hsign, hfield⟩, by decide, hvalue.2⟩

theorem isWord_text {t : Term} (hfield : IsFieldName t.field) (hvalue : Text.IsWord t.value) : Text.IsWord t.text :=
  isWord_of_isWritable (hfield.isWritable hvalue)

/-! ### Words and the terms that they are read as -/

theorem splitColon_append {key : List Char} (h : ':' ∉ key) (rest : List Char) :
    splitColon? (key ++ ':' :: rest) = some (key, rest) := by
  induction key with
  | nil => rfl
  | cons c key ih =>
    rw [List.mem_cons, not_or] at h
    rw [List.cons_append, splitColon?, if_neg (Ne.symm h.1), ih h.2, Option.map_some]

theorem splitColon_eq_none {cs : List Char} (h : ':' ∉ cs) : splitColon? cs = none := by
  induction cs with
  | nil => rfl
  | cons c cs ih =>
    rw [List.mem_cons, not_or] at h
    rw [splitColon?, if_neg (Ne.symm h.1), ih h.2, Option.map_none]

theorem signedField_plain {key : List Char} (h : key.head? ≠ some '-') : signedField key = (String.ofList key, false) := by
  rw [signedField.eq_def]
  split
  · simp at h
  · rfl

theorem signedField_key {t : Term} (h : t.negated = false → t.field.toList.head? ≠ some '-') :
    signedField t.key = (t.field, t.negated) := by
  obtain ⟨field, negated, value⟩ := t
  cases negated with
  | false => exact (signedField_plain (h rfl)).trans (by simp)
  | true => exact congrArg (·, true) String.ofList_toList

/-- One dash in front is taken for the sign, and what is left is the field. -/
theorem key_signedField (cs : List Char) (value : String) :
    key ⟨(signedField cs).1, (signedField cs).2, value⟩ = cs ∧
      ((signedField cs).2 = false → (signedField cs).1.toList.head? ≠ some '-') := by
  rw [signedField.eq_def]
  split
  · simp [key]
  · rename_i hdash
    refine ⟨by simp [key], fun _ hhead => ?_⟩
    rw [String.toList_ofList, List.head?_eq_some_iff] at hhead
    obtain ⟨rest, rfl⟩ := hhead
    exact hdash rest rfl

/-- What is read of a word with a colon. -/
theorem parse_colon {cs rest : List Char} (hkey : ':' ∉ cs) (hrest : ∀ c ∈ rest, Text.isBlank c = false) :
    parse? (String.ofList (cs ++ ':' :: rest)) =
      if rest = [] then none else some ⟨(signedField cs).1, (signedField cs).2, String.ofList rest⟩ := by
  have hvalue : Text.trim (String.ofList rest) = String.ofList rest := Text.trim_of_plain (by simpa using hrest)
  rw [parse?, String.toList_ofList, splitColon_append hkey]
  simp only [Option.bind_eq_bind, Option.bind_some, hvalue, String.isEmpty_iff, String.ofList_eq_empty_iff]

/-- A word is read as a term exactly if it is the text of this term. -/
theorem parse_eq_some_iff {atom : String} (hatom : Text.IsWord atom) {t : Term} :
    parse? atom = some t ↔ t.IsWritable ∧ t.text = atom := by
  constructor
  · intro h
    have hcolon : ':' ∈ atom.toList := by
      by_contra hnone
      rw [parse?, splitColon_eq_none hnone] at h
      cases h
    obtain ⟨cs, rest, hlist, hkey⟩ := List.eq_append_cons_of_mem hcolon
    have hblank := hatom.2
    rw [hlist, List.forall_mem_append, List.forall_mem_cons] at hblank
    obtain ⟨hcs, -, hrest⟩ := hblank
    obtain rfl : atom = String.ofList (cs ++ ':' :: rest) := by rw [← hlist, String.ofList_toList]
    rw [parse_colon hkey hrest] at h
    split at h
    · cases h
    · rename_i hne
      obtain ⟨hread, hdash⟩ := key_signedField cs (String.ofList rest)
      rw [Option.some.inj h] at hread
      rw [← hread, key, List.mem_append, not_or] at hkey
      rw [← hread, key, List.forall_mem_append] at hcs
      have hvalue : t.value = String.ofList rest := by rw [← Option.some.inj h]
      refine ⟨⟨hkey.2, hcs.2, ⟨?_, ?_⟩, ?_⟩, ?_⟩
      · rwa [hvalue, ne_eq, String.ofList_eq_empty_iff]
      · rwa [hvalue, String.toList_ofList]
      · rwa [← Option.some.inj h]
      · rw [← String.toList_inj, toList_text, hread, hvalue, String.toList_ofList, String.toList_ofList]
  · rintro ⟨⟨hcolon, -, hvalue, hdash⟩, rfl⟩
    have hkey : ':' ∉ t.key := by
      cases h : t.negated <;> simpa [key, h] using hcolon
    have hne : t.value.toList ≠ [] := by simpa using hvalue.1
    rw [← String.ofList_toList (s := t.text), toList_text, parse_colon hkey hvalue.2, if_neg hne, signedField_key hdash,
      String.ofList_toList]

/-- A word is no term exactly if no colon stands in front of its last character. -/
theorem parse_eq_none_iff {atom : String} (hatom : Text.IsWord atom) :
    parse? atom = none ↔ ':' ∉ atom.toList.dropLast := by
  by_cases hcolon : ':' ∈ atom.toList
  · obtain ⟨cs, rest, hlist, hkey⟩ := List.eq_append_cons_of_mem hcolon
    have hrest : ∀ c ∈ rest, Text.isBlank c = false := fun c hc => hatom.2 c (by simp [hlist, hc])
    obtain rfl : atom = String.ofList (cs ++ ':' :: rest) := by rw [← hlist, String.ofList_toList]
    rw [parse_colon hkey hrest, String.toList_ofList]
    cases rest with
    | nil => simp [hkey]
    | cons c rest => simp
  · rw [parse?, splitColon_eq_none hcolon]
    exact iff_of_true rfl fun hmem => hcolon (List.dropLast_subset _ hmem)

/-- A term is read as it is written. -/
theorem parse_text {t : Term} (hfield : IsFieldName t.field) (hvalue : Text.IsWord t.value) : parse? t.text = some t :=
  (parse_eq_some_iff (isWord_text hfield hvalue)).mpr ⟨hfield.isWritable hvalue, rfl⟩

/-! ### Searches that are written for some terms -/

/-- The search for some terms. -/
def searchOf (terms : List Term) : String :=
  " ".intercalate (terms.map text)

theorem ofSearch_searchOf {terms : List Term} (h : ∀ t ∈ terms, t.IsWritable) : ofSearch (searchOf terms) = terms := by
  have hwords : ∀ w ∈ terms.map text, Text.IsWord w := List.forall_mem_map.mpr fun t ht => isWord_of_isWritable (h t ht)
  have hparse : ∀ t ∈ terms, (parse? ∘ text) t = some t := fun t ht =>
    (parse_eq_some_iff (isWord_of_isWritable (h t ht))).mpr ⟨h t ht, rfl⟩
  rw [ofSearch, searchOf, Text.words_intercalate hwords, List.filterMap_map, List.filterMap_congr hparse,
    List.filterMap_some]

/-- The search for some values of a field, all with one sign. -/
def searchFor (name : String) (negated : Bool) (values : List String) : String :=
  " ".intercalate (values.map fun v => text ⟨name, negated, v⟩)

example : searchFor "post_title" true ["draft", "a:b"] = "-post_title:draft -post_title:a:b" := by
  decide

/-- The terms of a search that is written for some values of a field. -/
theorem ofSearch_searchFor {name : String} (hname : IsFieldName name) (negated : Bool) {values : List String}
    (hvalues : ∀ v ∈ values, Text.IsWord v) :
    ofSearch (searchFor name negated values) = values.map fun v => ⟨name, negated, v⟩ := by
  have hsearch : searchFor name negated values = searchOf (values.map fun v => ⟨name, negated, v⟩) := by
    rw [searchFor, searchOf, List.map_map]
    rfl
  rw [hsearch]
  exact ofSearch_searchOf (List.forall_mem_map.mpr fun v hv => hname.isWritable (hvalues v hv))

/-- A search without a colon has no terms. -/
theorem ofSearch_eq_nil {raw : String} (h : ':' ∉ raw.toList) : ofSearch raw = [] := by
  refine List.filterMap_eq_nil_iff.mpr fun atom hatom => ?_
  rw [parse?, splitColon_eq_none fun hcolon => h ((Text.mem_words hatom).1 hcolon)]
  rfl

end Term

end AuditSearch
