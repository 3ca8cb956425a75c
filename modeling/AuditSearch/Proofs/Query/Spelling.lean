import AuditSearch.Proofs.Query.Term

/-!
Searches as they are spelled: atoms, some of which are terms, with blanks in front of them, between them and behind
them. Every search is spelled in this way, and the terms that are read of it are those among its atoms, in their order.
-/
namespace AuditSearch

namespace Text

/-- Nothing but blanks, if anything at all. -/
def IsGap (s : String) : Prop :=
  ∀ c ∈ s.toList, isBlank c

instance (s : String) : Decidable (IsGap s) :=
  List.decidableBAll (fun c => isBlank c) s.toList

theorem words_blanks {cs : List Char} (h : ∀ c ∈ cs, isBlank c) (ds : List Char) :
    words (String.ofList (cs ++ ds)) = words (String.ofList ds) := by
  induction cs with
  | nil => rfl
  | cons c cs ih =>
    obtain ⟨hc, hcs⟩ := List.forall_mem_cons.mp h
    have hbreak := words_break hc [] (cs ++ ds)
    rw [List.nil_append] at hbreak
    rw [List.cons_append, hbreak, ih hcs]
    rfl

theorem words_gap {gap : String} (h : IsGap gap) (s : String) : words (gap ++ s) = words s := by
  simpa using words_blanks h s.toList

/-- A word is the first one of a text if blanks, or nothing, stand behind it. -/
theorem words_word {w gap s : String} (hw : IsWord w) (hgap : IsGap gap) (hapart : gap = "" → s = "") :
    words (w ++ gap ++ s) = w :: words s := by
  cases hcs : gap.toList with
  | nil =>
    obtain rfl := String.toList_eq_nil_iff.mp hcs
    obtain rfl := hapart rfl
    rw [String.append_empty, String.append_empty, words_of_isWord hw]
    rfl
  | cons c cs =>
    rw [IsGap, hcs, List.forall_mem_cons] at hgap
    have hlist : w ++ gap ++ s = String.ofList (w.toList ++ c :: (cs ++ s.toList)) := by simp [← String.toList_inj, hcs]
    rw [hlist, words_break hgap.1, words_blanks hgap.2, String.ofList_toList, String.ofList_toList, words_of_isWord hw,
      List.singleton_append]

end Text

/-- A part of a search between blanks: a term, or something that is none. -/
inductive Atom where
  | term (t : Term)
  | idle (text : String)
  deriving DecidableEq, Repr

namespace Atom

def text : Atom → String
  | term t => t.text
  | idle text => text

def term? : Atom → Option Term
  | term t => some t
  | idle _ => none

/-- An idle atom is a word without a colon, or with nothing behind its first colon. -/
def IsWritable : Atom → Prop
  | term t => t.IsWritable
  | idle text => Text.IsWord text ∧ ':' ∉ text.toList.dropLast

instance (a : Atom) : Decidable a.IsWritable :=
  match a with
  | term t => inferInstanceAs (Decidable t.IsWritable)
  | idle _ => inferInstanceAs (Decidable (_ ∧ _))

theorem IsWritable.isWord {a : Atom} (h : a.IsWritable) : Text.IsWord a.text := by
  cases a with
  | term t => exact Term.isWord_of_isWritable h
  | idle text => exact h.1

theorem IsWritable.parse_text {a : Atom} (h : a.IsWritable) : Term.parse? a.text = a.term? := by
  cases a with
  | term t => exact (Term.parse_eq_some_iff (Term.isWord_of_isWritable h)).mpr ⟨h, rfl⟩
  | idle text => exact (Term.parse_eq_none_iff h.1).mpr h.2

/-- Every word is an atom. -/
theorem exists_text {w : String} (hw : Text.IsWord w) : ∃ a : Atom, a.IsWritable ∧ a.text = w := by
  cases hparse : Term.parse? w with
  | some t => exact ⟨term t, (Term.parse_eq_some_iff hw).mp hparse⟩
  | none => exact ⟨idle w, ⟨hw, (Term.parse_eq_none_iff hw).mp hparse⟩, rfl⟩

end Atom

/-- A search with its blanks: those in front of all atoms, and those behind each atom. Any two atoms are apart. -/
structure Spelling where
  lead : String
  atoms : List (Atom × String)
  isGap_lead : Text.IsGap lead
  isGap : ∀ a ∈ atoms, Text.IsGap a.2
  isWritable : ∀ a ∈ atoms, a.1.IsWritable
  apart : ∀ a ∈ atoms.dropLast, a.2 ≠ ""

namespace Spelling

def spellAtoms : List (Atom × String) → String
  | [] => ""
  | (a, gap) :: atoms => a.text ++ gap ++ spellAtoms atoms

/-- The search that is spelled. -/
def search (s : Spelling) : String :=
  s.lead ++ spellAtoms s.atoms

/-- The terms among the atoms. -/
def terms (s : Spelling) : List Term :=
  s.atoms.filterMap fun a => a.1.term?

theorem words_spellAtoms {atoms : List (Atom × String)} (hgap : ∀ a ∈ atoms, Text.IsGap a.2)
    (hwritable : ∀ a ∈ atoms, a.1.IsWritable) (hapart : ∀ a ∈ atoms.dropLast, a.2 ≠ "") :
    Text.words (spellAtoms atoms) = atoms.map fun a => a.1.text := by
  induction atoms with
  | nil => rfl
  | cons a atoms ih =>
    obtain ⟨hgap, hgaps⟩ := List.forall_mem_cons.mp hgap
    obtain ⟨hwritable, hwritables⟩ := List.forall_mem_cons.mp hwritable
    have hmore : ∀ b ∈ atoms.dropLast, b.2 ≠ "" := by
      cases atoms with
      | nil => simp
      | cons b atoms => exact (List.forall_mem_cons.mp hapart).2
    have hlast : a.2 = "" → spellAtoms atoms = "" := by
      intro hnone
      cases atoms with
      | nil => rfl
      | cons b atoms => exact absurd hnone ((List.forall_mem_cons.mp hapart).1)
    rw [spellAtoms, Text.words_word hwritable.isWord hgap hlast, ih hgaps hwritables hmore, List.map_cons]

/-- A blank in front of a search belongs to its lead. -/
theorem exists_cons_blank (s : Spelling) {c : Char} (hc : Text.isBlank c) :
    ∃ s' : Spelling, s'.search = String.singleton c ++ s.search := by
  have hlead : Text.IsGap (String.singleton c ++ s.lead) := by
    simpa [Text.IsGap] using ⟨hc, s.isGap_lead⟩
  refine ⟨{ s with lead := String.singleton c ++ s.lead, isGap_lead := hlead }, ?_⟩
  rw [search, search, String.append_assoc]

/-- Any other character in front of a search belongs to its first atom, or is an atom if blanks follow. -/
theorem exists_cons_letter (s : Spelling) {c : Char} (hc : Text.isBlank c = false) :
    ∃ s' : Spelling, s'.search = String.singleton c ++ s.search := by
  obtain ⟨lead, atoms, hlead, hgap, hwritable, hapart⟩ := s
  have hletter {w : String} (hw : ∀ d ∈ w.toList, Text.isBlank d = false) : Text.IsWord (String.singleton c ++ w) :=
    ⟨by simp [← String.toList_inj], by simpa using ⟨hc, hw⟩⟩
  by_cases hfirst : lead ≠ "" ∨ atoms = []
  · obtain ⟨a, ha, htext⟩ := Atom.exists_text (hletter (w := "") (by simp))
    have hmore : ∀ b ∈ ((a, lead) :: atoms).dropLast, b.2 ≠ "" := by
      cases atoms with
      | nil => simp
      | cons b atoms => exact List.forall_mem_cons.mpr ⟨by simpa using hfirst, hapart⟩
    refine ⟨⟨"", (a, lead) :: atoms, by decide, List.forall_mem_cons.mpr ⟨hlead, hgap⟩,
      List.forall_mem_cons.mpr ⟨ha, hwritable⟩, hmore⟩, ?_⟩
    simp [search, spellAtoms, htext, String.append_assoc]
  · obtain ⟨rfl, hne⟩ := not_or.mp hfirst |>.imp_left not_not.mp
    obtain ⟨⟨a, gap⟩, atoms, rfl⟩ := List.exists_cons_of_ne_nil hne
    obtain ⟨hfirst, hwritable⟩ := List.forall_mem_cons.mp hwritable
    obtain ⟨b, hb, htext⟩ := Atom.exists_text (hletter hfirst.isWord.2)
    have hmore : ∀ d ∈ ((b, gap) :: atoms).dropLast, d.2 ≠ "" := by
      cases atoms with
      | nil => simp
      | cons d atoms => exact List.forall_mem_cons.mpr (List.forall_mem_cons.mp hapart)
    refine ⟨⟨"", (b, gap) :: atoms, hlead, List.forall_mem_cons.mpr (List.forall_mem_cons.mp hgap),
      List.forall_mem_cons.mpr ⟨hb, hwritable⟩, hmore⟩, ?_⟩
    simp [search, spellAtoms, htext, String.append_assoc]

/-- Every search is spelled in some way. -/
theorem exists_search (raw : String) : ∃ s : Spelling, s.search = raw := by
  have hlist : ∀ cs : List Char, ∃ s : Spelling, s.search = String.ofList cs := by
    intro cs
    induction cs with
    | nil => exact ⟨⟨"", [], by decide, by simp, by simp, by simp⟩, rfl⟩
    | cons c cs ih =>
      obtain ⟨s, hs⟩ := ih
      rw [String.ofList_cons, ← hs]
      cases hc : Text.isBlank c with
      | true => exact s.exists_cons_blank hc
      | false => exact s.exists_cons_letter hc
  simpa using hlist raw.toList

end Spelling

namespace Term

/-- The terms that are read of searches are all lists of terms that can be written. A search is read as the terms that
are spelled in it, whatever blanks and idle atoms stand between them; and every search is spelled in some way. -/
theorem ofSearch_spelling :
    (∀ terms, (∃ raw, ofSearch raw = terms) ↔ ∀ t ∈ terms, t.IsWritable) ∧
    (∀ s : Spelling, ofSearch s.search = s.terms) ∧ ∀ raw, ∃ s : Spelling, s.search = raw := by
  refine ⟨fun terms => ⟨?_, fun h => ⟨searchOf terms, ofSearch_searchOf h⟩⟩, fun s => ?_, Spelling.exists_search⟩
  · rintro ⟨raw, rfl⟩ t ht
    obtain ⟨w, hw, hparse⟩ := List.mem_filterMap.mp ht
    exact ((parse_eq_some_iff (Text.mem_words hw).2).mp hparse).1
  · have hread : ∀ a ∈ s.atoms, (parse? ∘ fun a => a.1.text) a = a.1.term? := fun a ha => (s.isWritable a ha).parse_text
    rw [ofSearch, Spelling.search, Text.words_gap s.isGap_lead, Spelling.words_spellAtoms s.isGap s.isWritable s.apart,
      List.filterMap_map, List.filterMap_congr hread, Spelling.terms]

/-- A search with blanks of many kinds, with idle atoms, and with colons and dashes in fields and values. -/
def scattered : Spelling :=
  ⟨"\t", [(.term ⟨"-object", true, "post"⟩, "\u3000 "), (.idle "hello", " "), (.idle "object:", "\n"),
    (.term ⟨"", false, "::1"⟩, "")], by decide, by decide, by decide, by decide⟩

theorem ofSearch_spelling_scattered :
    scattered.search = "\t--object:post\u3000 hello object:\n:::1" ∧
    ofSearch "\t--object:post\u3000 hello object:\n:::1" = [⟨"-object", true, "post"⟩, ⟨"", false, "::1"⟩] ∧
    ∀ t ∈ ofSearch "\t--object:post\u3000 hello object:\n:::1", t.IsWritable := by
  have hsearch : scattered.search = "\t--object:post\u3000 hello object:\n:::1" := by decide
  obtain ⟨hwritable, hterms, -⟩ := ofSearch_spelling
  exact ⟨hsearch, hsearch ▸ hterms scattered, (hwritable _).mp ⟨_, rfl⟩⟩

end Term

end AuditSearch
