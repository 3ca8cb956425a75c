import AuditSearch.Sql.Parser.Selection

/-! Tokens without queries, which keep no query by its number. -/
namespace AuditSearch.Sql

/-- Membership is only in lists, not in tables, and no name has a qualifier. -/
def isInLists : List Token → Bool
  | [] => true
  | .isIn :: .leftParen :: ts => isInLists ts
  | .isIn :: _ | .dot :: _ => false
  | _ :: ts => isInLists ts

/-- Tokens whose parentheses are closed and stand around no query, up to the end of the statement. -/
structure IsFlat (ts : List Token) : Prop where
  inLists : ∀ us, isInLists us = true → isInLists (ts ++ us) = true
  closed : ∀ level levels queries,
    ts.foldlM Nesting.next? ⟨level :: levels, queries⟩ = some ⟨(ts.reverse ++ level) :: levels, queries⟩
  isOpen : .stop ∉ ts

/-- Whether a token is neither a sign around or inside of names nor the word for membership, and does not end the
statement. -/
def isInner : Token → Bool
  | .leftParen | .rightParen | .dot | .isIn | .stop => false
  | _ => true

namespace IsFlat
variable {ts us : List Token}

theorem nil : IsFlat [] :=
  ⟨fun _ h => h, fun _ _ _ => rfl, by simp⟩

theorem append (h : IsFlat ts) (h' : IsFlat us) : IsFlat (ts ++ us) where
  inLists vs hvs := by
    rw [List.append_assoc]
    exact h.inLists _ (h'.inLists _ hvs)
  closed level levels queries := by simp [List.foldlM_append, h.closed, h'.closed]
  isOpen := by simp [h.isOpen, h'.isOpen]

theorem inner {t : Token} (ht : isInner t) : IsFlat [t] := by
  constructor
  · intro us hus
    cases t <;> simp_all [isInLists, isInner]
  · intro level levels queries
    cases t <;> simp_all [Nesting.next?, isInner]
  · cases t <;> simp_all [isInner]

theorem cons {t : Token} (ht : isInner t) (h : IsFlat ts) : IsFlat (t :: ts) :=
  (inner ht).append h

/-- Parentheses, behind the word for membership or not. -/
theorem enclosed (h : IsFlat ts) (hquery : startsQuery ts = false) :
    IsFlat (.leftParen :: ts ++ [.rightParen]) ∧ IsFlat (.isIn :: .leftParen :: ts ++ [.rightParen]) := by
  have hclosed : ∀ level levels queries,
      (ts ++ [Token.rightParen]).foldlM Nesting.next? ⟨[] :: level :: levels, queries⟩ =
        some ⟨(Token.rightParen :: ts.reverse ++ Token.leftParen :: level) :: levels, queries⟩ := by
    intro level levels queries
    simp [List.foldlM_append, h.closed, Nesting.next?, hquery]
  have hin : ∀ us, isInLists us = true → isInLists (ts ++ .rightParen :: us) = true := fun us hus =>
    h.inLists _ (by simpa [isInLists] using hus)
  constructor
  · refine ⟨fun us hus => by simpa [isInLists] using hin us hus, fun level levels queries => ?_, by simp [h.isOpen]⟩
    simpa [Nesting.next?] using hclosed level levels queries
  · refine ⟨fun us hus => by simpa [isInLists] using hin us hus, fun level levels queries => ?_, by simp [h.isOpen]⟩
    simpa [Nesting.next?] using hclosed (.isIn :: level) levels queries

end IsFlat

theorem withTableQueries_eq {ts : List Token} (h : isInLists ts = true) : ∀ depth, withTableQueries depth [] ts = ts := by
  induction ts using isInLists.induct with
  | case1 => exact fun _ => rfl
  | case2 ts ih =>
    intro depth
    have hdot : ∀ us, ts ≠ .dot :: us := by
      rintro us rfl
      simp [isInLists] at h
    have ih := ih (by simpa [isInLists] using h) (depth + 1)
    simp_all [withTableQueries]
  | case3 ts hne => simp_all [isInLists]
  | case4 ts => simp [isInLists] at h
  | case5 t ts hparen hin hdot ih =>
    intro depth
    have ih := ih (by simpa [isInLists] using h)
    cases t <;> simp_all [withTableQueries]

theorem IsFlat.numberQueries {ts : List Token} (h : IsFlat ts) : numberQueries? ts = some (ts, []) := by
  have hin := h.inLists [] rfl
  rw [List.append_nil] at hin
  simp [numberQueries?, withTableQueries_eq hin, h.closed]

end AuditSearch.Sql
