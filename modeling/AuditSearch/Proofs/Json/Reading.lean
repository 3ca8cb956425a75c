import AuditSearch.Json.Reader
import AuditSearch.Proofs.Json.Scanning

/-!
Reading what was written. The tokens of a value are those that its document is scanned as, and they are read as the
value. So a document of a value with nothing inexact in it is read as that value, in either layout.
-/
namespace AuditSearch.Json

/-- Values that documents keep: no decimal number, which has many written forms, and no text without content. -/
inductive IsExact : Json → Prop
  | null : IsExact null
  | bool (b : Bool) : IsExact (bool b)
  | integer {n : Int} (h : isWord n = true) : IsExact (integer n)
  | text (s : String) : IsExact (text (some s))
  | array {js : List Json} (h : ∀ j ∈ js, IsExact j) : IsExact (array js)
  | object {ms : List (Option String × Json)} (hkeys : ∀ m ∈ ms, m.1.isSome = true) (h : ∀ m ∈ ms, IsExact m.2) :
    IsExact (object ms)

mutual

/-- The tokens of a value. Those of further items and members are each behind a comma. -/
def tokens : Json → List Token
  | .null => [.null]
  | .bool b => [.bool b]
  | .integer n => [.integer n]
  | .decimal s => [.decimal s]
  | .text s => [.text s]
  | .array [] => [.openArray, .closeArray]
  | .array (j :: js) => .openArray :: tokens j ++ tokensOfItems js ++ [.closeArray]
  | .object [] => [.openObject, .closeObject]
  | .object ((key, j) :: ms) =>
    .openObject :: .text key :: .colon :: tokens j ++ tokensOfMembers ms ++ [.closeObject]

def tokensOfItems : List Json → List Token
  | [] => []
  | j :: js => .comma :: tokens j ++ tokensOfItems js

def tokensOfMembers : List (Option String × Json) → List Token
  | [] => []
  | (key, j) :: ms => .comma :: .text key :: .colon :: tokens j ++ tokensOfMembers ms

end

/-! ### Documents are scanned as tokens -/

section
variable {layout : Layout} {rest : List Char} {us : List Token}

theorem endsNumber_cons {c : Char} (h : Text.isDigit c = false ∧ c ≠ '.' ∧ c ≠ 'e' ∧ c ≠ 'E') (cs : List Char) :
    EndsNumber (c :: cs) := by
  intro d hd
  obtain rfl : c = d := Option.some.inj hd
  exact h

theorem endsNumber_lineBreak (layout : Layout) (level : Nat) (h : EndsNumber rest) :
    EndsNumber (lineBreak layout level ++ rest) := by
  cases layout with
  | compact => exact h
  | indented => exact endsNumber_cons (by decide) _

theorem endsNumber_items (layout : Layout) (level : Nat) (js : List Json) (h : EndsNumber rest) :
    EndsNumber (writeItems layout level js ++ rest) := by
  cases js with
  | nil => simpa [writeItems] using h
  | cons j js =>
    rw [writeItems]
    exact endsNumber_cons (by decide) _

theorem endsNumber_members (layout : Layout) (level : Nat) (ms : List (Option String × Json)) (h : EndsNumber rest) :
    EndsNumber (writeMembers layout level ms ++ rest) := by
  cases ms with
  | nil => simpa [writeMembers] using h
  | cons m ms =>
    rw [writeMembers]
    exact endsNumber_cons (by decide) _

theorem Scans.keyEnd (h : Scans rest us) (layout : Layout) : Scans (Json.keyEnd layout ++ rest) (.colon :: us) := by
  cases layout with
  | compact => exact h.mark rfl fun _ => rfl
  | indented => exact (h.space rfl).mark rfl fun _ => rfl

/-- A value is scanned as its tokens at any level, in front of anything that ends a number. -/
def IsScanned (layout : Layout) (j : Json) : Prop :=
  ∀ level rest us, EndsNumber rest → Scans rest us → Scans (write layout level j ++ rest) (j.tokens ++ us)

theorem scans_items {js : List Json} (hjs : ∀ j ∈ js, IsScanned layout j) (level : Nat) (hrest : EndsNumber rest)
    (h : Scans rest us) : Scans (writeItems layout level js ++ rest) (tokensOfItems js ++ us) := by
  induction js with
  | nil => simpa [writeItems, tokensOfItems] using h
  | cons j js ih =>
    obtain ⟨hj, hjs⟩ := List.forall_mem_cons.mp hjs
    have hitem := hj level _ _ (endsNumber_items layout level js hrest) (ih hjs)
    simpa [writeItems, tokensOfItems] using (hitem.lineBreak layout level).mark rfl fun _ => rfl

theorem scans_members {ms : List (Option String × Json)} (hkeys : ∀ m ∈ ms, m.1.isSome = true)
    (hms : ∀ m ∈ ms, IsScanned layout m.2) (level : Nat) (hrest : EndsNumber rest) (h : Scans rest us) :
    Scans (writeMembers layout level ms ++ rest) (tokensOfMembers ms ++ us) := by
  induction ms with
  | nil => simpa [writeMembers, tokensOfMembers] using h
  | cons m ms ih =>
    obtain ⟨_, j⟩ := m
    obtain ⟨hsome, hothers⟩ := List.forall_mem_cons.mp hkeys
    obtain ⟨hj, htail⟩ := List.forall_mem_cons.mp hms
    obtain ⟨key, rfl⟩ := Option.isSome_iff_exists.mp hsome
    have hvalue := hj level _ _ (endsNumber_members layout level ms hrest) (ih hothers htail)
    have hmember := (hvalue.keyEnd layout).text key
    simpa [writeMembers, tokensOfMembers] using (hmember.lineBreak layout level).mark rfl fun _ => rfl

theorem IsExact.isScanned {j : Json} (h : j.IsExact) (layout : Layout) : IsScanned layout j := by
  induction h with
  | null =>
    intro level rest us _ h
    exact h.token rfl rfl
  | bool b =>
    intro level rest us _ h
    cases b <;> exact h.token rfl rfl
  | integer hword =>
    intro level rest us hrest h
    simpa [write, tokens] using h.integer hrest hword
  | text s =>
    intro level rest us _ h
    simpa [write, tokens] using h.text s
  | @array js _ ih =>
    intro level rest us _ h
    have hclose := h.mark (c := ']') rfl fun _ => rfl
    cases js with
    | nil => exact hclose.mark rfl fun _ => rfl
    | cons j js =>
      -- Each piece is scanned in front of those behind it, so the steps go from the end of the array to its start.
      obtain ⟨hj, hjs⟩ := List.forall_mem_cons.mp ih
      have hbehind := endsNumber_lineBreak layout level (endsNumber_cons (c := ']') (by decide) rest)
      have hitems := scans_items hjs (level + 1) hbehind (hclose.lineBreak layout level)
      have hfirst := hj (level + 1) _ _ (endsNumber_items layout (level + 1) js hbehind) hitems
      simpa [write, tokens] using (hfirst.lineBreak layout (level + 1)).mark rfl fun _ => rfl
  | @object ms hkeys _ ih =>
    intro level rest us _ h
    have hclose := h.mark (c := '}') rfl fun _ => rfl
    cases ms with
    | nil => exact hclose.mark rfl fun _ => rfl
    | cons m ms =>
      obtain ⟨_, j⟩ := m
      obtain ⟨hsome, hothers⟩ := List.forall_mem_cons.mp hkeys
      obtain ⟨hj, hms⟩ := List.forall_mem_cons.mp ih
      obtain ⟨key, rfl⟩ := Option.isSome_iff_exists.mp hsome
      have hbehind := endsNumber_lineBreak layout level (endsNumber_cons (c := '}') (by decide) rest)
      have hmembers := scans_members hothers hms (level + 1) hbehind (hclose.lineBreak layout level)
      have hvalue := hj (level + 1) _ _ (endsNumber_members layout (level + 1) ms hbehind) hmembers
      have hfirst := (hvalue.keyEnd layout).text key
      simpa [write, tokens] using (hfirst.lineBreak layout (level + 1)).mark rfl fun _ => rfl

theorem IsExact.tokens_print {j : Json} (h : j.IsExact) (layout : Layout) : tokens? (print layout j) = some j.tokens := by
  have hscans := h.isScanned layout 0 [] [] (fun c hc => by cases hc) scans_nil
  rw [List.append_nil, List.append_nil] at hscans
  rw [tokens?, print, String.toList_ofList]
  exact hscans _ (Nat.le_refl _)

end

/-! ### Tokens are read as the value -/

/-- Tokens lead from what may come next to what may come behind them. -/
def Leads (a : Awaiting) (ts : List Token) (b : Awaiting) : Prop :=
  ts.foldlM take? a = some b

section
variable {a b c : Awaiting} {t : Token} {ts us : List Token} {stack : List Frame}

theorem Leads.cons (ht : take? a t = some b) (h : Leads b ts c) : Leads a (t :: ts) c := by
  unfold Leads
  rwa [List.foldlM_cons, ht]

theorem Leads.append (h : Leads a ts b) (h' : Leads b us c) : Leads a (ts ++ us) c := by
  unfold Leads at h ⊢
  rwa [List.foldlM_append, h]

theorem leads_single (ht : take? a t = some b) : Leads a [t] b :=
  .cons ht rfl

/-- The first item of an array is read like any other value: none of them starts with the end of an array. -/
theorem Leads.firstItem (h : Leads (.value (.array [] :: stack)) ts a) (hts : ts ≠ []) :
    Leads (.firstItem stack) ts a := by
  have htake {t : Token} {b : Awaiting} (ht : takeValue? (.array [] :: stack) t = some b) :
      take? (.firstItem stack) t = some b := by
    cases t <;> first | exact ht | cases ht
  cases ts with
  | nil => exact absurd rfl hts
  | cons t ts =>
    unfold Leads at h
    rw [List.foldlM_cons, Option.bind_eq_bind, Option.bind_eq_some_iff] at h
    obtain ⟨b, hb, h⟩ := h
    exact .cons (htake hb) h

end

theorem tokens_ne_nil (j : Json) : j.tokens ≠ [] := by
  cases j with
  | array js => cases js <;> simp [tokens]
  | object ms => cases ms <;> simp [tokens]
  | _ => simp [tokens]

mutual

theorem leads_tokens : ∀ (j : Json) (stack : List Frame), Leads (.value stack) j.tokens (deliver j stack)
  | .null, stack => rfl
  | .bool b, stack => rfl
  | .integer n, stack => rfl
  | .decimal s, stack => rfl
  | .text s, stack => rfl
  | .array [], stack => rfl
  | .array (j :: js), stack => by
    have hfirst := (leads_tokens j (.array [] :: stack)).firstItem (tokens_ne_nil j)
    have hend : take? (.nextItem (js.reverse ++ [j]) stack) .closeArray = some (deliver (.array (j :: js)) stack) := by
      simp [take?]
    exact .cons rfl ((hfirst.append (leads_items js [j] stack)).append (leads_single hend))
  | .object [], stack => rfl
  | .object ((key, j) :: ms), stack => by
    have hend : take? (.nextMember (ms.reverse ++ [(key, j)]) stack) .closeObject =
        some (deliver (.object ((key, j) :: ms)) stack) := by
      simp [take?]
    exact .cons rfl (.cons rfl (.cons rfl (((leads_tokens j (.object [] key :: stack)).append
      (leads_members ms [(key, j)] stack)).append (leads_single hend))))

theorem leads_items : ∀ (js done : List Json) (stack : List Frame),
    Leads (.nextItem done stack) (tokensOfItems js) (.nextItem (js.reverse ++ done) stack)
  | [], done, stack => rfl
  | j :: js, done, stack => by
    rw [List.reverse_cons, List.append_assoc]
    exact .cons rfl ((leads_tokens j (.array done :: stack)).append (leads_items js (j :: done) stack))

theorem leads_members : ∀ (ms done : List (Option String × Json)) (stack : List Frame),
    Leads (.nextMember done stack) (tokensOfMembers ms) (.nextMember (ms.reverse ++ done) stack)
  | [], done, stack => rfl
  | (key, j) :: ms, done, stack => by
    rw [List.reverse_cons, List.append_assoc]
    exact .cons rfl (.cons rfl (.cons rfl ((leads_tokens j (.object done key :: stack)).append
      (leads_members ms ((key, j) :: done) stack))))

end

/-- The document of a value with nothing inexact in it is read as that value. -/
theorem IsExact.parse_print {j : Json} (h : j.IsExact) (layout : Layout) : parse? (print layout j) = some j := by
  have hleads : j.tokens.foldlM take? (.value []) = some (.nothing j) := leads_tokens j []
  rw [parse?, h.tokens_print]
  simp [hleads, Awaiting.document?]

end AuditSearch.Json
