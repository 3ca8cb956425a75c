import AuditSearch.Json.Records
import AuditSearch.Proofs.Dictionary
import AuditSearch.Proofs.Json.Reading

/-!
Codings that documents keep. A value of any type that is kept is decoded from its document as it was: integers, texts,
lists, dictionaries and values that may be missing, and the records that are made of them, from the members that they
are written with.
-/
namespace AuditSearch

open Json

/-- A type whose values are decoded as they were, and coded without anything that a document does not keep. -/
class IsKept (α : Type) [Codec α] : Prop where
  decode_encode (a : α) : decode? (encode a) = some a
  isExact (a : α) : (encode a).IsExact

/-- A type none of whose values is coded as null, which stands for a missing value. -/
class IsNeverNull (α : Type) [Codec α] : Prop where
  encode_ne_null (a : α) : encode a ≠ null

section
variable {α : Type} [Codec α]

@[simp]
theorem decode_encode [IsKept α] (a : α) : decode? (encode a) = some a :=
  IsKept.decode_encode a

theorem isExact_encode [IsKept α] (a : α) : (encode a).IsExact :=
  IsKept.isExact a

end

/-! ### Integers and texts -/

theorem isExact_integer {n : Int} (hmin : -0x8000000000000000 ≤ n) (hmax : n < 0x10000000000000000) :
    (integer n).IsExact := by
  have hleast : Int64.minValue.toInt = -0x8000000000000000 := by decide
  have hsize : (UInt64.size : Int) = 0x10000000000000000 := by decide
  refine .integer ?_
  rw [isWord, hleast, hsize, decide_eq_true hmin, decide_eq_true hmax, Bool.and_self]

instance : IsKept Int64 where
  decode_encode n := by
    have hrange : integerIn? Int64.minValue.toInt Int64.maxValue.toInt (integer n.toInt) = some n.toInt :=
      if_pos ⟨n.minValue_le_toInt, n.toInt_le⟩
    exact (congrArg (Option.map Int64.ofInt) hrange).trans (congrArg some (Int64.ofInt_toInt n))
  isExact n := by
    have hmin := n.le_toInt
    have hmax := n.toInt_lt
    exact isExact_integer (by omega) (by omega)

instance : IsKept Int32 where
  decode_encode n := by
    have hrange : integerIn? Int32.minValue.toInt Int32.maxValue.toInt (integer n.toInt) = some n.toInt :=
      if_pos ⟨n.minValue_le_toInt, n.toInt_le⟩
    exact (congrArg (Option.map Int32.ofInt) hrange).trans (congrArg some (Int32.ofInt_toInt n))
  isExact n := by
    have hmin := n.le_toInt
    have hmax := n.toInt_lt
    exact isExact_integer (by omega) (by omega)

instance : IsKept UInt32 where
  decode_encode n := by
    have hmax := n.toNat_lt
    have hrange : integerIn? 0 (UInt32.size - 1 : Nat) (integer n.toNat) = some (n.toNat : Int) := by
      refine if_pos ⟨by omega, ?_⟩
      simp only [UInt32.size]
      omega
    exact (congrArg (Option.map fun k => UInt32.ofNat k.toNat) hrange).trans (congrArg some UInt32.ofNat_toNat)
  isExact n := by
    have hmax := n.toNat_lt
    exact isExact_integer (by omega) (by omega)

instance : IsKept Bool where
  decode_encode _ := rfl
  isExact b := .bool b

instance : IsKept String where
  decode_encode _ := rfl
  isExact s := .text s

instance : IsNeverNull Int64 := ⟨fun _ h => by cases h⟩

instance : IsNeverNull Int32 := ⟨fun _ h => by cases h⟩

instance : IsNeverNull Bool := ⟨fun _ h => by cases h⟩

instance : IsNeverNull String := ⟨fun _ h => by cases h⟩

/-! ### Containers -/

theorem mapM_eq_some {α β γ : Type} {f : β → Option γ} {g : α → β} {h : α → γ} (as : List α)
    (hf : ∀ a ∈ as, f (g a) = some (h a)) : (as.map g).mapM f = some (as.map h) := by
  induction as with
  | nil => rfl
  | cons a as ih =>
    obtain ⟨ha, has⟩ := List.forall_mem_cons.mp hf
    simp [ha, ih has]

theorem decode_option {α : Type} [Codec α] {j : Json} (h : j ≠ null) :
    (decode? j : Option (Option α)) = (decode? j : Option α).map some := by
  cases j with
  | null => exact absurd rfl h
  | _ => rfl

section
variable {α : Type} [Codec α] [IsKept α]

instance [IsNeverNull α] : IsKept (Option α) where
  decode_encode
    | none => rfl
    | some a => (decode_option (IsNeverNull.encode_ne_null a)).trans (congrArg (Option.map some) (decode_encode a))
  isExact
    | none => .null
    | some a => isExact_encode a

instance : IsKept (List α) where
  decode_encode as := by
    have hitems := mapM_eq_some (f := decode?) (g := encode) (h := id) as fun a _ => decode_encode a
    rwa [List.map_id] at hitems
  isExact as := .array (List.forall_mem_map.mpr fun a _ => isExact_encode a)

instance : IsKept (Dictionary α) where
  decode_encode d := by
    have hentries : (d.entries.map fun e => member e.1 (encode e.2)).mapM decodeEntry? = some (d.entries.map id) :=
      mapM_eq_some d.entries fun e _ => by simp [ decodeEntry?, member]
    rw [List.map_id] at hentries
    exact (congrArg (Option.map Dictionary.ofList) hentries).trans (congrArg some d.ofList_entries)
  isExact d := .object (List.forall_mem_map.mpr fun e _ => rfl) (List.forall_mem_map.mpr fun e _ => isExact_encode e.2)

end

/-! ### Names -/

instance : IsKept Treatment where
  decode_encode t := by cases t <;> rfl
  isExact t := .text t.name

instance : IsKept ColumnType where
  decode_encode t := by cases t <;> rfl
  isExact t := .text t.name

instance : IsKept Attribute where
  decode_encode a := by cases a <;> rfl
  isExact a := .text a.name

instance : IsNeverNull Treatment := ⟨fun _ h => by cases h⟩

instance : IsKept Literal where
  decode_encode
    | .integer n => congrArg (Option.map Literal.integer) (decode_encode n)
    | .text _ => rfl
  isExact
    | .integer n => isExact_encode n
    | .text s => .text s

/-! ### Records -/

/-- The members of a record: those of its values that are there. -/
def presentMembers (fields : List (String × Option Json)) : List (Option String × Json) :=
  fields.filterMap fun f => f.2.map (member f.1)

theorem presentMembers_cons (field : String × Option Json) (fields : List (String × Option Json)) :
    presentMembers (field :: fields) = (field.2.map (member field.1)).toList ++ presentMembers fields := by
  obtain ⟨key, value⟩ := field
  cases value <;> rfl

theorem mem_presentMembers {fields : List (String × Option Json)} {m : Option String × Json} :
    m ∈ presentMembers fields ↔ ∃ key j, (key, some j) ∈ fields ∧ member key j = m := by
  simp [presentMembers]

theorem filter_presentMembers {fields : List (String × Option Json)} (hkeys : (fields.map Prod.fst).Nodup)
    {field : String × Option Json} (h : field ∈ fields) :
    (presentMembers fields).filter (fun m => m.1 == some field.1) = (field.2.map (member field.1)).toList := by
  induction fields with
  | nil => cases h
  | cons first fields ih =>
    obtain ⟨hfirst, hothers⟩ := List.nodup_cons.mp hkeys
    rw [presentMembers_cons, List.filter_append]
    rcases List.mem_cons.mp h with rfl | h
    · have hnone : (presentMembers fields).filter (fun m => m.1 == some field.1) = [] := by
        rw [List.filter_eq_nil_iff]
        intro m hm heq
        obtain ⟨key, j, hmem, rfl⟩ := mem_presentMembers.mp hm
        exact hfirst (List.mem_map.mpr ⟨_, hmem, Option.some.inj (beq_iff_eq.mp heq)⟩)
      rw [hnone, List.append_nil]
      cases field.2 <;> simp [member]
    · have hne : first.1 ≠ field.1 := fun heq => hfirst (heq ▸ List.mem_map_of_mem h)
      have hnone : (first.2.map (member first.1)).toList.filter (fun m => m.1 == some field.1) = [] := by
        cases first.2 <;> simp [member, hne]
      rw [hnone, List.nil_append, ih hothers h]

theorem memberOnce_presentMembers {fields : List (String × Option Json)} (hkeys : (fields.map Prod.fst).Nodup)
    {field : String × Option Json} (h : field ∈ fields) : memberOnce? (presentMembers fields) field.1 = some field.2 := by
  rw [memberOnce?, filter_presentMembers hkeys h]
  cases field.2 <;> rfl

/-- A record with distinct names is read from its members as the values that they were written for. -/
theorem record_presentMembers {names : List String} (hnames : names.Nodup) {values : List (Option Json)}
    (hlength : names.length = values.length) (optional : Nat) :
    record? names optional (object (presentMembers (names.zip values))) = some values := by
  have hfirst : (names.zip values).map Prod.fst = names := List.map_fst_zip (Nat.le_of_eq hlength)
  have hsecond : (names.zip values).map Prod.snd = values := List.map_snd_zip (Nat.le_of_eq hlength.symm)
  have hnamed : (presentMembers (names.zip values)).all (fun m => m.1.isSome) = true := by
    rw [List.all_eq_true]
    intro m hm
    obtain ⟨key, j, -, rfl⟩ := mem_presentMembers.mp hm
    rfl
  have hread := mapM_eq_some (f := memberOnce? (presentMembers (names.zip values))) (h := Prod.snd) (names.zip values)
    fun field hfield => memberOnce_presentMembers (by rwa [hfirst]) hfield
  rw [hfirst, hsecond] at hread
  rw [record?, if_pos hnamed, hread]

theorem isExact_presentMembers (names : List String) {values : List (Option Json)}
    (h : ∀ value ∈ values, ∀ j ∈ value, j.IsExact) : (object (presentMembers (names.zip values))).IsExact := by
  refine .object (fun m hm => ?_) (fun m hm => ?_) <;> obtain ⟨key, j, hmem, rfl⟩ := mem_presentMembers.mp hm
  · rfl
  · exact h (some j) (List.of_mem_zip hmem).2 j rfl

/-- A record is kept if it is written as its members that are there, and what is read of these is the record. -/
theorem isKept_record {α : Type} [Codec α] (names : List String) (values : α → List (Option Json)) {optional : Nat}
    {read : List (Option Json) → Option α} (hnames : names.Nodup)
    (hencode : ∀ a, encode a = object (presentMembers (names.zip (values a))))
    (hdecode : ∀ j, decode? j = (record? names optional j).bind read)
    (hlength : ∀ a, names.length = (values a).length) (hread : ∀ a, read (values a) = some a)
    (hexact : ∀ a, ∀ value ∈ values a, ∀ j ∈ value, j.IsExact) : IsKept α where
  decode_encode a := by
    rw [hdecode, hencode, record_presentMembers hnames (hlength a), Option.bind_some, hread]
  isExact a := by
    rw [hencode]
    exact isExact_presentMembers names (hexact a)

theorem optional_map_encode {α : Type} [Codec α] [IsKept α] [IsNeverNull α] (o : Option α) :
    optional? (o.map encode) = some o := by
  cases o with
  | none => rfl
  | some a => exact decode_encode (some a)

theorem isExact_of_mem_map {α : Type} [Codec α] [IsKept α] {o : Option α} {j : Json} (h : j ∈ o.map encode) :
    j.IsExact := by
  obtain ⟨a, -, rfl⟩ := Option.map_eq_some_iff.mp h
  exact isExact_encode a

instance : IsKept Policy :=
  isKept_record ["unknownFields", "invalidValues"] (fun p => [some (encode p.unknownFields), some (encode p.invalidValues)])
    (by decide) (fun _ => rfl) (fun _ => rfl) (fun _ => rfl) (fun _ => by simp [required?]) fun _ => by simp [isExact_encode]

instance : IsKept Filter :=
  isKept_record ["clause", "params"] (fun f => [some (encode f.clause), some (encode f.params)])
    (by decide) (fun _ => rfl) (fun _ => rfl) (fun _ => rfl) (fun _ => by simp [required?]) fun _ => by simp [isExact_encode]

instance : IsKept Identity :=
  isKept_record ["id", "login", "first_name", "last_name", "email", "roles"]
    (fun i => [some (encode i.id), some (encode i.login), some (encode i.firstName), some (encode i.lastName),
      some (encode i.email), some (encode i.roles)])
    (by decide) (fun _ => rfl) (fun _ => rfl) (fun _ => rfl) (fun _ => by simp [required?]) fun _ => by simp [isExact_encode]

instance : IsKept Event :=
  isKept_record Event.memberNames (fun e => e.memberValues.map some) (by decide) (fun _ => rfl) (fun _ => rfl)
    (fun _ => rfl) (fun _ => by simp [Event.memberValues, required?, optional?, defaulted?])
    fun _ => by simp [Event.memberValues, isExact_encode]

instance : IsKept Settings :=
  isKept_record ["version", "utcOffsetMinutes", "unknownFields", "invalidValues", "federatedIdentities"]
    (fun s => [some (encode s.version), s.offsetMinutes.map encode, s.unknownFields.map encode,
      s.invalidValues.map encode, s.federated.map encode])
    (by decide)
    (fun s => by
      obtain ⟨version, offset, unknown, invalid, federated⟩ := s
      cases offset <;> cases unknown <;> cases invalid <;> cases federated <;> rfl)
    (fun _ => rfl) (fun _ => rfl) (fun _ => by simp [defaulted?, optional_map_encode]) fun s value hvalue j hj => by
      simp only [List.mem_cons, List.not_mem_nil, or_false] at hvalue
      obtain rfl | rfl | rfl | rfl | rfl := hvalue
      · exact Option.some.inj hj ▸ isExact_encode s.version
      all_goals exact isExact_of_mem_map hj

end AuditSearch
