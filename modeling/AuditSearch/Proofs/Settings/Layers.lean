import AuditSearch.Proofs.Settings.Saving
import Mathlib

/-!
Layers of settings. Each setting is that of the last layer that sets it, whatever the other layers set. The first file
that cannot be read ends the reading, and only the offset that comes out of it is checked.
-/
namespace AuditSearch

namespace Folder

variable {f : Folder}

/-- What a folder says about settings: nothing if there is no file of them, and otherwise what the file holds, or why this
is not known. -/
inductive Says (f : Folder) : Except Failure (Option Settings) → Prop
  | missing (hthere : f.isThere Settings.fileName = false) : Says f (.ok none)
  | unreadable {text : String} (hthere : f.isThere Settings.fileName)
    (hread : f.read Settings.fileName = .error (.io text)) : Says f (.error (.io text))
  | malformed {content : String} (hread : f.read Settings.fileName = .ok content)
    (hdecode : (Json.parse? content).bind (decode? (α := Settings)) = none) : Says f (.error (.json "invalid document"))
  | layer {content : String} {s : Settings} (hread : f.read Settings.fileName = .ok content)
    (hdecode : (Json.parse? content).bind decode? = some s) : Says f (.ok (some s))

theorem isThere_of_read {path content : String} (h : f.read path = .ok content) : f.isThere path := by
  unfold read at h
  unfold isThere
  split at h <;> simp_all

theorem exists_io_of_read {path : String} {e : Failure} (h : f.read path = .error e) : ∃ text, e = .io text := by
  unfold read at h
  split at h <;> cases h <;> exact ⟨_, rfl⟩

theorem loadOptional_of_read {α : Type} [Codec α] {path content : String} (h : f.read path = .ok content) :
    f.loadOptional path = (decodeDocument content : Except Failure α).map some := by
  rw [loadOptional, if_pos (isThere_of_read h), load, h]
  rfl

theorem says_iff {said : Except Failure (Option Settings)} : f.Says said ↔ f.loadOptional Settings.fileName = said := by
  constructor
  · intro h
    cases h with
    | missing hthere => rw [loadOptional, hthere, if_neg Bool.false_ne_true]
    | unreadable hthere hread =>
      rw [loadOptional, if_pos hthere, load, hread]
      rfl
    | malformed hread hdecode =>
      rw [loadOptional_of_read hread, decodeDocument, hdecode]
      rfl
    | layer hread hdecode =>
      rw [loadOptional_of_read hread, decodeDocument, hdecode]
      rfl
  · rintro rfl
    cases hthere : f.isThere Settings.fileName with
    | false =>
      rw [loadOptional, hthere, if_neg Bool.false_ne_true]
      exact .missing hthere
    | true =>
      cases hread : f.read Settings.fileName with
      | error e =>
        obtain ⟨text, rfl⟩ := exists_io_of_read hread
        rw [loadOptional, if_pos hthere, load, hread]
        exact .unreadable hthere hread
      | ok content =>
        rw [loadOptional_of_read hread, decodeDocument]
        cases hdecode : (Json.parse? content).bind (decode? (α := Settings)) with
        | none => exact .malformed hread hdecode
        | some s => exact .layer hread hdecode

theorem exists_says (f : Folder) : ∃ said, f.Says said :=
  ⟨_, says_iff.mpr rfl⟩

theorem Says.unique {said said' : Except Failure (Option Settings)} (h : f.Says said) (h' : f.Says said') : said = said' :=
  (says_iff.mp h).symm.trans (says_iff.mp h')

/-- What was said when there is a failure is one of reading, or that the document is malformed. -/
theorem Says.isIoOrJson {e : Failure} (h : f.Says (.error e)) : (∃ text, e = .io text) ∨ ∃ text, e = .json text := by
  cases h with
  | unreadable => exact .inl ⟨_, rfl⟩
  | malformed => exact .inr ⟨_, rfl⟩

end Folder

namespace Settings

/-! ### Merging -/

theorem merge_assoc (r s t : Settings) : (r.merge s).merge t = r.merge (s.merge t) := by
  simp only [merge, Option.or_assoc]

theorem merge_new (s : Settings) : s.merge new = s := rfl

theorem new_merge (s : Settings) : new.merge s = { s with version := new.version } := by
  simp only [merge, new, Option.or_none]

/-- What the last layer that sets something sets it to. -/
def lastSet {α : Type} (setting : Settings → Option α) (layers : List Settings) : Option α :=
  (layers.filterMap setting).getLast?

theorem lastSet_concat {α : Type} (setting : Settings → Option α) (layers : List Settings) (s : Settings) :
    lastSet setting (layers ++ [s]) = (setting s).or (lastSet setting layers) := by
  unfold lastSet
  cases h : setting s <;> simp [h]

/-- The settings each of which is that of the last layer that sets it. -/
def ofLayers (layers : List Settings) : Settings :=
  ⟨new.version, lastSet offsetMinutes layers, lastSet unknownFields layers, lastSet invalidValues layers,
    lastSet federated layers⟩

theorem foldl_merge (layers : List Settings) : layers.foldl merge new = ofLayers layers := by
  induction layers using List.reverseRecOn with
  | nil => rfl
  | append_singleton layers s ih =>
    rw [List.foldl_append, ih]
    simp only [List.foldl_cons, List.foldl_nil, merge, ofLayers, lastSet_concat]

/-! ### Checking -/

/-- The offset, if one is set, is at most eighteen hours either way. -/
def IsInRange (s : Settings) : Prop :=
  ∀ minutes ∈ s.offsetMinutes, -1080 ≤ minutes.toInt ∧ minutes.toInt ≤ 1080

theorem isInRange_iff (s : Settings) : s.IsInRange ↔ (s.offsetMinutes.getD 0).toInt.natAbs ≤ maxOffsetMinutes := by
  unfold IsInRange maxOffsetMinutes
  cases s.offsetMinutes with
  | none => simp
  | some minutes =>
    simp only [Option.mem_some_iff, forall_eq', Option.getD_some]
    omega

instance : DecidablePred IsInRange := fun s =>
  decidable_of_iff _ s.isInRange_iff.symm

theorem validate_eq_ok {s t : Settings} : s.validate = .ok t ↔ t = s ∧ s.IsInRange := by
  rw [isInRange_iff]
  unfold validate offsetSeconds
  by_cases h : (s.offsetMinutes.getD 0).toInt.natAbs ≤ maxOffsetMinutes
  · rw [if_pos h]
    exact ⟨fun ht => ⟨(Except.ok.inj ht).symm, h⟩, fun ht => congrArg Except.ok ht.1.symm⟩
  · rw [if_neg h]
    exact ⟨fun ht => (nomatch ht), fun ht => absurd ht.2 h⟩

theorem validate_eq_error {s : Settings} {e : Failure} : s.validate = .error e ↔
    ∃ minutes ∈ s.offsetMinutes, ¬(-1080 ≤ minutes.toInt ∧ minutes.toInt ≤ 1080) ∧
      e = .configuration (.offsetOutOfRange minutes.toInt) := by
  unfold validate offsetSeconds
  cases s.offsetMinutes with
  | none => exact iff_of_false (fun h => nomatch h) (by simp)
  | some minutes =>
    simp only [Option.mem_some_iff, exists_eq_left', Option.getD_some]
    by_cases h : minutes.toInt.natAbs ≤ maxOffsetMinutes
    · have hrange : -1080 ≤ minutes.toInt ∧ minutes.toInt ≤ 1080 := by
        unfold maxOffsetMinutes at h
        omega
      rw [if_pos h]
      exact ⟨fun he => (nomatch he), fun he => absurd hrange he.1⟩
    · have hrange : ¬(-1080 ≤ minutes.toInt ∧ minutes.toInt ≤ 1080) := by
        unfold maxOffsetMinutes at h
        omega
      rw [if_neg h]
      exact ⟨fun he => ⟨hrange, (Except.error.inj he).symm⟩, fun he => congrArg Except.error he.2.symm⟩

/-! ### Reading -/

/-- The first folder that fails to say something fails with this. -/
def FailsFirst (folders : List Folder) (e : Failure) : Prop :=
  ∃ before f behind, folders = before ++ f :: behind ∧ (∀ g ∈ before, ∃ layer, g.Says (.ok layer)) ∧ f.Says (.error e)

/-- What folders say, if none of them fails. -/
abbrev Say (folders : List Folder) (layers : List (Option Settings)) : Prop :=
  List.Forall₂ (fun f layer => f.Says (.ok layer)) folders layers

theorem addLayer_of_says {f : Folder} {said : Except Failure (Option Settings)} (h : f.Says said) (s : Settings) :
    s.addLayer f = said.map fun layer => (layer.map s.merge).getD s := by
  rw [addLayer, Folder.says_iff.mp h]
  cases said <;> rfl

theorem failsFirst_cons {f : Folder} {folders : List Folder} {e : Failure} : FailsFirst (f :: folders) e ↔
    f.Says (.error e) ∨ (∃ layer, f.Says (.ok layer)) ∧ FailsFirst folders e := by
  constructor
  · rintro ⟨before, g, behind, hsplit, hbefore, hg⟩
    cases before with
    | nil =>
      obtain ⟨rfl, rfl⟩ := List.cons_eq_cons.mp hsplit
      exact .inl hg
    | cons first before =>
      obtain ⟨rfl, rfl⟩ := List.cons_eq_cons.mp hsplit
      obtain ⟨hfirst, hbefore⟩ := List.forall_mem_cons.mp hbefore
      exact .inr ⟨hfirst, before, g, behind, rfl, hbefore, hg⟩
  · rintro (hf | ⟨hf, before, g, behind, rfl, hbefore, hg⟩)
    · exact ⟨[], f, folders, rfl, by simp, hf⟩
    · exact ⟨f :: before, g, behind, rfl, List.forall_mem_cons.mpr ⟨hf, hbefore⟩, hg⟩

theorem foldlM_addLayer_eq_error {folders : List Folder} {e : Failure} :
    ∀ s, folders.foldlM addLayer s = .error e ↔ FailsFirst folders e := by
  induction folders with
  | nil =>
    intro s
    refine iff_of_false (fun h => nomatch h) ?_
    rintro ⟨before, f, behind, hsplit, -⟩
    simp at hsplit
  | cons f folders ih =>
    intro s
    obtain ⟨said, hsaid⟩ := f.exists_says
    rw [List.foldlM_cons, addLayer_of_says hsaid, failsFirst_cons]
    cases said with
    | error failure =>
      constructor
      · intro h
        cases h
        exact .inl hsaid
      · rintro (hf | ⟨⟨layer, hf⟩, -⟩)
        · cases hsaid.unique hf
          rfl
        · cases hsaid.unique hf
    | ok layer =>
      refine (ih _).trans ⟨fun h => .inr ⟨⟨layer, hsaid⟩, h⟩, ?_⟩
      rintro (hf | ⟨-, h⟩)
      · cases hsaid.unique hf
      · exact h

theorem foldlM_addLayer_of_say {folders : List Folder} {layers : List (Option Settings)} (h : Say folders layers) :
    ∀ s, folders.foldlM addLayer s = .ok (layers.reduceOption.foldl merge s) := by
  induction h with
  | nil => exact fun _ => rfl
  | @cons _ layer _ _ hf _ ih =>
    intro s
    rw [List.foldlM_cons, addLayer_of_says hf]
    refine (ih _).trans ?_
    cases layer with
    | none => rw [List.reduceOption_cons_of_none]; rfl
    | some layer => rw [List.reduceOption_cons_of_some]; rfl

/-- Either all folders say something, or one of them is the first that fails. -/
theorem exists_say_or_failsFirst (folders : List Folder) :
    (∃ layers, Say folders layers) ∨ ∃ e, FailsFirst folders e := by
  induction folders with
  | nil => exact .inl ⟨[], .nil⟩
  | cons f folders ih =>
    obtain ⟨failure | layer, hsaid⟩ := f.exists_says
    · exact .inr ⟨failure, failsFirst_cons.mpr (.inl hsaid)⟩
    · rcases ih with ⟨layers, hlayers⟩ | ⟨e, he⟩
      · exact .inl ⟨layer :: layers, .cons hsaid hlayers⟩
      · exact .inr ⟨e, failsFirst_cons.mpr (.inr ⟨⟨layer, hsaid⟩, he⟩)⟩

theorem loadLayers_of_failsFirst {folders : List Folder} {e : Failure} (h : FailsFirst folders e) :
    loadLayers folders = .error e := by
  rw [loadLayers, (foldlM_addLayer_eq_error new).mpr h]
  rfl

theorem loadLayers_of_say {folders : List Folder} {layers : List (Option Settings)} (h : Say folders layers) :
    loadLayers folders = (ofLayers layers.reduceOption).validate := by
  rw [loadLayers, foldlM_addLayer_of_say h, foldl_merge]
  rfl

/-- A layer that sets nothing. -/
def IsOpen (s : Settings) : Prop :=
  ∃ version, s = { new with version }

/-- A folder that is without settings, or sets nothing, may as well not be there. -/
theorem loadLayers_skips {f : Folder} (h : f.Says (.ok none) ∨ ∃ s : Settings, s.IsOpen ∧ f.Says (.ok (some s)))
    (before behind : List Folder) : loadLayers (before ++ f :: behind) = loadLayers (before ++ behind) := by
  have hsame (s : Settings) : s.addLayer f = .ok s := by
    rcases h with hf | ⟨_, ⟨version, rfl⟩, hf⟩ <;> exact addLayer_of_says hf s
  simp only [loadLayers, List.foldlM_append, List.foldlM_cons, hsame]
  rfl

/-- Settings before which only the offset differs come to the same if a layer behind them sets the offset. -/
theorem foldlM_addLayer_overridden {folders : List Folder}
    (h : ∃ f ∈ folders, ∃ s, f.Says (.ok (some s)) ∧ s.offsetMinutes.isSome) (s : Settings) (minutes : Option Int32) :
    folders.foldlM addLayer { s with offsetMinutes := minutes } = folders.foldlM addLayer s := by
  induction folders generalizing s minutes with
  | nil => simp at h
  | cons f folders ih =>
    obtain ⟨said, hsaid⟩ := f.exists_says
    rw [List.foldlM_cons, List.foldlM_cons, addLayer_of_says hsaid, addLayer_of_says hsaid]
    obtain ⟨g, hg, t, ht, hset⟩ := h
    rcases said with failure | _ | layer
    · rfl
    · refine ih ⟨g, ?_, t, ht, hset⟩ s minutes
      rcases List.mem_cons.mp hg with rfl | hg
      · cases ht.unique hsaid
      · exact hg
    · rcases List.mem_cons.mp hg with rfl | hg
      · cases ht.unique hsaid
        obtain ⟨offset, hoffset⟩ := Option.isSome_iff_exists.mp hset
        change folders.foldlM addLayer (merge { s with offsetMinutes := minutes } t) = folders.foldlM addLayer (s.merge t)
        simp only [merge, hoffset, Option.some_or]
      · exact ih ⟨g, hg, t, ht, hset⟩ (s.merge layer) (layer.offsetMinutes.or minutes)

/-- The offset of a layer does not matter if a layer behind it sets one. -/
theorem loadLayers_overridden {f f' : Folder} {s : Settings} {minutes : Option Int32} (hf : f.Says (.ok (some s)))
    (hf' : f'.Says (.ok (some { s with offsetMinutes := minutes }))) {behind : List Folder}
    (h : ∃ g ∈ behind, ∃ t, g.Says (.ok (some t)) ∧ t.offsetMinutes.isSome) (before : List Folder) :
    loadLayers (before ++ f' :: behind) = loadLayers (before ++ f :: behind) := by
  have hsame (t : Settings) : behind.foldlM addLayer (t.merge { s with offsetMinutes := minutes }) =
      behind.foldlM addLayer (t.merge s) := foldlM_addLayer_overridden h (t.merge s) _
  have hstep (t : Settings) : (f' :: behind).foldlM addLayer t = (f :: behind).foldlM addLayer t := by
    rw [List.foldlM_cons, List.foldlM_cons, addLayer_of_says hf, addLayer_of_says hf']
    exact hsame t
  simp only [loadLayers, List.foldlM_append, hstep]

/-- Folders are read up to the first that fails, and otherwise come to what the last layer sets of each setting, if the
offset is in range. A folder without settings or with a layer that sets nothing changes nothing, and neither does an
offset that is overridden. Merging is associative, and the settings that leave everything open are neutral on both sides
but for the version. -/
theorem loadLayers_lastSet (folders : List Folder) :
    (∀ s, loadLayers folders = .ok s ↔
      ∃ layers, Say folders layers ∧ s = ofLayers layers.reduceOption ∧ s.IsInRange) ∧
    (∀ e, loadLayers folders = .error e ↔ FailsFirst folders e ∨ ∃ layers, Say folders layers ∧
      ∃ minutes ∈ lastSet offsetMinutes layers.reduceOption, ¬(-1080 ≤ minutes.toInt ∧ minutes.toInt ≤ 1080) ∧
        e = .configuration (.offsetOutOfRange minutes.toInt)) ∧
    (∀ e, FailsFirst folders e → (∃ text, e = .io text) ∨ ∃ text, e = .json text) ∧
    (∀ f : Folder, (f.Says (.ok none) ∨ ∃ s : Settings, s.IsOpen ∧ f.Says (.ok (some s))) →
      ∀ before behind, folders = before ++ f :: behind → loadLayers folders = loadLayers (before ++ behind)) ∧
    (∀ (f f' : Folder) (s : Settings) minutes, f.Says (.ok (some s)) →
      f'.Says (.ok (some { s with offsetMinutes := minutes })) → ∀ before behind, folders = before ++ f :: behind →
        (∃ g ∈ behind, ∃ t, g.Says (.ok (some t)) ∧ t.offsetMinutes.isSome) →
        loadLayers (before ++ f' :: behind) = loadLayers folders) ∧
    (∀ r s t : Settings, (r.merge s).merge t = r.merge (s.merge t)) ∧
    ∀ s : Settings, s.merge new = s ∧ new.merge s = { s with version := new.version } := by
  refine ⟨fun s => ⟨fun h => ?_, ?_⟩, fun e => ⟨fun h => ?_, ?_⟩, ?_, ?_, ?_, merge_assoc, fun s => ⟨s.merge_new, s.new_merge⟩⟩
  · rcases exists_say_or_failsFirst folders with ⟨layers, hlayers⟩ | ⟨e, he⟩
    · rw [loadLayers_of_say hlayers, validate_eq_ok] at h
      obtain ⟨rfl, hrange⟩ := h
      exact ⟨layers, hlayers, rfl, hrange⟩
    · rw [loadLayers_of_failsFirst he] at h
      cases h
  · rintro ⟨layers, hlayers, rfl, hrange⟩
    rw [loadLayers_of_say hlayers]
    exact validate_eq_ok.mpr ⟨rfl, hrange⟩
  · rcases exists_say_or_failsFirst folders with ⟨layers, hlayers⟩ | ⟨e, he⟩
    · rw [loadLayers_of_say hlayers] at h
      exact .inr ⟨layers, hlayers, validate_eq_error.mp h⟩
    · rw [loadLayers_of_failsFirst he] at h
      cases h
      exact .inl he
  · rintro (he | ⟨layers, hlayers, hminutes⟩)
    · exact loadLayers_of_failsFirst he
    · rw [loadLayers_of_say hlayers]
      exact validate_eq_error.mpr hminutes
  · rintro e ⟨-, f, -, -, -, hf⟩
    exact hf.isIoOrJson
  · rintro f hf before behind rfl
    exact loadLayers_skips hf before behind
  · rintro f f' s minutes hf hf' before behind rfl hbehind
    exact loadLayers_overridden hf hf' hbehind before

def holding (content : String) : Folder :=
  ⟨true, [(Place.here.child fileName, .file (some content))]⟩

/-- An offset that is out of range is overridden behind a folder without settings, and does not count behind a file that
cannot be read. -/
theorem loadLayers_lastSet_overridden :
    let far := holding "\x7b\"utcOffsetMinutes\":5000,\"federatedIdentities\":false\x7d"
    let near := holding "\x7b\"version\":9,\"utcOffsetMinutes\":-60\x7d"
    loadLayers [far, .absent, near] = .ok ⟨1, some (-60), none, none, some false⟩ ∧
      loadLayers [near, far] = .error (.configuration (.offsetOutOfRange 5000)) ∧
      loadLayers [far, holding "\x7b", near] = .error (.json "invalid document") ∧
      loadLayers [far, .absent, near] = loadLayers [far, near] := by
  intro far near
  have hfar : far.Says (.ok (some ⟨1, some 5000, none, none, some false⟩)) := Folder.says_iff.mpr (by rfl)
  have hnear : near.Says (.ok (some ⟨9, some (-60), none, none, none⟩)) := Folder.says_iff.mpr (by rfl)
  have habsent : Folder.absent.Says (.ok none) := Folder.says_iff.mpr (by rfl)
  have hbroken : (holding "\x7b").Says (.error (.json "invalid document")) := Folder.says_iff.mpr (by rfl)
  obtain ⟨hok, -, -, hskips, -⟩ := loadLayers_lastSet [far, .absent, near]
  refine ⟨?_, ?_, ?_, hskips _ (.inl habsent) [far] [near] rfl⟩
  · exact (hok _).mpr ⟨_, .cons hfar (.cons habsent (.cons hnear .nil)), by decide, by decide⟩
  · exact ((loadLayers_lastSet [near, far]).2.1 _).mpr
      (.inr ⟨_, .cons hnear (.cons hfar .nil), 5000, by decide, by decide, rfl⟩)
  · exact ((loadLayers_lastSet [far, holding "\x7b", near]).2.1 _).mpr
      (.inl ⟨[far], _, [near], rfl, List.forall_mem_singleton.mpr ⟨_, hfar⟩, hbroken⟩)

/-! ### What was saved -/

/-- Settings that were saved are loaded with the version of new ones, and checked. -/
theorem loadFrom_of_save {f g : Folder} {s : Settings} (h : s.save f = (g, .ok ())) :
    loadFrom g = ({ s with version := new.version } : Settings).validate := by
  have hsays : g.Says (.ok (some s)) := Folder.says_iff.mpr (Folder.isSaved_of_save h).loadOptional
  rw [loadFrom, loadLayers_of_say (.cons hsays .nil), ← foldl_merge]
  exact congrArg validate s.new_merge

theorem exists_save {f : Folder} (h : ∀ p, f.made.find fileName ≠ .taken p .folder) (s : Settings) :
    ∃ g, s.save f = (g, .ok ()) := by
  have hname : Path.IsName fileName := ⟨by simp [fileName], by simp [fileName], by decide⟩
  obtain ⟨p, hp⟩ := Folder.exists_filePlace hname h
  exact ⟨_, Folder.save_eq_ok hp s⟩

/-- Settings can be saved where no folder has the name of the file. Those that were saved are loaded as they were if their
offset is in range, but for the version, which is always that of new settings; otherwise they are refused. -/
theorem loadFrom_saved (f : Folder) (s : Settings) :
    ((∀ p, f.made.find fileName ≠ .taken p .folder) → ∃ g, s.save f = (g, .ok ())) ∧
    ∀ g, s.save f = (g, .ok ()) →
      (s.IsInRange → loadFrom g = .ok { s with version := new.version }) ∧
      (∀ minutes ∈ s.offsetMinutes, ¬(-1080 ≤ minutes.toInt ∧ minutes.toInt ≤ 1080) →
        loadFrom g = .error (.configuration (.offsetOutOfRange minutes.toInt))) ∧
      (loadFrom g = .ok s ↔ s.IsInRange ∧ s.version = new.version) := by
  refine ⟨fun h => exists_save h s, fun g hsave => ?_⟩
  rw [loadFrom_of_save hsave]
  refine ⟨fun hrange => validate_eq_ok.mpr ⟨rfl, hrange⟩, fun minutes hminutes hrange => ?_, ?_⟩
  · exact validate_eq_error.mpr ⟨minutes, hminutes, hrange, rfl⟩
  · rw [validate_eq_ok]
    constructor
    · rintro ⟨hs, hrange⟩
      have hversion := congrArg Settings.version hs
      exact ⟨hrange, hversion⟩
    · rintro ⟨hrange, hversion⟩
      exact ⟨by rw [← hversion], hrange⟩

theorem loadFrom_saved_anew :
    (∃ g, (⟨1, some (-90), some .fail, none, some false⟩ : Settings).save .absent = (g, .ok ()) ∧
      loadFrom g = .ok ⟨1, some (-90), some .fail, none, some false⟩) ∧
    ∃ g, (⟨4, some 1081, none, some .skip, none⟩ : Settings).save .absent = (g, .ok ()) ∧
      loadFrom g = .error (.configuration (.offsetOutOfRange 1081)) := by
  have hfree : Folder.absent.made.find fileName = .free (Place.here.child fileName) false := by decide
  have hfolder : ∀ p, Folder.absent.made.find fileName ≠ .taken p .folder := fun p => by simp [hfree]
  constructor
  · obtain ⟨hsaves, hsaved⟩ := loadFrom_saved .absent ⟨1, some (-90), some .fail, none, some false⟩
    obtain ⟨g, hg⟩ := hsaves hfolder
    exact ⟨g, hg, (hsaved g hg).1 (by decide)⟩
  · obtain ⟨hsaves, hsaved⟩ := loadFrom_saved .absent ⟨4, some 1081, none, some .skip, none⟩
    obtain ⟨g, hg⟩ := hsaves hfolder
    exact ⟨g, hg, (hsaved g hg).2.1 1081 rfl (by decide)⟩

/-- The version of settings is lost when they are saved and loaded. -/
theorem loadFrom_resets_version : Folder.travelling.IsInRange ∧
    ∃ g, Folder.travelling.save .absent = (g, .ok ()) ∧
      loadFrom g = .ok { Folder.travelling with version := 1 } ∧ loadFrom g ≠ .ok Folder.travelling := by
  have hfree : Folder.absent.made.find fileName = .free (Place.here.child fileName) false := by decide
  obtain ⟨g, hg⟩ := exists_save (f := .absent) (fun p => by simp [hfree]) Folder.travelling
  have hloaded : loadFrom g = .ok { Folder.travelling with version := 1 } := by
    rw [loadFrom_of_save hg]
    rfl
  refine ⟨by decide, g, hg, hloaded, ?_⟩
  rw [hloaded]
  decide

end Settings

end AuditSearch
