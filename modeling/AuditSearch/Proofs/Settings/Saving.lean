import AuditSearch.Proofs.Json.Coding
import AuditSearch.Proofs.Settings.Folder

/-!
Values that are saved in a folder. They are read back from their documents, whatever way these are loaded, and no other
file is changed.
-/
namespace AuditSearch

/-- A name of a file: one part of a path, and not too long. -/
structure Path.IsName (name : String) : Prop where
  noStroke : '/' ∉ name.toList
  nulFree : '\x00' ∉ name.toList
  short : name.utf8ByteSize ≤ maxNameBytes

namespace Folder

section
variable {α : Type} [Codec α]

/-- Both documents of a value hold it. -/
def IsHeld (a : α) : Prop :=
  ∀ layout, decodeDocument (Json.print layout (encode a)) = .ok a

/-- A folder after a value was saved under a path: it is read back there, whatever way it is loaded, and all else that
was there is as it was. -/
structure IsSaved (f g : Folder) (path : String) (a : α) : Prop where
  load : g.load path = .ok a
  loadOptional : g.loadOptional path = .ok (some a)
  loadOrDefault : ∀ default, g.loadOrDefault default path = a
  others : ∀ other, (f.made.find other).place? ≠ (f.made.find path).place? →
    g.find other = f.made.find other ∧ ∀ content, f.read other = .ok content → g.read other = .ok content

theorem isHeld [IsKept α] (a : α) : IsHeld a := by
  intro layout
  rw [decodeDocument, (isExact_encode a).parse_print, Option.bind_some, decode_encode]

/-- The folder that a value is saved in, with its document in a file. -/
def withDocument (f : Folder) (p : Place) (a : α) : Folder :=
  f.made.put p (.file (some (Json.print .indented (encode a))))

variable {f : Folder} {path : String} {p : Place}

theorem isSaved_withDocument [IsKept α] (hp : (f.made.find path).filePlace? = some p) (a : α) :
    f.IsSaved (f.withDocument p a) path a := by
  obtain ⟨hnames, hentry⟩ := (f.made.tells_find path).filePlace hp
  have hfind (other : String) : (f.withDocument p a).find other =
      (f.made.find other).written p (some (Json.print .indented (encode a))) :=
    find_put f.made hnames hentry _ other
  have hpath := (hfind path).trans (Spot.written_filePlace hp)
  have hload : (f.withDocument p a).load path = .ok a := by
    rw [load, read, hpath]
    exact isHeld a .indented
  have hoptional : (f.withDocument p a).loadOptional path = .ok (some a) := by
    rw [loadOptional, isThere, hpath, if_pos rfl, hload]
    rfl
  refine ⟨hload, hoptional, fun default => by rw [loadOrDefault, hoptional], fun other hother => ?_⟩
  rw [Spot.place_of_filePlace hp] at hother
  have hsame := (hfind other).trans (Spot.written_other hother)
  refine ⟨hsame, fun content hcontent => ?_⟩
  have hthere : f.find other ≠ .nowhere := by
    intro hnowhere
    rw [read, hnowhere] at hcontent
    cases hcontent
  rwa [read, hsame, find_made hthere]

theorem save_eq_ok (hp : (f.made.find path).filePlace? = some p) (a : α) :
    f.save path a = (f.withDocument p a, .ok ()) := by
  unfold Spot.filePlace? at hp
  split at hp
  · next heq =>
    obtain rfl := Option.some.inj hp
    rw [save, store, write, heq]
    rfl
  · next heq =>
    obtain rfl := Option.some.inj hp
    rw [save, store, write, heq]
    rfl
  · cases hp

/-- A value is refused where no file can be written, with nothing done but that the folder is made. -/
theorem save_eq_error (hp : (f.made.find path).filePlace? = none) (a : α) :
    ∃ e, f.save path a = (f.made, .error e) := by
  rw [save, store, write]
  generalize f.made.find path = spot at hp
  rcases spot with ⟨q, old | _⟩ | ⟨q, _ | _⟩ | _
  · cases hp
  · exact ⟨_, rfl⟩
  · cases hp
  · exact ⟨_, rfl⟩
  · exact ⟨_, rfl⟩

theorem isSaved_of_save [IsKept α] {g : Folder} {a : α} (h : f.save path a = (g, .ok ())) : f.IsSaved g path a := by
  cases hp : (f.made.find path).filePlace? with
  | none =>
    obtain ⟨e, herror⟩ := save_eq_error hp a
    rw [herror] at h
    cases h
  | some p =>
    rw [save_eq_ok hp] at h
    cases h
    exact isSaved_withDocument hp a

end

/-- A name leads to a place for a file unless it leads to a folder. -/
theorem exists_filePlace {f : Folder} {name : String} (hname : Path.IsName name)
    (hfolder : ∀ p, f.made.find name ≠ .taken p .folder) : ∃ p, (f.made.find name).filePlace? = some p := by
  have hvalid : Path.isValid name = true := by
    have hbytes : name.utf8ByteSize < Path.maxBytes := Nat.lt_of_le_of_lt hname.short (by decide)
    rw [Path.isValid, decide_eq_true hbytes, Bool.true_and]
    simpa using hname.nulFree
  have hstart : Path.start name = .here := if_neg fun hhead => hname.noStroke (List.mem_of_head? hhead)
  have hparts : Path.parts name = [name] := by
    rw [Path.parts, List.splitOn_eq_singleton hname.noStroke, List.map_singleton, String.ofList_toList]
  have hfind : f.made.find name = f.made.follow .here [name] := by
    rw [find, hvalid, hstart, hparts]
    rfl
  rw [hfind] at hfolder ⊢
  generalize hspot : f.made.follow .here [name] = spot at hfolder ⊢
  rw [follow] at hspot
  split at hspot
  · exact absurd hspot.symm (hfolder .here)
  split at hspot
  · exact absurd hspot.symm (hfolder Place.here.parent)
  split at hspot
  · next hlong => exact absurd hname.short (Nat.not_le.mpr hlong)
  split at hspot
  · exact absurd hspot.symm (hfolder (Place.here.child name))
  · next entry hentry _ =>
    cases entry with
    | folder => exact absurd hspot.symm (hfolder (Place.here.child name))
    | file content => exact ⟨Place.here.child name, hspot ▸ rfl⟩
  · exact ⟨Place.here.child name, hspot ▸ rfl⟩

/-- The documents of all kinds of values hold them, in either layout. Settings and dictionaries of integers that are
saved under a name that leads to no folder are read back, and so are those that were saved under any path; no other file
is changed. -/
theorem documents_hold_values (f : Folder) (name : String) (hname : Path.IsName name)
    (hfolder : ∀ p, f.made.find name ≠ .taken p .folder) :
    ((∀ e : Event, IsHeld e) ∧ (∀ i : Identity, IsHeld i) ∧ (∀ a : Attribute, IsHeld a) ∧ (∀ t : ColumnType, IsHeld t) ∧
      (∀ l : Literal, IsHeld l) ∧ (∀ filter : Filter, IsHeld filter) ∧ (∀ s : Settings, IsHeld s) ∧
      (∀ p : Policy, IsHeld p) ∧ ∀ t : Treatment, IsHeld t) ∧
    (∀ s : Settings, ∃ g, f.save name s = (g, .ok ()) ∧ f.IsSaved g name s) ∧
    (∀ d : Dictionary Int64, ∃ g, f.save name d = (g, .ok ()) ∧ f.IsSaved g name d) ∧
    ∀ path g, (∀ s : Settings, f.save path s = (g, .ok ()) → f.IsSaved g path s) ∧
      ∀ d : Dictionary Int64, f.save path d = (g, .ok ()) → f.IsSaved g path d := by
  obtain ⟨p, hp⟩ := exists_filePlace hname hfolder
  refine ⟨⟨isHeld, isHeld, isHeld, isHeld, isHeld, isHeld, isHeld, isHeld, isHeld⟩, fun s => ?_, fun d => ?_,
    fun path g => ⟨fun s => isSaved_of_save, fun d => isSaved_of_save⟩⟩
  · exact ⟨_, save_eq_ok hp s, isSaved_withDocument hp s⟩
  · exact ⟨_, save_eq_ok hp d, isSaved_withDocument hp d⟩

def shared : Folder :=
  ⟨true, [(Place.here.child "offsets.json", .file (some "\x7b\x7d"))]⟩

/-- Settings all of which but one are set. -/
def travelling : Settings :=
  ⟨3, some (-90), some .fail, none, some false⟩

theorem documents_hold_values_shared :
    Path.IsName "search.json" ∧ shared.made.find "search.json" = .free (Place.here.child "search.json") false ∧
      IsHeld (Literal.text "\"42\u0001") ∧
      ∃ g, shared.save "search.json" travelling = (g, .ok ()) ∧ shared.IsSaved g "search.json" travelling ∧
        g.read "offsets.json" = .ok "\x7b\x7d" := by
  have hname : Path.IsName "search.json" := ⟨by simp, by simp, by decide⟩
  have hfree : shared.made.find "search.json" = .free (Place.here.child "search.json") false := by decide
  obtain ⟨hheld, hsettings, -, -⟩ := documents_hold_values shared "search.json" hname fun p => by simp [hfree]
  obtain ⟨g, hsave, hsaved⟩ := hsettings travelling
  have hothers := (hsaved.others "offsets.json" (by decide)).2 "\x7b\x7d" (by rfl)
  exact ⟨hname, hfree, hheld.2.2.2.2.1 _, g, hsave, hsaved, hothers⟩

end Folder

end AuditSearch
