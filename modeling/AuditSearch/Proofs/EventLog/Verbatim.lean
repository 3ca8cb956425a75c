import AuditSearch.Proofs.EventLog.Containing
import AuditSearch.Proofs.Text.Sigma

/-!
Lookups of metadata by a text that stands in a value as it is. Text and value are compared in lower case, each on its
own, so the text is found if all its capital sigmas are the same ones in lower case wherever it stands, and it is not
found everywhere if some are not.
-/
namespace AuditSearch

namespace Text

/-- A text is like the pattern that finds a steady part of it anywhere, both in lower case, where no null character
stands before the part. -/
theorem isLike_steady {part text : String} (hnul : IsNulFree part) (hsteady : IsSteady part) {before behind : List Char}
    (htext : text.toList = before ++ part.toList ++ behind) (hbefore : '\x00' ∉ before) :
    isLike (some wildcardEscape) (readable (EventLog.containing (lower part))) (readable (lower text)) := by
  obtain ⟨es, fs, hlower, hes⟩ := lower_steady hsteady htext
  have hplain : ∀ c ∈ es ++ (lower part).toList, (c != '\x00') = true := by
    intro c hc
    rw [bne_iff_ne]
    rintro rfl
    obtain hc | hc := List.mem_append.mp hc
    · exact hbefore (hes hc)
    · exact isNulFree_lower hnul _ hc rfl
  have hread : (readable (lower text)).map Char.toLower =
      ((es ++ (lower part).toList) ++ fs.takeWhile (· != '\x00')).map fun c => (seen c).toLower := by
    rw [readable, hlower, List.takeWhile_append_of_pos hplain, List.map_map]
    rfl
  rw [EventLog.containing, isLike_part (isNulFree_lower hnul), hread, List.map_append, List.map_append]
  exact ⟨_, _, rfl⟩

end Text

namespace EventLog

variable {log : EventLog} {key : String} {values : List String}

/-- A lookup by some texts finds the events with a value in which one of them stands, if it is steady. -/
theorem mem_findIds_of_steady {ids : List Int64} (h : log.findIds key values = .ok ids) {part : String}
    (hpart : part ∈ values) (hnul : Text.IsNulFree part) (hsteady : Text.IsSteady part) {e : Event} (he : e ∈ log.events)
    {text : String} (htext : e.metadata.get? key = some text) {before behind : List Char}
    (hsplit : text.toList = before ++ part.toList ++ behind) (hbefore : '\x00' ∉ before) : e.id ∈ ids := by
  obtain ⟨hsome, hmem⟩ := mem_findIds_iff h
  refine (hmem _).mpr ⟨e, he, rfl, ?_⟩
  obtain ⟨b, hb⟩ := Option.ne_none_iff_exists'.mp (hsome e he)
  have hlike := hb
  rw [hasMetadata?, htext] at hlike
  rw [hb, Option.some_inj]
  exact (isLikeAny_eq_some hlike).mpr ⟨_, List.mem_map.mpr ⟨part, hpart, rfl⟩,
    Text.isLike_steady hnul hsteady hsplit hbefore⟩

/-- A lookup by a part of a text finds no event in the log of one that has the text for a value. -/
def IsMissedIn (key text part : String) : Prop :=
  part.toList <:+: text.toList ∧ (run [.record (metadataEvent key text)]).findIds key [part] = .ok []

theorem isMissedIn_of_not_like {text part : String} (hpart : part.toList <:+: text.toList)
    (hshort : (containing (Text.lower part)).utf8ByteSize ≤ Sql.Value.maxPatternBytes)
    (hlike : ¬Text.isLike (some Text.wildcardEscape) (Text.readable (containing (Text.lower part)))
      (Text.readable (Text.lower text))) : IsMissedIn key text part := by
  refine ⟨hpart, ?_⟩
  have hcount : [part].length ≤ maxPatterns := Nat.le_trans (Nat.le_of_eq List.length_singleton) (by decide)
  obtain ⟨ids, hids⟩ := findIds_isOk (run [.record (metadataEvent key text)]) key hcount
    (List.forall_mem_singleton.mpr hshort)
  have hget := get_metadataEvent key text key
  rw [if_pos (beq_self_eq_true key)] at hget
  rw [hids, Except.ok.injEq, List.eq_nil_iff_forall_not_mem]
  intro id hid
  obtain ⟨e, he, -, htrue⟩ := ((mem_findIds_iff hids).2 id).mp hid
  obtain rfl : e = metadataEvent key text := List.mem_singleton.mp he
  rw [hasMetadata?, hget] at htrue
  obtain ⟨_, hpattern, hfound⟩ := (isLikeAny_eq_some htrue).mp rfl
  obtain rfl := List.mem_singleton.mp hpattern
  exact hlike hfound

/-- A text that is not steady is missed behind some letter or before it. -/
theorem exists_isMissedIn {part : String} (hnul : Text.IsNulFree part)
    (hshort : (containing (Text.lower part)).utf8ByteSize ≤ Sql.Value.maxPatternBytes) (h : ¬Text.IsSteady part) :
    ∃ text, Text.IsNulFree text ∧ IsMissedIn key text part := by
  obtain ⟨text, htext, hinfix⟩ := Text.exists_unsteady h
  have hparts : part.toList <:+: text.toList ∧ Text.IsNulFree text := by
    simp only [List.mem_cons, List.not_mem_nil, or_false] at htext
    obtain rfl | rfl := htext
    · refine ⟨⟨[], ['α'], by simp⟩, fun c hc => ?_⟩
      rw [String.toList_append, List.mem_append] at hc
      obtain hc | hc := hc
      · exact hnul c hc
      · simp_all
    · refine ⟨⟨['α'], [], by simp⟩, fun c hc => ?_⟩
      rw [String.toList_append, List.mem_append] at hc
      obtain hc | hc := hc
      · simp_all
      · exact hnul c hc
  refine ⟨text, hparts.2, isMissedIn_of_not_like hparts.1 hshort ?_⟩
  rwa [isLike_containing hnul hparts.2]

/-- Every text but the empty one is missed behind a null character. -/
theorem isMissedIn_behind_nul {part : String} (hne : part ≠ "") (hnul : Text.IsNulFree part)
    (hshort : (containing (Text.lower part)).utf8ByteSize ≤ Sql.Value.maxPatternBytes) :
    IsMissedIn key ("\x00" ++ part) part := by
  have hlist : ("\x00" ++ part).toList = '\x00' :: part.toList := by simp
  refine isMissedIn_of_not_like ⟨['\x00'], [], by simp [hlist]⟩ hshort ?_
  have hlower : (Text.lower ("\x00" ++ part)).toList = '\x00' :: Text.lowerAfter ['\x00'] part.toList := by
    have hsmall : Text.lowerChar '\x00' = ['\x00'] := by decide
    rw [Text.lower, String.toList_ofList, hlist, Text.lowerAfter_other (by decide), hsmall, List.singleton_append]
  rw [containing, Text.isLike_part (Text.isNulFree_lower hnul), Text.readable, hlower, Text.fold_seen_lower]
  simp only [List.takeWhile_cons, bne_self_eq_false, Bool.false_eq_true, if_false, List.map_nil, List.infix_nil,
    List.map_eq_nil_iff]
  exact fun hempty => hne (Text.eq_empty_of_lower hempty)

/-- After any steps a lookup by some texts finds the events with a value in which one of them stands as it is, if its
capital sigmas are steady and no null character stands before it. Every other text is missed somewhere: one that is not
steady next to a letter, and any behind a null character. -/
theorem run_finds_verbatim (steps : List Step) (key : String) (values : List String) (part : String)
    (hids : (recorded steps).length < 2 ^ 63) (hcount : values.length ≤ maxPatterns)
    (hshort : ∀ v ∈ values, (containing (Text.lower v)).utf8ByteSize ≤ Sql.Value.maxPatternBytes)
    (hpart : part ∈ values) (hnul : Text.IsNulFree part) :
    (∃ ids, (run steps).findIds key values = .ok ids ∧
      (Text.IsSteady part → ∀ id e text before behind, (run steps).get? id = some e →
        e.metadata.get? key = some text → text.toList = before ++ part.toList ++ behind → '\x00' ∉ before →
          id ∈ ids)) ∧
    (¬Text.IsSteady part → ∃ text, Text.IsNulFree text ∧ IsMissedIn key text part) ∧
    (part ≠ "" → IsMissedIn key ("\x00" ++ part) part) := by
  refine ⟨?_, exists_isMissedIn hnul (hshort part hpart), fun hne => isMissedIn_behind_nul hne hnul (hshort part hpart)⟩
  obtain ⟨ids, hfound⟩ := findIds_isOk (run steps) key hcount hshort
  refine ⟨ids, hfound, fun hsteady id e text before behind hget htext hsplit hbefore => ?_⟩
  obtain ⟨stored, hstored, rfl, rfl⟩ := (get_eq_some_iff (nodup_run hids) id e).mp hget
  exact mem_findIds_of_steady hfound hpart hnul hsteady hstored htext hsplit hbefore

theorem run_finds_verbatim_street :
    (∃ ids, (run [.record (metadataEvent "PostTitle" "ΟΔΟΣ ΑΘΗΝΑΣ")]).findIds "PostTitle" ["x", "ΔΟΣ Α"] = .ok ids ∧
      1 ∈ ids) ∧
    (∃ text, Text.IsNulFree text ∧ IsMissedIn "PostTitle" text "ΔΟΣ") ∧
    IsMissedIn "PostTitle" ("\x00" ++ "ΔΟΣ") "ΔΟΣ" := by
  obtain ⟨⟨ids, hfound, hmem⟩, -⟩ := run_finds_verbatim
    [.record (metadataEvent "PostTitle" "ΟΔΟΣ ΑΘΗΝΑΣ")] "PostTitle" ["x", "ΔΟΣ Α"] "ΔΟΣ Α" (by decide) (by decide)
    (by decide +kernel) (by decide) (by decide)
  have hmissed := (run_finds_verbatim [] "PostTitle" ["ΔΟΣ"] "ΔΟΣ" (by decide) (by decide) (by decide +kernel)
    (by decide) (by decide)).2
  have hin := hmem (by decide +kernel) 1 _ "ΟΔΟΣ ΑΘΗΝΑΣ" ['Ο'] "ΘΗΝΑΣ".toList rfl rfl (by decide) (by decide)
  exact ⟨⟨ids, hfound, hin⟩, hmissed.1 (by decide +kernel), hmissed.2 (by decide)⟩

/-- A lookup by a title that ends with a sigma misses the same title with one more letter. -/
theorem findIds_misses_sigma : "ΑΣ".toList <:+: "ΑΣΑ".toList ∧
    (run [.record (metadataEvent "PostTitle" "ΑΣΑ")]).findIds "PostTitle" ["ΑΣ"] = .ok [] := by
  decide +kernel

end EventLog

end AuditSearch
