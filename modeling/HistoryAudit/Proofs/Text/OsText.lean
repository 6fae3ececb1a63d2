/-
  HistoryAudit.Proofs.Text.OsText

  Texts of the system that are valid are those that come from a string
  (`isText_iff`). Showing them loses nothing, and neither does putting them
  together.
-/
import HistoryAudit.Text.OsText
import HistoryAudit.Proofs.Text.Utf8

namespace HistoryAudit.OsText

variable {s t : OsText} {a b : String}

@[simp]
theorem bytes_append : (s ++ t).bytes = s.bytes ++ t.bytes := rfl

theorem ext_bytes (h : s.bytes = t.bytes) : s = t := by
  cases s
  cases t
  exact congrArg OsText.mk h

theorem append_assoc (r s t : OsText) : r ++ s ++ t = r ++ (s ++ t) :=
  ext_bytes (List.append_assoc ..)

theorem ofString_append (a b : String) : ofString (a ++ b) = ofString a ++ ofString b :=
  ext_bytes (Text.Utf8.encode_append a b)

@[simp]
theorem shown_ofString (a : String) : (ofString a).shown = a := Text.Utf8.lossy_encode a

theorem isText_ofString (a : String) : (ofString a).IsText := congrArg ofString (shown_ofString a)

/-- Valid texts are those of strings. -/
theorem isText_iff : t.IsText ↔ ∃ a, t = ofString a := by
  constructor
  · exact fun h => ⟨t.shown, h.symm⟩
  · rintro ⟨a, rfl⟩
    exact isText_ofString a

theorem IsText.append (hs : s.IsText) (ht : t.IsText) : (s ++ t).IsText := by
  rw [← hs, ← ht, ← ofString_append]
  exact isText_ofString _

theorem slash_not_mem_ofString (h : '/' ∉ a.toList) : 47 ∉ (ofString a).bytes := by
  rw [ofString, Text.Utf8.encode, List.mem_flatMap]
  rintro ⟨c, hc, hb⟩
  obtain ⟨hnat, -⟩ := Text.Utf8.toNat_eq_of_mem_utf8EncodeChar hb (.inl (by decide))
  exact h (Text.Utf8.char_ofNat_eq c hnat.symm ▸ hc)

/-- What stands before a slash in a valid text is valid: the byte of a slash belongs to no other
character. -/
theorem IsText.before_slash {rest : List UInt8} (h : (⟨t.bytes ++ 47 :: rest⟩ : OsText).IsText) :
    t.IsText := by
  obtain ⟨a, ha⟩ := isText_iff.mp h
  have hbytes : a.toList.flatMap String.utf8EncodeChar = t.bytes ++ 47 :: rest :=
    (congrArg bytes ha).symm
  clear h ha
  -- Characters are taken from the front, as long as they belong to what stands before the slash.
  suffices hsplit : ∀ (cs : List Char) (before : List UInt8),
      cs.flatMap String.utf8EncodeChar = before ++ 47 :: rest →
        ∃ ds : List Char, before = ds.flatMap String.utf8EncodeChar by
    obtain ⟨ds, hds⟩ := hsplit a.toList t.bytes hbytes
    refine isText_iff.mpr ⟨String.ofList ds, ext_bytes ?_⟩
    rw [hds, ofString, Text.Utf8.encode, String.toList_ofList]
  intro cs
  induction cs with
  | nil =>
    intro before hcs
    exact absurd hcs.symm (by simp)
  | cons c cs ih =>
    intro before hcs
    rw [List.flatMap_cons] at hcs
    obtain ⟨more, rfl, hmore⟩ | ⟨more, hc, hmore⟩ := List.append_eq_append_iff.mp hcs
    · obtain ⟨ds, rfl⟩ := ih more hmore
      exact ⟨c :: ds, rfl⟩
    · cases more with
      | nil =>
        rw [List.append_nil] at hc
        exact ⟨[c], by rw [← hc, List.flatMap_singleton]⟩
      | cons b more =>
        obtain rfl : 47 = b := (List.cons.inj hmore).1
        have hmem : 47 ∈ String.utf8EncodeChar c := by simp [hc]
        obtain ⟨hnat, -⟩ := Text.Utf8.toNat_eq_of_mem_utf8EncodeChar hmem (.inl (by decide))
        obtain rfl : '/' = c := Text.Utf8.char_ofNat_eq c hnat.symm
        -- A slash has one byte, so nothing stands before it.
        cases before with
        | nil => exact ⟨[], rfl⟩
        | cons b' before =>
          have hlength := congrArg List.length hc
          simp [String.utf8EncodeChar] at hlength

/-- Only the empty text is shown as the empty one. -/
theorem shown_eq_empty_iff : t.shown = "" ↔ t.bytes = [] := by
  constructor
  · exact fun h => Text.Utf8.eq_nil_of_lossy h
  · intro h
    rw [shown, h]
    rfl

theorem bytes_ofString_ne_nil (h : a ≠ "") : (ofString a).bytes ≠ [] := by
  intro hnil
  exact h ((shown_ofString a).symm.trans (shown_eq_empty_iff.mpr hnil))

end HistoryAudit.OsText
