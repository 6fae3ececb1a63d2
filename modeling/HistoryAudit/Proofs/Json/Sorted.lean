/-
  HistoryAudit.Proofs.Json.Sorted

  Members sorted by name. Putting a member in keeps the order and replaces a member
  of the same name, so of members that are put in one after the other each name stays
  with its last value (`mem_sortMembers`).
-/
import HistoryAudit.Json.Value
import Mathlib.Data.List.Induction

namespace HistoryAudit.Json

variable {ms : List (String × α)} {name other : String} {v w : α}

/-- The values that members give for a name, in their order. -/
def valuesOf (name : String) (ms : List (String × α)) : List α :=
  (ms.filter (·.1 = name)).map (·.2)

theorem mem_valuesOf : v ∈ valuesOf name ms ↔ (name, v) ∈ ms := by
  rw [valuesOf, List.mem_map]
  constructor
  · rintro ⟨⟨other, w⟩, hm, rfl⟩
    obtain ⟨hold, hname⟩ := List.mem_filter.mp hm
    obtain rfl : other = name := by simpa using hname
    exact hold
  · exact fun hm => ⟨(name, v), List.mem_filter.mpr ⟨hm, by simp⟩, rfl⟩

theorem valuesOf_append (name : String) (ms ms' : List (String × α)) :
    valuesOf name (ms ++ ms') = valuesOf name ms ++ valuesOf name ms' := by
  rw [valuesOf, List.filter_append, List.map_append]
  rfl

/-- Members that are left out under other names are not missed. -/
theorem valuesOf_filter {p : String × α → Bool} (h : ∀ v, p (name, v) = true) :
    valuesOf name (ms.filter p) = valuesOf name ms := by
  have hboth : ∀ m : String × α, (decide (m.1 = name) && p m) = decide (m.1 = name) := by
    rintro ⟨key, v⟩
    by_cases hkey : key = name
    · subst hkey
      rw [h v, Bool.and_true]
    · simp [hkey]
  rw [valuesOf, List.filter_filter, List.filter_congr fun m _ => hboth m]
  rfl

theorem valuesOf_map (f : α → β) :
    valuesOf name (ms.map fun m => (m.1, f m.2)) = (valuesOf name ms).map f := by
  rw [valuesOf, valuesOf, List.filter_map, List.map_map, List.map_map]
  rfl

theorem valuesOf_perm {ms' : List (String × α)} (h : ms.Perm ms') (name : String) :
    (valuesOf name ms).Perm (valuesOf name ms') := (h.filter _).map _

namespace Value

/-- The members are sorted by name, and no name is there twice. -/
def Ascending (ms : List (String × α)) : Prop := ms.Pairwise fun a b => a.1 < b.1

/-- A member that is put in takes the place of one with the same name, and the others stay. -/
theorem mem_insertMember (h : Ascending ms) :
    (other, w) ∈ insertMember name v ms ↔
      (other = name ∧ w = v) ∨ (other ≠ name ∧ (other, w) ∈ ms) := by
  induction ms with
  | nil => simp [insertMember]
  | cons m ms ih =>
    obtain ⟨key, u⟩ := m
    obtain ⟨hkey, hms⟩ := List.pairwise_cons.mp h
    have hbehind : ∀ x, (key, x) ∉ ms := fun x hx => String.lt_irrefl key (hkey _ hx)
    rw [insertMember]
    split
    · rename_i hlt
      -- All names here are behind the new one.
      have hnew : ∀ x, (name, x) ∉ (key, u) :: ms := by
        intro x hx
        rcases List.mem_cons.mp hx with heq | hx
        · cases heq
          exact String.lt_irrefl name hlt
        · exact String.lt_irrefl name (String.lt_trans hlt (hkey _ hx))
      rw [List.mem_cons, Prod.mk.injEq]
      refine or_congr_right ⟨fun hw => ⟨?_, hw⟩, And.right⟩
      rintro rfl
      exact hnew w hw
    · -- The name stands first, or else somewhere behind.
      split
      · rename_i heq
        subst heq
        rw [List.mem_cons, Prod.mk.injEq, List.mem_cons, Prod.mk.injEq]
        refine or_congr_right ⟨fun hw => ⟨?_, .inr hw⟩, ?_⟩
        · rintro rfl
          exact hbehind w hw
        · rintro ⟨hne, ⟨heq, -⟩ | hw⟩
          · exact absurd heq hne
          · exact hw
      · rename_i hne
        rw [List.mem_cons, ih hms, List.mem_cons, Prod.mk.injEq]
        constructor
        · rintro (⟨rfl, rfl⟩ | hold | ⟨hother, hw⟩)
          · exact .inr ⟨Ne.symm hne, .inl ⟨rfl, rfl⟩⟩
          · exact .inl hold
          · exact .inr ⟨hother, .inr hw⟩
        · rintro (hold | ⟨hother, hfirst | hw⟩)
          · exact .inr (.inl hold)
          · exact .inl hfirst
          · exact .inr (.inr ⟨hother, hw⟩)

/-- Putting a member in keeps the order. -/
theorem ascending_insertMember (h : Ascending ms) (name : String) (v : α) :
    Ascending (insertMember name v ms) := by
  induction ms with
  | nil => exact List.pairwise_singleton _ _
  | cons m ms ih =>
    obtain ⟨key, u⟩ := m
    obtain ⟨hkey, hms⟩ := List.pairwise_cons.mp h
    rw [insertMember]
    split
    · -- The member goes before all others.
      rename_i hlt
      refine List.pairwise_cons.mpr ⟨fun m hm => ?_, h⟩
      rcases List.mem_cons.mp hm with rfl | hm
      · exact hlt
      · exact String.lt_trans hlt (hkey m hm)
    · split
      · rename_i heq
        subst heq
        exact List.pairwise_cons.mpr ⟨hkey, hms⟩
      · -- The member goes somewhere behind the first one.
        rename_i hnlt hne
        have hlt : key < name :=
          Std.lt_of_le_of_ne (String.not_lt.mp hnlt) fun heq => hne heq.symm
        refine List.pairwise_cons.mpr ⟨fun m hm => ?_, ih hms⟩
        rcases (mem_insertMember hms).mp hm with ⟨hname, -⟩ | ⟨-, hold⟩
        · exact hname ▸ hlt
        · exact hkey m hold

/-- Sorted members are told by which they are. -/
theorem Ascending.ext {ms' : List (String × α)} (h : Ascending ms) (h' : Ascending ms')
    (hmem : ∀ m, m ∈ ms ↔ m ∈ ms') : ms = ms' := by
  have hnodup : ∀ {l : List (String × α)}, Ascending l → l.Nodup := by
    intro l hl
    refine List.Pairwise.imp (fun hlt heq => ?_) hl
    subst heq
    exact String.lt_irrefl _ hlt
  have hperm := (List.perm_ext_iff_of_nodup (hnodup h) (hnodup h')).mpr hmem
  exact hperm.eq_of_pairwise
    (fun a b _ _ hab hba => absurd (String.lt_trans hab hba) (String.lt_irrefl _)) h h'

theorem sortMembers_concat (ms : List (String × α)) (m : String × α) :
    sortMembers (ms ++ [m]) = insertMember m.1 m.2 (sortMembers ms) := by
  rw [sortMembers, List.foldl_append]
  rfl

theorem ascending_sortMembers (ms : List (String × α)) : Ascending (sortMembers ms) := by
  induction ms using List.reverseRecOn with
  | nil => exact .nil
  | append_singleton ms m ih =>
    rw [sortMembers_concat]
    exact ascending_insertMember ih _ _

/-- Each name is there with the last value that it was given. -/
theorem mem_sortMembers : (name, v) ∈ sortMembers ms ↔ (valuesOf name ms).getLast? = some v := by
  -- The last value of a name wins, so the members are taken from the end.
  induction ms using List.reverseRecOn with
  | nil => exact ⟨nofun, nofun⟩
  | append_singleton ms m ih =>
    obtain ⟨key, u⟩ := m
    rw [sortMembers_concat, mem_insertMember (ascending_sortMembers ms), ih, valuesOf_append]
    -- The last member has the name or leaves it alone.
    by_cases hname : key = name
    · subst hname
      have hlast : valuesOf key [(key, u)] = [u] := by simp [valuesOf]
      rw [hlast, List.getLast?_concat]
      simp [eq_comm]
    · have hlast : valuesOf name [(key, u)] = [] := by simp [valuesOf, hname]
      rw [hlast, List.append_nil]
      simp [Ne.symm hname]

theorem insertMember_of_forall_lt {members : List (String × α)} {name : String}
    (h : ∀ m ∈ members, m.1 < name) (a : α) :
    insertMember name a members = members ++ [(name, a)] := by
  induction members with
  | nil => rfl
  | cons m members ih =>
    rw [List.forall_mem_cons] at h
    rw [insertMember, if_neg (String.lt_asymm h.1), if_neg (Ne.symm (String.ne_of_lt h.1)), ih h.2]
    rfl

/-- Sorting changes nothing in sorted members. -/
theorem sortMembers_of_sorted {members : List (String × α)}
    (h : Ascending members) : sortMembers members = members := by
  -- What is behind `sorted` is greater than what is in it.
  have hall (sorted : List (String × α))
      (h : Ascending (sorted ++ members)) :
      members.foldl (fun sorted m => insertMember m.1 m.2 sorted) sorted = sorted ++ members := by
    induction members generalizing sorted with
    | nil => exact (List.append_nil sorted).symm
    | cons m members ih =>
      have hless : ∀ a ∈ sorted, a.1 < m.1 := fun a ha =>
        (List.pairwise_append.mp h).2.2 a ha m List.mem_cons_self
      have hcons := List.append_cons sorted m members
      rw [List.foldl_cons, insertMember_of_forall_lt hless, hcons]
      rw [hcons] at h
      exact ih (h.sublist (List.sublist_append_right _ _)) _ h
  exact hall [] h

end Value

end HistoryAudit.Json
