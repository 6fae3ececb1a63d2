/-
  HistoryAudit.Proofs.Json.Stored

  Values that are read back from their compact text. `Storable` bounds the depth
  of their brackets and keeps to numbers that a reader gives exactly; any reader of
  items reads a written list of them (`reads_items`), and `value` reads all of them
  as they are, however deeply they are nested (`reads_value`).
-/
import HistoryAudit.Proofs.Json.Sorted
import HistoryAudit.Proofs.Json.Written
import Mathlib.Data.List.Forall2

namespace HistoryAudit.Json

open Reader

/-- The value has at most `depth` brackets open at a time, and all its numbers are natural numbers of
64 bits. -/
inductive Value.Storable : (depth : Nat) → Value → Prop
  | null (depth : Nat) : Storable depth .null
  | plain {v : Value} (h : v.Plain) (depth : Nat) : Storable depth v
  | array {depth : Nat} {items : List Value} (h : ∀ v ∈ items, Storable depth v) :
    Storable (depth + 1) (.array items)
  | object {depth : Nat} {members : List (String × Value)}
    (h : ∀ m ∈ members, Storable depth m.2) : Storable (depth + 1) (.object members)

namespace Value.Storable

variable {v : Value} {depth depth' : Nat}

theorem mono (h : v.Storable depth) (hle : depth ≤ depth') : v.Storable depth' := by
  induction h generalizing depth' with
  | null => exact .null depth'
  | plain hplain => exact .plain hplain depth'
  | array h ih =>
    obtain ⟨depth', rfl⟩ := Nat.exists_eq_add_of_le' (Nat.le_trans (Nat.le_add_left 1 _) hle)
    exact .array fun v hv => ih v hv (Nat.le_of_succ_le_succ hle)
  | object h ih =>
    obtain ⟨depth', rfl⟩ := Nat.exists_eq_add_of_le' (Nat.le_trans (Nat.le_add_left 1 _) hle)
    exact .object fun m hm => ih m hm (Nat.le_of_succ_le_succ hle)

/-- The first character of a written value is no blank and no end of a list, and it tells null from
all others. -/
theorem head (h : v.Storable depth) :
    ∃ c more, v.write = c :: more ∧ isSpace c = false ∧ c ≠ ']' ∧ (c = 'n' → v = .null) := by
  -- Every kind of value has a first character of its own.
  cases h with
  | null => exact ⟨'n', _, by rw [write], rfl, by decide, fun _ => rfl⟩
  | plain hplain =>
    obtain ⟨c, more, hwrite, hspace, -, hnull, hend, -⟩ := hplain.reads_scalar ends_nil
    exact ⟨c, more, hwrite, hspace, hend, fun hn => absurd hn hnull⟩
  | @array _ items =>
    have hnull : '[' = 'n' → Value.array items = .null := fun hn => absurd hn (by decide)
    cases items with
    | nil => exact ⟨'[', _, by rw [write], rfl, by decide, hnull⟩
    | cons v vs => exact ⟨'[', _, by rw [write]; rfl, rfl, by decide, hnull⟩
  | @object _ members =>
    have hnull : '\x7b' = 'n' → Value.object members = .null := fun hn => absurd hn (by decide)
    cases members with
    | nil => exact ⟨'\x7b', _, by rw [write], rfl, by decide, hnull⟩
    | cons m ms => exact ⟨'\x7b', _, by rw [write]; rfl, rfl, by decide, hnull⟩

end Value.Storable

/-! ## Canonical values -/

namespace Value

/-- A list of canonical items is canonical. -/
theorem canonical_array {items : List Value} (h : ∀ v ∈ items, v.canonical = v) :
    (array items).canonical = array items := by
  have hitems : canonicalItems items = items := by
    induction items with
    | nil => rw [canonicalItems]
    | cons v items ih =>
      rw [List.forall_mem_cons] at h
      rw [canonicalItems, h.1, ih h.2]
  rw [canonical, hitems]

/-- An object is canonical if its members are sorted by name, none twice, and their values are
canonical. -/
theorem canonical_object {members : List (String × Value)}
    (hsorted : members.Pairwise fun a b => a.1 < b.1) (h : ∀ m ∈ members, m.2.canonical = m.2) :
    (object members).canonical = object members := by
  have hmembers : canonicalMembers members = members := by
    clear hsorted
    induction members with
    | nil => rw [canonicalMembers]
    | cons m members ih =>
      obtain ⟨name, v⟩ := m
      rw [List.forall_mem_cons] at h
      rw [canonicalMembers, h.1, ih h.2]
  rw [canonical, hmembers, sortMembers_of_sorted hsorted]

end Value

/-! ## Lists -/

namespace Reader

/-- The text of one more item: a comma, the item, and the others. -/
theorem writeItems_cons (v : Value) (vs : List Value) (rest : List Char) :
    Value.writeItems (v :: vs) ++ rest = ',' :: (v.write ++ (Value.writeItems vs ++ rest)) := by
  rw [Value.writeItems]
  simp only [List.cons_append, List.append_assoc]

theorem ends_writeItems (vs : List Value) (rest : List Char) :
    Ends (Value.writeItems vs ++ rest) := by
  cases vs with
  | nil =>
    rw [Value.writeItems]
    exact ends_cons (by decide) rest
  | cons v vs =>
    rw [writeItems_cons]
    exact ends_cons (by decide) _

theorem length_lt_writeItems (vs : List Value) : vs.length < (Value.writeItems vs).length := by
  induction vs with
  | nil =>
    rw [Value.writeItems]
    decide
  | cons v vs ih =>
    rw [Value.writeItems, List.length_append, List.length_cons, List.length_cons]
    omega

theorem reads_closeList {text : List Char} : Reads closeList (']' :: text) () text :=
  Reads.peekToken_cons rfl reads_skip

/-- From the written form of `v` the reader gets `a`, and it does not take the form for the end of a
list. -/
structure ReadsItem (item : Reader α) (v : Value) (a : α) : Prop where
  head : ∃ c more, v.write = c :: more ∧ isSpace c = false ∧ c ≠ ']'
  reads : ∀ rest, Ends rest → Reads item (v.write ++ rest) a rest

section Items

variable {item : Reader α} {vs : List Value} {as : List α} {v : Value} {a : α} {rest : List Char}

/-- The items behind the first one, up to the end of the list. -/
theorem reads_itemsFrom (rest : List Char) (h : List.Forall₂ (ReadsItem item) vs as) {fuel : Nat}
    (hfuel : vs.length < fuel) :
    Reads (itemsFrom item fuel false) (Value.writeItems vs ++ rest) as (']' :: rest) := by
  -- By the items that are left; each takes one step of the fuel.
  induction h generalizing fuel with
  | nil =>
    cases fuel with
    | zero => exact absurd hfuel (Nat.not_lt_zero _)
    | succ fuel =>
      rw [Value.writeItems]
      have hend : Reads (hasItem false) (']' :: rest) false (']' :: rest) :=
        Reads.peekToken_cons rfl (reads_pure _ _)
      exact hend.bind (reads_pure _ _)
  | @cons v a vs as hv htail ih =>
    cases fuel with
    | zero => exact absurd hfuel (Nat.not_lt_zero _)
    | succ fuel =>
      obtain ⟨c, more, hwrite, hspace, hend⟩ := hv.head
      have hread := hv.reads _ (ends_writeItems vs rest)
      rw [writeItems_cons]
      rw [hwrite, List.cons_append] at hread ⊢
      -- A comma says that another item stands behind it.
      have hfurther : Reads (hasItem false)
          (',' :: c :: (more ++ (Value.writeItems vs ++ rest))) true
          (c :: (more ++ (Value.writeItems vs ++ rest))) := by
        refine Reads.peekToken_cons rfl (Reads.skip (Reads.peekToken_cons hspace ?_))
        simp only [if_neg hend]
        exact reads_pure _ _
      refine hfurther.bind (hread.bind ?_)
      exact (ih (Nat.lt_of_succ_lt_succ hfuel)).bind (reads_pure _ _)

/-- A written list behind its bracket, up to its end. -/
theorem reads_items (rest : List Char) (h : List.Forall₂ (ReadsItem item) vs as) :
    ∃ body, (Value.array vs).write = '[' :: body ∧
      Reads (items item) (body ++ rest) as (']' :: rest) := by
  have hitems {text : List Char}
      (hread : Reads (itemsFrom item (text.length + 1) true) text as (']' :: rest)) :
      Reads (items item) text as (']' :: rest) := hread
  cases h with
  | nil =>
    refine ⟨[']'], by rw [Value.write], hitems ?_⟩
    have hend : Reads (hasItem true) (']' :: rest) false (']' :: rest) :=
      Reads.peekToken_cons rfl (reads_pure _ _)
    exact hend.bind (reads_pure _ _)
  | @cons v a vs as hv htail =>
    refine ⟨v.write ++ Value.writeItems vs, by rw [Value.write]; rfl, hitems ?_⟩
    -- The fuel is the length of the text, and every item takes at least a comma of it.
    have hfuel : vs.length < (v.write ++ Value.writeItems vs ++ rest).length := by
      have hlength := length_lt_writeItems vs
      rw [List.length_append, List.length_append]
      omega
    generalize (v.write ++ Value.writeItems vs ++ rest).length = fuel at hfuel ⊢
    obtain ⟨c, more, hwrite, hspace, hend⟩ := hv.head
    have hread := hv.reads _ (ends_writeItems vs rest)
    rw [List.append_assoc]
    rw [hwrite, List.cons_append] at hread ⊢
    have hfirst : Reads (hasItem true) (c :: (more ++ (Value.writeItems vs ++ rest))) true
        (c :: (more ++ (Value.writeItems vs ++ rest))) := by
      refine Reads.peekToken_cons hspace ?_
      simp only [if_neg hend]
      exact reads_pure _ _
    exact hfirst.bind (hread.bind ((reads_itemsFrom rest htail hfuel).bind (reads_pure _ _)))

end Items

/-! ## All values -/

variable {v : Value} {depth : Nat}

theorem reads_value_plain (hv : v.Plain) {levels : Nat} {rest : List Char} (h : Ends rest) :
    Reads (value (levels + 1)) (v.write ++ rest) v rest := by
  obtain ⟨c, more, hwrite, hspace, hbracket, -, -, hscalar⟩ := hv.reads_scalar h
  rw [value]
  rw [hwrite] at hscalar ⊢
  refine Reads.peekToken_cons hspace ?_
  -- The first character is no bracket, so the value is read as a scalar.
  split
  · rename_i heq
    cases heq
  · rename_i heq
    exact absurd (Option.some.inj heq) hbracket.1
  · rename_i heq
    exact absurd (Option.some.inj heq) hbracket.2
  · rename_i c' _ _ heq
    obtain rfl := Option.some.inj heq
    exact hscalar

/-- Members are gathered in turn, the last one first. -/
theorem foldlM_gather (ms : List (String × Value)) (read : List (String × Value)) :
    ms.foldlM (fun read m => (.ok (m :: read) : Except Cause _)) read = .ok (ms.reverse ++ read) := by
  induction ms generalizing read with
  | nil => rfl
  | cons m ms ih =>
    rw [List.foldlM_cons, List.reverse_cons, List.append_assoc]
    exact ih (m :: read)

/-- A value that is not nested too deeply is read as it is. -/
theorem reads_value (h : v.Storable depth) {levels : Nat} (hlevels : depth < levels)
    {rest : List Char} (hrest : Ends rest) : Reads (value levels) (v.write ++ rest) v rest := by
  -- By induction on the nesting: each bracket takes one of the levels, and an item may be followed by
  -- any text that ends it.
  induction h generalizing levels rest with
  | null =>
    obtain ⟨levels, rfl⟩ := Nat.exists_eq_add_of_le' (Nat.lt_of_le_of_lt (Nat.zero_le _) hlevels)
    rw [value, Value.write]
    exact Reads.peekToken_cons rfl
      (Reads.skip ((reads_word ['u', 'l', 'l']).bind (reads_pure _ _)))
  | plain hplain =>
    obtain ⟨levels, rfl⟩ := Nat.exists_eq_add_of_le' (Nat.lt_of_le_of_lt (Nat.zero_le _) hlevels)
    exact reads_value_plain hplain hrest
  | @array depth items hitems ih =>
    obtain ⟨levels, rfl⟩ := Nat.exists_eq_add_of_le' (Nat.lt_of_le_of_lt (Nat.zero_le _) hlevels)
    have hinner : depth < levels := Nat.lt_of_succ_lt_succ hlevels
    have hall : List.Forall₂ (ReadsItem (value levels)) items items := by
      refine List.forall₂_same.mpr fun v hv => ⟨?_, fun rest hrest => ih v hv hinner hrest⟩
      obtain ⟨c, more, hwrite, hspace, hend, -⟩ := (hitems v hv).head
      exact ⟨c, more, hwrite, hspace, hend⟩
    obtain ⟨body, hwrite, hread⟩ := reads_items rest hall
    rw [value, hwrite]
    refine Reads.peekToken_cons rfl ?_
    exact (Reads.opened (Nat.ne_zero_of_lt hinner) (hread.enclosed reads_closeList)).bind
      (reads_pure _ _)
  | @object depth members hmembers ih =>
    obtain ⟨levels, rfl⟩ := Nat.exists_eq_add_of_le' (Nat.lt_of_le_of_lt (Nat.zero_le _) hlevels)
    have hinner : depth < levels := Nat.lt_of_succ_lt_succ hlevels
    have hall : ∀ m ∈ members, MemberMatches
        (fun name read => do colon; return (name, ← value levels) :: read)
        (fun read m => .ok (m :: read)) m := by
      intro m hm read read' tail hstep hends
      cases hstep
      exact reads_colon.bind ((ih m hm hinner hends).bind (reads_pure _ _))
    -- The members come in reverse from the reader, and are turned round at the end.
    obtain ⟨body, hwrite, hread⟩ := reads_members rest hall (foldlM_gather members [])
    rw [List.append_nil] at hread
    rw [value, hwrite]
    refine Reads.peekToken_cons rfl ?_
    have hinOrder := hread.bind (k := fun ms => pure ms.reverse) (reads_pure _ _)
    rw [List.reverse_reverse] at hinOrder
    exact (Reads.opened (Nat.ne_zero_of_lt hinner) (hinOrder.enclosed reads_closeObject)).bind
      (reads_pure _ _)

end Reader

end HistoryAudit.Json
