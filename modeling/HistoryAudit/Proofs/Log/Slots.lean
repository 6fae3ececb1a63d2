/-
  HistoryAudit.Proofs.Log.Slots

  Where the lines of a log go. The builder looks up the place of an `id` in a
  table; the table knows each `id` that a command has, with the place of the
  first such command (`Builder.Indexed`). So a line goes where a search of the
  commands for its `id` would bring it (`Builder.Indexed.add_pending`).
-/
import HistoryAudit.Log.Reading

namespace HistoryAudit.Log

namespace Pending

/-- Adds a line with an `id` to the first command that has it, or starts a new one. -/
def amend (number : Nat) (id : String) (r : Record) : List Pending → List Pending
  | [] => [Pending.annotate { line := number, id? := some id } r]
  | p :: ps => if p.id? = some id then p.annotate r :: ps else p :: amend number id r ps

/-- Adds a decoded line to the commands, searching them for its `id`. -/
def add (number : Nat) (r : Record) (pending : List Pending) : List Pending :=
  match r.id? with
  | some id => amend number id r pending
  | none => pending ++ [Pending.annotate { line := number, id? := none } r]

/-- The place of the first command with this `id`. -/
def placeOf? (id : String) (pending : List Pending) : Option Nat :=
  pending.findIdx? fun p => p.id? = some id

theorem placeOf?_cons (id : String) (p : Pending) (ps : List Pending) :
    placeOf? id (p :: ps) =
      if p.id? = some id then some 0 else (placeOf? id ps).map (· + 1) := by
  by_cases hp : p.id? = some id <;> simp [placeOf?, List.findIdx?_cons, hp]

/-- A search for an `id` ends at the first command that has it. -/
theorem amend_eq (number : Nat) (id : String) (r : Record) (ps : List Pending) :
    amend number id r ps =
      match placeOf? id ps with
      | some place => ps.modify place (·.annotate r)
      | none => ps ++ [Pending.annotate { line := number, id? := some id } r] := by
  induction ps with
  | nil => rfl
  | cons p ps ih =>
    rw [amend, placeOf?_cons]
    by_cases hp : p.id? = some id
    · rw [if_pos hp, if_pos hp]
      rfl
    · rw [if_neg hp, if_neg hp, ih]
      cases placeOf? id ps with
      | none => rfl
      | some place => rfl

/-- A command keeps its place when it is annotated. -/
theorem placeOf?_modify (id : String) (r : Record) (place : Nat) (ps : List Pending) :
    placeOf? id (ps.modify place (·.annotate r)) = placeOf? id ps := by
  induction ps generalizing place with
  | nil => rw [List.modify_nil]
  | cons p ps ih =>
    cases place with
    | zero =>
      rw [List.modify_zero_cons, placeOf?_cons, placeOf?_cons]
      rfl
    | succ place => rw [List.modify_succ_cons, placeOf?_cons, placeOf?_cons, ih]

theorem placeOf?_append_singleton (id : String) (ps : List Pending) (p : Pending) :
    placeOf? id (ps ++ [p]) =
      (placeOf? id ps).or (if p.id? = some id then some ps.length else none) := by
  rw [placeOf?, List.findIdx?_append]
  by_cases hp : p.id? = some id <;> simp [placeOf?, hp, List.findIdx?_cons]

/-- The last command is the one at the end of the others. -/
theorem modify_append_singleton (r : Record) (ps : List Pending) (p : Pending) :
    (ps ++ [p]).modify ps.length (·.annotate r) = ps ++ [p.annotate r] := by
  induction ps with
  | nil => rfl
  | cons q ps ih => rw [List.cons_append, List.length_cons, List.modify_succ_cons, ih]; rfl

end Pending

namespace Builder

/-! ## The three ways of a line -/

section Ways

variable {b : Builder} {number : Nat} {r : Record}

theorem add_alone (hid : r.id? = none) :
    b.add number r =
      { b with pending := b.pending ++ [Pending.annotate { line := number, id? := none } r] } := by
  simp only [add, place, hid, start, Pending.modify_append_singleton]

theorem add_old {id : String} {old : Nat} (hid : r.id? = some id)
    (hold : b.byId.lookup id = some old) :
    b.add number r = { b with pending := b.pending.modify old (·.annotate r) } := by
  simp only [add, place, hid, hold]

theorem add_new {id : String} (hid : r.id? = some id) (hnew : b.byId.lookup id = none) :
    b.add number r =
      { b with
        pending := b.pending ++ [Pending.annotate { line := number, id? := some id } r]
        byId := (id, b.pending.length) :: b.byId } := by
  simp only [add, place, hid, hnew, start, Pending.modify_append_singleton]

/-- Adding a line changes nothing but the commands and the table. -/
theorem add_keeps (b : Builder) (number : Nat) (r : Record) :
    (b.add number r).malformed = b.malformed ∧ (b.add number r).lines = b.lines := by
  cases hid : r.id? with
  | none =>
    rw [add_alone hid]
    exact ⟨rfl, rfl⟩
  | some id =>
    cases hold : b.byId.lookup id with
    | none =>
      rw [add_new hid hold]
      exact ⟨rfl, rfl⟩
    | some old =>
      rw [add_old hid hold]
      exact ⟨rfl, rfl⟩

end Ways

/-! ## The table -/

/-- The table has each `id` of a command, with the place of the first such command. -/
def Indexed (b : Builder) : Prop := ∀ id, b.byId.lookup id = Pending.placeOf? id b.pending

theorem indexed_empty : Indexed {} := fun _ => rfl

/-- Adding a line keeps the table. -/
theorem Indexed.add {b : Builder} (h : b.Indexed) (number : Nat) (r : Record) :
    (b.add number r).Indexed := by
  intro id
  cases hid : r.id? with
  | none =>
    rw [add_alone hid, Pending.placeOf?_append_singleton, h id, if_neg nofun, Option.or_none]
  | some id' =>
    cases hold : b.byId.lookup id' with
    | some old =>
      rw [add_old hid hold, Pending.placeOf?_modify]
      exact h id
    | none =>
      have hsame : (Pending.annotate { line := number, id? := some id' } r).id? = some id' := rfl
      rw [add_new hid hold, Pending.placeOf?_append_singleton, hsame, ← h id, List.lookup_cons]
      -- The new place belongs to the `id` that was not in the table before.
      by_cases heq : id = id'
      · rw [heq, hold, if_pos rfl, beq_self_eq_true]
        rfl
      · have hne : ¬some id' = some id := fun hsome => heq (Option.some.inj hsome).symm
        rw [beq_false_of_ne heq, if_neg hne, Option.or_none]

/-- With the table, a line goes where a search of the commands for its `id` would bring it. -/
theorem Indexed.add_pending {b : Builder} (h : b.Indexed) (number : Nat) (r : Record) :
    (b.add number r).pending = Pending.add number r b.pending := by
  cases hid : r.id? with
  | none => rw [add_alone hid, Pending.add, hid]
  | some id =>
    rw [Pending.add, hid]
    simp only
    rw [Pending.amend_eq, ← h id]
    cases hold : b.byId.lookup id with
    | none => rw [add_new hid hold]
    | some old => rw [add_old hid hold]

end Builder

end HistoryAudit.Log
