/-
  HistoryAudit.Proofs.Regex.Search

  The search gives every place its first chance: it finds the leftmost place at
  which a match starts, and there the match that the program prefers. What a
  program prefers is said by its answers (`Program.Solves`): from an instruction
  the first way is taken that leads to a match. They exist for every program
  that comes down to a step sooner or later (`Program.exists_solves`). A branch
  that was tried is not tried again; all that it has left are the branches that
  it put on top of the list, and they are lower than itself (`Pays`). So when it
  comes up again they are gone, and it has failed (`search_eq`).
-/
import HistoryAudit.Regex.Search
import Mathlib.Data.Finset.Card
import Mathlib.Data.Finset.Range

namespace HistoryAudit.Regex

/-! ## Places -/

namespace Cursor

/-- The place behind the first `n` bytes. -/
def behind (hay : List UInt8) (n : Nat) : Cursor := ⟨n, (hay.take n).reverse, hay.drop n⟩

/-- The cursor is a place of the byte sequence. -/
def In (hay : List UInt8) (c : Cursor) : Prop := c.offset ≤ hay.length ∧ c = behind hay c.offset

theorem behind_in {hay : List UInt8} {n : Nat} (h : n ≤ hay.length) : (behind hay n).In hay :=
  ⟨h, rfl⟩

/-- A place is told by its offset. -/
theorem In.ext {hay : List UInt8} {c c' : Cursor} (h : c.In hay) (h' : c'.In hay)
    (hoffset : c.offset = c'.offset) : c = c' := by
  rw [h.2, h'.2, hoffset]

theorem advance_of_nil {c : Cursor} (h : c.after = []) (n : Nat) : c.advance n = c := by
  cases n with
  | zero => rfl
  | succ n => rw [advance, h]

/-- Going on stops at the end. -/
theorem behind_advance {hay : List UInt8} {m : Nat} (h : m ≤ hay.length) (n : Nat) :
    (behind hay m).advance n = behind hay (min (m + n) hay.length) := by
  -- Going on by one byte is a step; at the end it is none.
  induction n generalizing m with
  | zero => rw [Nat.add_zero, Nat.min_eq_left h, advance]
  | succ n ih =>
    rcases Nat.eq_or_lt_of_le h with rfl | hlt
    · have hend : (behind hay hay.length).after = [] := List.drop_length
      rw [advance_of_nil hend, Nat.min_eq_right (Nat.le_add_right _ _)]
    · have hafter : hay.drop m = hay[m] :: hay.drop (m + 1) := List.drop_eq_getElem_cons hlt
      have hbefore : hay[m] :: (hay.take m).reverse = (hay.take (m + 1)).reverse := by
        rw [List.take_succ_eq_append_getElem hlt, List.reverse_append]
        rfl
      have hnext : (behind hay m).advance (n + 1) = (behind hay (m + 1)).advance n := by
        rw [advance, behind]
        simp only [hafter, hbefore]
        rfl
      rw [hnext, ih hlt, Nat.succ_add, Nat.add_succ]

theorem In.advance {hay : List UInt8} {c : Cursor} (h : c.In hay) (n : Nat) :
    (c.advance n).In hay := by
  rw [h.2, behind_advance h.1]
  exact behind_in (Nat.min_le_right _ _)

theorem In.step? {hay : List UInt8} {c c' : Cursor} {a : Alphabet} {codes : Array Text.CodeRange}
    (h : c.In hay) (hstep : c.step? a codes = some c') : c'.In hay := by
  unfold Cursor.step? at hstep
  -- Over bytes and over characters alike, a step goes on from the same place.
  split at hstep
  · split at hstep
    · split at hstep
      · cases hstep
        exact h.advance 1
      · cases hstep
    · cases hstep
  · split at hstep
    · split at hstep
      · cases hstep
        exact h.advance _
      · cases hstep
    · cases hstep

/-- All places are the ones behind some bytes, from left to right. -/
theorem all_eq (hay : List UInt8) :
    all 0 [] hay = (List.range (hay.length + 1)).map (behind hay) := by
  -- For the induction the bytes passed so far have to vary.
  suffices ∀ front rest, hay = front ++ rest →
      all front.length front.reverse rest =
        (List.range' front.length (rest.length + 1)).map (behind hay) by
    have hall := this [] hay rfl
    rwa [List.length_nil, List.reverse_nil, ← List.range_eq_range'] at hall
  intro front rest
  induction rest generalizing front with
  | nil =>
    rintro rfl
    simp [all, behind]
  | cons b rest ih =>
    rintro rfl
    have hrest := ih (front ++ [b]) (by rw [List.append_assoc]; rfl)
    rw [List.length_append, List.reverse_append] at hrest
    have hhere : behind (front ++ b :: rest) front.length =
        ⟨front.length, front.reverse, b :: rest⟩ := by simp [behind]
    rw [List.length_cons, List.range'_succ, List.map_cons, hhere, all]
    exact congrArg _ hrest

end Cursor

namespace Program

/-! ## Ways -/

/-- Does the instruction end a match? -/
def accepts (p : Program) (i : Nat) : Bool :=
  match p.code.getD i .fail with
  | .done => true
  | _ => false

/-- Where an instruction leads to from a place, what it prefers first. -/
def ways (p : Program) (i : Nat) (c : Cursor) : List (Nat × Cursor) :=
  match p.code.getD i .fail with
  | .done | .fail => []
  | .byte value n =>
    match c.after with
    | b :: _ => if b == value then [(n, c.advance 1)] else []
    | [] => []
  | .set a codes n => (c.step? a codes).toList.map fun c => (n, c)
  | .look kind n => if c.sees kind then [(n, c)] else []
  | .split first second => [(first, c), (second, c)]

theorem length_ways_le (p : Program) (i : Nat) (c : Cursor) : (p.ways i c).length ≤ 2 := by
  unfold ways
  split
  · exact Nat.zero_le 2
  · exact Nat.zero_le 2
  · split
    · split <;> simp
    · exact Nat.zero_le 2
  · cases c.step? _ _ <;> simp
  · split <;> simp
  · simp

theorem In_of_mem_ways {p : Program} {hay : List UInt8} {i : Nat} {c : Cursor} (h : c.In hay)
    {w : Nat × Cursor} (hw : w ∈ p.ways i c) : w.2.In hay := by
  unfold ways at hw
  -- Each way stays at its place or goes on from it.
  split at hw
  · cases hw
  · cases hw
  · split at hw
    · split at hw
      · rw [List.mem_singleton] at hw
        rw [hw]
        exact h.advance 1
      · cases hw
    · cases hw
  · obtain ⟨c', hstep, rfl⟩ := List.mem_map.mp hw
    exact h.step? (Option.mem_toList.mp hstep)
  · split at hw
    · rw [List.mem_singleton] at hw
      rw [hw]
      exact h
    · cases hw
  · rw [List.mem_pair] at hw
    rcases hw with rfl | rfl
    · exact h
    · exact h

/-- The branches that take the ways of a branch. -/
def branches (p : Program) (b : Branch) : List Branch :=
  (p.ways b.instruction b.cursor).map fun w => ⟨w.1, b.start, w.2⟩

/-- The number by which a branch is known that was tried. -/
def key (width : Nat) (b : Branch) : Nat := b.instruction * width + b.cursor.offset

/-- One step of the search. -/
theorem search_cons (p : Program) (width fuel : Nat) (b : Branch) (rest : List Branch)
    (tried : Std.HashSet Nat) :
    p.search width (fuel + 1) (b :: rest) tried =
      if tried.contains (key width b) then p.search width fuel rest tried
      else if p.accepts b.instruction then some (b.start, b.cursor.offset)
      else p.search width fuel (p.branches b ++ rest) (tried.insert (key width b)) := by
  rw [search, accepts, branches, ways, key]
  by_cases htried : tried.contains (b.instruction * width + b.cursor.offset) = true
  · rw [if_pos htried, if_pos htried]
  · rw [if_neg htried, if_neg htried]
    -- The ways of each instruction are those that the search puts on its stack.
    cases p.code.getD b.instruction .fail with
    | done => rfl
    | fail => rfl
    | byte value n =>
      simp only
      rcases b.cursor.after with _ | ⟨c, rest⟩
      · rfl
      · simp only
        by_cases hc : (c == value) = true
        · rw [if_pos hc, if_pos hc]
          rfl
        · rw [if_neg hc, if_neg hc]
          rfl
    | set a codes n =>
      simp only
      cases b.cursor.step? a codes <;> rfl
    | look kind n =>
      simp only
      by_cases hsees : b.cursor.sees kind = true
      · rw [if_pos hsees, if_pos hsees]
        rfl
      · rw [if_neg hsees, if_neg hsees]
        rfl
    | split first second => rfl

/-! ## Answers -/

/-- `answer` tells where the match ends that the program prefers, from each instruction at each
place. -/
structure Solves (p : Program) (answer : Nat → Cursor → Option Nat) : Prop where
  done : ∀ i c, p.accepts i = true → answer i c = some c.offset
  step : ∀ i c, p.accepts i = false →
    answer i c = (p.ways i c).findSome? fun w => answer w.1 w.2

/-- Every way leads down. -/
def Descends (p : Program) (height : Nat → Cursor → Nat) : Prop :=
  ∀ i c, ∀ w ∈ p.ways i c, height w.1 w.2 < height i c

/-- What the program answers after so many steps at most. -/
def answerIn (p : Program) : (fuel : Nat) → Nat → Cursor → Option Nat
  | 0, _, _ => none
  | fuel + 1, i, c =>
    if p.accepts i then some c.offset
    else (p.ways i c).findSome? fun w => p.answerIn fuel w.1 w.2

theorem findSome?_congr {α β : Type} {f g : α → Option β} {l : List α}
    (h : ∀ x ∈ l, f x = g x) : l.findSome? f = l.findSome? g := by
  rw [← List.head?_filterMap, ← List.head?_filterMap, List.filterMap_congr h]

theorem answerIn_eq {p : Program} {height : Nat → Cursor → Nat} (h : p.Descends height)
    {fuel more : Nat} {i : Nat} {c : Cursor} (hfuel : height i c < fuel)
    (hmore : height i c < more) : p.answerIn fuel i c = p.answerIn more i c := by
  induction fuel generalizing more i c with
  | zero => omega
  | succ fuel ih =>
    cases more with
    | zero => omega
    | succ more =>
      rw [answerIn, answerIn]
      refine congrArg (ite _ _) (findSome?_congr fun w hw => ?_)
      have hlower := h i c w hw
      exact ih (by omega) (by omega)

/-- A program of which every way leads down has answers. -/
theorem exists_solves {p : Program} {height : Nat → Cursor → Nat} (h : p.Descends height) :
    ∃ answer, p.Solves answer := by
  refine ⟨fun i c => p.answerIn (height i c + 1) i c, ?_, ?_⟩
  · intro i c haccepts
    rw [answerIn, if_pos haccepts]
  · intro i c haccepts
    rw [answerIn, if_neg (by rw [haccepts]; decide)]
    refine findSome?_congr fun w hw => ?_
    exact answerIn_eq h (h i c w hw) (Nat.lt_succ_self _)

/-! ## The search -/

/-- What a branch answers. -/
def answerOf (answer : Nat → Cursor → Option Nat) (b : Branch) : Option Nat :=
  answer b.instruction b.cursor

/-- A branch that was tried is paid for: what it answers is answered by branches on top of the list
that are lower than itself. -/
def Pays (answer : Nat → Cursor → Option Nat) (height : Nat → Cursor → Nat) (stack : List Branch)
    (b : Branch) : Prop :=
  ∃ n, (∀ x ∈ stack.take n, height x.instruction x.cursor < height b.instruction b.cursor) ∧
    answerOf answer b = (stack.take n).findSome? (answerOf answer)

/-- A branch within the bounds of the search. -/
def Fits (p : Program) (hay : List UInt8) (b : Branch) : Prop :=
  b.instruction < p.code.size ∧ b.cursor.In hay

section Search

variable {p : Program} {hay : List UInt8} {answer : Nat → Cursor → Option Nat}
  {height : Nat → Cursor → Nat} {stack rest : List Branch} {b x : Branch}

/-- The number of a branch tells its instruction and its place. -/
theorem eq_of_key_eq (hb : p.Fits hay b) (hx : p.Fits hay x)
    (h : key (hay.length + 1) b = key (hay.length + 1) x) :
    b.instruction = x.instruction ∧ b.cursor = x.cursor := by
  have hbound : ∀ y : Branch, p.Fits hay y → y.cursor.offset < hay.length + 1 :=
    fun y hy => Nat.lt_succ_of_le hy.2.1
  have hdiv := congrArg (· / (hay.length + 1)) h
  have hmod := congrArg (· % (hay.length + 1)) h
  simp only [key, Nat.mul_add_mod_self_right, Nat.mod_eq_of_lt (hbound b hb),
    Nat.mod_eq_of_lt (hbound x hx)] at hmod
  -- The place is the remainder, so the instruction is the quotient.
  have hquotient : ∀ y : Branch, p.Fits hay y →
      (y.instruction * (hay.length + 1) + y.cursor.offset) / (hay.length + 1) =
        y.instruction := by
    intro y hy
    rw [Nat.mul_comm, Nat.mul_add_div (Nat.succ_pos _), Nat.div_eq_of_lt (hbound y hy),
      Nat.add_zero]
  simp only [key, hquotient b hb, hquotient x hx] at hdiv
  exact ⟨hdiv, hb.2.ext hx.2 hmod⟩

theorem key_lt (hb : p.Fits hay b) :
    key (hay.length + 1) b < p.code.size * (hay.length + 1) := by
  have hplace : b.cursor.offset < hay.length + 1 := Nat.lt_succ_of_le hb.2.1
  calc key (hay.length + 1) b
      < b.instruction * (hay.length + 1) + (hay.length + 1) := Nat.add_lt_add_left hplace _
    _ = (b.instruction + 1) * (hay.length + 1) := (Nat.succ_mul _ _).symm
    _ ≤ p.code.size * (hay.length + 1) := Nat.mul_le_mul_right _ hb.1

/-- What is on top of the list was not tried, unless it has failed. -/
theorem Pays.failed (h : Pays answer height (b :: rest) x) (hi : b.instruction = x.instruction)
    (hc : b.cursor = x.cursor) : answerOf answer b = none := by
  obtain ⟨n, hlower, hanswer⟩ := h
  cases n with
  | zero =>
    rw [answerOf, hi, hc]
    exact hanswer
  | succ n =>
    have htop := hlower b List.mem_cons_self
    rw [hi, hc] at htop
    exact absurd htop (Nat.lt_irrefl _)

/-- A branch stays paid for when the one on top is replaced by lower ones that answer the same. -/
theorem Pays.replace {new : List Branch} (h : Pays answer height (b :: rest) x)
    (hlower : ∀ y ∈ new, height y.instruction y.cursor < height b.instruction b.cursor)
    (hanswer : answerOf answer b = new.findSome? (answerOf answer)) :
    Pays answer height (new ++ rest) x := by
  obtain ⟨n, hn, hx⟩ := h
  -- A branch paid for by none is paid for still.
  cases n with
  | zero => exact ⟨0, fun y hy => absurd hy List.not_mem_nil, hx⟩
  | succ n =>
    rw [List.take_succ_cons] at hn hx
    -- The new ones stand in the place of the one on top.
    have htake : (new ++ rest).take (new.length + n) = new ++ rest.take n := by
      rw [List.take_append, List.take_of_length_le (Nat.le_add_right _ _), Nat.add_sub_cancel_left]
    refine ⟨new.length + n, ?_, ?_⟩
    · rw [htake]
      intro y hy
      rcases List.mem_append.mp hy with hy | hy
      · exact Nat.lt_trans (hlower y hy) (hn b List.mem_cons_self)
      · exact hn y (List.mem_cons_of_mem _ hy)
    · rw [htake, hx, List.findSome?_cons, hanswer, List.findSome?_append]
      cases new.findSome? (answerOf answer) <;> rfl

/-- What is left to try. -/
def untried (bound : Nat) (tried : Std.HashSet Nat) : Finset Nat :=
  (Finset.range bound).filter fun k => tried.contains k = false

theorem card_untried_insert {bound k : Nat} {tried : Std.HashSet Nat} (hk : k < bound)
    (h : tried.contains k = false) :
    (untried bound (tried.insert k)).card < (untried bound tried).card := by
  refine Finset.card_lt_card ⟨fun x hx => ?_, fun hsub => ?_⟩
  · obtain ⟨hx, hnot⟩ := Finset.mem_filter.mp hx
    rw [Std.HashSet.contains_insert, Bool.or_eq_false_iff] at hnot
    exact Finset.mem_filter.mpr ⟨hx, hnot.2⟩
  · have hmem := hsub (Finset.mem_filter.mpr ⟨Finset.mem_range.mpr hk, h⟩)
    have hnot := (Finset.mem_filter.mp hmem).2
    rw [Std.HashSet.contains_insert, Bool.or_eq_false_iff] at hnot
    simp at hnot

/-- The search gives the answer of the first branch that has one. -/
theorem search_eq (hsolves : p.Solves answer) (hdown : p.Descends height)
    (hclosed : ∀ i c, ∀ w ∈ p.ways i c, w.1 < p.code.size) (fuel : Nat) (stack : List Branch)
    (tried : Std.HashSet Nat) (hstack : ∀ b ∈ stack, p.Fits hay b)
    (htried : ∀ k, tried.contains k = true →
      ∃ x, p.Fits hay x ∧ k = key (hay.length + 1) x ∧ Pays answer height stack x)
    (hfuel : stack.length +
      2 * (untried (p.code.size * (hay.length + 1)) tried).card < fuel) :
    p.search (hay.length + 1) fuel stack tried =
      stack.findSome? fun b => (answerOf answer b).map (b.start, ·) := by
  induction fuel generalizing stack tried with
  | zero => omega
  | succ fuel ih =>
    cases stack with
    | nil => rfl
    | cons b rest =>
      obtain ⟨hb, hrest⟩ := List.forall_mem_cons.mp hstack
      rw [List.length_cons] at hfuel
      rw [search_cons, List.findSome?_cons]
      by_cases hknown : tried.contains (key (hay.length + 1) b) = true
      · -- The branch was tried, and nothing is left of it.
        obtain ⟨x, hx, hkey, hpays⟩ := htried _ hknown
        obtain ⟨hi, hc⟩ := eq_of_key_eq hb hx hkey
        have hfailed := hpays.failed hi hc
        rw [if_pos hknown, hfailed, ih rest tried hrest ?_ (by omega)]
        · rfl
        · intro k hk
          obtain ⟨y, hy, hkey, hpays⟩ := htried k hk
          exact ⟨y, hy, hkey, hpays.replace (fun z hz => absurd hz List.not_mem_nil) hfailed⟩
      rw [if_neg hknown]
      cases haccepts : p.accepts b.instruction with
      | true =>
        have hdone : answerOf answer b = some b.cursor.offset := hsolves.done _ _ haccepts
        rw [hdone]
        rfl
      | false =>
        -- The branch is paid for by those that take its ways.
        have hlower : ∀ y ∈ p.branches b,
            height y.instruction y.cursor < height b.instruction b.cursor := by
          intro y hy
          obtain ⟨w, hw, rfl⟩ := List.mem_map.mp hy
          exact hdown _ _ w hw
        have hanswer : answerOf answer b = (p.branches b).findSome? (answerOf answer) := by
          rw [branches, List.findSome?_map]
          exact hsolves.step _ _ haccepts
        have hnew : ∀ y ∈ p.branches b, p.Fits hay y := by
          intro y hy
          obtain ⟨w, hw, rfl⟩ := List.mem_map.mp hy
          exact ⟨hclosed _ _ w hw, In_of_mem_ways hb.2 hw⟩
        have hcard := card_untried_insert (key_lt hb) (Bool.eq_false_iff.mpr hknown)
        have hlength : (p.branches b).length ≤ 2 := by
          rw [branches, List.length_map]
          exact p.length_ways_le _ _
        rw [if_neg Bool.false_ne_true,
          ih (p.branches b ++ rest) _ (List.forall_mem_append.mpr ⟨hnew, hrest⟩) ?_ ?_]
        · rw [List.findSome?_append, hanswer]
          have hstart : (p.branches b).findSome? (fun y => (answerOf answer y).map (y.start, ·)) =
              ((p.branches b).findSome? (answerOf answer)).map (b.start, ·) := by
            rw [branches, List.findSome?_map, List.findSome?_map, List.map_findSome?]
            rfl
          rw [hstart]
          cases (p.branches b).findSome? (answerOf answer) <;> rfl
        · intro k hk
          rw [Std.HashSet.contains_insert, Bool.or_eq_true, beq_iff_eq] at hk
          rcases hk with rfl | hk
          · refine ⟨b, hb, rfl, (p.branches b).length, ?_, ?_⟩
            · rw [List.take_left]
              exact hlower
            · rw [List.take_left]
              exact hanswer
          · obtain ⟨y, hy, hkey, hpays⟩ := htried k hk
            exact ⟨y, hy, hkey, hpays.replace hlower hanswer⟩
        · rw [List.length_append]
          omega

/-- The first match starts at the first place from which the program answers, and ends where it
answers. -/
theorem find?_eq (hsolves : p.Solves answer) (hdown : p.Descends height)
    (hclosed : ∀ i c, ∀ w ∈ p.ways i c, w.1 < p.code.size) (hstart : p.start < p.code.size)
    (hay : List UInt8) :
    p.find? hay = (List.range (hay.length + 1)).findSome? fun n =>
      (answer p.start (.behind hay n)).map (n, ·) := by
  rw [find?, Cursor.all_eq, List.map_map]
  rw [search_eq hsolves hdown hclosed]
  · rw [List.findSome?_map]
    rfl
  · intro b hb
    obtain ⟨n, hn, rfl⟩ := List.mem_map.mp hb
    exact ⟨hstart, Cursor.behind_in (Nat.le_of_lt_succ (List.mem_range.mp hn))⟩
  · intro k hk
    simp at hk
  · -- The fuel suffices to try each instruction at each place.
    have hcard : (untried (p.code.size * (hay.length + 1)) ∅).card ≤
        p.code.size * (hay.length + 1) := by
      refine (Finset.card_filter_le _ _).trans ?_
      rw [Finset.card_range]
    rw [List.length_map, List.length_range, Nat.mul_assoc]
    omega

end Search

end Program

end HistoryAudit.Regex
