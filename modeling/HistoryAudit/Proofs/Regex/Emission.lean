/-
  HistoryAudit.Proofs.Regex.Emission

  What emitted code answers. Code is sound if it leads nowhere else, and if an
  instruction that takes no step leads to one that does; then every way leads
  down (`Sound.descends`). A part means a function from the answers behind it to
  those in front of it (`Emitter.Means`): in a row the functions are composed
  (`Emitter.Means.seq`), and a repeated set is the longest run of its steps from
  which the rest has an answer (`plus_set_means`). So the search for a pattern is
  the search for the first place at which its function has an answer
  (`Node.find?_eq`).
-/
import HistoryAudit.Proofs.Regex.Search
import HistoryAudit.Text.Blank

namespace HistoryAudit.Regex

/-! ## Steps -/

namespace Cursor

theorem advance_after (n : Nat) (c : Cursor) : (c.advance n).after = c.after.drop n := by
  induction n generalizing c with
  | zero => rfl
  | succ n ih =>
    rw [advance]
    rcases hafter : c.after with _ | ⟨b, rest⟩
    · simp only [hafter, List.drop_nil]
    · simp only [ih, List.drop_succ_cons]

/-- A character takes a byte at least. -/
theorem continuation_size {tails : List Text.Utf8.Tail} {acc size n : Nat} {bs : List UInt8}
    {ch : Char} (h : Text.Utf8.continuation tails acc size bs = .char ch n) : size ≤ n := by
  induction tails generalizing acc size bs with
  | nil =>
    rw [Text.Utf8.continuation, Text.Utf8.Step.char.injEq] at h
    exact Nat.le_of_eq h.2
  | cons t ts ih =>
    cases bs with
    | nil => cases h
    | cons b bs =>
      rw [Text.Utf8.continuation] at h
      split at h
      · exact Nat.le_trans (Nat.le_succ size) (ih h)
      · cases h

theorem nextChar?_size {c : Cursor} {ch : Char} {size : Nat} (h : c.nextChar? = some (ch, size)) :
    0 < size ∧ c.after ≠ [] := by
  rw [nextChar?] at h
  split at h
  · cases h
  · rename_i b bs hafter
    refine ⟨?_, hafter ▸ List.cons_ne_nil b bs⟩
    split at h
    · rename_i ch' size' hstep
      cases h
      -- A character has a first byte and those that continue it.
      rw [Text.Utf8.step] at hstep
      split at hstep
      · exact continuation_size hstep
      · cases hstep
    · cases h

/-- A step of a set takes something. -/
theorem step?_lt {c c' : Cursor} {a : Alphabet} {codes : Array Text.CodeRange}
    (h : c.step? a codes = some c') : c'.after.length < c.after.length := by
  -- Whatever is taken, the rest gets shorter.
  have hshorter : ∀ n, 0 < n → c.after ≠ [] → (c.advance n).after.length < c.after.length := by
    intro n hn hne
    have hpos := List.length_pos_iff.mpr hne
    rw [advance_after, List.length_drop]
    omega
  unfold step? at h
  split at h
  · split at h
    · rename_i b rest hafter
      split at h
      · cases h
        exact hshorter 1 Nat.one_pos (hafter ▸ List.cons_ne_nil b rest)
      · cases h
    · cases h
  · split at h
    · rename_i ch size hnext
      split at h
      · cases h
        obtain ⟨hsize, hne⟩ := nextChar?_size hnext
        exact hshorter size hsize hne
      · cases h
    · cases h

end Cursor

/-! ## Sound code -/

namespace Instruction

/-- Where the instruction leads to. -/
def targets : Instruction → List Nat
  | .done | .fail => []
  | .byte _ n | .set _ _ n | .look _ n => [n]
  | .split first second => [first, second]

/-- Does the instruction lead on without a step? -/
def free : Instruction → Bool
  | .look .. | .split .. => true
  | .done | .fail | .byte .. | .set .. => false

end Instruction

/-- The code has that instruction, and it takes a step. -/
def Entry (code : Array Instruction) (i : Nat) : Prop := ∃ x, code[i]? = some x ∧ x.free = false

/-- Every instruction leads to others of the code, and to such as take a step if it takes none. -/
def Sound (code : Array Instruction) : Prop :=
  ∀ (i : Nat) (x : Instruction), code[i]? = some x → ∀ n ∈ x.targets,
    n < code.size ∧ (x.free = true → Entry code n)

/-- The code has all that the other one has. -/
def Extends (code code' : Array Instruction) : Prop :=
  ∀ (i : Nat) (x : Instruction), code[i]? = some x → code'[i]? = some x

theorem Extends.refl (code : Array Instruction) : Extends code code := fun _ _ h => h

theorem Extends.trans {a b c : Array Instruction} (h : Extends a b) (h' : Extends b c) :
    Extends a c := fun i x hx => h' i x (h i x hx)

theorem Extends.entry {a b : Array Instruction} (h : Extends a b) {i : Nat} (hi : Entry a i) :
    Entry b i := by
  obtain ⟨x, hx, hfree⟩ := hi
  exact ⟨x, h i x hx, hfree⟩

theorem Entry.lt {code : Array Instruction} {i : Nat} (h : Entry code i) : i < code.size := by
  obtain ⟨x, hx, -⟩ := h
  exact (Array.getElem?_eq_some_iff.mp hx).1

theorem extends_push (code : Array Instruction) (x : Instruction) : Extends code (code.push x) := by
  intro i y hy
  have hlt := (Array.getElem?_eq_some_iff.mp hy).1
  rw [Array.getElem?_push, if_neg (Nat.ne_of_lt hlt)]
  exact hy

theorem Sound.push {code : Array Instruction} {x : Instruction} (h : Sound code)
    (hx : ∀ n ∈ x.targets, n < code.size ∧ (x.free = true → Entry code n)) :
    Sound (code.push x) := by
  have hsize : code.size < (code.push x).size := by
    rw [Array.size_push]
    exact Nat.lt_succ_self _
  -- An instruction that was sound leads to the same ones in the longer code.
  have hold : ∀ y : Instruction, (∀ n ∈ y.targets, n < code.size ∧
      (y.free = true → Entry code n)) → ∀ n ∈ y.targets, n < (code.push x).size ∧
        (y.free = true → Entry (code.push x) n) := by
    intro y hy n hn
    obtain ⟨hlt, hentry⟩ := hy n hn
    exact ⟨Nat.lt_trans hlt hsize, fun hfree => (extends_push code x).entry (hentry hfree)⟩
  intro i y hy
  rw [Array.getElem?_push] at hy
  split at hy
  · cases hy
    exact hold x hx
  · exact hold y (h i y hy)

namespace Program

theorem targets_of_mem_ways {p : Program} {i : Nat} {c : Cursor} {w : Nat × Cursor}
    (hw : w ∈ p.ways i c) : ∃ x, p.code[i]? = some x ∧ w.1 ∈ x.targets ∧
      (x.free = true ∧ w.2 = c ∨ x.free = false ∧ w.2.after.length < c.after.length) := by
  unfold ways at hw
  rw [Array.getD_eq_getD_getElem?] at hw
  cases hcode : p.code[i]? with
  | none =>
    rw [hcode] at hw
    cases hw
  | some x =>
    rw [hcode, Option.getD_some] at hw
    refine ⟨x, rfl, ?_⟩
    -- Only a byte and a set take something; the others leave the place as it is.
    cases x with
    | done => cases hw
    | fail => cases hw
    | byte value n =>
      simp only at hw
      split at hw
      · rename_i b rest hafter
        split at hw
        · rw [List.mem_singleton] at hw
          subst hw
          refine ⟨List.mem_singleton_self n, .inr ⟨rfl, ?_⟩⟩
          rw [Cursor.advance_after, hafter]
          exact Nat.lt_succ_self _
        · cases hw
      · cases hw
    | set a codes n =>
      obtain ⟨c', hstep, rfl⟩ := List.mem_map.mp hw
      exact ⟨List.mem_singleton_self n,
        .inr ⟨rfl, Cursor.step?_lt (Option.mem_toList.mp hstep)⟩⟩
    | look kind n =>
      simp only at hw
      split at hw
      · rw [List.mem_singleton] at hw
        subst hw
        exact ⟨List.mem_singleton_self n, .inl ⟨rfl, rfl⟩⟩
      · cases hw
    | split first second =>
      rw [List.mem_pair] at hw
      rcases hw with rfl | rfl
      · exact ⟨List.mem_cons_self, .inl ⟨rfl, rfl⟩⟩
      · exact ⟨List.mem_cons_of_mem _ (List.mem_singleton_self second), .inl ⟨rfl, rfl⟩⟩

/-- How high an instruction stands at a place: what is left counts, and that it takes no step. -/
def height (p : Program) (i : Nat) (c : Cursor) : Nat :=
  2 * c.after.length + if ((p.code[i]?).any (·.free)) = true then 1 else 0

/-- In sound code every way leads down. -/
theorem descends {p : Program} (h : Sound p.code) : p.Descends p.height := by
  intro i c w hw
  obtain ⟨x, hx, htarget, hstep⟩ := targets_of_mem_ways hw
  obtain ⟨-, hentry⟩ := h i x hx w.1 htarget
  rw [height, height, hx, Option.any_some]
  rcases hstep with ⟨hfree, hsame⟩ | ⟨hfree, hless⟩
  · obtain ⟨y, hy, hybound⟩ := hentry hfree
    rw [hsame, hy, Option.any_some, hybound, hfree]
    exact Nat.lt_succ_self _
  · split <;> omega

end Program

/-! ## The meaning of parts -/

/-- What a part makes of the answers behind it. -/
abbrev Sense := (Cursor → Option Nat) → Cursor → Option Nat

/-- In front of `next` a part was put that means `sense`: `r` has its entry and the new code. -/
structure Emitted (code : Array Instruction) (next : Nat) (sense : Sense)
    (r : Nat × Array Instruction) : Prop where
  sound : Sound r.2
  kept : Extends code r.2
  entry : Entry r.2 r.1
  answers : ∀ (p : Program) (answer : Nat → Cursor → Option Nat), Extends r.2 p.code →
    p.Solves answer → answer r.1 = sense (answer next)

/-- Wherever the part is put, it means `sense`. -/
def Emitter.Means (a : Emitter) (sense : Sense) : Prop :=
  ∀ code next, Sound code → Entry code next → Emitted code next sense (a next code)

section Answers

variable {p : Program} {answer : Nat → Cursor → Option Nat} {i : Nat}

theorem answer_done (h : p.Solves answer) (hi : p.code[i]? = some .done) (c : Cursor) :
    answer i c = some c.offset := by
  refine h.done i c ?_
  rw [Program.accepts, Array.getD_eq_getD_getElem?, hi]
  rfl

theorem answer_byte (h : p.Solves answer) {b : UInt8} {n : Nat}
    (hi : p.code[i]? = some (.byte b n)) (c : Cursor) :
    answer i c = if Text.startsWith [b] c.after then answer n (c.advance 1) else none := by
  have haccepts : p.accepts i = false := by
    rw [Program.accepts, Array.getD_eq_getD_getElem?, hi]
    rfl
  rw [h.step i c haccepts, Program.ways, Array.getD_eq_getD_getElem?, hi, Option.getD_some]
  simp only
  rcases c.after with _ | ⟨x, rest⟩
  · rfl
  · by_cases hx : x = b
    · subst hx
      simp [Text.startsWith]
    · simp [Text.startsWith, hx, Ne.symm hx]

theorem answer_set (h : p.Solves answer) {a : Alphabet} {codes : Array Text.CodeRange} {n : Nat}
    (hi : p.code[i]? = some (.set a codes n)) (c : Cursor) :
    answer i c = (c.step? a codes).bind (answer n) := by
  have haccepts : p.accepts i = false := by
    rw [Program.accepts, Array.getD_eq_getD_getElem?, hi]
    rfl
  rw [h.step i c haccepts, Program.ways, Array.getD_eq_getD_getElem?, hi, Option.getD_some]
  simp only
  cases c.step? a codes with
  | none => rfl
  | some c' => simp

theorem answer_split (h : p.Solves answer) {first second : Nat}
    (hi : p.code[i]? = some (.split first second)) (c : Cursor) :
    answer i c = (answer first c).or (answer second c) := by
  have haccepts : p.accepts i = false := by
    rw [Program.accepts, Array.getD_eq_getD_getElem?, hi]
    rfl
  rw [h.step i c haccepts, Program.ways, Array.getD_eq_getD_getElem?, hi, Option.getD_some]
  simp only [List.findSome?_cons, List.findSome?_nil]
  cases answer first c with
  | none => cases answer second c <;> rfl
  | some stop => rfl

end Answers

namespace Emitter

theorem nothing_means : nothing.Means fun k => k := fun code _ hsound hnext =>
  ⟨hsound, .refl code, hnext, fun _ _ _ _ => rfl⟩

/-- Parts in a row. -/
theorem Means.seq {a b : Emitter} {f g : Sense} (ha : a.Means f) (hb : b.Means g) :
    (seq a b).Means fun k => f (g k) := by
  intro code next hsound hnext
  have hlater := hb code next hsound hnext
  have hearlier := ha (b next code).2 (b next code).1 hlater.sound hlater.entry
  refine ⟨hearlier.sound, hlater.kept.trans hearlier.kept, hearlier.entry, ?_⟩
  intro p answer hextends hsolves
  have hfirst := hearlier.answers p answer hextends hsolves
  have hsecond := hlater.answers p answer (hearlier.kept.trans hextends) hsolves
  rw [hsecond] at hfirst
  exact hfirst

/-- One instruction that takes a step. -/
theorem emitted_one {make : Nat → Instruction} {sense : Sense} {code : Array Instruction}
    {next : Nat} (hsound : Sound code) (hnext : Entry code next)
    (htargets : (make next).targets = [next]) (hfree : (make next).free = false)
    (hanswer : ∀ (p : Program) (answer : Nat → Cursor → Option Nat),
      p.code[code.size]? = some (make next) → p.Solves answer →
        answer code.size = sense (answer next)) :
    Emitted code next sense (one make next code) := by
  have hnew : (code.push (make next))[code.size]? = some (make next) := by
    rw [Array.getElem?_push, if_pos rfl]
  refine ⟨hsound.push ?_, extends_push code _, ⟨_, hnew, hfree⟩, ?_⟩
  · intro n hn
    rw [htargets, List.mem_singleton] at hn
    rw [hn, hfree]
    exact ⟨hnext.lt, nofun⟩
  · intro p answer hextends hsolves
    exact hanswer p answer (hextends _ _ hnew) hsolves

/-- The bytes have to come next. -/
def spells (bytes : List UInt8) : Sense := fun k c =>
  if Text.startsWith bytes c.after then k (c.advance bytes.length) else none

theorem byte_means (b : UInt8) : (one (.byte b)).Means (spells [b]) :=
  fun _ _ hsound hnext =>
    emitted_one hsound hnext rfl rfl fun _ _ hi hsolves => funext (answer_byte hsolves hi)

theorem spells_cons (b : UInt8) (bytes : List UInt8) (k : Cursor → Option Nat) :
    spells (b :: bytes) k = spells [b] (spells bytes k) := by
  funext c
  rcases hafter : c.after with _ | ⟨x, rest⟩
  · simp [spells, Text.startsWith, hafter]
  · have hone : c.advance 1 = ⟨c.offset + 1, x :: c.before, rest⟩ := by
      rw [Cursor.advance, hafter]
      rfl
    have hmore : c.advance (bytes.length + 1) = (c.advance 1).advance bytes.length := by
      rw [Cursor.advance, hafter, hone]
    by_cases hx : b = x <;> simp [spells, Text.startsWith, hafter, hone, hmore, hx]

theorem spells_append (front back : List UInt8) (k : Cursor → Option Nat) :
    spells (front ++ back) k = spells front (spells back k) := by
  induction front with
  | nil => rfl
  | cons b front ih => rw [List.cons_append, spells_cons, ih, ← spells_cons]

theorem literal_means (bytes : List UInt8) : (Node.literal bytes).emitter.Means (spells bytes) := by
  rw [Node.emitter]
  induction bytes with
  | nil => exact nothing_means
  | cons b bytes ih =>
    have hseq := (byte_means b).seq ih
    have hsense : (fun k => spells [b] (spells bytes k)) = spells (b :: bytes) :=
      funext fun k => (spells_cons b bytes k).symm
    rw [hsense] at hseq
    exact hseq

/-- The answer behind as many steps of a set as possible, one at least; `fuel` steps are tried. -/
def longestRun (a : Alphabet) (codes : Array Text.CodeRange) (k : Cursor → Option Nat) :
    (fuel : Nat) → Cursor → Option Nat
  | 0, _ => none
  | fuel + 1, c => (c.step? a codes).bind fun c' => (longestRun a codes k fuel c').or (k c')

/-- The choice whether to go on stands in front of the set, which leads back to it. -/
theorem plus_set_eq (a : Alphabet) (codes : Array Text.CodeRange) (next : Nat)
    (code : Array Instruction) :
    plus true (one (.set a codes)) next code =
      (code.size + 1, (code.push (.split (code.size + 1) next)).push (.set a codes code.size)) := by
  have hsize : (code.push Instruction.fail).size = code.size + 1 := Array.size_push _
  refine Prod.ext hsize (Array.ext_getElem? fun i => ?_)
  show (((code.push .fail).push (.set a codes code.size)).setIfInBounds code.size
    (choice true (code.push .fail).size next))[i]? = _
  rw [hsize, Array.getElem?_setIfInBounds, Array.getElem?_push, Array.getElem?_push,
    Array.getElem?_push, Array.getElem?_push]
  simp only [Array.size_push]
  by_cases hi : code.size = i
  · subst hi
    -- At the place of the choice the first instruction was replaced.
    have hlast : code.size ≠ code.size + 1 := Nat.ne_of_lt (Nat.lt_succ_self _)
    rw [if_pos rfl, if_pos (by omega), if_neg hlast, if_pos rfl]
    rfl
  · rw [if_neg hi, if_neg (Ne.symm hi), if_neg (Ne.symm hi)]

/-- A repeated set goes on as long as it can, and comes back as far as it must. -/
theorem plus_set_means (a : Alphabet) (codes : Array Text.CodeRange) :
    (plus true (one (.set a codes))).Means fun k c => longestRun a codes k c.after.length c := by
  intro code next hsound hnext
  rw [plus_set_eq]
  let loop := code.size
  let step : Instruction := .set a codes loop
  let back : Instruction := .split (loop + 1) next
  have hback : ((code.push back).push step)[loop]? = some back := by
    rw [Array.getElem?_push, Array.size_push, if_neg (Nat.ne_of_lt (Nat.lt_succ_self _)),
      Array.getElem?_push, if_pos rfl]
  have hstep : ((code.push back).push step)[loop + 1]? = some step := by
    rw [Array.getElem?_push, Array.size_push, if_pos rfl]
  have hkept : Extends code ((code.push back).push step) :=
    (extends_push code back).trans (extends_push _ step)
  have hsize : ((code.push back).push step).size = loop + 2 := by
    rw [Array.size_push, Array.size_push]
  have hentry : Entry ((code.push back).push step) (loop + 1) := ⟨step, hstep, rfl⟩
  refine ⟨?_, hkept, hentry, ?_⟩
  · intro i x hx n hn
    rw [Array.getElem?_push, Array.getElem?_push] at hx
    split at hx
    · cases hx
      rw [List.mem_singleton.mp hn, hsize]
      exact ⟨Nat.lt_add_of_pos_right Nat.two_pos, nofun⟩
    · split at hx
      · cases hx
        rcases List.mem_pair.mp hn with rfl | rfl
        · exact ⟨hentry.lt, fun _ => hentry⟩
        · have hnext := hkept.entry hnext
          exact ⟨hnext.lt, fun _ => hnext⟩
      · obtain ⟨hlt, hbound⟩ := hsound i x hx n hn
        have hlater : n < loop + 2 := Nat.lt_add_right 2 hlt
        exact ⟨hsize ▸ hlater, fun hfree => hkept.entry (hbound hfree)⟩
  · intro p answer hextends hsolves
    have hat := answer_set hsolves (hextends _ _ hstep)
    have hchoice := answer_split hsolves (hextends _ _ hback)
    -- Every step leaves less, so that the steps tried are all there are.
    suffices ∀ fuel c, c.after.length ≤ fuel →
        answer (loop + 1) c = longestRun a codes (answer next) fuel c from
      funext fun c => this c.after.length c (Nat.le_refl _)
    intro fuel
    induction fuel with
    | zero =>
      intro c hc
      rw [hat, longestRun]
      cases hs : c.step? a codes with
      | none => rfl
      | some c' =>
        have hless := Cursor.step?_lt hs
        omega
    | succ fuel ih =>
      intro c hc
      rw [hat, longestRun]
      cases hs : c.step? a codes with
      | none => rfl
      | some c' =>
        have hless := Cursor.step?_lt hs
        rw [Option.bind_some, Option.bind_some, hchoice, ih c' (by omega)]

end Emitter

/-- The first match of a pattern starts at the first place at which its sense has an answer. -/
theorem Node.find?_eq {node : Node} {sense : Sense} (h : node.emitter.Means sense)
    (hay : List UInt8) :
    node.program.find? hay = (List.range (hay.length + 1)).findSome? fun n =>
      (sense (fun c => some c.offset) (.behind hay n)).map (n, ·) := by
  have hdone : (#[.done] : Array Instruction)[0]? = some .done := rfl
  have hentry : Entry #[.done] 0 := ⟨.done, hdone, rfl⟩
  have hsound : Sound #[.done] := by
    intro i x hx n hn
    have hi : i = 0 := Nat.lt_one_iff.mp (Array.getElem?_eq_some_iff.mp hx).1
    subst hi
    cases hx
    cases hn
  -- The code of the node is put behind the one instruction that ends a match.
  have hnode := h #[.done] 0 hsound hentry
  have hdown := Program.descends (p := node.program) hnode.sound
  obtain ⟨answer, hsolves⟩ := Program.exists_solves hdown
  have hclosed : ∀ i c, ∀ w ∈ node.program.ways i c, w.1 < node.program.code.size := by
    intro i c w hw
    obtain ⟨x, hx, htarget, -⟩ := Program.targets_of_mem_ways hw
    exact (hnode.sound i x hx w.1 htarget).1
  -- Where the match ends, the answer is the place itself.
  have hend : answer 0 = fun c => some c.offset :=
    funext (answer_done hsolves (hnode.kept 0 .done hdone))
  have hanswer : answer node.program.start = sense fun c => some c.offset := by
    rw [← hend]
    exact hnode.answers node.program answer (.refl _) hsolves
  rw [Program.find?_eq hsolves hdown hclosed hnode.entry.lt, hanswer]

end HistoryAudit.Regex
