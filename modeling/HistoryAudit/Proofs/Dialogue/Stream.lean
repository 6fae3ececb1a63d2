/-
  HistoryAudit.Proofs.Dialogue.Stream

  The output of a dialogue as one stream: what is in the buffer, and what the
  device has still to give. Listening moves bytes from the second part to the
  first, so the stream stays; a match takes its bytes from the front of it
  (`waitUntil_took`). For a settled pattern the match is the first one of the
  whole stream, however much of it had arrived (`expectMatch_split`).
-/
import HistoryAudit.Proofs.Pattern.Settled
import HistoryAudit.Proofs.Session.Calls

namespace HistoryAudit

namespace Dialogue

/-- The output that was not matched, and all that is still to come. -/
def stream (g : Dialogue) : List UInt8 := g.buffer ++ g.session.device.upcoming

/-- A dialogue that has just begun, on a device with these cues. -/
def ofCues (cues : List Device.Cue) : Dialogue :=
  { session := ⟨.blank {}, 0, .ofScript { cues }, {}⟩
    prompt := Config.defaultPrompt
    timeout := 100 }

/-- Waiting changes neither the prompt nor the number of the last one. -/
structure SamePrompt (g g' : Dialogue) : Prop where
  prompt : g'.prompt = g.prompt
  lastNumber : g'.lastNumber? = g.lastNumber?

theorem SamePrompt.trans {g₁ g₂ g₃ : Dialogue} (h : SamePrompt g₁ g₂) (h' : SamePrompt g₂ g₃) :
    SamePrompt g₁ g₃ := ⟨h'.prompt.trans h.prompt, h'.lastNumber.trans h.lastNumber⟩

/-- A wait takes `t`: of the stream some bytes had arrived, and they were split there. -/
structure Took (p : Pattern) (g : Dialogue) (t : Taken) (g' : Dialogue) : Prop where
  split : ∃ arrived rest later, g.stream = arrived ++ later ∧
    p.split? arrived = some (t, rest) ∧ g'.stream = rest ++ later
  samePrompt : SamePrompt g g'

/-- If the pattern is settled, this is the split of the whole stream. -/
theorem Took.split_stream {p : Pattern} {g g' : Dialogue} {t : Taken} (h : Took p g t g')
    (hp : p.Settled) : p.split? g.stream = some (t, g'.stream) := by
  obtain ⟨arrived, rest, later, hg, ht, hg'⟩ := h.split
  rw [hg, hg', hp arrived t rest ht later]

/-! ## Listening -/

/-- Listening reads once, and what arrives comes behind the buffer. -/
theorem listen_ok {g g' : Dialogue} {timeout : Nat} (h : g.listen timeout = (.ok (), g')) :
    ∃ c, (g.session.read timeout).1 = .ok c ∧ g'.buffer = g.buffer ++ c.bytes ∧
      g'.session = (g.session.read timeout).2 ∧ SamePrompt g g' := by
  unfold listen at h
  simp only at h
  split at h
  · cases h
  · rename_i bytes hr
    cases h
    exact ⟨_, hr, rfl, rfl, rfl, rfl⟩
  · rename_i hr
    cases h
    exact ⟨_, hr, (List.append_nil _).symm, rfl, rfl, rfl⟩
  · rename_i hr
    cases h
    exact ⟨_, hr, (List.append_nil _).symm, rfl, rfl, rfl⟩

theorem listen_stream {g g' : Dialogue} {timeout : Nat} (h : g.listen timeout = (.ok (), g')) :
    g'.stream = g.stream ∧ SamePrompt g g' := by
  obtain ⟨c, hr, hbuffer, hsession, hsame⟩ := listen_ok h
  refine ⟨?_, hsame⟩
  rw [stream, stream, hbuffer, hsession, List.append_assoc, g.session.read_upcoming timeout hr]

/-! ## Waiting -/

section Round

variable {started deadline : Nat} {p : Pattern} {g g' : Dialogue}

theorem take?_eq_none_iff : g.take? p = none ↔ p.find? g.buffer = none := Option.map_eq_none_iff

/-- What is taken from the buffer is its split, and the rest stays. -/
theorem take?_eq_some_iff {t : Taken} :
    g.take? p = some (t, g') ↔
      ∃ rest, p.split? g.buffer = some (t, rest) ∧ g' = { g with buffer := rest } := by
  constructor
  · intro h
    obtain ⟨e, he, ht⟩ := Option.map_eq_some_iff.mp h
    cases ht
    exact ⟨_, by rw [Pattern.split?, he]; rfl, rfl⟩
  · rintro ⟨rest, hsplit, rfl⟩
    obtain ⟨e, he, ht⟩ := Option.map_eq_some_iff.mp hsplit
    cases ht
    exact Option.map_eq_some_iff.mpr ⟨e, he, rfl⟩

theorem waitUntil_of_take {t : Taken} (htake : g.take? p = some (t, g')) :
    waitUntil started deadline p g = (.ok (.matched t.toMatch), g') := by
  rw [waitUntil, htake]

theorem waitUntil_of_ended (htake : g.take? p = none) (he : g.ended = true) :
    waitUntil started deadline p g = (.ok (.exited g.pending), g) := by
  rw [waitUntil, htake]
  exact dif_pos he

theorem waitUntil_of_late (htake : g.take? p = none) (he : ¬g.ended = true)
    (hd : deadline ≤ g.clock) :
    waitUntil started deadline p g =
      (.ok (.timedOut (g.clock - started) g.pending g.session.snapshot), g) := by
  rw [waitUntil, htake]
  exact (dif_neg he).trans (dif_pos hd)

theorem waitUntil_of_listen {r : Except Failure Unit} (htake : g.take? p = none)
    (he : ¬g.ended = true) (hd : ¬deadline ≤ g.clock)
    (hl : g.listen (min (deadline - g.clock) readSlice) = (r, g')) :
    waitUntil started deadline p g =
      match r with
      | .error f => (.error f, g')
      | .ok () => waitUntil started deadline p g' := by
  rw [waitUntil, htake]
  simp only [dif_neg he, dif_neg hd]
  split
  · rename_i hl'
    rw [hl] at hl'
    cases hl'
    rfl
  · rename_i hl'
    rw [hl] at hl'
    cases hl'
    rfl

end Round

/-- A wait that matches has taken its match from the stream. -/
theorem waitUntil_took {started deadline : Nat} {p : Pattern} {g g' : Dialogue} {m : Match}
    (h : waitUntil started deadline p g = (.ok (.matched m), g')) :
    ∃ t, Took p g t g' ∧ m = t.toMatch := by
  fun_induction waitUntil started deadline p g with
  | case1 g t g₁ htake =>
    -- The match is in the buffer, and what is still to come stays behind it.
    obtain ⟨rest, hsplit, rfl⟩ := take?_eq_some_iff.mp htake
    cases h
    exact ⟨t, ⟨⟨g.buffer, rest, g.session.device.upcoming, rfl, hsplit, rfl⟩, ⟨rfl, rfl⟩⟩, rfl⟩
  | case2 => cases h
  | case3 => cases h
  | case4 => cases h
  | case5 g htake he hd g₁ hl ih =>
    -- Listening keeps the stream, so the later match is one of this stream.
    obtain ⟨t, ht, hm⟩ := ih h
    obtain ⟨hstream, hsame⟩ := listen_stream hl
    obtain ⟨arrived, rest, later, hg, hsplit, hg'⟩ := ht.split
    exact ⟨t, ⟨⟨arrived, rest, later, hstream ▸ hg, hsplit, hg'⟩, hsame.trans ht.samePrompt⟩, hm⟩

theorem expectMatch_took {p : Pattern} {g g' : Dialogue} {m : Match}
    (h : g.expectMatch p = (.ok m, g')) : ∃ t, Took p g t g' ∧ m = t.toMatch := by
  unfold expectMatch at h
  split at h
  · rename_i outcome g₁ heq
    cases outcome with
    | matched found =>
      cases h
      exact waitUntil_took heq
    | timedOut => cases h
    | exited => cases h
  · cases h

/-- A wait for a settled pattern that matches splits the whole stream. -/
theorem expectMatch_split {p : Pattern} {g g' : Dialogue} {m : Match} (hp : p.Settled)
    (h : g.expectMatch p = (.ok m, g')) :
    ∃ t, p.split? g.stream = some (t, g'.stream) ∧ m = t.toMatch ∧ SamePrompt g g' := by
  obtain ⟨t, ht, hm⟩ := expectMatch_took h
  exact ⟨t, ht.split_stream hp, hm, ht.samePrompt⟩

/-! ## Waits one after the other -/

/-- Makes waits one after the other, as long as they match. -/
def expectAll (waits : List (Dialogue → Except Failure Match × Dialogue)) (g : Dialogue) :
    Except Failure (List Match) × Dialogue :=
  match waits with
  | [] => (.ok [], g)
  | wait :: waits =>
    match wait g with
    | (.error f, g) => (.error f, g)
    | (.ok m, g) =>
      match expectAll waits g with
      | (.error f, g) => (.error f, g)
      | (.ok ms, g) => (.ok (m :: ms), g)

/-- A result, where it can be computed. -/
theorem ok_of_toOption {ε α : Type} {x : Except ε α} {a : α} (h : x.toOption = some a) :
    x = .ok a := by
  cases x with
  | error e => cases h
  | ok a' => cases h; rfl

/-- The matches of waits, where they can be computed. -/
theorem expectAll_ok {waits : List (Dialogue → Except Failure Match × Dialogue)} {g : Dialogue}
    {ms : List Match} (h : (expectAll waits g).1.toOption = some ms) :
    (expectAll waits g).1 = .ok ms := ok_of_toOption h

/-- Waits that all match are one that matches, and the others behind it. -/
theorem expectAll_cons_ok {wait : Dialogue → Except Failure Match × Dialogue}
    {waits : List (Dialogue → Except Failure Match × Dialogue)} {g : Dialogue} {ms : List Match}
    (h : (expectAll (wait :: waits) g).1 = .ok ms) :
    ∃ m g' ms', wait g = (.ok m, g') ∧ (expectAll waits g').1 = .ok ms' ∧ ms = m :: ms' := by
  rw [expectAll] at h
  split at h
  · cases h
  · rename_i m g' hw
    split at h
    · cases h
    · rename_i ms' g'' hws
      cases h
      exact ⟨m, g', ms', hw, by rw [hws], rfl⟩

end Dialogue

end HistoryAudit
