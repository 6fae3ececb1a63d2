/-
  HistoryAudit.Device.Basic

  A terminal device that follows a script: reading what the shell writes,
  writing to it, and asking for its end. `weight` bounds the reads that can
  still give something: `read_weight` says that each of those takes from it.
-/
import HistoryAudit.Device.Script
import HistoryAudit.Surroundings

namespace HistoryAudit

open Device

structure Launch where
  command : List String
  env : List (String × String)
  cwd? : Option String
  deriving DecidableEq

/-- A signal that asks a process group to end, or ends it. -/
inductive Signal where
  | terminate
  | kill
  deriving DecidableEq, Repr

/-- A terminal device in use. -/
structure Device where
  script : Script
  cues : List Cue
  /-- What is left of the last data. -/
  pending : List UInt8 := []
  input : List UInt8 := []
  writeCalls : Nat := 0
  writes : Nat := 0
  flushCalls : Nat := 0
  flushes : Nat := 0
  /-- The times at which the shell was killed, the last one first. -/
  killed : List Nat := []
  /-- The signals that the shell's process group was sent, with their times, the last one first. -/
  signals : List (Signal × Nat) := []
  exit? : Option Exit := none
  size? : Option (Nat × Nat) := none
  launch? : Option Launch := none

namespace Device

def ofScript (s : Script) : Device := { script := s, cues := s.cues }

/-! ## Reading -/

inductive Read where
  | data (bytes : List UInt8)
  | finished
  | wouldBlock
  | interrupted
  | hungUp
  | failure (e : SystemError)
  deriving DecidableEq

/-- A read gives at most so many bytes. -/
def readLimit : Nat := 4096

def inputLines (d : Device) : Nat := d.input.count 10

def Read.ofError (e : SystemError) : Read :=
  if e = SystemError.interrupted then .interrupted
  else if e = SystemError.wouldBlock then .wouldBlock
  else if e = SystemError.device then .hungUp
  else .failure e

/-- The device and its surroundings behind a cue. -/
def meet (d : Device) (s : Surroundings) (c : Cue) : Device × Surroundings :=
  let s :=
    match c.file? with
    | some (path, content) => { s with files := (s.files.place path content false).1 }
    | none => s
  ({ d with exit? := c.exit?.or d.exit? }, s)

def deliver (d : Device) (bytes : List UInt8) : Read × Device :=
  (.data (bytes.take readLimit), { d with pending := bytes.drop readLimit })

/-- Goes through the cues up to one that gives something. -/
def readCues : List Cue → Device → Surroundings → Read × Device × Surroundings
  | [], d, s => (.wouldBlock, { d with cues := [] }, s)
  | c :: rest, d, s =>
    if d.inputLines < c.lines ∨ s.clock < c.due then
      (.wouldBlock, { d with cues := c :: rest }, s)
    else
      match c.output with
      -- These two stay, and nothing else of their cue happens.
      | .finished => (.finished, { d with cues := c :: rest }, s)
      | .hungUp => (.hungUp, { d with cues := c :: rest }, s)
      | .idle =>
        let (d, s) := d.meet s c
        (.wouldBlock, { d with cues := rest }, s)
      | .interrupted =>
        let (d, s) := d.meet s c
        (.interrupted, { d with cues := rest }, s)
      | .failure e =>
        let (d, s) := d.meet s c
        (.ofError e, { d with cues := rest }, s)
      | .data bytes =>
        let (d, s) := d.meet s c
        if bytes.isEmpty then readCues rest d s
        else
          let (r, d) := d.deliver bytes
          (r, { d with cues := rest }, s)

def read (d : Device) (s : Surroundings) : Read × Device × Surroundings :=
  if d.pending.isEmpty then readCues d.cues d s
  else
    let (r, d) := d.deliver d.pending
    (r, d, s)

/-- A bound of the reads that give something: one for each cue, and one for each byte. -/
def cueWeight : List Cue → Nat
  | [] => 0
  | c :: rest =>
    match c.output with
    | .data bytes => bytes.length + 1 + cueWeight rest
    | _ => 1 + cueWeight rest

def weight (d : Device) : Nat := d.pending.length + cueWeight d.cues

/-- Does the read call for another one at once? -/
def Read.more : Read → Bool
  | .data _ | .interrupted => true
  | _ => false

theorem cueWeight_cons (c : Cue) (rest : List Cue) :
    cueWeight rest < cueWeight (c :: rest) := by
  simp only [cueWeight]
  split <;> omega

theorem meet_pending (d : Device) (s : Surroundings) (c : Cue) :
    (d.meet s c).1.pending = d.pending := rfl

theorem meet_clock (d : Device) (s : Surroundings) (c : Cue) :
    (d.meet s c).2.clock = s.clock := by
  unfold meet
  cases c.file? <;> rfl

theorem readCues_clock (cues : List Cue) (d : Device) (s : Surroundings) :
    (readCues cues d s).2.2.clock = s.clock := by
  induction cues generalizing d s with
  | nil => rfl
  | cons c rest ih =>
    unfold readCues
    split
    · rfl
    · cases c.output with
      | data bytes =>
        simp only
        split
        · -- Nothing was delivered: the read goes on behind the cue.
          rw [ih, meet_clock]
        · simp only [meet_clock]
      | _ => simp only [meet_clock]

/-- No time passes in a read. -/
theorem read_clock (d : Device) (s : Surroundings) : (d.read s).2.2.clock = s.clock := by
  unfold read
  split
  · exact readCues_clock ..
  · rfl

theorem clock_of_read {d d' : Device} {s s' : Surroundings} {r : Read}
    (h : d.read s = (r, d', s')) : s'.clock = s.clock := by
  have hclock := d.read_clock s
  rwa [h] at hclock

theorem readCues_weight (cues : List Cue) (d : Device) (s : Surroundings)
    (h : d.pending = []) :
    (readCues cues d s).2.1.weight ≤ cueWeight cues ∧
      ((readCues cues d s).1.more = true → (readCues cues d s).2.1.weight < cueWeight cues) := by
  induction cues generalizing d s with
  | nil => simp [readCues, weight, h, Read.more, cueWeight]
  | cons c rest ih =>
    have hc := cueWeight_cons c rest
    unfold readCues
    split
    · simp [weight, h, Read.more]
    · cases ho : c.output with
      | data bytes =>
        simp only
        split
        · -- An empty delivery: the cue's own weight is used up.
          have := ih (d.meet s c).1 (d.meet s c).2 (by rw [meet_pending, h])
          exact ⟨by omega, fun hm => by have := this.2 hm; omega⟩
        · -- What is not delivered at once stays pending and weighs less than the cue did.
          rename_i hb
          have hlen : 0 < bytes.length := by
            cases bytes with
            | nil => simp at hb
            | cons => simp
          have hw : cueWeight (c :: rest) = bytes.length + 1 + cueWeight rest := by
            simp [cueWeight, ho]
          simp only [deliver, weight, List.length_drop, Read.more, forall_const, hw]
          omega
      | finished => simp [weight, h, Read.more]
      | hungUp => simp [weight, h, Read.more]
      | idle => simp [weight, meet_pending, h, Read.more]; omega
      | interrupted => simp [weight, meet_pending, h]; omega
      | failure e => simp [weight, meet_pending, h]; omega

/-- A read that calls for another one takes from the weight, and no read adds to it. -/
theorem read_weight (d : Device) (s : Surroundings) :
    (d.read s).2.1.weight ≤ d.weight ∧
      ((d.read s).1.more = true → (d.read s).2.1.weight < d.weight) := by
  unfold read
  split
  · -- Nothing is pending: the cues are read.
    rename_i h
    have h : d.pending = [] := List.isEmpty_iff.1 h
    have := readCues_weight d.cues d s h
    simpa [weight, h] using this
  · -- Pending bytes are delivered, and at least one of them.
    rename_i h
    have hlen : 0 < d.pending.length := by
      cases hp : d.pending with
      | nil => simp [hp] at h
      | cons => simp
    simp only [deliver, weight, List.length_drop, Read.more, forall_const, readLimit]
    omega

/-! ## Writing -/

inductive WriteError where
  | system (e : SystemError)
  /-- A call took nothing. -/
  | stuck
  deriving DecidableEq

def WriteError.message : WriteError → String
  | .system e => e.message
  | .stuck => "failed to write whole buffer"

/-- Is this call, or an earlier one, the first that fails? -/
def failsAt (first? : Option Nat) (call : Nat) : Bool := first?.any (· ≤ call)

/-- One call that writes: how many bytes it took. -/
def writeOnce (d : Device) (bytes : List UInt8) : Except SystemError Nat × Device :=
  if failsAt d.script.writeFails? d.writeCalls then
    (.error .device, { d with writeCalls := d.writeCalls + 1 })
  else
    let taken := bytes.take (d.script.writeLimit?.getD bytes.length)
    (.ok taken.length,
      { d with
        input := d.input ++ taken, writeCalls := d.writeCalls + 1, writes := d.writes + 1 })

/-- Writes all bytes, in as many calls as it takes; `fuel` is at least their number. -/
def writeFrom : (fuel : Nat) → Device → List UInt8 → Option WriteError × Device
  | 0, d, _ => (none, d)
  | fuel + 1, d, bytes =>
    if bytes.isEmpty then (none, d)
    else
      match d.writeOnce bytes with
      | (.error e, d) => (some (.system e), d)
      | (.ok 0, d) => (some .stuck, d)
      | (.ok (n + 1), d) => writeFrom fuel d (bytes.drop (n + 1))

def write (d : Device) (bytes : List UInt8) : Option WriteError × Device :=
  writeFrom bytes.length d bytes

def flush (d : Device) : Option SystemError × Device :=
  let called := { d with flushCalls := d.flushCalls + 1 }
  if failsAt d.script.flushFails? d.flushCalls then (some .noSpace, called)
  else (none, { called with flushes := d.flushes + 1 })

/-! ## The shell -/

def kills (d : Device) : Nat := d.killed.length

def Script.answer (s : Script) : Signal → Answer
  | .terminate => s.onTerminate
  | .kill => s.onKill

/-- The answers of the shell to all that it was sent, with the times at which it was. -/
def answers (d : Device) : List (Answer × Nat) :=
  d.killed.map (fun sent => (d.script.kill, sent)) ++
    d.signals.map fun (signal, sent) => (d.script.answer signal, sent)

def Answer.end? : Answer × Nat → Option (Nat × Exit)
  | (.ends delay exit, sent) => some (sent + delay, exit)
  | _ => none

/-- Has an answer made it impossible to ask for the end of the shell? -/
def Answer.hidesEnd (clock : Nat) : Answer × Nat → Bool
  | (.lost delay, sent) => sent + delay ≤ clock
  | _ => false

/-- The first of some ends, each with its time. -/
def earliest? : List (Nat × Exit) → Option (Nat × Exit)
  | [] => none
  | e :: rest =>
    match earliest? rest with
    | none => some e
    | some e' => if e'.1 < e.1 then some e' else some e

/-- When and how the shell ends, as things stand: by itself, or by what it was sent. -/
def upcomingEnd? (d : Device) : Option (Nat × Exit) :=
  earliest? (d.script.ends?.toList ++ d.answers.filterMap Answer.end?)

def ended? (d : Device) (clock : Nat) : Option Exit :=
  d.exit?.or ((d.upcomingEnd?.filter fun (time, _) => time ≤ clock).map (·.2))

/-- Asks for the end of the shell. -/
def tryWait (d : Device) (clock : Nat) : Except SystemError (Option Exit) :=
  if d.script.waitFails || d.answers.any (Answer.hidesEnd clock) then .error .noChild
  else .ok (d.ended? clock)

def signalRefusal : String := "EPERM: Operation not permitted"

/-- Sends a signal to the shell's process group, and says why it may not be sent. That there is no
group any more is no reason. -/
def signalGroup (d : Device) (signal : Signal) (clock : Nat) : Option String × Device :=
  (if d.script.answer signal = .refused then some signalRefusal else none,
    { d with signals := (signal, clock) :: d.signals })

def killShell (d : Device) (clock : Nat) : Option SystemError × Device :=
  (if d.script.kill = .refused then some .notPermitted else none,
    { d with killed := clock :: d.killed })

end Device

end HistoryAudit
