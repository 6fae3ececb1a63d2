/-
  HistoryAudit.Proofs.Log.Described

  Which lines of a log are decoded, and as what. The reader of a line takes the known
  members by their types and sets the others aside while it goes, but it comes to
  reading the line as JSON first and looking at the members of the object then
  (`heldTo_read`). These are acceptable if each known name has at most one value,
  which is null or of its type (`Acceptable`), and the record says what they say
  (`Describes`).
-/
import HistoryAudit.Log.Record
import HistoryAudit.Proofs.Json.Joined
import HistoryAudit.Proofs.Json.Taken

namespace HistoryAudit.Log.Record

open Json Reader Fields

/-! ## From the text to the members -/

theorem known_byValue : known.ByValue := by
  have htext := (Codec.byValue_leaf nofun nofun : Codec.text.ByValue)
  have hint := (Codec.byValue_leaf nofun nofun : Codec.int32.ByValue)
  have hfloat := (Codec.byValue_leaf nofun nofun : Codec.float.ByValue)
  exact .cons htext.option <| .cons htext.option <| .cons hint.option <| .cons hfloat.option <|
    .cons htext.list.option <| .cons htext.option <| .cons htext.option byValue_done

/-- Takes one member of a line as a value. -/
def takeMember (d : known.Draft × List (String × Value)) (m : String × Value) :
    Except Cause (known.Draft × List (String × Value)) :=
  if m.1 ∈ known.names then (·, d.2) <$> known.ofMember .given m.1 m.2 d.1
  else .ok (d.1, Value.insertMember m.1 m.2.canonical d.2)

theorem heldTo_readMember (levels : Nat) (name : String)
    (d : known.Draft × List (String × Value)) :
    HeldTo (do colon; value (levels + 1)) (fun v => takeMember d (name, v))
      (readMember (levels + 1) name d) := by
  unfold readMember takeMember
  by_cases hname : name ∈ known.names
  · simp only [if_pos hname]
    exact (known_byValue levels name d.1 hname).map
  · simp only [if_neg hname]
    exact heldTo_bind fun _ => (heldTo_self _).map

/-- The line with these members. -/
def ofMembers (ms : List (String × Value)) : Except Cause Record := do
  let d ← ms.foldlM takeMember (known.blank, [])
  ofKnown d.2 <$> known.complete d.1

/-- The line that a value is. -/
def ofValue : Value → Except Cause Record
  | .object ms => ofMembers ms
  | v => Codec.wrongType "struct RawRecord" v

/-- Only an object is a line. -/
theorem object_of_ofValue {v : Value} {r : Record} (h : ofValue v = .ok r) :
    ∃ ms, v = .object ms := by
  cases v with
  | object ms => exact ⟨ms, rfl⟩
  | _ => cases h

theorem heldTo_readObject (levels : Nat) :
    HeldTo (do return (← members string (keepMember (value (levels + 1))) []).reverse) ofMembers
      (readObject (levels + 1)) := by
  have hmembers := heldTo_members takeMember (known.blank, []) fun name d =>
    heldTo_readMember levels name d
  refine hmembers.bind_accept fun d c r c' => ?_
  cases known.complete d.1 with
  | ok k => exact pure_eq_ok.trans (and_congr_left fun _ => ⟨congrArg _, Except.ok.inj⟩)
  | error cause => exact ⟨nofun, nofun⟩

theorem heldTo_read (levels : Nat) : HeldTo (value (levels + 1)) ofValue (read (levels + 1)) := by
  have harray : ∀ vs r, ofValue (.array vs) ≠ .ok r := by
    intro vs r hr
    obtain ⟨ms, h⟩ := object_of_ofValue hr
    cases h
  have hscalar : ∀ first, Gives (fun v => ∀ r, ofValue v ≠ .ok r) (scalar first) := by
    intro first c v c' hv r hr
    obtain ⟨ms, rfl⟩ := object_of_ofValue hr
    exact (scalar_gives first c _ c' hv).2.2 ms rfl
  -- Both sides look at the token. Only behind a brace can there be a line.
  refine heldTo_bind fun token => ?_
  split
  · exact heldTo_refused gives_failAtNext gives_failAtNext
  · exact heldTo_refused (mismatch_refused _ _) (gives_bind fun vs => gives_pure (harray vs))
  · have hobject : levels ≠ 0 → HeldTo (enclosed (do
          return (← members string (keepMember (value levels)) []).reverse) closeObject)
        ofMembers (enclosed (readObject levels) closeObject) := by
      intro hlevels
      obtain ⟨n, rfl⟩ := Nat.exists_eq_succ_of_ne_zero hlevels
      exact (heldTo_readObject n).enclosed closeObject
    exact (heldTo_opened hobject).map_value fun _ => rfl
  · rename_i first _ hmap
    split
    · exact heldTo_refused gives_failAtNext (hscalar _)
    · rename_i heq
      exact absurd (Option.some.inj heq) hmap
    · exact heldTo_refused (mismatch_refused _ _) (hscalar _)

theorem parse_eq_ok {line : String} {r : Record} :
    parse line = .ok r ↔ ∃ ms, Json.parse line = .ok (.object ms) ∧ ofMembers ms = .ok r := by
  show run (read (127 + 1)) line = _ ↔ _
  rw [(heldTo_read 127).run]
  constructor
  · rintro ⟨v, hv, hr⟩
    cases v with
    | object ms => exact ⟨ms, hv, hr⟩
    | _ => cases hr
  · rintro ⟨ms, hms, hr⟩
    exact ⟨.object ms, hms, hr⟩

/-! ## From the members to the record -/

/-- Is the name of the member a known one? -/
def isKnown (m : String × Value) : Bool := m.1 ∈ known.names

/-- The members under other names, sorted, the last of equal names only. -/
def extraOf (ms : List (String × Value)) : List (String × Value) :=
  Value.sortMembers ((ms.filter fun m => !isKnown m).map fun m => (m.1, m.2.canonical))

theorem mem_extraOf {ms : List (String × Value)} {name : String} {v : Value} :
    (name, v) ∈ extraOf ms ↔
      name ∉ known.names ∧ ∃ w, (valuesOf name ms).getLast? = some w ∧ v = w.canonical := by
  rw [extraOf, Value.mem_sortMembers, valuesOf_map, List.getLast?_map, Option.map_eq_some_iff]
  by_cases hname : name ∈ known.names
  · have hnone : valuesOf name (ms.filter fun m => !isKnown m) = [] := by
      refine List.eq_nil_iff_forall_not_mem.mpr fun w hw => ?_
      have hkept := (List.mem_filter.mp (mem_valuesOf.mp hw)).2
      simp [isKnown, hname] at hkept
    simp [hnone, hname]
  · have hall : valuesOf name (ms.filter fun m => !isKnown m) = valuesOf name ms :=
      valuesOf_filter fun v => by simp [isKnown, hname]
    rw [hall]
    simp [hname, eq_comm]

theorem ofMembers_eq_ok {ms : List (String × Value)} {r : Record} :
    ofMembers ms = .ok r ↔
      ∃ k, known.ofMembers .given (ms.filter isKnown) = .ok k ∧ r = ofKnown (extraOf ms) k := by
  -- The known members and the others are gathered side by side, and neither touches the other.
  have hfold : ∀ (d : known.Draft) (e : List (String × Value)),
      ms.foldlM takeMember (known.blank, []) = .ok (d, e) ↔
        (ms.filter isKnown).foldlM (fun d m => known.ofMember .given m.1 m.2 d) known.blank =
          .ok d ∧ extraOf ms = e := by
    intro d e
    have hsplit : ms.foldlM takeMember (known.blank, []) = .ok (d, e) ↔ _ :=
      foldlM_split (p := fun m : String × Value => m.1 ∈ known.names)
        (s := fun d m => known.ofMember .given m.1 m.2 d)
        (t := fun e m => Except.ok (Value.insertMember m.1 m.2.canonical e))
        (fun x m hm => if_pos hm) (fun x m hm => if_neg hm) ms known.blank []
    have hothers : (ms.filter (¬·.1 ∈ known.names)).foldlM
        (fun e m => Except.ok (ε := Cause) (Value.insertMember m.1 m.2.canonical e)) [] =
          .ok (extraOf ms) := by
      have hnot : ms.filter (¬·.1 ∈ known.names) = ms.filter fun m => !isKnown m :=
        List.filter_congr fun m _ => decide_not
      rw [hnot, extraOf, Value.sortMembers, List.foldl_map]
      exact List.foldlM_pure
    rw [hsplit, hothers, Except.ok.injEq]
    rfl
  rw [ofMembers, except_bind_eq_ok]
  constructor
  · rintro ⟨⟨d, e⟩, hd, hr⟩
    obtain ⟨hknown, rfl⟩ := (hfold d e).mp hd
    obtain ⟨k, hk, rfl⟩ := except_map_eq_ok.mp hr
    exact ⟨k, except_bind_eq_ok.mpr ⟨d, hknown, hk⟩, rfl⟩
  · rintro ⟨k, hk, rfl⟩
    obtain ⟨d, hd, hk⟩ := except_bind_eq_ok.mp hk
    exact ⟨(d, extraOf ms), (hfold d _).mpr ⟨hd, rfl⟩, except_map_eq_ok.mpr ⟨k, hk, rfl⟩⟩

/-- Each known member is there at most once, and is null or of its type. -/
structure Acceptable (ms : List (String × Value)) : Prop where
  id : AtMostOne Value.text? (valuesOf "id" ms)
  cmd : AtMostOne Value.text? (valuesOf "cmd" ms)
  exit : AtMostOne Value.int32? (valuesOf "exit" ms)
  dur : AtMostOne Value.double? (valuesOf "dur" ms)
  paths : AtMostOne Value.texts? (valuesOf "paths" ms)
  cwd : AtMostOne Value.text? (valuesOf "cwd" ms)
  sid : AtMostOne Value.text? (valuesOf "sid" ms)

/-- The record says what the members say: of a known one what its value means, and nothing if that
is missing or null; of the others all names, in order, each with its last value. -/
structure Describes (ms : List (String × Value)) (r : Record) : Prop where
  id : r.id? = (valuesOf "id" ms).head?.bind Value.text?
  cmd : r.cmd? = (valuesOf "cmd" ms).head?.bind Value.text?
  exit : r.exit? = (valuesOf "exit" ms).head?.bind Value.int32?
  dur : r.dur? = (valuesOf "dur" ms).head?.bind Value.double?
  paths : r.paths? = (valuesOf "paths" ms).head?.bind Value.texts?
  cwd : r.cwd? = (valuesOf "cwd" ms).head?.bind Value.text?
  sid : r.sid? = (valuesOf "sid" ms).head?.bind Value.text?
  ascending : Value.Ascending r.extra
  extra : ∀ name v, (name, v) ∈ r.extra ↔
    name ∉ known.names ∧ ∃ w, (valuesOf name ms).getLast? = some w ∧ v = w.canonical

theorem known_ofMembers {ms : List (String × Value)} {id? cmd? : Option String}
    {exit? : Option Int} {dur? : Option Float} {paths? : Option (List String)}
    {cwd? sid? : Option String} :
    known.ofMembers .given ms = .ok (id?, cmd?, exit?, dur?, paths?, cwd?, sid?, ()) ↔
      Acceptable ms ∧
        (id? = (valuesOf "id" ms).head?.bind Value.text? ∧
          cmd? = (valuesOf "cmd" ms).head?.bind Value.text? ∧
          exit? = (valuesOf "exit" ms).head?.bind Value.int32? ∧
          dur? = (valuesOf "dur" ms).head?.bind Value.double? ∧
          paths? = (valuesOf "paths" ms).head?.bind Value.texts? ∧
          cwd? = (valuesOf "cwd" ms).head?.bind Value.text? ∧
          sid? = (valuesOf "sid" ms).head?.bind Value.text?) := by
  unfold known
  simp (disch := first | decide | repeat' first | exact ignores_done | apply Ignores.cons) only
    [ofMembers_cons, ofMembers_done, Field.takes_nullable Codec.means_text,
    Field.takes_nullable Codec.means_int32, Field.takes_nullable Codec.means_float,
    Field.takes_nullable Codec.means_texts]
  constructor
  · rintro ⟨⟨hid, rfl⟩, ⟨hcmd, rfl⟩, ⟨hexit, rfl⟩, ⟨hdur, rfl⟩, ⟨hpaths, rfl⟩, ⟨hcwd, rfl⟩,
      ⟨hsid, rfl⟩, -⟩
    exact ⟨⟨hid, hcmd, hexit, hdur, hpaths, hcwd, hsid⟩, rfl, rfl, rfl, rfl, rfl, rfl, rfl⟩
  · rintro ⟨⟨hid, hcmd, hexit, hdur, hpaths, hcwd, hsid⟩, rfl, rfl, rfl, rfl, rfl, rfl, rfl⟩
    exact ⟨⟨hid, rfl⟩, ⟨hcmd, rfl⟩, ⟨hexit, rfl⟩, ⟨hdur, rfl⟩, ⟨hpaths, rfl⟩, ⟨hcwd, rfl⟩,
      ⟨hsid, rfl⟩, trivial⟩

/-- Members make a record iff they are acceptable, and it is the one that they describe. -/
theorem ofMembers_iff {ms : List (String × Value)} {r : Record} :
    ofMembers ms = .ok r ↔ Acceptable ms ∧ Describes ms r := by
  have hignores : known.Ignores := by
    unfold known
    exact ignores_done.cons.cons.cons.cons.cons.cons.cons
  -- Members under other names have no say in what is known.
  have hknown := hignores.ofMembers_filter (p := isKnown) (fun m hm => decide_eq_true hm) ms
  rw [ofMembers_eq_ok, hknown]
  constructor
  · rintro ⟨⟨id?, cmd?, exit?, dur?, paths?, cwd?, sid?, ⟨⟩⟩, hk, rfl⟩
    obtain ⟨hacceptable, hid, hcmd, hexit, hdur, hpaths, hcwd, hsid⟩ := known_ofMembers.mp hk
    exact ⟨hacceptable, hid, hcmd, hexit, hdur, hpaths, hcwd, hsid,
      Value.ascending_sortMembers _, fun name v => mem_extraOf⟩
  · rintro ⟨hacceptable, h⟩
    refine ⟨_, known_ofMembers.mpr ⟨hacceptable, h.id, h.cmd, h.exit, h.dur, h.paths, h.cwd, h.sid⟩,
      ?_⟩
    -- The rest is determined by its members, since it is in order.
    have hextra : r.extra = extraOf ms :=
      h.ascending.ext (Value.ascending_sortMembers _) fun m => (h.extra m.1 m.2).trans
        mem_extraOf.symm
    rw [ofKnown, ← hextra]

/-- A line is decoded iff it spells an object with acceptable members, and as the record that they
describe. -/
theorem parse_iff {line : String} {r : Record} :
    parse line = .ok r ↔
      ∃ ms, Json.parse line = .ok (.object ms) ∧ Acceptable ms ∧ Describes ms r := by
  simp only [parse_eq_ok, ofMembers_iff]

/-- Any members describe a record, acceptable or not. -/
theorem exists_describes (ms : List (String × Value)) : ∃ r, Describes ms r :=
  ⟨⟨_, _, _, _, _, _, _, extraOf ms⟩, rfl, rfl, rfl, rfl, rfl, rfl, rfl,
    Value.ascending_sortMembers _, fun _ _ => mem_extraOf⟩

/-- Whether a line is decoded depends on its members alone. -/
theorem decoded_iff {line : String} :
    (∃ r, parse line = .ok r) ↔ ∃ ms, Json.parse line = .ok (.object ms) ∧ Acceptable ms := by
  constructor
  · rintro ⟨r, hr⟩
    obtain ⟨ms, hms, hacceptable, -⟩ := parse_iff.mp hr
    exact ⟨ms, hms, hacceptable⟩
  · rintro ⟨ms, hms, hacceptable⟩
    obtain ⟨r, hr⟩ := exists_describes ms
    exact ⟨r, parse_iff.mpr ⟨ms, hms, hacceptable, hr⟩⟩

/-! ## Other members -/

section Others

variable {ms ms' : List (String × Value)}

/-- The same known members, in whatever order and among whatever others. -/
def SameKnown (ms ms' : List (String × Value)) : Prop :=
  (ms.filter isKnown).Perm (ms'.filter isKnown)

theorem SameKnown.symm (h : SameKnown ms ms') : SameKnown ms' ms := List.Perm.symm h

/-- What a known name has at most one of is the same. -/
theorem SameKnown.valuesOf_eq (h : SameKnown ms ms') {name : String} (hname : name ∈ known.names)
    (honce : (valuesOf name ms).length ≤ 1) : valuesOf name ms = valuesOf name ms' := by
  have hown : ∀ ms : List (String × Value),
      valuesOf name (ms.filter isKnown) = valuesOf name ms := fun ms =>
    valuesOf_filter fun v => decide_eq_true hname
  -- A permutation of no more than one value is the same list.
  have hperm := valuesOf_perm h name
  rw [hown, hown] at hperm
  match hvalues : valuesOf name ms with
  | [] =>
    rw [hvalues] at hperm
    exact hperm.symm.eq_nil.symm
  | [v] =>
    rw [hvalues] at hperm
    exact (List.perm_singleton.mp hperm.symm).symm
  | _ :: _ :: _ =>
    rw [hvalues] at honce
    simp at honce

theorem SameKnown.acceptable (h : SameKnown ms ms') (hms : Acceptable ms) : Acceptable ms' where
  id := h.valuesOf_eq (by decide) hms.id.once ▸ hms.id
  cmd := h.valuesOf_eq (by decide) hms.cmd.once ▸ hms.cmd
  exit := h.valuesOf_eq (by decide) hms.exit.once ▸ hms.exit
  dur := h.valuesOf_eq (by decide) hms.dur.once ▸ hms.dur
  paths := h.valuesOf_eq (by decide) hms.paths.once ▸ hms.paths
  cwd := h.valuesOf_eq (by decide) hms.cwd.once ▸ hms.cwd
  sid := h.valuesOf_eq (by decide) hms.sid.once ▸ hms.sid

/-- The record without the members that are not known. -/
def core (r : Record) : Record := { r with extra := [] }

theorem SameKnown.core_eq (h : SameKnown ms ms') (hms : Acceptable ms) {r r' : Record}
    (hr : Describes ms r) (hr' : Describes ms' r') : r.core = r'.core := by
  rw [core, core, hr.id, hr.cmd, hr.exit, hr.dur, hr.paths, hr.cwd, hr.sid, hr'.id, hr'.cmd,
    hr'.exit, hr'.dur, hr'.paths, hr'.cwd, hr'.sid, h.valuesOf_eq (by decide) hms.id.once,
    h.valuesOf_eq (by decide) hms.cmd.once, h.valuesOf_eq (by decide) hms.exit.once,
    h.valuesOf_eq (by decide) hms.dur.once, h.valuesOf_eq (by decide) hms.paths.once,
    h.valuesOf_eq (by decide) hms.cwd.once, h.valuesOf_eq (by decide) hms.sid.once]

end Others

/-- Both lines are decoded or none, and then they agree in all that is known. -/
structure TakenAlike (line line' : String) : Prop where
  decoded : (∃ r, parse line = .ok r) ↔ ∃ r, parse line' = .ok r
  core : ∀ r r', parse line = .ok r → parse line' = .ok r' → r.core = r'.core

theorem SameKnown.takenAlike {ms ms' : List (String × Value)} (h : SameKnown ms ms')
    {line line' : String} (hline : Json.parse line = .ok (.object ms))
    (hline' : Json.parse line' = .ok (.object ms')) : TakenAlike line line' where
  decoded := by
    rw [decoded_iff, decoded_iff, hline, hline']
    constructor
    · rintro ⟨_, ⟨⟩, hacceptable⟩
      exact ⟨ms', rfl, h.acceptable hacceptable⟩
    · rintro ⟨_, ⟨⟩, hacceptable⟩
      exact ⟨ms, rfl, h.symm.acceptable hacceptable⟩
  core := by
    intro r r' hr hr'
    obtain ⟨_, hms, hacceptable, hdescribes⟩ := parse_iff.mp hr
    obtain ⟨_, hms', -, hdescribes'⟩ := parse_iff.mp hr'
    cases hline.symm.trans hms
    cases hline'.symm.trans hms'
    exact h.core_eq hacceptable hdescribes hdescribes'

/-- A line is decoded iff it spells an object with acceptable members, and as the record that they
describe. Such a line is made of the texts of its members, and any texts of members make a line: with
the same known ones, in another order and among others, it is taken alike. -/
theorem parse_described (line : String) :
    (∀ r, parse line = .ok r ↔
      ∃ ms, Json.parse line = .ok (.object ms) ∧ Acceptable ms ∧ Describes ms r) ∧
    ((∃ r, parse line = .ok r) ↔ ∃ ms, Json.parse line = .ok (.object ms) ∧ Acceptable ms) ∧
    ∀ ms, Json.parse line = .ok (.object ms) →
      (∃ ts, List.Forall₂ MemberText ts ms ∧ (ms ≠ [] → ∃ lead trail,
        line = lead ++ objectText ts ++ trail ∧ Blank lead.toList ∧ Blank trail.toList)) ∧
      (∀ ts' ms', List.Forall₂ MemberText ts' ms' → SameKnown ms ms' →
        Json.parse (objectText ts') = .ok (.object ms') ∧ TakenAlike line (objectText ts')) ∧
      ∀ line' ms', Json.parse line' = .ok (.object ms') → SameKnown ms ms' →
        TakenAlike line line' := by
  refine ⟨fun r => parse_iff, decoded_iff, fun ms hline => ⟨exists_joined hline, ?_, ?_⟩⟩
  · intro ts' ms' hts' h
    have hline' := parse_joined hts'
    exact ⟨hline', h.takenAlike hline hline'⟩
  · intro line' ms' hline' h
    exact h.takenAlike hline hline'

/-- A line with its known members the other way round and without the third one. -/
theorem parse_described_reordered :
    ∃ ts lead trail,
      "\x7b\"id\": \"a\", \"x\": [1], \"cmd\": \"ls\"\x7d\n" = lead ++ objectText ts ++ trail ∧
      List.Forall₂ MemberText ts [("id", .string "a"), ("x", .array [.number (.int 1)]),
        ("cmd", .string "ls")] ∧
      (∃ r, parse "\x7b\"id\": \"a\", \"x\": [1], \"cmd\": \"ls\"\x7d\n" = .ok r) ∧
      TakenAlike "\x7b\"id\": \"a\", \"x\": [1], \"cmd\": \"ls\"\x7d\n"
        (objectText ["\"cmd\": \"ls\"", " \"id\": \"a\""]) ∧
      TakenAlike "\x7b\"id\": \"a\", \"x\": [1], \"cmd\": \"ls\"\x7d\n"
        "\x7b\"cmd\":\"ls\",\"id\":\"a\"\x7d" := by
  have hline : Json.parse "\x7b\"id\": \"a\", \"x\": [1], \"cmd\": \"ls\"\x7d\n" =
      .ok (.object [("id", .string "a"), ("x", .array [.number (.int 1)]), ("cmd", .string "ls")]) :=
    rfl
  have hacceptable : Acceptable
      [("id", .string "a"), ("x", .array [.number (.int 1)]), ("cmd", .string "ls")] := by
    constructor <;> exact ⟨by decide, by simp [valuesOf, Value.text?]⟩
  have hknown : SameKnown
      [("id", .string "a"), ("x", .array [.number (.int 1)]), ("cmd", .string "ls")]
      [("cmd", .string "ls"), ("id", .string "a")] := by
    change List.Perm [("id", Value.string "a"), ("cmd", .string "ls")] _
    exact .swap _ _ _
  obtain ⟨-, hdecoded, hmembers⟩ :=
    parse_described "\x7b\"id\": \"a\", \"x\": [1], \"cmd\": \"ls\"\x7d\n"
  obtain ⟨⟨ts, hts, hframed⟩, hjoined, hlines⟩ := hmembers _ hline
  obtain ⟨lead, trail, htext, -, -⟩ := hframed (List.cons_ne_nil _ _)
  exact ⟨ts, lead, trail, htext, hts, hdecoded.mpr ⟨_, hline, hacceptable⟩,
    (hjoined ["\"cmd\": \"ls\"", " \"id\": \"a\""] _ (.cons rfl (.cons rfl .nil)) hknown).2,
    hlines "\x7b\"cmd\":\"ls\",\"id\":\"a\"\x7d" _ rfl hknown⟩

end HistoryAudit.Log.Record
