/-
  HistoryAudit.Proofs.Json.Joined

  The text of an object is the texts of its members, joined by commas. A text
  spells a member (`MemberText`) if it does so between braces on its own; then it
  does so among any others (`parse_joined`), and every text of an object comes
  apart into such texts (`exists_joined`). So members may be put in another
  order, added and left out as texts.
-/
import HistoryAudit.Proofs.Json.Pieces
import Mathlib.Data.List.Forall2

namespace HistoryAudit.Json

namespace Reader

theorem Reads.unique {r : Reader α} {text rest rest' : List Char} {place place' : Position} {a b : α}
    (h : Reads r text a rest) (hok : r ⟨text, place⟩ = .ok b ⟨rest', place'⟩) :
    a = b ∧ rest = rest' := by
  obtain ⟨place'', hread⟩ := h place
  cases hread.symm.trans hok
  exact ⟨rfl, rfl⟩

/-! ## Blanks -/

/-- Nothing but blanks. -/
def Blank (cs : List Char) : Prop := ∀ c ∈ cs, isSpace c = true

theorem blank_nil : Blank [] := nofun

section Blanks

variable {k : Option Char → Reader α} {text blanks rest rest' : List Char} {place place' : Position}
  {a : α}

/-- The token stands behind blanks. -/
theorem peekToken_eq_ok {token : Option Char}
    (hok : peekToken ⟨text, place⟩ = .ok token ⟨rest, place'⟩) :
    token = rest.head? ∧ ∃ blanks, text = blanks ++ rest ∧ Blank blanks := by
  cases hok
  refine ⟨rfl, text.takeWhile isSpace, ?_, fun c hc => List.mem_takeWhile_imp hc⟩
  exact (List.prefix_iff_eq_append.mp (List.takeWhile_prefix isSpace)).symm

theorem token_eq_ok (hok : (peekToken >>= k) ⟨text, place⟩ = .ok a ⟨rest', place'⟩) :
    ∃ blanks rest place₁, text = blanks ++ rest ∧ Blank blanks ∧
      k rest.head? ⟨rest, place₁⟩ = .ok a ⟨rest', place'⟩ := by
  obtain ⟨token, ⟨rest, place₁⟩, htoken, hnext⟩ := bind_eq_ok.mp hok
  obtain ⟨rfl, blanks, htext, hblanks⟩ := peekToken_eq_ok htoken
  exact ⟨blanks, rest, place₁, htext, hblanks, hnext⟩

theorem Reads.token (hblanks : Blank blanks) (hrest : rest.takeWhile isSpace = [])
    (h : Reads (k rest.head?) rest a rest') :
    Reads (Reader.peekToken >>= k) (blanks ++ rest) a rest' := by
  have hskip : Reads skipSpace (blanks ++ rest) () rest := by
    intro place
    refine ⟨place.afterAll blanks, ?_⟩
    rw [skipSpace, List.takeWhile_append_of_pos hblanks, hrest, List.append_nil, Cursor.advance,
      List.drop_left, List.take_left]
  rw [peekToken_bind]
  exact hskip.bind (Reads.peek h)

theorem Reads.token_cons {c : Char} (hblanks : Blank blanks) (hc : isSpace c = false)
    (h : Reads (k (some c)) (c :: rest) a rest') :
    Reads (Reader.peekToken >>= k) (blanks ++ c :: rest) a rest' :=
  Reads.token hblanks (List.takeWhile_cons_of_neg (Bool.eq_false_iff.mp hc)) h

end Blanks

/-- Nothing but blanks may stand behind a whole text. -/
theorem finish_eq_ok {text : List Char} {place : Position} :
    (∃ c', finish ⟨text, place⟩ = .ok () c') ↔ Blank text := by
  constructor
  · rintro ⟨⟨rest', place'⟩, hok⟩
    obtain ⟨blanks, rest, place₁, rfl, hblanks, hrest⟩ := token_eq_ok hok
    cases rest with
    | nil => rwa [List.append_nil]
    | cons c rest => cases hrest
  · intro h
    have hread : Reads finish (text ++ []) () [] := Reads.token h rfl (reads_pure () [])
    rw [List.append_nil] at hread
    obtain ⟨place', hread⟩ := hread place
    exact ⟨_, hread⟩

/-! ## Gaps between members -/

section Gaps

variable {text lead trail rest : List Char} {place place' : Position} {first : Bool}

/-- Before the end of an object there are blanks, before its first member too, and before another one
there is a comma among them. -/
theorem hasMember_eq_ok {more : Bool}
    (hok : hasMember first ⟨text, place⟩ = .ok more ⟨rest, place'⟩) :
    ∃ trail, Blank trail ∧
      ((more = false ∧ text = trail ++ rest ∧ rest.head? = some '\x7d') ∨
        (more = true ∧ first = true ∧ text = trail ++ rest ∧ rest.head? = some '"') ∨
        (more = true ∧ first = false ∧ rest.head? = some '"' ∧
          ∃ lead, Blank lead ∧ text = trail ++ ',' :: (lead ++ rest))) := by
  obtain ⟨trail, behind, place₁, rfl, htrail, hnext⟩ := token_eq_ok hok
  refine ⟨trail, htrail, ?_⟩
  cases behind with
  | nil => cases hnext
  | cons c behind =>
    simp only [List.head?_cons] at hnext
    split at hnext
    · rename_i hc
      cases hnext
      exact .inl ⟨rfl, rfl, congrArg some hc⟩
    split at hnext
    · -- The first member stands behind blanks alone.
      rename_i hfirst
      split at hnext
      · rename_i hc
        cases hnext
        exact .inr (.inl ⟨rfl, hfirst, rfl, congrArg some hc⟩)
      · cases hnext
    split at hnext
    · rename_i hlater hc
      subst hc
      -- A later one stands behind a comma and blanks again.
      obtain ⟨u, ⟨mid, place₂⟩, ⟨⟩, hnext⟩ := bind_eq_ok.mp hnext
      obtain ⟨lead, after, place₃, rfl, hlead, hnext⟩ := token_eq_ok hnext
      cases after with
      | nil => cases hnext
      | cons d after =>
        simp only [List.head?_cons] at hnext
        split at hnext
        · rename_i hd
          cases hnext
          exact .inr (.inr ⟨rfl, eq_false_of_ne_true hlater, congrArg some hd, lead, hlead, rfl⟩)
        · split at hnext <;> cases hnext
    · cases hnext

theorem reads_no_member (htrail : Blank trail) :
    Reads (hasMember first) (trail ++ '\x7d' :: rest) false ('\x7d' :: rest) :=
  Reads.token_cons htrail rfl (reads_pure false _)

theorem reads_first_member (hlead : Blank lead) :
    Reads (hasMember true) (lead ++ '"' :: rest) true ('"' :: rest) :=
  Reads.token_cons hlead rfl (reads_pure true _)

theorem reads_next_member (htrail : Blank trail) (hlead : Blank lead) :
    Reads (hasMember false) (trail ++ ',' :: (lead ++ '"' :: rest)) true ('"' :: rest) :=
  Reads.token_cons htrail rfl (Reads.skip (Reads.token_cons hlead rfl (reads_pure true _)))

end Gaps

/-! ## Members -/

/-- Reads a member, its quote next. -/
def member (levels : Nat) : Reader (String × Value) := do
  skip
  let name ← string
  colon
  return (name, ← value levels)

theorem local_member (levels : Nat) {P : List Char → Prop} : Local P Alike 1 (member levels) :=
  (local_skip_same.bind_same (n := 2) fun _ => local_string.bind_any fun name =>
    local_colon.bind_any fun _ => (local_value levels).bind_pure (name, ·)).mono (fun _ _ => id)
      (by decide)

theorem membersFrom_succ (levels fuel : Nat) (first : Bool) (kept : List (String × Value)) :
    membersFrom string (keepMember (value levels)) (fuel + 1) first kept = (do
      if ← hasMember first then
        let m ← member levels
        membersFrom string (keepMember (value levels)) fuel false (m :: kept)
      else pure kept) := by
  rw [membersFrom]
  simp only [member, keepMember, bind_assoc, pure_bind]

/-- The characters spell a member: between blanks they are read as it, whatever ends it. -/
def SpellsMember (levels : Nat) (t : List Char) (m : String × Value) : Prop :=
  ∃ lead piece trail, t = lead ++ ('"' :: piece ++ trail) ∧ Blank lead ∧ Blank trail ∧
    ∀ rest, Ends rest → Reads (member levels) ('"' :: piece ++ (trail ++ rest)) m (trail ++ rest)

/-- Members behind the first one, each with its comma. -/
def later (ts : List (List Char)) : List Char := ts.flatMap (',' :: ·)

theorem ends_later {ts : List (List Char)} {rest : List Char} (h : Ends rest) :
    Ends (later ts ++ rest) := by
  cases ts with
  | nil => exact h
  | cons t ts => exact ends_cons (.inl rfl) _

section Members

variable {levels fuel : Nat} {text trail rest : List Char} {place place' : Position}
  {kept all : List (String × Value)} {ts : List (List Char)} {ms : List (String × Value)}

/-- A member and those behind it. The blanks behind its value are its own. -/
theorem member_and_later {lead mid trail : List Char} {m : String × Value}
    (hok : member levels ⟨text, place⟩ = .ok m ⟨mid, place'⟩) (hquote : text.head? = some '"')
    (hlead : Blank lead) (htrail : Blank trail) (hmid : mid = trail ++ (later ts ++ rest))
    (hrest : Ends rest) :
    ∃ t, lead ++ text = t ++ (later ts ++ rest) ∧ SpellsMember levels t m := by
  obtain ⟨piece, rfl, hleast, hreads⟩ :=
    (local_member levels (P := Anywhere)) text place m mid place' trivial hok
  obtain ⟨c, piece, rfl⟩ := List.exists_cons_of_length_pos hleast
  cases hquote
  subst hmid
  -- Behind the blanks that are the member's own, anything else that ends a value may follow.
  refine ⟨lead ++ ('"' :: piece ++ trail), by simp only [List.append_assoc], lead, piece, trail,
    rfl, hlead, htrail, fun rest' hrest' => hreads _ ?_⟩
  exact Alike.append trail (.inr ⟨ends_later hrest, hrest'⟩)

theorem exists_later (hok : membersFrom string (keepMember (value levels)) fuel false kept
      ⟨text, place⟩ = .ok all ⟨rest, place'⟩) :
    ∃ trail ts ms, text = trail ++ (later ts ++ rest) ∧ Blank trail ∧ all = ms.reverse ++ kept ∧
      List.Forall₂ (SpellsMember levels) ts ms ∧ rest.head? = some '\x7d' := by
  -- On the fuel. The blanks in front of a comma go to the member before it.
  induction fuel generalizing text place kept with
  | zero => cases hok
  | succ fuel ih =>
    rw [membersFrom_succ] at hok
    obtain ⟨further, ⟨mid, place₁⟩, hhas, hmore⟩ := bind_eq_ok.mp hok
    cases further with
    | false =>
      cases hmore
      obtain ⟨trail, htrail, ⟨-, rfl, hend⟩ | ⟨⟨⟩, -⟩ | ⟨⟨⟩, -⟩⟩ := hasMember_eq_ok hhas
      exact ⟨trail, [], [], rfl, htrail, rfl, .nil, hend⟩
    | true =>
      obtain ⟨trail, htrail, ⟨⟨⟩, -⟩ | ⟨-, ⟨⟩, -⟩ | ⟨-, -, hquote, lead, hlead, rfl⟩⟩ :=
        hasMember_eq_ok hhas
      obtain ⟨m, ⟨mid₂, place₂⟩, hm, hall⟩ := bind_eq_ok.mp hmore
      obtain ⟨trail', ts, ms, hmid, htrail', rfl, hts, hend⟩ := ih hall
      obtain ⟨t, ht, hspells⟩ := member_and_later hm hquote hlead htrail' hmid fun c hc =>
        .inr (.inr (Option.some.inj (hc.symm.trans hend)))
      refine ⟨trail, t :: ts, m :: ms, ?_, htrail, by simp, hts.cons hspells, hend⟩
      rw [ht]
      simp [later]

theorem reads_later (h : List.Forall₂ (SpellsMember levels) ts ms) (htrail : Blank trail)
    (hfuel : (later ts).length < fuel) :
    Reads (membersFrom string (keepMember (value levels)) fuel false kept)
      (trail ++ (later ts ++ '\x7d' :: rest)) (ms.reverse ++ kept) ('\x7d' :: rest) := by
  -- By the members; what was kept is in front of the others, in reverse.
  induction h generalizing trail fuel kept with
  | nil =>
    obtain ⟨n, rfl⟩ := Nat.exists_eq_succ_of_ne_zero (Nat.ne_zero_of_lt hfuel)
    exact (reads_no_member htrail).bind (reads_pure kept _)
  | @cons t m ts ms hspells _ ih =>
    obtain ⟨lead, piece, trail', rfl, hlead, htrail', hreads⟩ := hspells
    obtain ⟨n, rfl⟩ := Nat.exists_eq_succ_of_ne_zero (Nat.ne_zero_of_lt hfuel)
    have hshort : (later ts).length < n := by
      simp only [later, List.flatMap_cons, List.length_append, List.length_cons] at hfuel ⊢
      omega
    have hmore := (hreads _ (ends_later (ends_cons (.inr (.inr rfl)) rest))).bind
      (k := fun m => membersFrom string (keepMember (value levels)) n false (m :: kept))
      (ih htrail' hshort)
    rw [membersFrom_succ]
    simpa [later] using (reads_next_member htrail hlead).bind hmore

/-- What stands between the braces of an object: members joined by commas, or blanks. -/
def Inside (levels : Nat) (inner : List Char) (ms : List (String × Value)) : Prop :=
  (ms = [] ∧ Blank inner) ∨
    ∃ t ts, inner = t ++ later ts ∧ List.Forall₂ (SpellsMember levels) (t :: ts) ms

theorem exists_inside (hok : membersFrom string (keepMember (value levels)) fuel true []
      ⟨text, place⟩ = .ok all ⟨rest, place'⟩) :
    ∃ inner, text = inner ++ rest ∧ Inside levels inner all.reverse ∧ rest.head? = some '\x7d' := by
  cases fuel with
  | zero => cases hok
  | succ fuel =>
    rw [membersFrom_succ] at hok
    obtain ⟨further, ⟨mid, place₁⟩, hhas, hmore⟩ := bind_eq_ok.mp hok
    cases further with
    | false =>
      -- No member at all: only blanks.
      cases hmore
      obtain ⟨trail, htrail, ⟨-, rfl, hend⟩ | ⟨⟨⟩, -⟩ | ⟨⟨⟩, -⟩⟩ := hasMember_eq_ok hhas
      exact ⟨trail, rfl, .inl ⟨rfl, htrail⟩, hend⟩
    | true =>
      obtain ⟨lead, hlead, ⟨⟨⟩, -⟩ | ⟨-, -, rfl, hquote⟩ | ⟨-, ⟨⟩, -⟩⟩ := hasMember_eq_ok hhas
      obtain ⟨m, ⟨mid₂, place₂⟩, hm, hall⟩ := bind_eq_ok.mp hmore
      obtain ⟨trail, ts, ms, hmid, htrail, rfl, hts, hend⟩ := exists_later hall
      obtain ⟨t, ht, hspells⟩ := member_and_later hm hquote hlead htrail hmid fun c hc =>
        .inr (.inr (Option.some.inj (hc.symm.trans hend)))
      refine ⟨t ++ later ts, by rw [ht, List.append_assoc], .inr ⟨t, ts, rfl, ?_⟩, hend⟩
      simpa using hts.cons hspells

theorem reads_inside {inner : List Char} (h : Inside levels inner ms)
    (hfuel : inner.length < fuel) :
    Reads (membersFrom string (keepMember (value levels)) fuel true []) (inner ++ '\x7d' :: rest)
      ms.reverse ('\x7d' :: rest) := by
  obtain ⟨n, rfl⟩ := Nat.exists_eq_succ_of_ne_zero (Nat.ne_zero_of_lt hfuel)
  rw [membersFrom_succ]
  rcases h with ⟨rfl, hblank⟩ | ⟨t, ts, rfl, hspells⟩
  · exact (reads_no_member hblank).bind (reads_pure [] _)
  · obtain _ | ⟨⟨lead, piece, trail, rfl, hlead, htrail, hreads⟩, hts⟩ := hspells
    have hshort : (later ts).length < n := by
      simp only [List.length_append, List.length_cons] at hfuel
      omega
    have hmore := (hreads _ (ends_later (ends_cons (.inr (.inr rfl)) rest))).bind
      (k := fun m => membersFrom string (keepMember (value levels)) n false [m])
      (reads_later hts htrail hshort)
    simpa using (reads_first_member hlead).bind hmore

end Members

/-! ## Objects -/

theorem object_of_value {levels : Nat} {text rest : List Char} {place place' : Position}
    {ms : List (String × Value)}
    (hok : value (levels + 1) ⟨text, place⟩ = .ok (.object ms) ⟨rest, place'⟩) :
    ∃ lead inner, text = lead ++ '\x7b' :: (inner ++ '\x7d' :: rest) ∧ Blank lead ∧
      Inside levels inner ms := by
  obtain ⟨token, ⟨behind, place₁⟩, htoken, hnext⟩ := bind_eq_ok.mp hok
  -- No other token can start an object.
  have hbrace : token = some '\x7b' := by_contra fun h =>
    (value_gives_token htoken hok).2 h ms rfl
  obtain ⟨rfl, lead, rfl, hlead⟩ := peekToken_eq_ok htoken
  cases behind with
  | nil => cases hbrace
  | cons c behind =>
    cases hbrace
    obtain ⟨_, c₁, hopened, ⟨⟩⟩ := bind_eq_ok.mp hnext
    unfold opened at hopened
    split at hopened
    · cases hopened
    obtain ⟨u, ⟨mid, place₂⟩, ⟨⟩, henclosed⟩ := bind_eq_ok.mp hopened
    obtain ⟨⟨after, place₃⟩, hmembers, hclose⟩ := enclosed_eq_ok.mp henclosed
    obtain ⟨all, c₂, hall, ⟨⟩⟩ := bind_eq_ok.mp hmembers
    obtain ⟨inner, rfl, hinside, hend⟩ := exists_inside hall
    obtain ⟨more, rfl⟩ : ∃ more, after = '\x7d' :: more := by
      cases after with
      | nil => cases hend
      | cons d more => exact ⟨more, congrArg (· :: more) (Option.some.inj hend)⟩
    obtain ⟨-, rfl⟩ := reads_closeObject.unique hclose
    exact ⟨lead, inner, rfl, hlead, hinside⟩

theorem reads_object {levels : Nat} (hlevels : levels ≠ 0) {lead inner rest : List Char}
    {ms : List (String × Value)} (hlead : Blank lead) (h : Inside levels inner ms) :
    Reads (value (levels + 1)) (lead ++ '\x7b' :: (inner ++ '\x7d' :: rest)) (.object ms) rest := by
  have hmembers : Reads (members string (keepMember (value levels)) [])
      (inner ++ '\x7d' :: rest) ms.reverse ('\x7d' :: rest) := by
    change Reads (membersFrom _ _ ((inner ++ '\x7d' :: rest).length + 1) true []) _ _ _
    refine reads_inside h ?_
    rw [List.length_append]
    omega
  have hreversed := hmembers.bind (k := fun all => pure all.reverse) (reads_pure _ _)
  rw [List.reverse_reverse] at hreversed
  exact Reads.token_cons hlead rfl
    ((Reads.opened hlevels (hreversed.enclosed reads_closeObject)).bind (reads_pure _ _))

end Reader

open Reader

/-- A text spells an object iff it is one brace and the other, blanks around them, with the members
between them. -/
theorem parse_object_iff {text : String} {ms : List (String × Value)} :
    parse text = .ok (.object ms) ↔
      ∃ lead inner trail, text.toList = lead ++ '\x7b' :: (inner ++ '\x7d' :: trail) ∧
        Blank lead ∧ Blank trail ∧ Inside 127 inner ms := by
  rw [parse, run_eq_ok]
  constructor
  · rintro ⟨⟨trail, place⟩, c, hvalue, hfinish⟩
    obtain ⟨lead, inner, htext, hlead, hinside⟩ := object_of_value hvalue
    exact ⟨lead, inner, trail, htext, hlead, finish_eq_ok.mp ⟨c, hfinish⟩, hinside⟩
  · rintro ⟨lead, inner, trail, htext, hlead, htrail, hinside⟩
    obtain ⟨place, hvalue⟩ := reads_object (by decide) hlead hinside .start
    obtain ⟨c, hfinish⟩ := finish_eq_ok.mpr htrail
    exact ⟨_, c, by rw [Cursor.ofText, htext]; exact hvalue, hfinish⟩

/-! ## Texts of members -/

/-- The text spells a member: between braces it is the object with that member. -/
def MemberText (t : String) (m : String × Value) : Prop :=
  parse ("\x7b" ++ t ++ "\x7d") = .ok (.object [m])

/-- The object of the members that the texts spell. -/
def objectText (ts : List String) : String := "\x7b" ++ ",".intercalate ts ++ "\x7d"

theorem toList_intercalate_cons (t : String) (ts : List String) :
    (",".intercalate (t :: ts)).toList = t.toList ++ later (ts.map String.toList) := by
  induction ts generalizing t with
  | nil => simp [later]
  | cons u ts ih =>
    rw [String.intercalate_cons_cons, String.toList_append, String.toList_append, ih]
    simp [later]

theorem toList_objectText (ts : List String) :
    (objectText ts).toList = '\x7b' :: ((",".intercalate ts).toList ++ ['\x7d']) := by
  simp [objectText]

/-- Where nothing stands around the braces, no blank does. -/
theorem inner_of_framed {inner inner' lead trail : List Char} (hlead : Blank lead)
    (htrail : Blank trail)
    (h : '\x7b' :: (inner ++ ['\x7d']) = lead ++ '\x7b' :: (inner' ++ '\x7d' :: trail)) :
    inner = inner' := by
  have hnone : lead = [] := by
    cases lead with
    | nil => rfl
    | cons c lead =>
      cases hlead '\x7b' ((List.cons.inj h).1 ▸ List.mem_cons_self)
  subst hnone
  have hbehind : inner ++ ['\x7d'] = inner' ++ '\x7d' :: trail := (List.cons.inj h).2
  -- The last character is the brace, and no blank.
  rcases trail.eq_nil_or_concat with rfl | ⟨more, c, rfl⟩
  · exact (List.append_inj' hbehind rfl).1
  · rw [List.concat_eq_append, ← List.cons_append, ← List.append_assoc] at hbehind
    cases (List.append_inj' hbehind rfl).2
    cases htrail '\x7d' (by simp)

theorem memberText_iff {t : String} {m : String × Value} :
    MemberText t m ↔ SpellsMember 127 t.toList m := by
  have htext : ("\x7b" ++ t ++ "\x7d").toList = '\x7b' :: (t.toList ++ ['\x7d']) := by simp
  rw [MemberText, parse_object_iff, htext]
  constructor
  · rintro ⟨lead, inner, trail, h, hlead, htrail, hinside⟩
    obtain rfl := inner_of_framed hlead htrail h
    obtain ⟨⟨⟩, -⟩ | ⟨t', ts, ht, hspells⟩ := hinside
    obtain _ | ⟨hspells, ⟨⟩⟩ := hspells
    rw [ht, later, List.flatMap_nil, List.append_nil]
    exact hspells
  · intro h
    refine ⟨[], t.toList, [], rfl, blank_nil, blank_nil, .inr ⟨t.toList, [], ?_, .cons h .nil⟩⟩
    rw [later, List.flatMap_nil, List.append_nil]

/-- Whatever members are joined, they are the members of the object. -/
theorem parse_joined {ts : List String} {ms : List (String × Value)}
    (h : List.Forall₂ MemberText ts ms) : parse (objectText ts) = .ok (.object ms) := by
  refine parse_object_iff.mpr ⟨[], (",".intercalate ts).toList, [], toList_objectText ts, blank_nil,
    blank_nil, ?_⟩
  cases h with
  | nil => exact .inl ⟨rfl, blank_nil⟩
  | @cons t m ts ms ht hts =>
    refine .inr ⟨t.toList, ts.map String.toList, toList_intercalate_cons t ts, ?_⟩
    exact .cons (memberText_iff.mp ht)
      (List.forall₂_map_left_iff.mpr (hts.imp fun _ _ => memberText_iff.mp))

/-- Every object is its members joined, if it has any, between blanks. -/
theorem exists_joined {text : String} {ms : List (String × Value)}
    (h : parse text = .ok (.object ms)) :
    ∃ ts, List.Forall₂ MemberText ts ms ∧ (ms ≠ [] → ∃ lead trail,
      text = lead ++ objectText ts ++ trail ∧ Blank lead.toList ∧ Blank trail.toList) := by
  obtain ⟨lead, inner, trail, htext, hlead, htrail, hinside⟩ := parse_object_iff.mp h
  rcases hinside with ⟨rfl, -⟩ | ⟨t, ts, rfl, hspells⟩
  · exact ⟨[], .nil, fun h => absurd rfl h⟩
  · refine ⟨(t :: ts).map String.ofList, ?_, fun _ => ⟨String.ofList lead, String.ofList trail, ?_,
      by rwa [String.toList_ofList], by rwa [String.toList_ofList]⟩⟩
    · refine List.forall₂_map_left_iff.mpr (hspells.imp fun t m ht => ?_)
      rwa [memberText_iff, String.toList_ofList]
    · refine String.toList_injective ?_
      -- Texts and their characters correspond one to one.
      have htexts : ts.map (String.toList ∘ String.ofList) = ts :=
        List.map_id'' (fun _ => String.toList_ofList) ts
      rw [htext, String.toList_append, String.toList_append, toList_objectText, List.map_cons,
        toList_intercalate_cons, List.map_map, htexts]
      simp

end HistoryAudit.Json
