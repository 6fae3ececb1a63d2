/-
  HistoryAudit.Proofs.Json.ByValue

  Reading a type comes to reading a value and holding it to the type. A typed reader
  never makes the value, but it succeeds just where the reader of values does with a
  value of the type, and stops at the same place (`HeldTo`). So what a codec takes
  from a text is what it takes from the value that the text spells (`Codec.ByValue`),
  and the same of the members of an object (`heldTo_members`).
-/
import HistoryAudit.Json.Fields
import HistoryAudit.Proofs.Json.Integers
import Mathlib.Data.List.Basic

namespace HistoryAudit.Json

/-! ## Success -/

theorem except_bind_eq_ok {x : Except ε α} {k : α → Except ε β} {b : β} :
    (x >>= k) = .ok b ↔ ∃ a, x = .ok a ∧ k a = .ok b := by
  cases x with
  | ok a =>
    constructor
    · exact fun h => ⟨a, rfl, h⟩
    · rintro ⟨_, ⟨⟩, h⟩
      exact h
  | error e =>
    constructor
    · nofun
    · rintro ⟨_, ⟨⟩, -⟩

theorem except_map_eq_ok {x : Except ε α} {f : α → β} {b : β} :
    f <$> x = .ok b ↔ ∃ a, x = .ok a ∧ f a = b := by
  cases x with
  | ok a =>
    constructor
    · exact fun h => ⟨a, rfl, Except.ok.inj h⟩
    · rintro ⟨_, ⟨⟩, rfl⟩
      rfl
  | error e =>
    constructor
    · nofun
    · rintro ⟨_, ⟨⟩, -⟩

namespace Reader

theorem bind_eq_ok {r : Reader α} {k : α → Reader β} {b : β} {c c' : Cursor} :
    (r >>= k) c = .ok b c' ↔ ∃ a c₁, r c = .ok a c₁ ∧ k a c₁ = .ok b c' := by
  change EStateM.bind r k c = _ ↔ _
  unfold EStateM.bind
  cases hr : r c with
  | ok a c₁ =>
    constructor
    · exact fun h => ⟨a, c₁, rfl, h⟩
    · rintro ⟨_, _, ⟨⟩, h⟩
      exact h
  | error f c₁ =>
    constructor
    · nofun
    · rintro ⟨_, _, ⟨⟩, -⟩

theorem pure_eq_ok {a b : α} {c c' : Cursor} :
    (pure a : Reader α) c = .ok b c' ↔ a = b ∧ c = c' := by
  constructor
  · rintro ⟨⟩
    exact ⟨rfl, rfl⟩
  · rintro ⟨rfl, rfl⟩
    rfl

theorem enclosed_eq_ok {r : Reader α} {close : Reader Unit} {a : α} {c c' : Cursor} :
    enclosed r close c = .ok a c' ↔ ∃ c₁, r c = .ok a c₁ ∧ close c₁ = .ok () c' := by
  unfold enclosed
  cases hr : r c with
  | ok b c₁ => cases hclose : close c₁ <;> simp [hclose]
  | error f c₁ => cases hclose : close c₁ <;> simp [hclose]

theorem run_eq_ok {r : Reader α} {text : String} {a : α} :
    run r text = .ok a ↔
      ∃ c₁ c₂, r (Cursor.ofText text) = .ok a c₁ ∧ finish c₁ = .ok () c₂ := by
  -- The reader and the check of the end are one reader in sequence.
  have hwhole : run r text = .ok a ↔
      ∃ c₂, (do let a ← r; finish; pure a : Reader α) (Cursor.ofText text) = .ok a c₂ := by
    unfold run
    split
    · rename_i b c₂ heq
      rw [heq]
      simp
    · rename_i f c₂ heq
      rw [heq]
      simp
  rw [hwhole]
  simp only [bind_eq_ok, pure_eq_ok]
  constructor
  · rintro ⟨c₂, b, c₁, hr, _, c₃, hfinish, rfl, rfl⟩
    exact ⟨c₁, c₃, hr, hfinish⟩
  · rintro ⟨c₁, c₂, hr, hfinish⟩
    exact ⟨c₂, a, c₁, hr, (), c₂, hfinish, rfl, rfl⟩

/-! ## Readers -/

/-- `r` gives what `s` gives, held to `accept`, and stops at the same place. -/
def HeldTo (s : Reader β) (accept : β → Except Cause α) (r : Reader α) : Prop :=
  ∀ c a c', r c = .ok a c' ↔ ∃ b, s c = .ok b c' ∧ accept b = .ok a

section Parts

variable {s : Reader β} {accept : β → Except Cause α} {r : Reader α}

/-- A reader that never succeeds, for values that are never accepted. -/
theorem heldTo_refused (hr : Gives (fun _ => False) r)
    (hs : Gives (fun b => ∀ a, accept b ≠ .ok a) s) : HeldTo s accept r := by
  intro c a c'
  constructor
  · exact fun h => (hr c a c' h).elim
  · rintro ⟨b, hb, ha⟩
    exact absurd ha (hs c b c' hb a)

theorem heldTo_self (s : Reader β) : HeldTo s .ok s := by
  intro c b c'
  constructor
  · exact fun h => ⟨b, h, rfl⟩
  · rintro ⟨_, h, ⟨⟩⟩
    exact h

/-- The result is held to one thing more. -/
theorem HeldTo.bind_accept {post : α → Except Cause γ} {k : α → Reader γ} (h : HeldTo s accept r)
    (hk : ∀ a c g c', k a c = .ok g c' ↔ post a = .ok g ∧ c = c') :
    HeldTo s (fun b => accept b >>= post) (r >>= k) := by
  intro c g c'
  simp only [bind_eq_ok, except_bind_eq_ok, hk, h _ _ _]
  constructor
  · rintro ⟨a, _, ⟨b, hb, ha⟩, hg, rfl⟩
    exact ⟨b, hb, a, ha, hg⟩
  · rintro ⟨b, hb, a, ha, hg⟩
    exact ⟨a, c', ⟨b, hb, ha⟩, hg, rfl⟩

/-- What is made of the result alone. -/
theorem HeldTo.map {f : α → α'} (h : HeldTo s accept r) :
    HeldTo s (fun b => f <$> accept b) (r >>= fun a => pure (f a)) := by
  simp only [← bind_pure_comp]
  exact h.bind_accept fun a c a' c' =>
    pure_eq_ok.trans (and_congr_left fun _ => ⟨congrArg _, Except.ok.inj⟩)

/-- The same first part on both sides. -/
theorem heldTo_bind {x : Reader γ} {s : γ → Reader β} {r : γ → Reader α}
    (h : ∀ g, HeldTo (s g) accept (r g)) : HeldTo (x >>= s) accept (x >>= r) := by
  intro c a c'
  simp only [bind_eq_ok, h _ _ _ _]
  constructor
  · rintro ⟨g, c₁, hx, b, hb, ha⟩
    exact ⟨b, ⟨g, c₁, hx, hb⟩, ha⟩
  · rintro ⟨b, ⟨g, c₁, hx, hb⟩, ha⟩
    exact ⟨g, c₁, hx, b, hb, ha⟩

/-- What is made of the value alone. -/
theorem HeldTo.map_value {g : β → β'} {accept' : β' → Except Cause α} (h : HeldTo s accept r)
    (haccept : ∀ b, accept' (g b) = accept b) :
    HeldTo (s >>= fun b => pure (g b)) accept' r := by
  intro c a c'
  simp only [bind_eq_ok, pure_eq_ok, h _ _ _]
  constructor
  · rintro ⟨b, hb, ha⟩
    exact ⟨g b, ⟨b, c', hb, rfl, rfl⟩, (haccept b).trans ha⟩
  · rintro ⟨_, ⟨b, c₁, hb, rfl, rfl⟩, ha⟩
    exact ⟨b, hb, (haccept b).symm.trans ha⟩

theorem HeldTo.enclosed (h : HeldTo s accept r) (close : Reader Unit) :
    HeldTo (enclosed s close) accept (enclosed r close) := by
  intro c a c'
  simp only [enclosed_eq_ok, h _ _ _]
  constructor
  · rintro ⟨c₁, ⟨b, hb, ha⟩, hclose⟩
    exact ⟨b, ⟨c₁, hb, hclose⟩, ha⟩
  · rintro ⟨b, ⟨c₁, hb, hclose⟩, ha⟩
    exact ⟨c₁, ⟨b, hb, ha⟩, hclose⟩

/-- A container must not be one too many, on both sides. -/
theorem heldTo_opened {levels : Nat} (h : levels ≠ 0 → HeldTo s accept r) :
    HeldTo (opened levels s) accept (opened levels r) := by
  unfold opened
  split
  · exact heldTo_refused gives_failAtNext gives_failAtNext
  · rename_i hlevels
    exact heldTo_bind fun _ => h hlevels

/-- A whole text. -/
theorem HeldTo.run (h : HeldTo s accept r) {text : String} {a : α} :
    run r text = .ok a ↔ ∃ b, run s text = .ok b ∧ accept b = .ok a := by
  simp only [run_eq_ok, h _ _ _]
  constructor
  · rintro ⟨c₁, c₂, ⟨b, hb, ha⟩, hfinish⟩
    exact ⟨b, ⟨c₁, c₂, hb, hfinish⟩, ha⟩
  · rintro ⟨b, ⟨c₁, c₂, hb, hfinish⟩, ha⟩
    exact ⟨c₁, c₂, ⟨b, hb, ha⟩, hfinish⟩

/-! ### Items and members -/

theorem heldTo_itemsFrom (h : HeldTo s accept r) (fuel : Nat) (first : Bool) :
    HeldTo (itemsFrom s fuel first) (List.mapM accept) (itemsFrom r fuel first) := by
  induction fuel generalizing first with
  | zero => exact heldTo_refused gives_failHere gives_failHere
  | succ fuel ih =>
    refine heldTo_bind fun further => ?_
    cases further with
    | false =>
      -- The list ends here: both readers give the empty list.
      intro c as c'
      show (pure [] : Reader (List α)) c = _ ↔ ∃ bs, (pure [] : Reader (List β)) c = _ ∧ _
      simp only [pure_eq_ok]
      constructor
      · rintro ⟨rfl, rfl⟩
        exact ⟨[], ⟨rfl, rfl⟩, rfl⟩
      · rintro ⟨_, ⟨rfl, rfl⟩, ⟨⟩⟩
        exact ⟨rfl, rfl⟩
    | true =>
      -- One item and the rest, each accepted by itself.
      intro c as c'
      simp only [if_true, bind_eq_ok, pure_eq_ok, h _ _ _, ih _ _ _ _]
      constructor
      · rintro ⟨a, c₁, ⟨b, hb, ha⟩, as, c₂, ⟨bs, hbs, has⟩, rfl, rfl⟩
        refine ⟨b :: bs, ⟨b, c₁, hb, bs, c₂, hbs, rfl, rfl⟩, ?_⟩
        rw [List.mapM_cons, ha, has]
        rfl
      · rintro ⟨_, ⟨b, c₁, hb, bs, c₂, hbs, rfl, rfl⟩, hall⟩
        rw [List.mapM_cons] at hall
        obtain ⟨a, ha, hall⟩ := except_bind_eq_ok.mp hall
        obtain ⟨as, has, hall⟩ := except_bind_eq_ok.mp hall
        exact ⟨a, c₁, ⟨b, hb, ha⟩, as, c₂, ⟨bs, hbs, has⟩, Except.ok.inj hall, rfl⟩

/-- All items of a list are held to what one is held to. -/
theorem heldTo_items (h : HeldTo s accept r) :
    HeldTo (items s) (List.mapM accept) (items r) := fun c =>
  heldTo_itemsFrom h (c.rest.length + 1) true c

section Members

variable {σ : Type} {member : String → σ → Reader σ} {step : σ → String × β → Except Cause σ}

/-- The reader of members that keeps all of them, the last one first. -/
def keepMember (s : Reader β) (name : String) (kept : List (String × β)) :
    Reader (List (String × β)) := do
  colon
  return (name, ← s) :: kept

/-- Members that were kept stay. -/
theorem suffix_of_membersFrom (fuel : Nat) (first : Bool) (kept : List (String × β)) :
    Gives (kept <:+ ·) (membersFrom string (keepMember s) fuel first kept) := by
  induction fuel generalizing first kept with
  | zero => exact gives_failHere
  | succ fuel ih =>
    refine gives_bind fun further => gives_ite (fun _ => ?_) fun _ => gives_pure List.suffix_rfl
    refine gives_bind fun _ => gives_bind fun name => ?_
    have hkept : Gives (kept <:+ ·) (keepMember s name kept) :=
      gives_bind fun _ => gives_bind fun b => gives_pure (List.suffix_cons _ _)
    exact hkept.bind fun kept' hsuffix c all c' hall =>
      hsuffix.trans (ih false kept' c all c' hall)

/-- The state `x` is what the members that were kept make of the first state `x₀`. It stays so with
every member that is read. -/
theorem heldTo_membersFrom {x₀ x : σ} {kept : List (String × β)}
    (h : ∀ name x, HeldTo (do colon; s) (fun b => step x (name, b)) (member name x))
    (hx : kept.reverse.foldlM step x₀ = .ok x) (fuel : Nat) (first : Bool) :
    HeldTo (membersFrom string (keepMember s) fuel first kept)
      (fun all => all.reverse.foldlM step x₀) (membersFrom string member fuel first x) := by
  induction fuel generalizing first x kept with
  | zero => exact heldTo_refused gives_failHere gives_failHere
  | succ fuel ih =>
    refine heldTo_bind fun further => ?_
    cases further with
    | false =>
      intro c x' c'
      show (pure x : Reader σ) c = _ ↔ ∃ all, (pure kept : Reader (List (String × β))) c = _ ∧ _
      simp only [pure_eq_ok]
      constructor
      · rintro ⟨rfl, rfl⟩
        exact ⟨kept, ⟨rfl, rfl⟩, hx⟩
      · rintro ⟨_, ⟨rfl, rfl⟩, hx'⟩
        exact ⟨Except.ok.inj (hx.symm.trans hx'), rfl⟩
    | true =>
      refine heldTo_bind fun _ => heldTo_bind fun name => ?_
      have hnext : ∀ (b : β) (x₁ : σ), step x (name, b) = .ok x₁ →
          ((name, b) :: kept).reverse.foldlM step x₀ = .ok x₁ := by
        intro b x₁ hstep
        rw [List.reverse_cons, List.foldlM_append, hx]
        show List.foldlM step x [(name, b)] = _
        rw [List.foldlM_cons, hstep]
        rfl
      intro c x' c'
      simp only [bind_eq_ok, keepMember, pure_eq_ok, h _ _ _ _ _]
      constructor
      · rintro ⟨x₁, c₁, ⟨b, ⟨u, c₂, hcolon, hb⟩, hstep⟩, hrest⟩
        obtain ⟨all, hall, hfold⟩ := (ih (hnext b x₁ hstep) false c₁ x' c').mp hrest
        exact ⟨all, ⟨_, c₁, ⟨u, c₂, hcolon, b, c₁, hb, rfl, rfl⟩, hall⟩, hfold⟩
      · rintro ⟨all, ⟨_, _, ⟨u, c₂, hcolon, b, c₁, hb, rfl, rfl⟩, hall⟩, hfold⟩
        -- All members were taken, so this one was.
        obtain ⟨x₁, hstep⟩ : ∃ x₁, step x (name, b) = .ok x₁ := by
          obtain ⟨later, rfl⟩ := suffix_of_membersFrom fuel false _ c₁ all c' hall
          rw [List.reverse_append, List.foldlM_append, List.reverse_cons, List.foldlM_append, hx]
            at hfold
          obtain ⟨x₁, hone, -⟩ := except_bind_eq_ok.mp hfold
          change List.foldlM step x [(name, b)] = .ok x₁ at hone
          rw [List.foldlM_cons] at hone
          obtain ⟨x₁, hstep, -⟩ := except_bind_eq_ok.mp hone
          exact ⟨x₁, hstep⟩
        exact ⟨x₁, c₁, ⟨b, ⟨u, c₂, hcolon, hb⟩, hstep⟩,
          (ih (hnext b x₁ hstep) false c₁ x' c').mpr ⟨all, hall, hfold⟩⟩

/-- The members of an object, taken one after the other while they are read. -/
theorem heldTo_members (step : σ → String × β → Except Cause σ) (x : σ)
    (h : ∀ name x, HeldTo (do colon; s) (fun b => step x (name, b)) (member name x)) :
    HeldTo (do return (← members string (keepMember s) []).reverse)
      (fun ms => ms.foldlM step x) (members string member x) := by
  have hkept : HeldTo (members string (keepMember s) [])
      (fun all => all.reverse.foldlM step x) (members string member x) := fun c =>
    heldTo_membersFrom h rfl (c.rest.length + 1) true c
  exact hkept.map_value fun _ => rfl

end Members

end Parts

/-! ### Tokens -/

theorem takeWhile_drop_takeWhile (p : γ → Bool) (l : List γ) :
    (l.drop (l.takeWhile p).length).takeWhile p = [] := by
  induction l with
  | nil => rfl
  | cons a l ih =>
    by_cases ha : p a = true
    · rw [List.takeWhile_cons_of_pos ha, List.length_cons, List.drop_succ_cons, ih]
    · rw [List.takeWhile_cons_of_neg ha, List.length_nil, List.drop_zero,
        List.takeWhile_cons_of_neg ha]

/-- Behind the blanks there are no more of them, so a second look at the token passes nothing. -/
theorem peekToken_settled (c : Cursor) :
    ∃ token c₁, peekToken c = .ok token c₁ ∧ peekToken c₁ = .ok token c₁ := by
  have hsettled : ∀ c₁ : Cursor, c₁.rest.takeWhile isSpace = [] →
      peekToken c₁ = .ok c₁.rest.head? c₁ := by
    intro c₁ h
    have hskip : skipSpace c₁ = .ok () c₁ := by
      rw [skipSpace, h]
      rfl
    exact bind_eq_ok.mpr ⟨(), c₁, hskip, rfl⟩
  exact ⟨_, _, rfl, hsettled _ (takeWhile_drop_takeWhile isSpace c.rest)⟩

theorem token_bind {token : Option Char} {c c₁ : Cursor} {k : Option Char → Reader γ}
    (h : peekToken c = .ok token c₁) : (peekToken >>= k) c = k token c₁ := by
  change EStateM.bind peekToken k c = _
  unfold EStateM.bind
  rw [h]

/-- A scalar is no container, and null begins with its letter. -/
theorem scalar_gives (first : Char) :
    Gives (fun v => (first ≠ 'n' → v ≠ .null) ∧ (∀ vs, v ≠ .array vs) ∧ ∀ ms, v ≠ .object ms)
      (scalar first) := by
  refine gives_ite (fun hn => ?_) fun _ => gives_ite (fun _ => ?_) fun _ => gives_ite
    (fun _ => ?_) fun _ => gives_ite (fun _ => ?_) fun _ => gives_ite (fun _ => ?_) fun _ =>
      gives_failAtNext
  · exact gives_bind fun _ => gives_bind fun _ => gives_pure ⟨fun h => absurd hn h, nofun, nofun⟩
  · exact gives_bind fun _ => gives_bind fun _ => gives_pure ⟨nofun, nofun, nofun⟩
  · exact gives_bind fun _ => gives_bind fun _ => gives_pure ⟨nofun, nofun, nofun⟩
  · exact gives_bind fun _ => gives_pure ⟨nofun, nofun, nofun⟩
  · exact gives_bind fun _ => gives_bind fun _ => gives_pure ⟨nofun, nofun, nofun⟩

/-- What the token of a value tells of it: null begins with its letter and an object with its brace. -/
theorem value_gives_token {token : Option Char} {c c₁ c' : Cursor} {levels : Nat} {v : Value}
    (htoken : peekToken c = .ok token c₁) (hv : value (levels + 1) c = .ok v c') :
    (token ≠ some 'n' → v ≠ .null) ∧ (token ≠ some '\x7b' → ∀ ms, v ≠ .object ms) := by
  rw [value, token_bind htoken] at hv
  refine (?_ : Gives (fun v => (token ≠ some 'n' → v ≠ .null) ∧
    (token ≠ some '\x7b' → ∀ ms, v ≠ .object ms)) _) c₁ v c' hv
  split
  · exact gives_failAtNext
  · exact gives_bind fun vs => gives_pure ⟨nofun, nofun⟩
  · exact gives_bind fun ms => gives_pure ⟨nofun, fun h => absurd rfl h⟩
  · rename_i first _ _
    intro c v c' h
    obtain ⟨hnull, -, hobject⟩ := scalar_gives first c v c' h
    exact ⟨fun hn => hnull fun heq => hn (congrArg some heq), fun _ => hobject⟩

theorem mismatch_refused (expected : String) (first : Char) :
    Gives (fun _ : α => False) (mismatch expected first) :=
  gives_ite (fun _ => gives_failHere) fun _ => gives_ite (fun _ => gives_failHere) fun _ =>
    gives_bind fun _ => gives_failHere

end Reader

/-! ## Codecs -/

namespace Codec

open Reader

/-- From a text the codec takes what it takes from the value that the text spells. -/
def ByValue (codec : Codec α) : Prop :=
  ∀ levels, HeldTo (value (levels + 1)) (codec.ofValue .given) (codec.read (levels + 1))

variable {codec : Codec α}

/-- The codec of a value that is no container. -/
theorem byValue_leaf {expected : String} {accept : Value → Except Cause α} {toValue : α → Value}
    (harray : ∀ vs a, accept (.array vs) ≠ .ok a) (hobject : ∀ ms a, accept (.object ms) ≠ .ok a) :
    (leaf expected accept toValue).ByValue := by
  refine fun levels => heldTo_bind fun token => ?_
  cases token with
  | none => exact heldTo_refused gives_failAtNext gives_failAtNext
  | some first =>
    show HeldTo _ accept (if first = '[' ∨ first = '\x7b' then mismatch expected first else _)
    -- The first character decides: a list and a map are refused by both readers.
    by_cases hlist : first = '['
    · subst hlist
      rw [if_pos (.inl rfl)]
      exact heldTo_refused (mismatch_refused _ _) (gives_bind fun vs => gives_pure (harray vs))
    · by_cases hmap : first = '\x7b'
      · subst hmap
        rw [if_pos (.inr rfl)]
        exact heldTo_refused (mismatch_refused _ _) (gives_bind fun ms => gives_pure (hobject ms))
      · rw [if_neg (not_or.mpr ⟨hlist, hmap⟩)]
        split
        · rename_i heq
          cases heq
        · rename_i heq
          exact absurd (Option.some.inj heq) hlist
        · rename_i heq
          exact absurd (Option.some.inj heq) hmap
        · rename_i other _ _ heq
          obtain rfl := Option.some.inj heq
          refine (heldTo_self _).bind_accept fun v c a c' => ?_
          cases accept v with
          | ok b => exact pure_eq_ok.trans (and_congr_left fun _ => ⟨congrArg _, Except.ok.inj⟩)
          | error cause => exact ⟨nofun, nofun⟩

theorem option_ofValue {v : Value} (h : v ≠ .null) (origin : Origin) :
    codec.option.ofValue origin v = some <$> codec.ofValue origin v := by
  cases v <;> first | rfl | exact absurd rfl h

theorem ByValue.option (h : codec.ByValue) : codec.option.ByValue := by
  -- The token is looked at twice, once for null and once by the codec of what else there is.
  intro levels c a? c'
  obtain ⟨token, c₁, htoken, hagain⟩ := peekToken_settled c
  have hvalue : value (levels + 1) c = value (levels + 1) c₁ := by
    rw [value, token_bind htoken, token_bind hagain]
  have hread : codec.option.read (levels + 1) c = _ := token_bind htoken
  rw [hvalue, hread]
  split
  · -- The letter of null. Both sides read on with the other letters.
    have hnull : value (levels + 1) c₁ =
        (do skip; word ['u', 'l', 'l']; pure .null : Reader Value) c₁ := by
      rw [value, token_bind hagain]
      rfl
    rw [hnull]
    simp only [bind_eq_ok, pure_eq_ok]
    constructor
    · rintro ⟨u, c₂, hskip, w, c₃, hword, rfl, rfl⟩
      exact ⟨.null, ⟨u, c₂, hskip, w, c₃, hword, rfl, rfl⟩, rfl⟩
    · rintro ⟨_, ⟨u, c₂, hskip, w, c₃, hword, rfl, rfl⟩, ha⟩
      exact ⟨u, c₂, hskip, w, c₃, hword, Except.ok.inj ha, rfl⟩
  · rename_i hother
    have hmap := (h levels).map (f := some) c₁ a? c'
    refine hmap.trans (exists_congr fun v => and_congr_right fun hv => ?_)
    rw [option_ofValue ((value_gives_token hagain hv).1 hother)]

theorem ByValue.list (h : codec.ByValue) : codec.list.ByValue := by
  refine fun levels => heldTo_bind fun token => ?_
  split
  · exact heldTo_refused gives_failAtNext gives_failAtNext
  · have hitems : levels ≠ 0 → HeldTo (enclosed (items (value levels)) closeList)
        (List.mapM (codec.ofValue .given)) (enclosed (items (codec.read levels)) closeList) := by
      intro hlevels
      obtain ⟨n, rfl⟩ := Nat.exists_eq_succ_of_ne_zero hlevels
      exact (heldTo_items (h n)).enclosed closeList
    exact (heldTo_opened hitems).map_value fun _ => rfl
  · exact heldTo_refused (mismatch_refused _ _) (gives_bind fun ms => gives_pure nofun)
  · rename_i first hlist _
    -- A value that is no list is refused, whichever it is.
    have hwrong : ∀ v, (∀ vs, v ≠ .array vs) → ∀ as, codec.list.ofValue .given v ≠ .ok as := by
      intro v hv as
      cases v with
      | array vs => exact absurd rfl (hv vs)
      | _ => rintro ⟨⟩
    have hrefused : Gives (fun v => ∀ as, codec.list.ofValue .given v ≠ .ok as) (scalar first) :=
      fun c v c' h => hwrong v (scalar_gives first c v c' h).2.1
    split
    · exact heldTo_refused gives_failAtNext hrefused
    · rename_i heq
      exact absurd (Option.some.inj heq) hlist
    · exact heldTo_refused (mismatch_refused _ _) hrefused

end Codec

/-! ## Fields -/

namespace Fields

open Reader

/-- Behind a name that is known, the fields take from a text what they take from the value that the
text spells. -/
def ByValue (fs : Fields α) : Prop :=
  ∀ levels name d, name ∈ fs.names →
    HeldTo (do colon; value (levels + 1)) (fun v => fs.ofMember .given name v d)
      (fs.readMember (levels + 1) name d)

theorem byValue_done : done.ByValue := nofun

theorem ByValue.cons {f : Field α} {fs : Fields β} (hf : f.codec.ByValue) (hfs : fs.ByValue) :
    (cons f fs).ByValue := by
  intro levels name d hname
  unfold Fields.cons
  simp only [bind_pure_comp]
  -- The name is that of the first field or belongs to the others.
  by_cases heq : name = f.name
  · rw [if_pos heq]
    simp only [if_pos heq]
    by_cases hrepeated : d.1.isSome = true
    · simp only [if_pos hrepeated]
      exact heldTo_refused nofun fun _ _ _ _ => nofun
    · simp only [if_neg hrepeated]
      exact heldTo_bind fun _ => (hf levels).map
  · have hbehind : name ∈ fs.names := (List.mem_cons.mp hname).resolve_left heq
    rw [if_neg heq]
    simp only [if_neg heq]
    exact (hfs levels name d.2 hbehind).map

end Fields

end HistoryAudit.Json
