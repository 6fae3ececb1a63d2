/-
  HistoryAudit.Proofs.Json.Taken

  What the members of an object come to when they are taken one after the other.
  Members with different names do not touch each other, so a field gets what the
  values under its name say (`Fields.ofMembers_cons`): its fallback if there is none,
  and never more than one of them.
-/
import HistoryAudit.Proofs.Json.ByValue
import HistoryAudit.Proofs.Json.Sorted

namespace HistoryAudit.Json

/-- A fold over a pair, of which every element touches one half only, is two folds. -/
theorem foldlM_split {σ τ γ ε : Type} {p : γ → Prop} [DecidablePred p] {s : σ → γ → Except ε σ}
    {t : τ → γ → Except ε τ} {step : σ × τ → γ → Except ε (σ × τ)}
    (hp : ∀ x m, p m → step x m = (·, x.2) <$> s x.1 m)
    (hn : ∀ x m, ¬p m → step x m = (x.1, ·) <$> t x.2 m) (ms : List γ) (x : σ) (y : τ)
    {x' : σ} {y' : τ} :
    ms.foldlM step (x, y) = .ok (x', y') ↔
      (ms.filter (p ·)).foldlM s x = .ok x' ∧ (ms.filter (¬p ·)).foldlM t y = .ok y' := by
  -- Each element moves one half of the pair and leaves the other where it is.
  induction ms generalizing x y with
  | nil =>
    show Except.ok (x, y) = .ok (x', y') ↔ Except.ok x = .ok x' ∧ Except.ok y = .ok y'
    simp
  | cons m ms ih =>
    rw [List.foldlM_cons, except_bind_eq_ok]
    by_cases hm : p m
    · have hkeep : (m :: ms).filter (p ·) = m :: ms.filter (p ·) :=
        List.filter_cons_of_pos (by simpa using hm)
      have hdrop : (m :: ms).filter (¬p ·) = ms.filter (¬p ·) :=
        List.filter_cons_of_neg (by simpa using hm)
      rw [hkeep, hdrop, List.foldlM_cons, except_bind_eq_ok, hp _ _ hm]
      simp only [except_map_eq_ok]
      constructor
      · rintro ⟨_, ⟨x₁, hx₁, rfl⟩, hms⟩
        obtain ⟨hs, ht⟩ := (ih x₁ y).mp hms
        exact ⟨⟨x₁, hx₁, hs⟩, ht⟩
      · rintro ⟨⟨x₁, hx₁, hs⟩, ht⟩
        exact ⟨_, ⟨x₁, hx₁, rfl⟩, (ih x₁ y).mpr ⟨hs, ht⟩⟩
    · have hdrop : (m :: ms).filter (p ·) = ms.filter (p ·) :=
        List.filter_cons_of_neg (by simpa using hm)
      have hkeep : (m :: ms).filter (¬p ·) = m :: ms.filter (¬p ·) :=
        List.filter_cons_of_pos (by simpa using hm)
      rw [hkeep, hdrop, List.foldlM_cons, except_bind_eq_ok, hn _ _ hm]
      simp only [except_map_eq_ok]
      constructor
      · rintro ⟨_, ⟨y₁, hy₁, rfl⟩, hms⟩
        obtain ⟨hs, ht⟩ := (ih x y₁).mp hms
        exact ⟨hs, y₁, hy₁, ht⟩
      · rintro ⟨hs, y₁, hy₁, ht⟩
        exact ⟨_, ⟨y₁, hy₁, rfl⟩, (ih x y₁).mpr ⟨hs, ht⟩⟩

/-! ## Fields -/

namespace Field

variable {f : Field α}

/-- Takes one more value for a field that has got `x`. -/
def take (f : Field α) (x : Option α) (v : Value) : Except Cause (Option α) :=
  if x.isSome then .error (.duplicateField f.name) else some <$> f.codec.ofValue .given v

/-- What a field comes to if it is given these values. -/
inductive Takes (f : Field α) : List Value → α → Prop
  | absent {a : α} (h : f.fallback? = some a) : Takes f [] a
  | given {v : Value} {a : α} (h : f.codec.ofValue .given v = .ok a) : Takes f [v] a

/-- A field that has got a value gets no other. -/
theorem foldlM_take_some {vs : List Value} {a : α} {x : Option α} :
    vs.foldlM f.take (some a) = .ok x ↔ vs = [] ∧ x = some a := by
  cases vs with
  | nil =>
    show Except.ok (some a) = .ok x ↔ _
    simp [eq_comm]
  | cons v vs =>
    rw [List.foldlM_cons]
    exact ⟨nofun, nofun⟩

/-- What is given is taken one after the other, and at the end a field without a value gets its
fallback. -/
theorem takes_iff (cause : Cause) {vs : List Value} {a : α} :
    f.Takes vs a ↔ ∃ x, vs.foldlM f.take none = .ok x ∧
      (match x with
        | some a => Except.ok a
        | none => f.absent cause) = .ok a := by
  -- Nothing given: the fallback decides.
  cases vs with
  | nil =>
    have habsent : f.absent cause = .ok a ↔ f.fallback? = some a := by
      rw [absent]
      cases f.fallback? <;> simp
    constructor
    · rintro ⟨h⟩
      exact ⟨none, rfl, habsent.mpr h⟩
    · rintro ⟨_, ⟨⟩, h⟩
      exact .absent (habsent.mp h)
  | cons v vs =>
    simp only [List.foldlM_cons, except_bind_eq_ok, take, Option.isSome_none, Bool.false_eq_true,
      if_false, except_map_eq_ok]
    constructor
    · rintro ⟨⟩
      rename_i h
      exact ⟨some a, ⟨_, ⟨a, h, rfl⟩, rfl⟩, rfl⟩
    · rintro ⟨x, ⟨_, ⟨b, hb, rfl⟩, hrest⟩, ha⟩
      obtain ⟨rfl, rfl⟩ := foldlM_take_some.mp hrest
      cases ha
      exact .given hb

end Field

namespace Fields

theorem ofMembers_done (ms : List (String × Value)) : done.ofMembers .given ms = .ok () := by
  have hfold : ms.foldlM (fun d m => done.ofMember .given m.1 m.2 d) done.blank = .ok () := by
    induction ms with
    | nil => rfl
    | cons m ms ih => exact ih
  rw [ofMembers, hfold]
  rfl

theorem complete_cons {f : Field α} {fs : Fields β} {d : (cons f fs).Draft} {a : α} {b : β} :
    (cons f fs).complete d = .ok (a, b) ↔
      (match d.1 with
        | some a => Except.ok a
        | none => f.absent (.missingField f.name)) = .ok a ∧ fs.complete d.2 = .ok b := by
  -- The two checks in sequence, the first one first.
  have hpair : (cons f fs).complete d = (match d.1 with
      | some a => Except.ok a
      | none => f.absent (.missingField f.name)) >>= fun a => (a, ·) <$> fs.complete d.2 := by
    unfold Fields.cons
    simp only [bind_pure_comp]
    cases d.1 <;> rfl
  rw [hpair, except_bind_eq_ok]
  simp only [except_map_eq_ok]
  constructor
  · rintro ⟨_, ha, _, hb, ⟨⟩⟩
    exact ⟨ha, hb⟩
  · rintro ⟨ha, hb⟩
    exact ⟨a, ha, b, hb, rfl⟩

/-- Members under other names are passed over. -/
def Ignores (fs : Fields α) : Prop :=
  ∀ name v d, name ∉ fs.names → fs.ofMember .given name v d = .ok d

theorem ignores_done : done.Ignores := fun _ _ _ _ => rfl

theorem Ignores.cons {f : Field α} {fs : Fields β} (h : fs.Ignores) : (cons f fs).Ignores := by
  intro name v d hname
  obtain ⟨hfirst, hbehind⟩ := not_or.mp (mt List.mem_cons.mpr hname)
  unfold Fields.cons
  simp only [if_neg hfirst, h name v d.2 hbehind]
  rfl

/-- Members under other names may be left out. -/
theorem Ignores.ofMembers_filter {fs : Fields α} (h : fs.Ignores) {p : String × Value → Bool}
    (hp : ∀ m, m.1 ∈ fs.names → p m = true) (ms : List (String × Value)) :
    fs.ofMembers .given (ms.filter p) = fs.ofMembers .given ms := by
  -- A member that is left out would not have changed the draft.
  have hfold : ∀ d, (ms.filter p).foldlM (fun d m => fs.ofMember .given m.1 m.2 d) d =
      ms.foldlM (fun d m => fs.ofMember .given m.1 m.2 d) d := by
    induction ms with
    | nil => exact fun _ => rfl
    | cons m ms ih =>
      intro d
      by_cases hm : p m = true
      · rw [List.filter_cons_of_pos hm, List.foldlM_cons, List.foldlM_cons]
        exact congrArg _ (funext ih)
      · rw [List.filter_cons_of_neg hm, List.foldlM_cons, ih,
          h m.1 m.2 d fun hname => hm (hp m hname)]
        rfl
  rw [ofMembers, ofMembers, hfold]

/-- Each field gets the values under its name. -/
theorem ofMembers_cons {f : Field α} {fs : Fields β} {ms : List (String × Value)} {a : α} {b : β}
    (h : fs.Ignores) (hname : f.name ∉ fs.names) :
    (cons f fs).ofMembers .given ms = .ok (a, b) ↔
      f.Takes (valuesOf f.name ms) a ∧ fs.ofMembers .given ms = .ok b := by
  -- The members under the name of the first field are all its own, and the other fields ignore them.
  have hothers := h.ofMembers_filter (p := (¬·.1 = f.name))
    (fun m hm => decide_eq_true fun heq => hname (heq ▸ hm)) ms
  have hfold : ∀ (d d' : (cons f fs).Draft),
      ms.foldlM (fun d m => (cons f fs).ofMember .given m.1 m.2 d) d = .ok d' ↔
        (valuesOf f.name ms).foldlM f.take d.1 = .ok d'.1 ∧
          (ms.filter (¬·.1 = f.name)).foldlM (fun d m => fs.ofMember .given m.1 m.2 d) d.2 =
            .ok d'.2 := by
    intro d d'
    have hown : ∀ (d : (cons f fs).Draft) (m : String × Value), m.1 = f.name →
        (cons f fs).ofMember .given m.1 m.2 d = (·, d.2) <$> f.take d.1 m.2 := by
      intro d m hm
      unfold Fields.cons Field.take
      simp only [if_pos hm, bind_pure_comp]
      by_cases hrepeated : d.1.isSome = true
      · simp only [if_pos hrepeated]
        rfl
      · simp only [if_neg hrepeated, Functor.map_map]
    have hother : ∀ (d : (cons f fs).Draft) (m : String × Value), ¬m.1 = f.name →
        (cons f fs).ofMember .given m.1 m.2 d = (d.1, ·) <$> fs.ofMember .given m.1 m.2 d.2 := by
      intro d m hm
      unfold Fields.cons
      simp only [if_neg hm, bind_pure_comp]
    rw [valuesOf, List.foldlM_map]
    exact foldlM_split (p := fun m : String × Value => m.1 = f.name)
      (s := fun x m => f.take x m.2) (t := fun d m => fs.ofMember .given m.1 m.2 d) hown hother ms
      d.1 d.2
  rw [ofMembers, except_bind_eq_ok]
  simp only [hfold]
  rw [Field.takes_iff (.missingField f.name), ← hothers, ofMembers, except_bind_eq_ok]
  constructor
  · rintro ⟨d, ⟨hx, hd⟩, hcomplete⟩
    obtain ⟨ha, hb⟩ := complete_cons.mp hcomplete
    exact ⟨⟨d.1, hx, ha⟩, d.2, hd, hb⟩
  · rintro ⟨⟨x, hx, ha⟩, d, hd, hb⟩
    exact ⟨(x, d), ⟨hx, hd⟩, complete_cons.mpr ⟨ha, hb⟩⟩

end Fields

/-! ## Types of values -/

namespace Value

/-- The text that a value is. -/
def text? : Value → Option String
  | .string s => some s
  | _ => none

/-- The integer of 32 bits that a value is. -/
def int32? : Value → Option Int
  | .number (.int n) => if -(Nat.pow 2 31) ≤ n ∧ n ≤ Nat.pow 2 31 - 1 then some n else none
  | _ => none

/-- The number that a value is, as a double. -/
def double? : Value → Option Float
  | .number (.int n) => some (Codec.floatOfInt n)
  | .number (.float f) => some f
  | _ => none

/-- The texts that a value lists. -/
def texts? : Value → Option (List String)
  | .array vs => vs.mapM text?
  | _ => none

end Value

/-- The codec takes the values that have a meaning, as what they mean, and null has none. -/
structure Codec.Means (codec : Codec α) (meaning? : Value → Option α) : Prop where
  takes : ∀ v a, codec.ofValue .given v = .ok a ↔ meaning? v = some a
  null : meaning? .null = none

namespace Codec

theorem means_text : text.Means Value.text? where
  takes v s := by cases v <;> simp [text, textOf, leaf, wrongType, Value.text?]
  null := rfl

theorem means_int32 : int32.Means Value.int32? where
  takes v n := by
    cases v with
    | number m =>
      cases m with
      | int m =>
        show (if _ then Except.ok m else _) = .ok n ↔ (if _ then some m else none) = some n
        split <;> simp
      | float f => exact ⟨nofun, nofun⟩
    | _ => exact ⟨nofun, nofun⟩
  null := rfl

theorem means_float : float.Means Value.double? where
  takes v f := by
    cases v with
    | number m => cases m <;> exact ⟨fun h => congrArg some (Except.ok.inj h), fun h =>
        congrArg Except.ok (Option.some.inj h)⟩
    | _ => exact ⟨nofun, nofun⟩
  null := rfl

theorem means_texts : text.list.Means Value.texts? where
  takes v ss := by
    cases v with
    | array vs =>
      show vs.mapM (text.ofValue .given) = .ok ss ↔ vs.mapM Value.text? = some ss
      -- Both sides are made of their items in the same way.
      induction vs generalizing ss with
      | nil =>
        show Except.ok [] = .ok ss ↔ some [] = some ss
        simp
      | cons v vs ih =>
        rw [List.mapM_cons, List.mapM_cons, except_bind_eq_ok, Option.bind_eq_bind,
          Option.bind_eq_some_iff]
        refine exists_congr fun s => and_congr (means_text.takes v s) ?_
        rw [except_bind_eq_ok, Option.bind_eq_bind, Option.bind_eq_some_iff]
        refine exists_congr fun rest => and_congr (ih rest) ?_
        exact ⟨fun h => congrArg some (Except.ok.inj h), fun h => congrArg Except.ok
          (Option.some.inj h)⟩
    | _ => exact ⟨nofun, nofun⟩
  null := rfl

end Codec

/-- At most one value, which is null or has a meaning. -/
structure AtMostOne (meaning? : Value → Option α) (vs : List Value) : Prop where
  once : vs.length ≤ 1
  typed : ∀ v ∈ vs, v = .null ∨ ∃ a, meaning? v = some a

/-- A member that may be null or missing takes such values, and it is what they mean. -/
theorem Field.takes_nullable {codec : Codec α} {meaning? : Value → Option α}
    (h : codec.Means meaning?) {name : String} {vs : List Value} {a? : Option α} :
    (Field.nullable name codec).Takes vs a? ↔
      AtMostOne meaning? vs ∧ a? = vs.head?.bind meaning? := by
  -- A value is taken iff it is null or has a meaning.
  have hgiven : ∀ v, codec.option.ofValue .given v = .ok a? ↔
      (v = .null ∨ ∃ a, meaning? v = some a) ∧ a? = meaning? v := by
    intro v
    by_cases hnull : v = .null
    · subst hnull
      rw [h.null]
      exact ⟨fun heq => ⟨.inl rfl, (Except.ok.inj heq).symm⟩, fun heq => congrArg _ heq.2.symm⟩
    · rw [Codec.option_ofValue hnull, except_map_eq_ok]
      simp only [h.takes, hnull, false_or]
      constructor
      · rintro ⟨a, ha, rfl⟩
        exact ⟨⟨a, ha⟩, ha.symm⟩
      · rintro ⟨⟨a, ha⟩, rfl⟩
        exact ⟨a, ha, ha.symm⟩
  constructor
  · rintro (hfallback | hv)
    · exact ⟨⟨Nat.zero_le 1, nofun⟩, (Option.some.inj hfallback).symm⟩
    · rename_i v
      obtain ⟨htyped, ha⟩ := (hgiven v).mp hv
      exact ⟨⟨Nat.le_refl 1, List.forall_mem_singleton.mpr htyped⟩, ha⟩
  · rintro ⟨⟨honce, htyped⟩, rfl⟩
    -- Of several values the second is refused as a duplicate.
    match vs with
    | [] => exact .absent rfl
    | [v] => exact .given ((hgiven v).mpr ⟨htyped v List.mem_cons_self, rfl⟩)
    | _ :: _ :: vs => simp at honce

end HistoryAudit.Json
