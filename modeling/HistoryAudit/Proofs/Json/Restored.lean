/-
  HistoryAudit.Proofs.Json.Restored

  What a codec writes, it reads. `Codec.Restores` says of one value that it comes
  back from its written value and from its compact text. There is one lemma for each
  way to make a codec, and the same for fields and for shapes. So a codec that is put
  together from others restores a value if these restore its parts, and then the
  whole text decodes to the value (`Codec.Restores.decode`).
-/
import HistoryAudit.Json.Variants
import HistoryAudit.Proofs.Json.Stored

namespace HistoryAudit.Json

open Reader

/-! ## Single values -/

namespace Codec

/-- The codec gives the value back, from its written value and from the compact text of that, in
which at most `depth` brackets are open at a time. -/
structure Restores (c : Codec α) (depth : Nat) (a : α) : Prop where
  stored : (c.toValue a).Storable depth
  ofValue : ∀ origin, c.ofValue origin (c.toValue a) = .ok a
  reads : ∀ levels rest, depth < levels → Ends rest →
    Reads (c.read levels) ((c.toValue a).write ++ rest) a rest

variable {c : Codec α} {a : α} {depth depth' : Nat}

theorem Restores.mono (h : c.Restores depth a) (hle : depth ≤ depth') : c.Restores depth' a where
  stored := h.stored.mono hle
  ofValue := h.ofValue
  reads levels rest hlevels := h.reads levels rest (Nat.lt_of_le_of_lt hle hlevels)

/-- A text that was written decodes to what it was written for. -/
theorem Restores.decode (h : c.Restores depth a) (hdepth : depth < maxDepth) :
    c.decode (c.toValue a).text = .ok a := by
  have hread := h.reads maxDepth [] hdepth ends_nil
  rw [List.append_nil] at hread
  refine run_of_reads ?_
  rw [Value.text, String.toList_ofList]
  exact hread

theorem Restores.map {f : α → β} {g : β → α} {b : β} (h : c.Restores depth (g b))
    (hfg : f (g b) = b) : (c.map f g).Restores depth b where
  stored := h.stored
  ofValue origin := by
    show f <$> c.ofValue origin (c.toValue (g b)) = .ok b
    rw [h.ofValue origin]
    exact congrArg Except.ok hfg
  reads levels rest hlevels hrest := by
    have hread := (h.reads levels rest hlevels hrest).bind (k := fun a => pure (f a))
      (reads_pure _ _)
    rw [hfg] at hread
    exact hread

theorem restores_leaf {expected : String} {accept : Value → Except Cause α} {toValue : α → Value}
    (hplain : (toValue a).Plain) (haccept : accept (toValue a) = .ok a) (depth : Nat) :
    (leaf expected accept toValue).Restores depth a where
  stored := .plain hplain depth
  ofValue _ := haccept
  reads _ _ _ hrest := reads_leaf hplain hrest haccept

theorem restores_text (s : String) (depth : Nat) : text.Restores depth s :=
  restores_leaf (.string s) rfl depth

/-- A path that is valid text. -/
theorem restores_path {p : OsText} (h : p.IsText) (depth : Nat) : path.Restores depth p :=
  Restores.map (restores_leaf (.string p.shown) rfl depth) h

theorem restores_bool (b : Bool) (depth : Nat) : bool.Restores depth b :=
  restores_leaf (.bool b) rfl depth

theorem restores_natural {expected : String} {bits n : Nat} (hbits : bits ≤ 64)
    (hn : n < Nat.pow 2 bits) (depth : Nat) : (natural expected bits).Restores depth n := by
  have hword : Nat.pow 2 bits ≤ Nat.pow 2 64 := Nat.pow_le_pow_right (by decide) hbits
  have hplain : (Value.int (Int.ofNat n)).Plain := .nat (Nat.le_sub_one_of_lt (by omega))
  have hbounds : (0 : Int) ≤ Int.ofNat n ∧ Int.ofNat n ≤ Nat.pow 2 bits - 1 :=
    ⟨Int.natCast_nonneg n, Int.le_sub_one_of_lt (Int.ofNat_lt.mpr hn)⟩
  exact Restores.map (restores_leaf hplain (if_pos hbounds) depth) (Int.toNat_natCast n)

/-- A name that is known. -/
theorem restores_choice {known : List (String × α)} {name : α → String}
    (h : variant known (name a) = .ok a) (depth : Nat) : (choice known name).Restores depth a where
  stored := .plain (.string _) depth
  ofValue _ := h
  reads levels rest _ hrest := by
    have hleaf : Reads (Reader.leaf "variant identifier" (variantName known))
        ((Value.string (name a)).write ++ rest) a rest := reads_leaf (.string _) hrest h
    exact Reads.peekToken_cons rfl hleaf

/-- A value that is canonical already. -/
theorem restores_any {v : Value} (h : v.Storable depth) (hcanonical : v.canonical = v) :
    any.Restores depth v where
  stored := h
  ofValue _ := congrArg Except.ok hcanonical
  reads levels rest hlevels hrest := by
    have hread := (reads_value h hlevels hrest).bind (k := fun v => pure v.canonical)
      (reads_pure _ _)
    rw [hcanonical] at hread
    exact hread

theorem restores_none (c : Codec α) (depth : Nat) : c.option.Restores depth none where
  stored := .null depth
  ofValue _ := rfl
  reads levels rest _ _ := by
    show Reads _ ((Value.null).write ++ rest) none rest
    rw [Value.write]
    exact Reads.peekToken_cons rfl
      (Reads.skip ((reads_word ['u', 'l', 'l']).bind (reads_pure _ _)))

/-- Null stands for no value, so no other value may be written so. -/
theorem Restores.some (h : c.Restores depth a) (hnull : c.toValue a ≠ .null) :
    c.option.Restores depth (some a) where
  stored := h.stored
  ofValue origin := by
    show c.option.ofValue origin (c.toValue a) = _
    -- Not null, so the value is the one that the codec takes.
    have hmap : c.option.ofValue origin (c.toValue a) =
        Option.some <$> c.ofValue origin (c.toValue a) := by
      unfold option
      simp only
    rw [hmap, h.ofValue origin]
    rfl
  reads levels rest hlevels hrest := by
    show Reads _ ((c.toValue a).write ++ rest) _ _
    obtain ⟨ch, more, hwrite, hspace, -, hn⟩ := h.stored.head
    have hread := h.reads levels rest hlevels hrest
    rw [hwrite] at hread ⊢
    -- Its first character tells it from null.
    refine Reads.peekToken_cons hspace ?_
    split
    · rename_i heq
      exact absurd (hn (Option.some.inj heq)) hnull
    · exact hread.bind (reads_pure _ _)

/-! ## Lists -/

theorem mapM_ofValue {as : List α} (h : ∀ a ∈ as, c.Restores depth a) (origin : Origin) :
    (as.map c.toValue).mapM (c.ofValue origin) = .ok as := by
  induction as with
  | nil => rfl
  | cons a as ih =>
    rw [List.forall_mem_cons] at h
    rw [List.map_cons, List.mapM_cons, h.1.ofValue origin, ih h.2]
    rfl

theorem Restores.readsItem (h : c.Restores depth a) {levels : Nat} (hlevels : depth < levels) :
    ReadsItem (c.read levels) (c.toValue a) a where
  head := by
    obtain ⟨ch, more, hwrite, hspace, hend, -⟩ := h.stored.head
    exact ⟨ch, more, hwrite, hspace, hend⟩
  reads rest hrest := h.reads levels rest hlevels hrest

theorem restores_list {as : List α} (h : ∀ a ∈ as, c.Restores depth a) :
    c.list.Restores (depth + 1) as where
  stored := by
    refine .array fun v hv => ?_
    obtain ⟨a, ha, rfl⟩ := List.mem_map.mp hv
    exact (h a ha).stored
  ofValue origin := mapM_ofValue h origin
  reads levels rest hlevels hrest := by
    show Reads _ ((Value.array (as.map c.toValue)).write ++ rest) as rest
    have hinner : depth < levels - 1 := by omega
    -- Each item is read back one level further in.
    have hall : List.Forall₂ (ReadsItem (c.read (levels - 1))) (as.map c.toValue) as := by
      rw [List.forall₂_map_left_iff]
      exact List.forall₂_same.mpr fun a ha => (h a ha).readsItem hinner
    obtain ⟨body, hwrite, hread⟩ := reads_items rest hall
    rw [hwrite]
    exact Reads.peekToken_cons rfl
      (Reads.opened (Nat.ne_zero_of_lt hinner) (hread.enclosed reads_closeList))

end Codec

/-! ## Members with fixed names -/

/-- The member is left out only if its absence means the value, and it is restored otherwise. -/
structure Field.Restores (f : Field α) (depth : Nat) (a : α) : Prop where
  omitted : f.omitted a = true → f.fallback? = some a
  written : f.omitted a = false → f.codec.Restores depth a

section Field

variable {c : Codec α} {depth : Nat} {a : α}

theorem Field.restores_required (name : String) (h : c.Restores depth a) :
    (Field.required name c).Restores depth a := ⟨nofun, fun _ => h⟩

theorem Field.restores_withDefault (name : String) (absent : α) (h : c.Restores depth a) :
    (Field.withDefault name c absent).Restores depth a := ⟨nofun, fun _ => h⟩

theorem Field.restores_nullable (name : String) {a? : Option α}
    (h : ∀ a, a? = some a → c.Restores depth a ∧ c.toValue a ≠ .null) :
    (Field.nullable name c).Restores depth a? := by
  refine ⟨nofun, fun _ => ?_⟩
  cases a? with
  | none => exact Codec.restores_none c depth
  | some a => exact (h a rfl).1.some (h a rfl).2

theorem Field.restores_optional (name : String) {a? : Option α}
    (h : ∀ a, a? = some a → c.Restores depth a ∧ c.toValue a ≠ .null) :
    (Field.optional name c).Restores depth a? := by
  cases a? with
  | none => exact ⟨fun _ => rfl, nofun⟩
  | some a => exact ⟨nofun, fun _ => (h a rfl).1.some (h a rfl).2⟩

end Field

namespace Fields

/-- The written members give the value back: their names are known, their values can be stored, each
is read from its text as it is taken as a value, and all together they are complete. -/
structure Restores (fs : Fields α) (depth : Nat) (a : α) : Prop where
  known : ∀ m ∈ fs.write a, m.1 ∈ fs.names
  stored : ∀ m ∈ fs.write a, m.2.Storable depth
  reads : ∀ levels, depth < levels → ∀ m ∈ fs.write a,
    MemberMatches (fs.readMember levels) (fun d m => fs.ofMember .given m.1 m.2 d) m
  taken : ∀ origin, ∃ d,
    (fs.write a).foldlM (fun d m => fs.ofMember origin m.1 m.2 d) fs.blank = .ok d ∧
      fs.complete d = .ok a

variable {depth : Nat}

theorem restores_done (depth : Nat) : done.Restores depth () :=
  ⟨fun _ h => absurd h List.not_mem_nil, fun _ h => absurd h List.not_mem_nil,
    fun _ _ _ h => absurd h List.not_mem_nil, fun _ => ⟨(), rfl, rfl⟩⟩

theorem Restores.map {fs : Fields α} {f : α → β} {g : β → α} {b : β}
    (h : fs.Restores depth (g b)) (hfg : f (g b) = b) : (fs.map f g).Restores depth b where
  known := h.known
  stored := h.stored
  reads := h.reads
  taken origin := by
    obtain ⟨d, htaken, hcomplete⟩ := h.taken origin
    refine ⟨d, htaken, ?_⟩
    show f <$> fs.complete d = .ok b
    rw [hcomplete]
    exact congrArg Except.ok hfg

theorem Restores.ofMembers {fs : Fields α} {a : α} (h : fs.Restores depth a) (origin : Origin) :
    fs.ofMembers origin (fs.write a) = .ok a := by
  obtain ⟨d, htaken, hcomplete⟩ := h.taken origin
  rw [Fields.ofMembers, htaken]
  exact hcomplete

section Cons

variable {f : Field α} {fs : Fields β} {a : α} {b : β}

/-- What is known of the first field, and of the others. -/
def draft (f : Field α) (fs : Fields β) (a? : Option α) (d : fs.Draft) : (cons f fs).Draft := (a?, d)

theorem eq_draft (d : (cons f fs).Draft) : ∃ a? d', d = draft f fs a? d' := ⟨d.1, d.2, rfl⟩

/-- A member of the others is passed on to them. -/
theorem ofMember_of_ne {origin : Origin} {name : String} (hne : name ≠ f.name) (v : Value)
    (a? : Option α) (d : fs.Draft) :
    (cons f fs).ofMember origin name v (draft f fs a? d) =
      (fs.ofMember origin name v d).map (draft f fs a?) := by
  unfold cons
  simp only [if_neg hne, draft]
  cases fs.ofMember origin name v d <;> rfl

/-- The member of the first field is taken once. -/
theorem ofMember_self {origin : Origin} {v : Value} (d : fs.Draft)
    (h : f.codec.ofValue origin v = .ok a) :
    (cons f fs).ofMember origin f.name v (draft f fs none d) = .ok (draft f fs (some a) d) := by
  unfold cons
  simp only [draft]
  rw [if_pos trivial, h]
  rfl

theorem foldlM_of_ne {origin : Origin} {ms : List (String × Value)}
    (hne : ∀ m ∈ ms, m.1 ≠ f.name) {d d' : fs.Draft} (a? : Option α)
    (h : ms.foldlM (fun d m => fs.ofMember origin m.1 m.2 d) d = .ok d') :
    ms.foldlM (fun d m => (cons f fs).ofMember origin m.1 m.2 d) (draft f fs a? d) =
      .ok (draft f fs a? d') := by
  induction ms generalizing d with
  | nil =>
    cases h
    rfl
  | cons m ms ih =>
    rw [List.forall_mem_cons] at hne
    obtain ⟨d₁, hstep, hsteps⟩ := ok_of_foldlM_cons h
    rw [List.foldlM_cons, ofMember_of_ne hne.1, hstep]
    exact ih hne.2 hsteps

/-- A member that is read as it is taken, for the others. -/
theorem memberMatches_of_ne {levels : Nat} {m : String × Value} (hne : m.1 ≠ f.name)
    (h : MemberMatches (fs.readMember levels) (fun d m => fs.ofMember .given m.1 m.2 d) m) :
    MemberMatches ((cons f fs).readMember levels)
      (fun d m => (cons f fs).ofMember .given m.1 m.2 d) m := by
  intro d d' rest hstep hrest
  obtain ⟨a?, d, rfl⟩ := eq_draft d
  simp only [ofMember_of_ne hne] at hstep
  -- What the others take of it is what the whole takes.
  cases htaken : fs.ofMember .given m.1 m.2 d with
  | error cause =>
    rw [htaken] at hstep
    cases hstep
  | ok d₁ =>
    rw [htaken] at hstep
    cases hstep
    have hread := h d d₁ rest htaken hrest
    unfold cons
    simp only [if_neg hne, draft]
    exact hread.bind (reads_pure _ _)

/-- The same for the first field. -/
theorem memberMatches_self {levels : Nat} (hlevels : depth < levels)
    (h : f.codec.Restores depth a) :
    MemberMatches ((cons f fs).readMember levels)
      (fun d m => (cons f fs).ofMember .given m.1 m.2 d) (f.name, f.codec.toValue a) := by
  intro d d' rest hstep hrest
  obtain ⟨a?, d, rfl⟩ := eq_draft d
  cases a? with
  | some a₀ =>
    -- The field is there already, and a member of the same name is refused.
    unfold cons at hstep
    simp only [draft] at hstep
    rw [if_pos trivial] at hstep
    cases hstep
  | none =>
    simp only [ofMember_self d (h.ofValue .given)] at hstep
    cases hstep
    unfold cons
    simp only [draft]
    rw [if_pos trivial]
    exact reads_colon.bind ((h.reads levels rest hlevels hrest).bind (reads_pure _ _))

/-- The first field adds its member in front, or nothing. -/
theorem Restores.cons (hf : f.Restores depth a) (hfs : fs.Restores depth b)
    (hfresh : f.name ∉ fs.names) : (cons f fs).Restores depth (a, b) := by
  have hne : ∀ m ∈ fs.write b, m.1 ≠ f.name := fun m hm heq => hfresh (heq ▸ hfs.known m hm)
  have hself : ∀ m ∈ f.write a, f.codec.Restores depth a ∧ m = (f.name, f.codec.toValue a) := by
    intro m hm
    unfold Field.write at hm
    split at hm
    · exact absurd hm List.not_mem_nil
    · rename_i hwritten
      exact ⟨hf.written (Bool.eq_false_iff.mpr hwritten), List.mem_singleton.mp hm⟩
  constructor
  · intro m hm
    rcases List.mem_append.mp hm with hm | hm
    · obtain ⟨-, rfl⟩ := hself m hm
      exact List.mem_cons_self
    · exact List.mem_cons_of_mem _ (hfs.known m hm)
  · intro m hm
    rcases List.mem_append.mp hm with hm | hm
    · obtain ⟨hcodec, rfl⟩ := hself m hm
      exact hcodec.stored
    · exact hfs.stored m hm
  · intro levels hlevels m hm
    rcases List.mem_append.mp hm with hm | hm
    · obtain ⟨hcodec, rfl⟩ := hself m hm
      exact memberMatches_self hlevels hcodec
    · exact memberMatches_of_ne (hne m hm) (hfs.reads levels hlevels m hm)
  · intro origin
    obtain ⟨d, htaken, hcomplete⟩ := hfs.taken origin
    have hwrite : (Fields.cons f fs).write (a, b) = f.write a ++ fs.write b := rfl
    have hblank : (Fields.cons f fs).blank = draft f fs none fs.blank := rfl
    rw [hwrite, hblank, List.foldlM_append]
    cases homitted : f.omitted a with
    | true =>
      -- Nothing is written, and its absence means the value.
      refine ⟨draft f fs none d, ?_, ?_⟩
      · rw [Field.write, if_pos homitted]
        exact foldlM_of_ne hne none htaken
      · unfold Fields.cons
        simp only [draft, Field.absent, hf.omitted homitted, hcomplete]
        rfl
    | false =>
      refine ⟨draft f fs (some a) d, ?_, ?_⟩
      · rw [Field.write, if_neg (Bool.eq_false_iff.mp homitted), List.foldlM_cons,
          ofMember_self _ ((hf.written homitted).ofValue origin)]
        exact foldlM_of_ne hne (some a) htaken
      · unfold Fields.cons
        simp only [draft, hcomplete]
        rfl

theorem restores_single (hf : f.Restores depth a) : (cons f done).Restores depth (a, ()) :=
  .cons hf (restores_done depth) List.not_mem_nil

end Cons

end Fields

/-! ## Objects -/

/-- A list of members that are read as they are taken, behind its brace. -/
theorem reads_object {σ : Type} {member : String → σ → Reader σ}
    {step : σ → String × Value → Except Cause σ} {s s' : σ} {ms : List (String × Value)}
    {levels : Nat} {k : σ → Reader α} {a : α} (rest : List Char) (hlevels : levels ≠ 0)
    (hmembers : ∀ m ∈ ms, MemberMatches member step m) (hsteps : ms.foldlM step s = .ok s')
    (hk : ∀ text, Reads (k s') text a text) :
    Reads (opened levels (enclosed (members string member s >>= k) closeObject))
      ((Value.object ms).write ++ rest) a rest := by
  obtain ⟨body, hwrite, hread⟩ := reads_members rest hmembers hsteps
  rw [hwrite]
  exact Reads.opened hlevels ((hread.bind (hk _)).enclosed reads_closeObject)

/-- A look at a written object finds its brace. -/
theorem Reads.peekToken_object {k : Option Char → Reader α} {a : α} {ms : List (String × Value)}
    {rest left : List Char}
    (h : Reads (k (some '\x7b')) ((Value.object ms).write ++ rest) a left) :
    Reads (peekToken >>= k) ((Value.object ms).write ++ rest) a left := by
  obtain ⟨body, hwrite⟩ : ∃ body, (Value.object ms).write = '\x7b' :: body := by
    cases ms with
    | nil => exact ⟨_, by rw [Value.write]⟩
    | cons m ms => exact ⟨_, by rw [Value.write]; rfl⟩
  rw [hwrite] at h ⊢
  exact Reads.peekToken_cons rfl h

theorem Codec.restores_record {name : String} {fs : Fields α} {a : α} {depth : Nat}
    (h : fs.Restores depth a) : (Codec.record name fs).Restores (depth + 1) a where
  stored := .object h.stored
  ofValue origin := h.ofMembers origin
  reads levels rest hlevels hrest := by
    show Reads _ ((Value.object (fs.write a)).write ++ rest) a rest
    have hinner : depth < levels - 1 := by omega
    obtain ⟨d, htaken, hcomplete⟩ := h.taken .given
    refine Reads.peekToken_object ?_
    refine reads_object rest (Nat.ne_zero_of_lt hinner) (h.reads _ hinner) htaken fun text => ?_
    rw [hcomplete]
    exact reads_pure a text

/-! ## Shapes -/

namespace Variants

/-- The shape of the value is known by its name, and gives the value back from its members; none of
these has the name `tag`. -/
structure Restores (vs : Variants α) (tag : String) (depth : Nat) (a : α) : Prop where
  known : (vs.write a).1 ∈ vs.names
  stored : ∀ m ∈ (vs.write a).2, m.1 ≠ tag ∧ m.2.Storable depth
  content : vs.ofContent (vs.write a).1 (.object (vs.write a).2) = .ok a

variable {tag : String} {depth : Nat}

theorem Restores.map {vs : Variants α} {f : α → β} {g : β → α} {b : β}
    (h : vs.Restores tag depth (g b)) (hfg : f (g b) = b) : (vs.map f g).Restores tag depth b where
  known := h.known
  stored := h.stored
  content := by
    show f <$> vs.ofContent (vs.write (g b)).1 (.object (vs.write (g b)).2) = .ok b
    rw [h.content]
    exact congrArg Except.ok hfg

section Shapes

variable {name : String} {rest : Variants β} {b : β}

theorem restores_bare : (bare name rest).Restores tag depth (.inl ()) where
  known := List.mem_cons_self
  stored _ h := absurd h List.not_mem_nil
  content := if_pos rfl

/-- The content of another shape is passed on to the shapes behind the first. -/
theorem Restores.content_behind (h : rest.Restores tag depth b) (hfresh : name ∉ rest.names)
    (first : Except Cause (γ ⊕ β)) :
    (if (rest.write b).1 = name then first else
      Sum.inr <$> rest.ofContent (rest.write b).1 (.object (rest.write b).2)) = .ok (.inr b) := by
  have hne : (rest.write b).1 ≠ name := fun heq => hfresh (heq ▸ h.known)
  rw [if_neg hne, h.content]
  rfl

theorem Restores.behind_bare (h : rest.Restores tag depth b) (hfresh : name ∉ rest.names) :
    (bare name rest).Restores tag depth (.inr b) where
  known := List.mem_cons_of_mem _ h.known
  stored := h.stored
  content := h.content_behind hfresh _

variable {owner label : String} {fs : Fields α} {a : α}

theorem restores_fields (h : fs.Restores depth a) (htag : tag ∉ fs.names) :
    (fields name owner label fs rest).Restores tag depth (.inl a) where
  known := List.mem_cons_self
  stored m hm := ⟨fun heq => htag (heq ▸ h.known m hm), h.stored m hm⟩
  content := by
    show (if name = name then Sum.inl <$> fs.ofMembers .aside (fs.write a) else _) = _
    rw [if_pos rfl, h.ofMembers]
    rfl

theorem Restores.behind_fields (h : rest.Restores tag depth b) (hfresh : name ∉ rest.names) :
    (fields name owner label fs rest).Restores tag depth (.inr b) where
  known := List.mem_cons_of_mem _ h.known
  stored := h.stored
  content := h.content_behind hfresh _

end Shapes

theorem named_of_mem {vs : Variants α} {shape : String} (h : shape ∈ vs.names) :
    vs.named (.string shape) = .ok shape := by
  have hfind : vs.names.find? (· == shape) = some shape := by
    cases hf : vs.names.find? (· == shape) with
    | none => exact absurd (beq_self_eq_true shape) (List.find?_eq_none.mp hf shape h)
    | some n =>
      have heq := List.find?_some hf
      rw [beq_iff_eq.mp heq]
  have hknown : (vs.names.map fun n => (n, n)).find? (·.1 == shape) = some (shape, shape) := by
    rw [List.find?_map]
    exact congrArg (Option.map _) hfind
  show Codec.variant (vs.names.map fun n => (n, n)) shape = .ok shape
  rw [Codec.variant, hknown]

end Variants

namespace Codec

variable {tag : String} {vs : Variants α} {depth : Nat}

/-- Members beside the tag are set aside as they are. -/
theorem foldlM_ofTagged {ms : List (String × Value)} (hne : ∀ m ∈ ms, m.1 ≠ tag) (t : Tagged) :
    ms.foldlM (ofTagged tag vs) t = .ok (t.1, ms.reverse ++ t.2) := by
  induction ms generalizing t with
  | nil => rfl
  | cons m ms ih =>
    rw [List.forall_mem_cons] at hne
    have hstep : ofTagged tag vs t m = .ok (t.1, m :: t.2) := by
      rw [ofTagged, if_neg hne.1]
      rfl
    rw [List.foldlM_cons, hstep, List.reverse_cons, List.append_assoc]
    exact ih hne.2 (t.1, m :: t.2)

/-- The tag is written first, and tells the shape. -/
theorem foldlM_ofTagged_written {shape : String} {ms : List (String × Value)}
    (hshape : shape ∈ vs.names) (hne : ∀ m ∈ ms, m.1 ≠ tag) :
    ((tag, Value.string shape) :: ms).foldlM (ofTagged tag vs) (none, []) =
      .ok (some shape, ms.reverse) := by
  have hstep : ofTagged tag vs (none, []) (tag, .string shape) = .ok (some shape, []) := by
    rw [ofTagged, if_pos rfl, Variants.named_of_mem hshape]
    rfl
  rw [List.foldlM_cons, hstep]
  show ms.foldlM (ofTagged tag vs) (some shape, []) = _
  rw [foldlM_ofTagged hne, List.append_nil]

theorem memberMatches_tag {levels : Nat} (shape : String) :
    MemberMatches (readTagged tag vs levels) (ofTagged tag vs) (tag, .string shape) := by
  intro t t' rest hstep hrest
  obtain ⟨shape?, content⟩ := t
  rw [ofTagged, if_pos rfl] at hstep
  rw [readTagged, if_pos rfl]
  cases shape? with
  -- A second tag is refused.
  | some first => cases hstep
  | none =>
    cases hnamed : vs.named (.string shape) with
    | error cause =>
      rw [hnamed] at hstep
      cases hstep
    | ok known =>
      rw [hnamed] at hstep
      cases hstep
      exact reads_colon.bind ((reads_leaf (.string shape) hrest hnamed).bind (reads_pure _ _))

theorem memberMatches_beside {levels : Nat} {m : String × Value} (hne : m.1 ≠ tag)
    (h : m.2.Storable depth) (hlevels : depth < levels) :
    MemberMatches (readTagged tag vs levels) (ofTagged tag vs) m := by
  intro t t' rest hstep hrest
  rw [ofTagged, if_neg hne] at hstep
  cases hstep
  rw [readTagged, if_neg hne]
  exact reads_colon.bind ((reads_value h hlevels hrest).bind (reads_pure _ _))

theorem restores_tagged {name : String} {a : α} (h : vs.Restores tag depth a) :
    (Codec.tagged name tag vs).Restores (depth + 1) a := by
  have hwritten := foldlM_ofTagged_written h.known fun m hm => (h.stored m hm).1
  constructor
  · refine .object fun m hm => ?_
    rcases List.mem_cons.mp hm with rfl | hm
    · exact .plain (.string _) depth
    · exact (h.stored m hm).2
  · intro origin
    have hcontent := h.content
    rw [← List.reverse_reverse (vs.write a).2] at hcontent
    unfold tagged
    simp only
    rw [hwritten]
    exact hcontent
  · intro levels rest hlevels hrest
    have hinner : depth < levels - 1 := by omega
    have hmatches : ∀ m ∈ (tag, Value.string (vs.write a).1) :: (vs.write a).2,
        MemberMatches (readTagged tag vs (levels - 1)) (ofTagged tag vs) m := by
      intro m hm
      rcases List.mem_cons.mp hm with rfl | hm
      · exact memberMatches_tag _
      · exact memberMatches_beside (h.stored m hm).1 (h.stored m hm).2 hinner
    refine Reads.peekToken_object ?_
    -- The shape and its content are known before the content is looked into.
    refine Reads.bind (a := ((vs.write a).1, .object (vs.write a).2.reverse.reverse))
      (reads_object rest (Nat.ne_zero_of_lt hinner) hmatches hwritten fun text => ?_) ?_
    · exact reads_pure _ text
    · rw [List.reverse_reverse]
      simp only [h.content]
      exact reads_pure a rest

end Codec

end HistoryAudit.Json
