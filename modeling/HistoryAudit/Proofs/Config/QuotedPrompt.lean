/-
  HistoryAudit.Proofs.Config.QuotedPrompt

  The commands that install a prompt, read by the shell's rules for single quotes.
  What is put between the quotes for a text is read as this text, whatever stands
  behind it (`quotedWord?_quoteChar`). So a prompt is never read as anything but
  the last quoted word of the commands, and what is outside the quotes is the same
  for every prompt (`prompt_stays_quoted`).
-/
import HistoryAudit.Config.Shell
import Mathlib.Data.List.TakeWhile

namespace HistoryAudit.Config

/-! ## Reading single quotes -/

/-- Reads between single quotes: the word up to the quote that ends it, and what stands behind this
quote. A backslash before a backslash or a quote is left out, and everything else stands for itself.
There is no word if no quote ends it. -/
def quotedWord? : List Char → Option (List Char × List Char)
  | [] => none
  | '\'' :: rest => some ([], rest)
  | '\\' :: '\\' :: rest => (quotedWord? rest).map fun (word, behind) => ('\\' :: word, behind)
  | '\\' :: '\'' :: rest => (quotedWord? rest).map fun (word, behind) => ('\'' :: word, behind)
  | c :: rest => (quotedWord? rest).map fun (word, behind) => (c :: word, behind)

/-- What stands behind a word is shorter than the whole, since a quote was read. -/
theorem length_of_quotedWord? {cs word behind : List Char}
    (h : quotedWord? cs = some (word, behind)) : behind.length < cs.length := by
  fun_induction quotedWord? cs generalizing word with
  | case1 => cases h
  | case2 rest =>
    cases h
    exact Nat.lt_succ_self _
  | case3 rest ih | case4 rest ih | case5 c rest _ _ _ ih =>
    obtain ⟨⟨word', behind'⟩, hrest, heq⟩ := Option.map_eq_some_iff.mp h
    cases heq
    have hlt := ih hrest
    simp only [List.length_cons]
    omega

/-- A text whose single quotes were read. -/
structure QuotedText where
  /-- The quoted words, each with the unquoted text before it. -/
  words : List (String × String)
  /-- The unquoted text behind the last word. -/
  behind : String
  deriving DecidableEq

/-- One more word in front. -/
def QuotedText.cons (plain word : String) (t : QuotedText) : QuotedText :=
  ⟨(plain, word) :: t.words, t.behind⟩

/-- Reads a text from word to word. It cannot be read if a word in it does not end. -/
def readQuotes? (cs : List Char) : Option QuotedText :=
  let plain := String.ofList (cs.takeWhile (· != '\''))
  match _h : cs.dropWhile (· != '\'') with
  | [] => some ⟨[], plain⟩
  | _ :: inside =>
    match _hw : quotedWord? inside with
    | none => none
    | some (word, rest) => (readQuotes? rest).map (.cons plain (String.ofList word))
termination_by cs.length
decreasing_by
  have hword := length_of_quotedWord? _hw
  have hdrop := (List.dropWhile_suffix (l := cs) (· != '\'')).length_le
  rw [_h, List.length_cons] at hdrop
  omega

section ReadQuotes

variable {plain : List Char}

theorem all_ne_quote (h : '\'' ∉ plain) : ∀ c ∈ plain, (c != '\'') = true := by
  intro c hc
  rw [bne_iff_ne]
  rintro rfl
  exact h hc

/-- A text without quotes is unquoted as a whole. -/
theorem readQuotes?_of_plain (h : '\'' ∉ plain) :
    readQuotes? plain = some ⟨[], String.ofList plain⟩ := by
  have htake : plain.takeWhile (· != '\'') = plain :=
    List.takeWhile_eq_self_iff.mpr (all_ne_quote h)
  have hdrop : plain.dropWhile (· != '\'') = [] := List.dropWhile_eq_nil_iff.mpr (all_ne_quote h)
  rw [readQuotes?, htake]
  split
  · rfl
  · rename_i hcons
    rw [hdrop] at hcons
    cases hcons

/-- Behind a text without quotes, the next word is read, and then the rest. -/
theorem readQuotes?_of_word {inside word rest : List Char} (h : '\'' ∉ plain)
    (hword : quotedWord? inside = some (word, rest)) :
    readQuotes? (plain ++ '\'' :: inside) =
      (readQuotes? rest).map (.cons (String.ofList plain) (String.ofList word)) := by
  have hall := all_ne_quote h
  have htake : (plain ++ '\'' :: inside).takeWhile (· != '\'') = plain := by
    rw [List.takeWhile_append_of_pos hall, List.takeWhile_cons_of_neg (by decide), List.append_nil]
  have hdrop : (plain ++ '\'' :: inside).dropWhile (· != '\'') = '\'' :: inside := by
    rw [List.dropWhile_append_of_pos hall, List.dropWhile_cons_of_neg (by decide)]
  -- What stands before the first quote is plain, so the word begins right behind it.
  rw [readQuotes?, htake]
  split
  · rename_i hnil
    rw [hdrop] at hnil
    cases hnil
  · rename_i c inside' hcons
    rw [hdrop] at hcons
    cases hcons
    split
    · rename_i hnone
      rw [hword] at hnone
      cases hnone
    · rename_i hsome
      rw [hword] at hsome
      cases hsome
      rfl

end ReadQuotes

/-! ## What is quoted is read back -/

/-- The word that was put between quotes is read, and its quote is the one that ends it: a backslash
before it belongs to the word, and so does a quote. -/
theorem quotedWord?_quoteChar (word behind : List Char) :
    quotedWord? (word.flatMap quoteChar ++ '\'' :: behind) = some (word, behind) := by
  -- By characters: a backslash and a quote were put as two characters, any other as one.
  induction word with
  | nil => rfl
  | cons c word ih =>
    rw [List.flatMap_cons, List.append_assoc]
    by_cases hslash : c = '\\'
    · subst hslash
      show quotedWord? ('\\' :: '\\' :: (word.flatMap quoteChar ++ '\'' :: behind)) = _
      rw [quotedWord?, ih]
      rfl
    · by_cases hquote : c = '\''
      · subst hquote
        show quotedWord? ('\\' :: '\'' :: (word.flatMap quoteChar ++ '\'' :: behind)) = _
        rw [quotedWord?, ih]
        rfl
      · have hplain : quoteChar c = [c] := by rw [quoteChar, if_neg hslash, if_neg hquote]
        rw [hplain, List.singleton_append, quotedWord?, ih]
        · rfl
        · exact hquote
        · intro rest hc
          exact absurd hc hslash
        · intro rest hc
          exact absurd hc hslash

theorem readQuotes?_singleQuoted {plain : String} (h : '\'' ∉ plain.toList) (word rest : String) :
    readQuotes? (plain ++ singleQuoted word ++ rest).toList =
      (readQuotes? rest.toList).map (.cons plain word) := by
  have hword := quotedWord?_quoteChar word.toList rest.toList
  have htext : (plain ++ singleQuoted word ++ rest).toList =
      plain.toList ++ '\'' :: (word.toList.flatMap quoteChar ++ '\'' :: rest.toList) := by
    rw [singleQuoted, String.toList_append, String.toList_append, String.toList_ofList]
    simp only [List.append_assoc, List.cons_append, List.nil_append]
  rw [htext, readQuotes?_of_word h hword, String.ofList_toList, String.ofList_toList]

/-- Puts a backslash before every `mark`. -/
def backslashed (mark : Char) (cs : List Char) : List Char :=
  cs.flatMap fun c => if c = mark then ['\\', c] else [c]

/-- The backslashes are seen to first, so that those which come before the quotes stay single. -/
theorem flatMap_quoteChar (cs : List Char) :
    cs.flatMap quoteChar = backslashed '\'' (backslashed '\\' cs) := by
  rw [backslashed, backslashed, List.flatMap_assoc]
  congr 1
  funext c
  rw [quoteChar]
  by_cases hslash : c = '\\'
  · subst hslash
    rfl
  · rw [if_neg hslash, if_neg hslash, List.flatMap_singleton]
    by_cases hquote : c = '\''
    · rw [if_pos hquote, if_pos hquote, hquote]
    · rw [if_neg hquote, if_neg hquote]

/-- In the other order the backslash that comes before a quote is doubled, and the quote ends the
word. -/
example : quotedWord? (backslashed '\\' (backslashed '\'' ['\'']) ++ ['\'']) =
    some (['\\'], ['\'']) := by decide

/-! ## The commands of the prompt -/

/-- The commands up to their first quote. They count the prompts. -/
def countingCommands : String :=
  "set -g __histprobe_prompt 0; " ++
    "function __histprobe_prompt_due --on-event fish_prompt; set -g __histprobe_due 1; end; " ++
    "function fish_prompt; if set -q __histprobe_due; set -eg __histprobe_due; " ++
    "set -g __histprobe_prompt (math $__histprobe_prompt + 1); end; printf "

/-- The commands up to the prompt, with the two quoted words that are in them. -/
def openingCommands : String :=
  countingCommands ++ singleQuoted "%s" ++
    (" (string replace -a -- " ++ singleQuoted counterMark ++ " $__histprobe_prompt ")

theorem promptCommands_eq (prompt : String) :
    promptCommands prompt = openingCommands ++ singleQuoted prompt ++ "); end" := by
  unfold promptCommands openingCommands countingCommands
  simp only [String.append_assoc]
  -- The texts that are written out are cut at other places, and are the same together.
  rfl

/-- No quote is in a text that is written out without one. -/
theorem quote_notMem_ofList {cs : List Char} (h : cs.all (· != '\'') = true) :
    '\'' ∉ (String.ofList cs).toList := by
  rw [String.toList_ofList]
  intro hmem
  have hne := List.all_eq_true.mp h '\'' hmem
  exact absurd hne (by decide)

theorem quote_notMem_countingCommands : '\'' ∉ countingCommands.toList := by
  unfold countingCommands
  simp only [String.toList_append, List.mem_append, not_or]
  refine ⟨⟨⟨?_, ?_⟩, ?_⟩, ?_⟩ <;> exact quote_notMem_ofList rfl

/-- Read by the shell's rules for single quotes, the commands of a prompt have three quoted words. The
last one is the prompt, whatever is in it, and ends with the quote that was written behind it; all
that is outside of the quotes is the same for every prompt. -/
theorem prompt_stays_quoted (prompt : String) :
    ∃ commands, (defaultShellArgs prompt)[2]? = some commands ∧
      commands.toList = openingCommands.toList ++
        '\'' :: backslashed '\'' (backslashed '\\' prompt.toList) ++ '\'' :: "); end".toList ∧
      readQuotes? commands.toList =
        some ⟨[(countingCommands, "%s"), (" (string replace -a -- ", counterMark),
          (" $__histprobe_prompt ", prompt)], "); end"⟩ := by
  have hcommands := promptCommands_eq prompt
  refine ⟨promptCommands prompt, rfl, ?_, ?_⟩
  · rw [hcommands, String.toList_append, String.toList_append, singleQuoted,
      String.toList_ofList, flatMap_quoteChar]
    simp only [List.append_assoc, List.cons_append, List.nil_append]
  · -- The three words in turn, each behind a text without quotes.
    have hwords : promptCommands prompt = countingCommands ++ singleQuoted "%s" ++
        (" (string replace -a -- " ++ singleQuoted counterMark ++
          (" $__histprobe_prompt " ++ singleQuoted prompt ++ "); end")) := by
      unfold openingCommands at hcommands
      rw [hcommands]
      simp only [String.append_assoc]
    have hmark : '\'' ∉ " (string replace -a -- ".toList := quote_notMem_ofList rfl
    have hnumber : '\'' ∉ " $__histprobe_prompt ".toList := quote_notMem_ofList rfl
    have hend : '\'' ∉ "); end".toList := quote_notMem_ofList rfl
    rw [hwords, readQuotes?_singleQuoted quote_notMem_countingCommands,
      readQuotes?_singleQuoted hmark, readQuotes?_singleQuoted hnumber, readQuotes?_of_plain hend,
      String.ofList_toList]
    rfl

end HistoryAudit.Config
