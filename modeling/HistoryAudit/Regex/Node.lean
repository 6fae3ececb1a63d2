/-
  HistoryAudit.Regex.Node

  What a pattern means: flags are gone, classes are sets, and characters are
  bytes unless a set of characters is meant.
-/
import HistoryAudit.Regex.Syntax
import HistoryAudit.Text.Unicode.Category
import HistoryAudit.Text.Unicode.Folding
import HistoryAudit.Text.Unicode.Property
import HistoryAudit.Text.Unicode.Script
import HistoryAudit.Text.Utf8

namespace HistoryAudit.Regex

/-- What one step of a match takes: a character, encoded in UTF-8, or a byte. -/
inductive Alphabet where
  | characters
  | bytes
  deriving DecidableEq, Inhabited

/-- Where a match may go on without a step. The alphabet tells which characters make words. -/
inductive Look where
  | startText
  | endText
  | startLine (crlf : Bool)
  | endLine (crlf : Bool)
  | boundary (alphabet : Alphabet)
  | notBoundary (alphabet : Alphabet)
  | wordStart (alphabet : Alphabet)
  | wordEnd (alphabet : Alphabet)
  | wordStartHalf (alphabet : Alphabet)
  | wordEndHalf (alphabet : Alphabet)
  deriving DecidableEq, Inhabited

/-- A pattern without flags and places. -/
inductive Node where
  | empty
  | literal (bytes : List UInt8)
  | set (alphabet : Alphabet) (codes : Text.CodeSet)
  | look (kind : Look)
  | repeats (least : Nat) (most? : Option Nat) (greedy : Bool) (node : Node)
  | capture (node : Node)
  | cat (nodes : List Node)
  | alt (nodes : List Node)
  deriving Inhabited

open Text (CodeSet)
open Text.Unicode

/-- The characters of words: letters, marks, decimal digits, connectors and joiners. -/
def wordCharacters : CodeSet :=
  let sets := [property? "alpha", category? "m", category? "nd", category? "pc", property? "joinc"]
  CodeSet.ofRanges (sets.flatMap fun s => s.getD [])

def wordBytes : CodeSet := CodeSet.ofHex "30-39 41-5a 5f 61-7a"

namespace PerlClass

def characters : PerlClass → CodeSet
  | .digit => (category? "nd").getD []
  | .space => (property? "wspace").getD []
  | .word => wordCharacters

def bytes : PerlClass → CodeSet
  | .digit => CodeSet.ofHex "30-39"
  | .space => CodeSet.ofHex "9-d 20"
  | .word => wordBytes

end PerlClass

/-- The members of a class between `[:` and `:]`. -/
def AsciiClass.codes (k : AsciiClass) : CodeSet :=
  CodeSet.ofHex <|
    match k with
    | .alnum => "30-39 41-5a 61-7a"
    | .alpha => "41-5a 61-7a"
    | .ascii => "0-7f"
    | .blank => "9 20"
    | .cntrl => "0-1f 7f"
    | .digit => "30-39"
    | .graph => "21-7e"
    | .lower => "61-7a"
    | .print => "20-7e"
    | .punct => "21-2f 3a-40 5b-60 7b-7e"
    | .space => "9-d 20"
    | .upper => "41-5a"
    | .word => "30-39 41-5a 5f 61-7a"
    | .xdigit => "30-39 41-46 61-66"

def valuedCodes (name value : String) : Except Cause CodeSet :=
  let found (set? : Option CodeSet) : Except Cause CodeSet :=
    match set? with
    | some s => .ok s
    | none => .error .propertyValueNotFound
  match plainName name with
  | "gc" | "generalcategory" => found (category? (plainName value))
  | "sc" | "script" => found (script? (plainName value))
  | "scx" | "scriptextensions" => found (scriptExtension? (plainName value))
  | other =>
    let truth := ["y", "yes", "t", "true", "n", "no", "f", "false"]
    if (property? other).isSome && !truth.contains (plainName value) then
      .error .propertyValueNotFound
    else .error .propertyNotFound

/-- The characters that one name names: a property, a category or a script. Three short names are
categories before they are properties. -/
def namedCodes (name : String) : Except Cause CodeSet :=
  let plain := plainName name
  let property := if ["cf", "sc", "lc"].contains plain then none else property? plain
  if plain == "cs" || plain == "surrogate" then .error .propertyValueNotFound
  else
    match (property.or (category? plain)).or (script? plain) with
    | some s => .ok s
    | none => .error .propertyNotFound

def UnicodeName.codes : UnicodeName → Except Cause CodeSet
  | .oneLetter c => namedCodes (String.singleton c)
  | .named name => namedCodes name
  | .valued name value => valuedCodes name value

/-- The bytes that differ from one of the set by case, with the set. -/
def closeUnderAsciiCase (s : CodeSet) : CodeSet :=
  let shift (lo hi base : Nat) : CodeSet :=
    (CodeSet.inter s [⟨lo, hi⟩]).map fun r => ⟨r.lo + base - lo, r.hi + base - lo⟩
  CodeSet.ofRanges (s ++ shift 0x41 0x5a 0x61 ++ shift 0x61 0x7a 0x41)

end HistoryAudit.Regex
