/-
  HistoryAudit.Json.Uuid

  The written forms of a UUID: 32 digits, or five groups joined by hyphens, the
  latter also in braces or behind `urn:uuid:`. Its canonical text has the groups
  and lower-case digits.
-/
import HistoryAudit.Json.Codec

namespace HistoryAudit.Json.Uuid

def lower (c : Char) : Char := c.toLower

def groupSizes : List Nat := [8, 4, 4, 4, 12]

def grouped (ds : List Char) : List Char :=
  ds.take 8 ++ '-' :: (ds.drop 8).take 4 ++ '-' :: (ds.drop 12).take 4 ++
    '-' :: (ds.drop 16).take 4 ++ '-' :: ds.drop 20

def isGrouped (cs : List Char) : Bool :=
  (cs.length == 36) &&
    cs.zipIdx.all fun (c, i) =>
      if i == 8 || i == 13 || i == 18 || i == 23 then c == '-' else Text.isHexDigit c

/-- The part inside braces or behind the name of the scheme, the bytes before it, and whether there
was neither. -/
def core (cs : List Char) : List Char × Nat × Bool :=
  if cs.length ≥ 2 ∧ cs.head? = some '\x7b' ∧ cs.getLast? = some '\x7d' then
    (cs.tail.dropLast, 1, false)
  else if cs.take 9 = "urn:uuid:".toList then (cs.drop 9, 9, false)
  else (cs, 0, true)

def offsets : (offset : Nat) → List Char → List (Char × Nat)
  | _, [] => []
  | n, c :: cs => (c, n) :: offsets (n + c.utf8Size) cs

/-- The first group, from the one numbered `group` on, whose hyphen is not where it belongs. -/
def wrongGroup? : (group start : Nat) → (hyphens sizes : List Nat) → Option UuidFault
  | group, start, h :: hs, size :: sizes =>
    if h ≠ start + size then some (.groupLength group size (h - start))
    else wrongGroup? (group + 1) (start + size + 1) hs sizes
  | _, _, _, _ => none

def diagnose (cs : List Char) : UuidFault :=
  let (inner, before, plain) := core cs
  let places := offsets 0 inner
  match places.find? fun (c, _) => !(Text.isHexDigit c || c == '-') with
  | some (c, n) => .character c (n + before + 1)
  | none =>
    let total := (offsets 0 (cs ++ ['-'])).getLast?.elim 0 (·.2)
    let hyphens := (places.filter (·.1 == '-')).map (·.2)
    if hyphens.isEmpty ∧ plain then .simpleLength total
    else if hyphens.length ≠ 4 then .groupCount (hyphens.length + 1)
    else (wrongGroup? 0 0 hyphens groupSizes).getD (.groupLength 4 12 (total - 24))

/-- The canonical text of a written form. -/
def parse (s : String) : Except UuidFault String :=
  let cs := s.toList
  let (inner, _, plain) := core cs
  if isGrouped inner then .ok (String.ofList (inner.map lower))
  else if plain ∧ cs.length = 32 ∧ cs.all Text.isHexDigit then
    .ok (String.ofList (grouped (cs.map lower)))
  else .error (diagnose cs)

/-- The canonical text of a random UUID that is made of sixteen random bytes: six bits tell that it
is random. -/
def ofRandom (bytes : List UInt8) : String :=
  let bytes := bytes.mapIdx fun i b =>
    if i = 6 then (b &&& 0x0f) ||| 0x40 else if i = 8 then (b &&& 0x3f) ||| 0x80 else b
  String.ofList (grouped (bytes.flatMap Text.hexByte))

def codec : Codec String :=
  Codec.leaf "a formatted UUID string"
    (fun
      | .string s =>
        match parse s with
        | .ok id => .ok id
        | .error fault => .error (.uuid fault)
      | v => Codec.wrongType "a formatted UUID string" v)
    .string

end HistoryAudit.Json.Uuid
