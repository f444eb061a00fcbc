import Wms.Barcode.Digits
import Wms.Foundation.Calendar
import Wms.Foundation.Dict
import Wms.Foundation.Scan

/-!
# The barcode resolver

A scanned text is read as a SKU with its prefix, as a GS1 code with or without brackets, as the
digits of a GTIN, or as keys with values. The patterns of the source are matchers on characters;
what belongs to a word besides the low line is a table of Unicode, and the lookup of a SKU is given
to the resolver.
-/

namespace Wms.Barcode

open Foundation

/-- The kind of a barcode. -/
inductive Kind
  | sku
  | gs1
  | ean8
  | upc12
  | ean13
  | kv
  | unknown
  deriving DecidableEq

/-- `ParsedBarcode`. -/
structure ParsedBarcode where
  sku : Option String
  gtin : Option String
  batch : Option String
  expiry : Option Date
  raw : String
  kind : Kind
  deriving DecidableEq

/-- Python's `or` of two texts that may be missing. -/
def orText (a b : Option String) : Option String := if a = none ∨ a = some "" then b else a

/-- `s[i:j]`. -/
def slice (s : String) (i j : ℕ) : String := String.ofList ((s.toList.take j).drop i)

/-! ## Patterns -/

/-- The character matches a capital letter of a pattern that ignores case: the letter in either
case, or one of the four other characters whose case leads to an ASCII letter. -/
def sameLetter (p c : Char) : Bool :=
  c = p || c = p.toLower || (p = 'S' && c.toNat = 0x17f) || (p = 'K' && c.toNat = 0x212a) ||
    (p = 'I' && (c.toNat = 0x130 || c.toNat = 0x131))

/-- `[A-Za-z0-9\-_\.]`, ignoring case. -/
def valChar (c : Char) : Bool :=
  c.isAlphanum || c = '-' || c = '_' || c = '.' || c.toNat ∈ [0x130, 0x131, 0x17f, 0x212a]

/-- A word of a pattern at the start of a text: the characters that match it, and the rest. -/
def matchWord : List Char → List Char → Option (List Char × List Char)
  | [], cs => some ([], cs)
  | _ :: _, [] => none
  | p :: ps, c :: cs =>
    if sameLetter p c then (matchWord ps cs).map fun found => (c :: found.1, found.2) else none

/-- `\s*[:=]\s*` with some separators and a value behind it: the value, and the rest. -/
def matchValue (separators : List Char) (cs : List Char) : Option (List Char × List Char) :=
  match cs.dropWhile isSpace with
  | [] => none
  | c :: rest =>
    let rest := rest.dropWhile isSpace
    if c ∈ separators ∧ rest.takeWhile valChar ≠ [] then
      some (rest.takeWhile valChar, rest.dropWhile valChar)
    else none

/-- `_re_sku_prefix`: the SKU. -/
def skuPrefix (cs : List Char) : Option String :=
  ["SKU".toList, "ITEM".toList].findSome? fun word =>
    match matchWord word (cs.dropWhile isSpace) with
    | none => none
    | some (_, rest) =>
      match matchValue [':'] rest with
      | none => none
      | some (sku, rest) => if rest.all isSpace then some (String.ofList sku) else none

/-- `_re_gs1_ai`: two digits in brackets and what stands before the next bracket. -/
def aiPair : Scan.Matcher Char (String × String)
  | _, c₁ :: d :: d' :: c₂ :: cs =>
    let val := cs.takeWhile (· ≠ '(')
    if c₁ = '(' ∧ isDecimal d ∧ isDecimal d' ∧ c₂ = ')' ∧ val ≠ [] then
      some ((String.ofList [d, d'], String.ofList val), 4 + val.length)
    else none
  | _, _ => none

section Words

variable (isAlnum : Char → Bool)

/-- `\w`. -/
def wordChar (c : Char) : Bool := isAlnum c || c = '_'

/-- `\b` between two characters, of which one may be missing. -/
def boundary (before after : Option Char) : Bool :=
  before.any (wordChar isAlnum) != after.any (wordChar isAlnum)

/-- The keys of `_re_kv`. -/
def kvKeys : List String := ["SKU", "ITEM", "BATCH", "LOT", "EXP", "EXPIRE", "EXPIRY"]

/-- `_re_kv`: a key and its value. -/
def kvPair : Scan.Matcher Char (String × String) := fun before cs =>
  kvKeys.findSome? fun word =>
    match matchWord word.toList cs with
    | none => none
    | some (key, rest) =>
      if boundary isAlnum before cs.head? ∧ boundary isAlnum key.getLast? rest.head? then
        match matchValue [':', '='] rest with
        | none => none
        | some (val, rest) =>
          some ((String.ofList key, String.ofList val), cs.length - rest.length)
      else none

end Words

/-! ## Check digits and dates -/

/-- The sum of digits with two weights in turn. -/
def weightedSum (w w' : ℕ) : List ℕ → ℕ
  | [] => 0
  | n :: ns => w * n + weightedSum w' w ns

/-- The check of a code with a number of digits: the digits before the last one have two weights in
turn. -/
def validCheckDigit (length w w' : ℕ) (gtin : String) : Except Err Bool :=
  if isDigits gtin ∧ gtin.length = length then do
    let digits ← pyDigits gtin
    let s := weightedSum w w' digits.dropLast
    return (10 - s % 10) % 10 = digits.getLastD 0
  else .ok false

/-- `_valid_ean13`. -/
def validEan13 : String → Except Err Bool := validCheckDigit 13 1 3

/-- `_valid_upc12`. -/
def validUpc12 : String → Except Err Bool := validCheckDigit 12 3 1

/-- `_valid_ean8`. -/
def validEan8 : String → Except Err Bool := validCheckDigit 8 3 1

/-- `date(int(year), int(month), int(day))` where a `ValueError` of any of them is caught. -/
def dateOf (century : ℕ) (year month day : String) : Option Date :=
  match pyInt year, pyInt month, pyInt day with
  | .ok y, .ok m, .ok d => Date.ofNumbers (century + y : ℕ) m d
  | _, _, _ => none

/-- `_parse_expiry`. -/
def parseExpiry (raw : Option String) : Option Date :=
  match raw with
  | none => none
  | some raw =>
    let s := strip raw
    if raw = "" then none
    else if s.length = 8 ∧ isDigits s then dateOf 0 (slice s 0 4) (slice s 4 6) (slice s 6 8)
    else if s.length = 6 ∧ isDigits s then dateOf 2000 (slice s 0 2) (slice s 2 4) (slice s 4 6)
    else none

/-! ## Helpers -/

/-- The check of the text of field `(01)`: a text whose check digit is wrong is dropped. -/
def checkedGtin (gtin : String) : Except Err (Option String) :=
  if gtin.length ∈ [8, 12, 13, 14] then do
    let core := if gtin.length = 14 then slice gtin 1 14 else gtin
    if core.length = 13 then return if ← validEan13 core then some gtin else none
    else if core.length = 12 then return if ← validUpc12 core then some gtin else none
    else if core.length = 8 then return if ← validEan8 core then some gtin else none
    else return some gtin
  else .ok (some gtin)

/-- The pairs that `_re_gs1_ai` finds. -/
def aiPairs (s : String) : List (String × String) := Scan.findAll aiPair none 0 s.toList

/-- The values of the fields in brackets. -/
def aiFields (s : String) : List (String × String) :=
  Dict.assign ((aiPairs s).map fun p => (p.1, strip p.2))

/-- `_parse_gs1`. -/
def parseGs1 (s : String) : Except Err (Option ParsedBarcode) :=
  if aiPairs s = [] then .ok none
  else
    let batch := (aiFields s).lookup "10"
    let expiry := parseExpiry ((aiFields s).lookup "17")
    match (aiFields s).lookup "01" with
    | none => .ok (some ⟨none, none, batch, expiry, s, .gs1⟩)
    | some gtin =>
      match checkedGtin gtin with
      | .error e => .error e
      | .ok gtin => .ok (some ⟨none, gtin, batch, expiry, s, .gs1⟩)

/-- The loop of `_parse_compact_gs1` over the rest of the text. Every turn takes two characters at
least. -/
def compactFields : ℕ → List Char → Option String → Option Date →
    Option (Option String × Option String × Option Date)
  | fuel + 1, c :: c' :: rest, gtin, expiry =>
    if [c, c'] = ['0', '1'] then
      if rest.length < 14 then none
      else compactFields fuel (rest.drop 14) (some (String.ofList (rest.take 14))) expiry
    else if [c, c'] = ['1', '7'] then
      if rest.length < 6 then none
      else compactFields fuel (rest.drop 6) gtin (parseExpiry (some (String.ofList (rest.take 6))))
    else if [c, c'] = ['1', '0'] then
      some (gtin, if rest = [] then none else some (String.ofList rest), expiry)
    else none
  | _, _, gtin, expiry => some (gtin, none, expiry)

/-- `_parse_compact_gs1`. -/
def parseCompactGs1 (s : String) : Option ParsedBarcode :=
  match compactFields s.length s.toList none none with
  | none => none
  | some (gtin, batch, expiry) =>
    if gtin = none ∧ batch = none ∧ expiry = none then none
    else some ⟨none, gtin, batch, expiry, s, .gs1⟩

variable (isAlnum : Char → Bool) (gtinToSku : Option (String → Option String))

/-- `_parse_kv`. -/
def parseKv (s : String) : Option ParsedBarcode :=
  let text := s.toList.filter fun c => c ≠ '/' ∧ c.toNat ≠ 0x5c
  let found := Dict.assign
    ((Scan.findAll (kvPair isAlnum) none 0 text).map fun p => (upper p.1, strip p.2))
  if found = [] then none
  else
    let expRaw := orText (orText (found.lookup "EXP") (found.lookup "EXPIRE"))
      (found.lookup "EXPIRY")
    some ⟨orText (found.lookup "SKU") (found.lookup "ITEM"),
      none, orText (found.lookup "BATCH") (found.lookup "LOT"), parseExpiry expRaw, s, .kv⟩

/-! ## `parse` -/

/-- `self._gtin_to_sku(gtin) if (self._gtin_to_sku and gtin) else None`. -/
def skuOfGtin (gtin : Option String) : Option String :=
  match gtinToSku, gtin with
  | some f, some g => if g = "" then none else f g
  | _, _ => none

/-- The result for a GS1 code. -/
def withSku (code : String) (gs1 : ParsedBarcode) : ParsedBarcode :=
  ⟨orText gs1.sku (skuOfGtin gtinToSku gs1.gtin), gs1.gtin, gs1.batch, gs1.expiry, code, .gs1⟩

/-- The kind of a text that is a GTIN. -/
def plainKind (s : String) : Except Err (Option Kind) :=
  if isDigits s then
    if s.length = 8 then return if ← validEan8 s then some .ean8 else none
    else if s.length = 12 then return if ← validUpc12 s then some .upc12 else none
    else if s.length = 13 then return if ← validEan13 s then some .ean13 else none
    else .ok none
  else .ok none

/-- The branches of `parse` for plain digits, and for keys and values. -/
def parsePlain (code s : String) : Except Err ParsedBarcode :=
  match plainKind s with
  | .error e => .error e
  | .ok (some kind) => .ok ⟨skuOfGtin gtinToSku (some s), some s, none, none, code, kind⟩
  | .ok none =>
    let kv := if s.toList.any (· ∈ ['|', ';', ',', Char.ofNat 10, ' ']) then parseKv isAlnum s
      else none
    .ok (kv.getD ⟨none, none, none, none, code, .unknown⟩)

/-- The branch of `parse` for the form without brackets, and those behind it. -/
def parseUnbracketed (code s : String) : Except Err ParsedBarcode :=
  let compact :=
    if slice s 0 2 = "01" ∧ 16 ≤ s.length ∧ isDigits (slice s 2 16) then parseCompactGs1 s else none
  match compact with
  | some gs1 => .ok (withSku gtinToSku code gs1)
  | none => parsePlain isAlnum gtinToSku code s

/-- `parse`. -/
def parse (code : String) : Except Err ParsedBarcode :=
  let s := strip code
  if s.length < 2 then .ok ⟨none, none, none, none, code, .unknown⟩
  else
    match skuPrefix s.toList with
    | some sku => .ok ⟨some (strip sku), none, none, none, code, .sku⟩
    | none =>
      match if '(' ∈ s.toList ∧ ')' ∈ s.toList then parseGs1 s else .ok none with
      | .error e => .error e
      | .ok (some gs1) => .ok (withSku gtinToSku code gs1)
      | .ok none => parseUnbracketed isAlnum gtinToSku code s

end Wms.Barcode
