import Wms.Barcode.Resolver
import Wms.Foundation.IsoDate
import Wms.Numerals

/-!
# Reading a scan request

A scan request gives a barcode and, beside it, fields of its own. Its barcode is first searched
for tokens, which are keys with values behind a colon. What the tokens leave open comes from the
fields of the request, then from the projection of item barcodes, and then from the barcode
resolver. The lookups of the projection and the table of Unicode letters are parameters.
-/

namespace Wms.Scan

open Foundation Barcode

/-! ## Tokens -/

/-- The values that a token can stand for. -/
inductive TokenField
  | itemId
  | qty
  | lotCode
  | productionDate
  | expiryDate
  | taskLineId
  | warehouseId
  deriving DecidableEq

/-- `_TOKEN_MAP`. -/
def tokenMap : List (String × TokenField) :=
  [("ITM", .itemId), ("ITEM", .itemId), ("ITEM_ID", .itemId), ("QTY", .qty), ("B", .lotCode),
    ("BATCH", .lotCode), ("BATCH_CODE", .lotCode), ("PD", .productionDate),
    ("MFG", .productionDate), ("EXP", .expiryDate), ("EXPIRY", .expiryDate),
    ("TLID", .taskLineId), ("TASK_LINE_ID", .taskLineId), ("WH", .warehouseId),
    ("WAREHOUSE", .warehouseId), ("WAREHOUSE_ID", .warehouseId)]

/-- `[A-Za-z_]`. -/
def keyChar (c : Char) : Bool := c.isAlpha || c = '_'

/-- `_TOKEN_RE`: a key, a colon and a value that goes on to the next white space. -/
def tokenPair : Scan.Matcher Char (String × String) := fun _ cs =>
  let key := cs.takeWhile keyChar
  match (cs.dropWhile keyChar).dropWhile isSpace with
  | ':' :: rest =>
    let rest := rest.dropWhile isSpace
    let val := rest.takeWhile fun c => !isSpace c
    if key ≠ [] ∧ val ≠ [] then
      some ((String.ofList key, String.ofList val), cs.length - (rest.length - val.length))
    else none
  | _ => none

/-- The keys and values that `_TOKEN_RE` finds. -/
def tokens (s : String) : List (String × String) := Scan.findAll tokenPair none 0 s.toList

/-- A value for a date: a text, or a date that was read already. -/
inductive DateValue
  | text (s : String)
  | date (d : Date)
  deriving DecidableEq

/-- What has been found out about a scan. -/
structure Parsed where
  itemId : Option ℤ
  qty : Option ℤ
  taskLineId : Option ℤ
  lotCode : Option String
  warehouseId : Option ℤ
  productionDate : Option DateValue
  expiryDate : Option DateValue
  itemUomId : Option ℤ
  ratioToBase : Option ℤ

/-- Nothing. -/
def Parsed.empty : Parsed := ⟨none, none, none, none, none, none, none, none, none⟩

/-- Write the value of a token. A number that cannot be read is passed over. -/
def Parsed.put (p : Parsed) (token : String × String) : Parsed :=
  match tokenMap.lookup (upper token.1) with
  | none => p
  | some .itemId => { p with itemId := (intText token.2).or p.itemId }
  | some .qty => { p with qty := (intText token.2).or p.qty }
  | some .taskLineId => { p with taskLineId := (intText token.2).or p.taskLineId }
  | some .warehouseId => { p with warehouseId := (intText token.2).or p.warehouseId }
  | some .productionDate => { p with productionDate := some (.text token.2) }
  | some .expiryDate => { p with expiryDate := some (.text token.2) }
  | some .lotCode => { p with lotCode := some token.2 }

/-- `parse_tokens`. -/
def parseTokens (s : String) : Parsed := (tokens s).foldl Parsed.put .empty

/-! ## The projection of items -/

/-- `ScanBarcodeResolved`, as far as a scan uses it. -/
structure ScanBarcodeResolved where
  itemId : ℤ
  itemUomId : Option ℤ
  ratioToBase : Option ℤ

/-- The lookups of the projection. -/
structure Projection where
  barcode : String → Except Err (Option ScanBarcodeResolved)
  skuCodeItemId : String → Except Err (Option ℤ)

section Lookups

variable (projection : Projection)

/-- `probe_item_from_barcode`. -/
def probeItemFromBarcode (barcode : String) : Option ScanBarcodeResolved :=
  let code := strip barcode
  if code = "" then none
  else
    match projection.barcode code with
    | .ok resolved => resolved
    | .error _ => none

/-- `resolve_item_id_from_sku`. -/
def resolveItemIdFromSku (sku : String) : Option ℤ :=
  let s := upper (strip sku)
  if s = "" then none
  else
    match projection.skuCodeItemId s with
    | .ok itemId => itemId
    | .error _ => none

/-- Python's `or` of numbers that may be missing. -/
def orNumber (a b : Option ℤ) : Option ℤ := if a = none ∨ a = some 0 then b else a

/-- `_apply_barcode_probe`. -/
def applyBarcodeProbe (p : Parsed) (resolved : ScanBarcodeResolved) : Parsed :=
  { p with
    itemId := orNumber p.itemId (some resolved.itemId)
    itemUomId := if resolved.itemUomId = none then p.itemUomId
      else orNumber p.itemUomId resolved.itemUomId
    ratioToBase := if resolved.ratioToBase = none then p.ratioToBase
      else orNumber p.ratioToBase resolved.ratioToBase }

/-- Look a barcode up, when there is no item yet. -/
def probeBarcode (barcode : String) (p : Parsed) : Parsed :=
  if barcode ≠ "" ∧ p.itemId = none then
    match probeItemFromBarcode projection barcode with
    | none => p
    | some resolved => applyBarcodeProbe p resolved
  else p

/-- Look a SKU up, when there is no item yet. -/
def probeSku (sku : String) (p : Parsed) : Parsed :=
  if sku ≠ "" ∧ p.itemId = none then
    match resolveItemIdFromSku projection sku with
    | none => p
    | some itemId => if itemId = 0 then p else { p with itemId := some itemId }
  else p

/-- Take over what the barcode resolver read and nothing else gave. -/
def applyResolver (r : ParsedBarcode) (p : Parsed) : Parsed :=
  let p := probeSku projection (r.sku.getD "") p
  let p := probeBarcode projection (r.gtin.getD "") p
  { p with
    lotCode := orText p.lotCode (orText r.batch p.lotCode)
    expiryDate := if p.expiryDate = none ∨ p.expiryDate = some (.text "") then
        (r.expiry.map DateValue.date).or p.expiryDate
      else p.expiryDate }

end Lookups

/-! ## `parse_scan` -/

/-- `coerce_date` of a text or a date. -/
def coerceDate : DateValue → Option Date
  | .date d => some d
  | .text v =>
    let s := strip v
    if s = "" then none
    else
      (Date.fromIsoformat s).or
        (if s.length = 8 ∧ isDigits s then dateOf 0 (slice s 0 4) (slice s 4 6) (slice s 6 8)
        else none)

/-- The fields of a scan request, with the barcode that its tokens give. -/
structure ScanRequest where
  mode : Option String
  probe : Option Bool
  barcode : Option String
  tokensBarcode : Option String
  itemId : Option ℤ
  qty : Option ℤ
  taskLineId : Option ℤ
  lotCode : Option String
  warehouseId : Option ℤ
  productionDate : Option String
  expiryDate : Option String

/-- The barcode of a request. -/
def ScanRequest.raw (scan : ScanRequest) : String := (orText scan.barcode scan.tokensBarcode).getD ""

/-- A field of the request, where the tokens gave nothing or an empty text. -/
def fill {α : Type} [DecidableEq α] (empty : α) (parsed scan : Option α) : Option α :=
  if parsed = none ∨ parsed = some empty then scan.or parsed else parsed

/-- What the tokens left open is taken from the fields of the request. -/
def Parsed.fillFrom (p : Parsed) (scan : ScanRequest) : Parsed :=
  { p with
    itemId := p.itemId.or scan.itemId
    qty := p.qty.or scan.qty
    taskLineId := p.taskLineId.or scan.taskLineId
    lotCode := fill "" p.lotCode scan.lotCode
    warehouseId := p.warehouseId.or scan.warehouseId
    productionDate := fill (.text "") p.productionDate (scan.productionDate.map DateValue.text)
    expiryDate := fill (.text "") p.expiryDate (scan.expiryDate.map DateValue.text) }

/-- What `parse_scan` returns. -/
structure ScanResult where
  parsed : Parsed
  mode : String
  probe : Bool
  qty : ℤ
  itemId : ℤ
  lotCode : Option String
  warehouseId : ℤ
  productionDate : Option Date
  expiryDate : Option Date

variable (isAlnum : Char → Bool) (projection : Projection)

/-- What the barcode resolver reads, unless it fails. -/
def resolved (raw : String) : Option ParsedBarcode := (parse isAlnum none raw).toOption

/-- What is found out about a scan. -/
def gather (scan : ScanRequest) : Parsed :=
  let p := probeBarcode projection scan.raw ((parseTokens scan.raw).fillFrom scan)
  let p := match if scan.raw = "" then none else resolved isAlnum scan.raw with
    | none => p
    | some r => applyResolver projection r p
  probeSku projection scan.raw p

/-- `parse_scan`. -/
def parseScan (scan : ScanRequest) : ScanResult :=
  let p := gather isAlnum projection scan
  { parsed := p
    mode := lower ((orText scan.mode (some "pick")).getD "")
    probe := scan.probe.getD true
    qty := (orNumber p.qty (orNumber scan.qty (some 1))).getD 0
    itemId := (orNumber p.itemId (some 0)).getD 0
    lotCode := p.lotCode
    warehouseId := (orNumber p.warehouseId (orNumber scan.warehouseId (some 1))).getD 0
    productionDate := p.productionDate.bind coerceDate
    expiryDate := p.expiryDate.bind coerceDate }

end Wms.Scan
