import Wms.BarcodeFormats
import Wms.Scan.ParseScan

/-!
# Scan requests and the barcode resolver

A scan reads the tokens of its barcode before the barcode resolver does. The value of a token
goes on to the next white space and its date is read by other rules, so it takes the place of
what the resolver reads. A scan agrees with the resolver exactly when the tokens do; a label
without a colon has none.
-/

namespace Wms.Scan

open Foundation Barcode

/-- The value of the last token of a text for a field. -/
def lastToken (field : TokenField) (s : String) : Option String :=
  (((tokens s).filter fun t => tokenMap.lookup (upper t.1) = some field).getLast?).map Prod.snd

/-- The scan returns the batch and the date that the resolver reads, where the request has no
such fields. -/
structure ReadsAs (r : ParsedBarcode) (scan : ScanRequest) (result : ScanResult) : Prop where
  lot : scan.lotCode = none → ∀ b ∈ r.batch, result.lotCode = some b
  expiry : scan.expiryDate = none → ∀ d ∈ r.expiry, result.expiryDate = some d

/-- The tokens of the barcode say nothing else than the resolver reads. -/
structure TokensAgree (r : ParsedBarcode) (scan : ScanRequest) : Prop where
  lot : scan.lotCode = none → ∀ b ∈ r.batch, b ≠ "" ∧ ∀ v ∈ lastToken .lotCode scan.raw, v = b
  expiry : scan.expiryDate = none →
    ∀ d ∈ r.expiry, ∀ v ∈ lastToken .expiryDate scan.raw, coerceDate (.text v) = some d

/-! ## Tokens -/

/-- A field that each token for it writes has the value of the last one. -/
theorem get_foldl_put {β : Type} {get : Parsed → Option β} (val : String → β) {field : TokenField}
    (hput : ∀ p t, get (p.put t) =
      if tokenMap.lookup (upper t.1) = some field then some (val t.2) else get p)
    (ts : List (String × String)) (p : Parsed) :
    get (ts.foldl Parsed.put p) =
      (((ts.filter fun t => tokenMap.lookup (upper t.1) = some field).getLast?).map
        fun t => val t.2).or (get p) := by
  induction ts generalizing p with
  | nil => rfl
  | cons t ts ih =>
    rw [List.foldl_cons, ih, hput, List.filter_cons]
    by_cases hfield : tokenMap.lookup (upper t.1) = some field
    · rw [if_pos hfield, if_pos (decide_eq_true hfield), List.getLast?_cons]
      cases (ts.filter fun t => tokenMap.lookup (upper t.1) = some field).getLast? <;> simp
    · rw [if_neg hfield, if_neg (by simpa using hfield)]

theorem lotCode_put (p : Parsed) (t : String × String) : (p.put t).lotCode =
    if tokenMap.lookup (upper t.1) = some .lotCode then some t.2 else p.lotCode := by
  unfold Parsed.put
  split <;> simp [*]

theorem expiryDate_put (p : Parsed) (t : String × String) : (p.put t).expiryDate =
    if tokenMap.lookup (upper t.1) = some .expiryDate then some (.text t.2)
    else p.expiryDate := by
  unfold Parsed.put
  split <;> simp [*]

theorem lotCode_parseTokens (s : String) : (parseTokens s).lotCode = lastToken .lotCode s := by
  unfold parseTokens lastToken
  rw [get_foldl_put id lotCode_put, Parsed.empty, Option.or_none]
  rfl

theorem expiryDate_parseTokens (s : String) :
    (parseTokens s).expiryDate = (lastToken .expiryDate s).map DateValue.text := by
  unfold parseTokens lastToken
  rw [get_foldl_put DateValue.text expiryDate_put, Parsed.empty, Option.or_none, Option.map_map]
  rfl

/-- The value of a token is not empty. -/
theorem ne_empty_of_lastToken {field : TokenField} {s v : String}
    (h : lastToken field s = some v) : v ≠ "" := by
  obtain ⟨t, ht, rfl⟩ := Option.map_eq_some_iff.mp h
  have hmem := List.mem_of_mem_filter (List.mem_of_getLast? ht)
  obtain ⟨before, rest, n, -, hmatch⟩ := Scan.exists_of_mem_findAll hmem
  unfold tokenPair at hmatch
  dsimp only at hmatch
  split at hmatch
  · split at hmatch
    · rename_i hne
      cases hmatch
      intro hempty
      apply hne.2
      simpa using congrArg String.toList hempty
    · cases hmatch
  · cases hmatch

/-- Every token has a colon. -/
theorem tokens_eq_nil {s : String} (h : ':' ∉ s.toList) : tokens s = [] := by
  rw [List.eq_nil_iff_forall_not_mem]
  intro t ht
  obtain ⟨before, rest, n, hsuffix, hmatch⟩ := Scan.exists_of_mem_findAll ht
  unfold tokenPair at hmatch
  dsimp only at hmatch
  split at hmatch
  · rename_i cs hcs
    apply h
    apply hsuffix.subset
    apply (List.dropWhile_suffix keyChar).subset
    apply (List.dropWhile_suffix isSpace).subset
    rw [hcs]
    exact List.mem_cons_self
  · cases hmatch

theorem lastToken_eq_none {s : String} (h : ':' ∉ s.toList) (field : TokenField) :
    lastToken field s = none := by
  rw [lastToken, tokens_eq_nil h]
  rfl

/-- A text of fewer than seven characters is no date to a scan, while the resolver reads
`YYMMDD`. -/
theorem coerceDate_eq_none {v : String} (h : v.length < 7) : coerceDate (.text v) = none := by
  have hlength : (strip v).length ≤ v.length := strip_length_le v
  unfold coerceDate
  dsimp only
  split
  · rfl
  · rw [if_neg (by omega), Option.or_none, Option.eq_none_iff_forall_ne_some]
    intro d hd
    have hseven := Date.seven_le_of_fromIsoformat hd
    omega

/-! ## Lookups leave the batch and the date alone -/

section Lookups

variable {projection : Projection} {p : Parsed} {text : String} {r : ParsedBarcode}

@[simp] theorem lotCode_probeBarcode : (probeBarcode projection text p).lotCode = p.lotCode := by
  unfold probeBarcode
  split
  · split <;> rfl
  · rfl

@[simp] theorem expiryDate_probeBarcode :
    (probeBarcode projection text p).expiryDate = p.expiryDate := by
  unfold probeBarcode
  split
  · split <;> rfl
  · rfl

@[simp] theorem lotCode_probeSku : (probeSku projection text p).lotCode = p.lotCode := by
  unfold probeSku
  split
  · split
    · rfl
    · split <;> rfl
  · rfl

@[simp] theorem expiryDate_probeSku : (probeSku projection text p).expiryDate = p.expiryDate := by
  unfold probeSku
  split
  · split
    · rfl
    · split <;> rfl
  · rfl

theorem lotCode_applyResolver : (applyResolver projection r p).lotCode =
    orText p.lotCode (orText r.batch p.lotCode) := by
  simp [applyResolver]

theorem expiryDate_applyResolver : (applyResolver projection r p).expiryDate =
    if p.expiryDate = none ∨ p.expiryDate = some (.text "") then
      (r.expiry.map DateValue.date).or p.expiryDate
    else p.expiryDate := by
  simp [applyResolver]

end Lookups

/-! ## What a scan returns -/

section ScanResult

variable {isAlnum : Char → Bool} {projection : Projection} {scan : ScanRequest}
  {r : ParsedBarcode} {b v : String} {d : Date}

/-- The resolver reads nothing from an empty text. -/
theorem raw_ne_empty (h : r ∈ resolved isAlnum scan.raw) (hr : r.batch ≠ none ∨ r.expiry ≠ none) :
    scan.raw ≠ "" := by
  intro hempty
  rw [hempty] at h
  have hnothing : resolved isAlnum "" = some ⟨none, none, none, none, "", .unknown⟩ := rfl
  rw [hnothing] at h
  cases h
  simp at hr

theorem gather_eq (h : r ∈ resolved isAlnum scan.raw) (hraw : scan.raw ≠ "") :
    gather isAlnum projection scan = probeSku projection scan.raw
      (applyResolver projection r
        (probeBarcode projection scan.raw ((parseTokens scan.raw).fillFrom scan))) := by
  have hr : resolved isAlnum scan.raw = some r := h
  simp only [gather, if_neg hraw, hr]

theorem lotCode_fillFrom (h : scan.lotCode = none) :
    ((parseTokens scan.raw).fillFrom scan).lotCode = lastToken .lotCode scan.raw := by
  simp [Parsed.fillFrom, fill, h, lotCode_parseTokens]

theorem expiryDate_fillFrom (h : scan.expiryDate = none) :
    ((parseTokens scan.raw).fillFrom scan).expiryDate =
      (lastToken .expiryDate scan.raw).map DateValue.text := by
  simp [Parsed.fillFrom, fill, h, expiryDate_parseTokens]

/-- The scan returns the batch of the resolver unless a token gives another one. -/
theorem lotCode_parseScan_iff (hr : r ∈ resolved isAlnum scan.raw) (hlot : scan.lotCode = none)
    (hb : b ∈ r.batch) : (parseScan isAlnum projection scan).lotCode = some b ↔
      b ≠ "" ∧ ∀ v ∈ lastToken .lotCode scan.raw, v = b := by
  have hbatch : r.batch = some b := hb
  have hraw := raw_ne_empty hr (.inl (by rw [hbatch]; exact Option.some_ne_none b))
  have hresult : (parseScan isAlnum projection scan).lotCode =
      orText (lastToken .lotCode scan.raw) (orText (some b) (lastToken .lotCode scan.raw)) := by
    unfold parseScan
    simp only [gather_eq hr hraw, lotCode_probeSku, lotCode_applyResolver, lotCode_probeBarcode,
      lotCode_fillFrom hlot, hbatch]
  rw [hresult]
  cases htoken : lastToken .lotCode scan.raw with
  | none => by_cases hempty : b = "" <;> simp [orText, hempty]
  | some v =>
    have hv := ne_empty_of_lastToken htoken
    rw [orText, if_neg (by simpa using hv)]
    simp only [Option.some.injEq, Option.mem_def, forall_eq']
    constructor
    · rintro rfl
      exact ⟨hv, rfl⟩
    · exact fun h => h.2

/-- The scan returns the date of the resolver unless a token gives another one, or none. -/
theorem expiryDate_parseScan_iff (hr : r ∈ resolved isAlnum scan.raw)
    (hexpiry : scan.expiryDate = none) (hd : d ∈ r.expiry) :
    (parseScan isAlnum projection scan).expiryDate = some d ↔
      ∀ v ∈ lastToken .expiryDate scan.raw, coerceDate (.text v) = some d := by
  have hdate : r.expiry = some d := hd
  have hraw := raw_ne_empty hr (.inr (by rw [hdate]; exact Option.some_ne_none d))
  have hresult : (parseScan isAlnum projection scan).expiryDate =
      (if (lastToken .expiryDate scan.raw).map DateValue.text = none ∨
          (lastToken .expiryDate scan.raw).map DateValue.text = some (.text "") then
        (some (DateValue.date d)).or ((lastToken .expiryDate scan.raw).map DateValue.text)
      else (lastToken .expiryDate scan.raw).map DateValue.text).bind coerceDate := by
    unfold parseScan
    simp only [gather_eq hr hraw, expiryDate_probeSku, expiryDate_applyResolver,
      expiryDate_probeBarcode, expiryDate_fillFrom hexpiry, hdate, Option.map_some]
  rw [hresult]
  cases htoken : lastToken .expiryDate scan.raw with
  | none => simp [coerceDate]
  | some v =>
    have hv := ne_empty_of_lastToken htoken
    simp [hv]

/-- Where the tokens agree with the resolver the scan does. -/
theorem readsAs_iff (hr : r ∈ resolved isAlnum scan.raw) :
    ReadsAs r scan (parseScan isAlnum projection scan) ↔ TokensAgree r scan := by
  constructor
  · intro h
    refine ⟨fun hlot b hb => ?_, fun hexpiry d hd => ?_⟩
    · exact (lotCode_parseScan_iff hr hlot hb).mp (h.lot hlot b hb)
    · exact (expiryDate_parseScan_iff hr hexpiry hd).mp (h.expiry hexpiry d hd)
  · intro h
    refine ⟨fun hlot b hb => ?_, fun hexpiry d hd => ?_⟩
    · exact (lotCode_parseScan_iff hr hlot hb).mpr (h.lot hlot b hb)
    · exact (expiryDate_parseScan_iff hr hexpiry hd).mpr (h.expiry hexpiry d hd)

end ScanResult

/-! ## Agreement -/

/-- A scan reads its barcode as the resolver does exactly when the tokens of the barcode say
nothing else. -/
theorem scan_agrees_iff (isAlnum : Char → Bool) (projection : Projection) (scan : ScanRequest) :
    (∀ r ∈ resolved isAlnum scan.raw, ReadsAs r scan (parseScan isAlnum projection scan)) ↔
      ∀ r ∈ resolved isAlnum scan.raw, TokensAgree r scan :=
  forall₂_congr fun _ hr => readsAs_iff hr

/-- A label without a colon, whose batch is not blank, is read as the resolver reads it. -/
theorem readsAs_of_no_colon {isAlnum : Char → Bool} {projection : Projection} {scan : ScanRequest}
    {r : ParsedBarcode} (hr : r ∈ resolved isAlnum scan.raw) (hcolon : ':' ∉ scan.raw.toList)
    (hbatch : r.batch ≠ some "") : ReadsAs r scan (parseScan isAlnum projection scan) := by
  refine (readsAs_iff hr).mpr ⟨fun _ b hb => ⟨?_, ?_⟩, fun _ d _ => ?_⟩
  · rintro rfl
    exact hbatch hb
  · simp [lastToken_eq_none hcolon]
  · simp [lastToken_eq_none hcolon]

/-- A date of six digits behind a key is never read as the resolver reads it. -/
theorem not_readsAs_of_short {isAlnum : Char → Bool} {projection : Projection}
    {scan : ScanRequest} {r : ParsedBarcode} {v : String} {d : Date}
    (hr : r ∈ resolved isAlnum scan.raw) (hexpiry : scan.expiryDate = none) (hd : d ∈ r.expiry)
    (hv : lastToken .expiryDate scan.raw = some v) (hshort : v.length < 7) :
    ¬ReadsAs r scan (parseScan isAlnum projection scan) := by
  intro h
  have hdate := ((readsAs_iff hr).mp h).expiry hexpiry d hd v hv
  rw [coerceDate_eq_none hshort] at hdate
  cases hdate

/-! ## Labels of GS1 -/

section Labels

variable {isAlnum : Char → Bool} {projection : Projection} {scan : ScanRequest} {l : Label}
  {order : List Field}

theorem colon_not_mem_value (h : ':' ∉ l.batch.text.toList) (f : Field) :
    ':' ∉ (l.value f).toList := by
  have hdigits : ∀ ds : List (Fin 10), ':' ∉ (digitText ds).toList := by
    intro ds hmem
    obtain ⟨d, hd⟩ := mem_digitText hmem
    revert hd
    revert d
    decide
  cases f with
  | gtin => exact hdigits _
  | expiry => exact hdigits _
  | batch => exact h

/-- What the resolver reads from a text without a colon is what a scan returns. -/
theorem parseScan_label {r : ParsedBarcode} (hr : parse isAlnum none scan.raw = .ok r)
    (hcolon : ':' ∉ scan.raw.toList) (hbatch : r.batch = some l.batch.text)
    (hdate : r.expiry = some l.expiry.date) (hlot : scan.lotCode = none)
    (hexpiry : scan.expiryDate = none) :
    (parseScan isAlnum projection scan).lotCode = some l.batch.text ∧
      (parseScan isAlnum projection scan).expiryDate = some l.expiry.date := by
  have hmem : r ∈ resolved isAlnum scan.raw := by
    rw [resolved, hr]
    rfl
  have hnonempty : r.batch ≠ some "" := by
    rw [hbatch]
    simpa using l.batch.nonempty
  have hreads : ReadsAs r scan (parseScan isAlnum projection scan) :=
    readsAs_of_no_colon hmem hcolon hnonempty
  exact ⟨hreads.lot hlot _ hbatch, hreads.expiry hexpiry _ hdate⟩

/-- A label in brackets is read by a scan, whatever the order of its fields. -/
theorem parseScan_bracketed (hraw : scan.raw = l.bracketed order) (hlot : scan.lotCode = none)
    (hexpiry : scan.expiryDate = none) (horder : order.Perm [.gtin, .expiry, .batch])
    (hparen : '(' ∉ l.batch.text.toList) (hcolon : ':' ∉ l.batch.text.toList) :
    (parseScan isAlnum projection scan).lotCode = some l.batch.text ∧
      (parseScan isAlnum projection scan).expiryDate = some l.expiry.date := by
  obtain ⟨r, hr, -, hbatch, hdate⟩ :=
    @parse_bracketed_of_not_mem l isAlnum none hparen _ horder
  rw [← hraw] at hr
  refine parseScan_label hr ?_ hbatch hdate hlot hexpiry
  rw [hraw, Label.bracketed, String.toList_ofList, List.mem_flatMap]
  rintro ⟨f, -, hmem⟩
  rcases List.mem_append.mp hmem with hai | hvalue
  · revert hai
    cases f <;> decide
  · exact colon_not_mem_value hcolon f hvalue

/-- So is a label without brackets. -/
theorem parseScan_compact (hraw : scan.raw = l.compact) (hlot : scan.lotCode = none)
    (hexpiry : scan.expiryDate = none) (hparen : '(' ∉ l.batch.text.toList)
    (hcolon : ':' ∉ l.batch.text.toList) :
    (parseScan isAlnum projection scan).lotCode = some l.batch.text ∧
      (parseScan isAlnum projection scan).expiryDate = some l.expiry.date := by
  obtain ⟨r, hr, -, hbatch, hdate⟩ := @parse_compact_of_not_mem l isAlnum none hparen
  rw [← hraw] at hr
  refine parseScan_label hr ?_ hbatch hdate hlot hexpiry
  rw [hraw, Label.compact, String.toList_ofList, List.mem_flatMap]
  rintro ⟨f, -, hmem⟩
  rcases List.mem_append.mp hmem with hai | hvalue
  · revert hai
    cases f <;> decide
  · exact colon_not_mem_value hcolon f hvalue

end Labels

/-! ## A label of the resolver's documentation -/

/-- A request with nothing but a barcode. -/
def scanOf (barcode : String) : ScanRequest :=
  ⟨none, none, some barcode, none, none, none, none, none, none, none, none⟩

/-- A projection without items. -/
def noItems : Projection := ⟨fun _ => .ok none, fun _ => .ok none⟩

/-- The label `ITEM:ABC-01 LOT:X1 EXPIRY:251231`, of which a scan reads no date. -/
theorem not_scan_agrees :
    ¬∀ r ∈ resolved Char.isAlphanum (scanOf "ITEM:ABC-01 LOT:X1 EXPIRY:251231").raw,
      ReadsAs r (scanOf "ITEM:ABC-01 LOT:X1 EXPIRY:251231")
        (parseScan Char.isAlphanum noItems (scanOf "ITEM:ABC-01 LOT:X1 EXPIRY:251231")) := by
  intro h
  have hread : resolved Char.isAlphanum (scanOf "ITEM:ABC-01 LOT:X1 EXPIRY:251231").raw =
      some ⟨some "ABC-01", none, some "X1", some ⟨2025, 12, 31, by decide⟩,
        "ITEM:ABC-01 LOT:X1 EXPIRY:251231", .kv⟩ := by
    decide +kernel
  have hnone : (parseScan Char.isAlphanum noItems
      (scanOf "ITEM:ABC-01 LOT:X1 EXPIRY:251231")).expiryDate = none := by
    decide +kernel
  have hdate := (h _ hread).expiry rfl _ rfl
  rw [hnone] at hdate
  cases hdate

/-- In `ITM:1 BATCH:B1|EXP:20251231` the value of a token runs over a separator. -/
example : (resolved Char.isAlphanum "ITM:1 BATCH:B1|EXP:20251231").bind ParsedBarcode.batch =
    some "B1" ∧ (parseScan Char.isAlphanum noItems (scanOf "ITM:1 BATCH:B1|EXP:20251231")).lotCode =
      some "B1|EXP:20251231" := by
  decide +kernel

end Wms.Scan
