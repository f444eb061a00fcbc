import Wms.Barcode.Resolver

/-!
# The two formats of a GS1 code

A label has a GTIN-14, a date and a batch. It is written with its fields in brackets, in any order,
or without brackets in a fixed order. The form in brackets is checked by the thirteen digits after
the indicator digit, and the other form is not checked, so the two readings agree with the label
only for some labels.
-/

namespace Wms.Barcode

open Foundation

/-! ## Labels -/

/-- A GTIN-14: the indicator digit first, the check digit last. -/
abbrev Gtin14 := Fin 14 → Fin 10

/-- The digits of the GTIN. -/
def Gtin14.text (g : Gtin14) : String := digitText (List.ofFn g)

/-- The check digit over all digits is right: with the weights three and one in turn, the digits
add up to a multiple of ten. -/
def Gtin14.IsValid (g : Gtin14) : Prop :=
  (∑ i, (if i.val % 2 = 0 then 3 else 1) * (g i).val) % 10 = 0

instance (g : Gtin14) : Decidable g.IsValid := inferInstanceAs (Decidable (_ = _))

/-- A date that `YYMMDD` stands for. -/
structure LabelDate where
  date : Date
  century : 2000 ≤ date.year ∧ date.year < 2100

/-- The two digits of a number. -/
def twoDigits (n : ℕ) : List (Fin 10) := [Fin.ofNat 10 (n / 10), Fin.ofNat 10 (n % 10)]

/-- `YYMMDD`. -/
def LabelDate.text (d : LabelDate) : String :=
  digitText (twoDigits (d.date.year - 2000) ++ twoDigits d.date.month ++ twoDigits d.date.day)

/-- A batch: some text without blanks at its ends. -/
structure Batch where
  text : String
  nonempty : text ≠ ""
  stripped : strip text = text

/-- What a label says. -/
structure Label where
  gtin : Gtin14
  expiry : LabelDate
  batch : Batch

/-- The fields of a label. -/
inductive Field
  | gtin
  | expiry
  | batch
  deriving DecidableEq

/-- The two digits of the application identifier. -/
def Field.ai : Field → Char × Char
  | gtin => ('0', '1')
  | expiry => ('1', '7')
  | batch => ('1', '0')

namespace Label

variable (l : Label)

/-- The text of a field. -/
def value : Field → String
  | .gtin => l.gtin.text
  | .expiry => l.expiry.text
  | .batch => l.batch.text

/-- A field with its identifier in brackets. -/
def bracketedField (f : Field) : List Char :=
  ['(', f.ai.1, f.ai.2, ')'] ++ (l.value f).toList

/-- The form with brackets. -/
def bracketed (order : List Field) : String := String.ofList (order.flatMap l.bracketedField)

/-- A field with its identifier. -/
def compactField (f : Field) : List Char := [f.ai.1, f.ai.2] ++ (l.value f).toList

/-- The form without brackets. -/
def compact : String :=
  String.ofList ([Field.gtin, Field.expiry, Field.batch].flatMap l.compactField)

/-- The parser reads the label: its date, its batch, and its GTIN if the check digit is right. -/
def Reads (result : Except Err ParsedBarcode) : Prop :=
  ∃ p, result = .ok p ∧ p.gtin = (if l.gtin.IsValid then some l.gtin.text else none) ∧
    p.batch = some l.batch.text ∧ p.expiry = some l.expiry.date

end Label

/-! ## Digits have no blanks -/

theorem stripped_digitText (ds : List (Fin 10)) : Stripped (digitText ds).toList := by
  constructor
  · intro c hc
    obtain ⟨d, rfl⟩ := mem_digitText (List.mem_of_mem_head? hc)
    exact isSpace_digitChar d
  · intro c hc
    obtain ⟨d, rfl⟩ := mem_digitText (List.mem_of_mem_getLast? hc)
    exact isSpace_digitChar d

/-! ## Dates -/

theorem slice_digitText (ds : List (Fin 10)) (i j : ℕ) :
    slice (digitText ds) i j = digitText ((ds.take j).drop i) := by
  simp [slice, digitText, List.map_drop, List.map_take]

theorem strip_digitText (ds : List (Fin 10)) : strip (digitText ds) = digitText ds := by
  have h := stripped_digitText ds
  rw [digitText, String.toList_ofList] at h
  exact strip_ofList h

theorem pyInt_twoDigits {n : ℕ} (h : n < 100) : pyInt (digitText (twoDigits n)) = .ok n := by
  rw [pyInt_digitText]
  have htens : n / 10 % 10 = n / 10 := by omega
  have hdigits : 10 * (n / 10) + n % 10 = n := by omega
  simp [twoDigits, htens, hdigits]

theorem parseExpiry_digitText {ds : List (Fin 10)} (h : ds.length = 6) :
    parseExpiry (some (digitText ds)) = dateOf 2000 (digitText (ds.take 2))
      (digitText ((ds.take 4).drop 2)) (digitText ((ds.take 6).drop 4)) := by
  have hlength : (digitText ds).length = 6 := by rw [length_digitText, h]
  have hne : digitText ds ≠ "" := by
    intro hempty
    rw [hempty] at hlength
    cases hlength
  have hdigits : isDigits (digitText ds) = true := by
    apply isDigits_digitText
    intro hnil
    rw [hnil] at h
    cases h
  simp only [parseExpiry, strip_digitText]
  rw [if_neg hne, if_neg (by omega), if_pos ⟨hlength, hdigits⟩]
  simp only [slice_digitText, List.drop_zero]

/-- The date of a label is read as the date that it stands for. -/
theorem parseExpiry_text (d : LabelDate) : parseExpiry (some d.text) = some d.date := by
  obtain ⟨⟨year, month, day, hvalid⟩, hfrom, hto⟩ := d
  change 2000 ≤ year at hfrom
  change year < 2100 at hto
  have hday := hvalid.2.2.2.trans (Date.daysInMonth_le year month)
  have hyear : 2000 + (year - 2000) = year := by omega
  have hread : pyInt (digitText (twoDigits (year - 2000))) = .ok (year - 2000) ∧
      pyInt (digitText (twoDigits month)) = .ok month ∧
      pyInt (digitText (twoDigits day)) = .ok day :=
    ⟨pyInt_twoDigits (by omega), pyInt_twoDigits (by omega), pyInt_twoDigits (by omega)⟩
  rw [LabelDate.text, parseExpiry_digitText (by simp [twoDigits])]
  change dateOf 2000 (digitText (twoDigits (year - 2000))) (digitText (twoDigits month))
    (digitText (twoDigits day)) = _
  unfold dateOf
  rw [hread.1, hread.2.1, hread.2.2]
  simp only [hyear, Date.ofNumbers, Int.toNat_natCast]
  rw [dif_pos hvalid]

/-! ## Check digits -/

/-- The check digit fills the weighted sum up to a multiple of ten. -/
theorem validCheckDigit_digitText {ds : List (Fin 10)} (w w' : ℕ) (h : ds ≠ []) :
    validCheckDigit ds.length w w' (digitText ds) =
      .ok (decide ((weightedSum w w' (ds.map Fin.val).dropLast + (ds.getLast h).val) % 10 = 0)) := by
  have hlast : (ds.map Fin.val).getLastD 0 = (ds.getLast h).val := by
    rw [List.getLastD_eq_getLast?, List.getLast?_map, List.getLast?_eq_some_getLast h]
    rfl
  have hdigit : (ds.getLast h).val < 10 := (ds.getLast h).isLt
  unfold validCheckDigit
  rw [if_pos ⟨isDigits_digitText h, length_digitText ds⟩, pyDigits_digitText]
  simp only [bind, Except.bind, pure, Except.pure, hlast]
  congr 2
  rw [eq_iff_iff]
  omega

/-- The weighted sum of the thirteen digits after the indicator digit. -/
def Gtin14.innerSum (g : Gtin14) : ℕ :=
  ∑ i : Fin 13, (if i.val % 2 = 0 then 1 else 3) * (g i.succ).val

theorem Gtin14.sum_eq (g : Gtin14) :
    ∑ i, (if i.val % 2 = 0 then 3 else 1) * (g i).val = 3 * (g 0).val + g.innerSum := by
  have hweight : ∀ i : Fin 13, (if i.succ.val % 2 = 0 then 3 else 1) * (g i.succ).val =
      (if i.val % 2 = 0 then 1 else 3) * (g i.succ).val := by
    intro i
    rw [Fin.val_succ]
    split <;> split <;> omega
  rw [Fin.sum_univ_succ, Finset.sum_congr rfl fun i _ => hweight i]
  rfl

/-- The form in brackets looks at the digits after the indicator digit. -/
theorem checkedGtin_text (g : Gtin14) :
    checkedGtin g.text = .ok (if g.innerSum % 10 = 0 then some g.text else none) := by
  have hlength : g.text.length = 14 := by simp [Gtin14.text]
  have hcore : slice g.text 1 14 = digitText (List.ofFn fun i : Fin 13 => g i.succ) := by
    rw [Gtin14.text, slice_digitText, List.take_of_length_le (by simp), List.ofFn_succ]
    rfl
  have hvalid : validEan13 (slice g.text 1 14) = .ok (decide (g.innerSum % 10 = 0)) := by
    have hcheck := @validCheckDigit_digitText (List.ofFn fun i : Fin 13 => g i.succ) 1 3 (by simp)
    rw [List.length_ofFn] at hcheck
    have hsum : weightedSum 1 3 ((List.ofFn fun i : Fin 13 => g i.succ).map Fin.val).dropLast +
        ((List.ofFn fun i : Fin 13 => g i.succ).getLast (by simp)).val = g.innerSum := by
      simp [Gtin14.innerSum, Fin.sum_univ_succ, weightedSum, List.dropLast]
      omega
    rw [hcore, validEan13, hcheck, hsum]
  unfold checkedGtin
  rw [if_pos (by simp [hlength])]
  simp only [hlength, if_true, hvalid]
  simp [hcore, bind, Except.bind, pure, Except.pure]

/-- Where the whole check digit is right, the digits after the indicator digit check too exactly
when the indicator digit is zero. -/
theorem Gtin14.innerSum_iff {g : Gtin14} (h : g.IsValid) : g.innerSum % 10 = 0 ↔ g 0 = 0 := by
  have hsum : (3 * (g 0).val + g.innerSum) % 10 = 0 := by
    rw [← g.sum_eq]
    exact h
  have hlt : (g 0).val < 10 := (g 0).isLt
  rw [Fin.ext_iff, Fin.val_zero]
  omega

/-! ## Fields -/

/-- The two digits of the identifier of a field. -/
def Field.key (f : Field) : String := String.ofList [f.ai.1, f.ai.2]

theorem Field.keys :
    Field.gtin.key = "01" ∧ Field.expiry.key = "17" ∧ Field.batch.key = "10" := by
  decide

theorem Field.key_injective : Function.Injective Field.key := by
  intro f f' h
  cases f <;> cases f' <;> first | rfl | exact absurd h (by decide)

variable {l : Label}

theorem value_ne_nil (f : Field) : (l.value f).toList ≠ [] := by
  intro hnil
  have hlength : (l.value f).length = 0 := by rw [← String.length_toList, hnil, List.length_nil]
  cases f with
  | gtin => simp [Label.value, Gtin14.text] at hlength
  | expiry => simp [Label.value, LabelDate.text, twoDigits] at hlength
  | batch => exact l.batch.nonempty (String.toList_eq_nil_iff.mp hnil)

theorem strip_value (f : Field) : strip (l.value f) = l.value f := by
  cases f with
  | gtin => exact strip_digitText _
  | expiry => exact strip_digitText _
  | batch => exact l.batch.stripped

theorem paren_not_mem_value (h : '(' ∉ l.batch.text.toList) (f : Field) :
    ∀ c ∈ (l.value f).toList, c ≠ '(' := by
  intro c hc
  cases f with
  | gtin =>
    obtain ⟨d, rfl⟩ := mem_digitText hc
    exact digitChar_ne_paren d
  | expiry =>
    obtain ⟨d, rfl⟩ := mem_digitText hc
    exact digitChar_ne_paren d
  | batch => exact fun hparen => h (hparen ▸ hc)

/-- Where the batch has no bracket a field is found as it was written. -/
theorem aiPair_field (h : '(' ∉ l.batch.text.toList) (f : Field) (order : List Field)
    (before : Option Char) :
    aiPair before (l.bracketedField f ++ order.flatMap l.bracketedField) =
      some ((f.key, l.value f), (l.bracketedField f).length) := by
  have hval : ((l.value f).toList ++ order.flatMap l.bracketedField).takeWhile (· ≠ '(') =
      (l.value f).toList := by
    rw [List.takeWhile_append_of_pos (by simpa using paren_not_mem_value h f)]
    cases order with
    | nil => simp
    | cons f' order => simp [Label.bracketedField]
  have hdecimal : isDecimal f.ai.1 = true ∧ isDecimal f.ai.2 = true := by
    cases f <;> decide
  have hshape : l.bracketedField f ++ order.flatMap l.bracketedField =
      '(' :: f.ai.1 :: f.ai.2 :: ')' :: ((l.value f).toList ++ order.flatMap l.bracketedField) :=
    rfl
  have hlength : (l.bracketedField f).length = 4 + (l.value f).toList.length := by
    simp [Label.bracketedField]
    omega
  rw [hshape, aiPair, hval, if_pos ⟨rfl, hdecimal.1, hdecimal.2, rfl, value_ne_nil f⟩,
    String.ofList_toList, hlength]
  rfl

theorem findAll_fields (h : '(' ∉ l.batch.text.toList) (order : List Field)
    (before : Option Char) :
    Scan.findAll aiPair before 0 (order.flatMap l.bracketedField) =
      order.map fun f => (f.key, l.value f) := by
  induction order generalizing before with
  | nil => rfl
  | cons f order ih =>
    obtain ⟨before', hfirst⟩ := Scan.findAll_match (by simp [Label.bracketedField])
      (aiPair_field h f order before)
    rw [List.flatMap_cons, hfirst, ih, List.map_cons]

/-- Where the batch has no bracket every field has its value. -/
theorem lookup_aiFields (h : '(' ∉ l.batch.text.toList) {order : List Field} (hnodup : order.Nodup)
    {f : Field} (hf : f ∈ order) :
    (aiFields (l.bracketed order)).lookup f.key = some (l.value f) := by
  have hpairs : (aiPairs (l.bracketed order)).map (fun p => (p.1, strip p.2)) =
      order.map fun f => (f.key, l.value f) := by
    rw [aiPairs, Label.bracketed, String.toList_ofList, findAll_fields h, List.map_map]
    apply List.map_congr_left
    intro f' _
    simp [strip_value]
  have hkeys : ((order.map fun f => (f.key, l.value f)).map Prod.fst).Nodup := by
    rw [List.map_map]
    exact hnodup.map Field.key_injective
  rw [aiFields, hpairs]
  exact Dict.lookup_assign_of_mem hkeys (List.mem_map_of_mem (f := fun f => (f.key, l.value f)) hf)

/-- No value in brackets contains an opening bracket. -/
theorem paren_not_mem_of_aiFields {s key val : String} (h : (aiFields s).lookup key = some val) :
    '(' ∉ val.toList := by
  obtain ⟨⟨key', val'⟩, hpair, heq⟩ := List.mem_map.mp (Dict.mem_of_lookup_assign h)
  obtain ⟨before, rest, n, -, hmatch⟩ := Scan.exists_of_mem_findAll hpair
  have hval : ∀ c ∈ val'.toList, c ≠ '(' := by
    unfold aiPair at hmatch
    split at hmatch
    · simp only at hmatch
      split at hmatch
      · simp only [Option.some.injEq, Prod.mk.injEq] at hmatch
        obtain ⟨⟨-, rfl⟩, -⟩ := hmatch
        intro c hc
        rw [String.toList_ofList] at hc
        simpa using List.mem_takeWhile_imp hc
      · cases hmatch
    · cases hmatch
  have hstrip : strip val' = val := (Prod.mk.inj heq).2
  intro hmem
  rw [← hstrip, strip, String.toList_ofList] at hmem
  have hsub := (List.rdropWhile_prefix isSpace (l := val'.toList.dropWhile isSpace)).subset hmem
  exact hval _ ((List.dropWhile_suffix isSpace).subset hsub) rfl

/-! ## The form in brackets -/

section Parse

variable {isAlnum : Char → Bool} {gtinToSku : Option (String → Option String)}

/-- A text that starts with a bracket or a digit has no prefix of a SKU. -/
theorem skuPrefix_eq_none {c : Char} {cs : List Char} (hspace : isSpace c = false)
    (hs : sameLetter 'S' c = false) (hi : sameLetter 'I' c = false) :
    skuPrefix (c :: cs) = none := by
  have hdrop : (c :: cs).dropWhile isSpace = c :: cs :=
    List.dropWhile_cons_of_neg (by simp [hspace])
  have hsku : matchWord "SKU".toList (c :: cs) = none := by
    change (if sameLetter 'S' c then _ else none) = none
    rw [hs]
    rfl
  have hitem : matchWord "ITEM".toList (c :: cs) = none := by
    change (if sameLetter 'I' c then _ else none) = none
    rw [hi]
    rfl
  simp only [skuPrefix, hdrop, List.findSome?_cons, hsku, hitem, List.findSome?_nil]

theorem strip_bracketed {order : List Field} (h : order ≠ []) :
    strip (l.bracketed order) = l.bracketed order := by
  apply strip_ofList
  constructor
  · intro c hc
    obtain ⟨f, rest, rfl⟩ := List.exists_cons_of_ne_nil h
    have hparen : '(' = c := by simpa [Label.bracketedField] using hc
    rw [← hparen]
    decide
  · intro c hc
    obtain ⟨before, f, rfl⟩ := (List.eq_nil_or_concat order).resolve_left h
    have hvalue := value_ne_nil (l := l) f
    rw [List.concat_eq_append, List.flatMap_append, List.flatMap_singleton, Label.bracketedField,
      ← List.append_assoc, List.getLast?_append_of_ne_nil _ hvalue] at hc
    exact (stripped_of_strip (strip_value f)).2 c hc

/-- A label in brackets is read by the branch for brackets. -/
theorem parse_bracketed {order : List Field} (h : order ≠ []) :
    parse isAlnum gtinToSku (l.bracketed order) =
      match parseGs1 (l.bracketed order) with
      | .error e => .error e
      | .ok (some gs1) => .ok (withSku gtinToSku (l.bracketed order) gs1)
      | .ok none =>
        parseUnbracketed isAlnum gtinToSku (l.bracketed order) (l.bracketed order) := by
  obtain ⟨f, rest, rfl⟩ := List.exists_cons_of_ne_nil h
  have hshape : (l.bracketed (f :: rest)).toList =
      '(' :: f.ai.1 :: f.ai.2 :: ')' :: ((l.value f).toList ++ rest.flatMap l.bracketedField) := by
    rw [Label.bracketed, String.toList_ofList]
    rfl
  have hlength : ¬(l.bracketed (f :: rest)).length < 2 := by
    rw [← String.length_toList, hshape]
    simp
  have hsku : skuPrefix (l.bracketed (f :: rest)).toList = none := by
    rw [hshape]
    exact skuPrefix_eq_none (by decide) (by decide) (by decide)
  have hparens : '(' ∈ (l.bracketed (f :: rest)).toList ∧
      ')' ∈ (l.bracketed (f :: rest)).toList := by
    rw [hshape]
    simp
  unfold parse
  cases hgs : parseGs1 (l.bracketed (f :: rest)) with
  | error e => simp only [strip_bracketed h, if_neg hlength, hsku, if_pos hparens, hgs]
  | ok gs1 =>
    cases gs1 with
    | none => simp only [strip_bracketed h, if_neg hlength, hsku, if_pos hparens, hgs]
    | some gs1 => simp only [strip_bracketed h, if_neg hlength, hsku, if_pos hparens, hgs]

/-- A label in brackets has fields that are found, whatever its batch looks like. -/
theorem aiPairs_ne_nil {order : List Field} (h : .gtin ∈ order) :
    aiPairs (l.bracketed order) ≠ [] := by
  obtain ⟨before, after, rfl⟩ := List.append_of_mem h
  have hsuffix : l.bracketedField .gtin ++ after.flatMap l.bracketedField <:+
      (l.bracketed (before ++ .gtin :: after)).toList := by
    rw [Label.bracketed, String.toList_ofList, List.flatMap_append, List.flatMap_cons]
    exact List.suffix_append _ _
  have hdigit := digitChar_ne_paren (l.gtin 0)
  have hshape : l.bracketedField .gtin = '(' :: '0' :: '1' :: ')' :: digitChar (l.gtin 0) ::
      (List.ofFn fun i : Fin 13 => l.gtin i.succ).map digitChar := by
    simp [Label.bracketedField, Label.value, Gtin14.text, digitText, Field.ai, List.ofFn_succ]
  have hdecimal : isDecimal '0' = true ∧ isDecimal '1' = true := by decide
  apply Scan.findAll_ne_nil hsuffix
  · rw [hshape]
    exact List.cons_ne_nil _ _
  · intro before'
    rw [hshape]
    simp [aiPair, hdecimal, hdigit]

/-- What is read from a label in brackets. -/
theorem parse_bracketed_of_not_mem (h : '(' ∉ l.batch.text.toList) {order : List Field}
    (horder : order.Perm [.gtin, .expiry, .batch]) :
    ∃ p, parse isAlnum gtinToSku (l.bracketed order) = .ok p ∧
      p.gtin = (if l.gtin.innerSum % 10 = 0 then some l.gtin.text else none) ∧
      p.batch = some l.batch.text ∧ p.expiry = some l.expiry.date := by
  have hnodup : order.Nodup := horder.nodup_iff.mpr (by decide)
  have hmem : ∀ f, f ∈ order := by
    intro f
    rw [horder.mem_iff]
    cases f <;> decide
  have hlookup : ∀ f : Field, (aiFields (l.bracketed order)).lookup f.key = some (l.value f) :=
    fun f => lookup_aiFields h hnodup (hmem f)
  have hgtin := hlookup .gtin
  have hexpiry := hlookup .expiry
  have hbatch := hlookup .batch
  rw [Field.keys.1, Label.value] at hgtin
  rw [Field.keys.2.1, Label.value] at hexpiry
  rw [Field.keys.2.2, Label.value] at hbatch
  generalize hread : (if l.gtin.innerSum % 10 = 0 then some l.gtin.text else none) = gtin
  have hgs1 : parseGs1 (l.bracketed order) = .ok (some ⟨none, gtin, some l.batch.text,
      some l.expiry.date, l.bracketed order, .gs1⟩) := by
    unfold parseGs1
    rw [if_neg (aiPairs_ne_nil (hmem .gtin))]
    simp only [hgtin, hexpiry, hbatch, checkedGtin_text, parseExpiry_text, hread]
  refine ⟨withSku gtinToSku (l.bracketed order) ⟨none, gtin, some l.batch.text,
    some l.expiry.date, l.bracketed order, .gs1⟩, ?_, rfl, rfl, rfl⟩
  rw [parse_bracketed (List.ne_nil_of_mem (hmem .gtin)), hgs1]

/-- A batch with an opening bracket is cut there. -/
theorem not_mem_of_reads {order : List Field} (hgtin : .gtin ∈ order)
    (h : l.Reads (parse isAlnum gtinToSku (l.bracketed order))) : '(' ∉ l.batch.text.toList := by
  obtain ⟨p, hp, -, hbatch, -⟩ := h
  rw [parse_bracketed (List.ne_nil_of_mem hgtin)] at hp
  have hfield : p.batch = (aiFields (l.bracketed order)).lookup "10" := by
    unfold parseGs1 at hp
    rw [if_neg (aiPairs_ne_nil hgtin)] at hp
    simp only at hp
    split at hp
    · cases hp
    · rename_i gs1 hgs1
      rw [← Except.ok.inj hp]
      split at hgs1
      · cases hgs1
        rfl
      · split at hgs1
        · cases hgs1
        · cases hgs1
          rfl
    · rename_i hgs1
      split at hgs1
      · cases hgs1
      · split at hgs1 <;> cases hgs1
  rw [hbatch] at hfield
  exact paren_not_mem_of_aiFields hfield.symm

/-! ## The form without brackets -/

theorem compactFields_gtin {fuel : ℕ} {v rest : List Char} {gtin : Option String}
    {expiry : Option Date} (hv : v.length = 14) :
    compactFields (fuel + 1) ('0' :: '1' :: (v ++ rest)) gtin expiry =
      compactFields fuel rest (some (String.ofList v)) expiry := by
  have hlength : ¬(v ++ rest).length < 14 := by
    rw [List.length_append]
    omega
  rw [compactFields, if_pos rfl, if_neg hlength, List.take_left' hv, List.drop_left' hv]

theorem compactFields_expiry {fuel : ℕ} {v rest : List Char} {gtin : Option String}
    {expiry : Option Date} (hv : v.length = 6) :
    compactFields (fuel + 1) ('1' :: '7' :: (v ++ rest)) gtin expiry =
      compactFields fuel rest gtin (parseExpiry (some (String.ofList v))) := by
  have hlength : ¬(v ++ rest).length < 6 := by
    rw [List.length_append]
    omega
  rw [compactFields, if_neg (by decide), if_pos rfl, if_neg hlength, List.take_left' hv,
    List.drop_left' hv]

theorem compactFields_batch {fuel : ℕ} {v : List Char} {gtin : Option String}
    {expiry : Option Date} (hv : v ≠ []) :
    compactFields (fuel + 1) ('1' :: '0' :: v) gtin expiry =
      some (gtin, some (String.ofList v), expiry) := by
  rw [compactFields, if_neg (by decide), if_neg (by decide), if_pos rfl, if_neg hv]

theorem toList_compact : l.compact.toList = '0' :: '1' :: (l.gtin.text.toList ++
    '1' :: '7' :: (l.expiry.text.toList ++ '1' :: '0' :: l.batch.text.toList)) := by
  simp [Label.compact, Label.compactField, Label.value, Field.ai]

theorem strip_compact : strip l.compact = l.compact := by
  apply strip_ofList
  have hbatch := stripped_of_strip l.batch.stripped
  have hne : l.batch.text.toList ≠ [] := value_ne_nil .batch
  have hshape : [Field.gtin, Field.expiry, Field.batch].flatMap l.compactField =
      '0' :: ('1' :: (l.gtin.text.toList ++ '1' :: '7' :: (l.expiry.text.toList ++ ['1', '0']))) ++
        l.batch.text.toList := by
    simp [Label.compactField, Label.value, Field.ai]
  rw [hshape]
  exact hbatch.append (by decide) hne

/-- The form without brackets is read as it was written, whatever its check digit. -/
theorem parse_compact_of_not_mem (h : '(' ∉ l.batch.text.toList) :
    ∃ p, parse isAlnum gtinToSku l.compact = .ok p ∧ p.gtin = some l.gtin.text ∧
      p.batch = some l.batch.text ∧ p.expiry = some l.expiry.date := by
  have hgtin : l.gtin.text.toList.length = 14 := by
    rw [String.length_toList]
    simp [Gtin14.text]
  have hexpiry : l.expiry.text.toList.length = 6 := by
    rw [String.length_toList]
    simp [LabelDate.text, twoDigits]
  have hbatch : l.batch.text.toList ≠ [] := value_ne_nil .batch
  have hlength : l.compact.length = 26 + l.batch.text.toList.length := by
    rw [← String.length_toList, toList_compact]
    simp only [List.length_cons, List.length_append, hgtin, hexpiry]
    omega
  have hparen : '(' ∉ l.compact.toList := by
    have hfields := paren_not_mem_value h
    rw [toList_compact]
    simp only [List.mem_cons, List.mem_append, not_or]
    exact ⟨by decide, by decide, fun hmem => hfields .gtin _ hmem rfl, by decide, by decide,
      fun hmem => hfields .expiry _ hmem rfl, by decide, by decide, h⟩
  have hsku : skuPrefix l.compact.toList = none := by
    rw [toList_compact]
    exact skuPrefix_eq_none (by decide) (by decide) (by decide)
  have hstart : slice l.compact 0 2 = "01" := by
    rw [slice, toList_compact]
    simp
  have hdigits : slice l.compact 2 16 = l.gtin.text := by
    rw [slice, toList_compact]
    simp [List.take_left' hgtin]
  have hall : isDigits l.gtin.text = true := isDigits_digitText (by simp)
  have hfields : compactFields l.compact.length l.compact.toList none none =
      some (some l.gtin.text, some l.batch.text, some l.expiry.date) := by
    obtain ⟨fuel, hfuel⟩ : ∃ fuel, l.compact.length = fuel + 1 + 1 + 1 := ⟨_, by
      rw [hlength, show 26 + l.batch.text.toList.length =
        23 + l.batch.text.toList.length + 1 + 1 + 1 by omega]⟩
    rw [hfuel, toList_compact, compactFields_gtin hgtin, compactFields_expiry hexpiry,
      compactFields_batch hbatch]
    simp only [String.ofList_toList, parseExpiry_text]
  have hgs1 : parseCompactGs1 l.compact = some ⟨none, some l.gtin.text, some l.batch.text,
      some l.expiry.date, l.compact, .gs1⟩ := by
    unfold parseCompactGs1
    rw [hfields]
    rfl
  refine ⟨withSku gtinToSku l.compact ⟨none, some l.gtin.text, some l.batch.text,
    some l.expiry.date, l.compact, .gs1⟩, ?_, rfl, rfl, rfl⟩
  unfold parse parseUnbracketed
  simp only [strip_compact]
  rw [if_neg (by omega), hsku, if_neg fun hparens => hparen hparens.1]
  simp only [hdigits]
  rw [if_pos ⟨hstart, by omega, hall⟩, hgs1]

/-! ## Agreement -/

/-- The two forms of a label are both read as the label exactly when its check digit is right, its
indicator digit is zero and its batch has no opening bracket. -/
theorem reads_both_iff (isAlnum : Char → Bool) (gtinToSku : Option (String → Option String))
    (l : Label) {order : List Field} (horder : order.Perm [.gtin, .expiry, .batch]) :
    (l.Reads (parse isAlnum gtinToSku (l.bracketed order)) ∧
        l.Reads (parse isAlnum gtinToSku l.compact)) ↔
      l.gtin.IsValid ∧ l.gtin 0 = 0 ∧ '(' ∉ l.batch.text.toList := by
  constructor
  · rintro ⟨hbracketed, p, hp, hgtin, -⟩
    have hparen : '(' ∉ l.batch.text.toList :=
      not_mem_of_reads (horder.mem_iff.mpr (by decide)) hbracketed
    obtain ⟨p', hp', hgtin', -⟩ :=
      @parse_compact_of_not_mem l isAlnum gtinToSku hparen
    obtain rfl := Except.ok.inj (hp.symm.trans hp')
    have hvalid : l.gtin.IsValid := by
      by_contra hnot
      rw [hgtin', if_neg hnot] at hgtin
      cases hgtin
    obtain ⟨q, hq, hread, -⟩ := hbracketed
    obtain ⟨q', hq', hread', -⟩ := @parse_bracketed_of_not_mem l isAlnum gtinToSku hparen _ horder
    obtain rfl := Except.ok.inj (hq.symm.trans hq')
    refine ⟨hvalid, ?_, hparen⟩
    by_contra hindicator
    rw [hread', if_pos hvalid, if_neg fun h => hindicator ((Gtin14.innerSum_iff hvalid).mp h)]
      at hread
    cases hread
  · rintro ⟨hvalid, hindicator, hparen⟩
    constructor
    · obtain ⟨p, hp, hgtin, hrest⟩ :=
        @parse_bracketed_of_not_mem l isAlnum gtinToSku hparen _ horder
      rw [if_pos ((Gtin14.innerSum_iff hvalid).mpr hindicator)] at hgtin
      exact ⟨p, hp, by rw [if_pos hvalid, hgtin], hrest⟩
    · obtain ⟨p, hp, hgtin, hrest⟩ := @parse_compact_of_not_mem l isAlnum gtinToSku hparen
      exact ⟨p, hp, by rw [if_pos hvalid, hgtin], hrest⟩

end Parse

/-! ## Two labels -/

/-- A label of the last day of 2025 and lot `LOT1`. -/
def someLabel (gtin : Gtin14) : Label :=
  { gtin
    expiry := ⟨⟨2025, 12, 31, by decide⟩, by decide⟩
    batch := ⟨"LOT1", by decide, by decide⟩ }

/-- A label of a single piece. -/
def pieceLabel : Label := someLabel ![0, 4, 0, 0, 6, 3, 8, 1, 3, 3, 3, 9, 3, 1]

/-- A label of a carton of the same pieces. -/
def cartonLabel : Label := someLabel ![1, 4, 0, 0, 6, 3, 8, 1, 3, 3, 3, 9, 3, 8]

/-- The label of the piece is read in both forms, whichever field comes first. -/
theorem reads_both_pieceLabel :
    pieceLabel.Reads (parse Char.isAlphanum none (pieceLabel.bracketed [.batch, .gtin, .expiry])) ∧
      pieceLabel.Reads (parse Char.isAlphanum none pieceLabel.compact) :=
  (reads_both_iff Char.isAlphanum none pieceLabel (by decide)).mpr
    ⟨by decide, by decide, by decide⟩

/-- The check digit of the carton is right, but in brackets its GTIN is dropped. -/
theorem not_reads_both_cartonLabel : cartonLabel.gtin.IsValid ∧
    ¬(cartonLabel.Reads
        (parse Char.isAlphanum none (cartonLabel.bracketed [.gtin, .expiry, .batch])) ∧
      cartonLabel.Reads (parse Char.isAlphanum none cartonLabel.compact)) := by
  have hvalid : cartonLabel.gtin.IsValid := by decide
  have hdropped : (parse Char.isAlphanum none
      (cartonLabel.bracketed [.gtin, .expiry, .batch])).toOption.bind ParsedBarcode.gtin = none := by
    decide +kernel
  refine ⟨hvalid, ?_⟩
  rintro ⟨⟨p, hp, hgtin, -⟩, -⟩
  rw [hp] at hdropped
  rw [if_pos hvalid] at hgtin
  have hnone : p.gtin = none := hdropped
  rw [hgtin] at hnone
  cases hnone

end Wms.Barcode
