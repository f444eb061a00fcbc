import Wms.Barcode.Resolver

/-!
# When the barcode resolver raises

The branches for GTINs ask `str.isdigit` before they read each digit with `int`. A text of the right
length with a digit that is not decimal passes the first and fails the second, and nothing catches
the exception. No other branch raises.
-/

namespace Wms.Barcode

open Foundation

/-- The text whose check digit may be computed: without fields in brackets the whole text, and
otherwise the last field `(01)`, of which the indicator digit is left out. -/
def checkedText (code : String) : Option String :=
  let s := strip code
  if aiPairs s = [] then some s
  else ((aiFields s).lookup "01").map fun gtin =>
    if gtin.length = 14 then slice gtin 1 14 else gtin

/-- Digits of a length that has a check digit, of which one is not decimal. -/
def Misread (s : String) : Prop :=
  isDigits s = true ∧ s.length ∈ [8, 12, 13] ∧ ¬∀ c ∈ s.toList, isDecimal c = true

variable {isAlnum : Char → Bool} {gtinToSku : Option (String → Option String)}

/-! ## Check digits -/

/-- The check of a code fails only on digits that are not decimal. -/
theorem validCheckDigit_ok_iff {n w w' : ℕ} {s : String} :
    (∃ b, validCheckDigit n w w' s = .ok b) ↔
      (isDigits s = true → s.length = n → ∀ c ∈ s.toList, isDecimal c = true) := by
  unfold validCheckDigit
  split
  · rename_i hdigits
    rw [← pyDigits_ok_iff]
    constructor
    · rintro ⟨b, hb⟩ - -
      cases hread : pyDigits s with
      | error e =>
        rw [hread] at hb
        cases hb
      | ok ds => exact ⟨ds, rfl⟩
    · intro h
      obtain ⟨ds, hds⟩ := h hdigits.1 hdigits.2
      rw [hds]
      exact ⟨_, rfl⟩
  · rename_i hnot
    exact ⟨fun _ hdigits hlength => absurd ⟨hdigits, hlength⟩ hnot, fun _ => ⟨false, rfl⟩⟩

/-- The check that belongs to the length of a text fails exactly when the text is misread. -/
theorem validCheckDigit_ok_iff_of_length {n w w' : ℕ} {s : String} (hn : n ∈ [8, 12, 13])
    (h : s.length = n) : (∃ b, validCheckDigit n w w' s = .ok b) ↔ ¬Misread s := by
  rw [validCheckDigit_ok_iff]
  constructor
  · rintro hok ⟨hdigits, -, hnot⟩
    exact hnot (hok hdigits h)
  · intro hnot hdigits hlength
    by_contra hdecimal
    exact hnot ⟨hdigits, hlength ▸ hn, hdecimal⟩

/-- A check that is used to keep or drop something fails when the check itself does. -/
theorem exists_bind_ok_iff {α : Type} {check : Except Err Bool} {f : Bool → α} :
    (∃ a, (do return f (← check)) = Except.ok (ε := Err) a) ↔ ∃ b, check = .ok b := by
  cases check with
  | error e => simp [bind, Except.bind]
  | ok b => simp [bind, Except.bind, pure, Except.pure]

theorem not_misread_of_length {s : String} (h : s.length ∉ [8, 12, 13]) : ¬Misread s :=
  fun hmisread => h hmisread.2.1

/-- The branch for plain digits. -/
theorem plainKind_ok_iff {s : String} : (∃ k, plainKind s = .ok k) ↔ ¬Misread s := by
  unfold plainKind
  split
  · split
    · rename_i hlength
      rw [exists_bind_ok_iff]
      exact validCheckDigit_ok_iff_of_length (by decide) hlength
    · split
      · rename_i hlength
        rw [exists_bind_ok_iff]
        exact validCheckDigit_ok_iff_of_length (by decide) hlength
      · split
        · rename_i hlength
          rw [exists_bind_ok_iff]
          exact validCheckDigit_ok_iff_of_length (by decide) hlength
        · rename_i h8 h12 h13
          have hnot : ¬Misread s := not_misread_of_length (by simp [h8, h12, h13])
          simp [hnot]
  · rename_i hdigits
    have hnot : ¬Misread s := fun hmisread => hdigits hmisread.1
    simp [hnot]

/-- The check of the field `(01)`. -/
theorem checkedGtin_ok_iff {gtin : String} : (∃ g, checkedGtin gtin = .ok g) ↔
    ¬Misread (if gtin.length = 14 then slice gtin 1 14 else gtin) := by
  unfold checkedGtin
  split
  · simp only
    generalize hcore : (if gtin.length = 14 then slice gtin 1 14 else gtin) = core
    split
    · rename_i hlength
      rw [exists_bind_ok_iff]
      exact validCheckDigit_ok_iff_of_length (by decide) hlength
    · split
      · rename_i hlength
        rw [exists_bind_ok_iff]
        exact validCheckDigit_ok_iff_of_length (by decide) hlength
      · split
        · rename_i hlength
          rw [exists_bind_ok_iff]
          exact validCheckDigit_ok_iff_of_length (by decide) hlength
        · rename_i h13 h12 h8
          have hnot : ¬Misread core := not_misread_of_length (by simp [h8, h12, h13])
          simp [hnot, pure, Except.pure]
  · rename_i hlength
    have hnot : ¬Misread (if gtin.length = 14 then slice gtin 1 14 else gtin) := by
      apply not_misread_of_length
      simp only [List.mem_cons, List.not_mem_nil, or_false] at hlength ⊢
      rw [if_neg (by omega)]
      omega
    simp [hnot]

/-! ## Patterns -/

/-- A text with a field in brackets has both brackets. -/
theorem brackets_of_aiPairs {s : String} (h : aiPairs s ≠ []) :
    '(' ∈ s.toList ∧ ')' ∈ s.toList ∧ 2 ≤ s.length := by
  obtain ⟨pair, hpair⟩ := List.exists_mem_of_ne_nil _ h
  obtain ⟨before, rest, n, hsuffix, hmatch⟩ := Scan.exists_of_mem_findAll hpair
  unfold aiPair at hmatch
  split at hmatch
  · simp only at hmatch
    split at hmatch
    · rename_i c₁ d d' c₂ cs hcond
      have hlength := hsuffix.length_le
      rw [String.length_toList] at hlength
      simp only [List.length_cons] at hlength
      refine ⟨hsuffix.subset ?_, hsuffix.subset ?_, by omega⟩
      · simp [hcond.1]
      · simp [hcond.2.2.2.1]
    · cases hmatch
  · cases hmatch

/-- What a word of a pattern takes from a text. -/
theorem matchWord_spec {ps cs key rest : List Char} (h : matchWord ps cs = some (key, rest)) :
    cs = key ++ rest ∧ ∀ c ∈ key, ∃ p ∈ ps, sameLetter p c = true := by
  induction ps generalizing cs key with
  | nil =>
    rw [matchWord] at h
    cases h
    simp
  | cons p ps ih =>
    cases cs with
    | nil => cases h
    | cons c cs =>
      rw [matchWord] at h
      split at h
      · rename_i hsame
        obtain ⟨⟨key', rest'⟩, hfound, heq⟩ := Option.map_eq_some_iff.mp h
        cases heq
        obtain ⟨hcs, hkey⟩ := ih hfound
        refine ⟨by rw [hcs]; rfl, fun x hx => ?_⟩
        rcases List.mem_cons.mp hx with rfl | hmem
        · exact ⟨p, List.mem_cons_self, hsame⟩
        · obtain ⟨q, hq, hqx⟩ := hkey x hmem
          exact ⟨q, List.mem_cons_of_mem p hq, hqx⟩
      · cases h

/-- What a separator and a value take from a text. -/
theorem matchValue_spec {separators cs val rest : List Char}
    (h : matchValue separators cs = some (val, rest)) :
    ∃ blanks c blanks', c ∈ separators ∧ cs = blanks ++ c :: (blanks' ++ (val ++ rest)) ∧
      (∀ x ∈ blanks ++ blanks', isSpace x = true) ∧ ∀ x ∈ val, valChar x = true := by
  unfold matchValue at h
  split at h
  · cases h
  · rename_i c after hafter
    simp only at h
    split at h
    · rename_i hcond
      cases h
      refine ⟨cs.takeWhile isSpace, c, after.takeWhile isSpace, hcond.1, ?_, ?_, ?_⟩
      · rw [List.takeWhile_append_dropWhile, List.takeWhile_append_dropWhile, ← hafter,
          List.takeWhile_append_dropWhile]
      · intro x hx
        rcases List.mem_append.mp hx with hmem | hmem
        · exact List.mem_takeWhile_imp hmem
        · exact List.mem_takeWhile_imp hmem
      · exact fun x hx => List.mem_takeWhile_imp hx
    · cases h

/-- A text with the prefix of a SKU has a colon and no bracket. -/
theorem skuPrefix_spec {cs : List Char} {sku : String} (h : skuPrefix cs = some sku) :
    ':' ∈ cs ∧ '(' ∉ cs := by
  obtain ⟨word, hword, hmatch⟩ := List.exists_of_findSome?_eq_some h
  have hwords : ∀ word ∈ ["SKU".toList, "ITEM".toList], ∀ p ∈ word, sameLetter p '(' = false := by
    simp [sameLetter]
  have hplain := hwords word hword
  split at hmatch
  · cases hmatch
  · rename_i key rest hkey
    split at hmatch
    · cases hmatch
    · rename_i val after hval
      split at hmatch
      · rename_i hblank
        obtain ⟨hcs, hletters⟩ := matchWord_spec hkey
        obtain ⟨blanks, c, blanks', hc, hrest, hspaces, hchars⟩ := matchValue_spec hval
        obtain rfl := List.mem_singleton.mp hc
        have hsplit : cs = cs.takeWhile isSpace ++
            (key ++ (blanks ++ ':' :: (blanks' ++ (val ++ after)))) := by
          rw [← hrest, ← hcs, List.takeWhile_append_dropWhile]
        have hparen : isSpace '(' = false := by decide
        have hnospace : ∀ bs : List Char, (∀ x ∈ bs, isSpace x = true) → '(' ∉ bs := by
          intro bs hbs hmem
          have := hbs _ hmem
          rw [hparen] at this
          cases this
        rw [hsplit]
        refine ⟨by simp, ?_⟩
        simp only [List.mem_append, List.mem_cons, not_or]
        refine ⟨hnospace _ fun x hx => List.mem_takeWhile_imp hx, fun hmem => ?_,
          hnospace _ fun x hx => hspaces x (List.mem_append_left _ hx), by decide,
          hnospace _ fun x hx => hspaces x (List.mem_append_right _ hx), fun hmem => ?_,
          hnospace _ (List.all_eq_true.mp hblank)⟩
        · obtain ⟨p, hp, hsame⟩ := hletters _ hmem
          rw [hplain p hp] at hsame
          cases hsame
        · have hbad := hchars _ hmem
          exact absurd hbad (by decide)
      · cases hmatch

theorem not_misread_of_colon {s : String} (h : ':' ∈ s.toList) : ¬Misread s := by
  rintro ⟨hdigits, -, -⟩
  unfold isDigits at hdigits
  rw [Bool.and_eq_true] at hdigits
  have hcolon := List.all_eq_true.mp hdigits.2 _ h
  exact absurd hcolon (by decide)

/-! ## The branches -/

/-- A code that the branch without brackets reads is too long for a check digit of its own. -/
theorem parseUnbracketed_ok_iff {code s : String} :
    (∃ p, parseUnbracketed isAlnum gtinToSku code s = .ok p) ↔ ¬Misread s := by
  unfold parseUnbracketed
  simp only
  split
  · rename_i gs1 hcompact
    split at hcompact
    · rename_i hcond
      have hnot : ¬Misread s := by
        apply not_misread_of_length
        have hlong := hcond.2.1
        simp only [List.mem_cons, List.not_mem_nil, or_false]
        omega
      simp [hnot]
    · cases hcompact
  · rw [← plainKind_ok_iff]
    unfold parsePlain
    cases plainKind s with
    | error e => simp
    | ok kind => cases kind <;> simp

/-- The branch for fields in brackets, where there are some. -/
theorem parseGs1_ok_iff {s : String} (h : aiPairs s ≠ []) :
    (∃ gs1, parseGs1 s = .ok (some gs1)) ↔
      ∀ gtin ∈ (aiFields s).lookup "01",
        ¬Misread (if gtin.length = 14 then slice gtin 1 14 else gtin) := by
  unfold parseGs1
  rw [if_neg h]
  simp only
  cases hgtin : (aiFields s).lookup "01" with
  | none => simp
  | some gtin =>
    simp only [Option.mem_some, forall_eq']
    rw [← checkedGtin_ok_iff]
    cases checkedGtin gtin <;> simp

/-- Where there are fields in brackets their branch is the last one. -/
theorem parseGs1_ne_none {s : String} (h : aiPairs s ≠ []) : parseGs1 s ≠ .ok none := by
  unfold parseGs1
  rw [if_neg h]
  simp only
  cases (aiFields s).lookup "01" with
  | none => simp
  | some gtin => cases hcheck : checkedGtin gtin <;> simp [hcheck]

/-- `parse` returns a result exactly when the text whose check digit it computes is not misread. -/
theorem parse_ok_iff (isAlnum : Char → Bool) (gtinToSku : Option (String → Option String))
    (code : String) :
    (∃ p, parse isAlnum gtinToSku code = .ok p) ↔ ∀ t ∈ checkedText code, ¬Misread t := by
  unfold parse checkedText
  simp only
  by_cases hpairs : aiPairs (strip code) = []
  · have hgs1 : (if '(' ∈ (strip code).toList ∧ ')' ∈ (strip code).toList
        then parseGs1 (strip code) else .ok none) = .ok none := by
      split
      · rw [parseGs1, if_pos hpairs]
      · rfl
    simp only [if_pos hpairs, Option.mem_some, forall_eq', hgs1]
    split
    · rename_i hshort
      have hnot : ¬Misread (strip code) := by
        apply not_misread_of_length
        simp only [List.mem_cons, List.not_mem_nil, or_false]
        omega
      simp [hnot]
    · split
      · rename_i sku hsku
        have hnot := not_misread_of_colon (skuPrefix_spec hsku).1
        simp [hnot]
      · exact parseUnbracketed_ok_iff
  · obtain ⟨hopen, hclose, hlength⟩ := brackets_of_aiPairs hpairs
    have hsku : skuPrefix (strip code).toList = none := by
      cases h : skuPrefix (strip code).toList with
      | none => rfl
      | some sku => exact absurd hopen (skuPrefix_spec h).2
    rw [if_neg hpairs, if_neg (by omega), hsku, if_pos ⟨hopen, hclose⟩, Option.forall_mem_map,
      ← parseGs1_ok_iff hpairs]
    simp only
    cases hgs1 : parseGs1 (strip code) with
    | error e => simp
    | ok gs1 =>
      cases gs1 with
      | some gs1 => simp
      | none => exact absurd hgs1 (parseGs1_ne_none hpairs)

/-- Eight superscripts are digits, but `int` does not read them. -/
theorem not_parse_ok_superscripts :
    ¬∃ p, parse Char.isAlphanum none "²²²²²²²²" = .ok p := by
  have hraises : (parse Char.isAlphanum none "²²²²²²²²").isOk = false := by decide +kernel
  rintro ⟨p, hp⟩
  rw [hp] at hraises
  cases hraises

end Wms.Barcode
