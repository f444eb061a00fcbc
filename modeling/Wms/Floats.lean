import Wms.Numerals

/-!
# Floats

Floats with their finite values read as the exact decimals that they are written as, and the
texts that `float` reads. A text that is repeated is still a number only if it has nothing but
digits, and is then more than the sum of its copies.
-/

namespace Wms

open Barcode

/-- A float. -/
inductive PyFloat
  | dec (q : ℚ)
  | inf (negative : Bool)
  | nan
  deriving DecidableEq

namespace PyFloat

/-- The product of two floats. -/
def mul : PyFloat → PyFloat → PyFloat
  | .dec p, .dec q => .dec (p * q)
  | .inf a, .inf b => .inf (a != b)
  | .inf a, .dec q => if q = 0 then .nan else .inf (a != decide (q < 0))
  | .dec p, .inf b => if p = 0 then .nan else .inf (decide (p < 0) != b)
  | _, _ => .nan

/-- `int(x)`, which cuts off the fraction. -/
def toInt : PyFloat → Option ℤ
  | .dec q => some (q.num.tdiv q.den)
  | _ => none

end PyFloat

/-! ## Texts that denote floats -/

/-- The mark of an exponent. -/
def isMark (c : Char) : Bool := c = 'e' || c = 'E'

/-- A sign. -/
def isSign (c : Char) : Bool := c = '-' || c = '+'

theorem isMark_iff {c : Char} : isMark c = true ↔ c = 'e' ∨ c = 'E' := by
  simp [isMark]

theorem isSign_iff {c : Char} : isSign c = true ↔ c = '-' ∨ c = '+' := by
  simp [isSign]

/-- A text without its low lines, each of which must have a digit on both sides. -/
def dropLowLines (afterDigit : Bool) : List Char → Option (List Char)
  | [] => some []
  | c :: cs =>
    if c = '_' then
      if afterDigit && cs.head?.any isDecimal then dropLowLines false cs else none
    else (dropLowLines (isDecimal c) cs).map (c :: ·)

/-- The exponent at the end of a number. -/
def readExponent : List Char → Option ℤ
  | [] => some 0
  | c :: cs =>
    let signed := readSign cs
    if isMark c ∧ signed.2 ≠ [] ∧ signed.2.all isDecimal then
      some (signed.1 * ofDigits (signed.2.filterMap decimal))
    else none

/-- The digits behind a point, and the rest. -/
def readFraction : List Char → List Char × List Char
  | '.' :: cs => (cs.takeWhile isDecimal, cs.dropWhile isDecimal)
  | cs => ([], cs)

/-- Digits, possibly with a point among them, and an exponent. -/
def readNumber (cs : List Char) : Option ℚ :=
  let whole := cs.takeWhile isDecimal
  let split := readFraction (cs.dropWhile isDecimal)
  if whole ++ split.1 = [] then none
  else (readExponent split.2).map fun e : ℤ =>
    ofDigits ((whole ++ split.1).filterMap decimal) * (10 : ℚ) ^ (e - (split.1.length : ℤ))

/-- A number with its sign, or the name of a float that is no number. -/
def readFloat (cs : List Char) : Option PyFloat :=
  let signed := readSign cs
  let word := String.ofList (signed.2.map Char.toLower)
  match readNumber signed.2 with
  | some q => some (.dec (signed.1 * q))
  | none =>
    if word = "inf" ∨ word = "infinity" then some (.inf (signed.1 < 0))
    else if word = "nan" then some .nan else none

/-- `float(s)`, where it is not an error. -/
def floatText (s : String) : Option PyFloat :=
  (dropLowLines false s.toList).bind fun cs => readFloat (numberChars (String.ofList cs))

example : floatText " -1_0.50e-1 " = some (.dec (-21 / 20)) ∧ floatText "5." = some (.dec 5) ∧
    floatText "." = none ∧ floatText "1e" = none ∧ floatText "1_.5" = none ∧
    floatText "-Infinity" = some (.inf true) := by
  decide +kernel

/-! ## What a number is made of -/

/-- The text has nothing but digits, points, marks and signs, with bounds on their numbers; each
mark allows a sign more. -/
structure Spelled (points marks signs : ℕ) (cs : List Char) : Prop where
  points : cs.countP (· = '.') ≤ points
  marks : cs.countP isMark ≤ marks
  signs : cs.countP isSign ≤ signs + cs.countP isMark
  plain : ∀ c ∈ cs, isDecimal c ∨ c = '.' ∨ isMark c ∨ isSign c

namespace Spelled

variable {p m s p' m' s' : ℕ} {cs ds : List Char}

theorem append (h : Spelled p m s cs) (h' : Spelled p' m' s' ds) :
    Spelled (p + p') (m + m') (s + s') (cs ++ ds) where
  points := by rw [List.countP_append]; exact Nat.add_le_add h.points h'.points
  marks := by rw [List.countP_append]; exact Nat.add_le_add h.marks h'.marks
  signs := by
    have hcs := h.signs
    have hds := h'.signs
    rw [List.countP_append, List.countP_append]
    omega
  plain c hc := (List.mem_append.mp hc).elim (h.plain c) (h'.plain c)

theorem mono (h : Spelled p m s cs) (hp : p ≤ p') (hm : m ≤ m') (hs : s ≤ s') :
    Spelled p' m' s' cs where
  points := h.points.trans hp
  marks := h.marks.trans hm
  signs := h.signs.trans (Nat.add_le_add_right hs _)
  plain := h.plain

theorem point : Spelled 1 0 0 ['.'] where
  points := by decide
  marks := by decide
  signs := by decide
  plain := by simp

theorem sign {c : Char} (h : isSign c) : Spelled 0 0 1 [c] := by
  obtain rfl | rfl := isSign_iff.mp h
  all_goals exact ⟨by decide, by decide, by decide, by simp [isSign]⟩

theorem mark {c : Char} (h : isMark c) : Spelled 0 1 0 [c] := by
  obtain rfl | rfl := isMark_iff.mp h
  all_goals exact ⟨by decide, by decide, by decide, by simp [isMark]⟩

theorem mark_sign {c d : Char} (h : isMark c) (hd : isSign d) : Spelled 0 1 0 [c, d] := by
  obtain rfl | rfl := isMark_iff.mp h
  all_goals obtain rfl | rfl := isSign_iff.mp hd
  all_goals exact ⟨by decide, by decide, by decide, by simp [isMark, isSign]⟩

theorem decimals (h : ∀ c ∈ cs, isDecimal c) : Spelled 0 0 0 cs := by
  induction cs with
  | nil => exact ⟨by simp, by simp, by simp, by simp⟩
  | cons c cs ih =>
    have hc : isDecimal c := h c List.mem_cons_self
    have hrest := ih fun d hd => h d (List.mem_cons_of_mem c hd)
    have hhead : Spelled 0 0 0 [c] := by
      have hpoint : c ≠ '.' := by rintro rfl; exact absurd hc (by decide)
      have hmark : isMark c = false := by
        rw [Bool.eq_false_iff]
        intro hmark
        obtain rfl | rfl := isMark_iff.mp hmark
        all_goals exact absurd hc (by decide)
      have hsign : isSign c = false := by
        rw [Bool.eq_false_iff]
        intro hsign
        obtain rfl | rfl := isSign_iff.mp hsign
        all_goals exact absurd hc (by decide)
      exact ⟨by simp [hpoint], by simp [hmark], by simp [hsign], by simp [hc]⟩
    exact hhead.append hrest

end Spelled

/-- A sign is at most one character. -/
theorem readSign_cases (cs : List Char) :
    readSign cs = (1, cs) ∨ ∃ c rest, isSign c ∧ cs = c :: rest ∧ (readSign cs).2 = rest := by
  unfold readSign
  split
  · exact Or.inr ⟨_, _, rfl, rfl, rfl⟩
  · exact Or.inr ⟨_, _, rfl, rfl, rfl⟩
  · exact Or.inl rfl

theorem spelled_of_readExponent {cs : List Char} {e : ℤ} (h : readExponent cs = some e) :
    Spelled 0 1 0 cs := by
  cases cs with
  | nil => exact ⟨by simp, by simp, by simp, by simp⟩
  | cons c cs =>
    unfold readExponent at h
    dsimp only at h
    split at h
    · rename_i hread
      obtain ⟨hmark, -, hall⟩ := hread
      have hdecimals := Spelled.decimals (List.all_eq_true.mp hall)
      rcases readSign_cases cs with hsigned | ⟨sign, rest, hsign, rfl, hrest⟩
      · rw [hsigned] at hdecimals
        exact (Spelled.mark hmark).append hdecimals
      · rw [hrest] at hdecimals
        exact (Spelled.mark_sign hmark hsign).append hdecimals
    · cases h

theorem readFraction_cases (cs : List Char) :
    readFraction cs = ([], cs) ∨ cs = '.' :: ((readFraction cs).1 ++ (readFraction cs).2) ∧
      ∀ c ∈ (readFraction cs).1, isDecimal c := by
  unfold readFraction
  split
  · refine Or.inr ⟨?_, ?_⟩
    · simp [List.takeWhile_append_dropWhile]
    · intro c hc
      exact List.mem_takeWhile_imp hc
  · exact Or.inl rfl

/-- A number without a sign. -/
theorem spelled_of_readNumber {cs : List Char} {q : ℚ} (h : readNumber cs = some q) :
    Spelled 1 1 0 cs ∧ ∃ c ∈ cs, isDecimal c := by
  have hwhole : ∀ c ∈ cs.takeWhile isDecimal, isDecimal c := fun c hc => List.mem_takeWhile_imp hc
  have hcs : cs = cs.takeWhile isDecimal ++ cs.dropWhile isDecimal :=
    List.takeWhile_append_dropWhile.symm
  unfold readNumber at h
  dsimp only at h
  split at h
  · cases h
  · rename_i hne
    obtain ⟨e, he, -⟩ := Option.map_eq_some_iff.mp h
    rcases readFraction_cases (cs.dropWhile isDecimal) with hnone | ⟨hrest, hfraction⟩
    · rw [hnone] at he hne
      constructor
      · rw [hcs]
        exact ((Spelled.decimals hwhole).append (spelled_of_readExponent he)).mono
          (by omega) (by omega) (by omega)
      · obtain ⟨c, hc⟩ := List.exists_mem_of_ne_nil _ hne
        rw [List.append_nil] at hc
        exact ⟨c, (List.takeWhile_sublist _).mem hc, hwhole c hc⟩
    · have hsplit : cs = cs.takeWhile isDecimal ++ (['.'] ++
          ((readFraction (cs.dropWhile isDecimal)).1 ++
            (readFraction (cs.dropWhile isDecimal)).2)) := by
        rw [List.singleton_append, ← hrest]
        exact hcs
      constructor
      · rw [hsplit]
        exact ((Spelled.decimals hwhole).append (Spelled.point.append
          ((Spelled.decimals hfraction).append (spelled_of_readExponent he)))).mono
          (by omega) (by omega) (by omega)
      · obtain ⟨c, hc⟩ := List.exists_mem_of_ne_nil _ hne
        refine ⟨c, ?_, ?_⟩
        · rw [hsplit]
          simp only [List.mem_append] at hc ⊢
          tauto
        · exact (List.mem_append.mp hc).elim (hwhole c) (hfraction c)

/-- A number with its sign. -/
theorem spelled_of_readFloat {cs : List Char} {q : ℚ} (h : readFloat cs = some (.dec q)) :
    Spelled 1 1 1 cs ∧ ∃ c ∈ cs, isDecimal c := by
  unfold readFloat at h
  dsimp only at h
  split at h
  · rename_i x hx
    obtain ⟨hspelled, c, hc, hdecimal⟩ := spelled_of_readNumber hx
    rcases readSign_cases cs with hsigned | ⟨sign, rest, hsign, rfl, hrest⟩
    · rw [hsigned] at hspelled hc
      exact ⟨hspelled.mono le_rfl le_rfl (by omega), c, hc, hdecimal⟩
    · rw [hrest] at hspelled hc
      constructor
      · exact ((Spelled.sign hsign).append hspelled).mono (by omega) (by omega) (by omega)
      · exact ⟨c, List.mem_cons_of_mem sign hc, hdecimal⟩
  · split at h
    · cases h
    · split at h <;> cases h

/-! ## Repeated texts -/

/-- `s * n` of a text. -/
def repeatText (n : ℕ) (s : String) : String := String.ofList (List.replicate n s.toList).flatten

/-- Decimal digits are no white space and no letters. -/
theorem not_isSpace_of_isDecimal {c : Char} (h : isDecimal c) : isSpace c = false := by
  have hall : ∀ n ∈ [0x09, 0x0a, 0x0b, 0x0c, 0x0d, 0x1c, 0x1d, 0x1e, 0x1f, 0x20, 0x85, 0xa0, 0x1680,
      0x2000, 0x2001, 0x2002, 0x2003, 0x2004, 0x2005, 0x2006, 0x2007, 0x2008, 0x2009, 0x200a,
      0x2028, 0x2029, 0x202f, 0x205f, 0x3000],
      (decimalZeros.find? fun start => start ≤ n ∧ n < start + 10) = none := by decide
  rw [Bool.eq_false_iff]
  intro hspace
  have hnone := hall c.toNat (of_decide_eq_true hspace)
  rw [isDecimal, decimal, hnone] at h
  cases h

theorem numberSpace_of_isDecimal {c : Char} (h : isDecimal c) : numberSpace c = false := by
  simp [numberSpace, not_isSpace_of_isDecimal h]

theorem toLower_of_isDecimal {c : Char} (h : isDecimal c) : c.toLower = c := by
  have hall : ∀ n ∈ List.range' 65 26,
      (decimalZeros.find? fun start => start ≤ n ∧ n < start + 10) = none := by decide
  unfold Char.toLower
  split
  · rename_i hupper
    have hlow : 65 ≤ c.toNat := UInt32.le_iff_toNat_le.mp hupper.1
    have hhigh : c.toNat ≤ 90 := UInt32.le_iff_toNat_le.mp hupper.2
    have hnone := hall c.toNat (List.mem_range'_1.mpr ⟨hlow, by omega⟩)
    rw [isDecimal, decimal, hnone] at h
    cases h
  · rfl

section Trimming

variable {f g : Char → Bool} {cs ds : List Char} {c : Char}

theorem dropWhile_append_of_mem (hc : c ∈ cs) (h : f c = false) :
    (cs ++ ds).dropWhile f = cs.dropWhile f ++ ds := by
  rw [List.dropWhile_append, if_neg]
  rw [List.isEmpty_iff, List.dropWhile_eq_nil_iff]
  intro hall
  have hfc := hall c hc
  rw [h] at hfc
  cases hfc

theorem rdropWhile_append_of_mem (hc : c ∈ ds) (h : f c = false) :
    (cs ++ ds).rdropWhile f = cs ++ ds.rdropWhile f := by
  unfold List.rdropWhile
  rw [List.reverse_append, dropWhile_append_of_mem (List.mem_reverse.mpr hc) h,
    List.reverse_append, List.reverse_reverse]

theorem countP_dropWhile (h : ∀ c, f c = true → g c = false) :
    (cs.dropWhile f).countP g = cs.countP g := by
  induction cs with
  | nil => rfl
  | cons c cs ih =>
    by_cases hc : f c = true
    · rw [List.dropWhile_cons_of_pos hc, ih, List.countP_cons_of_neg]
      simp [h c hc]
    · rw [List.dropWhile_cons_of_neg hc]

theorem countP_rdropWhile (h : ∀ c, f c = true → g c = false) :
    (cs.rdropWhile f).countP g = cs.countP g := by
  unfold List.rdropWhile
  rw [List.countP_reverse, countP_dropWhile h, List.countP_reverse]

/-- A text is trimmed in front if what is left of it without its end is. -/
theorem dropWhile_eq_self (hc : c ∈ cs) (h : f c = false)
    (hend : ∀ d ∈ cs.rdropWhile f, f d = false) : cs.dropWhile f = cs := by
  cases cs with
  | nil => rfl
  | cons d ds =>
    have hne : (d :: ds).rdropWhile f ≠ [] := by
      rw [Ne, List.rdropWhile_eq_nil_iff]
      intro hall
      have hfc := hall c hc
      rw [h] at hfc
      cases hfc
    obtain ⟨e, es, hes⟩ := List.exists_cons_of_ne_nil hne
    have hprefix := List.rdropWhile_prefix f (l := d :: ds)
    rw [hes] at hprefix hend
    have hde : e = d := (List.cons_prefix_cons.mp hprefix).1
    have hd : f d = false := hend d (by simp [hde])
    exact List.dropWhile_cons_of_neg (by simp [hd])

end Trimming

theorem numberChars_ofList (cs : List Char) :
    numberChars (String.ofList cs) = (cs.dropWhile numberSpace).rdropWhile numberSpace := by
  rw [numberChars, String.toList_ofList]

theorem numberChars_eq_self {cs : List Char} (h : ∀ c ∈ cs, numberSpace c = false) :
    numberChars (String.ofList cs) = cs := by
  have hfront : cs.dropWhile numberSpace = cs := by
    cases cs with
    | nil => rfl
    | cons c cs => exact List.dropWhile_cons_of_neg (by simp [h c List.mem_cons_self])
  rw [numberChars_ofList, hfront, List.rdropWhile_eq_self_iff]
  intro hne
  simp [h _ (List.getLast_mem hne)]

theorem not_numberSpace {c : Char} (h : isDecimal c ∨ c = '.' ∨ isMark c ∨ isSign c) :
    numberSpace c = false := by
  rcases h with hdecimal | rfl | hmark | hsign
  · exact numberSpace_of_isDecimal hdecimal
  · decide
  · obtain rfl | rfl := isMark_iff.mp hmark <;> decide
  · obtain rfl | rfl := isSign_iff.mp hsign <;> decide

/-- What counts no white space counts the same in a trimmed text. -/
theorem countP_numberChars {g : Char → Bool} (h : ∀ c, numberSpace c = true → g c = false)
    (cs : List Char) : (numberChars (String.ofList cs)).countP g = cs.countP g := by
  rw [numberChars_ofList, countP_rdropWhile h, countP_dropWhile h]

theorem mem_numberChars {cs : List Char} {c : Char} (hc : c ∈ cs) (h : numberSpace c = false) :
    c ∈ numberChars (String.ofList cs) := by
  have hcount := countP_numberChars (g := (· == c)) (fun d hd => by
    rw [beq_eq_false_iff_ne]
    rintro rfl
    rw [h] at hd
    cases hd) cs
  have hpos : 0 < cs.countP (· == c) := List.countP_pos_iff.mpr ⟨c, hc, by simp⟩
  rw [← hcount] at hpos
  obtain ⟨d, hd, hdc⟩ := List.countP_pos_iff.mp hpos
  rwa [← eq_of_beq hdc]

/-- The copies at both ends of a repeated text are trimmed on their outer sides. -/
theorem numberChars_repeat {cs : List Char} {c : Char} (hc : c ∈ cs) (h : numberSpace c = false)
    (mid : List Char) : numberChars (String.ofList (cs ++ (mid ++ cs))) =
      cs.dropWhile numberSpace ++ (mid ++ cs.rdropWhile numberSpace) := by
  rw [numberChars_ofList, dropWhile_append_of_mem hc h, ← List.append_assoc,
    rdropWhile_append_of_mem hc h, List.append_assoc]

theorem isMark_of_space {d : Char} (h : numberSpace d = true) : isMark d = false := by
  rw [Bool.eq_false_iff]
  intro hmark
  rw [not_numberSpace (Or.inr (Or.inr (Or.inl hmark)))] at h
  cases h

theorem isSign_of_space {d : Char} (h : numberSpace d = true) : isSign d = false := by
  rw [Bool.eq_false_iff]
  intro hsign
  rw [not_numberSpace (Or.inr (Or.inr (Or.inr hsign)))] at h
  cases h

theorem isPoint_of_space {d : Char} (h : numberSpace d = true) : decide (d = '.') = false := by
  rw [decide_eq_false_iff_not]
  rintro rfl
  exact absurd h (by decide)

/-- Of a text that is a number also when it is repeated, every character is a digit. -/
theorem decimals_of_repeat {cs : List Char} {c : Char} {n : ℕ} {x : ℚ} (hc : c ∈ cs)
    (hdecimal : isDecimal c)
    (h : readFloat (numberChars (String.ofList (cs ++ ((List.replicate n cs).flatten ++ cs)))) =
      some (.dec x)) : ∀ d ∈ cs, isDecimal d := by
  obtain ⟨hspelled, -⟩ := spelled_of_readFloat h
  have hc' := numberSpace_of_isDecimal hdecimal
  have htrim := numberChars_repeat hc hc' (List.replicate n cs).flatten
  have hspace : ∀ d ∈ cs.dropWhile numberSpace ++
      ((List.replicate n cs).flatten ++ cs.rdropWhile numberSpace), numberSpace d = false := by
    intro d hd
    rw [← htrim] at hd
    exact not_numberSpace (hspelled.plain d hd)
  -- no white space between the copies, so none at all
  have hself := dropWhile_eq_self hc hc' fun d hd => hspace d (by simp [hd])
  have hcopies : ∀ g : Char → Bool,
      (List.replicate n cs).flatten.countP g = n * cs.countP g := by
    intro g
    simp [List.countP_flatten]
  have hpoint := hspelled.points
  have hmark := hspelled.marks
  have hsign := hspelled.signs
  rw [countP_numberChars fun d => isPoint_of_space] at hpoint
  rw [countP_numberChars fun d => isMark_of_space] at hmark hsign
  rw [countP_numberChars fun d => isSign_of_space] at hsign
  simp only [List.countP_append] at hpoint hmark hsign
  -- what a number has once only, a repeated text does not have
  have hpoints : cs.countP (· = '.') = 0 := by omega
  have hmarks : cs.countP isMark = 0 := by omega
  have hmid : (List.replicate n cs).flatten.countP isMark = 0 := by
    rw [hcopies, hmarks, Nat.mul_zero]
  have hsigns : cs.countP isSign = 0 := by omega
  intro d hd
  have hmem : d ∈ numberChars (String.ofList (cs ++ ((List.replicate n cs).flatten ++ cs))) := by
    rw [htrim, hself]
    exact List.mem_append_left _ hd
  rcases hspelled.plain d hmem with hdigit | hdot | hmark | hsign
  · exact hdigit
  · exact absurd (decide_eq_true hdot) (List.countP_eq_zero.mp hpoints d hd)
  · exact absurd hmark (List.countP_eq_zero.mp hmarks d hd)
  · exact absurd hsign (List.countP_eq_zero.mp hsigns d hd)

/-! ## Texts of digits -/

theorem ofDigits_append (ds es : List ℕ) :
    ofDigits (ds ++ es) = ofDigits ds * 10 ^ es.length + ofDigits es := by
  induction es using List.reverseRecOn with
  | nil => simp [ofDigits]
  | append_singleton es e ih =>
    have hstep : ∀ (xs : List ℕ) (x : ℕ), ofDigits (xs ++ [x]) = 10 * ofDigits xs + x := by
      intro xs x
      simp [ofDigits, List.foldl_append]
    rw [← List.append_assoc, hstep, hstep, ih, List.length_append, List.length_singleton,
      pow_succ]
    ring

theorem ofDigits_repeat_zero {ds : List ℕ} (h : ofDigits ds = 0) (n : ℕ) :
    ofDigits (List.replicate n ds).flatten = 0 := by
  induction n with
  | zero => rfl
  | succ n ih => rw [List.replicate_succ, List.flatten_cons, ofDigits_append, h, ih, Nat.zero_mul]

/-- Repeated digits are more than the sum of the copies. -/
theorem lt_ofDigits_repeat {ds : List ℕ} (hpos : 0 < ofDigits ds) {n : ℕ} (hn : 2 ≤ n) :
    n * ofDigits ds < ofDigits (List.replicate n ds).flatten := by
  have hlength : 1 ≤ ds.length := by
    cases ds with
    | nil => exact absurd hpos (by decide)
    | cons d ds => simp
  induction n, hn using Nat.le_induction with
  | base =>
    have hten : 10 ≤ 10 ^ ds.length := Nat.le_self_pow (by omega) 10
    have hmul := Nat.mul_le_mul_left (ofDigits ds) hten
    simp only [List.replicate_succ, List.replicate_zero, List.flatten_cons, List.flatten_nil,
      List.append_nil, ofDigits_append]
    omega
  | succ n hn ih =>
    have hone : 1 ≤ 10 ^ (List.replicate n ds).flatten.length := Nat.one_le_pow _ _ (by omega)
    have hmul := Nat.mul_le_mul_left (ofDigits ds) hone
    rw [List.replicate_succ, List.flatten_cons, ofDigits_append, Nat.succ_mul]
    omega

theorem readSign_decimals {cs : List Char} (h : ∀ c ∈ cs, isDecimal c) : readSign cs = (1, cs) := by
  rcases readSign_cases cs with hsigned | ⟨c, rest, hsign, rfl, -⟩
  · exact hsigned
  · have hdecimal := h c List.mem_cons_self
    obtain rfl | rfl := isSign_iff.mp hsign <;> exact absurd hdecimal (by decide)

theorem readNumber_decimals {cs : List Char} (hne : cs ≠ []) (h : ∀ c ∈ cs, isDecimal c) :
    readNumber cs = some (ofDigits (cs.filterMap decimal) : ℚ) := by
  have hwhole : cs.takeWhile isDecimal = cs := List.takeWhile_eq_self_iff.mpr h
  have hrest : cs.dropWhile isDecimal = [] := List.dropWhile_eq_nil_iff.mpr h
  simp [readNumber, hwhole, hrest, readFraction, hne, readExponent]

theorem readFloat_signed {cs ds : List Char} {sign : ℤ} (hread : readSign cs = (sign, ds))
    (hne : ds ≠ []) (h : ∀ c ∈ ds, isDecimal c) :
    readFloat cs = some (.dec ((sign * ofDigits (ds.filterMap decimal) : ℤ) : ℚ)) := by
  simp [readFloat, hread, readNumber_decimals hne h]

/-- The float that digits denote. -/
theorem readFloat_decimals {cs : List Char} (hne : cs ≠ []) (h : ∀ c ∈ cs, isDecimal c) :
    readFloat (numberChars (String.ofList cs)) = some (.dec (ofDigits (cs.filterMap decimal))) := by
  rw [numberChars_eq_self fun c hc => numberSpace_of_isDecimal (h c hc)]
  rw [readFloat_signed (readSign_decimals h) hne h]
  simp

/-- A text with a digit is the name of no float. -/
theorem dec_of_readFloat {cs : List Char} {v : PyFloat} {c : Char} (h : readFloat cs = some v)
    (hc : c ∈ cs) (hdecimal : isDecimal c) : ∃ q, v = .dec q := by
  have hmem : c ∈ (readSign cs).2 := by
    rcases readSign_cases cs with hsigned | ⟨d, rest, hsign, rfl, hrest⟩
    · rwa [hsigned]
    · rw [hrest]
      refine (List.mem_cons.mp hc).resolve_left ?_
      rintro rfl
      obtain rfl | rfl := isSign_iff.mp hsign <;> exact absurd hdecimal (by decide)
  have hletters : ∀ d ∈ ['i', 'n', 'f', 't', 'y', 'a'], isDecimal d = false := by
    intro d hd
    fin_cases hd <;> rfl
  have hword : ∀ word : String, word.toList ⊆ ['i', 'n', 'f', 't', 'y', 'a'] →
      String.ofList ((readSign cs).2.map Char.toLower) ≠ word := by
    rintro word hsubset rfl
    have hletter : c ∈ ['i', 'n', 'f', 't', 'y', 'a'] := by
      apply hsubset
      rw [String.toList_ofList, ← toLower_of_isDecimal hdecimal]
      exact List.mem_map_of_mem hmem
    rw [hletters c hletter] at hdecimal
    cases hdecimal
  unfold readFloat at h
  dsimp only at h
  split at h
  · exact ⟨_, (Option.some.inj h).symm⟩
  · rw [if_neg, if_neg (hword "nan" (by decide))] at h
    · cases h
    · exact not_or.mpr ⟨hword "inf" (by decide), hword "infinity" (by decide)⟩

theorem eq_filter_of_dropLowLines {b : Bool} {cs ds : List Char} (h : dropLowLines b cs = some ds) :
    ds = cs.filter (· ≠ '_') := by
  induction cs generalizing b ds with
  | nil => cases h; rfl
  | cons c cs ih =>
    unfold dropLowLines at h
    split at h
    · rename_i hc
      split at h
      · rw [ih h, List.filter_cons_of_neg (by simp [hc])]
      · cases h
    · rename_i hc
      obtain ⟨es, hes, rfl⟩ := Option.map_eq_some_iff.mp h
      rw [ih hes, List.filter_cons_of_pos (by simp [hc])]

/-- Low lines do not change what a number is. -/
theorem readFloat_of_floatText {s : String} {v : PyFloat} (h : floatText s = some v) :
    readFloat (numberChars (String.ofList (s.toList.filter (· ≠ '_')))) = some v := by
  obtain ⟨cs, hcs, hread⟩ := Option.bind_eq_some_iff.mp h
  rwa [eq_filter_of_dropLowLines hcs] at hread

/-- A repeated text is no number, or one that is more than the sum of its copies. -/
theorem floatText_repeat {s : String} {n : ℕ} {p : ℚ} (hn : 2 ≤ n)
    (hs : floatText s = some (.dec p)) : floatText (repeatText n s) = none ∨
      ∃ x, floatText (repeatText n s) = some (.dec x) ∧ (p = 0 → x = 0) ∧ (0 < p → n * p < x) := by
  cases hv : floatText (repeatText n s) with
  | none => exact Or.inl rfl
  | some v =>
    right
    have hone := readFloat_of_floatText hs
    have hmany := readFloat_of_floatText hv
    rw [repeatText, String.toList_ofList, List.filter_flatten, List.map_replicate] at hmany
    generalize s.toList.filter (· ≠ '_') = cs at hone hmany
    obtain ⟨-, c, hc, hdecimal⟩ := spelled_of_readFloat hone
    have hmem : c ∈ cs := by
      rw [numberChars_ofList] at hc
      exact (List.dropWhile_sublist _).subset ((List.rdropWhile_prefix numberSpace _).subset hc)
    obtain ⟨m, rfl⟩ : ∃ m, n = m + 2 := ⟨n - 2, by omega⟩
    have hcopies : (List.replicate (m + 2) cs).flatten =
        cs ++ ((List.replicate m cs).flatten ++ cs) := by
      rw [List.replicate_succ, List.replicate_succ']
      simp
    have hfirst : c ∈ (List.replicate (m + 2) cs).flatten := by
      rw [hcopies]
      exact List.mem_append_left _ hmem
    obtain ⟨x, rfl⟩ := dec_of_readFloat hmany
      (mem_numberChars hfirst (numberSpace_of_isDecimal hdecimal)) hdecimal
    have hall : ∀ d ∈ cs, isDecimal d := by
      rw [hcopies] at hmany
      exact decimals_of_repeat hmem hdecimal hmany
    rw [readFloat_decimals (List.ne_nil_of_mem hmem) hall] at hone
    rw [readFloat_decimals (List.ne_nil_of_mem hfirst) (by
      intro d hd
      obtain ⟨l, hl, hdl⟩ := List.mem_flatten.mp hd
      rw [List.eq_of_mem_replicate hl] at hdl
      exact hall d hdl), List.filterMap_flatten, List.map_replicate] at hmany
    cases hone
    cases hmany
    refine ⟨_, rfl, ?_, ?_⟩
    · intro hzero
      have hnat : ofDigits (cs.filterMap decimal) = 0 := by exact_mod_cast hzero
      exact_mod_cast ofDigits_repeat_zero hnat (m + 2)
    · intro hpos
      have hnat : 0 < ofDigits (cs.filterMap decimal) := by exact_mod_cast hpos
      exact_mod_cast lt_ofDigits_repeat hnat hn

/-! ## Integers -/

theorem numberChars_padded {front cs back : List Char} (hfront : ∀ c ∈ front, numberSpace c)
    (hback : ∀ c ∈ back, numberSpace c) (hcs : ∀ c ∈ cs, numberSpace c = false) (hne : cs ≠ []) :
    numberChars (String.ofList (front ++ (cs ++ back))) = cs := by
  obtain ⟨c, hc⟩ := List.exists_mem_of_ne_nil cs hne
  have hself := numberChars_eq_self hcs
  have hrear : (cs ++ back).rdropWhile numberSpace = cs.rdropWhile numberSpace := by
    unfold List.rdropWhile
    rw [List.reverse_append,
      List.dropWhile_append_of_pos fun d hd => hback d (List.mem_reverse.mp hd)]
  have hdrop : cs.dropWhile numberSpace = cs := by
    apply dropWhile_eq_self hc (hcs c hc)
    intro d hd
    exact hcs d ((List.rdropWhile_prefix numberSpace cs).subset hd)
  rw [numberChars_ofList, List.dropWhile_append_of_pos hfront,
    dropWhile_append_of_mem hc (hcs c hc), hdrop, hrear]
  rwa [numberChars_ofList, hdrop] at hself

theorem exists_padding (s : String) : ∃ front back : List Char,
    s.toList = front ++ (numberChars s ++ back) ∧ (∀ c ∈ front, numberSpace c) ∧
      ∀ c ∈ back, numberSpace c := by
  refine ⟨s.toList.takeWhile numberSpace,
    (s.toList.dropWhile numberSpace).rtakeWhile numberSpace, ?_, ?_, ?_⟩
  · rw [numberChars, List.rdropWhile_append_rtakeWhile, List.takeWhile_append_dropWhile]
  · intro c hc
    exact List.mem_takeWhile_imp hc
  · intro c hc
    exact List.mem_rtakeWhile_imp hc

theorem mapM_decimal {cs : List Char} {ds : List ℕ} (h : cs.mapM decimal = some ds) :
    (∀ c ∈ cs, isDecimal c) ∧ cs.filterMap decimal = ds := by
  induction cs generalizing ds with
  | nil => simpa using h
  | cons c cs ih =>
    rw [List.mapM_cons] at h
    obtain ⟨d, hd, hrest⟩ := Option.bind_eq_some_iff.mp h
    obtain ⟨es, hes, heq⟩ := Option.bind_eq_some_iff.mp hrest
    cases heq
    obtain ⟨hall, hfilter⟩ := ih hes
    refine ⟨?_, ?_⟩
    · rw [List.forall_mem_cons]
      exact ⟨by simp [isDecimal, hd], hall⟩
    · rw [List.filterMap_cons_some hd, hfilter]

/-- The digits that low lines part begin with a digit. -/
theorem filter_ne_nil_of_pieces {cs : List Char} (h : (cs.splitOn '_').all (· ≠ []) = true) :
    cs.filter (· ≠ '_') ≠ [] := by
  cases cs with
  | nil => exact absurd h (by decide)
  | cons c cs =>
    by_cases hc : c = '_'
    · rw [List.splitOn_cons_eq_if_modifyHead, if_pos (by simp [hc])] at h
      simp at h
    · rw [List.filter_cons_of_pos (by simp [hc])]
      exact List.cons_ne_nil _ _

theorem readSign_parts (cs : List Char) : ∃ sign : List Char, cs = sign ++ (readSign cs).2 ∧
    (∀ c ∈ sign, isSign c) ∧ ∀ ds : List Char, (∀ c ∈ ds, isDecimal c) →
      readSign (sign ++ ds) = ((readSign cs).1, ds) := by
  unfold readSign
  split
  · exact ⟨['-'], rfl, by simp [isSign], fun ds _ => rfl⟩
  · exact ⟨['+'], rfl, by simp [isSign], fun ds _ => rfl⟩
  · exact ⟨[], rfl, by simp, fun ds hds => readSign_decimals hds⟩

/-- `float` reads what `int` reads. -/
theorem readFloat_of_intText {s : String} {m : ℤ} (h : intText s = some m) :
    readFloat (numberChars (String.ofList (s.toList.filter (· ≠ '_')))) = some (.dec m) := by
  obtain ⟨ds, hds, hm⟩ := Option.bind_eq_some_iff.mp h
  obtain ⟨front, back, hs, hfront, hback⟩ := exists_padding s
  obtain ⟨sign, hsign, hsigns, hread⟩ := readSign_parts (numberChars s)
  unfold readDigits at hds
  split at hds
  · rename_i hpieces
    have hne := filter_ne_nil_of_pieces hpieces
    obtain ⟨hdecimals, hdigits⟩ := mapM_decimal hds
    have hkept : ∀ cs : List Char, (∀ c ∈ cs, c ≠ '_') → cs.filter (· ≠ '_') = cs := by
      intro cs hcs
      rw [List.filter_eq_self]
      simpa using hcs
    have hspace : ∀ c, numberSpace c = true → c ≠ '_' := by
      rintro c hc rfl
      exact absurd hc (by decide)
    have hsignKept : ∀ c ∈ sign, c ≠ '_' := by
      rintro c hc rfl
      exact absurd (hsigns _ hc) (by decide)
    have hfilter : s.toList.filter (· ≠ '_') =
        front ++ ((sign ++ (readSign (numberChars s)).2.filter (· ≠ '_')) ++ back) := by
      rw [hs, List.filter_append, List.filter_append, hkept front fun c hc => hspace c (hfront c hc),
        hkept back fun c hc => hspace c (hback c hc)]
      conv_lhs => rw [hsign, List.filter_append, hkept sign hsignKept]
    rw [hfilter, numberChars_padded hfront hback]
    · split at hm
      · cases hm
        rw [readFloat_signed (hread _ hdecimals) hne hdecimals, hdigits]
      · cases hm
    · intro c hc
      rcases List.mem_append.mp hc with hc | hc
      · exact not_numberSpace (Or.inr (Or.inr (Or.inr (hsigns c hc))))
      · exact numberSpace_of_isDecimal (hdecimals c hc)
    · intro hnil
      exact hne (List.append_eq_nil_iff.mp hnil).2
  · cases hds

theorem intText_eq_of_floatText {s : String} {m : ℤ} {p : ℚ} (hm : intText s = some m)
    (hp : floatText s = some (.dec p)) : p = m := by
  have hint := readFloat_of_intText hm
  rw [readFloat_of_floatText hp] at hint
  cases hint
  rfl

end Wms
