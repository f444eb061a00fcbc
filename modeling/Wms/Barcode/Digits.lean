import Wms.Text

/-!
# Digits of Unicode

`str.isdigit` accepts the decimal digits of every script and some other characters, such as
superscripts and digits in circles. `int` reads only the decimal digits.
-/

namespace Wms.Barcode

/-- The zeros of the decimal digits; each is followed by the digits from one to nine. -/
def decimalZeros : List ℕ :=
  [0x30, 0x660, 0x6f0, 0x7c0, 0x966, 0x9e6, 0xa66, 0xae6, 0xb66, 0xbe6, 0xc66, 0xce6, 0xd66, 0xde6,
    0xe50, 0xed0, 0xf20, 0x1040, 0x1090, 0x17e0, 0x1810, 0x1946, 0x19d0, 0x1a80, 0x1a90, 0x1b50,
    0x1bb0, 0x1c40, 0x1c50, 0xa620, 0xa8d0, 0xa900, 0xa9d0, 0xa9f0, 0xaa50, 0xabf0, 0xff10, 0x104a0,
    0x10d30, 0x11066, 0x110f0, 0x11136, 0x111d0, 0x112f0, 0x11450, 0x114d0, 0x11650, 0x116c0,
    0x11730, 0x118e0, 0x11950, 0x11c50, 0x11d50, 0x11da0, 0x11f50, 0x16a60, 0x16ac0, 0x16b50,
    0x1d7ce, 0x1d7d8, 0x1d7e2, 0x1d7ec, 0x1d7f6, 0x1e140, 0x1e2f0, 0x1e4f0, 0x1e950, 0x1fbf0]

/-- The ranges of the digits that are not decimal. -/
def otherDigits : List (ℕ × ℕ) :=
  [(0xb2, 0xb3), (0xb9, 0xb9), (0x1369, 0x1371), (0x19da, 0x19da), (0x2070, 0x2070),
    (0x2074, 0x2079), (0x2080, 0x2089), (0x2460, 0x2468), (0x2474, 0x247c), (0x2488, 0x2490),
    (0x24ea, 0x24ea), (0x24f5, 0x24fd), (0x24ff, 0x24ff), (0x2776, 0x277e), (0x2780, 0x2788),
    (0x278a, 0x2792), (0x10a40, 0x10a43), (0x10e60, 0x10e68), (0x11052, 0x1105a),
    (0x1f100, 0x1f10a)]

/-- The value of a decimal digit. -/
def decimal (c : Char) : Option ℕ :=
  (decimalZeros.find? fun start => start ≤ c.toNat ∧ c.toNat < start + 10).map (c.toNat - ·)

/-- `str.isdecimal` of one character, which is also what `\d` matches. -/
def isDecimal (c : Char) : Bool := (decimal c).isSome

/-- `str.isdigit` of one character. -/
def isDigit (c : Char) : Bool :=
  isDecimal c || otherDigits.any fun range => range.1 ≤ c.toNat ∧ c.toNat ≤ range.2

/-- `str.isdigit()`. -/
def isDigits (s : String) : Bool := s ≠ "" && s.toList.all isDigit

/-- `int(s)` of a text of digits. -/
def pyInt (s : String) : Except Err ℕ :=
  match s.toList.mapM decimal with
  | some ds => .ok (ds.foldl (fun n d => 10 * n + d) 0)
  | none => .error (.valueError ("invalid literal for int() with base 10: " ++ pyText s))

/-- `[int(c) for c in s]`. -/
def pyDigits (s : String) : Except Err (List ℕ) :=
  s.toList.mapM fun c => pyInt (String.singleton c)

/-- The decimal digit of a number. -/
def digitChar (d : Fin 10) : Char := Char.ofNat (0x30 + d)

/-- A text of decimal digits. -/
def digitText (ds : List (Fin 10)) : String := String.ofList (ds.map digitChar)

theorem decimal_digitChar (d : Fin 10) : decimal (digitChar d) = some d.val := by
  revert d
  decide

theorem isSpace_digitChar (d : Fin 10) : isSpace (digitChar d) = false := by
  revert d
  decide

theorem digitChar_ne_paren (d : Fin 10) : digitChar d ≠ '(' := by
  revert d
  decide

@[simp] theorem isDecimal_digitChar (d : Fin 10) : isDecimal (digitChar d) = true := by
  simp [isDecimal, decimal_digitChar]

@[simp] theorem isDigit_digitChar (d : Fin 10) : isDigit (digitChar d) = true := by
  simp [isDigit]

theorem pyInt_singleton (c : Char) : pyInt (String.singleton c) =
    match decimal c with
    | some d => .ok d
    | none => .error (.valueError
      ("invalid literal for int() with base 10: " ++ pyText (String.singleton c))) := by
  unfold pyInt
  rw [String.toList_singleton]
  cases h : decimal c <;> simp [h]

/-- All digits of a text are read exactly when all are decimal. -/
theorem pyDigits_ok_iff {s : String} :
    (∃ ds, pyDigits s = .ok ds) ↔ ∀ c ∈ s.toList, isDecimal c = true := by
  unfold pyDigits
  induction s.toList with
  | nil => simp [pure, Except.pure]
  | cons c cs ih =>
    rw [List.forall_mem_cons, ← ih, List.mapM_cons, pyInt_singleton]
    cases h : decimal c with
    | none => simp [isDecimal, h, bind, Except.bind]
    | some d =>
      cases hrest : cs.mapM fun c => pyInt (String.singleton c) <;>
        simp [isDecimal, h, bind, Except.bind, pure, Except.pure]

theorem pyDigits_digitText (ds : List (Fin 10)) :
    pyDigits (digitText ds) = .ok (ds.map Fin.val) := by
  unfold pyDigits digitText
  rw [String.toList_ofList]
  induction ds with
  | nil => rfl
  | cons d ds ih =>
    rw [List.map_cons, List.mapM_cons, pyInt_singleton, decimal_digitChar]
    simp only [bind, Except.bind, ih]
    rfl

theorem pyInt_digitText (ds : List (Fin 10)) :
    pyInt (digitText ds) = .ok ((ds.map Fin.val).foldl (fun n d => 10 * n + d) 0) := by
  have hread : (ds.map digitChar).mapM decimal = some (ds.map Fin.val) := by
    induction ds with
    | nil => simp
    | cons d ds ih => simp [decimal_digitChar, ih]
  unfold pyInt digitText
  rw [String.toList_ofList, hread]

theorem mem_digitText {ds : List (Fin 10)} {c : Char} (h : c ∈ (digitText ds).toList) :
    ∃ d, digitChar d = c := by
  rw [digitText, String.toList_ofList] at h
  obtain ⟨d, -, hd⟩ := List.mem_map.mp h
  exact ⟨d, hd⟩

@[simp] theorem length_digitText (ds : List (Fin 10)) : (digitText ds).length = ds.length := by
  simp [digitText]

theorem isDigits_digitText {ds : List (Fin 10)} (h : ds ≠ []) : isDigits (digitText ds) = true := by
  have hne : digitText ds ≠ "" := by
    intro hempty
    have hlength := congrArg String.length hempty
    rw [length_digitText] at hlength
    exact h (List.length_eq_zero_iff.mp hlength)
  have hall : (digitText ds).toList.all isDigit = true := by
    rw [List.all_eq_true]
    intro c hc
    obtain ⟨d, rfl⟩ := mem_digitText hc
    exact isDigit_digitChar d
  simp [isDigits, hne, hall]

/-- A superscript is a digit that `int` does not read. -/
example : isDigits "²²" = true ∧ (pyInt "²²").isOk = false := by decide

end Wms.Barcode
