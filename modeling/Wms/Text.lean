import Wms.Errors

/-!
# Text and numbers

Python's `strip` and `upper` as far as the services look at their results, and
PostgreSQL's rules for storing a text in a column of limited width and a decimal in a
column of limited precision. A stored text carries the proof that it fits its column.
-/

namespace Wms

/-- The characters that Python's `str.isspace` accepts. -/
def isSpace (c : Char) : Bool :=
  c.toNat ∈ [0x09, 0x0a, 0x0b, 0x0c, 0x0d, 0x1c, 0x1d, 0x1e, 0x1f, 0x20, 0x85, 0xa0, 0x1680,
    0x2000, 0x2001, 0x2002, 0x2003, 0x2004, 0x2005, 0x2006, 0x2007, 0x2008, 0x2009, 0x200a,
    0x2028, 0x2029, 0x202f, 0x205f, 0x3000]

/-- `str.strip()`. -/
def strip (s : String) : String :=
  String.ofList ((s.toList.dropWhile isSpace).rdropWhile isSpace)

/-- The uppercase of one character. Besides the ASCII letters these are the characters
whose uppercase has only ASCII letters; other characters never become part of a word
that a service compares with, and stay as they are. -/
def upperChar (c : Char) : List Char :=
  match c.toNat with
  | 0xdf => ['S', 'S']
  | 0x131 => ['I']
  | 0x17f => ['S']
  | 0xfb00 => ['F', 'F']
  | 0xfb01 => ['F', 'I']
  | 0xfb02 => ['F', 'L']
  | 0xfb03 => ['F', 'F', 'I']
  | 0xfb04 => ['F', 'F', 'L']
  | 0xfb05 => ['S', 'T']
  | 0xfb06 => ['S', 'T']
  | _ => [c.toUpper]

/-- `str.upper()`. -/
def upper (s : String) : String :=
  String.ofList (s.toList.flatMap upperChar)

/-- `str.lower()`, for comparison with an ASCII word. -/
def lower (s : String) : String :=
  String.ofList (s.toList.map Char.toLower)

/-- SQL's `btrim`, which takes away blanks and no other white space. -/
def btrim (s : String) : String :=
  String.ofList ((s.toList.dropWhile (· = ' ')).rdropWhile (· = ' '))

/-- Python's `repr` of a text, as far as quotes and backslashes go. -/
def pyText (s : String) : String :=
  let single := Char.ofNat 39
  let double := Char.ofNat 34
  let backslash := Char.ofNat 92
  let quote := if single ∈ s.toList ∧ double ∉ s.toList then double else single
  let body := s.toList.flatMap fun c =>
    if c = backslash ∨ (c = single ∧ quote = single) then [backslash, c] else [c]
  String.ofList ([quote] ++ body ++ [quote])

/-- `_clean_text`: the stripped text, or nothing when it is blank. -/
def cleanText (value : Option String) : Option String :=
  match value with
  | none => none
  | some s => if strip s = "" then none else some (strip s)

theorem strip_length_le (s : String) : (strip s).length ≤ s.length := by
  have hdrop := (List.dropWhile_sublist isSpace (l := s.toList)).length_le
  have hrdrop := (List.rdropWhile_prefix isSpace (l := s.toList.dropWhile isSpace)).length_le
  have hlist : (strip s).length = ((s.toList.dropWhile isSpace).rdropWhile isSpace).length := by
    simp [strip]
  have hs : s.toList.length = s.length := String.length_toList
  omega

/-- Stripping twice strips no more. -/
theorem strip_strip (s : String) : strip (strip s) = strip s := by
  have hprefix := List.rdropWhile_prefix isSpace (l := s.toList.dropWhile isSpace)
  have hdrop : ((s.toList.dropWhile isSpace).rdropWhile isSpace).dropWhile isSpace =
      (s.toList.dropWhile isSpace).rdropWhile isSpace := by
    cases hl : (s.toList.dropWhile isSpace).rdropWhile isSpace with
    | nil => rfl
    | cons c cs =>
      -- the first character is the first one that is kept
      obtain ⟨rest, hrest⟩ := hprefix
      rw [hl, List.cons_append] at hrest
      have hnot := List.head_dropWhile_not isSpace (l := s.toList)
        (by rw [← hrest]; exact List.cons_ne_nil _ _)
      simp only [← hrest, List.head_cons] at hnot
      rw [List.dropWhile_cons_of_neg (by rw [hnot]; exact Bool.false_ne_true)]
  unfold strip
  rw [String.toList_ofList, hdrop, List.rdropWhile_idempotent]

/-- The text has no blanks at its ends. -/
def Stripped (cs : List Char) : Prop :=
  (∀ c ∈ cs.head?, isSpace c = false) ∧ ∀ c ∈ cs.getLast?, isSpace c = false

theorem strip_ofList {cs : List Char} (h : Stripped cs) :
    strip (String.ofList cs) = String.ofList cs := by
  have hhead : cs.dropWhile isSpace = cs := by
    cases cs with
    | nil => rfl
    | cons c cs => exact List.dropWhile_cons_of_neg (by simp [h.1 c rfl])
  have hlast : cs.rdropWhile isSpace = cs := by
    rw [List.rdropWhile_eq_self_iff]
    intro hne
    have hspace := h.2 (cs.getLast hne) (List.getLast?_eq_some_getLast hne)
    simp [hspace]
  rw [strip, String.toList_ofList, hhead, hlast]

theorem stripped_of_strip {s : String} (h : strip s = s) : Stripped s.toList := by
  have hlist : (s.toList.dropWhile isSpace).rdropWhile isSpace = s.toList := by
    have := congrArg String.toList h
    rwa [strip, String.toList_ofList] at this
  have hsuffix := List.dropWhile_suffix isSpace (l := s.toList)
  have hprefix := List.rdropWhile_prefix isSpace (l := s.toList.dropWhile isSpace)
  rw [hlist] at hprefix
  have hdrop : s.toList.dropWhile isSpace = s.toList :=
    hsuffix.eq_of_length_le hprefix.length_le
  constructor
  · intro c hc
    obtain ⟨cs, hcs⟩ := List.head?_eq_some_iff.mp hc
    rw [hcs] at hdrop
    have hnot := List.dropWhile_eq_self_iff.mp hdrop (by simp)
    simpa using hnot
  · intro c hc
    rw [hdrop] at hlist
    have hne : s.toList ≠ [] := by
      intro hnil
      rw [hnil] at hc
      cases hc
    have hnot := List.rdropWhile_eq_self_iff.mp hlist hne
    have hlast : s.toList.getLast hne = c :=
      Option.some.inj ((List.getLast?_eq_some_getLast hne).symm.trans hc)
    rw [hlast] at hnot
    simpa using hnot

/-- Before a text without blanks at its ends any visible character may stand. -/
theorem Stripped.append {c : Char} {cs v : List Char} (hc : isSpace c = false) (hv : Stripped v)
    (hne : v ≠ []) : Stripped (c :: cs ++ v) := by
  constructor
  · intro x hx
    have hxc : c = x := by simpa using hx
    rwa [← hxc]
  · intro x hx
    rw [List.getLast?_append_of_ne_nil _ hne] at hx
    exact hv.2 x hx

/-- What stands before a visible character is not reached from the end. -/
theorem rdropWhile_append_cons {xs ys : List Char} {c : Char} (hc : isSpace c = false) :
    (xs ++ c :: ys).rdropWhile isSpace = xs ++ c :: ys.rdropWhile isSpace := by
  have hreverse : (xs ++ c :: ys).reverse = ys.reverse ++ c :: xs.reverse := by simp
  unfold List.rdropWhile
  rw [hreverse, List.dropWhile_append]
  split
  · rename_i hempty
    rw [List.dropWhile_cons_of_neg (by simp [hc]), List.isEmpty_iff.mp hempty]
    simp
  · simp

/-- The blanks that a column cuts off are also cut off by stripping. -/
theorem strip_append_blanks (s : List Char) {blanks : List Char}
    (h : ∀ c ∈ blanks, isSpace c = true) :
    strip (String.ofList (s ++ blanks)) = strip (String.ofList s) := by
  have hright : ∀ l : List Char, (l ++ blanks).rdropWhile isSpace = l.rdropWhile isSpace := by
    intro l
    unfold List.rdropWhile
    rw [List.reverse_append, List.dropWhile_append_of_pos fun c hc => h c (List.mem_reverse.mp hc)]
  have hblanks : blanks.dropWhile isSpace = [] := List.dropWhile_eq_nil_iff.mpr h
  unfold strip
  rw [String.toList_ofList, String.toList_ofList, List.dropWhile_append]
  split
  · rename_i hempty
    rw [hblanks, List.isEmpty_iff.mp hempty]
  · rw [hright]

/-- A character is one of the two cases of its lowercase letter. -/
theorem eq_or_eq_of_toLower {c l u : Char} (hu : u.val + 32 = l.val) (h : c.toLower = l) :
    c = l ∨ c = u := by
  unfold Char.toLower at h
  split at h
  · right
    have hval : c.val + 32 = u.val + 32 := (congrArg Char.val h).trans hu.symm
    exact Char.ext (add_right_cancel hval)
  · exact .inl h

/-- A text that is `none` in lower case is `NONE` in upper case. -/
theorem upper_eq_of_lower_eq {s : String} (h : lower s = "none") : upper s = "NONE" := by
  have hlist : s.toList.map Char.toLower = ['n', 'o', 'n', 'e'] := by
    have htoList := congrArg String.toList h
    rwa [lower, String.toList_ofList] at htoList
  have hchar : ∀ c : Char, (c.toLower = 'n' → upperChar c = ['N']) ∧
      (c.toLower = 'o' → upperChar c = ['O']) ∧ (c.toLower = 'e' → upperChar c = ['E']) := by
    intro c
    refine ⟨fun h => ?_, fun h => ?_, fun h => ?_⟩
    · rcases eq_or_eq_of_toLower (u := 'N') (by decide) h with rfl | rfl <;> decide
    · rcases eq_or_eq_of_toLower (u := 'O') (by decide) h with rfl | rfl <;> decide
    · rcases eq_or_eq_of_toLower (u := 'E') (by decide) h with rfl | rfl <;> decide
  obtain ⟨a, b, c, d, hs⟩ : ∃ a b c d, s.toList = [a, b, c, d] := by
    have hlength := congrArg List.length hlist
    rw [List.length_map] at hlength
    exact List.length_eq_four.mp hlength
  rw [hs] at hlist
  simp only [List.map_cons, List.map_nil, List.cons.injEq, and_true] at hlist
  obtain ⟨ha, hb, hc, hd⟩ := hlist
  unfold upper
  rw [hs]
  simp only [List.flatMap_cons, List.flatMap_nil, (hchar a).1 ha, (hchar b).2.1 hb, (hchar c).1 hc,
    (hchar d).2.2 hd]
  rfl

/-- A text in a `character varying(n)` column. -/
structure Varchar (n : ℕ) where
  /-- The stored characters. -/
  text : String
  /-- They fit the column. -/
  fits : text.length ≤ n
  deriving DecidableEq

namespace Varchar

/-- A literal text. That it fits is checked by evaluation. -/
abbrev lit (s : String) {n : ℕ} (h : decide (s.length ≤ n) = true := by exact Eq.refl true) :
    Varchar n :=
  ⟨s, of_decide_eq_true h⟩

/-- Storing a text: blanks beyond the width of the column are cut off, and any other
character beyond it is an error. -/
def store (n : ℕ) (s : String) : Except Err (Varchar n) :=
  if h : s.length ≤ n then .ok ⟨s, h⟩
  else if (s.toList.drop n).all (· = ' ') then
    .ok ⟨String.ofList (s.toList.take n), by
      rw [String.length_ofList, List.length_take]
      exact Nat.min_le_left _ _⟩
  else .error (.dataError n)

/-- Storing a nullable text. -/
def store? (n : ℕ) (s : Option String) : Except Err (Option (Varchar n)) :=
  match s with
  | none => .ok none
  | some s => (store n s).map some

/-- The stripped text for a column that is at least as wide, unless it is blank. -/
def clean {m : ℕ} (n : ℕ) (v : Varchar m) (h : m ≤ n) : Option (Varchar n) :=
  if strip v.text = "" then none
  else some ⟨strip v.text, ((strip_length_le v.text).trans v.fits).trans h⟩

/-- A text that the column either keeps as it is or rejects. -/
def Verbatim (n : ℕ) (s : String) : Prop :=
  s.length ≤ n ∨ (s.toList.drop n).all (· = ' ') = false

instance (n : ℕ) (s : String) : Decidable (Verbatim n s) :=
  inferInstanceAs (Decidable (_ ∨ _))

theorem store_of_fits {n : ℕ} {s : String} (h : s.length ≤ n) : store n s = .ok ⟨s, h⟩ := by
  rw [store, dif_pos h]

/-- A verbatim text that is accepted is stored unchanged. -/
theorem Verbatim.text_of_store {n : ℕ} {s : String} {v : Varchar n} (h : Verbatim n s)
    (hv : store n s = .ok v) : v.text = s := by
  unfold store at hv
  split at hv
  · cases hv
    rfl
  · rcases h with hfits | hblank
    · contradiction
    · rw [if_neg (by rw [hblank]; exact Bool.false_ne_true)] at hv
      cases hv

/-- Whether a text can be stored is decided by the text alone. -/
theorem store_isOk_of_text {n : ℕ} (v : Varchar n) : store n v.text = .ok v :=
  store_of_fits v.fits

/-- A text that fits when there is one can be stored. -/
theorem store?_of_fits {n : ℕ} {o : Option String} (h : ∀ s ∈ o, s.length ≤ n) :
    ∃ v, store? n o = .ok v := by
  cases o with
  | none => exact ⟨none, rfl⟩
  | some s =>
    refine ⟨some ⟨s, h s rfl⟩, ?_⟩
    rw [store?, store_of_fits (h s rfl)]
    rfl

/-- A text from a narrower column fits. -/
theorem fits_of_map {m n : ℕ} (v : Option (Varchar m)) (h : m ≤ n) :
    ∀ s ∈ v.map Varchar.text, s.length ≤ n := by
  intro s hs
  obtain ⟨w, -, rfl⟩ := Option.map_eq_some_iff.mp hs
  exact w.fits.trans h

end Varchar

/-- A stored text strips to what the given one strips to. -/
theorem strip_of_store {n : ℕ} {s : String} {v : Varchar n} (h : Varchar.store n s = .ok v) :
    strip v.text = strip s := by
  unfold Varchar.store at h
  split at h
  · rw [← Except.ok.inj h]
  · split at h
    · rename_i hblanks
      have hspace : ∀ c ∈ s.toList.drop n, isSpace c = true := by
        intro c hc
        have hblank : c = ' ' := by simpa using List.all_eq_true.mp hblanks c hc
        rw [hblank]
        rfl
      rw [← Except.ok.inj h, ← strip_append_blanks _ hspace, List.take_append_drop,
        String.ofList_toList]
    · cases h

/-- A stripped text is stored as it is. -/
theorem text_of_store_strip {n : ℕ} {s : String} {v : Varchar n} (hs : strip s = s)
    (h : Varchar.store n s = .ok v) : v.text = s := by
  have hstrip : strip v.text = s := (strip_of_store h).trans hs
  have hlength := strip_length_le v.text
  rw [hstrip] at hlength
  have hfits : s.length ≤ n := hlength.trans v.fits
  exact Varchar.Verbatim.text_of_store (.inl hfits) h

/-- Fit a nonnegative decimal into a `numeric(precision, scale)` column: it is rounded to
the scale, half away from zero. -/
def numeric (precision scale : ℕ) (value : Option ℚ≥0) : Except Err (Option ℚ≥0) :=
  match value with
  | none => .ok none
  | some x =>
    let units := ⌊x * 10 ^ scale + 1 / 2⌋₊
    if units < 10 ^ precision then .ok (some (units / 10 ^ scale))
    else .error (.numericOverflow precision scale)

/-- Cleaning does not lengthen a text. -/
theorem cleanText_fits {n : ℕ} {o : Option String} (h : ∀ s ∈ o, s.length ≤ n) :
    ∀ s ∈ cleanText o, s.length ≤ n := by
  intro s hs
  unfold cleanText at hs
  split at hs
  · cases hs
  · rename_i t
    split at hs
    · cases hs
    · rw [← Option.some.inj hs]
      exact (strip_length_le t).trans (h t rfl)

example : strip " ab\u3000" = "ab" := by decide

example : (Varchar.store 3 "abc  ").toOption.map Varchar.text = some "abc" := by decide

end Wms
