import Wms.Orders.PlatformAdapters

/-!
# Amounts of platform lines

A line without an amount is given the product of the keys `goods_price` and `quantity`, while its
price and quantity come from other keys as well, and from texts. The amount is the product of
price and quantity exactly where the two keys hold numbers, or where the difference is a factor
of zero or one.
-/

namespace Wms.Orders

open PyValue

/-! ## Items -/

/-- The keys of a price. -/
inductive PriceKey
  | goodsPrice
  | price
  deriving DecidableEq

/-- The key as a payload writes it. -/
def PriceKey.name : PriceKey → String
  | goodsPrice => "goods_price"
  | price => "price"

/-- The keys of a quantity. -/
inductive QuantityKey
  | quantity
  | goodsCount
  | qty
  deriving DecidableEq

/-- The key as a payload writes it. -/
def QuantityKey.name : QuantityKey → String
  | quantity => "quantity"
  | goodsCount => "goods_count"
  | qty => "qty"

/-- A number, or a text that denotes it. -/
inductive Denotes : PyValue → ℚ → Prop
  | int (n : ℤ) : Denotes (.int n) n
  | float (q : ℚ) : Denotes (.float (.dec q)) q
  | str {s : String} {q : ℚ} (h : floatText s = some (.dec q)) : Denotes (.str s) q

/-- What a row says about its price and its quantity. -/
structure Item where
  priceKey : PriceKey
  price : PyValue
  unitPrice : ℚ
  quantityKey : QuantityKey
  quantity : PyValue
  count : ℕ
  price_denotes : Denotes price unitPrice
  unitPrice_nonneg : 0 ≤ unitPrice
  quantity_denotes : Denotes quantity count
  quantity_not_float : ∀ x, quantity ≠ .float x
  count_pos : 0 < count

/-- The row says the price and the quantity of the item, and no amount. -/
structure Carries (row : List (String × PyValue)) (item : Item) : Prop where
  amount : lookupValue row "amount" = .none
  price : ∀ key : PriceKey,
    lookupValue row key.name = if key = item.priceKey then item.price else .none
  quantity : ∀ key : QuantityKey,
    lookupValue row key.name = if key = item.quantityKey then item.quantity else .none

namespace Item

/-- The quantity of a line of the item. -/
def qty (item : Item) : ℤ := toIntPos item.quantity 1

/-- The product of the keys `goods_price` and `quantity` is the one of price and quantity, given
what these keys hold. -/
def FactorsAgree (item : Item) : PyValue → PyValue → Prop
  | .str _, .str _ => False
  | .str s, .int n => n = 1 ∨ item.unitPrice = 0 ∧ s.length * n ≤ maxSize
  | .int _, .str _ => item.unitPrice = 0 ∨ item.unitPrice = 1 ∧ item.qty = item.count
  | .float _, .str _ => item.unitPrice = 0
  | _, _ => True

/-- The amount is made from what the price and the quantity are read from. -/
def Consistent (item : Item) : Prop :=
  match item.priceKey, item.quantityKey with
  | .price, _ => item.unitPrice = 0
  | .goodsPrice, .quantity => item.FactorsAgree item.price item.quantity
  | .goodsPrice, _ => item.unitPrice = 0 ∨ item.qty = 1

end Item

/-- The amount of a line is its price times its quantity. -/
def NormalizedLine.Priced (line : NormalizedLine) : Prop :=
  line.amount = line.price.mul (.dec line.qty)

/-- The other parts of a payload can be read: names that are integers have as many digits as
`str` writes, and the address is a mapping if there is one. -/
structure Readable (repr : PyValue → Except Err String) (payload : List (String × PyValue))
    (rows : List (List (String × PyValue))) : Prop where
  storeCode : ∃ s, (storeCodeOf payload).pyStr repr = .ok s
  extOrderNo : ∃ s, (extOrderNoOf payload).pyStr repr = .ok s
  skus : ∀ row ∈ rows, ∃ s, (skuOf row).pyStr repr = .ok s
  address : ∃ entries, addressOf payload = .dict entries

/-! ## Values that denote numbers -/

theorem floatText_empty : floatText "" = Option.none := by decide +kernel

namespace Denotes

variable {v : PyValue} {q : ℚ}

theorem toFloat (h : Denotes v q) : Orders.toFloat v = .dec q := by
  cases h with
  | int n => rfl
  | float q => rfl
  | str h => simp [Orders.toFloat, PyValue.toFloat, h]

theorem eq_zero_of_falsy (h : Denotes v q) (hfalsy : v.truthy = false) : q = 0 := by
  cases h with
  | int n =>
    have hn : n = 0 := by simpa [truthy] using hfalsy
    simp [hn]
  | float q => simpa [truthy] using hfalsy
  | @str s q h =>
    have hs : s = "" := by simpa [truthy] using hfalsy
    rw [hs, floatText_empty] at h
    cases h

/-- What `v or 0` denotes. -/
theorem or_zero (h : Denotes v q) : Denotes (v.or (.int 0)) q := by
  unfold PyValue.or
  split
  · exact h
  · rename_i hfalsy
    have hq := h.eq_zero_of_falsy (by simpa using hfalsy)
    subst hq
    exact Denotes.int 0

theorem mul_one (h : Denotes v q) : ∃ w, v.mul (.int 1) = .ok w ∧ Orders.toFloat w = .dec q := by
  cases h with
  | int n => exact ⟨_, rfl, by simp [Orders.toFloat, PyValue.toFloat, real, integer]⟩
  | float q =>
    refine ⟨_, rfl, ?_⟩
    simp [Orders.toFloat, PyValue.toFloat, real, PyFloat.mul]
  | @str s q h =>
    refine ⟨.str (repeatText 1 s), rfl, ?_⟩
    simp [Orders.toFloat, PyValue.toFloat, repeatText, h]

end Denotes

/-- A product of zero or of a text repeated no times. -/
theorem toFloat_zero_mul {v : PyValue} {q : ℚ} (h : Denotes v q) (hv : ∀ x, v ≠ .float x) :
    ∃ w, (PyValue.int 0).mul v = .ok w ∧ toFloat w = .dec 0 := by
  cases h with
  | int n => exact ⟨_, rfl, by simp [toFloat, PyValue.toFloat, real, integer]⟩
  | float q => exact absurd rfl (hv _)
  | @str s q h =>
    refine ⟨.str (repeatText 0 s), rfl, ?_⟩
    simp [toFloat, PyValue.toFloat, repeatText, floatText_empty]

/-- A text that is repeated more than once denotes the sum of its copies, or less, only if it
denotes zero. -/
theorem toFloat_repeatText {s : String} {n : ℕ} {p r : ℚ} (hn : 2 ≤ n)
    (hs : floatText s = some (.dec p)) (hp : 0 ≤ p) (hr : 0 ≤ r) (hle : r ≤ n * p)
    (hzero : r = 0 → p = 0) : toFloat (.str (repeatText n s)) = .dec r ↔ p = 0 := by
  have hread : toFloat (.str (repeatText n s)) =
      (floatText (repeatText n s)).getD (.dec 0) := rfl
  rw [hread]
  rcases floatText_repeat hn hs with hnone | ⟨x, hx, hxzero, hxlt⟩
  · rw [hnone, Option.getD_none, PyFloat.dec.injEq]
    constructor
    · intro h
      exact hzero h.symm
    · rintro rfl
      rw [mul_zero] at hle
      exact (le_antisymm hle hr).symm
  · rw [hx, Option.getD_some, PyFloat.dec.injEq]
    constructor
    · rintro rfl
      by_contra hne
      have hlt := hxlt (lt_of_le_of_ne hp (Ne.symm hne))
      linarith
    · intro h
      subst h
      rw [mul_zero] at hle
      rw [hxzero rfl]
      exact (le_antisymm hle hr).symm

namespace Item

variable {item : Item}

theorem quantity_truthy (item : Item) : item.quantity.truthy = true := by
  rw [← Bool.not_eq_false]
  intro hfalsy
  have hzero := item.quantity_denotes.eq_zero_of_falsy hfalsy
  have hpos := item.count_pos
  have hcount : item.count = 0 := by exact_mod_cast hzero
  omega

/-- The quantity of a line is what the item says, or one. -/
theorem qty_cases (item : Item) : item.qty = item.count ∨ item.qty = 1 := by
  have hpos := item.count_pos
  have hfloat := item.quantity_not_float
  have hdenotes := item.quantity_denotes
  unfold qty toIntPos
  split
  · rename_i v hv
    split
    · left
      generalize item.quantity = quantity at hv hdenotes hfloat
      generalize hcount : (item.count : ℚ) = count at hdenotes
      cases hdenotes with
      | int n =>
        cases hv
        exact_mod_cast hcount.symm
      | float q => exact absurd rfl (hfloat _)
      | str h =>
        have hread := intText_eq_of_floatText hv h
        rw [← hcount] at hread
        exact_mod_cast hread.symm
    · right
      rfl
  · right
    rfl

theorem qty_pos (item : Item) : 0 < item.qty := by
  have hpos := item.count_pos
  rcases item.qty_cases with h | h <;> omega

theorem qty_le_count (item : Item) : item.qty ≤ item.count := by
  have hpos := item.count_pos
  rcases item.qty_cases with h | h <;> omega

/-- An integer is read as it is. -/
theorem qty_of_int {n : ℤ} (h : item.quantity = .int n) : item.qty = n ∧ n = item.count := by
  have hpos := item.count_pos
  have hdenotes := item.quantity_denotes
  rw [h] at hdenotes
  generalize hcount : (item.count : ℚ) = count at hdenotes
  cases hdenotes
  have hn : n = item.count := by exact_mod_cast hcount.symm
  refine ⟨?_, hn⟩
  have hread : toIntPos (.int n) 1 = if 0 < n then n else 1 := rfl
  rw [qty, h, hread, if_pos (by omega)]

/-- A product of zero is consistent only with a price of zero. -/
theorem zero_eq_iff (item : Item) : (0 : ℚ) = item.unitPrice * item.qty ↔ item.unitPrice = 0 := by
  have hpos : (item.qty : ℚ) ≠ 0 := by exact_mod_cast item.qty_pos.ne'
  rw [eq_comm, mul_eq_zero]
  exact or_iff_left hpos

/-- The price is consistent only with a quantity of one, unless it is zero. -/
theorem unitPrice_eq_iff (item : Item) :
    item.unitPrice = item.unitPrice * item.qty ↔ item.unitPrice = 0 ∨ item.qty = 1 := by
  constructor
  · intro h
    by_cases hzero : item.unitPrice = 0
    · exact Or.inl hzero
    · right
      have hone : (item.qty : ℚ) = 1 := mul_left_cancel₀ hzero (by rw [← h, mul_one])
      exact_mod_cast hone
  · rintro (h | h)
    · rw [h, zero_mul]
    · rw [h, Int.cast_one, mul_one]

end Item

/-! ## Rows -/

section Rows

variable {row : List (String × PyValue)} {item : Item}

/-- A row names what it does not say under any other key. -/
theorem or_none (v w : PyValue) (h : v = .none) : v.or w = w := by
  rw [h]
  rfl

theorem priceOf_eq (h : Carries row item) : priceOf row = .dec item.unitPrice := by
  have hgoods := h.price .goodsPrice
  have hprice := h.price .price
  have hzero := item.price_denotes.or_zero.toFloat
  unfold priceOf
  cases hkey : item.priceKey with
  | goodsPrice =>
    rw [hkey, if_pos rfl] at hgoods
    rw [hkey, if_neg (by decide)] at hprice
    change toFloat (((lookupValue row PriceKey.goodsPrice.name).or
      (lookupValue row PriceKey.price.name)).or (.int 0)) = _
    rw [hgoods, hprice]
    cases htruthy : item.price.truthy with
    | true =>
      have hor : item.price.or .none = item.price := by simp [PyValue.or, htruthy]
      rw [hor]
      exact hzero
    | false =>
      have hor : item.price.or .none = .none := by simp [PyValue.or, htruthy]
      rw [hor, or_none _ _ rfl, item.price_denotes.eq_zero_of_falsy htruthy]
      rfl
  | price =>
    rw [hkey, if_neg (by decide)] at hgoods
    rw [hkey, if_pos rfl] at hprice
    change toFloat (((lookupValue row PriceKey.goodsPrice.name).or
      (lookupValue row PriceKey.price.name)).or (.int 0)) = _
    rw [hgoods, hprice, or_none _ _ rfl]
    exact hzero

theorem qtyOf_eq (h : Carries row item) : qtyOf row = item.qty := by
  have hquantity := h.quantity .quantity
  have hgoods := h.quantity .goodsCount
  have hqty := h.quantity .qty
  have hor : ∀ w, item.quantity.or w = item.quantity := by
    intro w
    simp [PyValue.or, item.quantity_truthy]
  change toIntPos ((((lookupValue row QuantityKey.quantity.name).or
    (lookupValue row QuantityKey.goodsCount.name)).or
    (lookupValue row QuantityKey.qty.name)).or (.int 1)) 1 = _
  rw [hquantity, hgoods, hqty, Item.qty]
  cases item.quantityKey with
  | quantity => rw [if_pos rfl, hor, hor, hor]
  | goodsCount =>
    rw [if_neg (by decide), if_pos rfl, or_none _ _ rfl, hor, hor]
  | qty =>
    rw [if_neg (by decide), if_neg (by decide), if_pos rfl, or_none _ _ rfl, or_none _ _ rfl, hor]

/-- The two values whose product is the amount. -/
theorem amountOf_eq (h : Carries row item) : amountOf row = (do
    let product ← ((if item.priceKey = .goodsPrice then item.price else .none).or (.int 0)).mul
      (if item.quantityKey = .quantity then item.quantity else .int 1)
    return toFloat product) := by
  have hgoods := h.price .goodsPrice
  have hquantity := h.quantity .quantity
  have hprice : lookupValue row "goods_price" =
      if item.priceKey = .goodsPrice then item.price else .none := by
    rw [show "goods_price" = PriceKey.goodsPrice.name from rfl, hgoods]
    simp only [eq_comm]
  have hcount : (lookupValue row "quantity").or (.int 1) =
      if item.quantityKey = .quantity then item.quantity else .int 1 := by
    rw [show "quantity" = QuantityKey.quantity.name from rfl, hquantity]
    simp only [eq_comm (a := QuantityKey.quantity)]
    split
    · simp [PyValue.or, item.quantity_truthy]
    · rfl
  have hfalsy : (lookupValue row "amount").truthy = false := by
    rw [h.amount]
    rfl
  rw [amountOf, hfalsy, hprice, hcount]
  rfl

end Rows

/-! ## Products -/

/-- The product of two values is read as a number. -/
def Yields (v w : PyValue) (r : ℚ) : Prop := ∃ x, v.mul w = .ok x ∧ toFloat x = .dec r

theorem yields_iff {v w x : PyValue} {q r : ℚ} (h : v.mul w = .ok x) (hx : toFloat x = .dec q) :
    Yields v w r ↔ q = r := by
  constructor
  · rintro ⟨y, hy, hyr⟩
    rw [h] at hy
    cases hy
    rw [hx] at hyr
    cases hyr
    rfl
  · rintro rfl
    exact ⟨x, h, hx⟩

/-- A repeated text can be built, and is read as a number. -/
theorem yields_repeated {v w : PyValue} {s : String} {n : ℕ} {r : ℚ}
    (h : v.mul w = repeated (repeatStr s) (.int n)) :
    Yields v w r ↔ n ≤ maxSize ∧ (1 < n → s.length * n ≤ maxSize) ∧
      toFloat (.str (repeatText n s)) = .dec r := by
  have hproduct : v.mul w = if -maxSize - 1 ≤ (n : ℤ) ∧ (n : ℤ) ≤ maxSize then repeatStr s n
      else .error (.overflowError "cannot fit 'int' into an index-sized integer") := h
  have hlow : -maxSize - 1 ≤ (n : ℤ) := by
    unfold maxSize
    omega
  unfold Yields
  rw [hproduct]
  by_cases hn : (n : ℤ) ≤ maxSize
  · rw [if_pos ⟨hlow, hn⟩, repeatStr]
    by_cases hlong : 1 < (n : ℤ) ∧ maxSize < s.length * n
    · rw [if_pos hlong]
      constructor
      · rintro ⟨x, hx, -⟩
        cases hx
      · rintro ⟨-, hfits, -⟩
        have hlength := hfits (by exact_mod_cast hlong.1)
        omega
    · rw [if_neg hlong, Int.toNat_natCast]
      constructor
      · rintro ⟨x, hx, hxr⟩
        cases hx
        refine ⟨hn, ?_, hxr⟩
        intro hone
        by_contra hlt
        exact hlong ⟨by exact_mod_cast hone, by omega⟩
      · rintro ⟨-, -, hread⟩
        exact ⟨_, rfl, hread⟩
  · rw [if_neg fun hfits => hn hfits.2]
    constructor
    · rintro ⟨x, hx, -⟩
      cases hx
    · rintro ⟨hfits, -⟩
      exact absurd hfits hn

namespace Item

variable {item : Item}

/-- The price as a factor of the amount is a text only if the item has a text. -/
theorem yields_str_int {s : String} {n : ℤ} (hprice : item.price = .str s)
    (hquantity : item.quantity = .int n) :
    Yields (item.price.or (.int 0)) item.quantity (item.unitPrice * item.qty) ↔
      n = 1 ∨ item.unitPrice = 0 ∧ s.length * n ≤ maxSize := by
  have hdenotes := item.price_denotes
  rw [hprice] at hdenotes
  obtain hs : floatText s = some (.dec item.unitPrice) := by
    cases hdenotes
    assumption
  have htruthy : s ≠ "" := by
    rintro rfl
    rw [floatText_empty] at hs
    cases hs
  have hlength : 0 < s.length := by
    rw [Nat.pos_iff_ne_zero]
    simpa using htruthy
  obtain ⟨hqty, hcount⟩ := item.qty_of_int hquantity
  have hpos := item.count_pos
  have hor : item.price.or (.int 0) = .str s := by simp [PyValue.or, hprice, truthy, htruthy]
  rw [hor, hquantity, hqty, hcount, yields_repeated rfl]
  by_cases hone : item.count = 1
  · simp [hone, maxSize, repeatText, Orders.toFloat, PyValue.toFloat, hs]
  · have htwo : 2 ≤ item.count := by omega
    have hcast : (item.count : ℚ) ≠ 0 := by exact_mod_cast hpos.ne'
    rw [toFloat_repeatText htwo hs item.unitPrice_nonneg
      (mul_nonneg item.unitPrice_nonneg (by positivity)) (le_of_eq (by push_cast; ring))
      (fun hzero => (mul_eq_zero.mp hzero).resolve_right (by exact_mod_cast hcast))]
    have hne : (item.count : ℤ) ≠ 1 := by exact_mod_cast hone
    have hle : (item.count : ℤ) ≤ s.length * item.count := by
      have hmul : 1 * item.count ≤ s.length * item.count := Nat.mul_le_mul_right _ hlength
      rw [one_mul] at hmul
      exact_mod_cast hmul
    constructor
    · rintro ⟨-, hfits, hzero⟩
      exact Or.inr ⟨hzero, hfits (by omega)⟩
    · rintro (hone | ⟨hzero, hfits⟩)
      · exact absurd hone hne
      · exact ⟨hle.trans hfits, fun _ => hfits, hzero⟩

/-- A text as a factor of the amount is repeated as often as the price says. -/
theorem yields_int_str {n : ℤ} {s : String} (hprice : item.price = .int n)
    (hquantity : item.quantity = .str s) :
    Yields (item.price.or (.int 0)) item.quantity (item.unitPrice * item.qty) ↔
      item.unitPrice = 0 ∨ item.unitPrice = 1 ∧ item.qty = item.count := by
  have hdenotes := item.price_denotes
  have hdenotesCount := item.quantity_denotes
  rw [hprice] at hdenotes
  rw [hquantity] at hdenotesCount
  have hs : floatText s = some (.dec item.count) := by
    cases hdenotesCount
    assumption
  have hn : item.unitPrice = n := by
    generalize item.unitPrice = p at hdenotes
    cases hdenotes
    rfl
  have hnonneg := item.unitPrice_nonneg
  rw [hn] at hnonneg ⊢
  obtain ⟨m, rfl⟩ : ∃ m : ℕ, n = m := Int.eq_ofNat_of_zero_le (by exact_mod_cast hnonneg)
  have hor : item.price.or (.int 0) = .int m := by
    rw [hprice]
    by_cases hzero : m = 0
    · simp [hzero, PyValue.or, truthy]
    · simp [hzero, PyValue.or, truthy]
  have hqty := item.qty_pos
  have hle := item.qty_le_count
  rw [hor, hquantity, yields_repeated rfl]
  obtain rfl | rfl | htwo : m = 0 ∨ m = 1 ∨ 2 ≤ m := by omega
  · simp [maxSize, repeatText, Orders.toFloat, PyValue.toFloat, floatText_empty]
  · have hread : Orders.toFloat (.str (repeatText 1 s)) = .dec item.count := by
      simp [Orders.toFloat, PyValue.toFloat, repeatText, hs]
    rw [hread]
    have heq : (item.count : ℚ) = item.qty ↔ item.qty = item.count := by
      rw [eq_comm]
      exact_mod_cast Iff.rfl
    simp [maxSize, heq]
  · have hcount : (0 : ℚ) < item.count := by exact_mod_cast item.count_pos
    have hm : (m : ℚ) ≠ 0 := by
      have hpos : 0 < m := by omega
      exact_mod_cast hpos.ne'
    have hone : (m : ℚ) ≠ 1 := by
      have hne : m ≠ 1 := by omega
      exact_mod_cast hne
    have hqtyNonneg : (0 : ℚ) ≤ item.qty := by exact_mod_cast hqty.le
    have hqtyNe : (item.qty : ℚ) ≠ 0 := by exact_mod_cast hqty.ne'
    have hqtyLe : (item.qty : ℚ) ≤ item.count := by exact_mod_cast hle
    rw [Int.cast_natCast, toFloat_repeatText htwo hs hcount.le (mul_nonneg (by positivity) hqtyNonneg)
      (mul_le_mul_of_nonneg_left hqtyLe (by positivity))
      (fun hzero => absurd ((mul_eq_zero.mp hzero).resolve_left hm) hqtyNe)]
    constructor
    · rintro ⟨-, -, hzero⟩
      exact absurd hzero hcount.ne'
    · rintro (hzero | ⟨hfalse, -⟩)
      · exact absurd (by exact_mod_cast hzero) hm
      · exact absurd (by exact_mod_cast hfalse) hone

/-- A number as a factor of the amount. -/
theorem yields_number {v : PyValue} (hprice : item.price = v) (hv : ∀ s, v ≠ .str s) {n : ℤ}
    (hquantity : item.quantity = .int n) :
    Yields (item.price.or (.int 0)) item.quantity (item.unitPrice * item.qty) := by
  have hdenotes := item.price_denotes.or_zero
  have hor : ∀ s, item.price.or (.int 0) ≠ .str s := by
    intro s
    unfold PyValue.or
    split
    · rw [hprice]
      exact hv s
    · exact nofun
  obtain ⟨hqty, -⟩ := item.qty_of_int hquantity
  rw [hquantity, hqty]
  generalize item.price.or (.int 0) = factor at hdenotes hor
  generalize item.unitPrice = p at hdenotes
  cases hdenotes with
  | int m => exact ⟨_, rfl, by simp [Orders.toFloat, PyValue.toFloat, real, integer]⟩
  | float q => exact ⟨_, rfl, rfl⟩
  | @str s q h => exact absurd rfl (hor s)

/-- Nothing but an integer repeats a text. -/
theorem yields_float_str {q : ℚ} {s : String} (hprice : item.price = .float (.dec q))
    (hquantity : item.quantity = .str s) :
    Yields (item.price.or (.int 0)) item.quantity (item.unitPrice * item.qty) ↔
      item.unitPrice = 0 := by
  have hdenotes := item.price_denotes
  rw [hprice] at hdenotes
  have hq : q = item.unitPrice := by
    generalize item.unitPrice = p at hdenotes
    cases hdenotes
    rfl
  subst hq
  by_cases hzero : item.unitPrice = 0
  · have hor : item.price.or (.int 0) = .int 0 := by simp [PyValue.or, hprice, truthy, hzero]
    obtain ⟨w, hw, hread⟩ := toFloat_zero_mul item.quantity_denotes item.quantity_not_float
    rw [hor, yields_iff hw hread, item.zero_eq_iff]
  · have hor : item.price.or (.int 0) = .float (.dec item.unitPrice) := by
      simp [PyValue.or, hprice, truthy, hzero]
    rw [hor, hquantity]
    constructor
    · rintro ⟨w, hw, -⟩
      cases hw
    · intro h
      exact absurd h hzero

theorem not_yields_str_str {s t : String} (hprice : item.price = .str s)
    (hquantity : item.quantity = .str t) {r : ℚ} :
    ¬Yields (item.price.or (.int 0)) item.quantity r := by
  have htruthy : s ≠ "" := by
    rintro rfl
    have hdenotes := item.price_denotes
    rw [hprice] at hdenotes
    cases hdenotes with
    | str h =>
      rw [floatText_empty] at h
      cases h
  have hor : item.price.or (.int 0) = .str s := by simp [PyValue.or, hprice, truthy, htruthy]
  rw [hor, hquantity]
  rintro ⟨w, hw, -⟩
  cases hw

/-- Where both keys are the ones that the amount is made from, their types decide. -/
theorem yields_factors (item : Item) :
    Yields (item.price.or (.int 0)) item.quantity (item.unitPrice * item.qty) ↔
      item.FactorsAgree item.price item.quantity := by
  have hp := item.price_denotes
  have hq := item.quantity_denotes
  have hfloat := item.quantity_not_float
  cases hpv : item.price with
  | str s =>
    cases hqv : item.quantity with
    | int n => rw [← hpv, ← hqv, yields_str_int hpv hqv, hpv, hqv, FactorsAgree]
    | str t =>
      rw [← hpv, ← hqv]
      apply iff_of_false (not_yields_str_str hpv hqv)
      rw [hpv, hqv]
      exact id
    | float x => exact absurd hqv (hfloat x)
    | _ => rw [hqv] at hq; cases hq
  | int m =>
    cases hqv : item.quantity with
    | int n =>
      rw [← hpv, ← hqv]
      apply iff_of_true (yields_number hpv (fun s => nofun) hqv)
      rw [hpv, hqv]
      trivial
    | str t => rw [← hpv, ← hqv, yields_int_str hpv hqv, hpv, hqv, FactorsAgree]
    | float x => exact absurd hqv (hfloat x)
    | _ => rw [hqv] at hq; cases hq
  | float x =>
    rw [hpv] at hp
    cases hqv : item.quantity with
    | int n =>
      rw [← hpv, ← hqv]
      apply iff_of_true (yields_number hpv (fun s => nofun) hqv)
      rw [hpv, hqv]
      trivial
    | str t =>
      generalize hunit : item.unitPrice = p at hp
      cases hp
      rw [← hpv, ← hqv, ← hunit, yields_float_str hpv hqv, hpv, hqv, FactorsAgree]
    | float x => exact absurd hqv (hfloat x)
    | _ => rw [hqv] at hq; cases hq
  | _ => rw [hpv] at hp; cases hp

end Item

/-- The amount of a line is its price times its quantity exactly if the item is consistent. -/
theorem amount_iff {row : List (String × PyValue)} {item : Item} (h : Carries row item) :
    (∃ a, amountOf row = .ok a ∧ a = (priceOf row).mul (.dec (qtyOf row))) ↔ item.Consistent := by
  have hyields : (∃ a, amountOf row = .ok a ∧ a = (priceOf row).mul (.dec (qtyOf row))) ↔
      Yields ((if item.priceKey = .goodsPrice then item.price else .none).or (.int 0))
        (if item.quantityKey = .quantity then item.quantity else .int 1)
        (item.unitPrice * item.qty) := by
    rw [amountOf_eq h, priceOf_eq h, qtyOf_eq h]
    constructor
    · rintro ⟨a, ha, rfl⟩
      obtain ⟨w, hw, hread⟩ := except_bind_eq_ok.mp ha
      exact ⟨w, hw, Except.ok.inj hread⟩
    · rintro ⟨w, hw, hread⟩
      exact ⟨_, by rw [hw]; rfl, hread⟩
  rw [hyields]
  cases hprice : item.priceKey with
  | price =>
    have hzero : (if PriceKey.price = .goodsPrice then item.price else .none).or (.int 0) =
        .int 0 := rfl
    have hconsistent : item.Consistent ↔ item.unitPrice = 0 := by
      unfold Item.Consistent
      rw [hprice]
    rw [hzero, hconsistent, ← item.zero_eq_iff]
    split
    · obtain ⟨w, hw, hread⟩ := toFloat_zero_mul item.quantity_denotes item.quantity_not_float
      exact yields_iff hw hread
    · obtain ⟨w, hw, hread⟩ := toFloat_zero_mul (Denotes.int 1) (fun x => nofun)
      exact yields_iff hw hread
  | goodsPrice =>
    rw [if_pos rfl]
    cases hquantity : item.quantityKey with
    | quantity =>
      have hconsistent : item.Consistent ↔ item.FactorsAgree item.price item.quantity := by
        unfold Item.Consistent
        rw [hprice, hquantity]
      rw [if_pos rfl, hconsistent]
      exact item.yields_factors
    | _ =>
      have hconsistent : item.Consistent ↔ item.unitPrice = 0 ∨ item.qty = 1 := by
        unfold Item.Consistent
        rw [hprice, hquantity]
      obtain ⟨w, hw, hread⟩ := item.price_denotes.or_zero.mul_one
      rw [if_neg (by decide), hconsistent, ← item.unitPrice_eq_iff]
      exact yields_iff hw hread

/-! ## Payloads -/

section Payloads

variable {repr : PyValue → Except Err String} {now : PyDateTime} {adapter : Adapter}
  {payload : List (String × PyValue)} {rows : List (List (String × PyValue))}

/-- A loop succeeds with good results exactly if each of its steps does. -/
theorem exists_mapM_ok_iff {α β : Type} {f : α → Except Err β} {P : β → Prop} {as : List α} :
    (∃ bs, as.mapM f = .ok bs ∧ ∀ b ∈ bs, P b) ↔ ∀ a ∈ as, ∃ b, f a = .ok b ∧ P b := by
  induction as with
  | nil => exact iff_of_true ⟨[], rfl, by simp⟩ (by simp)
  | cons a as ih =>
    rw [List.forall_mem_cons, ← ih, List.mapM_cons]
    constructor
    · rintro ⟨bs, hbs, hall⟩
      obtain ⟨b, hb, hrest⟩ := except_bind_eq_ok.mp hbs
      obtain ⟨cs, hcs, heq⟩ := except_bind_eq_ok.mp hrest
      cases heq
      rw [List.forall_mem_cons] at hall
      exact ⟨⟨b, hb, hall.1⟩, cs, hcs, hall.2⟩
    · rintro ⟨⟨b, hb, hPb⟩, cs, hcs, hall⟩
      refine ⟨b :: cs, ?_, List.forall_mem_cons.mpr ⟨hPb, hall⟩⟩
      rw [hb, hcs]
      rfl

theorem priced_line_iff {row : List (String × PyValue)} {item : Item} (h : Carries row item) :
    (∃ line, normalizeLine repr row = .ok line ∧ line.Priced) ↔
      (∃ s, (skuOf row).pyStr repr = .ok s) ∧ item.Consistent := by
  rw [← amount_iff h]
  constructor
  · rintro ⟨line, hline, hpriced⟩
    obtain ⟨skuId, hsku, hrest⟩ := except_bind_eq_ok.mp hline
    obtain ⟨amount, hamount, heq⟩ := except_bind_eq_ok.mp hrest
    cases heq
    exact ⟨⟨skuId, hsku⟩, amount, hamount, hpriced⟩
  · rintro ⟨⟨skuId, hsku⟩, amount, hamount, hpriced⟩
    unfold normalizeLine
    rw [hsku, hamount]
    exact ⟨_, rfl, hpriced⟩

/-- A payload is normalised with good lines exactly if each of its parts can be read and each
of its rows becomes a good line. -/
theorem normalize_iff {P : NormalizedLine → Prop}
    (h : sourceItems payload = .list (rows.map PyValue.dict)) :
    (∃ order, normalize repr now adapter payload = .ok order ∧ ∀ line ∈ order.lines, P line) ↔
      (∃ s, (storeCodeOf payload).pyStr repr = .ok s) ∧
      (∃ s, (extOrderNoOf payload).pyStr repr = .ok s) ∧
      (∀ row ∈ rows, ∃ line, normalizeLine repr row = .ok line ∧ P line) ∧
      ∃ entries, addressOf payload = .dict entries := by
  have hrows : (∀ row ∈ rows, ∃ line, normalizeLine repr row = .ok line ∧ P line) ↔
      ∃ lines, (rows.map PyValue.dict).mapM
        (fun row => do normalizeLine repr (← row.mapping)) = .ok lines ∧ ∀ line ∈ lines, P line := by
    rw [exists_mapM_ok_iff, List.forall_mem_map]
    rfl
  rw [hrows]
  constructor
  · rintro ⟨order, horder, hall⟩
    obtain ⟨storeCode, hstore, horder⟩ := except_bind_eq_ok.mp horder
    obtain ⟨extOrderNo, hext, horder⟩ := except_bind_eq_ok.mp horder
    obtain ⟨elements, helements, horder⟩ := except_bind_eq_ok.mp horder
    obtain ⟨lines, hlines, horder⟩ := except_bind_eq_ok.mp horder
    obtain ⟨addr, haddr, horder⟩ := except_bind_eq_ok.mp horder
    cases horder
    rw [h] at helements
    cases helements
    refine ⟨⟨storeCode, hstore⟩, ⟨extOrderNo, hext⟩, ⟨lines, hlines, hall⟩, addr, ?_⟩
    cases haddress : addressOf payload with
    | dict entries =>
      rw [haddress] at haddr
      cases haddr
      rfl
    | _ => rw [haddress] at haddr; cases haddr
  · rintro ⟨⟨storeCode, hstore⟩, ⟨extOrderNo, hext⟩, ⟨lines, hlines, hall⟩, addr, haddr⟩
    have helements : (sourceItems payload).elements = .ok (rows.map PyValue.dict) := by
      rw [h]
      rfl
    have hmapping : (addressOf payload).mapping = .ok addr := by
      rw [haddr]
      rfl
    have hbind : ∀ {α β : Type} (a : α) (f : α → Except Err β), (Except.ok a >>= f) = f a :=
      fun _ _ => rfl
    simp only [normalize, hstore, hext, helements, hmapping, hbind, hlines]
    exact ⟨_, rfl, hall⟩

/-- A payload whose rows carry items becomes an order whose amounts are the products of price
and quantity exactly if its items are consistent and its other parts can be read. -/
theorem line_amounts_iff {items : List Item}
    (hrows : sourceItems payload = .list (rows.map PyValue.dict))
    (hitems : List.Forall₂ Carries rows items) :
    (∃ order, normalize repr now adapter payload = .ok order ∧
      ∀ line ∈ order.lines, line.Priced) ↔
        Readable repr payload rows ∧ ∀ item ∈ items, item.Consistent := by
  have hlines : (∀ row ∈ rows, ∃ line, normalizeLine repr row = .ok line ∧ line.Priced) ↔
      (∀ row ∈ rows, ∃ s, (skuOf row).pyStr repr = .ok s) ∧ ∀ item ∈ items, item.Consistent := by
    clear hrows
    induction hitems with
    | nil => simp
    | cons hcarries _ ih =>
      rw [List.forall_mem_cons, List.forall_mem_cons, List.forall_mem_cons, ih,
        priced_line_iff hcarries]
      tauto
  rw [normalize_iff hrows, hlines]
  constructor
  · rintro ⟨hstore, hext, ⟨hskus, hconsistent⟩, haddress⟩
    exact ⟨⟨hstore, hext, hskus, haddress⟩, hconsistent⟩
  · rintro ⟨⟨hstore, hext, hskus, haddress⟩, hconsistent⟩
    exact ⟨hstore, hext, ⟨hskus, hconsistent⟩, haddress⟩

end Payloads

/-- A price of nine, written as a value, and a quantity of two. -/
def nineTimesTwo (price : PyValue) (h : Denotes price 9) : Item where
  priceKey := .goodsPrice
  price
  unitPrice := 9
  quantityKey := .quantity
  quantity := .int 2
  count := 2
  price_denotes := h
  unitPrice_nonneg := by norm_num
  quantity_denotes := Denotes.int 2
  quantity_not_float _ := nofun
  count_pos := by norm_num

/-- The row of the item. -/
def nineTimesTwoRow (price : PyValue) : List (String × PyValue) :=
  [("goods_price", price), ("quantity", .int 2)]

theorem carries_nineTimesTwo (price : PyValue) (h : Denotes price 9) :
    Carries (nineTimesTwoRow price) (nineTimesTwo price h) where
  amount := rfl
  price key := by cases key <;> rfl
  quantity key := by cases key <;> rfl

/-- Two numbers are multiplied. -/
theorem line_amounts_iff_numbers :
    (∃ order, normalize (fun _ => .ok "") ⟨0, some 0⟩ .pdd
        [("items", .list [.dict (nineTimesTwoRow (.int 9))])] = .ok order ∧
      ∀ line ∈ order.lines, line.Priced) ↔
    Readable (fun _ => .ok "") [("items", .list [.dict (nineTimesTwoRow (.int 9))])]
        [nineTimesTwoRow (.int 9)] ∧
      ∀ item ∈ [nineTimesTwo (.int 9) (Denotes.int 9)], item.Consistent :=
  line_amounts_iff rfl
    (List.Forall₂.cons (carries_nineTimesTwo (.int 9) (Denotes.int 9)) List.Forall₂.nil)

/-- A price of `"9"` and a quantity of two have the amount of `"99"`. -/
theorem not_line_amounts : ¬∀ (repr : PyValue → Except Err String) (now : PyDateTime)
    (adapter : Adapter) (payload : List (String × PyValue))
    (rows : List (List (String × PyValue))) (items : List Item),
    sourceItems payload = .list (rows.map PyValue.dict) → List.Forall₂ Carries rows items →
      ∃ order, normalize repr now adapter payload = .ok order ∧
        ∀ line ∈ order.lines, line.Priced := by
  intro h
  have hnine : Denotes (.str "9") 9 := Denotes.str (by decide +kernel)
  have hcarries := carries_nineTimesTwo (.str "9") hnine
  have hrows : sourceItems [("items", .list [.dict (nineTimesTwoRow (.str "9"))])] =
      .list ([nineTimesTwoRow (.str "9")].map PyValue.dict) := rfl
  have horder := h (fun _ => .ok "") ⟨0, some 0⟩ .pdd _ _ _ hrows
    (List.Forall₂.cons hcarries List.Forall₂.nil)
  obtain ⟨-, -, hlines, -⟩ := (normalize_iff hrows).mp horder
  obtain ⟨-, hconsistent⟩ := (priced_line_iff hcarries).mp (hlines _ List.mem_cons_self)
  obtain hone | ⟨hzero, -⟩ : (2 : ℤ) = 1 ∨ (9 : ℚ) = 0 ∧ _ := hconsistent
  · cases hone
  · norm_num at hzero

end Wms.Orders
