import Wms.Foundation.Binary64
import Wms.Foundation.Calendar
import Wms.Foundation.Greedy
import Wms.Foundation.Table

/-!
# Allocation by expiry date

The allocator of the expiry analytics suggests from which lots a need is met: the lots are ranked
by their expiry dates, those without one last, and then by their identifiers. It computes with
floating point numbers, in which the quantities of the database are exact.
-/

namespace Wms.ExpiryAllocator

open Foundation

/-! ## The allocator -/

/-- A quantity in an `integer` column. -/
structure DbInteger where
  value : ℤ
  low : -2 ^ 31 ≤ value
  high : value < 2 ^ 31

/-- A row of `_fetch_stocks`. -/
structure StockRow where
  stockId : ℕ
  lotCode : Option String
  avail : DbInteger
  expiryDate : Option Date

/-- `Allocation`. -/
structure Allocation where
  stockId : ℕ
  lotCode : Option String
  takeQty : ℤ
  expiryDate : Option Date
  deriving DecidableEq

/-- `PLAN_EPSILON`. -/
def planEpsilon : ℚ := Binary64.round (1 / 10 ^ 6)

/-- An expiry date in the sort key. Dates are only compared where both are present. -/
def expiryKey : Option Date → WithBot Date
  | none => ⊥
  | some d => d

/-- `_sort_key`. -/
def sortKey (row : StockRow) : Bool ×ₗ WithBot Date ×ₗ ℕ :=
  toLex (row.expiryDate.isNone, toLex (expiryKey row.expiryDate, row.stockId))

/-- `_rank`. -/
def rank (rows : List StockRow) : List StockRow := orderBy sortKey rows

/-- `max(int(float(avail) + PLAN_EPSILON), 0)`. -/
def availInt (q : DbInteger) : ℤ :=
  max (Binary64.trunc (Binary64.round (Binary64.round q.value + planEpsilon))) 0

/-- `_plan`. -/
def plan : List StockRow → ℤ → List Allocation
  | [], _ => []
  | r :: rest, remain =>
    if remain ≤ 0 then []
    else if availInt r.avail ≤ 0 then plan rest remain
    else
      ⟨r.stockId, r.lotCode, min (availInt r.avail) remain, r.expiryDate⟩ ::
        plan rest (remain - min (availInt r.avail) remain)

/-! ## Quantities are exact -/

/-- What is available of a lot. -/
def StockRow.available (r : StockRow) : ℕ := r.avail.value.toNat

/-- The floating point detour changes no quantity. -/
theorem availInt_eq (q : DbInteger) : availInt q = q.value.toNat := by
  obtain ⟨n, hlow, hhigh⟩ := q
  change availInt ⟨n, hlow, hhigh⟩ = n.toNat
  have hsmall : |n| < 2 ^ 53 := by
    rw [abs_lt]
    constructor <;> omega
  -- the epsilon, up to its last digit
  have hepsilon : |planEpsilon - 1 / 10 ^ 6| ≤ 1 / 2 ^ 60 := by
    have hround := @Binary64.abs_round_sub_le (1 / 10 ^ 6) (by norm_num)
    refine hround.trans ?_
    rw [abs_of_pos (by norm_num)]
    norm_num
  obtain ⟨helow, hehigh⟩ := abs_le.mp hepsilon
  have hnlow : (-2 ^ 31 : ℚ) ≤ n := by exact_mod_cast hlow
  have hnhigh : (n : ℚ) < 2 ^ 31 := by exact_mod_cast hhigh
  have hne : (n : ℚ) + planEpsilon ≠ 0 := by
    intro hzero
    have hn : (n : ℚ) = -planEpsilon := by linarith
    have hlt : (-1 : ℚ) < n := by rw [hn]; norm_num at helow hehigh ⊢; linarith
    have hneg : (n : ℚ) < 0 := by rw [hn]; norm_num at helow hehigh ⊢; linarith
    have hlt' : (-1 : ℤ) < n := by exact_mod_cast hlt
    have hneg' : n < 0 := by exact_mod_cast hneg
    omega
  have herror := Binary64.abs_round_sub_le hne
  have habs : |(n : ℚ) + planEpsilon| ≤ 2 ^ 31 + 1 := by
    rw [abs_le]
    norm_num at helow hehigh hnlow hnhigh ⊢
    constructor <;> linarith
  obtain ⟨hrlow, hrhigh⟩ := abs_le.mp (herror.trans (div_le_div_of_nonneg_right habs (by norm_num)))
  unfold availInt
  rw [Binary64.round_intCast hsmall]
  set x := Binary64.round ((n : ℚ) + planEpsilon) with hx
  have hxlow : (n : ℚ) < x := by norm_num at helow hrlow; linarith
  have hxhigh : x < n + 1 := by norm_num at hehigh hrhigh; linarith
  have hfloor : ⌊x⌋ = n := Int.floor_eq_iff.mpr ⟨hxlow.le, hxhigh⟩
  unfold Binary64.trunc
  by_cases hn : 0 ≤ n
  · have hnonneg : 0 ≤ x := by
      have : (0 : ℚ) ≤ n := by exact_mod_cast hn
      linarith
    rw [if_pos hnonneg, hfloor]
    omega
  · have hceil : ⌈x⌉ ≤ 0 := by
      have : (n : ℚ) + 1 ≤ 0 := by exact_mod_cast (show n + 1 ≤ 0 by omega)
      exact Int.ceil_le.mpr (by push_cast; linarith)
    split <;> omega

/-! ## The ranking -/

/-- The lot comes before the other: it expires earlier, a lot without expiry date last, and on
the same day the one with the smaller identifier. -/
def Precedes (r r' : StockRow) : Prop :=
  match r.expiryDate, r'.expiryDate with
  | some d, some d' => d < d' ∨ (d = d' ∧ r.stockId < r'.stockId)
  | some _, none => True
  | none, some _ => False
  | none, none => r.stockId < r'.stockId

instance (r r' : StockRow) : Decidable (Precedes r r') := by
  unfold Precedes
  split <;> infer_instance

theorem precedes_iff {r r' : StockRow} : Precedes r r' ↔ sortKey r < sortKey r' := by
  unfold Precedes sortKey
  rw [Prod.Lex.toLex_lt_toLex, Prod.Lex.toLex_lt_toLex]
  cases hr : r.expiryDate with
  | none => cases hr' : r'.expiryDate <;> simp [expiryKey]
  | some d => cases hr' : r'.expiryDate <;> simp [expiryKey]

/-- The ranked rows are the rows, and none comes after one that it precedes. -/
theorem rank_spec (rows : List StockRow) :
    (rank rows).Perm rows ∧ (rank rows).Pairwise fun r r' => ¬Precedes r' r := by
  refine ⟨List.perm_insertionSort _ rows, ?_⟩
  have hsorted : (rank rows).Pairwise fun r r' => sortKey r ≤ sortKey r' :=
    List.pairwise_insertionSort _ rows
  refine hsorted.imp fun hle hprecedes => ?_
  exact absurd (precedes_iff.mp hprecedes) (not_lt.mpr hle)

/-! ## The plan -/

/-- The allocation of a quantity from a row. -/
def allocation (p : StockRow × ℕ) : Allocation :=
  ⟨p.1.stockId, p.1.lotCode, p.2, p.1.expiryDate⟩

/-- The plan fills the need from the rows in order, and leaves out the rows that give nothing. -/
theorem plan_eq_fill (rows : List StockRow) (need : ℕ) :
    plan rows need =
      ((rows.zip (Greedy.fill StockRow.available rows need)).filter (0 < ·.2)).map allocation := by
  induction rows generalizing need with
  | nil => rfl
  | cons r rest ih =>
    have havail : availInt r.avail = r.available := availInt_eq r.avail
    rw [Greedy.fill, List.zip_cons_cons, plan]
    by_cases hneed : need = 0
    · -- nothing is needed any more
      have hnothing : (rest.zip (Greedy.fill StockRow.available rest 0)).filter (0 < ·.2) = [] := by
        rw [List.filter_eq_nil_iff]
        intro p hp
        have hzero := Greedy.eq_zero_of_mem_fill_zero StockRow.available hp
        simp [hzero]
      simp [hneed, hnothing]
    · have hpos : ¬(need : ℤ) ≤ 0 := by omega
      rw [if_neg hpos, havail]
      by_cases hempty : r.available = 0
      · have hle : ((r.available : ℕ) : ℤ) ≤ 0 := by omega
        have htake : ¬0 < min r.available need := by omega
        rw [if_pos hle, ih, List.filter_cons_of_neg (by simpa using htake)]
        have hrest : need - min r.available need = need := by omega
        rw [hrest]
      · have hgives : ¬((r.available : ℕ) : ℤ) ≤ 0 := by omega
        have htake : 0 < min r.available need := by omega
        have hmin : min (r.available : ℤ) need = (min r.available need : ℕ) := by omega
        have hrest : (need : ℤ) - (min r.available need : ℕ) = (need - min r.available need : ℕ) := by
          omega
        rw [if_neg hgives, List.filter_cons_of_pos (by simpa using htake), List.map_cons, hmin,
          hrest, ih]
        rfl

/-- The plan takes the given quantities from the rows in their ranking: from each at most what is
available, in total as much as is needed or available, from a row only when all rows that precede
it are used up, and it lists the rows from which something is taken. -/
structure ExactPlan (rows : List StockRow) (need : ℕ) (takes : List ℕ) : Prop where
  length : takes.length = (rank rows).length
  listed : plan (rank rows) need = (((rank rows).zip takes).filter (0 < ·.2)).map allocation
  bounded : ∀ p ∈ (rank rows).zip takes, p.2 ≤ p.1.available
  total : takes.sum = min need (rows.map StockRow.available).sum
  first : ∀ p ∈ (rank rows).zip takes, ∀ q ∈ (rank rows).zip takes, Precedes p.1 q.1 → 0 < q.2 →
    p.2 = p.1.available
  positive : ∀ a ∈ plan (rank rows) need, 0 < a.takeQty

/-- Every plan is exact. -/
theorem exactPlan (rows : List StockRow) (need : ℕ) :
    ExactPlan rows need (Greedy.fill StockRow.available (rank rows) need) := by
  obtain ⟨hperm, hsorted⟩ := rank_spec rows
  have hlisted := plan_eq_fill (rank rows) need
  refine ⟨by simp, hlisted, fun p hp => ?_, ?_, fun p hp q hq hprecedes hpos => ?_, fun a ha => ?_⟩
  · exact Greedy.le_of_mem_zip_fill StockRow.available hp
  · rw [Greedy.sum_fill, (hperm.map StockRow.available).sum_eq]
  · have hused := Greedy.pairwise_zip_fill StockRow.available (rank rows) need
    have horder : ((rank rows).zip (Greedy.fill StockRow.available (rank rows) need)).Pairwise
        fun p q => ¬Precedes q.1 p.1 := by
      have hfst : ((rank rows).zip (Greedy.fill StockRow.available (rank rows) need)).map Prod.fst =
          rank rows := List.map_fst_zip (by simp)
      rw [← @List.pairwise_map _ _ Prod.fst (fun r r' => ¬Precedes r' r), hfst]
      exact hsorted
    obtain ⟨i, hi, rfl⟩ := List.mem_iff_getElem.mp hp
    obtain ⟨j, hj, rfl⟩ := List.mem_iff_getElem.mp hq
    rcases lt_trichotomy i j with hlt | heq | hgt
    · exact List.pairwise_iff_getElem.mp hused i j hi hj hlt hpos
    · subst heq
      exact absurd (precedes_iff.mp hprecedes) (lt_irrefl _)
    · exact absurd hprecedes (List.pairwise_iff_getElem.mp horder j i hj hi hgt)
  · rw [hlisted] at ha
    obtain ⟨p, hp, rfl⟩ := List.mem_map.mp ha
    have hpos : 0 < p.2 := by simpa using (List.mem_filter.mp hp).2
    exact Int.natCast_pos.mpr hpos

end Wms.ExpiryAllocator
