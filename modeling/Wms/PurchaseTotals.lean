import Wms.Foundation.Transaction
import Wms.Procurement.PurchaseTables

/-!
# Totals of purchase orders

The total of an order is the sum of prices times quantities as the request has them, in Python's
decimals, while a line stores its price in hundredths. The amounts of the completions are made
from the stored prices. Total and lines agree exactly if what the prices lose by being stored
adds up to less than half of a hundredth.
-/

namespace Wms.Procurement

open Foundation Finance

/-! ## Sums in decimals -/

/-- A total to which a price times a quantity is added. -/
def addPurchase (total : ℚ) (p : ℚ × ℤ) : Option ℚ :=
  (decimalContext.finish (p.1 * p.2)).bind fun amount => decimalContext.finish (total + amount)

/-- What a price loses by being stored, times its quantity, is the difference between these
sums, in hundredths. -/
def roundingLoss (purchases : List (ℚ × ℤ)) : Option ℚ :=
  (purchases.foldlM addPurchase 0).map fun total =>
    total * 100 - (purchases.map fun p => (toCents p.1 * p.2 : ℚ)).sum

/-- The ratio of the unit of a line. -/
def ratioOf (reads : PurchasingReads) (raw : LineIn) : ℤ :=
  match resolveUom reads raw with
  | .ok (_, ratio, _) => ratio
  | .error _ => 0

/-- The price of a line of a request and its quantity in base units. -/
def purchaseOf (reads : PurchasingReads) (raw : LineIn) : ℚ × ℤ :=
  ((raw.supplyPrice.map PriceIn.value).getD 0, raw.qtyInput * ratioOf reads raw)

/-- The prices of the lines lose less than half of a hundredth in all. -/
def LosesLittle (reads : PurchasingReads) (lines : List LineIn) : Prop :=
  ∀ loss ∈ roundingLoss (lines.map (purchaseOf reads)), -1 / 2 ≤ loss ∧ loss < 1 / 2

/-- The total of an order is the sum over its lines, and the sum over their completions. -/
def TotalsAgree (s : PurchaseTables) (poId : ℕ) : Prop :=
  ∃ po total, s.findOrder poId = some po ∧ po.totalAmount = some total ∧
    total.cents = ((s.linesOf poId).map PurchaseOrderLine.amount).sum ∧
    total.cents = ((s.completionsOf poId).map fun c => c.plannedLineAmount.cents).sum

/-! ## Normalised lines -/

/-- The price and the quantity of a line. -/
def NormLine.purchase (line : NormLine) : ℚ × ℤ := (line.supplyPrice.getD 0, line.qtyBase)

theorem finish_zero : decimalContext.finish 0 = some 0 := by
  have hzero : Int.log 10 |(0 : ℚ)| = 0 := by simp
  rw [DecimalContext.finish, DecimalContext.round_zero, hzero, if_pos (by decide)]

theorem decimal_eq_ok {x y : ℚ} : decimal x = .ok y ↔ decimalContext.finish x = some y := by
  unfold decimal
  cases decimalContext.finish x with
  | none => exact ⟨nofun, nofun⟩
  | some z => exact ⟨fun h => by cases h; rfl, fun h => by cases h; rfl⟩

theorem addLineTotal_eq_ok {total t : ℚ} {line : NormLine} :
    addLineTotal total line = .ok t ↔ addPurchase total line.purchase = some t := by
  unfold addLineTotal addPurchase NormLine.purchase
  cases hprice : line.supplyPrice with
  | none =>
    have hnothing : decimalContext.finish (0 * (line.qtyBase : ℚ)) = some 0 := by
      rw [zero_mul, finish_zero]
    rw [Option.getD_none, hnothing, Option.bind_some]
    exact decimal_eq_ok
  | some price =>
    rw [Option.getD_some, Option.bind_eq_some_iff]
    dsimp only
    rw [except_bind_eq_ok]
    simp only [decimal_eq_ok]

theorem normalizeLine_ok {reads : PurchasingReads} {sid : ℕ} {items : ℕ → Option SuppliedItem}
    {lineNo : ℤ} {raw : LineIn} {line : NormLine}
    (h : normalizeLine reads sid items lineNo raw = .ok line) :
    line.purchase = purchaseOf reads raw ∧ line.lineNo = lineNo := by
  unfold normalizeLine at h
  split at h
  · cases h
  · split at h
    · cases h
    · obtain ⟨⟨uomId, ratio, uomName⟩, huom, h⟩ := except_bind_eq_ok.mp h
      dsimp only at h
      split at h
      · cases h
      · cases h
        simp [NormLine.purchase, purchaseOf, ratioOf, huom]

section NormalizeLines

variable {reads : PurchasingReads} {sid : ℕ} {items : ℕ → Option SuppliedItem}
  {number : ℕ → List ℤ → LineIn → Except Err ℤ}

/-- The loop keeps price and quantity of each line, and sums them up. -/
theorem normalizeLines_ok {idx : ℕ} {seen : List ℤ} {total total' : ℚ} {raws : List LineIn}
    {lines : List NormLine}
    (h : normalizeLines reads sid items number idx seen total raws = .ok (total', lines)) :
    lines.map NormLine.purchase = raws.map (purchaseOf reads) ∧
      (raws.map (purchaseOf reads)).foldlM addPurchase total = some total' := by
  induction raws generalizing idx seen total lines with
  | nil =>
    cases h
    exact ⟨rfl, rfl⟩
  | cons raw raws ih =>
    obtain ⟨lineNo, -, h⟩ := except_bind_eq_ok.mp h
    obtain ⟨line, hline, h⟩ := except_bind_eq_ok.mp h
    obtain ⟨t, ht, h⟩ := except_bind_eq_ok.mp h
    obtain ⟨⟨t', rest⟩, hrest, h⟩ := except_bind_eq_ok.mp h
    cases h
    obtain ⟨hpurchases, htotal⟩ := ih hrest
    have hpurchase := (normalizeLine_ok hline).1
    rw [addLineTotal_eq_ok, hpurchase] at ht
    constructor
    · rw [List.map_cons, List.map_cons, hpurchases, hpurchase]
    · rw [List.map_cons, List.foldlM_cons, ht]
      exact htotal

end NormalizeLines

theorem normalizePayload_ok {reads : PurchasingReads} {service : String}
    {number : ℕ → List ℤ → LineIn → Except Err ℤ} {payload : OrderIn} {norm : NormOrder}
    (h : normalizePayload reads service number payload = .ok norm) :
    norm.lines.map NormLine.purchase = payload.lines.map (purchaseOf reads) ∧
      (payload.lines.map (purchaseOf reads)).foldlM addPurchase 0 = some norm.totalAmount := by
  unfold normalizePayload at h
  split at h
  · cases h
  · split at h
    · cases h
    · obtain ⟨⟨supplierId, supplierName⟩, -, h⟩ := except_bind_eq_ok.mp h
      obtain ⟨items, -, h⟩ := except_bind_eq_ok.mp h
      obtain ⟨⟨total, lines⟩, hlines, h⟩ := except_bind_eq_ok.mp h
      cases h
      exact normalizeLines_ok hlines

/-! ## Stored lines -/

theorem cents_of_store {precision : ℕ} {cents : ℤ} {stored : Numeric precision}
    (h : Numeric.store precision cents = .ok stored) : stored.cents = cents := by
  unfold Numeric.store at h
  split at h
  · cases h
    rfl
  · cases h

theorem toCents_zero : toCents 0 = 0 := by
  rw [toCents, Int.floor_eq_zero_iff]
  norm_num

/-- A stored row has the quantity of the line and its rounded price. -/
theorem NormLine.row_ok {line : NormLine} {id poId : ℕ} {row : PurchaseOrderLine}
    (h : line.row id poId = .ok row) : row.id = id ∧ row.poId = poId ∧
      row.amount = toCents line.purchase.1 * line.purchase.2 := by
  obtain ⟨-, -, h⟩ := except_bind_eq_ok.mp h
  obtain ⟨itemName, -, h⟩ := except_bind_eq_ok.mp h
  obtain ⟨itemSku, -, h⟩ := except_bind_eq_ok.mp h
  obtain ⟨specText, -, h⟩ := except_bind_eq_ok.mp h
  obtain ⟨uomName, -, h⟩ := except_bind_eq_ok.mp h
  obtain ⟨supplyPrice, hprice, h⟩ := except_bind_eq_ok.mp h
  obtain ⟨remark, -, h⟩ := except_bind_eq_ok.mp h
  split at h
  · cases h
    refine ⟨rfl, rfl, ?_⟩
    unfold PurchaseOrderLine.amount NormLine.purchase
    cases hsupply : line.supplyPrice with
    | none =>
      rw [hsupply] at hprice
      cases hprice
      simp [centsOf, toCents_zero]
    | some price =>
      rw [hsupply] at hprice
      obtain ⟨stored, hstored, hprice⟩ := except_bind_eq_ok.mp hprice
      cases hprice
      simp only [centsOf, Option.map_some, Option.getD_some, cents_of_store hstored]
  · cases h

theorem insertLine_ok {s s' : PurchaseTables} {l : PurchaseOrderLine}
    (h : s.insertLine l = .ok s') : s'.lines.rows = s.lines.rows ++ [l] ∧ s'.orders = s.orders ∧
      s'.completions = s.completions := by
  unfold PurchaseTables.insertLine at h
  split at h
  · cases h
  · rename_i lines hlines
    split at h
    · cases h
      exact ⟨(Table.insert_eq_some.mp hlines).2, rfl, rfl⟩
    · cases h

/-- Lines are stored behind the others, each with its price rounded. -/
theorem insertLines_run_ok {poId : ℕ} {lines : List NormLine} {s s' : PurchaseTables} {u : Unit}
    (h : (lines.forM (insertPurchaseOrderLine poId)).run s = .ok (u, s')) :
    s'.orders = s.orders ∧ s'.completions = s.completions ∧ ∃ rows : List PurchaseOrderLine,
      s'.lines.rows = s.lines.rows ++ rows ∧ (∀ l ∈ rows, l.poId = poId) ∧
      rows.map PurchaseOrderLine.amount =
        lines.map fun line => toCents line.purchase.1 * line.purchase.2 := by
  induction lines generalizing s with
  | nil =>
    obtain ⟨-, rfl⟩ := Tx.run_forM_nil_ok.mp h
    exact ⟨rfl, rfl, [], by simp, by simp, rfl⟩
  | cons line lines ih =>
    obtain ⟨t, hline, hrest⟩ := Tx.run_forM_cons_ok.mp h
    obtain ⟨s₁, t₁, hget, hline⟩ := Tx.run_bind_ok.mp hline
    obtain ⟨rfl, rfl⟩ := Tx.run_get_ok.mp hget
    obtain ⟨row, t₂, hrow, hline⟩ := Tx.run_bind_ok.mp hline
    obtain ⟨hstored, rfl⟩ := Tx.run_ofExcept_ok.mp hrow
    obtain ⟨s₂, t₃, hinsert, hline⟩ := Tx.run_bind_ok.mp hline
    obtain ⟨hinserted, rfl⟩ := Tx.run_ofExcept_ok.mp hinsert
    obtain rfl := Tx.run_set_ok.mp hline
    obtain ⟨hrows, horders, hcompletions⟩ := insertLine_ok hinserted
    obtain ⟨-, hpo, hamount⟩ := NormLine.row_ok hstored
    obtain ⟨horders', hcompletions', rows, hrows', hpos, hamounts⟩ := ih hrest
    refine ⟨horders'.trans horders, hcompletions'.trans hcompletions, row :: rows, ?_, ?_, ?_⟩
    · rw [hrows', hrows]
      simp
    · rw [List.forall_mem_cons]
      exact ⟨hpo, hpos⟩
    · rw [List.map_cons, List.map_cons, hamounts, hamount]

/-! ## Completions -/

theorem completionRow_ok {po : PurchaseOrder} {l : PurchaseOrderLine} {c : Completion}
    (h : completionRow po l = .ok c) : c.poLineId = l.id ∧ c.poId = po.id ∧
      c.plannedLineAmount.cents = l.amount := by
  obtain ⟨planned, hplanned, h⟩ := except_bind_eq_ok.mp h
  split at h
  · split at h
    · cases h
      exact ⟨rfl, rfl, cents_of_store hplanned⟩
    · cases h
  · cases h

theorem putCompletion_ok {s s' : PurchaseTables} {c : Completion}
    (h : s.putCompletion c = .ok s') : Mirror.put s.completions c = some s'.completions ∧
      s'.orders = s.orders ∧ s'.lines = s.lines := by
  unfold PurchaseTables.putCompletion at h
  split at h
  · cases h
  · rename_i completions hput
    split at h
    · cases h
      exact ⟨hput, rfl, rfl⟩
    · cases h

/-- A completion whose line has none is stored behind the others. -/
theorem upsertCompletion_new {s s' : PurchaseTables} {c : Completion}
    (hnew : ∀ old ∈ s.completions.rows, old.poLineId ≠ c.poLineId)
    (h : upsertCompletion s c = .ok s') : s'.completions.rows = s.completions.rows ++ [c] ∧
      s'.orders = s.orders ∧ s'.lines = s.lines := by
  have hnone : s.completions.rows.find? (fun old => old.poLineId = c.poLineId) = none := by
    rw [List.find?_eq_none]
    intro old hold
    simp [hnew old hold]
  unfold upsertCompletion at h
  rw [hnone] at h
  obtain ⟨hput, horders, hlines⟩ := putCompletion_ok h
  refine ⟨?_, horders, hlines⟩
  unfold Mirror.put at hput
  split at hput
  · rw [← Option.some.inj hput]
    rfl
  · cases hput

/-- The loop over the lines of an order. -/
theorem upsertRows_run_ok {po : PurchaseOrder} {ls : List PurchaseOrderLine}
    {s s' : PurchaseTables} {u : Unit} (hids : (ls.map PurchaseOrderLine.id).Nodup)
    (hnew : ∀ l ∈ ls, ∀ old ∈ s.completions.rows, old.poLineId ≠ l.id)
    (h : (ls.forM fun l => do
      let c ← Tx.ofExcept (completionRow po l)
      let s ← get
      set (← Tx.ofExcept (upsertCompletion s c)) : Tx PurchaseTables Err Unit).run s =
        .ok (u, s')) :
    s'.orders = s.orders ∧ s'.lines = s.lines ∧ ∃ rows : List Completion,
      s'.completions.rows = s.completions.rows ++ rows ∧ (∀ c ∈ rows, c.poId = po.id) ∧
      rows.map (fun c => c.plannedLineAmount.cents) = ls.map PurchaseOrderLine.amount := by
  induction ls generalizing s with
  | nil =>
    obtain rfl := Tx.run_forM_nil_ok.mp h
    exact ⟨rfl, rfl, [], by simp, by simp, rfl⟩
  | cons l ls ih =>
    obtain ⟨t, hline, hrest⟩ := Tx.run_forM_cons_ok.mp h
    obtain ⟨c, t₁, hrow, hline⟩ := Tx.run_bind_ok.mp hline
    obtain ⟨hstored, rfl⟩ := Tx.run_ofExcept_ok.mp hrow
    obtain ⟨s₁, t₂, hget, hline⟩ := Tx.run_bind_ok.mp hline
    obtain ⟨rfl, rfl⟩ := Tx.run_get_ok.mp hget
    obtain ⟨s₂, t₃, hupsert, hline⟩ := Tx.run_bind_ok.mp hline
    obtain ⟨hupserted, rfl⟩ := Tx.run_ofExcept_ok.mp hupsert
    obtain rfl := Tx.run_set_ok.mp hline
    obtain ⟨hlineId, hpoId, hamount⟩ := completionRow_ok hstored
    rw [List.map_cons, List.nodup_cons] at hids
    have hfirst := hnew l List.mem_cons_self
    rw [← hlineId] at hfirst
    obtain ⟨hrows, horders, hlines⟩ := upsertCompletion_new hfirst hupserted
    have hnew' : ∀ a ∈ ls, ∀ old ∈ s₂.completions.rows, old.poLineId ≠ a.id := by
      intro a ha old hold
      rw [hrows, List.mem_append, List.mem_singleton] at hold
      rcases hold with hold | rfl
      · exact hnew a (List.mem_cons_of_mem l ha) old hold
      · intro heq
        apply hids.1
        rw [← hlineId, heq]
        exact List.mem_map_of_mem ha
    obtain ⟨horders', hlines', rows, hrows', hpos, hamounts⟩ := ih hids.2 hnew' hrest
    refine ⟨horders'.trans horders, hlines'.trans hlines, c :: rows, ?_, ?_, ?_⟩
    · rw [hrows', hrows]
      simp
    · rw [List.forall_mem_cons]
      exact ⟨hpoId, hpos⟩
    · rw [List.map_cons, List.map_cons, hamounts, hamount]

/-! ## Writing an order -/

theorem findOrder_eq_some {s : PurchaseTables} {po : PurchaseOrder} (h : po ∈ s.orders.rows) :
    s.findOrder po.id = some po :=
  s.orders.find?_eq_some h (by simp) fun _ ha => .inl (of_decide_eq_true ha)

/-- An order is stored as a request has it: its total, its lines and their completions. -/
structure Written (s : PurchaseTables) (poId : ℕ) (norm : NormOrder) : Prop where
  order : ∃ po total, s.findOrder poId = some po ∧ po.totalAmount = some total ∧
    total.cents = toCents norm.totalAmount
  lines : (s.linesOf poId).map PurchaseOrderLine.amount =
    norm.lines.map fun line => toCents line.purchase.1 * line.purchase.2
  completions : (s.completionsOf poId).map (fun c => c.plannedLineAmount.cents) =
    norm.lines.map fun line => toCents line.purchase.1 * line.purchase.2

/-- What is left to do once an order is stored without lines and completions: its lines are
stored, and then their completions. -/
theorem order_written {s₀ s₁ s₃ : PurchaseTables} (s₂ : PurchaseTables) (po : PurchaseOrder)
    {norm : NormOrder} {total : Numeric 14} {u v : Unit} (hpo : po ∈ s₀.orders.rows)
    (htotal : po.totalAmount = some total) (hcents : total.cents = toCents norm.totalAmount)
    (hlines : ∀ l ∈ s₀.lines.rows, l.poId ≠ po.id)
    (hinsert : (norm.lines.forM (insertPurchaseOrderLine po.id)).run s₀ = .ok (u, s₁))
    (horders : s₂.orders = s₁.orders) (hsame : s₂.lines = s₁.lines)
    (hkept : ∀ c ∈ s₂.completions.rows, c ∈ s₁.completions.rows ∧ c.poId ≠ po.id)
    (hupsert : (upsertCompletionRowsForPo po.id).run s₂ = .ok (v, s₃)) :
    Written s₃ po.id norm := by
  obtain ⟨horders₁, hcompletions₁, rows, hrows, hpos, hamounts⟩ := insertLines_run_ok hinsert
  have hmem : po ∈ s₂.orders.rows := by
    rw [horders, horders₁]
    exact hpo
  have hlinesOf : s₂.linesOf po.id = rows := by
    unfold PurchaseTables.linesOf
    rw [hsame, hrows, List.filter_append, List.filter_eq_nil_iff.mpr, List.nil_append,
      List.filter_eq_self]
    · intro l hl
      exact decide_eq_true (hpos l hl)
    · intro l hl
      simp [hlines l hl]
  have hpairs := s₁.lines.unique
  rw [hrows] at hpairs
  obtain ⟨-, hrowsPairs, hcross⟩ := List.pairwise_append.mp hpairs
  obtain ⟨t, t', hget, hupsert⟩ := Tx.run_bind_ok.mp hupsert
  obtain ⟨rfl, rfl⟩ := Tx.run_get_ok.mp hget
  rw [findOrder_eq_some hmem] at hupsert
  dsimp only at hupsert
  rw [hlinesOf] at hupsert
  obtain ⟨horders₃, hlines₃, cs, hcs, hcsPo, hcsAmounts⟩ := upsertRows_run_ok
    (List.pairwise_map.mpr (hrowsPairs.imp fun hclash heq => hclash (.inl heq)))
    (by
      intro l hl old hold heq
      obtain ⟨hold, -⟩ := hkept old hold
      rw [hcompletions₁] at hold
      obtain ⟨⟨a, ha, hid⟩, -⟩ := s₀.completions_fk old hold
      exact hcross a ha l hl (.inl (hid.trans heq))) hupsert
  refine ⟨⟨po, total, ?_, htotal, hcents⟩, ?_, ?_⟩
  · apply findOrder_eq_some
    rw [horders₃]
    exact hmem
  · have hlinesOf₃ : s₃.linesOf po.id = s₂.linesOf po.id := by
      unfold PurchaseTables.linesOf
      rw [hlines₃]
    rw [hlinesOf₃, hlinesOf, hamounts]
  · unfold PurchaseTables.completionsOf
    rw [hcs, List.filter_append, List.filter_eq_nil_iff.mpr, List.nil_append,
      List.filter_eq_self.mpr, hcsAmounts, hamounts]
    · intro c hc
      exact decide_eq_true (hcsPo c hc)
    · intro c hc
      simp [(hkept c hc).2]

theorem insertOrder_ok {s s' : PurchaseTables} {po : PurchaseOrder}
    (h : s.insertOrder po = .ok s') : s'.orders.rows = s.orders.rows ++ [po] ∧
      s'.lines = s.lines ∧ s'.completions = s.completions ∧ ∀ a ∈ s.orders.rows, a.id ≠ po.id := by
  unfold PurchaseTables.insertOrder at h
  split at h
  · cases h
  · rename_i orders hinsert
    cases h
    obtain ⟨hnew, hrows⟩ := Table.insert_eq_some.mp hinsert
    exact ⟨hrows, rfl, rfl, fun a ha heq => hnew a ha (.inl heq)⟩

/-- The stored total is the rounded one. -/
theorem head_ok {norm : NormOrder} {payload : OrderIn} {head : StoredHead}
    (h : norm.head payload = .ok head) : head.totalAmount.cents = toCents norm.totalAmount := by
  obtain ⟨-, -, h⟩ := except_bind_eq_ok.mp h
  obtain ⟨supplierName, -, h⟩ := except_bind_eq_ok.mp h
  obtain ⟨purchaser, -, h⟩ := except_bind_eq_ok.mp h
  obtain ⟨total, htotal, h⟩ := except_bind_eq_ok.mp h
  obtain ⟨remark, -, h⟩ := except_bind_eq_ok.mp h
  cases h
  exact cents_of_store htotal

/-- Rounding a total gives a sum of hundredths exactly if the difference is small. -/
theorem toCents_eq_iff {x : ℚ} {n : ℤ} :
    toCents x = n ↔ -1 / 2 ≤ x * 100 - n ∧ x * 100 - n < 1 / 2 := by
  rw [toCents, Int.floor_eq_iff]
  constructor
  · rintro ⟨hlow, hhigh⟩
    constructor <;> linarith
  · rintro ⟨hlow, hhigh⟩
    constructor <;> linarith

theorem cast_amounts (purchases : List (ℚ × ℤ)) :
    ((purchases.map fun p => toCents p.1 * p.2).sum : ℚ) =
      (purchases.map fun p => (toCents p.1 * p.2 : ℚ)).sum := by
  induction purchases with
  | nil => simp
  | cons p ps ih =>
    rw [List.map_cons, List.map_cons, List.sum_cons, List.sum_cons, ← ih]
    push_cast
    rfl

/-- The columns of a written order agree exactly if the prices lose little. -/
theorem Written.totalsAgree_iff {s : PurchaseTables} {poId : ℕ} {norm : NormOrder}
    {reads : PurchasingReads} {raws : List LineIn} (h : Written s poId norm)
    (hpurchases : norm.lines.map NormLine.purchase = raws.map (purchaseOf reads))
    (hsum : (raws.map (purchaseOf reads)).foldlM addPurchase 0 = some norm.totalAmount) :
    TotalsAgree s poId ↔ LosesLittle reads raws := by
  obtain ⟨po, total, hfind, htotal, hcents⟩ := h.order
  have hmap : (norm.lines.map fun line => toCents line.purchase.1 * line.purchase.2) =
      (raws.map (purchaseOf reads)).map fun p => toCents p.1 * p.2 := by
    rw [← hpurchases, List.map_map]
    rfl
  have hagree : TotalsAgree s poId ↔ toCents norm.totalAmount =
      ((raws.map (purchaseOf reads)).map fun p => toCents p.1 * p.2).sum := by
    unfold TotalsAgree
    rw [h.lines, h.completions, hmap, ← hcents]
    constructor
    · rintro ⟨po', total', hfind', htotal', heq, -⟩
      rw [hfind] at hfind'
      cases hfind'
      rw [htotal] at htotal'
      cases htotal'
      exact heq
    · intro heq
      exact ⟨po, total, hfind, htotal, heq, heq⟩
  rw [hagree, toCents_eq_iff, cast_amounts, LosesLittle, roundingLoss, hsum]
  simp

/-! ## Requests -/

/-- A request that writes an order. -/
inductive PurchaseWrite
  | create (payload : OrderIn)
  | update (poId : ℕ) (payload : OrderIn)

namespace PurchaseWrite

/-- What the request asks to be stored. -/
def payload : PurchaseWrite → OrderIn
  | create payload => payload
  | update _ payload => payload

/-- Its service. -/
def exec (reads : PurchasingReads) (facts : ReceiptFacts) : PurchaseWrite → Tx PurchaseTables Err ℕ
  | create payload => createPoV2 reads payload
  | update poId payload => updatePoV2 reads facts poId payload

end PurchaseWrite

section Requests

variable {reads : PurchasingReads} {facts : ReceiptFacts} {s s' : PurchaseTables} {poId poId' : ℕ}
  {payload : OrderIn}

theorem createPoV2_written (h : (createPoV2 reads payload).run s = .ok (poId, s')) :
    ∃ norm, normalizePayload reads "create_po_v2" createNumber payload = .ok norm ∧
      Written s' poId norm := by
  obtain ⟨norm, t₁, hnorm, h⟩ := Tx.run_bind_ok.mp h
  obtain ⟨hpayload, rfl⟩ := Tx.run_ofExcept_ok.mp hnorm
  obtain ⟨s₁, t₂, hget, h⟩ := Tx.run_bind_ok.mp h
  obtain ⟨rfl, rfl⟩ := Tx.run_get_ok.mp hget
  obtain ⟨poNo, t₃, hpoNo, h⟩ := Tx.run_bind_ok.mp h
  obtain ⟨-, rfl⟩ := Tx.run_ofExcept_ok.mp hpoNo
  obtain ⟨head, t₄, hhead, h⟩ := Tx.run_bind_ok.mp h
  obtain ⟨hstored, rfl⟩ := Tx.run_ofExcept_ok.mp hhead
  obtain ⟨s₂, t₅, hinsert, h⟩ := Tx.run_bind_ok.mp h
  obtain ⟨hinserted, rfl⟩ := Tx.run_ofExcept_ok.mp hinsert
  obtain ⟨u, s₃, hset, h⟩ := Tx.run_bind_ok.mp h
  obtain rfl := Tx.run_set_ok.mp hset
  obtain ⟨u', s₄, hlines, h⟩ := Tx.run_bind_ok.mp h
  obtain ⟨u'', s₅, hupsert, h⟩ := Tx.run_bind_ok.mp h
  obtain ⟨rfl, rfl⟩ := Tx.run_pure_ok.mp h
  refine ⟨norm, hpayload, ?_⟩
  obtain ⟨hrows, hsame, hcompletions, hnew⟩ := insertOrder_ok hinserted
  -- no stored row belongs to an order that was not there
  have hlinesNew : ∀ l ∈ s₂.lines.rows, l.poId ≠ s.orderSeq + 1 := by
    intro l hl heq
    rw [hsame] at hl
    obtain ⟨po, hpo, hid⟩ := s.lines_fk l hl
    exact hnew po hpo (hid.trans heq)
  have hcompletionsNew : ∀ c ∈ s₂.completions.rows, c.poId ≠ s.orderSeq + 1 := by
    intro c hc heq
    rw [hcompletions] at hc
    obtain ⟨-, po, hpo, hid⟩ := s.completions_fk c hc
    exact hnew po hpo (hid.trans heq)
  have hkept := (insertLines_run_ok hlines).2.1
  exact order_written s₄ (head.order (s.orderSeq + 1) poNo)
    (by rw [hrows]; exact List.mem_append_right _ (List.mem_singleton_self _)) rfl
    (head_ok hstored) hlinesNew hlines rfl rfl
    (fun c hc => ⟨hc, hcompletionsNew c (by rwa [← hkept])⟩) hupsert

theorem updatePoV2_written (h : (updatePoV2 reads facts poId payload).run s = .ok (poId', s')) :
    ∃ norm, normalizePayload reads "update_po_v2" updateNumber payload = .ok norm ∧
      Written s' poId' norm := by
  obtain ⟨s₁, t₁, hget, h⟩ := Tx.run_bind_ok.mp h
  obtain ⟨rfl, rfl⟩ := Tx.run_get_ok.mp hget
  obtain ⟨po, t₂, hfind, h⟩ := Tx.run_bind_ok.mp h
  obtain ⟨hpo, rfl⟩ := Tx.run_demand_ok.mp hfind
  obtain ⟨u, t₃, heditable, h⟩ := Tx.run_bind_ok.mp h
  obtain ⟨-, rfl⟩ := Tx.run_ofExcept_ok.mp heditable
  obtain ⟨norm, t₄, hnorm, h⟩ := Tx.run_bind_ok.mp h
  obtain ⟨hpayload, rfl⟩ := Tx.run_ofExcept_ok.mp hnorm
  obtain ⟨head, t₅, hhead, h⟩ := Tx.run_bind_ok.mp h
  obtain ⟨hstored, rfl⟩ := Tx.run_ofExcept_ok.mp hhead
  obtain ⟨u', s₃, hset, h⟩ := Tx.run_bind_ok.mp h
  obtain rfl := Tx.run_set_ok.mp hset
  obtain ⟨u'', s₄, hlines, h⟩ := Tx.run_bind_ok.mp h
  obtain ⟨u₃, s₅, hrebuild, h⟩ := Tx.run_bind_ok.mp h
  obtain ⟨rfl, rfl⟩ := Tx.run_pure_ok.mp h
  obtain ⟨u₄, s₆, hdelete, hupsert⟩ := Tx.run_bind_ok.mp hrebuild
  obtain rfl := Tx.run_modify_ok.mp hdelete
  refine ⟨norm, hpayload, ?_⟩
  have hid : po.id = poId := by simpa using List.find?_some hpo
  subst hid
  have hmem : po ∈ s.orders.rows := List.mem_of_find?_eq_some hpo
  have hrevised : head.revise po ∈ ((s.reviseOrder po.id head.revise (fun _ => rfl)
      fun _ => rfl).deleteLines po.id).orders.rows :=
    List.mem_map.mpr ⟨po, hmem, if_pos rfl⟩
  have hgone : ∀ l ∈ ((s.reviseOrder po.id head.revise (fun _ => rfl)
      fun _ => rfl).deleteLines po.id).lines.rows, l.poId ≠ po.id := by
    intro l hl
    exact of_decide_eq_true (List.mem_filter.mp hl).2
  refine order_written (s₄.deleteCompletions po.id) (head.revise po) hrevised rfl
    (head_ok hstored) hgone hlines rfl rfl ?_ hupsert
  intro c hc
  obtain ⟨hc, hne⟩ := List.mem_filter.mp hc
  exact ⟨hc, of_decide_eq_true hne⟩

/-- After a request that is accepted, the total of its order agrees with the lines and with the
completions exactly if the prices lose little. -/
theorem totals_agree_iff {write : PurchaseWrite}
    (h : (write.exec reads facts).run s = .ok (poId, s')) :
    TotalsAgree s' poId ↔ LosesLittle reads write.payload.lines := by
  cases write with
  | create payload =>
    obtain ⟨norm, hnorm, hwritten⟩ := createPoV2_written h
    obtain ⟨hpurchases, hsum⟩ := normalizePayload_ok hnorm
    exact hwritten.totalsAgree_iff hpurchases hsum
  | update poId payload =>
    obtain ⟨norm, hnorm, hwritten⟩ := updatePoV2_written h
    obtain ⟨hpurchases, hsum⟩ := normalizePayload_ok hnorm
    exact hwritten.totalsAgree_iff hpurchases hsum

end Requests

/-! ## Prices in hundredths -/

/-- Hundredths are results of decimal arithmetic. -/
theorem finish_cents {n : ℤ} (h : |n| < 10 ^ 28) :
    decimalContext.finish ((n : ℚ) / 100) = some ((n : ℚ) / 100) := by
  have hfinish := decimalContext.finish_of_digits (k := -2) h (by decide) (by decide) (by decide)
  have hcents : (n : ℚ) * 10 ^ (-2 : ℤ) = (n : ℚ) / 100 := by norm_num [zpow_neg]; ring
  rwa [hcents] at hfinish

/-- Prices in hundredths lose nothing, unless the total has more digits than decimals have. -/
theorem roundingLoss_of_cents {purchases : List (ℚ × ℤ)}
    (hcents : ∀ p ∈ purchases, p.1 = (toCents p.1 : ℚ) / 100)
    (hpos : ∀ p ∈ purchases, 0 ≤ toCents p.1 * p.2)
    (hsum : (purchases.map fun p => toCents p.1 * p.2).sum < 10 ^ 28) :
    roundingLoss purchases = some 0 := by
  have hfold : ∀ m : ℤ, 0 ≤ m → m + (purchases.map fun p => toCents p.1 * p.2).sum < 10 ^ 28 →
      purchases.foldlM addPurchase ((m : ℚ) / 100) =
        some (((m + (purchases.map fun p => toCents p.1 * p.2).sum : ℤ) : ℚ) / 100) := by
    clear hsum
    induction purchases with
    | nil =>
      intro m _ _
      simp
    | cons p ps ih =>
      intro m hm hlt
      rw [List.forall_mem_cons] at hcents hpos
      have hrest : 0 ≤ (ps.map fun p => toCents p.1 * p.2).sum :=
        List.sum_nonneg (List.forall_mem_map.mpr hpos.2)
      rw [List.map_cons, List.sum_cons] at hlt
      have hamount : p.1 * p.2 = ((toCents p.1 * p.2 : ℤ) : ℚ) / 100 := by
        nth_rewrite 1 [hcents.1]
        push_cast
        ring
      have hstep : addPurchase ((m : ℚ) / 100) p =
          some (((m + toCents p.1 * p.2 : ℤ) : ℚ) / 100) := by
        have hadd : (m : ℚ) / 100 + ((toCents p.1 * p.2 : ℤ) : ℚ) / 100 =
            ((m + toCents p.1 * p.2 : ℤ) : ℚ) / 100 := by
          push_cast
          ring
        rw [addPurchase, hamount, finish_cents (by rw [abs_of_nonneg hpos.1]; omega),
          Option.bind_some, hadd, finish_cents (by rw [abs_of_nonneg (by omega)]; omega)]
      rw [List.foldlM_cons, hstep, List.map_cons, List.sum_cons, ← add_assoc]
      exact ih hcents.2 hpos.2 _ (by omega) (by omega)
  have htotal := hfold 0 le_rfl (by simpa using hsum)
  rw [Int.cast_zero, zero_div, zero_add] at htotal
  rw [roundingLoss, htotal, Option.map_some, ← cast_amounts]
  congr 1
  ring

/-! ## A thousand pieces -/

/-- Suppliers and items that are all alike, sold by the piece. -/
def pieceReads : PurchasingReads where
  supplier id := .ok (some ⟨id, "farm", true⟩)
  itemBasics _ := .ok fun itemId => some { plainItem itemId with supplierId := none }
  uom uomId := .ok (some ⟨uomId, 1, "pc", none, "piece", 1⟩)
  purchaseDefaultOrBaseUom _ := .ok none
  uomsByItem _ := .ok []

/-- Nothing is received. -/
def noReceipts : ReceiptFacts := ⟨fun _ => false, fun _ => false⟩

/-- A thousand pieces at a price. -/
def buyThousand (price : PriceIn) : PurchaseWrite := .create {
  supplierId := some 1
  warehouseId := 1
  purchaser := "Li"
  purchaseTime := 0
  remark := none
  lines := [⟨some 1, 1, some 1, 1000, some price, none, none⟩]
}

/-- The total of a thousand pieces at 1.23 agrees with the lines. -/
theorem totals_agree_buyThousand : ∃ poId s',
    ((buyThousand ⟨123, -2⟩).exec pieceReads noReceipts).run .empty = .ok (poId, s') ∧
      (TotalsAgree s' poId ↔ LosesLittle pieceReads (buyThousand ⟨123, -2⟩).payload.lines) := by
  obtain ⟨poId, s', hrun⟩ := Tx.exists_run_of_toBool
    (x := (buyThousand ⟨123, -2⟩).exec pieceReads noReceipts) (s := .empty) (by decide +kernel)
  exact ⟨poId, s', hrun, totals_agree_iff hrun⟩

/-- A thousand pieces at 1.234 are 1234.00 in all, while their line is stored with 1230.00. -/
theorem not_totals_agree : ¬∀ (reads : PurchasingReads) (facts : ReceiptFacts)
    (write : PurchaseWrite) (s s' : PurchaseTables) (poId : ℕ),
    (write.exec reads facts).run s = .ok (poId, s') → TotalsAgree s' poId := by
  intro h
  obtain ⟨poId, s', hrun⟩ := Tx.exists_run_of_toBool
    (x := (buyThousand ⟨1234, -3⟩).exec pieceReads noReceipts) (s := .empty) (by decide +kernel)
  obtain ⟨norm, hnorm, hwritten⟩ := createPoV2_written hrun
  obtain ⟨hpurchases, hsum⟩ := normalizePayload_ok hnorm
  have hlittle := (hwritten.totalsAgree_iff hpurchases hsum).mp (h _ _ _ _ _ _ hrun)
  have hloss : roundingLoss ((buyThousand ⟨1234, -3⟩).payload.lines.map (purchaseOf pieceReads)) =
      some 400 := by decide +kernel
  obtain ⟨-, hhigh⟩ := hlittle 400 hloss
  norm_num at hhigh

end Wms.Procurement
