import Wms.Outbound.WarehouseRouter

/-!
# Routing whole orders

The check of a warehouse compares every line with what is available, not the sum of the lines
of an item. So it says that a warehouse can fulfil an order whose lines fit one by one but not
together. The choice of the warehouse follows the check and the priorities.
-/

namespace Wms.Router

open Foundation

variable (provider : AvailabilityProvider) (ctx : OrderContext)

/-- What the order needs of an item, over all lines. -/
def totalNeed (lines : List OrderLine) (itemId : ℤ) : ℤ :=
  ((lines.filter fun line => line.itemId = itemId ∧ 0 < line.qty).map OrderLine.qty).sum

/-- The warehouse has what the order needs of every item. -/
def CanFulfillWhole (lines : List OrderLine) (warehouseId : ℤ) : Prop :=
  ∀ itemId, totalNeed lines itemId ≤ getAvail provider ctx warehouseId itemId

/-- The bindings of the store in their priority order. -/
def priorityOrder (bindings : List StoreWarehouseBinding) : List StoreWarehouseBinding :=
  let inScope := bindings.filter fun b => b.platform = ctx.platform ∧ b.storeCode = ctx.storeCode
  orderBy bindingKey (inScope.filter fun b => b.isTop) ++
    orderBy bindingKey (inScope.filter fun b => !b.isTop)

/-- The check of the warehouse answers OK. -/
def ChecksOk (lines : List OrderLine) (warehouseId : ℤ) : Prop :=
  (checkWholeOrder provider ctx warehouseId lines).status = .ok

/-- The warehouse is the first in the order of the bindings whose check answers OK, and it was
examined with those before it. -/
def IsFirstOk (lines : List OrderLine) (bindings : List StoreWarehouseBinding)
    (r : RoutingResult) : Prop :=
  ∃ before b after, priorityOrder ctx bindings = before ++ b :: after ∧
    (∀ b' ∈ before, ¬ChecksOk provider ctx lines b'.warehouseId) ∧
    ChecksOk provider ctx lines b.warehouseId ∧ r.warehouseId = b.warehouseId ∧
    r.consideredWarehouses = (before ++ [b]).map (·.warehouseId)

/-- The check is right about every warehouse, and the route leads to the first warehouse for
which it answers OK. -/
structure RoutesWholeOrders (lines : List OrderLine) (bindings : List StoreWarehouseBinding) :
    Prop where
  check : ∀ warehouseId, 0 < warehouseId →
    (ChecksOk provider ctx lines warehouseId ↔ CanFulfillWhole provider ctx lines warehouseId)
  found : ∀ r, route provider ctx lines bindings = .ok r →
    IsFirstOk provider ctx lines bindings r
  none : (∃ e, route provider ctx lines bindings = .error e) ↔
    ∀ b ∈ priorityOrder ctx bindings, ¬ChecksOk provider ctx lines b.warehouseId

/-- The order has several lines for the item. -/
def Repeated (lines : List OrderLine) (itemId : ℤ) : Prop :=
  2 ≤ (lines.filter fun line => line.itemId = itemId ∧ 0 < line.qty).length

/-- Where every line fits on its own, the lines of an item that has several fit together. -/
def RepeatedLinesFit (lines : List OrderLine) (warehouseId : ℤ) : Prop :=
  (∀ line ∈ lines, line.qty ≤ getAvail provider ctx warehouseId line.itemId) →
    ∀ itemId, Repeated lines itemId →
      totalNeed lines itemId ≤ getAvail provider ctx warehouseId itemId

variable {provider ctx} {lines : List OrderLine} {bindings : List StoreWarehouseBinding}
  {warehouseId : ℤ}

theorem getAvail_nonneg (itemId : ℤ) : 0 ≤ getAvail provider ctx warehouseId itemId :=
  le_max_right _ _

/-! ## The check -/

/-- The check looks at the lines one by one. -/
theorem checksOk_iff (hpos : 0 < warehouseId) : ChecksOk provider ctx lines warehouseId ↔
    ∀ line ∈ lines, line.qty ≤ getAvail provider ctx warehouseId line.itemId := by
  have hlines : (∀ line ∈ lines, line.qty ≤ getAvail provider ctx warehouseId line.itemId) ↔
      lines.filterMap (fun line =>
        if line.qty ≤ 0 then none
        else
          let available := getAvail provider ctx warehouseId line.itemId
          if available < line.qty then
            some (⟨line.itemId, line.qty, available⟩ : InsufficientLine)
          else none) = [] := by
    rw [List.filterMap_eq_nil_iff]
    refine forall₂_congr fun line _ => ?_
    have hnonneg : 0 ≤ getAvail provider ctx warehouseId line.itemId := getAvail_nonneg _
    constructor
    · intro hfits
      split
      · rfl
      · rw [if_neg (by omega)]
    · intro hnone
      by_contra hshort
      rw [if_neg (by omega), if_pos (by omega)] at hnone
      cases hnone
  rw [hlines]
  unfold ChecksOk checkWholeOrder
  rw [if_neg (by omega)]
  simp only
  split
  · rename_i hsome
    exact ⟨fun h => (by cases h), fun h => absurd h hsome⟩
  · rename_i hnone
    exact ⟨fun _ => not_not.mp hnone, fun _ => rfl⟩

theorem canFulfill_iff : canFulfill provider ctx lines warehouseId = true ↔
    ∀ line ∈ lines, line.qty ≤ getAvail provider ctx warehouseId line.itemId := by
  unfold canFulfill
  rw [List.all_eq_true]
  refine forall₂_congr fun line _ => ?_
  have hnonneg : 0 ≤ getAvail provider ctx warehouseId line.itemId := getAvail_nonneg _
  simp only [Bool.or_eq_true, decide_eq_true_eq, Bool.not_eq_true', decide_eq_false_iff_not]
  omega

/-- No line needs more than all lines of its item. -/
theorem qty_le_totalNeed {line : OrderLine} (hline : line ∈ lines) :
    line.qty ≤ max (totalNeed lines line.itemId) 0 := by
  by_cases hpos : 0 < line.qty
  · have hmem : line ∈ lines.filter fun l => l.itemId = line.itemId ∧ 0 < l.qty :=
      List.mem_filter.mpr ⟨hline, by simpa using hpos⟩
    have hle : line.qty ≤ totalNeed lines line.itemId := by
      unfold totalNeed
      apply List.single_le_sum
      · intro q hq
        obtain ⟨l, hl, rfl⟩ := List.mem_map.mp hq
        have hqty : l.itemId = line.itemId ∧ 0 < l.qty := by simpa using (List.mem_filter.mp hl).2
        exact hqty.2.le
      · exact List.mem_map_of_mem hmem
    omega
  · omega

/-- An item with one line needs what the line says. -/
theorem totalNeed_le_of_not_repeated {itemId : ℤ} (hnot : ¬Repeated lines itemId)
    (hfits : ∀ line ∈ lines, line.qty ≤ getAvail provider ctx warehouseId line.itemId) :
    totalNeed lines itemId ≤ getAvail provider ctx warehouseId itemId := by
  unfold totalNeed
  unfold Repeated at hnot
  cases hfilter : lines.filter fun line => line.itemId = itemId ∧ 0 < line.qty with
  | nil => exact getAvail_nonneg itemId
  | cons line rest =>
    rw [hfilter, List.length_cons] at hnot
    have hrest : rest = [] := List.length_eq_zero_iff.mp (by omega)
    have hmem : line ∈ lines.filter fun l => l.itemId = itemId ∧ 0 < l.qty := by
      rw [hfilter]
      exact List.mem_cons_self
    obtain ⟨hline, hitem⟩ := List.mem_filter.mp hmem
    have hitem' : line.itemId = itemId := (of_decide_eq_true hitem).1
    have := hfits line hline
    rw [hitem'] at this
    simpa [hrest] using this

/-- The check is right about a warehouse exactly when repeated lines fit together. -/
theorem check_right_iff (hpos : 0 < warehouseId) :
    (ChecksOk provider ctx lines warehouseId ↔ CanFulfillWhole provider ctx lines warehouseId) ↔
      RepeatedLinesFit provider ctx lines warehouseId := by
  rw [checksOk_iff hpos]
  constructor
  · intro hcheck hfits itemId _
    exact hcheck.mp hfits itemId
  · intro hrepeated
    constructor
    · intro hfits itemId
      by_cases h : Repeated lines itemId
      · exact hrepeated hfits itemId h
      · exact totalNeed_le_of_not_repeated h hfits
    · intro hwhole line hline
      have hneed := qty_le_totalNeed hline
      have havail := hwhole line.itemId
      have hnonneg : 0 ≤ getAvail provider ctx warehouseId line.itemId := getAvail_nonneg _
      omega

/-! ## The choice -/

/-- The loop stops at the first warehouse that can fulfil the order. -/
theorem tryBindings_spec (bs : List StoreWarehouseBinding) (considered : List ℤ) :
    (∃ before b after, bs = before ++ b :: after ∧
      (∀ b' ∈ before, canFulfill provider ctx lines b'.warehouseId = false) ∧
      canFulfill provider ctx lines b.warehouseId = true ∧
      tryBindings provider ctx lines bs considered =
        (some b, considered ++ (before ++ [b]).map (·.warehouseId))) ∨
    ((∀ b' ∈ bs, canFulfill provider ctx lines b'.warehouseId = false) ∧
      tryBindings provider ctx lines bs considered =
        (none, considered ++ bs.map (·.warehouseId))) := by
  induction bs generalizing considered with
  | nil => exact .inr ⟨by simp, by simp [tryBindings]⟩
  | cons b bs ih =>
    rw [tryBindings]
    by_cases hcan : canFulfill provider ctx lines b.warehouseId = true
    · left
      exact ⟨[], b, bs, rfl, by simp, hcan, by simp [hcan]⟩
    · have hcannot : canFulfill provider ctx lines b.warehouseId = false := by simpa using hcan
      rw [if_neg hcan]
      rcases ih (considered ++ [b.warehouseId]) with
        ⟨before, b', after, rfl, hbefore, hb', heq⟩ | ⟨hall, heq⟩
      · left
        refine ⟨b :: before, b', after, rfl, ?_, hb', by rw [heq]; simp⟩
        intro x hx
        rcases List.mem_cons.mp hx with rfl | hmem
        · exact hcannot
        · exact hbefore x hmem
      · right
        refine ⟨?_, by rw [heq]; simp⟩
        intro x hx
        rcases List.mem_cons.mp hx with rfl | hmem
        · exact hcannot
        · exact hall x hmem

/-- The two loops are one over the bindings in their priority order. -/
theorem tryBindings_append (bs bs' : List StoreWarehouseBinding) (considered : List ℤ) :
    tryBindings provider ctx lines (bs ++ bs') considered =
      match tryBindings provider ctx lines bs considered with
      | (some b, c) => (some b, c)
      | (none, c) => tryBindings provider ctx lines bs' c := by
  induction bs generalizing considered with
  | nil => rfl
  | cons b bs ih =>
    rw [List.cons_append, tryBindings, tryBindings]
    split
    · rfl
    · exact ih _

theorem checksOk_iff_canFulfill (b : StoreWarehouseBinding) :
    ChecksOk provider ctx lines b.warehouseId ↔
      canFulfill provider ctx lines b.warehouseId = true := by
  rw [checksOk_iff b.warehouseId_pos, canFulfill_iff]

/-- The route is what the loop over the bindings in their priority order finds. -/
theorem route_eq (lines : List OrderLine) (bindings : List StoreWarehouseBinding) :
    (∃ r b, route provider ctx lines bindings = .ok r ∧
      tryBindings provider ctx lines (priorityOrder ctx bindings) [] =
        (some b, r.consideredWarehouses) ∧ r.warehouseId = b.warehouseId) ∨
    ((∃ e, route provider ctx lines bindings = .error e) ∧
      (tryBindings provider ctx lines (priorityOrder ctx bindings) []).1 = none) := by
  unfold route priorityOrder
  simp only
  split
  · rename_i hempty
    subst hempty
    exact .inr ⟨⟨_, rfl⟩, rfl⟩
  · split
    · rename_i hscope
      rw [hscope]
      exact .inr ⟨⟨_, rfl⟩, rfl⟩
    · rw [tryBindings_append]
      rcases htop : tryBindings provider ctx lines (orderBy bindingKey
        ((bindings.filter fun b => b.platform = ctx.platform ∧ b.storeCode = ctx.storeCode).filter
          fun b => b.isTop)) [] with ⟨_ | b, considered⟩
      · simp only [htop]
        rcases hbackup : tryBindings provider ctx lines (orderBy bindingKey
          ((bindings.filter fun b => b.platform = ctx.platform ∧ b.storeCode = ctx.storeCode).filter
            fun b => !b.isTop)) considered with ⟨_ | b, considered'⟩
        · simp only [hbackup]
          simp
        · simp only [hbackup]
          simp
      · simp only [htop]
        simp

/-- The route leads to the first warehouse whose check answers OK. -/
theorem route_isFirstOk {r : RoutingResult} (h : route provider ctx lines bindings = .ok r) :
    IsFirstOk provider ctx lines bindings r := by
  rcases @route_eq provider ctx lines bindings with
    ⟨r', b, hr', hloop, hwarehouse⟩ | ⟨⟨e, he⟩, -⟩
  · obtain rfl := Except.ok.inj (h.symm.trans hr')
    rcases @tryBindings_spec provider ctx lines (priorityOrder ctx bindings) [] with
      ⟨before, b', after, horder, hbefore, hb', heq⟩ | ⟨-, heq⟩
    · rw [hloop, Prod.mk.injEq, Option.some.injEq] at heq
      obtain ⟨rfl, hconsidered⟩ := heq
      refine ⟨before, b, after, horder, fun x hx hok => ?_, ?_, hwarehouse, by
        simpa using hconsidered⟩
      · have := (checksOk_iff_canFulfill x).mp hok
        rw [hbefore x hx] at this
        cases this
      · exact (checksOk_iff_canFulfill b).mpr hb'
    · rw [hloop] at heq
      cases heq
  · rw [h] at he
    cases he

/-- There is no route exactly when no check answers OK. -/
theorem route_error_iff : (∃ e, route provider ctx lines bindings = .error e) ↔
    ∀ b ∈ priorityOrder ctx bindings, ¬ChecksOk provider ctx lines b.warehouseId := by
  constructor
  · rintro ⟨e, he⟩ x hx hok
    rcases @route_eq provider ctx lines bindings with
      ⟨r, b, hr, -⟩ | ⟨-, hnone⟩
    · rw [he] at hr
      cases hr
    · rcases @tryBindings_spec provider ctx lines (priorityOrder ctx bindings) [] with
        ⟨before, b, after, -, -, -, heq⟩ | ⟨hall, -⟩
      · rw [heq] at hnone
        cases hnone
      · have hcan := (checksOk_iff_canFulfill x).mp hok
        rw [hall x hx] at hcan
        cases hcan
  · intro hall
    rcases @route_eq provider ctx lines bindings with
      ⟨r, b, hr, -⟩ | ⟨herror, -⟩
    · obtain ⟨before, b, after, horder, -, hok, -⟩ := route_isFirstOk hr
      exact absurd hok (hall b (by simp [horder]))
    · exact herror

/-- Orders are routed as a whole exactly when in every warehouse that each line fits the lines of
every repeated item fit together. -/
theorem routesWholeOrders_iff (provider : AvailabilityProvider) (ctx : OrderContext)
    (lines : List OrderLine) (bindings : List StoreWarehouseBinding) :
    RoutesWholeOrders provider ctx lines bindings ↔
      ∀ warehouseId, 0 < warehouseId → RepeatedLinesFit provider ctx lines warehouseId := by
  constructor
  · intro h warehouseId hpos
    exact (check_right_iff hpos).mp (h.check warehouseId hpos)
  · intro h
    exact {
      check := fun warehouseId hpos => (check_right_iff hpos).mpr (h warehouseId hpos)
      found := fun r hr => route_isFirstOk hr
      none := route_error_iff }

/-- Every warehouse is scanned once, with its own check. -/
theorem mem_scanWarehouses {candidates : List ℤ} {result : FulfillmentCheckResult} :
    result ∈ scanWarehouses provider ctx candidates lines ↔
      ∃ warehouseId ∈ candidates, 0 < warehouseId ∧
        checkWholeOrder provider ctx warehouseId lines = result := by
  simp [scanWarehouses, List.mem_eraseDups, and_assoc]

/-! ## Two lines of one item -/

/-- Five pieces of every item in every warehouse. -/
def fiveOfEach : AvailabilityProvider := fun _ _ _ _ => 5

def someOrder : OrderContext := ⟨"PDD", "S1", "1"⟩

/-- Three pieces of an item, twice. -/
def threeTwice : List OrderLine := [⟨1, 3⟩, ⟨1, 3⟩]

/-- Six pieces are needed and five are there, but the check answers OK. -/
theorem not_routesWholeOrders_threeTwice :
    ¬RoutesWholeOrders fiveOfEach someOrder threeTwice [] := by
  intro h
  have hcheck : ChecksOk fiveOfEach someOrder threeTwice 1 := by
    unfold ChecksOk
    decide +kernel
  have hneed := (h.check 1 (by decide)).mp hcheck 1
  exact absurd hneed (by decide +kernel)

end Wms.Router
