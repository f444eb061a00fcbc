import Wms.Finance.ShippingCosts

/-!
# Shipping cost lines and the tables they are computed from

The key of `stores` tells stores apart that the query does not, and two stores that match one
record make the query give two rows under one key, which PostgreSQL refuses. So a statement
that leaves a record with two matching stores fails, whatever it is about. Apart from that no
trigger fails, and the lines follow every statement.
-/

namespace Wms.Finance.ShippingCosts

open Foundation Materialised

/-- The store that a record is joined with, if any. -/
def Joined (upper : String → String) (src : SourceTables) (sr : ShippingRecord) :
    Option Store → Prop
  | none => ∀ s ∈ src.stores.rows, ¬Matches upper s sr
  | some s => s ∈ src.stores.rows ∧ Matches upper s sr

/-- There is a cost line for every shipping record, computed from the record, its warehouse, its
provider and a store that matches it, and no other. -/
structure Mirrors (upper : String → String) (dateOf : ℤ → Date) (t : CostTables) : Prop where
  row_of_record : ∀ sr ∈ t.src.records.rows,
    ∃ w ∈ t.src.warehouses.rows, w.id = sr.warehouseId ∧
      ∃ sp ∈ t.src.providers.rows, sp.id = sr.shippingProviderId ∧
        ∃ s, Joined upper t.src sr s ∧ t.rows sr.id = some (costLine dateOf sr w (some sp) s)
  record_of_row : ∀ i, (t.rows i).isSome → ∃ sr ∈ t.src.records.rows, sr.id = i

/-- The lines mirror the records, and the next statement of the run is carried out when the keys
of the tables admit what it writes. -/
structure Serves (upper : String → String) (dateOf : ℤ → Date) (t : CostTables)
    (next : Option Statement) : Prop where
  mirrors : Mirrors upper dateOf t
  runs : ∀ s ∈ next, ∀ src, s.change t.src = .ok src →
    ∃ t', (s.exec upper dateOf).run t = .ok (⟨⟩, t')

/-- No record has two matching stores. -/
def SourceTables.NoClash (upper : String → String) (src : SourceTables) : Prop :=
  ∀ sr ∈ src.records.rows, ∀ a ∈ src.stores.rows, ∀ b ∈ src.stores.rows,
    Matches upper a sr → Matches upper b sr → a = b

variable {upper : String → String} {dateOf : ℤ → Date} {src src' : SourceTables}
  {t t' : CostTables} {i : ℕ} {sr : ShippingRecord} {u : PUnit}

/-! ## What the query selects -/

theorem select_of_no_record (h : src.records.find i = none) :
    selectCostLine upper dateOf src i = .ok none := by
  simp only [selectCostLine, h]

/-- A record with at most one matching store has its row, and one with two has an error. -/
theorem select_cases (dateOf : ℤ → Date) (hsr : src.records.find i = some sr) :
    (∃ w ∈ src.warehouses.rows, w.id = sr.warehouseId ∧
      ∃ sp ∈ src.providers.rows, sp.id = sr.shippingProviderId ∧
        ∃ s, Joined upper src sr s ∧
          selectCostLine upper dateOf src i = .ok (some (costLine dateOf sr w (some sp) s)) ∧
          ∀ a ∈ src.stores.rows, ∀ b ∈ src.stores.rows,
            Matches upper a sr → Matches upper b sr → a = b) ∨
      (selectCostLine upper dateOf src i = .error .cardinalityViolation ∧
        ∃ a ∈ src.stores.rows, ∃ b ∈ src.stores.rows,
          Matches upper a sr ∧ Matches upper b sr ∧ a ≠ b) := by
  have hmem := (Table.find_eq_some.mp hsr).1
  obtain ⟨w, hw, hwarehouse⟩ := src.warehouse_fk sr hmem
  obtain ⟨sp, hsp, hprovider⟩ := src.provider_fk sr hmem
  have hselect : selectCostLine upper dateOf src i =
      onConflict ((src.stores.leftJoin fun s => Matches upper s sr).map
        (costLine dateOf sr w (some sp))) := by
    simp only [selectCostLine, hsr, Table.find_eq_some.mpr ⟨hw, hwarehouse⟩,
      Table.find_eq_some.mpr ⟨hsp, hprovider⟩]
  have hstores : ∀ s, s ∈ src.stores.rows.filter (fun s => Matches upper s sr) ↔
      s ∈ src.stores.rows ∧ Matches upper s sr := by
    intro s
    rw [List.mem_filter, decide_eq_true_eq]
  have hunique := src.stores.unique.filter fun s => Matches upper s sr
  rw [hselect]
  unfold Table.leftJoin
  cases hfilter : src.stores.rows.filter fun s => Matches upper s sr with
  | nil =>
    rw [hfilter] at hstores
    have hnone : ∀ s ∈ src.stores.rows, ¬Matches upper s sr := by
      intro s hs hmatch
      exact absurd ((hstores s).mpr ⟨hs, hmatch⟩) List.not_mem_nil
    refine .inl ⟨w, hw, hwarehouse, sp, hsp, hprovider, none, hnone, rfl, ?_⟩
    intro a ha b _ hmatch _
    exact absurd hmatch (hnone a ha)
  | cons a rest =>
    rw [hfilter] at hstores hunique
    have ha := (hstores a).mp List.mem_cons_self
    cases rest with
    | nil =>
      have honly : ∀ s ∈ src.stores.rows, Matches upper s sr → s = a := by
        intro s hs hmatch
        exact List.mem_singleton.mp ((hstores s).mpr ⟨hs, hmatch⟩)
      refine .inl ⟨w, hw, hwarehouse, sp, hsp, hprovider, some a, ha, rfl, ?_⟩
      intro b hb c hc hmatch hmatch'
      rw [honly b hb hmatch, honly c hc hmatch']
    | cons b rest =>
      have hb := (hstores b).mp (List.mem_cons_of_mem a List.mem_cons_self)
      refine .inr ⟨rfl, a, ha.1, b, hb.1, ha.2, hb.2, ?_⟩
      intro hsame
      exact (List.pairwise_cons.mp hunique).1 b List.mem_cons_self (congrArg Store.id hsame)

theorem select_ne_none (hsr : src.records.find i = some sr) :
    selectCostLine upper dateOf src i ≠ .ok none := by
  intro hnone
  rcases select_cases dateOf hsr with ⟨w, -, -, sp, -, -, s, -, hselect, -⟩ | ⟨hselect, -⟩
  · rw [hselect] at hnone
    cases hnone
  · rw [hselect] at hnone
    cases hnone

/-- Where no record has two matching stores, the query answers for every record. -/
theorem exists_select (h : src.NoClash upper) (i : ℕ) :
    ∃ row, selectCostLine upper dateOf src i = .ok row := by
  cases hsr : src.records.find i with
  | none => exact ⟨none, select_of_no_record hsr⟩
  | some sr =>
    rcases select_cases dateOf hsr with
      ⟨w, -, -, sp, -, -, s, -, hselect, -⟩ | ⟨-, a, ha, b, hb, hmatch, hmatch', hne⟩
    · exact ⟨_, hselect⟩
    · exact absurd (h sr (Table.find_eq_some.mp hsr).1 a ha b hb hmatch hmatch') hne

theorem UpToDate.mirrors (h : t.UpToDate (selectCostLine upper dateOf)) :
    Mirrors upper dateOf t where
  row_of_record sr hsr := by
    have hselect := h sr.id
    rcases select_cases dateOf (Table.find_eq_some.mpr ⟨hsr, rfl⟩) with
      ⟨w, hw, hwarehouse, sp, hsp, hprovider, s, hs, hrow, -⟩ | ⟨herror, -⟩
    · rw [hrow] at hselect
      exact ⟨w, hw, hwarehouse, sp, hsp, hprovider, s, hs, (Except.ok.inj hselect).symm⟩
    · rw [herror] at hselect
      cases hselect
  record_of_row i hsome := by
    have hselect := h i
    cases hsr : t.src.records.find i with
    | none =>
      rw [select_of_no_record hsr] at hselect
      rw [← Except.ok.inj hselect] at hsome
      cases hsome
    | some sr => exact ⟨sr, Table.find_eq_some.mp hsr⟩

/-- Lines cannot be up to date beside a record with two matching stores. -/
theorem UpToDate.noClash (h : t.UpToDate (selectCostLine upper dateOf)) :
    t.src.NoClash upper := by
  intro sr hsr
  rcases select_cases dateOf (Table.find_eq_some.mpr ⟨hsr, rfl⟩) with
    ⟨-, -, -, -, -, -, -, -, -, hunique⟩ | ⟨herror, -⟩
  · exact hunique
  · have hselect := h sr.id
    rw [herror] at hselect
    cases hselect

/-- The selection stays the same where the joined rows do. -/
theorem select_congr (hrecord : src'.records.find i = src.records.find i)
    (hwarehouse : ∀ sr, src.records.find i = some sr →
      src'.warehouses.find sr.warehouseId = src.warehouses.find sr.warehouseId)
    (hprovider : ∀ sr, src.records.find i = some sr →
      src'.providers.find sr.shippingProviderId = src.providers.find sr.shippingProviderId)
    (hstores : ∀ sr, src.records.find i = some sr →
      (src'.stores.rows.filter fun s => Matches upper s sr) =
        src.stores.rows.filter fun s => Matches upper s sr) :
    selectCostLine upper dateOf src' i = selectCostLine upper dateOf src i := by
  cases hsr : src.records.find i with
  | none => rw [select_of_no_record hsr, select_of_no_record (hrecord.trans hsr)]
  | some sr =>
    simp only [selectCostLine, hrecord, hsr, hwarehouse sr hsr, hprovider sr hsr, Table.leftJoin,
      hstores sr hsr]

/-! ## Which lines are refreshed -/

theorem refreshRecords_run_ok {p : ShippingRecord → Bool}
    (h : (refreshRecords upper dateOf p).run t = .ok (u, t')) :
    Materialised.Refreshes (selectCostLine upper dateOf)
      (fun j => ∃ sr, t.src.records.find j = some sr ∧ p sr = true) t t' := by
  unfold refreshRecords at h
  simp only [Tx.run_bind_ok, Tx.run_get_ok] at h
  obtain ⟨_, _, ⟨rfl, rfl⟩, h⟩ := h
  have hmem : ∀ j, j ∈ (t.src.records.rows.filter p).map ShippingRecord.id ↔
      ∃ sr, t.src.records.find j = some sr ∧ p sr = true := by
    intro j
    simp only [List.mem_map, List.mem_filter, Table.find_eq_some, and_right_comm]
  refine (forM_refresh_run_ok (fun j hj => ?_) h).congr hmem
  obtain ⟨sr, hsr, -⟩ := (hmem j).mp hj
  exact select_ne_none hsr

theorem trgShippingCostStoreRefresh_run_ok {new old : Option Store}
    (h : (trgShippingCostStoreRefresh upper dateOf new old).run t = .ok (u, t')) :
    Materialised.Refreshes (selectCostLine upper dateOf)
      (fun j => ∃ sr, t.src.records.find j = some sr ∧
      ((∃ s ∈ new, Matches upper s sr) ∨ ∃ s ∈ old, Matches upper s sr)) t t' := by
  unfold trgShippingCostStoreRefresh at h
  obtain ⟨_, t₁, hnew, hold⟩ := Tx.run_bind_ok.mp h
  have hfirst := refreshRecords_run_ok hnew
  have hsecond := refreshRecords_run_ok hold
  rw [hfirst.src_eq] at hsecond
  refine (hfirst.trans hsecond).congr fun j => ?_
  simp only [Option.any_eq_true, decide_eq_true_eq, ← exists_or, ← and_or_left]
  rfl

/-! ## Triggers keep the tables they listen to -/

theorem follows_refreshRecords (p : ShippingRecord → Bool) :
    Tx.Follows SameSource (refreshRecords upper dateOf p) :=
  Tx.follows_get.bind fun _ => Tx.follows_forM _ fun i _ => follows_refresh i

theorem follows_storeRefresh (new old : Option Store) :
    Tx.Follows SameSource (trgShippingCostStoreRefresh upper dateOf new old) :=
  (follows_refreshRecords _).bind fun _ => follows_refreshRecords _

/-- What holds of every trigger, and of none, holds of what a statement fires. -/
theorem triggers_induction {P : CostTx PUnit → Prop} (hnothing : P (pure ⟨⟩))
    (hrefresh : ∀ i, P (refreshShippingCostLine upper dateOf i)) (hdelete : ∀ i, P (trgShippingCostLineDelete i))
    (hrecords : ∀ p, P (refreshRecords upper dateOf p))
    (hstore : ∀ new old, P (trgShippingCostStoreRefresh upper dateOf new old)) (s : Statement)
    (before : SourceTables) : P (s.triggers upper dateOf before) := by
  cases s with
  | insertWarehouse new => exact hnothing
  | updateWarehouse id name =>
    simp only [Statement.triggers]
    split
    · exact hrecords _
    · exact hnothing
  | deleteWarehouse id => exact hnothing
  | insertProvider new => exact hnothing
  | updateProvider id set =>
    simp only [Statement.triggers]
    split
    · exact hrecords _
    · exact hnothing
  | deleteProvider id => exact hnothing
  | insertStore new => exact hstore _ _
  | updateStore id set =>
    simp only [Statement.triggers]
    split
    · exact hnothing
    · split
      · exact hstore _ _
      · exact hnothing
  | deleteStore id =>
    simp only [Statement.triggers]
    split
    · exact hnothing
    · exact hstore _ _
  | insertRecord new => exact hrefresh new.id
  | updateRecord new =>
    simp only [Statement.triggers]
    split
    · exact hrefresh new.id
    · exact hnothing
  | deleteRecord id =>
    simp only [Statement.triggers]
    split
    · exact hdelete id
    · exact hnothing

theorem follows_triggers (s : Statement) (before : SourceTables) :
    Tx.Follows SameSource (s.triggers upper dateOf before) :=
  triggers_induction (P := Tx.Follows SameSource) (Tx.follows_pure _) follows_refresh
    follows_discard follows_refreshRecords follows_storeRefresh s before

/-! ## Without a clash no trigger fails -/

theorem exists_refreshRecords_run (dateOf : ℤ → Date) (h : t.src.NoClash upper)
    (p : ShippingRecord → Bool) :
    ∃ t', (refreshRecords upper dateOf p).run t = .ok (⟨⟩, t') := by
  have hselect : ∀ j ∈ (t.src.records.rows.filter p).map ShippingRecord.id,
      ∃ row, selectCostLine upper dateOf t.src j = .ok row := fun j _ => exists_select h j
  obtain ⟨t', hrun⟩ := exists_forM_refresh_run hselect
  exact ⟨t', Tx.run_bind_ok.mpr ⟨t, t, Tx.run_get_ok.mpr ⟨rfl, rfl⟩, hrun⟩⟩

theorem exists_storeRefresh_run (dateOf : ℤ → Date) (h : t.src.NoClash upper)
    (new old : Option Store) :
    ∃ t', (trgShippingCostStoreRefresh upper dateOf new old).run t = .ok (⟨⟩, t') := by
  obtain ⟨t₁, hnew⟩ := exists_refreshRecords_run dateOf h
    fun sr => new.any fun s => Matches upper s sr
  have hsrc : t₁.src = t.src := follows_refreshRecords _ t ⟨⟩ t₁ hnew
  rw [← hsrc] at h
  obtain ⟨t₂, hold⟩ := exists_refreshRecords_run dateOf h
    fun sr => old.any fun s => Matches upper s sr
  exact ⟨t₂, Tx.run_bind_ok.mpr ⟨⟨⟩, t₁, hnew, hold⟩⟩

theorem exists_triggers_run (dateOf : ℤ → Date) (h : t.src.NoClash upper) (s : Statement)
    (before : SourceTables) :
    ∃ t', (s.triggers upper dateOf before).run t = .ok (⟨⟩, t') := by
  refine triggers_induction (P := fun x => ∃ t', x.run t = .ok (⟨⟩, t')) ?_ ?_ ?_ ?_ ?_ s before
  · exact ⟨t, Tx.run_pure_ok.mpr ⟨rfl, rfl⟩⟩
  · intro i
    exact exists_refresh_run (exists_select h i)
  · intro i
    exact ⟨_, Tx.run_modify_ok.mpr rfl⟩
  · exact exists_refreshRecords_run dateOf h
  · exact exists_storeRefresh_run dateOf h

/-- A statement that the keys admit is carried out when it leaves no record with two matching
stores. -/
theorem Statement.exists_run {s : Statement} (hchange : s.change t.src = .ok src)
    (h : src.NoClash upper) : ∃ t', (s.exec upper dateOf).run t = .ok (⟨⟩, t') := by
  obtain ⟨t', hrun⟩ := exists_triggers_run dateOf (t := { t with src := src }) h s t.src
  exact ⟨t', statement_run_ok.mpr ⟨src, hchange, hrun⟩⟩

/-! ## What a statement changes -/

theorem withWarehouses_ok {warehouses : Table Warehouse (SameKey Warehouse.id)}
    (h : src.withWarehouses warehouses = .ok src') : src'.warehouses = warehouses ∧
      src'.providers = src.providers ∧ src'.stores = src.stores ∧ src'.records = src.records := by
  unfold SourceTables.withWarehouses at h
  split at h
  · split at h
    · cases h
      exact ⟨rfl, rfl, rfl, rfl⟩
    · cases h
  · cases h

theorem withProviders_ok {providers : Table ShippingProvider (SameKey ShippingProvider.id)}
    (h : src.withProviders providers = .ok src') : src'.providers = providers ∧
      src'.warehouses = src.warehouses ∧ src'.stores = src.stores ∧
        src'.records = src.records := by
  unfold SourceTables.withProviders at h
  split at h
  · split at h
    · cases h
      exact ⟨rfl, rfl, rfl, rfl⟩
    · cases h
  · cases h

theorem withStores_ok {stores : Table Store (SameKey Store.id)}
    (h : src.withStores stores = .ok src') : src'.stores = stores ∧
      src'.warehouses = src.warehouses ∧ src'.providers = src.providers ∧
        src'.records = src.records := by
  unfold SourceTables.withStores at h
  split at h
  · cases h
    exact ⟨rfl, rfl, rfl, rfl⟩
  · cases h

theorem withRecords_ok {records : Table ShippingRecord (SameKey ShippingRecord.id)}
    (h : src.withRecords records = .ok src') : src'.records = records ∧
      src'.warehouses = src.warehouses ∧ src'.providers = src.providers ∧
        src'.stores = src.stores := by
  unfold SourceTables.withRecords at h
  split at h
  · split at h
    · split at h
      · cases h
        exact ⟨rfl, rfl, rfl, rfl⟩
      · cases h
    · cases h
  · cases h

/-- Warehouses may be written where the joined ones stay. -/
theorem select_withWarehouses {warehouses : Table Warehouse (SameKey Warehouse.id)}
    (h : src.withWarehouses warehouses = .ok src')
    (hwarehouse : ∀ sr w, src.records.find i = some sr →
      src.warehouses.find sr.warehouseId = some w → warehouses.find sr.warehouseId = some w) :
    selectCostLine upper dateOf src' i = selectCostLine upper dateOf src i := by
  obtain ⟨rfl, hproviders, hstores, hrecords⟩ := withWarehouses_ok h
  refine select_congr (by rw [hrecords]) (fun sr hsr => ?_) (fun _ _ => by rw [hproviders])
    fun _ _ => by rw [hstores]
  obtain ⟨w, hw, hid⟩ := src.warehouse_fk sr (Table.find_eq_some.mp hsr).1
  have hfind := Table.find_eq_some.mpr ⟨hw, hid⟩
  rw [hfind, hwarehouse sr w hsr hfind]

/-- Providers may be written where the joined ones stay. -/
theorem select_withProviders {providers : Table ShippingProvider (SameKey ShippingProvider.id)}
    (h : src.withProviders providers = .ok src')
    (hprovider : ∀ sr sp, src.records.find i = some sr →
      src.providers.find sr.shippingProviderId = some sp →
        providers.find sr.shippingProviderId = some sp) :
    selectCostLine upper dateOf src' i = selectCostLine upper dateOf src i := by
  obtain ⟨rfl, hwarehouses, hstores, hrecords⟩ := withProviders_ok h
  refine select_congr (by rw [hrecords]) (fun _ _ => by rw [hwarehouses]) (fun sr hsr => ?_)
    fun _ _ => by rw [hstores]
  obtain ⟨sp, hsp, hid⟩ := src.provider_fk sr (Table.find_eq_some.mp hsr).1
  have hfind := Table.find_eq_some.mpr ⟨hsp, hid⟩
  rw [hfind, hprovider sr sp hsr hfind]

/-- Stores may be written where the matching ones stay. -/
theorem select_withStores {stores : Table Store (SameKey Store.id)}
    (h : src.withStores stores = .ok src')
    (hstore : ∀ sr, src.records.find i = some sr →
      (stores.rows.filter fun s => Matches upper s sr) =
        src.stores.rows.filter fun s => Matches upper s sr) :
    selectCostLine upper dateOf src' i = selectCostLine upper dateOf src i := by
  obtain ⟨rfl, hwarehouses, hproviders, hrecords⟩ := withStores_ok h
  exact select_congr (by rw [hrecords]) (fun _ _ => by rw [hwarehouses])
    (fun _ _ => by rw [hproviders]) hstore

/-- Records may be written where the record itself stays. -/
theorem select_withRecords {records : Table ShippingRecord (SameKey ShippingRecord.id)}
    (h : src.withRecords records = .ok src') (hrecord : records.find i = src.records.find i) :
    selectCostLine upper dateOf src' i = selectCostLine upper dateOf src i := by
  obtain ⟨rfl, hwarehouses, hproviders, hstores⟩ := withRecords_ok h
  exact select_congr hrecord (fun _ _ => by rw [hwarehouses]) (fun _ _ => by rw [hproviders])
    fun _ _ => by rw [hstores]

theorem insertRow_ok {ρ : Type} {key : ρ → ℕ} {rows rows' : Table ρ (SameKey key)} {new : ρ}
    {pkey : String} : insertRow rows new pkey = .ok rows' ↔ rows.insert new = some rows' := by
  unfold insertRow
  cases rows.insert new <;> simp

/-! ## One statement -/

/-- A change that no trigger follows. -/
theorem upToDate_of_no_trigger (h : t.UpToDate (selectCostLine upper dateOf))
    (hrun : (pure ⟨⟩ : CostTx PUnit).run { t with src := src } = .ok (u, t'))
    (hsame : ∀ i, selectCostLine upper dateOf src i = selectCostLine upper dateOf t.src i) :
    t'.UpToDate (selectCostLine upper dateOf) := by
  obtain ⟨-, rfl⟩ := Tx.run_pure_ok.mp hrun
  exact h.of_refreshes .refl fun i _ => hsame i

theorem updateWarehouse_upToDate {id : ℕ} {name : Option (Varchar 100)}
    (h : t.UpToDate (selectCostLine upper dateOf))
    (hchange : Statement.change t.src (.updateWarehouse id name) = .ok src)
    (hrun : ((Statement.updateWarehouse id name).triggers upper dateOf t.src).run
      { t with src := src } = .ok (u, t')) : t'.UpToDate (selectCostLine upper dateOf) := by
  simp only [Statement.change] at hchange
  simp only [Statement.triggers] at hrun
  cases hfind : t.src.warehouses.find id with
  | none =>
    rw [hfind] at hchange hrun
    cases hchange
    exact upToDate_of_no_trigger h hrun fun _ => rfl
  | some old =>
    rw [hfind] at hchange hrun
    obtain ⟨hold, rfl⟩ := Table.find_eq_some.mp hfind
    by_cases hname : name = none
    · -- the name is not set, so the row stays the same
      subst hname
      have hsame : t.src.warehouses.replace { old with name := (none : Option _).getD old.name } =
          t.src.warehouses := Table.replace_of_mem hold
      refine upToDate_of_no_trigger h hrun fun i => select_withWarehouses hchange ?_
      intro sr w _ hw
      rw [hsame, hw]
    · rw [if_pos ⟨rfl, hname⟩] at hrun
      obtain ⟨-, -, -, hrecords⟩ := withWarehouses_ok hchange
      refine h.of_refreshes (refreshRecords_run_ok hrun) fun i hi => ?_
      apply select_withWarehouses hchange
      intro sr w hsr hw
      rw [Table.find_replace_of_ne, hw]
      intro hsame
      apply hi
      rw [hrecords]
      exact ⟨sr, hsr, decide_eq_true hsame⟩

theorem updateProvider_upToDate {id : ℕ} {set : ProviderSet}
    (h : t.UpToDate (selectCostLine upper dateOf))
    (hchange : Statement.change t.src (.updateProvider id set) = .ok src)
    (hrun : ((Statement.updateProvider id set).triggers upper dateOf t.src).run
      { t with src := src } = .ok (u, t')) : t'.UpToDate (selectCostLine upper dateOf) := by
  simp only [Statement.change] at hchange
  simp only [Statement.triggers] at hrun
  cases hfind : t.src.providers.find id with
  | none =>
    rw [hfind] at hchange hrun
    cases hchange
    exact upToDate_of_no_trigger h hrun fun _ => rfl
  | some old =>
    rw [hfind] at hchange hrun
    obtain ⟨hold, rfl⟩ := Table.find_eq_some.mp hfind
    by_cases hset : set = .none
    · -- neither the name nor the code is set, so the row stays the same
      subst hset
      rw [if_neg (by simp)] at hrun
      have hsame : t.src.providers.replace (ProviderSet.none.apply old) = t.src.providers :=
        Table.replace_of_mem hold
      refine upToDate_of_no_trigger h hrun fun i => select_withProviders hchange ?_
      intro sr sp _ hsp
      rw [hsame, hsp]
    · rw [if_pos ⟨rfl, hset⟩] at hrun
      obtain ⟨-, -, -, hrecords⟩ := withProviders_ok hchange
      refine h.of_refreshes (refreshRecords_run_ok hrun) fun i hi => ?_
      apply select_withProviders hchange
      intro sr sp hsr hsp
      rw [Table.find_replace_of_ne, hsp]
      intro hsame
      apply hi
      rw [hrecords]
      exact ⟨sr, hsr, decide_eq_true hsame⟩

/-- A store that moves away is looked for under its new key and under its old one. -/
theorem updateStore_upToDate {id : ℕ} {set : StoreSet}
    (h : t.UpToDate (selectCostLine upper dateOf))
    (hchange : Statement.change t.src (.updateStore id set) = .ok src)
    (hrun : ((Statement.updateStore id set).triggers upper dateOf t.src).run
      { t with src := src } = .ok (u, t')) : t'.UpToDate (selectCostLine upper dateOf) := by
  simp only [Statement.change] at hchange
  simp only [Statement.triggers] at hrun
  cases hfind : t.src.stores.find id with
  | none =>
    rw [hfind] at hchange hrun
    cases hchange
    exact upToDate_of_no_trigger h hrun fun _ => rfl
  | some old =>
    rw [hfind] at hchange hrun
    obtain ⟨hold, rfl⟩ := Table.find_eq_some.mp hfind
    dsimp only at hchange hrun
    by_cases hset : set = .none
    · -- no column of the lines is set, so the row stays the same
      subst hset
      rw [if_neg (not_not.mpr rfl)] at hrun
      have hsame : t.src.stores.replace (StoreSet.none.apply old) = t.src.stores :=
        Table.replace_of_mem hold
      refine upToDate_of_no_trigger h hrun fun i => select_withStores hchange fun sr _ => ?_
      rw [hsame]
    · rw [if_pos hset] at hrun
      obtain ⟨-, -, -, hrecords⟩ := withStores_ok hchange
      refine h.of_refreshes (trgShippingCostStoreRefresh_run_ok hrun) fun i hi => ?_
      refine select_withStores hchange fun sr hsr => Table.filter_replace ?_ ?_
      · intro s hs hid
        have hsame : s = old := t.src.stores.eq_of_conflict (fun _ _ => Eq.symm) hs hold hid
        rw [hsame]
        refine decide_eq_false fun hmatch => hi ?_
        rw [hrecords]
        exact ⟨sr, hsr, .inr ⟨old, rfl, hmatch⟩⟩
      · refine decide_eq_false fun hmatch => hi ?_
        rw [hrecords]
        exact ⟨sr, hsr, .inl ⟨_, rfl, hmatch⟩⟩

theorem deleteStore_upToDate {id : ℕ} (h : t.UpToDate (selectCostLine upper dateOf))
    (hchange : Statement.change t.src (.deleteStore id) = .ok src)
    (hrun : ((Statement.deleteStore id).triggers upper dateOf t.src).run
      { t with src := src } = .ok (u, t')) : t'.UpToDate (selectCostLine upper dateOf) := by
  simp only [Statement.change] at hchange
  simp only [Statement.triggers] at hrun
  -- the stores that stay match as before, when the deleted one did not match
  have hfilter : ∀ sr, (∀ s ∈ t.src.stores.rows, s.id = id → ¬Matches upper s sr) →
      ((t.src.stores.filter fun s => s.id ≠ id).rows.filter fun s => Matches upper s sr) =
        t.src.stores.rows.filter fun s => Matches upper s sr := by
    intro sr hno
    unfold Table.filter
    rw [List.filter_filter]
    refine List.filter_congr fun s hs => ?_
    by_cases hid : s.id = id
    · simp [hno s hs hid]
    · simp [hid]
  cases hfind : t.src.stores.find id with
  | none =>
    rw [hfind] at hrun
    refine upToDate_of_no_trigger h hrun fun i => select_withStores hchange fun sr _ => ?_
    exact hfilter sr fun s hs hid => absurd hid (Table.find_eq_none.mp hfind s hs)
  | some old =>
    rw [hfind] at hrun
    obtain ⟨hold, rfl⟩ := Table.find_eq_some.mp hfind
    obtain ⟨-, -, -, hrecords⟩ := withStores_ok hchange
    refine h.of_refreshes (trgShippingCostStoreRefresh_run_ok hrun) fun i hi => ?_
    refine select_withStores hchange fun sr hsr => hfilter sr fun s hs hid hmatch => hi ?_
    have hsame : s = old := t.src.stores.eq_of_conflict (fun _ _ => Eq.symm) hs hold hid
    rw [hrecords]
    exact ⟨sr, hsr, .inr ⟨old, rfl, hsame ▸ hmatch⟩⟩

/-- An accepted statement leaves the lines up to date. -/
theorem Statement.upToDate {s : Statement} (h : t.UpToDate (selectCostLine upper dateOf))
    (hrun : (s.exec upper dateOf).run t = .ok (u, t')) :
    t'.UpToDate (selectCostLine upper dateOf) := by
  obtain ⟨src, hchange, hrun⟩ := statement_run_ok.mp hrun
  cases s with
  | insertWarehouse new =>
    obtain ⟨warehouses, hinsert, hwith⟩ := except_bind_eq_ok.mp hchange
    refine upToDate_of_no_trigger h hrun fun i => select_withWarehouses hwith ?_
    intro sr w _ hw
    exact Table.find_insert_of_some (insertRow_ok.mp hinsert) hw
  | updateWarehouse id name => exact updateWarehouse_upToDate h hchange hrun
  | deleteWarehouse id =>
    obtain ⟨hwarehouses, -, -, hrecords⟩ := withWarehouses_ok hchange
    refine upToDate_of_no_trigger h hrun fun i => select_withWarehouses hchange ?_
    intro sr w hsr hw
    apply Table.find_filter_ne_of_mem hw
    rw [← hwarehouses]
    refine src.warehouse_fk sr ?_
    rw [hrecords]
    exact (Table.find_eq_some.mp hsr).1
  | insertProvider new =>
    obtain ⟨providers, hinsert, hwith⟩ := except_bind_eq_ok.mp hchange
    refine upToDate_of_no_trigger h hrun fun i => select_withProviders hwith ?_
    intro sr sp _ hsp
    exact Table.find_insert_of_some (insertRow_ok.mp hinsert) hsp
  | updateProvider id set => exact updateProvider_upToDate h hchange hrun
  | deleteProvider id =>
    obtain ⟨hproviders, -, -, hrecords⟩ := withProviders_ok hchange
    refine upToDate_of_no_trigger h hrun fun i => select_withProviders hchange ?_
    intro sr sp hsr hsp
    apply Table.find_filter_ne_of_mem hsp
    rw [← hproviders]
    refine src.provider_fk sr ?_
    rw [hrecords]
    exact (Table.find_eq_some.mp hsr).1
  | insertStore new =>
    obtain ⟨stores, hinsert, hwith⟩ := except_bind_eq_ok.mp hchange
    obtain ⟨-, -, -, hrecords⟩ := withStores_ok hwith
    refine h.of_refreshes (trgShippingCostStoreRefresh_run_ok hrun) fun i hi => ?_
    refine select_withStores hwith fun sr hsr => ?_
    rw [(Table.insert_eq_some.mp (insertRow_ok.mp hinsert)).2, List.filter_append]
    have hno : ¬Matches upper new sr := by
      intro hmatch
      apply hi
      rw [hrecords]
      exact ⟨sr, hsr, .inl ⟨new, rfl, hmatch⟩⟩
    simp [hno]
  | updateStore id set => exact updateStore_upToDate h hchange hrun
  | deleteStore id => exact deleteStore_upToDate h hchange hrun
  | insertRecord new =>
    obtain ⟨records, hinsert, hwith⟩ := except_bind_eq_ok.mp hchange
    have hinsert := insertRow_ok.mp hinsert
    have hnew : src.records.find new.id = some new := by
      rw [(withRecords_ok hwith).1, Table.find_insert hinsert, if_pos rfl]
    refine h.of_refreshes (refresh_run_ok (select_ne_none hnew) hrun) fun i hi => ?_
    apply select_withRecords hwith
    rw [Table.find_insert hinsert, if_neg hi]
  | updateRecord new =>
    simp only [Statement.triggers] at hrun
    cases hfind : t.src.records.find new.id with
    | none =>
      rw [hfind] at hrun
      have hno := Table.find_eq_none.mp hfind
      refine upToDate_of_no_trigger h hrun fun i => select_withRecords hchange ?_
      by_cases hi : i = new.id
      · rw [hi, hfind, Table.find_eq_none]
        intro sr hsr
        rcases Table.mem_replace.mp hsr with ⟨-, b, hb, hkey⟩ | ⟨-, hne⟩
        · exact absurd hkey (hno b hb)
        · exact hne
      · exact Table.find_replace_of_ne hi
    | some old =>
      rw [hfind, if_pos Option.isSome_some] at hrun
      have hnew : src.records.find new.id = some new := by
        rw [(withRecords_ok hchange).1]
        exact Table.find_replace ⟨old, Table.find_eq_some.mp hfind⟩
      refine h.of_refreshes (refresh_run_ok (select_ne_none hnew) hrun) fun i hi => ?_
      exact select_withRecords hchange (Table.find_replace_of_ne hi)
  | deleteRecord id =>
    simp only [Statement.triggers] at hrun
    cases hfind : t.src.records.find id with
    | none =>
      rw [hfind] at hrun
      refine upToDate_of_no_trigger h hrun fun i => select_withRecords hchange ?_
      rw [Table.find_filter_ne]
      split
      · rename_i hi
        rw [hi, hfind]
      · rfl
    | some old =>
      rw [hfind, if_pos Option.isSome_some] at hrun
      have hgone : src.records.find id = none := by
        rw [(withRecords_ok hchange).1, Table.find_filter_ne, if_pos rfl]
      refine h.of_refreshes (discard_run_ok (select_of_no_record hgone) hrun) fun i hi => ?_
      apply select_withRecords hchange
      rw [Table.find_filter_ne, if_neg hi]

/-! ## Runs -/

/-- No rows. -/
def CostTables.empty : CostTables := ⟨.empty, fun _ => none⟩

/-- Statements that fail are rolled back, so the lines are up to date in every state. -/
theorem upToDate_attemptAll (statements : List Statement) :
    (Tx.attemptAll (Statement.exec upper dateOf) statements CostTables.empty).UpToDate
      (selectCostLine upper dateOf) := by
  refine Tx.attemptAll_invariant (P := fun _ _ => True) ?_ ?_ (Tx.allAccepted_true _ _)
  · intro s t u t' h _ hrun
    exact s.upToDate h hrun
  · intro i
    rfl

/-- From empty tables the lines mirror the records in every state of a run and every statement
that the keys admit is carried out exactly when each such statement writes its table so that no
record has two matching stores. -/
theorem cost_lines_iff (upper : String → String) (dateOf : ℤ → Date)
    (statements : List Statement) :
    (∀ n, Serves upper dateOf
      (Tx.attemptAll (Statement.exec upper dateOf) (statements.take n) CostTables.empty)
      statements[n]?) ↔
      Tx.Along (Statement.exec upper dateOf)
        (fun s t => ∀ src, s.change t.src = .ok src → src.NoClash upper) statements
        CostTables.empty := by
  rw [Tx.along_iff]
  constructor
  · intro h n s hs src hchange
    obtain ⟨t', hrun⟩ := (h n).runs s hs src hchange
    obtain ⟨src', hchange', htriggers⟩ := statement_run_ok.mp hrun
    obtain rfl : src = src' := Except.ok.inj (hchange.symm.trans hchange')
    have hsrc : t'.src = src := follows_triggers s _ _ ⟨⟩ t' htriggers
    rw [← hsrc]
    exact UpToDate.noClash (s.upToDate (upToDate_attemptAll _) hrun)
  · intro h n
    refine ⟨UpToDate.mirrors (upToDate_attemptAll _), fun s hs src hchange => ?_⟩
    exact s.exists_run hchange (h n s hs src hchange)

/-! ## A store code with a blank behind it -/

/-- A record of the first store. -/
def firstRecord : ShippingRecord where
  id := 1
  platform := .lit "PDD"
  storeCode := .lit "S1"
  orderRef := ⟨"ORD:PDD:S1:E1", by decide⟩
  packageNo := 1
  trackingNo := some ⟨"T1", by decide⟩
  warehouseId := 1
  shippingProviderId := 1
  shippingProviderCode := none
  shippingProviderName := none
  grossWeight := none
  freightEstimated := none
  surchargeEstimated := none
  costEstimated := none
  destProvince := none
  destCity := none
  createdAt := 0

/-- A second store, whose code differs from that of the first one in a blank. -/
def secondStore : Statement :=
  .insertStore ⟨2, .lit "PDD", ⟨"S1 ", by decide⟩, ⟨"Two", by decide⟩⟩

/-- A store with a record, and then the second store. -/
def twoStores : List Statement :=
  [.insertWarehouse ⟨1, ⟨"Main", by decide⟩⟩,
    .insertProvider ⟨1, ⟨"YTO", by decide⟩, ⟨"YTO", by decide⟩⟩,
    .insertStore ⟨1, .lit "PDD", .lit "S1", ⟨"One", by decide⟩⟩,
    .insertRecord firstRecord, secondStore]

/-- `upper` of letters that have one upper case letter each. -/
def asciiUpper (s : String) : String := String.ofList (s.toList.map Char.toUpper)

/-- Every time is in the first days of 2026. -/
def firstOfYear : ℤ → Date := fun _ => .lit 2026 1 1

/-- The tables after the first statements of the run. -/
def afterStatements (n : ℕ) : CostTables :=
  Tx.attemptAll (Statement.exec asciiUpper firstOfYear) (twoStores.take n) CostTables.empty

/-- The second store has a key of its own, and the trigger refuses it. -/
theorem not_cost_lines :
    ¬∀ n, Serves asciiUpper firstOfYear (afterStatements n) twoStores[n]? := by
  intro h
  have hadmitted : (secondStore.change (afterStatements 4).src).toBool = true := by
    decide +kernel
  have hfails : ((secondStore.exec asciiUpper firstOfYear).run (afterStatements 4)).toBool =
      false := by
    decide +kernel
  cases hchange : secondStore.change (afterStatements 4).src with
  | error e =>
    rw [hchange] at hadmitted
    cases hadmitted
  | ok src =>
    obtain ⟨t', hrun⟩ := (h 4).runs secondStore rfl src hchange
    rw [hrun] at hfails
    cases hfails

end Wms.Finance.ShippingCosts
