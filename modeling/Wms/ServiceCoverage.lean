import Wms.Warehouses.ServiceAreas

/-!
# Addresses are served as configured

Routing looks an address up under the standard name of its province, while the service
routes store the names as they are spelled; a city is looked up together with its province,
which no route writes; and a province may be given to a warehouse although it is split. The
lists that were accepted are honoured exactly as long as no request depends on one of these.
-/

namespace Wms

open Foundation

/-! ## What the accepted requests say -/

/-- The name is a spelling of the standard name. -/
def Spells (p n : String) : Prop := normalizeProvinceName (some p) = some n

/-- Two spellings of one province. -/
def SameProvince (p q : String) : Prop :=
  normalizeProvinceName (some p) = normalizeProvinceName (some q)

instance (p q : String) : Decidable (SameProvince p q) := inferInstanceAs (Decidable (_ = _))

/-- A request to one of the three routes. -/
inductive ServiceRequest
  | provinces (warehouseId : ℕ) (raw : List String)
  | cities (warehouseId : ℕ) (raw : List String)
  | split (raw : List String)

/-- Serve a request. -/
def ServiceRequest.exec : ServiceRequest → ServiceTx (List String)
  | .provinces w raw => putServiceProvinces w raw
  | .cities w raw => putServiceCities w raw
  | .split raw => putCitySplitProvinces raw

/-- The lists that were accepted last: the provinces that are split, and the provinces and
the cities of every warehouse. -/
structure Coverage where
  split : List String
  provinces : ℕ → List String
  cities : ℕ → List String

/-- An accepted request replaces a list, and split provinces no longer belong to a
warehouse. -/
def Coverage.accept (c : Coverage) : ServiceRequest → Coverage
  | .provinces w raw => { c with provinces := Function.update c.provinces w raw }
  | .cities w raw => { c with cities := Function.update c.cities w raw }
  | .split raw =>
    { c with
      split := raw
      provinces := fun w => (c.provinces w).filter fun p => ∀ q ∈ raw, ¬SameProvince p q }

/-- The province with the standard name is split. -/
def Coverage.Splits (c : Coverage) (n : String) : Prop := ∃ q ∈ c.split, Spells q n

/-- The warehouse is to serve the address: it has the province or, where this is split, the
city. -/
def Coverage.Serves (c : Coverage) (w : ℕ) (a : RouteAddress) : Prop :=
  ∃ n, normalizeProvinceName a.province = some n ∧
    ((¬c.Splits n ∧ ∃ q ∈ c.provinces w, Spells q n) ∨
      (c.Splits n ∧ ∃ city, cleanText a.city = some city ∧ ∃ q ∈ c.cities w, strip q = city))

/-- The service tables together with what was accepted. -/
structure Served where
  tables : ServiceTables
  coverage : Coverage

/-- Serve a request and note it when it is accepted. -/
def ServiceRequest.record (r : ServiceRequest) : Tx Served Err (List String) := do
  let codes ← r.exec.zoom Served.tables fun t s => { s with tables := t }
  modify fun s => { s with coverage := s.coverage.accept r }
  return codes

/-- Nothing has been requested yet. -/
def Served.initial (warehouses : List ℕ) (h : ∀ w ∈ warehouses, 0 < w) : Served :=
  ⟨.initial warehouses h, ⟨[], fun _ => [], fun _ => []⟩⟩

/-! ## Routing -/

/-- The route leads to the warehouse. -/
def RoutePayload.AssignedTo (route : RoutePayload) (w : ℕ) : Prop :=
  route.status = some "SERVICE_ASSIGNED" ∧ route.serviceWarehouseId = some w

/-- The address does not rely on the environment. -/
structure RouteAddress.Explicit (a : RouteAddress) : Prop where
  province : a.fallbackProvince = none
  city : a.fallbackCity = none

/-- What was accepted is honoured: a province and a city have one warehouse, no province is
split and has a warehouse, and every address is routed to the warehouse that is to serve it
and blocked when there is none. -/
structure Served.Honoured (s : Served) : Prop where
  province_owner : ∀ w w' p p', s.tables.HasProvince w p → s.tables.HasProvince w' p' →
    SameProvince p p' → w = w'
  city_owner : ∀ w w' c, s.tables.HasCity w c → s.tables.HasCity w' c → w = w'
  apart : ∀ w p q, s.tables.HasProvince w p → s.tables.IsSplit q → ¬SameProvince p q
  routed : ∀ a : RouteAddress, a.Explicit → ∀ w,
    (resolveRoutePayload s.tables.areas a).AssignedTo w ↔ s.coverage.Serves w a
  blocked : ∀ a : RouteAddress, a.Explicit →
    ((resolveRoutePayload s.tables.areas a).status = some "FULFILLMENT_BLOCKED" ↔
      ¬∃ w, s.coverage.Serves w a)

/-- The provinces of a warehouse come with their standard names and are not split; cities
are given only while no province is split, and provinces are split only while no warehouse
has a city, in all the spellings in which they belong to a warehouse. -/
def ServiceRequest.Fits : ServiceRequest → Served → Prop
  | .provinces _ raw, s =>
    (∀ p ∈ normalizeCodes raw, ∀ n, Spells p n → n ∈ normalizeCodes raw) ∧
      ∀ p ∈ normalizeCodes raw, ∀ q, s.tables.IsSplit q → ¬SameProvince p q
  | .cities _ raw, s => normalizeCodes raw = [] ∨ ∀ q, ¬s.tables.IsSplit q
  | .split raw, s =>
    (normalizeCodes raw = [] ∨ ∀ w c, ¬s.tables.HasCity w c) ∧
      ∀ w p, s.tables.HasProvince w p → ∀ q ∈ normalizeCodes raw, SameProvince p q →
        p ∈ normalizeCodes raw

variable {t : ServiceTables} {a : RouteAddress} {w : ℕ} {n p q city : String}

theorem Spells.idem (h : Spells p n) : Spells n n := normalizeProvinceName_idem h

theorem Spells.same (hp : Spells p n) (hq : Spells q n) : SameProvince p q := hp.trans hq.symm

/-- A name that was given is stored stripped, unless it is blank. -/
theorem mem_normalizeCodes_of_spells {raw : List String} (hq : q ∈ raw) (h : Spells q n) :
    strip q ∈ normalizeCodes raw ∧ Spells (strip q) n := by
  have hblank : strip q ≠ "" := by
    intro hblank
    have hempty : normalizeProvinceName (some "") = none := by decide +kernel
    have hnone := normalizeProvinceName_strip q
    rw [h, hblank, hempty] at hnone
    cases hnone
  refine ⟨mem_normalizeCodes.mpr ⟨hblank, q, hq, rfl⟩, ?_⟩
  unfold Spells
  rw [normalizeProvinceName_strip]
  exact h

/-- What is stored was given in some spelling. -/
theorem exists_spells_of_mem {raw : List String} (hp : p ∈ normalizeCodes raw) (h : Spells p n) :
    ∃ q ∈ raw, Spells q n := by
  obtain ⟨-, q, hq, rfl⟩ := mem_normalizeCodes.mp hp
  exact ⟨q, hq, (normalizeProvinceName_strip q).symm.trans h⟩

theorem exists_spells {raw : List String} (hp : p ∈ normalizeCodes raw) : ∃ n, Spells p n := by
  obtain ⟨hne, q, -, rfl⟩ := mem_normalizeCodes.mp hp
  refine exists_normalizeProvinceName ?_
  rw [strip_strip]
  exact hne

/-- The warehouse of a province as routing finds it. -/
theorem serviceWarehouse_lookup :
    serviceWarehouse (t.areas.provinces.lookup n) = some w ↔ t.HasProvince w n := by
  have hlookup : ∀ o : Option ℕ, t.areas.provinces.lookup n = some o ↔
      Holdings.Holds (fun r : ServiceProvince => some r.warehouseId) t.provinces o n :=
    fun o => Holdings.lookup_eq_some_iff
  unfold serviceWarehouse
  constructor
  · intro h
    have hjoin := (Option.filter_eq_some_iff.mp h).1
    obtain ⟨r, hr, howner, hcode⟩ := (hlookup (some w)).mp (Option.join_eq_some_iff.mp hjoin)
    exact ⟨r, hr, Option.some.inj howner, hcode⟩
  · rintro ⟨r, hr, rfl, hcode⟩
    have hpos := t.warehouses_pos _ (t.provinces_fk r hr)
    rw [(hlookup (some r.warehouseId)).mpr ⟨r, hr, rfl, hcode⟩]
    exact Option.filter_eq_some_iff.mpr ⟨rfl, decide_eq_true hpos⟩

/-- Routing never finds a city: it selects by the province of a city, and there is none. -/
theorem areas_cities_eq_nil (h : t.CitiesWithoutProvince) : t.areas.cities = [] := by
  unfold ServiceTables.areas
  refine List.filterMap_eq_nil_iff.mpr fun r hr => ?_
  rw [h r hr]
  rfl

/-- Every address is either blocked or routed to a warehouse. -/
theorem resolveRoutePayload_blocked_iff (areas : ServiceAreas) (a : RouteAddress) :
    (resolveRoutePayload areas a).status = some "FULFILLMENT_BLOCKED" ↔
      ¬∃ w, (resolveRoutePayload areas a).AssignedTo w := by
  have hblocked : ∀ mode reason : String,
      (blockedRoute mode reason).status = some "FULFILLMENT_BLOCKED" ↔
        ¬∃ w, (blockedRoute mode reason).AssignedTo w := by
    intro mode reason
    refine iff_of_true rfl ?_
    rintro ⟨w, -, hw⟩
    cases hw
  have hassigned : ∀ (mode : String) (w : ℕ),
      (assignedRoute mode w).status = some "FULFILLMENT_BLOCKED" ↔
        ¬∃ w', (assignedRoute mode w).AssignedTo w' := by
    intro mode w
    refine iff_of_false ?_ (not_not.mpr ⟨w, rfl, rfl⟩)
    change some "SERVICE_ASSIGNED" ≠ some "FULFILLMENT_BLOCKED"
    decide
  unfold resolveRoutePayload
  dsimp only
  split
  · exact hblocked _ _
  · split
    · split
      · exact hblocked _ _
      · exact hassigned _ _
    · split
      · exact hblocked _ _
      · exact hassigned _ _

/-- An address is routed by the standard name of its province, and only to the warehouse of
a province that is not split. -/
theorem resolveRoutePayload_assigned_iff (h : t.CitiesWithoutProvince) (ha : a.Explicit) :
    (resolveRoutePayload t.areas a).AssignedTo w ↔
      ∃ n, normalizeProvinceName a.province = some n ∧ ¬t.IsSplit n ∧ t.HasProvince w n := by
  have hprovince : normalizeProvinceName
      ((cleanText a.province).or (cleanText a.fallbackProvince)) =
        normalizeProvinceName a.province := by
    rw [ha.province, ← normalizeProvinceName_cleanText a.province]
    cases cleanText a.province with
    | none => rfl
    | some s => rfl
  have hnever : ∀ mode reason : String, ¬(blockedRoute mode reason).AssignedTo w := by
    rintro mode reason ⟨-, hw⟩
    cases hw
  have hcity : ∀ (o : Option String) (n : String),
      (o.bind fun c => serviceWarehouse (t.areas.cities.lookup (n, c))) = none := by
    intro o n
    rw [areas_cities_eq_nil h]
    cases o with
    | none => rfl
    | some c => rfl
  unfold resolveRoutePayload
  dsimp only
  rw [hprovince]
  cases hnorm : normalizeProvinceName a.province with
  | none =>
    refine iff_of_false (hnever _ _) ?_
    rintro ⟨n, hn, -⟩
    cases hn
  | some n =>
    have hiff : (∃ n', some n = some n' ∧ ¬t.IsSplit n' ∧ t.HasProvince w n') ↔
        ¬t.IsSplit n ∧ t.HasProvince w n := by
      simp only [Option.some.injEq, exists_eq_left']
    rw [hiff]
    dsimp only
    by_cases hsplit : n ∈ t.areas.citySplitProvinces
    · rw [if_pos hsplit, hcity]
      exact iff_of_false (hnever _ _) fun h => h.1 hsplit
    · rw [if_neg hsplit, ← serviceWarehouse_lookup]
      cases serviceWarehouse (t.areas.provinces.lookup n) with
      | none =>
        refine iff_of_false (hnever _ _) ?_
        rintro ⟨-, hnone⟩
        cases hnone
      | some w' =>
        constructor
        · rintro ⟨-, hw⟩
          exact ⟨hsplit, hw⟩
        · rintro ⟨-, hw⟩
          exact ⟨rfl, hw⟩

/-! ## The tables agree with what was accepted -/

/-- The tables hold what was accepted, provinces under their standard names too, and nothing
that routing would miss. -/
structure Served.Agrees (s : Served) : Prop where
  provinces_iff : ∀ w p, s.tables.HasProvince w p ↔ p ∈ normalizeCodes (s.coverage.provinces w)
  cities_iff : ∀ w c, s.tables.HasCity w c ↔ c ∈ normalizeCodes (s.coverage.cities w)
  split_iff : ∀ p, s.tables.IsSplit p ↔ p ∈ normalizeCodes s.coverage.split
  cities_without_province : s.tables.CitiesWithoutProvince
  closed : ∀ w p n, s.tables.HasProvince w p → Spells p n → s.tables.HasProvince w n
  apart : ∀ w p q, s.tables.HasProvince w p → s.tables.IsSplit q → ¬SameProvince p q
  split_or_cities : (∀ q, ¬s.tables.IsSplit q) ∨ ∀ w c, ¬s.tables.HasCity w c

namespace Served.Agrees

variable {s : Served}

/-- A province is split exactly when a spelling of it is stored as split. -/
theorem splits_iff (h : s.Agrees) : s.coverage.Splits n ↔ ∃ q, s.tables.IsSplit q ∧ Spells q n := by
  constructor
  · rintro ⟨q, hq, hn⟩
    obtain ⟨hmem, hspells⟩ := mem_normalizeCodes_of_spells hq hn
    exact ⟨strip q, (h.split_iff _).mpr hmem, hspells⟩
  · rintro ⟨q, hq, hn⟩
    exact exists_spells_of_mem ((h.split_iff q).mp hq) hn

/-- A warehouse has a province exactly when its standard name is stored. -/
theorem hasProvince_iff (h : s.Agrees) (hn : Spells n n) :
    s.tables.HasProvince w n ↔ ∃ q ∈ s.coverage.provinces w, Spells q n := by
  constructor
  · intro hp
    exact exists_spells_of_mem ((h.provinces_iff w n).mp hp) hn
  · rintro ⟨q, hq, hspells⟩
    obtain ⟨hmem, hstrip⟩ := mem_normalizeCodes_of_spells hq hspells
    exact h.closed w _ n ((h.provinces_iff w _).mpr hmem) hstrip

/-- No address in a split province is to be served: no warehouse has a city. -/
theorem no_city (h : s.Agrees) (hsplit : s.coverage.Splits n) (hcity : cleanText a.city = some city)
    (hq : q ∈ s.coverage.cities w) : strip q ≠ city := by
  intro hstrip
  have hne : city ≠ "" := by
    rintro rfl
    unfold cleanText at hcity
    split at hcity
    · cases hcity
    · split at hcity
      · cases hcity
      · rename_i hblank
        exact hblank (Option.some.inj hcity)
  obtain ⟨q', hq', -⟩ := h.splits_iff.mp hsplit
  rcases h.split_or_cities with hnone | hnone
  · exact hnone q' hq'
  · exact hnone w city ((h.cities_iff w city).mpr (mem_normalizeCodes.mpr ⟨hne, q, hq, hstrip⟩))

/-- Where the tables agree with what was accepted, it is honoured. -/
theorem honoured (h : s.Agrees) : s.Honoured := by
  have hrouted : ∀ a : RouteAddress, a.Explicit → ∀ w,
      (resolveRoutePayload s.tables.areas a).AssignedTo w ↔ s.coverage.Serves w a := by
    intro a ha w
    rw [resolveRoutePayload_assigned_iff h.cities_without_province ha]
    refine exists_congr fun n => and_congr_right fun hnorm => ?_
    have hn : Spells n n := normalizeProvinceName_idem hnorm
    constructor
    · rintro ⟨-, hp⟩
      refine .inl ⟨fun hsplit => ?_, (h.hasProvince_iff hn).mp hp⟩
      obtain ⟨q, hq, hspells⟩ := h.splits_iff.mp hsplit
      exact h.apart w n q hp hq (hn.same hspells)
    · rintro (⟨hsplit, hp⟩ | ⟨hsplit, city, hcity, q, hq, hstrip⟩)
      · exact ⟨fun hmem => hsplit (h.splits_iff.mpr ⟨n, hmem, hn⟩), (h.hasProvince_iff hn).mpr hp⟩
      · exact absurd hstrip (h.no_city hsplit hcity hq)
  refine ⟨?_, fun w w' c => Holdings.Holds.owner_eq, h.apart, hrouted, fun a ha => ?_⟩
  · intro w w' p p' hp hp' hsame
    obtain ⟨n, hn⟩ := exists_spells ((h.provinces_iff w p).mp hp)
    exact (h.closed w p n hp hn).owner_eq (h.closed w' p' n hp' (hsame.symm.trans hn))
  · rw [resolveRoutePayload_blocked_iff]
    exact not_congr (exists_congr fun w => hrouted a ha w)

end Served.Agrees

/-! ## Requests -/

section Requests

variable {s s' : Served} {r : ServiceRequest} {raw codes : List String}

theorem ServiceRequest.record_run_ok (h : r.record.run s = .ok (codes, s')) :
    r.exec.run s.tables = .ok (codes, s'.tables) ∧ s'.coverage = s.coverage.accept r := by
  unfold ServiceRequest.record at h
  simp only [Tx.run_bind_ok, Tx.run_zoom_ok, Tx.run_modify_ok, Tx.run_pure_ok] at h
  obtain ⟨_, _, ⟨t, hrun, rfl⟩, _, _, rfl, rfl, rfl⟩ := h
  exact ⟨hrun, rfl⟩

/-- An accepted list of provinces that fits keeps the agreement. -/
theorem Served.Agrees.putProvinces (h : s.Agrees)
    (hfits : (ServiceRequest.provinces w raw).Fits s)
    (hrun : (ServiceRequest.provinces w raw).record.run s = .ok (codes, s')) : s'.Agrees := by
  obtain ⟨hexec, hcoverage⟩ := ServiceRequest.record_run_ok hrun
  obtain ⟨hsplit, hcities, hprovinces⟩ := putServiceProvinces_run_ok hexec
  obtain ⟨hclosed, hapart⟩ := hfits
  have hsplits : ∀ q, s'.tables.IsSplit q ↔ s.tables.IsSplit q := by
    intro q
    unfold ServiceTables.IsSplit
    rw [hsplit]
  have hcity : ∀ w c, s'.tables.HasCity w c ↔ s.tables.HasCity w c := by
    intro w c
    unfold ServiceTables.HasCity
    rw [hcities]
  refine ⟨fun w' p => ?_, fun w' c => ?_, fun p => ?_, ?_, fun w' p n hp hn => ?_,
    fun w' p q hp hq => ?_, ?_⟩
  · rw [hprovinces, hcoverage]
    change _ ↔ p ∈ normalizeCodes (Function.update s.coverage.provinces w raw w')
    by_cases hw : w' = w
    · rw [if_pos hw, hw, Function.update_self]
    · rw [if_neg hw, Function.update_of_ne hw, h.provinces_iff]
  · rw [hcity, hcoverage]
    exact h.cities_iff w' c
  · rw [hsplits, hcoverage]
    exact h.split_iff p
  · unfold ServiceTables.CitiesWithoutProvince
    rw [hcities]
    exact h.cities_without_province
  · rw [hprovinces] at hp ⊢
    by_cases hw : w' = w
    · rw [if_pos hw] at hp ⊢
      exact hclosed p hp n hn
    · rw [if_neg hw] at hp ⊢
      exact h.closed w' p n hp hn
  · rw [hprovinces] at hp
    rw [hsplits] at hq
    by_cases hw : w' = w
    · rw [if_pos hw] at hp
      exact hapart p hp q hq
    · rw [if_neg hw] at hp
      exact h.apart w' p q hp hq
  · simp only [hsplits, hcity]
    exact h.split_or_cities

/-- An accepted list of cities that fits keeps the agreement. -/
theorem Served.Agrees.putCities (h : s.Agrees) (hfits : (ServiceRequest.cities w raw).Fits s)
    (hrun : (ServiceRequest.cities w raw).record.run s = .ok (codes, s')) : s'.Agrees := by
  obtain ⟨hexec, hcoverage⟩ := ServiceRequest.record_run_ok hrun
  obtain ⟨hsplit, hprovinces, hnone, hcities⟩ := putServiceCities_run_ok hexec
  have hsplits : ∀ q, s'.tables.IsSplit q ↔ s.tables.IsSplit q := by
    intro q
    unfold ServiceTables.IsSplit
    rw [hsplit]
  have hprovince : ∀ w p, s'.tables.HasProvince w p ↔ s.tables.HasProvince w p := by
    intro w p
    unfold ServiceTables.HasProvince
    rw [hprovinces]
  refine ⟨fun w' p => ?_, fun w' c => ?_, fun p => ?_, hnone h.cities_without_province, ?_, ?_, ?_⟩
  · rw [hprovince, hcoverage]
    exact h.provinces_iff w' p
  · rw [hcities, hcoverage]
    change _ ↔ c ∈ normalizeCodes (Function.update s.coverage.cities w raw w')
    by_cases hw : w' = w
    · rw [if_pos hw, hw, Function.update_self]
    · rw [if_neg hw, Function.update_of_ne hw, h.cities_iff]
  · rw [hsplits, hcoverage]
    exact h.split_iff p
  · simp only [hprovince]
    exact h.closed
  · simp only [hprovince, hsplits]
    exact h.apart
  · simp only [hsplits, hcities]
    rcases hfits with hempty | hnosplit
    · rcases h.split_or_cities with hnosplit | hnocity
      · exact .inl hnosplit
      · refine .inr fun w' c => ?_
        split
        · rw [hempty]
          exact List.not_mem_nil
        · exact hnocity w' c
    · exact .inl hnosplit

/-- A stored province is still given after the split ones have been taken away, unless it
is the same as one of these. -/
theorem mem_normalizeCodes_filter {given : List String} :
    p ∈ normalizeCodes (given.filter fun p => ∀ q ∈ raw, ¬SameProvince p q) ↔
      p ∈ normalizeCodes given ∧ ∀ q ∈ raw, ¬SameProvince p q := by
  have hstrip : ∀ x q : String, SameProvince (strip x) q ↔ SameProvince x q := by
    intro x q
    unfold SameProvince
    rw [normalizeProvinceName_strip]
  simp only [mem_normalizeCodes, List.mem_filter, decide_eq_true_eq]
  constructor
  · rintro ⟨hne, x, ⟨hx, hsame⟩, rfl⟩
    exact ⟨⟨hne, x, hx, rfl⟩, fun q hq => mt (hstrip x q).mp (hsame q hq)⟩
  · rintro ⟨⟨hne, x, hx, rfl⟩, hsame⟩
    exact ⟨hne, x, ⟨hx, fun q hq => mt (hstrip x q).mpr (hsame q hq)⟩, rfl⟩

/-- An accepted list of split provinces that fits keeps the agreement. -/
theorem Served.Agrees.putSplit (h : s.Agrees) (hfits : (ServiceRequest.split raw).Fits s)
    (hrun : (ServiceRequest.split raw).record.run s = .ok (codes, s')) : s'.Agrees := by
  obtain ⟨hexec, hcoverage⟩ := ServiceRequest.record_run_ok hrun
  obtain ⟨hcities, hsplit, hprovinces⟩ := putCitySplitProvinces_run_ok hexec
  obtain ⟨hnocity, hlisted⟩ := hfits
  have hcity : ∀ w c, s'.tables.HasCity w c ↔ s.tables.HasCity w c := by
    intro w c
    unfold ServiceTables.HasCity
    rw [hcities]
  -- a province that stays is no spelling of a listed one
  have hstays : ∀ w p, s.tables.HasProvince w p →
      (p ∉ normalizeCodes raw ↔ ∀ q ∈ raw, ¬SameProvince p q) := by
    intro w p hp
    obtain ⟨n, hn⟩ := exists_spells ((h.provinces_iff w p).mp hp)
    constructor
    · intro hmem q hq hsame
      obtain ⟨hstored, hspells⟩ := mem_normalizeCodes_of_spells hq (hsame.symm.trans hn)
      exact hmem (hlisted w p hp _ hstored (hn.same hspells))
    · intro hall hmem
      obtain ⟨q, hq, hspells⟩ := exists_spells_of_mem hmem hn
      exact hall q hq (hn.same hspells)
  refine ⟨fun w p => ?_, fun w c => ?_, fun p => ?_, ?_, fun w p n hp hn => ?_,
    fun w p q hp hq hsame => ?_, ?_⟩
  · rw [hprovinces, hcoverage]
    change _ ↔ p ∈ normalizeCodes ((s.coverage.provinces w).filter
      fun p => ∀ q ∈ raw, ¬SameProvince p q)
    rw [mem_normalizeCodes_filter, ← h.provinces_iff]
    exact and_congr_right fun hp => hstays w p hp
  · rw [hcity, hcoverage]
    exact h.cities_iff w c
  · rw [hsplit, hcoverage]
    rfl
  · unfold ServiceTables.CitiesWithoutProvince
    rw [hcities]
    exact h.cities_without_province
  · obtain ⟨hold, hkept⟩ := (hprovinces w p).mp hp
    refine (hprovinces w n).mpr ⟨h.closed w p n hold hn, fun hmem => ?_⟩
    exact hkept (hlisted w p hold n hmem (hn.same hn.idem))
  · obtain ⟨hold, hkept⟩ := (hprovinces w p).mp hp
    exact hkept (hlisted w p hold q ((hsplit q).mp hq) hsame)
  · simp only [hcity, hsplit]
    rcases hnocity with hempty | hnone
    · rw [hempty]
      exact .inl fun q => List.not_mem_nil
    · exact .inr hnone

/-- An accepted request that fits keeps the agreement. -/
theorem Served.Agrees.step (h : s.Agrees) (hfits : r.Fits s)
    (hrun : r.record.run s = .ok (codes, s')) : s'.Agrees := by
  cases r with
  | provinces w raw => exact h.putProvinces hfits hrun
  | cities w raw => exact h.putCities hfits hrun
  | split raw => exact h.putSplit hfits hrun

/-- No warehouse has a city while a province is split, where every address is routed as
accepted. -/
theorem Served.Honoured.not_city_of_split (h : s.Honoured)
    (hnone : s.tables.CitiesWithoutProvince)
    (hcity : ∃ c ∈ s.coverage.cities w, strip c ≠ "") (hq : s.tables.IsSplit q)
    (hn : Spells q n) (hsplits : s.coverage.Splits n) : False := by
  obtain ⟨c, hc, hne⟩ := hcity
  let a : RouteAddress := ⟨some q, some c, none, none⟩
  have ha : a.Explicit := ⟨rfl, rfl⟩
  have hclean : cleanText a.city = some (strip c) := if_neg hne
  have hserves : s.coverage.Serves w a := ⟨n, hn, .inr ⟨hsplits, strip c, hclean, c, hc, rfl⟩⟩
  obtain ⟨n', hn', -, hp⟩ := (resolveRoutePayload_assigned_iff hnone ha).mp
    ((h.routed a ha w).mpr hserves)
  obtain rfl : n = n' := Option.some.inj (hn.symm.trans hn')
  exact h.apart w n q hp hq (hn.idem.same hn)

/-- Where what was accepted is honoured after the request, the request fits. -/
theorem Served.Agrees.fits (h : s.Agrees) (hrun : r.record.run s = .ok (codes, s'))
    (hhonoured : s'.Honoured) : r.Fits s := by
  obtain ⟨hexec, hcoverage⟩ := ServiceRequest.record_run_ok hrun
  cases r with
  | provinces w raw =>
    obtain ⟨hsplit, -, hprovinces⟩ := putServiceProvinces_run_ok hexec
    have hp' : ∀ p, s'.tables.HasProvince w p ↔ p ∈ normalizeCodes raw := by
      intro p
      rw [hprovinces, if_pos rfl]
    have hapart : ∀ p ∈ normalizeCodes raw, ∀ q, s.tables.IsSplit q → ¬SameProvince p q := by
      intro p hp q hq
      refine hhonoured.apart w p q ((hp' p).mpr hp) ?_
      unfold ServiceTables.IsSplit
      rw [hsplit]
      exact hq
    refine ⟨fun p hp n hn => ?_, hapart⟩
    let a : RouteAddress := ⟨some p, none, none, none⟩
    have ha : a.Explicit := ⟨rfl, rfl⟩
    have hnotsplit : ¬s'.coverage.Splits n := by
      rw [hcoverage]
      intro hsplits
      obtain ⟨q, hq, hspells⟩ := h.splits_iff.mp hsplits
      exact hapart p hp q hq (hn.same hspells)
    have hgiven : ∃ q ∈ s'.coverage.provinces w, Spells q n := by
      rw [hcoverage]
      change ∃ q ∈ Function.update s.coverage.provinces w raw w, Spells q n
      rw [Function.update_self]
      exact exists_spells_of_mem hp hn
    have hnone : s'.tables.CitiesWithoutProvince := by
      obtain ⟨-, hcities, -⟩ := putServiceProvinces_run_ok hexec
      unfold ServiceTables.CitiesWithoutProvince
      rw [hcities]
      exact h.cities_without_province
    obtain ⟨n', hn', -, hhas⟩ := (resolveRoutePayload_assigned_iff hnone ha).mp
      ((hhonoured.routed a ha w).mpr ⟨n, hn, .inl ⟨hnotsplit, hgiven⟩⟩)
    obtain rfl : n = n' := Option.some.inj (hn.symm.trans hn')
    exact (hp' n).mp hhas
  | cities w raw =>
    obtain ⟨hsplit, -, hnone, hcities⟩ := putServiceCities_run_ok hexec
    by_contra hfits
    obtain ⟨hcodes, hsome⟩ := not_or.mp hfits
    obtain ⟨q, hq⟩ := not_forall_not.mp hsome
    obtain ⟨c, hc⟩ := List.exists_mem_of_ne_nil _ hcodes
    obtain ⟨hne, c', hmem, rfl⟩ := mem_normalizeCodes.mp hc
    obtain ⟨n, hn⟩ := exists_spells ((h.split_iff q).mp hq)
    refine hhonoured.not_city_of_split (w := w) (hnone h.cities_without_province) ⟨c', ?_, hne⟩
      (q := q) ?_ hn ?_
    · rw [hcoverage]
      change c' ∈ Function.update s.coverage.cities w raw w
      rw [Function.update_self]
      exact hmem
    · unfold ServiceTables.IsSplit
      rw [hsplit]
      exact hq
    · rw [hcoverage]
      exact h.splits_iff.mpr ⟨q, hq, hn⟩
  | split raw =>
    obtain ⟨hcities, hsplit, hprovinces⟩ := putCitySplitProvinces_run_ok hexec
    refine ⟨?_, fun w p hp q hq hsame => ?_⟩
    · by_contra hfits
      obtain ⟨hcodes, hsome⟩ := not_or.mp hfits
      obtain ⟨w, hw⟩ := not_forall.mp hsome
      obtain ⟨c, hc⟩ := not_forall_not.mp hw
      obtain ⟨q, hq⟩ := List.exists_mem_of_ne_nil _ hcodes
      obtain ⟨n, hn⟩ := exists_spells hq
      obtain ⟨hne, c', hmem, rfl⟩ := mem_normalizeCodes.mp ((h.cities_iff w c).mp hc)
      refine hhonoured.not_city_of_split (w := w) ?_ ⟨c', ?_, hne⟩ ((hsplit q).mpr hq) hn ?_
      · unfold ServiceTables.CitiesWithoutProvince
        rw [hcities]
        exact h.cities_without_province
      · rw [hcoverage]
        exact hmem
      · rw [hcoverage]
        exact exists_spells_of_mem hq hn
    · by_contra hmem
      exact hhonoured.apart w p q ((hprovinces w p).mpr ⟨hp, hmem⟩) ((hsplit q).mpr hq) hsame

end Requests

theorem Served.initial_agrees (warehouses : List ℕ) (h : ∀ w ∈ warehouses, 0 < w) :
    (Served.initial warehouses h).Agrees where
  provinces_iff _ _ := iff_of_false Holdings.not_holds_empty List.not_mem_nil
  cities_iff _ _ := iff_of_false Holdings.not_holds_empty List.not_mem_nil
  split_iff _ := iff_of_false List.not_mem_nil List.not_mem_nil
  cities_without_province _ hr := absurd hr List.not_mem_nil
  closed _ _ _ hp := absurd hp Holdings.not_holds_empty
  apart _ _ _ hp := absurd hp Holdings.not_holds_empty
  split_or_cities := .inl fun _ => List.not_mem_nil

/-- What was accepted is honoured after every request of a run exactly when the accepted
requests fit. -/
theorem served_honoured_iff (warehouses : List ℕ) (hpos : ∀ w ∈ warehouses, 0 < w)
    (requests : List ServiceRequest) :
    (∀ n, (Tx.attemptAll ServiceRequest.record (requests.take n)
      (Served.initial warehouses hpos)).Honoured) ↔
        Tx.AllAccepted ServiceRequest.record ServiceRequest.Fits requests
          (Served.initial warehouses hpos) := by
  apply Tx.forall_attemptAll_iff (I := Served.Agrees)
  · intro r s codes s' h hfits hrun
    exact h.step hfits hrun
  · intro s h
    exact h.honoured
  · intro r s codes s' h hrun hhonoured
    exact h.fits hrun hhonoured
  · exact Served.initial_agrees warehouses hpos

/-! ## A city of a split province -/

theorem one_pos_of_mem : ∀ w ∈ [1], 0 < w := by decide

/-- Zhejiang is split, and a warehouse has the city of Hangzhou. -/
def splitAndCity : List ServiceRequest := [.split ["浙江省"], .cities 1 ["杭州市"]]

/-- Requests for a warehouse. -/
theorem served_honoured_iff_splitAndCity :
    (∀ n, (Tx.attemptAll ServiceRequest.record (splitAndCity.take n)
      (Served.initial [1] one_pos_of_mem)).Honoured) ↔
        Tx.AllAccepted ServiceRequest.record ServiceRequest.Fits splitAndCity
          (Served.initial [1] one_pos_of_mem) :=
  served_honoured_iff [1] one_pos_of_mem splitAndCity

/-- The two requests have been accepted. -/
def splitServed : Served :=
  Tx.attemptAll ServiceRequest.record splitAndCity (Served.initial [1] one_pos_of_mem)

/-- An address in Hangzhou. -/
def hangzhou : RouteAddress := ⟨some "浙江省", some "杭州市", none, none⟩

/-- The address is to be served and is blocked. -/
theorem not_honoured_splitServed :
    splitServed.coverage.Serves 1 hangzhou ∧
      resolveRoutePayload splitServed.tables.areas hangzhou =
        blockedRoute "city" "NO_SERVICE_WAREHOUSE" ∧
      ¬splitServed.Honoured := by
  have hsplit : splitServed.coverage.split = ["浙江省"] := by decide +kernel
  have hcities : splitServed.coverage.cities 1 = ["杭州市"] := by decide +kernel
  have hspells : normalizeProvinceName (some "浙江省") = some "浙江省" := by decide +kernel
  have hblocked : resolveRoutePayload splitServed.tables.areas hangzhou =
      blockedRoute "city" "NO_SERVICE_WAREHOUSE" := by
    decide +kernel
  generalize splitServed = s at hsplit hcities hblocked ⊢
  have hserves : s.coverage.Serves 1 hangzhou := by
    refine ⟨"浙江省", hspells, .inr ⟨⟨"浙江省", ?_, hspells⟩, "杭州市", by decide, "杭州市", ?_, by decide⟩⟩
    · rw [hsplit]
      exact List.mem_singleton_self _
    · rw [hcities]
      exact List.mem_singleton_self _
  refine ⟨hserves, hblocked, fun h => ?_⟩
  have hassigned := (h.routed hangzhou ⟨rfl, rfl⟩ 1).mpr hserves
  rw [hblocked] at hassigned
  exact absurd hassigned.2 (by decide)

end Wms
