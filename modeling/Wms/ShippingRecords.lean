import Wms.Foundation.Interleaving
import Wms.LogisticsStates

/-!
# The records of shipping results

Shipping results write the packages that they carry, each over the record with its number, and
delete nothing. After some results the record of a number is the package of the last result that
carried it; a number that the last result does not carry keeps its record.
-/

namespace Wms

open Foundation

/-! ## Results and their records -/

/-- A shipping result with the time at which it is applied. -/
structure Delivery where
  now : ℤ
  msg : ShippingResultIn

namespace Delivery

/-- The numbers of the packages. -/
def packageNos (d : Delivery) : List ℕ := d.msg.packages.map ShippingPackageIn.packageNo

/-- Apply the result; a result without its export record is refused. -/
def exec (d : Delivery) : HandoffTx PUnit := HandoffOp.exec (.shippingResults d.now d.msg)

/-- The result is accepted. -/
def Accepted (d : Delivery) (t : HandoffTables) : Prop := (d.exec.run t).toBool = true

instance (d : Delivery) (t : HandoffTables) : Decidable (d.Accepted t) :=
  inferInstanceAs (Decidable (_ = _))

end Delivery

/-- What the packages of a source share. -/
def HandoffTables.baseOf (t : HandoffTables) (sourceRef : String) : Option ShippingBase :=
  (t.records.rows.find? fun r => r.sourceRef = sourceRef).bind fun r =>
    r.payload.bind fun p => (baseShippingRecordValues r p).toOption

namespace ShippingRecord

/-- The record is about the order of the source. -/
structure OfOrder (base : ShippingBase) (r : ShippingRecord) : Prop where
  orderRef : Varchar.store 128 base.orderRef = .ok r.orderRef
  platform : Varchar.store 32 base.platform = .ok r.platform
  storeCode : Varchar.store 64 base.storeCode = .ok r.storeCode

/-- The record is what the package gives, when it is written at a time. -/
def Records (providers : List ShippingProvider) (base : ShippingBase) (d : Delivery)
    (p : ShippingPackageIn) (r : ShippingRecord) : Prop :=
  ∃ code provider, cleanRequired (some p.shippingProviderCode) "shipping_provider_code" = .ok code ∧
    (providers.find? fun q =>
      q.shippingProviderCode.text = upper (strip code) ∧ q.active = true) = some provider ∧
    shippingRecordRow d.now base provider p d.msg.completedAt r.id = .ok r

/-- The record without its time. -/
def timeless (r : ShippingRecord) : ShippingRecord := { r with createdAt := 0 }

end ShippingRecord

/-- The tables have the same shipping records. -/
def SameShippingRecords (t t' : HandoffTables) : Prop :=
  ∀ r, r ∈ t'.shippingRecords.rows ↔ r ∈ t.shippingRecords.rows

/-- The tables have the same shipping records up to their times. -/
def SameButTimes (t t' : HandoffTables) : Prop :=
  ∀ x, x ∈ t'.shippingRecords.rows.map ShippingRecord.timeless ↔
    x ∈ t.shippingRecords.rows.map ShippingRecord.timeless

/-- What some results make of the records of their order. -/
structure PackagesRecorded (base : ShippingBase) (ds : List Delivery) (t t' : HandoffTables) : Prop where
  /-- A package is recorded unless a later result carries its number. -/
  last : ∀ before d after, ds = before ++ d :: after → ∀ p ∈ d.msg.packages,
    (∀ d' ∈ after, p.packageNo ∉ d'.packageNos) →
      ∃ r ∈ t'.shippingRecords.rows, r.Records t.providers base d p
  /-- Numbers that no result carries, and other orders, keep their records. -/
  others : ∀ r : ShippingRecord, ¬(r.OfOrder base ∧ ∃ d ∈ ds, r.packageNo ∈ d.packageNos) →
    (r ∈ t'.shippingRecords.rows ↔ r ∈ t.shippingRecords.rows)
  /-- No two records of the order have the same number. -/
  numbers : ∀ r ∈ t'.shippingRecords.rows, ∀ r' ∈ t'.shippingRecords.rows, r.OfOrder base →
    r'.OfOrder base → r.packageNo = r'.packageNo → r = r'

/-- Applying a result again, at any time, leaves every record as it is, apart from its time where
the result has none. -/
structure ReplayHarmless (d : Delivery) (t : HandoffTables) : Prop where
  timed : d.msg.completedAt ≠ none →
    ∀ now, SameShippingRecords t ((Delivery.exec ⟨now, d.msg⟩).attempt t)
  untimed : ∀ now, SameButTimes t ((Delivery.exec ⟨now, d.msg⟩).attempt t)

/-! ## The row of a package -/

variable {now : ℤ} {base : ShippingBase} {provider : ShippingProvider} {p : ShippingPackageIn}
  {completedAt : Option ℤ} {id : ℕ} {r : ShippingRecord}

/-- The row of a package is about its order and has its number. -/
theorem shippingRecordRow_spec
    (h : shippingRecordRow now base provider p completedAt id = .ok r) :
    r.OfOrder base ∧ r.packageNo = p.packageNo ∧ r.id = id ∧
      r.createdAt = completedAt.getD now := by
  unfold shippingRecordRow at h
  simp only [except_bind_eq_ok] at h
  obtain ⟨orderRef, href, platform, hplatform, storeCode, hstore, _, -, _, -, _, -, _, -, _, -, _,
    -, _, -, _, -, hrow⟩ := h
  cases hrow
  exact ⟨⟨href, hplatform, hstore⟩, rfl, rfl, rfl⟩

/-- Only the identifier and the time of the row depend on the tables and the time of writing. -/
theorem shippingRecordRow_again {now' : ℤ} {id' : ℕ}
    (h : shippingRecordRow now base provider p completedAt id = .ok r) :
    shippingRecordRow now' base provider p completedAt id' =
      .ok { r with id := id', createdAt := completedAt.getD now' } := by
  unfold shippingRecordRow at h ⊢
  simp only [except_bind_eq_ok] at h ⊢
  obtain ⟨orderRef, href, platform, hplatform, storeCode, hstore, code, hcode, name, hname, no, hno,
    tracking, htracking, measures, hmeasures, sender, hsender, province, hprovince, city, hcity,
    hrow⟩ := h
  cases hrow
  exact ⟨orderRef, href, platform, hplatform, storeCode, hstore, code, hcode, name, hname, no, hno,
    tracking, htracking, measures, hmeasures, sender, hsender, province, hprovince, city, hcity,
    rfl⟩

namespace ShippingRecord

theorem Records.spec {providers : List ShippingProvider} {d : Delivery}
    (h : r.Records providers base d p) : r.OfOrder base ∧ r.packageNo = p.packageNo := by
  obtain ⟨code, provider, -, -, hrow⟩ := h
  obtain ⟨horder, hno, -, -⟩ := shippingRecordRow_spec hrow
  exact ⟨horder, hno⟩

/-- Two records of one package and one result differ in their identifiers and times only. -/
theorem Records.eq_of_again {providers : List ShippingProvider} {now' : ℤ} {d : Delivery}
    {r' : ShippingRecord} (h : r.Records providers base d p)
    (h' : r'.Records providers base ⟨now', d.msg⟩ p) :
    r' = { r with id := r'.id, createdAt := d.msg.completedAt.getD now' } := by
  obtain ⟨code, provider, hcode, hprovider, hrow⟩ := h
  obtain ⟨code', provider', hcode', hprovider', hrow'⟩ := h'
  obtain rfl := Except.ok.inj (hcode.symm.trans hcode')
  obtain rfl := Option.some.inj (hprovider.symm.trans hprovider')
  have hagain := @shippingRecordRow_again _ _ _ _ _ _ _ now' r'.id hrow
  exact Except.ok.inj (hrow'.symm.trans hagain)

theorem SamePackage.symm {a b : ShippingRecord} (h : a.SamePackage b) : b.SamePackage a :=
  ⟨h.1.symm, h.2.1.symm, h.2.2.1.symm, h.2.2.2.symm⟩

theorem SamePackage.trans {a b c : ShippingRecord} (h : a.SamePackage b) (h' : b.SamePackage c) :
    a.SamePackage c :=
  ⟨h.1.trans h'.1, h.2.1.trans h'.2.1, h.2.2.1.trans h'.2.2.1, h.2.2.2.trans h'.2.2.2⟩

/-- Two records of the order are about one package when they have the same number. -/
theorem samePackage_iff {r' : ShippingRecord} (h' : r'.OfOrder base) :
    r.SamePackage r' ↔ r.OfOrder base ∧ r.packageNo = r'.packageNo := by
  constructor
  · rintro ⟨hplatform, hstore, href, hno⟩
    exact ⟨⟨href ▸ h'.orderRef, hplatform ▸ h'.platform, hstore ▸ h'.storeCode⟩, hno⟩
  · rintro ⟨h, hno⟩
    exact ⟨Except.ok.inj (h.platform.symm.trans h'.platform),
      Except.ok.inj (h.storeCode.symm.trans h'.storeCode),
      Except.ok.inj (h.orderRef.symm.trans h'.orderRef), hno⟩

end ShippingRecord

/-! ## One package -/

variable {t t' : HandoffTables} {d : Delivery}

/-- What the upsert of a package does: its record replaces the one with its number, and keeps its
identifier. -/
theorem upsertShippingRecord_run_ok
    (h : (upsertShippingRecord d.now base d.msg.completedAt p).run t = .ok (id, t')) :
    t'.providers = t.providers ∧ t'.records = t.records ∧ ∃ row : ShippingRecord,
      row.Records t.providers base d p ∧
      (∀ r ∈ t.shippingRecords.rows, r.SamePackage row → r.id = row.id) ∧
      ∀ r, r ∈ t'.shippingRecords.rows ↔
        (r ∈ t.shippingRecords.rows ∧ ¬r.SamePackage row) ∨ r = row := by
  unfold upsertShippingRecord resolveShippingProvider at h
  simp only [Tx.run_bind_ok, Tx.run_ofExcept_ok, Tx.run_get_ok, Tx.run_demand_ok, Tx.run_failIf_ok,
    Tx.run_set_ok, Tx.run_pure_ok] at h
  obtain ⟨code, _, ⟨hcode, rfl⟩, provider, _, ⟨_, _, ⟨rfl, rfl⟩, hprovider, rfl⟩, _, _, ⟨rfl, rfl⟩,
    row, _, ⟨hrow, rfl⟩, _, _, ⟨-, rfl⟩, records, _, ⟨hinsert, rfl⟩, _, _, rfl, rfl, rfl⟩ := h
  obtain ⟨-, hrows⟩ := Table.insert_eq_some.mp hinsert
  obtain ⟨-, -, hid, htime⟩ := shippingRecordRow_spec hrow
  rw [← hid] at hrows
  generalize hnew : ((t.shippingRecords.rows.find? fun r => r.SamePackage row).map
    ShippingRecord.id).getD row.id = newId at hrows
  refine ⟨rfl, rfl, { row with id := newId }, ⟨code, provider, hcode, hprovider, ?_⟩, ?_, ?_⟩
  · have hagain := @shippingRecordRow_again _ _ _ _ _ _ _ d.now newId hrow
    rwa [← htime] at hagain
  · intro r hr hsame
    have hsame' : r.SamePackage row := hsame
    have hfind : t.shippingRecords.rows.find? (fun a => decide (a.SamePackage row)) = some r :=
      t.shippingRecords.find?_eq_some hr (decide_eq_true hsame') fun a ha =>
        .inr (.inl (ShippingRecord.SamePackage.trans (of_decide_eq_true ha) hsame'.symm))
    rw [hfind] at hnew
    exact hnew
  · intro r
    change r ∈ records.rows ↔ (r ∈ t.shippingRecords.rows ∧ ¬r.SamePackage row) ∨ _
    rw [hrows, List.mem_append, List.mem_singleton]
    simp [Table.filter]

/-- What the packages of a result do: each is recorded, and the other records stay. -/
theorem upsertPackages_run_ok {ps : List ShippingPackageIn} {ids : List ℕ}
    (hnodup : (ps.map ShippingPackageIn.packageNo).Nodup)
    (h : (ps.mapM' (upsertShippingRecord d.now base d.msg.completedAt)).run t = .ok (ids, t')) :
    t'.providers = t.providers ∧ t'.records = t.records ∧
      (∀ p ∈ ps, ∃ r ∈ t'.shippingRecords.rows, r.Records t.providers base d p) ∧
      ∀ r : ShippingRecord, ¬(r.OfOrder base ∧ r.packageNo ∈ ps.map ShippingPackageIn.packageNo) →
        (r ∈ t'.shippingRecords.rows ↔ r ∈ t.shippingRecords.rows) := by
  induction ps generalizing t ids with
  | nil =>
    obtain ⟨-, rfl⟩ := Tx.run_mapM_nil_ok.mp h
    exact ⟨rfl, rfl, fun p hp => absurd hp List.not_mem_nil, fun r _ => Iff.rfl⟩
  | cons p ps ih =>
    obtain ⟨id, t₁, ids', hp, hrest, -⟩ := Tx.run_mapM_cons_ok.mp h
    rw [List.map_cons, List.nodup_cons] at hnodup
    obtain ⟨hproviders, hrecords, row, hrow, -, hmem⟩ := upsertShippingRecord_run_ok hp
    obtain ⟨hproviders', hrecords', hlater, hothers⟩ := ih hnodup.2 hrest
    obtain ⟨horder, hno⟩ := hrow.spec
    rw [hproviders] at hproviders' hlater
    refine ⟨hproviders', hrecords'.trans hrecords, ?_, ?_⟩
    · intro q hq
      rcases List.mem_cons.mp hq with rfl | hq
      · refine ⟨row, (hothers row fun hcarried => hnodup.1 (hno ▸ hcarried.2)).mpr ?_, hrow⟩
        exact (hmem row).mpr (.inr rfl)
      · exact hlater q hq
    · intro r hr
      have hlaterOther : ¬(r.OfOrder base ∧ r.packageNo ∈ ps.map ShippingPackageIn.packageNo) :=
        fun hcarried => hr ⟨hcarried.1, List.mem_cons_of_mem _ hcarried.2⟩
      have hother : ¬r.SamePackage row := by
        intro hsame
        obtain ⟨hof, hsameNo⟩ := (ShippingRecord.samePackage_iff horder).mp hsame
        exact hr ⟨hof, by rw [hsameNo, hno]; exact List.mem_cons_self⟩
      rw [hothers r hlaterOther, hmem r]
      constructor
      · rintro (⟨hold, -⟩ | rfl)
        · exact hold
        · exact absurd ⟨rfl, rfl, rfl, rfl⟩ hother
      · exact fun hold => .inl ⟨hold, hother⟩

/-! ## One result -/

/-- The base of a source is not affected by what happens to the state of its export record. -/
theorem baseOf_congr {sourceRef : String} {f : ExportRecord → ExportRecord}
    (hf : ∀ r, (f r).sourceDocType = r.sourceDocType ∧ (f r).sourceDocId = r.sourceDocId ∧
      (f r).sourceDocNo = r.sourceDocNo ∧ (f r).payload = r.payload)
    (h : t'.records.rows = t.records.rows.map f) : t'.baseOf sourceRef = t.baseOf sourceRef := by
  have href : ∀ r, (f r).sourceRef = r.sourceRef := by
    intro r
    unfold ExportRecord.sourceRef
    rw [(hf r).1, (hf r).2.1]
  have hbase : ∀ r p, baseShippingRecordValues (f r) p = baseShippingRecordValues r p := by
    intro r p
    unfold baseShippingRecordValues
    rw [(hf r).1, (hf r).2.2.1]
  unfold HandoffTables.baseOf
  rw [h, List.find?_map]
  simp only [Function.comp_def, href]
  cases t.records.rows.find? fun r => decide (r.sourceRef = sourceRef) with
  | none => rfl
  | some r => simp [(hf r).2.2.2, hbase]

/-- What an accepted result does. -/
theorem exec_run_ok {u : PUnit} (h : d.exec.run t = .ok (u, t')) :
    ∃ base, t.baseOf (strip d.msg.sourceRef) = some base ∧
      (∀ sourceRef, t'.baseOf sourceRef = t.baseOf sourceRef) ∧ t'.providers = t.providers ∧
      ∃ ids t₁, (d.msg.packages.mapM' (upsertShippingRecord d.now base d.msg.completedAt)).run t =
        .ok (ids, t₁) ∧ t'.shippingRecords = t₁.shippingRecords := by
  unfold Delivery.exec HandoffOp.exec at h
  simp only [Tx.run_map_ok, orNotFound_run_ok] at h
  obtain ⟨out, h, -⟩ := h
  unfold applyLogisticsShippingResults loadShippingResultContext at h
  simp only [Tx.run_bind_ok, Tx.run_get_ok, Tx.run_pure_ok] at h
  obtain ⟨found?, _, ⟨_, _, ⟨rfl, rfl⟩, rfl, rfl⟩, h⟩ := h
  cases hfind : t.records.rows.find? (fun r => r.sourceRef = strip d.msg.sourceRef) with
  | none =>
    rw [hfind] at h
    exact absurd (Tx.run_pure_ok.mp h).1 (Option.some_ne_none out).symm
  | some r =>
    rw [hfind] at h
    cases hpayload : r.payload with
    | none =>
      rw [Option.bind_some, hpayload] at h
      exact absurd (Tx.run_pure_ok.mp h).1 (Option.some_ne_none out).symm
    | some p =>
      rw [Option.bind_some, hpayload] at h
      simp only [Option.map_some, Tx.run_bind_ok, Tx.run_failIf_ok, Tx.run_ofExcept_ok] at h
      obtain ⟨_, _, ⟨-, rfl⟩, _, _, ⟨-, rfl⟩, _, _, ⟨-, rfl⟩, base, _, ⟨hbase, rfl⟩, ids, t₁,
        hpackages, no, _, ⟨-, rfl⟩, row?, t₂, hupdate, hout⟩ := h
      obtain rfl := (Tx.run_pure_ok.mp hout).2
      obtain ⟨hproviders, hrecords, -, -⟩ := upsertPackages_run_ok d.msg.packageNos_nodup hpackages
      obtain ⟨records', hrun, rfl⟩ := Tx.run_zoom_ok.mp hupdate
      have hrows := updateExportRecord_run_ok hrun
      rw [hrecords] at hrows
      have hfound : t.baseOf (strip d.msg.sourceRef) = some base := by
        unfold HandoffTables.baseOf
        rw [hfind, Option.bind_some, hpayload, Option.bind_some, hbase]
        rfl
      refine ⟨base, hfound, fun sourceRef => baseOf_congr (fun r => ?_) hrows, hproviders, ids, t₁,
        hpackages, rfl⟩
      unfold ExportRecord.rewrite
      split
      · exact ⟨rfl, rfl, rfl, rfl⟩
      · exact ⟨rfl, rfl, rfl, rfl⟩

/-! ## Several results -/

/-- The records after some results, by the first of them and the rest. -/
theorem PackagesRecorded.cons {ds : List Delivery} {t₁ : HandoffTables}
    (hproviders : t₁.providers = t.providers)
    (hfirst : ∀ p ∈ d.msg.packages, ∃ r ∈ t₁.shippingRecords.rows,
      r.Records t.providers base d p)
    (hothers : ∀ r : ShippingRecord, ¬(r.OfOrder base ∧ r.packageNo ∈ d.packageNos) →
      (r ∈ t₁.shippingRecords.rows ↔ r ∈ t.shippingRecords.rows))
    (h : PackagesRecorded base ds t₁ t') : PackagesRecorded base (d :: ds) t t' where
  last before d' after hds p hp hlast := by
    cases before with
    | nil =>
      obtain ⟨rfl, rfl⟩ := List.cons.inj hds
      obtain ⟨r, hr, hrecords⟩ := hfirst p hp
      refine ⟨r, (h.others r ?_).mpr hr, hrecords⟩
      rintro ⟨-, d', hd', hcarried⟩
      exact hlast d' hd' (hrecords.spec.2 ▸ hcarried)
    | cons d'' before =>
      obtain ⟨rfl, rfl⟩ := List.cons.inj hds
      obtain ⟨r, hr, hrecords⟩ := h.last before d' after rfl p hp hlast
      exact ⟨r, hr, hproviders ▸ hrecords⟩
  others r hr := by
    have hrest : ¬(r.OfOrder base ∧ ∃ d' ∈ ds, r.packageNo ∈ d'.packageNos) := by
      rintro ⟨horder, d', hd', hcarried⟩
      exact hr ⟨horder, d', List.mem_cons_of_mem d hd', hcarried⟩
    rw [h.others r hrest]
    exact hothers r fun hcarried => hr ⟨hcarried.1, d, List.mem_cons_self, hcarried.2⟩
  numbers := h.numbers

/-- No table has two records of an order with one number. -/
theorem numbers_unique (t : HandoffTables) : ∀ r ∈ t.shippingRecords.rows,
    ∀ r' ∈ t.shippingRecords.rows, r.OfOrder base → r'.OfOrder base →
      r.packageNo = r'.packageNo → r = r' := by
  intro r hr r' hr' horder horder' hno
  refine t.shippingRecords.eq_of_conflict ?_ hr hr'
    (.inr (.inl ((ShippingRecord.samePackage_iff horder').mpr ⟨horder, hno⟩)))
  rintro a b (hid | hsame | ⟨hprovider, htracking⟩)
  · exact .inl hid.symm
  · exact .inr (.inl hsame.symm)
  · exact .inr (.inr ⟨hprovider.symm, htracking.symm⟩)

/-- Accepted results of one source record their packages. -/
theorem packagesRecorded_attemptAll {sourceRef : String} {ds : List Delivery}
    (href : ∀ d ∈ ds, strip d.msg.sourceRef = sourceRef) (hbase : t.baseOf sourceRef = some base)
    (haccepted : Tx.Along Delivery.exec Delivery.Accepted ds t) :
    PackagesRecorded base ds t (Tx.attemptAll Delivery.exec ds t) ∧
      (Tx.attemptAll Delivery.exec ds t).baseOf sourceRef = some base ∧
      (Tx.attemptAll Delivery.exec ds t).providers = t.providers := by
  induction ds generalizing t with
  | nil =>
    refine ⟨⟨fun before d after hds => ?_, fun r _ => Iff.rfl, numbers_unique t⟩, hbase, rfl⟩
    exact absurd hds (by simp)
  | cons d ds ih =>
    obtain ⟨hd, hrest⟩ := haccepted
    obtain ⟨u, t₁, hrun⟩ := Tx.exists_run_of_toBool hd
    obtain ⟨base', hfound, hkept, hproviders, ids, t₂, hpackages, hrecords⟩ := exec_run_ok hrun
    rw [href d List.mem_cons_self, hbase] at hfound
    obtain rfl := Option.some.inj hfound
    obtain ⟨-, -, hfirst, hothers⟩ := upsertPackages_run_ok d.msg.packageNos_nodup hpackages
    rw [← hrecords] at hfirst hothers
    rw [Tx.attempt_of_run hrun] at hrest
    obtain ⟨hrecorded, hbase', hsame⟩ := ih (fun d' hd' => href d' (List.mem_cons_of_mem d hd'))
      ((hkept sourceRef).trans hbase) hrest
    have hall : Tx.attemptAll Delivery.exec (d :: ds) t = Tx.attemptAll Delivery.exec ds t₁ := by
      change Tx.attemptAll Delivery.exec ds (d.exec.attempt t) = _
      rw [Tx.attempt_of_run hrun]
    rw [hall]
    exact ⟨hrecorded.cons hproviders hfirst hothers, hbase', hsame.trans hproviders⟩

/-! ## The last result again -/

theorem SameButTimes.trans {t₁ : HandoffTables} (h : SameButTimes t t₁)
    (h' : SameButTimes t₁ t') : SameButTimes t t' := fun x => (h' x).trans (h x)

theorem SameShippingRecords.trans {t₁ : HandoffTables} (h : SameShippingRecords t t₁)
    (h' : SameShippingRecords t₁ t') : SameShippingRecords t t' := fun r => (h' r).trans (h r)

/-- A record of the result is written over by the record that the package gives again. -/
theorem upsertShippingRecord_again {d' : Delivery} (hmsg : d'.msg = d.msg)
    (hr : r ∈ t.shippingRecords.rows) (hrecords : r.Records t.providers base d p)
    (h : (upsertShippingRecord d'.now base d'.msg.completedAt p).run t = .ok (id, t')) :
    t'.providers = t.providers ∧
      (∀ a, a ∈ t'.shippingRecords.rows ↔ (a ∈ t.shippingRecords.rows ∧ a ≠ r) ∨
        a = { r with createdAt := d.msg.completedAt.getD d'.now }) ∧
      (d.msg.completedAt ≠ none → r.createdAt = d.msg.completedAt.getD d'.now) := by
  obtain ⟨now', msg⟩ := d'
  obtain rfl : msg = d.msg := hmsg
  obtain ⟨hproviders, -, row, hrow, hids, hmem⟩ := upsertShippingRecord_run_ok h
  have hsame : r.SamePackage row :=
    (ShippingRecord.samePackage_iff hrow.spec.1).mpr
      ⟨hrecords.spec.1, hrecords.spec.2.trans hrow.spec.2.symm⟩
  have heq : row = { r with createdAt := d.msg.completedAt.getD now' } := by
    rw [hrecords.eq_of_again hrow, ← hids r hr hsame]
  have honly : ∀ a ∈ t.shippingRecords.rows, a.SamePackage row ↔ a = r := by
    intro a ha
    constructor
    · intro hother
      have horder := (ShippingRecord.samePackage_iff hrow.spec.1).mp hother
      have hno := ((ShippingRecord.samePackage_iff hrow.spec.1).mp hsame).2
      exact numbers_unique t a ha r hr horder.1 hrecords.spec.1 (horder.2.trans hno.symm)
    · rintro rfl
      exact hsame
  refine ⟨hproviders, fun a => ?_, fun hsome => ?_⟩
  · rw [hmem a, heq]
    constructor
    · rintro (⟨ha, hnot⟩ | hnew)
      · exact .inl ⟨ha, fun har => hnot (heq ▸ (honly a ha).mpr har)⟩
      · exact .inr hnew
    · rintro (⟨ha, hnot⟩ | hnew)
      · exact .inl ⟨ha, fun hother => hnot ((honly a ha).mp (heq.symm ▸ hother))⟩
      · exact .inr hnew
  · obtain ⟨code, provider, -, -, hwritten⟩ := hrecords
    have htime := (shippingRecordRow_spec hwritten).2.2.2
    obtain ⟨time, htimed⟩ := Option.ne_none_iff_exists'.mp hsome
    rw [htime, htimed]
    rfl

/-- The packages of a result that are recorded are recorded again. -/
theorem upsertPackages_again {d' : Delivery} (hmsg : d'.msg = d.msg)
    {ps : List ShippingPackageIn} {ids : List ℕ}
    (hnodup : (ps.map ShippingPackageIn.packageNo).Nodup)
    (hold : ∀ p ∈ ps, ∃ r ∈ t.shippingRecords.rows, r.Records t.providers base d p)
    (h : (ps.mapM' (upsertShippingRecord d'.now base d'.msg.completedAt)).run t = .ok (ids, t')) :
    SameButTimes t t' ∧ (d.msg.completedAt ≠ none → SameShippingRecords t t') := by
  induction ps generalizing t ids with
  | nil =>
    obtain ⟨-, rfl⟩ := Tx.run_mapM_nil_ok.mp h
    exact ⟨fun x => Iff.rfl, fun _ r => Iff.rfl⟩
  | cons p ps ih =>
    obtain ⟨id, t₁, ids', hp, hrest, -⟩ := Tx.run_mapM_cons_ok.mp h
    rw [List.map_cons, List.nodup_cons] at hnodup
    obtain ⟨r, hr, hrecords⟩ := hold p List.mem_cons_self
    obtain ⟨hproviders, hmem, htime⟩ := upsertShippingRecord_again hmsg hr hrecords hp
    have hlater : ∀ q ∈ ps, ∃ a ∈ t₁.shippingRecords.rows, a.Records t₁.providers base d q := by
      intro q hq
      obtain ⟨a, ha, harecords⟩ := hold q (List.mem_cons_of_mem p hq)
      refine ⟨a, (hmem a).mpr (.inl ⟨ha, ?_⟩), hproviders ▸ harecords⟩
      rintro rfl
      have hno : q.packageNo = p.packageNo :=
        harecords.spec.2.symm.trans hrecords.spec.2
      exact hnodup.1 (hno ▸ List.mem_map_of_mem hq)
    obtain ⟨htimes, hrecordsSame⟩ := ih hnodup.2 hlater hrest
    refine ⟨SameButTimes.trans (fun x => ?_) htimes, fun hsome =>
      SameShippingRecords.trans (fun a => ?_) (hrecordsSame hsome)⟩
    · rw [List.mem_map, List.mem_map]
      constructor
      · rintro ⟨a, ha, rfl⟩
        rcases (hmem a).mp ha with ⟨hold, -⟩ | rfl
        · exact ⟨a, hold, rfl⟩
        · exact ⟨r, hr, rfl⟩
      · rintro ⟨a, ha, rfl⟩
        by_cases har : a = r
        · subst har
          exact ⟨_, (hmem _).mpr (.inr rfl), rfl⟩
        · exact ⟨a, (hmem a).mpr (.inl ⟨ha, har⟩), rfl⟩
    · have hunchanged : ({ r with createdAt := d.msg.completedAt.getD d'.now } :
          ShippingRecord) = r := by
        rw [← htime hsome]
      rw [hmem a, hunchanged]
      constructor
      · rintro (⟨ha, -⟩ | rfl)
        · exact ha
        · exact hr
      · intro ha
        by_cases har : a = r
        · exact .inr har
        · exact .inl ⟨ha, har⟩

/-- A result whose packages are recorded can be applied again. -/
theorem replayHarmless_of_recorded (hbase : t.baseOf (strip d.msg.sourceRef) = some base)
    (hold : ∀ p ∈ d.msg.packages, ∃ r ∈ t.shippingRecords.rows, r.Records t.providers base d p) :
    ReplayHarmless d t := by
  have hreplay : ∀ now, SameButTimes t ((Delivery.exec ⟨now, d.msg⟩).attempt t) ∧
      (d.msg.completedAt ≠ none →
        SameShippingRecords t ((Delivery.exec ⟨now, d.msg⟩).attempt t)) := by
    intro now
    rcases Tx.attempt_cases (Delivery.exec ⟨now, d.msg⟩) t with hsame | ⟨u, hrun⟩
    · rw [hsame]
      exact ⟨fun x => Iff.rfl, fun _ r => Iff.rfl⟩
    · obtain ⟨base', hfound, -, -, ids, t₁, hpackages, hrecords⟩ := exec_run_ok hrun
      obtain rfl := Option.some.inj (hbase.symm.trans hfound)
      have hagain := @upsertPackages_again base t t₁ d ⟨now, d.msg⟩ rfl d.msg.packages ids
        d.msg.packageNos_nodup hold hpackages
      unfold SameButTimes SameShippingRecords at hagain ⊢
      rwa [hrecords]
  exact ⟨fun hsome now => (hreplay now).2 hsome, fun now => (hreplay now).1⟩

/-- After accepted results of one source its order has the last package for each number that they
carried, the old record for every other number, and one record for a number; and the last of
them can be applied again. -/
theorem recorded_after_results (t : HandoffTables) (sourceRef : String) (ds : List Delivery)
    (last : Delivery) (href : ∀ d ∈ ds ++ [last], strip d.msg.sourceRef = sourceRef)
    (haccepted : Tx.Along Delivery.exec Delivery.Accepted (ds ++ [last]) t) :
    ∃ base, t.baseOf sourceRef = some base ∧
      PackagesRecorded base (ds ++ [last]) t (Tx.attemptAll Delivery.exec (ds ++ [last]) t) ∧
        ReplayHarmless last (Tx.attemptAll Delivery.exec (ds ++ [last]) t) := by
  obtain ⟨base, hbase⟩ : ∃ base, t.baseOf sourceRef = some base := by
    obtain ⟨first, rest, hds⟩ := List.exists_cons_of_ne_nil
      (List.append_ne_nil_of_right_ne_nil ds (List.cons_ne_nil last []))
    rw [hds] at haccepted href
    obtain ⟨u, t₁, hrun⟩ := Tx.exists_run_of_toBool haccepted.1
    obtain ⟨base, hfound, -⟩ := exec_run_ok hrun
    exact ⟨base, href first List.mem_cons_self ▸ hfound⟩
  obtain ⟨hrecorded, hbase', hproviders⟩ := packagesRecorded_attemptAll href hbase haccepted
  refine ⟨base, hbase, hrecorded, @replayHarmless_of_recorded base _ _ ?_ ?_⟩
  · rw [href last (List.mem_append_right _ (List.mem_singleton_self last))]
    exact hbase'
  · intro p hp
    rw [hproviders]
    exact hrecorded.last ds last [] rfl p hp fun d' hd' => absurd hd' List.not_mem_nil

/-! ## A result with fewer packages -/

/-- A manual document that logistics has taken in, one carrier, and no packages. -/
def takenIn : HandoffTables where
  warehouseIds := [1]
  providers := [⟨1, ⟨"SF Express", by decide⟩, ⟨"SF", by decide⟩, true⟩]
  shippingRecords := .empty
  records := ⟨[{
    sourceDocType := .manualOutbound
    sourceDocId := 1
    sourceDocNo := ⟨"M1", by decide⟩
    exportStatus := .exported
    logisticsStatus := .imported
    logisticsRequestId := none
    logisticsRequestNo := none
    exportedAt := some 0
    logisticsCompletedAt := none
    lastAttemptAt := none
    lastError := none
    payload := some {
      platform := none
      storeCode := none
      orderRef := none
      extOrderNo := none
      warehouseId := 1
      warehouseNameSnapshot := none
      receiverName := none
      receiverPhone := none
      receiverProvince := none
      receiverCity := none
      receiverDistrict := none
      receiverAddress := none
      receiverPostcode := none
      outboundEventId := 1
      outboundSourceRef := ⟨"M1", by decide⟩
      outboundCompletedAt := 0
      shipmentItems := [] } }], List.pairwise_singleton _ _⟩

/-- A package without measures. -/
def plainPackage (no : ℕ) (trackingNo : String) (hno : 1 ≤ no) : ShippingPackageIn where
  packageNo := no
  trackingNo := trackingNo
  shippingProviderCode := "SF"
  shippingProviderName := none
  measures := ⟨none, none, none, none, none, none, none⟩
  sender := none
  destProvince := none
  destCity := none
  packageNo_pos := hno

/-- A result of the document without a time of completion. -/
def resultOf (now : ℤ) (packages : List ShippingPackageIn) (hne : packages ≠ [])
    (hnodup : (packages.map ShippingPackageIn.packageNo).Nodup) : Delivery where
  now := now
  msg := {
    sourceRef := "WMS:MANUAL_OUTBOUND:1"
    logisticsRequestId := none
    logisticsRequestNo := none
    completedAt := none
    packages := packages
    sourceRef_ne := by decide
    sourceRef_fits := by decide
    requestNo_ne := by simp
    requestNo_fits := by simp
    packages_ne := hne
    packageNos_nodup := hnodup }

/-- Two packages. -/
def twoPackages : Delivery :=
  resultOf 1 [plainPackage 1 "T1" (by decide), plainPackage 2 "T2" (by decide)] (by decide)
    (by decide)

/-- One of the packages only. -/
def onePackage : Delivery := resultOf 2 [plainPackage 1 "T1" (by decide)] (by decide) (by decide)

/-- The records after both results. -/
def afterBoth : HandoffTables := Tx.attemptAll Delivery.exec [twoPackages, onePackage] takenIn

theorem recorded_after_onePackage :
    ∃ base, takenIn.baseOf "WMS:MANUAL_OUTBOUND:1" = some base ∧
      PackagesRecorded base [twoPackages, onePackage] takenIn afterBoth ∧
        ReplayHarmless onePackage afterBoth :=
  recorded_after_results takenIn "WMS:MANUAL_OUTBOUND:1" [twoPackages] onePackage (by decide)
    (by decide +kernel)

/-- The second package keeps its record although the last result does not carry it, and applying
that result once more changes the time of the first. -/
theorem not_replaced_by_onePackage :
    Tx.Along Delivery.exec Delivery.Accepted [twoPackages, onePackage] takenIn ∧
      (∃ r ∈ afterBoth.shippingRecords.rows, r.packageNo ∉ onePackage.packageNos) ∧
        ¬SameShippingRecords afterBoth ((Delivery.exec ⟨3, onePackage.msg⟩).attempt afterBoth) := by
  refine ⟨by decide +kernel, by decide +kernel, fun h => ?_⟩
  have hnew : ∃ r ∈ ((Delivery.exec ⟨3, onePackage.msg⟩).attempt afterBoth).shippingRecords.rows,
      r.createdAt = 3 := by decide +kernel
  have hold : ∀ r ∈ afterBoth.shippingRecords.rows, r.createdAt ≠ 3 := by decide +kernel
  obtain ⟨r, hr, htime⟩ := hnew
  exact hold r ((h r).mp hr) htime

end Wms
