import Wms.Logistics.ShippingResults

/-!
# The states of an export record

Five writers rewrite export records: the two upserts of the shipment that completes a
document, the two import results and the shipping results of logistics. What one of them
can do to one record is said once; the invariant of the records and the life of a record
over a run follow from it.
-/

namespace Wms

open Foundation

/-- The writers of the hand-off, with their arguments. -/
inductive HandoffOp
  | upsertPending (docType : SourceDocType) (docId : ℕ) (docNo : String)
  | upsertPayload (docType : SourceDocType) (docId : ℕ) (v : HandoffValues)
  | importSuccess (now : ℤ) (msg : ImportSuccessIn)
  | importFailure (now : ℤ) (msg : ImportFailureIn)
  | shippingResults (now : ℤ) (msg : ShippingResultIn)

/-- Carry out a write; its answer is not looked at. -/
def HandoffOp.exec : HandoffOp → HandoffTx PUnit
  | .upsertPending docType docId docNo =>
    onRecords (upsertPendingLogisticsExportRecord docType docId docNo)
  | .upsertPayload docType docId v => onRecords (upsertLogisticsHandoffPayload docType docId v)
  | .importSuccess now msg =>
    (fun _ => ⟨⟩) <$> orNotFound (onRecords (applyLogisticsImportSuccess now msg))
  | .importFailure now msg =>
    (fun _ => ⟨⟩) <$> orNotFound (onRecords (applyLogisticsImportFailure now msg))
  | .shippingResults now msg => (fun _ => ⟨⟩) <$> orNotFound (applyLogisticsShippingResults now msg)

/-- The state after the first writes of a list. -/
def HandoffTables.after (t : HandoffTables) (ops : List HandoffOp) (n : ℕ) : HandoffTables :=
  Tx.attemptAll HandoffOp.exec (ops.take n) t

namespace ExportRecord

/-- The two rows are about one document. -/
def SameDoc (r r' : ExportRecord) : Prop := r'.IsFor r.sourceDocType r.sourceDocId

/-- The record is exported under the same request. -/
def StaysExported (r r' : ExportRecord) : Prop :=
  r.exportStatus = .exported → r'.exportStatus = .exported ∧
    r'.logisticsRequestId = r.logisticsRequestId ∧ r'.logisticsRequestNo = r.logisticsRequestNo

/-- Neither identity nor status of the record differ. -/
structure SameState (r r' : ExportRecord) : Prop where
  exportStatus : r'.exportStatus = r.exportStatus
  logisticsStatus : r'.logisticsStatus = r.logisticsStatus
  requestId : r'.logisticsRequestId = r.logisticsRequestId
  requestNo : r'.logisticsRequestNo = r.logisticsRequestNo

end ExportRecord

/-- What the hand-off promises over a run of writes. -/
structure HandoffKept (ops : List HandoffOp) (t : HandoffTables) : Prop where
  /-- An exported record stays exported under the same request. -/
  exported : ∀ n m, n ≤ m → ∀ r ∈ (t.after ops n).records.rows,
    ∃ r' ∈ (t.after ops m).records.rows, r.SameDoc r' ∧ r.StaysExported r'
  /-- A completed record stays completed. -/
  completed : ∀ n m, n ≤ m → ∀ r ∈ (t.after ops n).records.rows, r.logisticsStatus = .completed →
    ∃ r' ∈ (t.after ops m).records.rows, r.SameDoc r' ∧ r'.logisticsStatus = .completed
  /-- An upsert from upstream does not revive a failed or cancelled record. -/
  notRevived : ∀ n docType docId docNo, ops[n]? = some (.upsertPending docType docId docNo) →
    ∀ r ∈ (t.after ops n).records.rows, r.IsFor docType docId →
      r.exportStatus = .failed ∨ r.exportStatus = .cancelled →
        ∃ r' ∈ (t.after ops (n + 1)).records.rows, r.SameDoc r' ∧
          r'.exportStatus = r.exportStatus
  /-- An accepted import success is accepted whenever it is repeated, and then changes
  neither identity nor status of any record. -/
  replayed : ∀ n now msg, ops[n]? = some (.importSuccess now msg) →
    (∃ u t', (HandoffOp.importSuccess now msg).exec.run (t.after ops n) = .ok (u, t')) →
      ∀ m, n < m → ∀ now', ∃ u t',
        (HandoffOp.importSuccess now' msg).exec.run (t.after ops m) = .ok (u, t') ∧
          ∀ r ∈ (t.after ops m).records.rows, ∃ r' ∈ t'.records.rows, r.SameDoc r' ∧ r.SameState r'

/-- The write, when it is accepted, does not meet what the hand-off overlooks: an upsert
finds no failed or cancelled record of its document, and the request number of an import
success is stripped. -/
def HandoffOp.Plain (op : HandoffOp) (t : HandoffTables) : Prop :=
  match op with
  | .upsertPending docType docId _ => ∀ r ∈ t.records.rows, r.IsFor docType docId →
      r.exportStatus ≠ .failed ∧ r.exportStatus ≠ .cancelled
  | .importSuccess _ msg => strip msg.logisticsRequestNo = msg.logisticsRequestNo
  | _ => True

/-- What the writers leave true of a record: an exported one has been taken in under a
request whose number is stripped and not blank, and any other has not been taken in. -/
structure ExportRecord.Consistent (r : ExportRecord) : Prop where
  exported : r.exportStatus = .exported → r.Taken ∧ ∃ id no, r.logisticsRequestId = some id ∧
    r.logisticsRequestNo = some no ∧ strip no.text = no.text ∧ no.text ≠ ""
  notTaken : r.exportStatus ≠ .exported → ¬r.Taken

/-- Every record is consistent. -/
def HandoffTables.Consistent (t : HandoffTables) : Prop := ∀ r ∈ t.records.rows, r.Consistent

variable {t t' : HandoffTables}

/-! ## References -/

/-- A reference names one document. -/
theorem sourceRef_eq_iff {a b : ExportRecord} : a.sourceRef = b.sourceRef ↔ a.SameDoc b := by
  constructor
  · intro h
    have hlist := congrArg String.toList h
    obtain ⟨hcode, hid⟩ : a.sourceDocType = b.sourceDocType ∧
        Nat.toDigits 10 a.sourceDocId = Nat.toDigits 10 b.sourceDocId := by
      unfold ExportRecord.sourceRef at hlist
      cases ha : a.sourceDocType <;> cases hb : b.sourceDocType <;>
        simp [ha, hb, SourceDocType.code, toString] at hlist ⊢
      all_goals rw [hlist]
    have hrepr : a.sourceDocId.repr = b.sourceDocId.repr := by
      rw [Nat.repr_eq_ofList_toDigits, Nat.repr_eq_ofList_toDigits, hid]
    exact ⟨hcode.symm, (Nat.repr_injective hrepr).symm⟩
  · rintro ⟨htype, hid⟩
    unfold ExportRecord.sourceRef
    rw [htype, hid]

/-- The record that is found under a reference is the only one with it. -/
theorem eq_of_find_sourceRef {records : ExportRecords} {sourceRef : String} {current r : ExportRecord}
    (hfind : records.rows.find? (fun r => r.sourceRef = sourceRef) = some current)
    (hr : r ∈ records.rows) (href : r.sourceRef = sourceRef) : r = current := by
  have hsome := records.find?_eq_some (p := fun r => decide (r.sourceRef = sourceRef)) hr
    (by simpa using href) fun a ha => ?_
  · exact Option.some.inj (hsome.symm.trans hfind)
  · have heq : r.sourceRef = a.sourceRef := href.trans (of_decide_eq_true ha).symm
    exact sourceRef_eq_iff.mp heq

/-! ## What a write does -/

/-- What an accepted write can do to a record. -/
inductive ExportRecord.Change (r : ExportRecord) : HandoffOp → ExportRecord → Prop
  | kept {op : HandoffOp} : Change r op r
  | refreshed {docType : SourceDocType} {docId : ℕ} {docNo : String} (no : Varchar 128)
      (hfor : r.IsFor docType docId) : Change r (.upsertPending docType docId docNo) (r.refresh no)
  | payload {docType : SourceDocType} {docId : ℕ} {v : HandoffValues} (p : HandoffPayload) :
      Change r (.upsertPayload docType docId v) { r with payload := some p }
  | attempted {now : ℤ} {msg : ImportSuccessIn} (hexported : r.exportStatus = .exported)
      (hsame : r.SameLogisticsRequest msg.logisticsRequestId msg.logisticsRequestNo) :
      Change r (.importSuccess now msg) (r.attempted now)
  | imported {now : ℤ} {msg : ImportSuccessIn} {no : Varchar 64}
      (hnot : r.exportStatus ≠ .exported) (hno : no.text = strip msg.logisticsRequestNo) :
      Change r (.importSuccess now msg) (r.imported now msg.logisticsRequestId no)
  | importFailed {now : ℤ} {msg : ImportFailureIn} (hnot : r.exportStatus ≠ .exported)
      (htaken : ¬r.Taken) : Change r (.importFailure now msg)
        (r.importFailed now (strip msg.errorMessage))
  | completed {now : ℤ} {msg : ShippingResultIn} {no : Option (Varchar 64)}
      (hexported : r.exportStatus = .exported) (htaken : r.Taken)
      (hassert : assertRequestIdentity r msg.logisticsRequestId msg.logisticsRequestNo = .ok ())
      (hno : no.map Varchar.text = msg.logisticsRequestNo.map strip) :
      Change r (.shippingResults now msg)
        (r.completed now msg.logisticsRequestId no msg.completedAt)

/-- A change is about the document of the record. -/
theorem ExportRecord.Change.sameDoc {op : HandoffOp} {r r' : ExportRecord} (h : r.Change op r') :
    r.SameDoc r' := by
  cases h <;> exact ⟨rfl, rfl⟩

/-- The stored number of a message is its number stripped. -/
theorem requestNo_text {s : String} {no : Varchar 64} (hfits : s.length ≤ 64)
    (hstore : Varchar.store 64 (strip s) = .ok no) : no.text = strip s := by
  rw [Varchar.store_of_fits ((strip_length_le s).trans hfits)] at hstore
  rw [← Except.ok.inj hstore]

section Updates

variable {records records' : ExportRecords} {sourceRef : String} {out : Option ExportRecord}
  {f : ExportRecord → ExportRecord}

/-- A rewrite always succeeds. -/
theorem updateExportRecord_runs (records : ExportRecords) (sourceRef : String) (hf : ∀ r, (f r).IsFor r.sourceDocType r.sourceDocId) :
    ∃ records', (updateExportRecord sourceRef f hf).run records =
        .ok ((records.rows.find? fun r => r.sourceRef = sourceRef).map f, records') ∧
      records'.rows = records.rows.map (ExportRecord.rewrite sourceRef f) :=
  ⟨_, rfl, rfl⟩

theorem updateExportRecord_run_ok {hf : ∀ r, (f r).IsFor r.sourceDocType r.sourceDocId}
    (h : (updateExportRecord sourceRef f hf).run records = .ok (out, records')) :
    records'.rows = records.rows.map (ExportRecord.rewrite sourceRef f) := by
  obtain ⟨records₁, hrun, hrows⟩ := updateExportRecord_runs records sourceRef hf
  rw [hrun] at h
  cases h
  exact hrows

/-- An accepted import success has found its record. Either it repeats the import of the
request, or it is the first. -/
theorem applyLogisticsImportSuccess_run_ok {now : ℤ} {msg : ImportSuccessIn} {r' : ExportRecord}
    (h : (applyLogisticsImportSuccess now msg).run records = .ok (some r', records')) :
    ∃ r, records.rows.find? (fun r => r.sourceRef = strip msg.sourceRef) = some r ∧
      ((r.exportStatus = .exported ∧
          r.SameLogisticsRequest msg.logisticsRequestId msg.logisticsRequestNo ∧
          records'.rows = records.rows.map
            (ExportRecord.rewrite (strip msg.sourceRef) (ExportRecord.attempted now))) ∨
        (r.exportStatus ≠ .exported ∧ ∃ no : Varchar 64, no.text = strip msg.logisticsRequestNo ∧
          records'.rows = records.rows.map (ExportRecord.rewrite (strip msg.sourceRef)
            (ExportRecord.imported now msg.logisticsRequestId no)))) := by
  unfold applyLogisticsImportSuccess loadExportRecordForUpdate at h
  simp only [Tx.run_bind_ok, Tx.run_get_ok, Tx.run_pure_ok] at h
  obtain ⟨found?, _, ⟨_, _, ⟨rfl, rfl⟩, rfl, rfl⟩, h⟩ := h
  cases hfind : records.rows.find? (fun r => r.sourceRef = strip msg.sourceRef) with
  | none =>
    rw [hfind] at h
    exact absurd (Tx.run_pure_ok.mp h).1 (Option.some_ne_none r').symm
  | some r =>
    rw [hfind] at h
    simp only [Tx.run_bind_ok, Tx.run_failIf_ok] at h
    obtain ⟨_, _, ⟨-, rfl⟩, h⟩ := h
    refine ⟨r, rfl, ?_⟩
    split at h
    · rename_i hexported
      simp only [Tx.run_bind_ok, Tx.run_failIf_ok] at h
      obtain ⟨_, _, ⟨hsame, rfl⟩, h⟩ := h
      have hrows := updateExportRecord_run_ok h
      exact .inl ⟨hexported, not_not.mp hsame, hrows⟩
    · rename_i hexported
      simp only [Tx.run_bind_ok, Tx.run_failIf_ok, Tx.run_ofExcept_ok] at h
      obtain ⟨_, _, ⟨-, rfl⟩, no, _, ⟨hstore, rfl⟩, h⟩ := h
      have hrows := updateExportRecord_run_ok h
      exact .inr ⟨hexported, no, requestNo_text msg.requestNo_fits hstore, hrows⟩

/-- The import success of the request under which the record is exported is accepted. -/
theorem applyLogisticsImportSuccess_repeats {msg : ImportSuccessIn} {r : ExportRecord} (now : ℤ)
    (hfind : records.rows.find? (fun r => r.sourceRef = strip msg.sourceRef) = some r)
    (hexported : r.exportStatus = .exported)
    (hsame : r.SameLogisticsRequest msg.logisticsRequestId msg.logisticsRequestNo) :
    ∃ records', (applyLogisticsImportSuccess now msg).run records =
        .ok (some (r.attempted now), records') ∧
      records'.rows = records.rows.map
        (ExportRecord.rewrite (strip msg.sourceRef) (ExportRecord.attempted now)) := by
  have hcancelled : ¬r.exportStatus = .cancelled := by
    rw [hexported]
    decide
  unfold applyLogisticsImportSuccess loadExportRecordForUpdate
  simp only [Tx.run_bind_ok, Tx.run_get_ok, Tx.run_pure_ok]
  obtain ⟨records', hupdate, hrows⟩ := updateExportRecord_runs records
    (strip msg.sourceRef) (fun r => ⟨rfl, rfl⟩ : ∀ r, (ExportRecord.attempted now r).IsFor _ _)
  rw [hfind] at hupdate
  refine ⟨records', ⟨some r, records, ⟨_, _, ⟨rfl, rfl⟩, hfind, rfl⟩, ?_⟩, hrows⟩
  simp only [Tx.run_bind_ok, Tx.run_failIf_ok]
  refine ⟨⟨⟩, _, ⟨hcancelled, rfl⟩, ?_⟩
  rw [if_pos hexported]
  simp only [Tx.run_bind_ok, Tx.run_failIf_ok]
  exact ⟨⟨⟩, _, ⟨not_not.mpr hsame, rfl⟩, hupdate⟩

/-- An accepted import failure has found its record, which is not exported. -/
theorem applyLogisticsImportFailure_run_ok {now : ℤ} {msg : ImportFailureIn} {r' : ExportRecord}
    (h : (applyLogisticsImportFailure now msg).run records = .ok (some r', records')) :
    ∃ r, records.rows.find? (fun r => r.sourceRef = strip msg.sourceRef) = some r ∧
      r.exportStatus ≠ .exported ∧ ¬r.Taken ∧
        records'.rows = records.rows.map (ExportRecord.rewrite (strip msg.sourceRef)
          (ExportRecord.importFailed now (strip msg.errorMessage))) := by
  unfold applyLogisticsImportFailure loadExportRecordForUpdate at h
  simp only [Tx.run_bind_ok, Tx.run_get_ok, Tx.run_pure_ok] at h
  obtain ⟨found?, _, ⟨_, _, ⟨rfl, rfl⟩, rfl, rfl⟩, h⟩ := h
  cases hfind : records.rows.find? (fun r => r.sourceRef = strip msg.sourceRef) with
  | none =>
    rw [hfind] at h
    exact absurd (Tx.run_pure_ok.mp h).1 (Option.some_ne_none r').symm
  | some r =>
    rw [hfind] at h
    simp only [Tx.run_bind_ok, Tx.run_failIf_ok] at h
    obtain ⟨_, _, ⟨-, rfl⟩, _, _, ⟨hnot, rfl⟩, h⟩ := h
    have hrows := updateExportRecord_run_ok h
    push Not at hnot
    exact ⟨r, rfl, hnot.1, hnot.2, hrows⟩

end Updates

/-- The export records are the same. -/
def HandoffTables.SameRecords (t t' : HandoffTables) : Prop := t'.records = t.records

instance : IsPreorder HandoffTables HandoffTables.SameRecords where
  refl _ := rfl
  trans _ _ _ hab hbc := hbc.trans hab

/-- Packages do not touch the export records. -/
theorem upsertShippingRecord_sameRecords (now : ℤ) (base : ShippingBase) (completedAt : Option ℤ)
    (package : ShippingPackageIn) : Tx.Follows HandoffTables.SameRecords
      (upsertShippingRecord now base completedAt package) := by
  intro t id t' h
  unfold upsertShippingRecord resolveShippingProvider at h
  simp only [Tx.run_bind_ok, Tx.run_ofExcept_ok, Tx.run_get_ok, Tx.run_demand_ok, Tx.run_failIf_ok,
    Tx.run_set_ok, Tx.run_pure_ok] at h
  obtain ⟨_, _, ⟨-, rfl⟩, _, _, ⟨_, _, ⟨rfl, rfl⟩, -, rfl⟩, _, _, ⟨rfl, rfl⟩, _, _, ⟨-, rfl⟩, _, _,
    ⟨-, rfl⟩, _, _, ⟨-, rfl⟩, _, _, rfl, -, rfl⟩ := h
  rfl

/-- The stored number of shipping results is their number stripped. -/
theorem requestNo_map_text {requestNo : Option String} {no : Option (Varchar 64)}
    (hfits : ∀ s ∈ requestNo, s.length ≤ 64)
    (hstore : Varchar.store? 64 (requestNo.map strip) = .ok no) :
    no.map Varchar.text = requestNo.map strip := by
  cases requestNo with
  | none =>
    rw [← Except.ok.inj hstore]
    rfl
  | some s =>
    have hfit : (strip s).length ≤ 64 := (strip_length_le s).trans (hfits s rfl)
    rw [Option.map_some, Varchar.store?, Varchar.store_of_fits hfit] at hstore
    rw [← Except.ok.inj hstore]
    rfl

/-- Accepted shipping results have found their record, which is exported and taken in, and
whose request they name. -/
theorem applyLogisticsShippingResults_run_ok {now : ℤ} {msg : ShippingResultIn}
    {out : ExportRecord × List ℕ}
    (h : (applyLogisticsShippingResults now msg).run t = .ok (some out, t')) :
    ∃ r, t.records.rows.find? (fun r => r.sourceRef = strip msg.sourceRef) = some r ∧
      r.exportStatus = .exported ∧ r.Taken ∧
        assertRequestIdentity r msg.logisticsRequestId msg.logisticsRequestNo = .ok () ∧
          ∃ no : Option (Varchar 64), no.map Varchar.text = msg.logisticsRequestNo.map strip ∧
            t'.records.rows = t.records.rows.map (ExportRecord.rewrite (strip msg.sourceRef)
              (ExportRecord.completed now msg.logisticsRequestId no msg.completedAt)) := by
  unfold applyLogisticsShippingResults loadShippingResultContext at h
  simp only [Tx.run_bind_ok, Tx.run_get_ok, Tx.run_pure_ok] at h
  obtain ⟨found?, _, ⟨_, _, ⟨rfl, rfl⟩, rfl, rfl⟩, h⟩ := h
  cases hfind : t.records.rows.find? (fun r => r.sourceRef = strip msg.sourceRef) with
  | none =>
    rw [hfind] at h
    exact absurd (Tx.run_pure_ok.mp h).1 (Option.some_ne_none out).symm
  | some r =>
    rw [hfind] at h
    cases hpayload : r.payload with
    | none =>
      rw [Option.bind_some, hpayload] at h
      exact absurd (Tx.run_pure_ok.mp h).1 (Option.some_ne_none out).symm
    | some p =>
      rw [Option.bind_some, hpayload] at h
      simp only [Option.map_some, Tx.run_bind_ok, Tx.run_failIf_ok, Tx.run_ofExcept_ok] at h
      obtain ⟨_, _, ⟨hexported, rfl⟩, _, _, ⟨htaken, rfl⟩, _, _, ⟨hassert, rfl⟩, base, _,
        ⟨-, rfl⟩, ids, t₁, hpackages, no, _, ⟨hstore, rfl⟩, row?, t₂, hupdate, hout⟩ := h
      obtain rfl := (Tx.run_pure_ok.mp hout).2
      have hsame : t₁.records = t.records :=
        Tx.follows_mapM msg.packages (fun package _ => upsertShippingRecord_sameRecords now base
          msg.completedAt package) t ids t₁ hpackages
      obtain ⟨records', hrun, rfl⟩ := Tx.run_zoom_ok.mp hupdate
      have hrows := updateExportRecord_run_ok hrun
      rw [hsame] at hrows
      exact ⟨r, rfl, not_not.mp hexported, not_not.mp htaken, hassert, no,
        requestNo_map_text msg.requestNo_fits hstore, hrows⟩

/-- An upsert adds a pending record, or refreshes the record of the document. -/
theorem upsertPending_rows {docType : SourceDocType} {docId : ℕ} {docNo : String}
    {records records' : ExportRecords} {u : PUnit}
    (h : (upsertPendingLogisticsExportRecord docType docId docNo).run records = .ok (u, records')) :
    ∃ no, ((∀ r ∈ records.rows, ¬r.IsFor docType docId) ∧
        records'.rows = records.rows ++ [.pending docType docId no]) ∨
      records'.rows = records.rows.map fun r => if r.IsFor docType docId then r.refresh no else r := by
  unfold upsertPendingLogisticsExportRecord at h
  simp only [Tx.run_bind_ok, Tx.run_ofExcept_ok, Tx.run_modify_ok] at h
  obtain ⟨no, _, ⟨-, rfl⟩, rfl⟩ := h
  refine ⟨no, ?_⟩
  rcases records.upsert_rows (.pending docType docId no) (fun a b => Iff.rfl : ∀ a b,
    (ExportRecord.refresh no a).Conflict b ↔ a.Conflict b) fun a b => Iff.rfl with h | ⟨-, hrows⟩
  · exact .inl h
  · exact .inr hrows

theorem orNotFound_run_ok {σ α : Type} {x : Tx σ Err (Option α)} {s s' : σ} {a : α} :
    (orNotFound x).run s = .ok (a, s') ↔ x.run s = .ok (some a, s') := by
  unfold orNotFound
  simp only [Tx.run_bind_ok, Tx.run_demand_ok]
  constructor
  · rintro ⟨found?, _, hx, rfl, rfl⟩
    exact hx
  · intro hx
    exact ⟨some a, s', hx, rfl, rfl⟩

/-- A rewrite of the found record is a change of every record when it is one of that
record. -/
theorem rewrite_change {records : ExportRecords} {sourceRef : String} {op : HandoffOp}
    {f : ExportRecord → ExportRecord} {current : ExportRecord}
    (hfind : records.rows.find? (fun r => r.sourceRef = sourceRef) = some current)
    (hchange : current.Change op (f current)) :
    ∀ r ∈ records.rows, r.Change op (r.rewrite sourceRef f) := by
  intro r hr
  unfold ExportRecord.rewrite
  split
  · rename_i href
    rw [eq_of_find_sourceRef hfind hr href]
    exact hchange
  · exact .kept

/-- An accepted write changes the records it finds and adds at most a pending one. -/
theorem HandoffOp.exec_run_ok {op : HandoffOp} {u : PUnit} (h : op.exec.run t = .ok (u, t')) :
    ∃ g new, t'.records.rows = t.records.rows.map g ++ new ∧
      (∀ r ∈ t.records.rows, r.Change op (g r)) ∧
        ∀ r ∈ new, ∃ docType docId docNo, r = .pending docType docId docNo := by
  cases op with
  | upsertPending docType docId docNo =>
    obtain ⟨records', hrun, rfl⟩ := Tx.run_zoom_ok.mp h
    obtain ⟨no, ⟨-, hrows⟩ | hrows⟩ := upsertPending_rows hrun
    · refine ⟨id, _, hrows.trans (by rw [List.map_id]), fun r _ => .kept, ?_⟩
      intro r hr
      exact ⟨docType, docId, no, List.mem_singleton.mp hr⟩
    · refine ⟨_, [], hrows.trans (List.append_nil _).symm, fun r _ => ?_, by simp⟩
      split
      · rename_i hfor
        exact .refreshed no hfor
      · exact .kept
  | upsertPayload docType docId v =>
    obtain ⟨records', hrun, rfl⟩ := Tx.run_zoom_ok.mp h
    unfold upsertLogisticsHandoffPayload at hrun
    simp only [Tx.run_bind_ok, Tx.run_ofExcept_ok, Tx.run_modify_ok] at hrun
    obtain ⟨payload, _, ⟨-, rfl⟩, rfl⟩ := hrun
    refine ⟨ExportRecord.putPayload docType docId payload, [], by rw [List.append_nil]; rfl,
      fun r _ => ?_, by simp⟩
    unfold ExportRecord.putPayload
    split
    · exact .payload payload
    · exact .kept
  | importSuccess now msg =>
    obtain ⟨r', hnotFound, -⟩ := Tx.run_map_ok.mp h
    obtain ⟨records', hrun, rfl⟩ := Tx.run_zoom_ok.mp (orNotFound_run_ok.mp hnotFound)
    obtain ⟨r, hfind, ⟨hexported, hsame, hrows⟩ | ⟨hnot, no, hno, hrows⟩⟩ :=
      applyLogisticsImportSuccess_run_ok hrun
    · exact ⟨_, [], hrows.trans (List.append_nil _).symm,
        rewrite_change hfind (.attempted hexported hsame), by simp⟩
    · exact ⟨_, [], hrows.trans (List.append_nil _).symm,
        rewrite_change hfind (.imported hnot hno), by simp⟩
  | importFailure now msg =>
    obtain ⟨r', hnotFound, -⟩ := Tx.run_map_ok.mp h
    obtain ⟨records', hrun, rfl⟩ := Tx.run_zoom_ok.mp (orNotFound_run_ok.mp hnotFound)
    obtain ⟨r, hfind, hnot, htaken, hrows⟩ := applyLogisticsImportFailure_run_ok hrun
    exact ⟨_, [], hrows.trans (List.append_nil _).symm,
      rewrite_change hfind (.importFailed hnot htaken), by simp⟩
  | shippingResults now msg =>
    obtain ⟨out, hnotFound, -⟩ := Tx.run_map_ok.mp h
    obtain ⟨r, hfind, hexported, htaken, hassert, no, hno, hrows⟩ :=
      applyLogisticsShippingResults_run_ok (orNotFound_run_ok.mp hnotFound)
    exact ⟨_, [], hrows.trans (List.append_nil _).symm,
      rewrite_change hfind (.completed hexported htaken hassert hno), by simp⟩

/-! ## The life of a record -/

/-- Shipping results that are accepted name the request of the record, as far as both have
one. -/
theorem assertRequestIdentity_eq_ok {r : ExportRecord} {requestId : Option ℕ}
    {requestNo : Option String} (h : assertRequestIdentity r requestId requestNo = .ok ()) :
    (∀ old new, r.logisticsRequestId = some old → requestId = some new → old = new) ∧
      ∀ old new, cleanText (r.logisticsRequestNo.map Varchar.text) = some old →
        requestNo = some new → old = strip new := by
  unfold assertRequestIdentity at h
  split at h
  · cases h
  · rename_i hid
    split at h
    · cases h
    · rename_i hno
      push Not at hid hno
      exact ⟨fun old new hold hnew => hid old hold new hnew,
        fun old new hold hnew => hno old hold new hnew⟩

variable {op : HandoffOp} {r r' : ExportRecord}

/-- Shipping results do not change the request of a consistent record. -/
theorem completed_keeps_request {requestId : Option ℕ} {requestNo : Option String}
    {no : Option (Varchar 64)} (hr : r.Consistent) (hexported : r.exportStatus = .exported)
    (hassert : assertRequestIdentity r requestId requestNo = .ok ())
    (hno : no.map Varchar.text = requestNo.map strip) :
    requestId.or r.logisticsRequestId = r.logisticsRequestId ∧
      no.or r.logisticsRequestNo = r.logisticsRequestNo := by
  obtain ⟨-, id, old, hid, hold, hstripped, hblank⟩ := hr.exported hexported
  obtain ⟨hsameId, hsameNo⟩ := assertRequestIdentity_eq_ok hassert
  constructor
  · cases requestId with
    | none => rfl
    | some new => rw [hid, hsameId id new hid rfl, Option.some_or]
  · cases no with
    | none => rfl
    | some stored =>
      obtain ⟨new, hnew, htext⟩ := Option.map_eq_some_iff.mp hno.symm
      have hclean : cleanText (r.logisticsRequestNo.map Varchar.text) = some old.text := by
        rw [hold, Option.map_some, cleanText, hstripped, if_neg hblank]
      have heq := hsameNo old.text new hclean hnew
      have hstored : stored = old := by
        cases stored
        cases old
        simp_all
      rw [Option.some_or, hold, hstored]

/-- A write keeps a consistent record consistent, when an import success brings a stripped
number. -/
theorem ExportRecord.Change.consistent (h : r.Change op r') (hr : r.Consistent)
    (hplain : ∀ now msg, op = .importSuccess now msg →
      strip msg.logisticsRequestNo = msg.logisticsRequestNo) : r'.Consistent := by
  cases h with
  | kept => exact hr
  | payload p => exact ⟨hr.exported, hr.notTaken⟩
  | attempted => exact ⟨hr.exported, hr.notTaken⟩
  | refreshed no hfor =>
    by_cases hexported : r.exportStatus = .exported
    · obtain ⟨htaken, hrequest⟩ := hr.exported hexported
      refine ⟨fun _ => ⟨?_, hrequest⟩, fun hnot => absurd ?_ hnot⟩
      · unfold Taken at htaken ⊢
        simp only [refresh, if_pos htaken]
        exact htaken
      · simp [refresh, hexported]
    · have hnot := hr.notTaken hexported
      unfold Taken at hnot
      refine ⟨fun hpending => ?_, fun _ => ?_⟩
      · simp [refresh, hexported] at hpending
      · simp [refresh, Taken, hnot]
  | @imported now msg no hnot hno =>
    have hstripped := hplain now msg rfl
    refine ⟨fun _ => ⟨by simp [Taken, ExportRecord.imported], msg.logisticsRequestId, no, rfl, rfl, ?_, ?_⟩,
      fun hnot' => absurd rfl hnot'⟩
    · rw [hno, hstripped, hstripped]
    · rw [hno, hstripped]
      exact msg.requestNo_ne
  | importFailed =>
    exact ⟨fun hexported => by simp [ExportRecord.importFailed] at hexported,
      fun _ => by simp [Taken, ExportRecord.importFailed]⟩
  | @completed now msg no hexported htaken hassert hno =>
    obtain ⟨-, hrequest⟩ := hr.exported hexported
    obtain ⟨hid, hno'⟩ := completed_keeps_request hr hexported hassert hno
    refine ⟨fun _ => ⟨by simp [Taken, ExportRecord.completed], ?_⟩,
      fun hnot => absurd hexported hnot⟩
    simp only [ExportRecord.completed, hid, hno']
    exact hrequest

/-- A consistent record that is exported stays so, under the same request. -/
theorem ExportRecord.Change.staysExported (h : r.Change op r') (hr : r.Consistent) :
    r.StaysExported r' := by
  intro hexported
  cases h with
  | kept => exact ⟨hexported, rfl, rfl⟩
  | payload p => exact ⟨hexported, rfl, rfl⟩
  | attempted => exact ⟨hexported, rfl, rfl⟩
  | refreshed no hfor => exact ⟨by simp [refresh, hexported], rfl, rfl⟩
  | imported hnot => exact absurd hexported hnot
  | importFailed hnot => exact absurd hexported hnot
  | completed _ _ hassert hno =>
    obtain ⟨hid, hno'⟩ := completed_keeps_request hr hexported hassert hno
    exact ⟨hexported, hid, hno'⟩

/-- A consistent record that is completed stays so. -/
theorem ExportRecord.Change.staysCompleted (h : r.Change op r') (hr : r.Consistent)
    (hcompleted : r.logisticsStatus = .completed) : r'.logisticsStatus = .completed := by
  have htaken : r.Taken := by simp [Taken, hcompleted]
  have hexported : r.exportStatus = .exported := by
    by_contra hnot
    exact hr.notTaken hnot htaken
  cases h with
  | kept => exact hcompleted
  | payload p => exact hcompleted
  | attempted => exact hcompleted
  | refreshed no hfor => simp [refresh, hcompleted]
  | imported hnot => exact absurd hexported hnot
  | importFailed hnot => exact absurd hexported hnot
  | completed => rfl

/-- What a record may become while the hand-off keeps its promises. -/
structure ExportRecord.Lives (r r' : ExportRecord) : Prop where
  sameDoc : r.SameDoc r'
  staysExported : r.StaysExported r'
  staysCompleted : r.logisticsStatus = .completed → r'.logisticsStatus = .completed

/-- Every record lives on. -/
def HandoffTables.Lives (t t' : HandoffTables) : Prop :=
  ∀ r ∈ t.records.rows, ∃ r' ∈ t'.records.rows, r.Lives r'

instance : IsPreorder HandoffTables HandoffTables.Lives where
  refl t := fun r hr => ⟨r, hr, ⟨rfl, rfl⟩, fun hexported => ⟨hexported, rfl, rfl⟩, id⟩
  trans t t' t'' h h' := by
    intro r hr
    obtain ⟨r', hr', hdoc, hexported, hcompleted⟩ := h r hr
    obtain ⟨r'', hr'', hdoc', hexported', hcompleted'⟩ := h' r' hr'
    refine ⟨r'', hr'', ⟨hdoc'.1.trans hdoc.1, hdoc'.2.trans hdoc.2⟩, ?_, fun h =>
      hcompleted' (hcompleted h)⟩
    intro hr
    obtain ⟨hr', hid, hno⟩ := hexported hr
    obtain ⟨hr'', hid', hno'⟩ := hexported' hr'
    exact ⟨hr'', hid'.trans hid, hno'.trans hno⟩

/-- An accepted write that does not meet what the hand-off overlooks keeps the records
consistent and alive. -/
theorem HandoffOp.step {u : PUnit} (ht : t.Consistent) (hplain : op.Plain t)
    (h : op.exec.run t = .ok (u, t')) : t'.Consistent ∧ t.Lives t' := by
  obtain ⟨g, new, hrows, hchange, hnew⟩ := exec_run_ok h
  have hmsg : ∀ now msg, op = .importSuccess now msg →
      strip msg.logisticsRequestNo = msg.logisticsRequestNo := by
    rintro now msg rfl
    exact hplain
  constructor
  · intro r hr
    rw [hrows] at hr
    rcases List.mem_append.mp hr with hold | hr
    · obtain ⟨r₀, hr₀, rfl⟩ := List.mem_map.mp hold
      exact (hchange r₀ hr₀).consistent (ht r₀ hr₀) hmsg
    · obtain ⟨docType, docId, docNo, rfl⟩ := hnew r hr
      refine ⟨fun hexported => ?_, fun _ => ?_⟩
      · cases hexported
      · simp [ExportRecord.Taken, ExportRecord.pending]
  · intro r hr
    have hmem : g r ∈ t'.records.rows := by
      rw [hrows]
      exact List.mem_append_left _ (List.mem_map_of_mem hr)
    exact ⟨g r, hmem, (hchange r hr).sameDoc, (hchange r hr).staysExported (ht r hr),
      (hchange r hr).staysCompleted (ht r hr)⟩

/-! ## Repeated messages -/

/-- A stored record is found under its reference. -/
theorem find_sourceRef {records : ExportRecords} {sourceRef : String} (hr : r ∈ records.rows)
    (href : r.sourceRef = sourceRef) :
    records.rows.find? (fun r => r.sourceRef = sourceRef) = some r := by
  refine records.find?_eq_some hr (decide_eq_true href) fun a ha => ?_
  exact sourceRef_eq_iff.mp (href.trans (of_decide_eq_true ha).symm)

/-- After an accepted import success its record is exported under the stripped request. -/
theorem importSuccess_exports {now : ℤ} {msg : ImportSuccessIn} {u : PUnit} (ht : t.Consistent)
    (h : (HandoffOp.importSuccess now msg).exec.run t = .ok (u, t')) :
    ∃ r ∈ t'.records.rows, r.sourceRef = strip msg.sourceRef ∧ r.exportStatus = .exported ∧
      r.SameLogisticsRequest msg.logisticsRequestId (strip msg.logisticsRequestNo) := by
  obtain ⟨out, hnotFound, -⟩ := Tx.run_map_ok.mp h
  obtain ⟨records', hrun, rfl⟩ := Tx.run_zoom_ok.mp (orNotFound_run_ok.mp hnotFound)
  obtain ⟨r, hfind, hcases⟩ := applyLogisticsImportSuccess_run_ok hrun
  have hr := List.mem_of_find?_eq_some hfind
  have href : r.sourceRef = strip msg.sourceRef := by simpa using List.find?_some hfind
  rcases hcases with ⟨hexported, ⟨hid, hno⟩, hrows⟩ | ⟨-, no, hno, hrows⟩
  · have hmem := List.mem_map_of_mem (f := ExportRecord.rewrite (strip msg.sourceRef)
      (ExportRecord.attempted now)) hr
    rw [← hrows, ExportRecord.rewrite, if_pos href] at hmem
    refine ⟨_, hmem, href, hexported, hid, ?_⟩
    obtain ⟨-, -, old, -, hold, hstripped, -⟩ := (ht r hr).exported hexported
    rw [hold] at hno
    have htext : old.text = msg.logisticsRequestNo := hno
    rw [← htext, hstripped]
    exact congrArg (fun o => (Option.map Varchar.text o).getD "") hold
  · have hmem := List.mem_map_of_mem (f := ExportRecord.rewrite (strip msg.sourceRef)
      (ExportRecord.imported now msg.logisticsRequestId no)) hr
    rw [← hrows, ExportRecord.rewrite, if_pos href] at hmem
    exact ⟨_, hmem, href, rfl, rfl, hno⟩

/-- The import success of an exported record's own request is accepted, and changes
neither identity nor status of any record. -/
theorem importSuccess_repeats {msg : ImportSuccessIn} (now : ℤ) (hr : r ∈ t.records.rows)
    (href : r.sourceRef = strip msg.sourceRef) (hexported : r.exportStatus = .exported)
    (hsame : r.SameLogisticsRequest msg.logisticsRequestId msg.logisticsRequestNo) :
    ∃ u t', (HandoffOp.importSuccess now msg).exec.run t = .ok (u, t') ∧
      ∀ r ∈ t.records.rows, ∃ r' ∈ t'.records.rows, r.SameDoc r' ∧ r.SameState r' := by
  obtain ⟨records', hrun, hrows⟩ :=
    applyLogisticsImportSuccess_repeats now (find_sourceRef hr href) hexported hsame
  refine ⟨⟨⟩, t.putRecords records', Tx.run_map_ok.mpr ⟨r.attempted now, orNotFound_run_ok.mpr
    (Tx.run_zoom_ok.mpr ⟨records', hrun, rfl⟩), rfl⟩, ?_⟩
  intro r' hr'
  refine ⟨_, hrows ▸ List.mem_map_of_mem hr', ?_⟩
  unfold ExportRecord.rewrite
  split
  · exact ⟨⟨rfl, rfl⟩, rfl, rfl, rfl, rfl⟩
  · exact ⟨⟨rfl, rfl⟩, rfl, rfl, rfl, rfl⟩

/-- An accepted import success whose repetition is accepted has a stripped number. -/
theorem stripped_of_repeated {now now' : ℤ} {msg : ImportSuccessIn} {u u' : PUnit}
    {t'' : HandoffTables} (ht : t.Consistent)
    (h : (HandoffOp.importSuccess now msg).exec.run t = .ok (u, t'))
    (hrepeat : (HandoffOp.importSuccess now' msg).exec.run t' = .ok (u', t'')) :
    strip msg.logisticsRequestNo = msg.logisticsRequestNo := by
  obtain ⟨r, hr, href, hexported, -, hno⟩ := importSuccess_exports ht h
  obtain ⟨out, hnotFound, -⟩ := Tx.run_map_ok.mp hrepeat
  obtain ⟨records', hrun, -⟩ := Tx.run_zoom_ok.mp (orNotFound_run_ok.mp hnotFound)
  obtain ⟨r', hfind, hcases⟩ := applyLogisticsImportSuccess_run_ok hrun
  obtain rfl := eq_of_find_sourceRef hfind hr href
  rcases hcases with ⟨-, ⟨-, hno'⟩, -⟩ | ⟨hnot, -⟩
  · exact hno.symm.trans hno'
  · exact absurd hexported hnot

/-- After an upsert the record of its document is exported or pending. -/
theorem upsertPending_revives {docType : SourceDocType} {docId : ℕ} {docNo : String} {u : PUnit}
    (h : (HandoffOp.upsertPending docType docId docNo).exec.run t = .ok (u, t'))
    (hr : r ∈ t'.records.rows) (hfor : r.IsFor docType docId) :
    r.exportStatus = .exported ∨ r.exportStatus = .pending := by
  obtain ⟨records', hrun, rfl⟩ := Tx.run_zoom_ok.mp h
  change r ∈ records'.rows at hr
  obtain ⟨no, ⟨hnone, hrows⟩ | hrows⟩ := upsertPending_rows hrun
  · rw [hrows] at hr
    rcases List.mem_append.mp hr with hold | hnew
    · exact absurd hfor (hnone r hold)
    · rw [List.mem_singleton.mp hnew]
      exact .inr rfl
  · rw [hrows] at hr
    obtain ⟨r₀, -, rfl⟩ := List.mem_map.mp hr
    split
    · by_cases hexported : r₀.exportStatus = .exported
      · exact .inl (by simp [ExportRecord.refresh, hexported])
      · exact .inr (by simp [ExportRecord.refresh, hexported])
    · rename_i hnot
      rw [if_neg hnot] at hfor
      exact absurd hfor hnot

/-! ## Runs of writes -/

theorem Consistent.attempt (ht : t.Consistent)
    (hplain : (∃ u t', op.exec.run t = .ok (u, t')) → op.Plain t) :
    (op.exec.attempt t).Consistent := by
  rcases Tx.attempt_cases op.exec t with hsame | ⟨u, hrun⟩
  · rw [hsame]
    exact ht
  · exact (HandoffOp.step ht (hplain ⟨u, _, hrun⟩) hrun).1

/-- The promises over a run hold over what remains of it after its first write. -/
theorem HandoffKept.tail {ops : List HandoffOp} (h : HandoffKept (op :: ops) t) :
    HandoffKept ops (op.exec.attempt t) where
  exported n m hle := h.exported (n + 1) (m + 1) (Nat.succ_le_succ hle)
  completed n m hle := h.completed (n + 1) (m + 1) (Nat.succ_le_succ hle)
  notRevived n := h.notRevived (n + 1)
  replayed n now msg hop hrun m hlt := h.replayed (n + 1) now msg hop hrun (m + 1)
    (Nat.succ_lt_succ hlt)

/-- An accepted first write of a run that keeps the promises does not meet what the
hand-off overlooks. -/
theorem HandoffKept.plain {ops : List HandoffOp} {u : PUnit} (ht : t.Consistent)
    (h : HandoffKept (op :: ops) t) (hrun : op.exec.run t = .ok (u, t')) : op.Plain t := by
  have hafter : t.after (op :: ops) 1 = t' := Tx.attempt_of_run hrun
  cases op with
  | upsertPending docType docId docNo =>
    intro r hr hfor
    have hkept := h.notRevived 0 docType docId docNo rfl r hr hfor
    rw [hafter] at hkept
    constructor
    · intro hfailed
      obtain ⟨r', hr', hdoc, hstatus⟩ := hkept (.inl hfailed)
      have hfor' : r'.IsFor docType docId := ⟨hdoc.1.trans hfor.1, hdoc.2.trans hfor.2⟩
      rw [hfailed] at hstatus
      rcases upsertPending_revives hrun hr' hfor' with h | h <;> simp [h] at hstatus
    · intro hcancelled
      obtain ⟨r', hr', hdoc, hstatus⟩ := hkept (.inr hcancelled)
      have hfor' : r'.IsFor docType docId := ⟨hdoc.1.trans hfor.1, hdoc.2.trans hfor.2⟩
      rw [hcancelled] at hstatus
      rcases upsertPending_revives hrun hr' hfor' with h | h <;> simp [h] at hstatus
  | importSuccess now msg =>
    obtain ⟨u', t'', hrepeat, -⟩ := h.replayed 0 now msg rfl ⟨u, t', hrun⟩ 1 Nat.one_pos now
    rw [hafter] at hrepeat
    exact stripped_of_repeated ht hrun hrepeat
  | _ => trivial

/-- An upsert that finds no failed or cancelled record of its document revives none. -/
theorem HandoffOp.notRevived {docType : SourceDocType} {docId : ℕ} {docNo : String}
    (hplain : ∀ u t', (HandoffOp.upsertPending docType docId docNo).exec.run t = .ok (u, t') →
      (HandoffOp.upsertPending docType docId docNo).Plain t)
    (hr : r ∈ t.records.rows) (hfor : r.IsFor docType docId)
    (hstatus : r.exportStatus = .failed ∨ r.exportStatus = .cancelled) :
    r ∈ ((HandoffOp.upsertPending docType docId docNo).exec.attempt t).records.rows := by
  rcases Tx.attempt_cases (HandoffOp.upsertPending docType docId docNo).exec t with hsame | ⟨u, hrun⟩
  · rw [hsame]
    exact hr
  · obtain ⟨hfailed, hcancelled⟩ := hplain u _ hrun r hr hfor
    exact absurd hstatus (not_or.mpr ⟨hfailed, hcancelled⟩)

/-- Starting from consistent records, the hand-off keeps its promises over a run exactly
when no accepted upsert finds a failed or cancelled record of its document and the request
number of every accepted import success is stripped. -/
theorem handoffKept_iff (ops : List HandoffOp) (t : HandoffTables) (ht : t.Consistent) :
    HandoffKept ops t ↔ Tx.AllAccepted HandoffOp.exec HandoffOp.Plain ops t := by
  constructor
  · intro h
    induction ops generalizing t with
    | nil => trivial
    | cons op ops ih =>
      have hplain : (∃ u t', op.exec.run t = .ok (u, t')) → op.Plain t :=
        fun ⟨u, t', hrun⟩ => h.plain ht hrun
      exact ⟨hplain, ih _ (Consistent.attempt ht hplain) h.tail⟩
  · intro hall
    have hstep : ∀ (op : HandoffOp) (s : HandoffTables) (u : PUnit) (s' : HandoffTables),
        s.Consistent → op.Plain s → op.exec.run s = .ok (u, s') → s'.Consistent ∧ s.Lives s' :=
      fun _ _ _ _ hs hop hrun => HandoffOp.step hs hop hrun
    have halong : ∀ n m, n ≤ m → (t.after ops n).Consistent ∧ (t.after ops n).Lives (t.after ops m) :=
      fun n m hle => Tx.attemptAll_along hstep ht hall hle
    refine ⟨?_, ?_, ?_, ?_⟩
    · intro n m hle r hr
      obtain ⟨r', hr', hlives⟩ := (halong n m hle).2 r hr
      exact ⟨r', hr', hlives.sameDoc, hlives.staysExported⟩
    · intro n m hle r hr hcompleted
      obtain ⟨r', hr', hlives⟩ := (halong n m hle).2 r hr
      exact ⟨r', hr', hlives.sameDoc, hlives.staysCompleted hcompleted⟩
    · intro n docType docId docNo hop r hr hfor hstatus
      have hnext : t.after ops (n + 1) = _ := Tx.attemptAll_take_succ hop t
      rw [hnext]
      exact ⟨r, HandoffOp.notRevived (fun u t' hrun => hall.at hop hrun) hr hfor hstatus,
        ⟨rfl, rfl⟩, rfl⟩
    · rintro n now msg hop ⟨u, t', hrun⟩ m hlt now'
      have hstripped : strip msg.logisticsRequestNo = msg.logisticsRequestNo := hall.at hop hrun
      obtain ⟨r, hr, href, hexported, hsame⟩ :=
        importSuccess_exports (halong n n (le_refl n)).1 hrun
      have hnext : t.after ops (n + 1) = t' :=
        (Tx.attemptAll_take_succ hop t).trans (Tx.attempt_of_run hrun)
      rw [← hnext] at hr
      obtain ⟨r', hr', hlives⟩ := (halong (n + 1) m hlt).2 r hr
      obtain ⟨hexported', hid, hno⟩ := hlives.staysExported hexported
      have href' : r'.sourceRef = strip msg.sourceRef :=
        (sourceRef_eq_iff.mpr hlives.sameDoc).symm.trans href
      have hsame' : r'.SameLogisticsRequest msg.logisticsRequestId msg.logisticsRequestNo := by
        unfold ExportRecord.SameLogisticsRequest at hsame ⊢
        rwa [hid, hno, ← hstripped, hstripped, ← hstripped]
      exact importSuccess_repeats now' hr' href' hexported' hsame'

/-- Tables without rows. -/
def HandoffTables.empty : HandoffTables := ⟨[], [], .empty, .empty⟩

theorem HandoffTables.empty_consistent : HandoffTables.empty.Consistent := by
  intro r hr
  cases hr

/-- The report that an order could not be imported. -/
def missingPhone : ImportFailureIn where
  sourceRef := "WMS:ORDER_OUTBOUND:1"
  errorMessage := "receiver_phone is missing"
  sourceRef_ne := by decide
  sourceRef_fits := by decide
  errorMessage_ne := by decide
  errorMessage_fits := by decide

/-- An order is handed over, its import fails, and it is handed over again. -/
def revivedRun : List HandoffOp :=
  [.upsertPending .orderOutbound 1 "E1", .importFailure 0 missingPhone,
    .upsertPending .orderOutbound 1 "E1"]

theorem handoffKept_iff_revivedRun : HandoffKept revivedRun .empty ↔
    Tx.AllAccepted HandoffOp.exec HandoffOp.Plain revivedRun .empty :=
  handoffKept_iff revivedRun .empty HandoffTables.empty_consistent

/-- The failed record is pending again. -/
theorem not_handoffKept_revivedRun :
    ¬∀ (ops : List HandoffOp) (t : HandoffTables), t.Consistent → HandoffKept ops t := by
  intro h
  have hkept := (h revivedRun .empty HandoffTables.empty_consistent).notRevived 2 .orderOutbound 1
    "E1" rfl
  have hfailed : ∃ r ∈ (HandoffTables.empty.after revivedRun 2).records.rows,
      r.IsFor .orderOutbound 1 ∧ r.exportStatus = .failed := by decide +kernel
  have hpending : ∀ r ∈ (HandoffTables.empty.after revivedRun 3).records.rows,
      r.exportStatus = .pending := by decide +kernel
  obtain ⟨r, hr, hfor, hstatus⟩ := hfailed
  obtain ⟨r', hr', -, hsame⟩ := hkept r hr hfor (.inl hstatus)
  rw [hpending r' hr', hstatus] at hsame
  cases hsame

end Wms
