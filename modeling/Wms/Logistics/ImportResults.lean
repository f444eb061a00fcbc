import Wms.Outbound.Handoff

/-!
# Import results

Logistics reports whether it could import a shipping request. The export record that the
message names by its reference is locked, its state is checked, and the record is
rewritten.
-/

namespace Wms

open Foundation

/-- `LogisticsImportResultIn` with `export_status` EXPORTED. -/
structure ImportSuccessIn where
  sourceRef : String
  logisticsRequestId : ℕ
  logisticsRequestNo : String
  sourceRef_ne : sourceRef ≠ ""
  sourceRef_fits : sourceRef.length ≤ 192
  requestId_pos : 1 ≤ logisticsRequestId
  requestNo_ne : logisticsRequestNo ≠ ""
  requestNo_fits : logisticsRequestNo.length ≤ 64

/-- `LogisticsImportResultIn` with `export_status` FAILED. -/
structure ImportFailureIn where
  sourceRef : String
  errorMessage : String
  sourceRef_ne : sourceRef ≠ ""
  sourceRef_fits : sourceRef.length ≤ 192
  errorMessage_ne : errorMessage ≠ ""
  errorMessage_fits : errorMessage.length ≤ 2000

namespace ExportRecord

/-- `_same_logistics_request`. -/
def SameLogisticsRequest (record : ExportRecord) (requestId : ℕ) (requestNo : String) : Prop :=
  record.logisticsRequestId = some requestId ∧
    (record.logisticsRequestNo.map Varchar.text).getD "" = requestNo

instance (record : ExportRecord) (id : ℕ) (no : String) :
    Decidable (record.SameLogisticsRequest id no) :=
  inferInstanceAs (Decidable (_ ∧ _))

/-- Logistics has taken the request in. -/
def Taken (record : ExportRecord) : Prop :=
  record.logisticsStatus ∈ [LogisticsStatus.imported, .inProgress, .completed]

instance (record : ExportRecord) : Decidable record.Taken :=
  inferInstanceAs (Decidable (_ ∈ _))

/-- The record after a repeated import result. -/
def attempted (now : ℤ) (record : ExportRecord) : ExportRecord :=
  { record with lastAttemptAt := some now }

/-- The record after its request was imported. -/
def imported (now : ℤ) (requestId : ℕ) (requestNo : Varchar 64) (record : ExportRecord) :
    ExportRecord :=
  { record with
    exportStatus := .exported
    logisticsStatus := .imported
    logisticsRequestId := some requestId
    logisticsRequestNo := some requestNo
    exportedAt := some (record.exportedAt.getD now)
    lastAttemptAt := some now
    lastError := none }

/-- The record after its request could not be imported. -/
def importFailed (now : ℤ) (lastError : String) (record : ExportRecord) : ExportRecord :=
  { record with
    exportStatus := .failed
    logisticsStatus := .failed
    logisticsRequestId := none
    logisticsRequestNo := none
    lastAttemptAt := some now
    lastError := some lastError }

end ExportRecord

/-- Rewrite the record if it has the reference. -/
def ExportRecord.rewrite (sourceRef : String) (f : ExportRecord → ExportRecord)
    (r : ExportRecord) : ExportRecord :=
  if r.sourceRef = sourceRef then f r else r

/-- A rewriting that keeps the document keeps it also where it applies. -/
theorem ExportRecord.rewrite_isFor {sourceRef : String} {f : ExportRecord → ExportRecord}
    (hf : ∀ r, (f r).IsFor r.sourceDocType r.sourceDocId) (r : ExportRecord) :
    (r.rewrite sourceRef f).IsFor r.sourceDocType r.sourceDocId := by
  unfold rewrite
  split
  · exact hf r
  · exact ⟨rfl, rfl⟩

/-- Rewrite the record with a reference; `RETURNING` gives the new row. -/
def updateExportRecord (sourceRef : String) (f : ExportRecord → ExportRecord)
    (hf : ∀ r, (f r).IsFor r.sourceDocType r.sourceDocId) :
    Tx ExportRecords Err (Option ExportRecord) := do
  let records ← get
  set (records.map (ExportRecord.rewrite sourceRef f) (by
    intro a b h
    obtain ⟨hatype, haid⟩ := ExportRecord.rewrite_isFor hf a
    obtain ⟨hbtype, hbid⟩ := ExportRecord.rewrite_isFor hf b
    unfold ExportRecord.Conflict ExportRecord.IsFor at h ⊢
    rwa [hatype, haid, hbtype, hbid] at h))
  return (records.rows.find? fun r => r.sourceRef = sourceRef).map f

/-- `_load_export_record_for_update`. -/
def loadExportRecordForUpdate (sourceRef : String) : Tx ExportRecords Err (Option ExportRecord) := do
  let records ← get
  return records.rows.find? fun r => r.sourceRef = strip sourceRef

/-- `apply_logistics_import_success`. -/
def applyLogisticsImportSuccess (now : ℤ) (msg : ImportSuccessIn) :
    Tx ExportRecords Err (Option ExportRecord) := do
  match ← loadExportRecordForUpdate msg.sourceRef with
  | none => return none
  | some current =>
    Tx.failIf (current.exportStatus = .cancelled) (.valueError "logistics_export_record_cancelled")
    if current.exportStatus = .exported then
      Tx.failIf (¬current.SameLogisticsRequest msg.logisticsRequestId msg.logisticsRequestNo)
        (.valueError "logistics_export_record_already_exported")
      updateExportRecord (strip msg.sourceRef) (ExportRecord.attempted now) fun _ => ⟨rfl, rfl⟩
    else
      Tx.failIf current.Taken (.valueError "logistics_export_record_invalid_import_transition")
      let requestNo ← Tx.ofExcept (Varchar.store 64 (strip msg.logisticsRequestNo))
      updateExportRecord (strip msg.sourceRef)
        (ExportRecord.imported now msg.logisticsRequestId requestNo) fun _ => ⟨rfl, rfl⟩

/-- `apply_logistics_import_failure`. -/
def applyLogisticsImportFailure (now : ℤ) (msg : ImportFailureIn) :
    Tx ExportRecords Err (Option ExportRecord) := do
  match ← loadExportRecordForUpdate msg.sourceRef with
  | none => return none
  | some current =>
    Tx.failIf (current.exportStatus = .cancelled) (.valueError "logistics_export_record_cancelled")
    Tx.failIf (current.exportStatus = .exported ∨ current.Taken)
      (.valueError "logistics_export_record_already_imported")
    updateExportRecord (strip msg.sourceRef)
      (ExportRecord.importFailed now (strip msg.errorMessage)) fun _ => ⟨rfl, rfl⟩

/-- The routes answer a reference without a record with 404 and roll back. -/
def orNotFound {σ α : Type} (x : Tx σ Err (Option α)) : Tx σ Err α := do
  let found? ← x
  Tx.demand found? (.httpException 404 "logistics export record not found")

end Wms
