import Wms.Events

/-!
# Source documents of outbound events

An outbound event ships lines of a platform order or of a manual outbound document.
Orders are imported and their lines are never changed afterwards; a manual document
passes through a small life cycle.
-/

namespace Wms

open Foundation

/-- `Warehouse`: a row of `warehouses`. -/
structure Warehouse where
  id : ℕ
  name : Varchar 100
  deriving DecidableEq

/-- `OrderAddress`: the receiver of an order. -/
structure OrderAddress where
  receiverName : Option (Varchar 255)
  receiverPhone : Option (Varchar 64)
  province : Option (Varchar 64)
  city : Option (Varchar 64)
  district : Option (Varchar 64)
  detail : Option (Varchar 255)
  zipcode : Option (Varchar 32)
  deriving DecidableEq

/-- `Order`: a row of `orders`, with its address when there is one. -/
structure Order where
  id : ℕ
  platform : Varchar 32
  storeCode : Varchar 64
  extOrderNo : Varchar 128
  buyerName : Option (Varchar 128)
  buyerPhone : Option (Varchar 32)
  address : Option OrderAddress
  deriving DecidableEq

/-- The texts that the import of an order keeps about one of its lines. -/
structure ImportSnapshot where
  skuCode : Varchar 128
  itemName : Varchar 255
  deriving DecidableEq

/-- `OrderLine`: a row of `order_lines`, with its import snapshot when there is one. -/
structure OrderLine where
  id : ℕ
  orderId : ℕ
  itemId : ℕ
  reqQty : ℤ
  importSnapshot : Option ImportSnapshot
  deriving DecidableEq

/-- `manual_outbound_docs.status`. -/
inductive ManualDocStatus
  | draft
  | released
  | completed
  | voided
  deriving DecidableEq, Repr

/-- The status as the database stores it. -/
def ManualDocStatus.code : ManualDocStatus → String
  | draft => "DRAFT"
  | released => "RELEASED"
  | completed => "COMPLETED"
  | voided => "VOIDED"

/-- A row of `manual_outbound_docs`; the texts have the bounds of the creation contract. -/
structure ManualDoc where
  id : ℕ
  warehouseId : ℕ
  docNo : String
  status : ManualDocStatus
  recipientName : Option (Varchar 255)
  receiverPhone : Option (Varchar 64)
  receiverProvince : Option (Varchar 64)
  receiverCity : Option (Varchar 64)
  receiverDistrict : Option (Varchar 64)
  receiverAddress : Option (Varchar 255)
  receiverPostcode : Option (Varchar 32)
  deriving DecidableEq

/-- A row of `manual_outbound_lines`; the texts have the bounds of the creation contract. -/
structure ManualLine where
  id : ℕ
  docId : ℕ
  lineNo : ℕ
  itemId : ℕ
  requestedQty : ℤ
  itemNameSnapshot : Option (Varchar 255)
  itemSkuSnapshot : Option (Varchar 128)
  itemSpecSnapshot : Option (Varchar 255)
  /-- The creation contract asks for a positive quantity. -/
  requested_pos : 0 < requestedQty

/-- A document that is still a draft is released. -/
def ManualDoc.release (docId : ℕ) (d : ManualDoc) : ManualDoc :=
  if d.id = docId ∧ d.status = .draft then { d with status := .released } else d

/-- A released document is completed. -/
def ManualDoc.complete (docId : ℕ) (d : ManualDoc) : ManualDoc :=
  if d.id = docId ∧ d.status = .released then { d with status := .completed } else d

/-- A document that is not finished is voided. -/
def ManualDoc.void (docId : ℕ) (d : ManualDoc) : ManualDoc :=
  if d.id = docId ∧ (d.status = .draft ∨ d.status = .released) then
    { d with status := .voided }
  else d

theorem ManualDoc.release_id (docId : ℕ) (d : ManualDoc) : (d.release docId).id = d.id := by
  unfold ManualDoc.release
  split <;> rfl

theorem ManualDoc.complete_id (docId : ℕ) (d : ManualDoc) : (d.complete docId).id = d.id := by
  unfold ManualDoc.complete
  split <;> rfl

theorem ManualDoc.void_id (docId : ℕ) (d : ManualDoc) : (d.void docId).id = d.id := by
  unfold ManualDoc.void
  split <;> rfl

end Wms
