import Wms.Foundation.Calendar
import Wms.Text

/-!
# The product master

Items, their policies and their units belong to an external service. The services
reach it through a read client whose answers are taken as given; what the client
promises about an answer is carried by the answer.
-/

namespace Wms

open Foundation

/-- Whether the stock of an item carries an expiry date. -/
inductive ExpiryPolicy
  | none
  | required
  deriving DecidableEq, Repr

/-- Where the lots of an item come from. -/
inductive LotSourcePolicy
  | internalOnly
  | supplierOnly
  deriving DecidableEq, Repr

/-- The unit in which the product master states a shelf life. -/
inductive ShelfLifeUnit
  | day
  | week
  | month
  | year
  deriving DecidableEq, Repr

/-- `ItemPolicy`: the part of an item that governs its stock. -/
structure ItemPolicy where
  itemId : ℕ
  expiryPolicy : ExpiryPolicy
  shelfLifeValue : Option ℕ
  shelfLifeUnit : Option ShelfLifeUnit
  lotSourcePolicy : LotSourcePolicy
  derivationAllowed : Bool
  uomGovernanceEnabled : Bool
  /-- A shelf life that is given is positive. -/
  shelfLife_pos : ∀ v ∈ shelfLifeValue, 0 < v
  deriving DecidableEq

/-- `ItemBasic`: the texts that name an item, bounded by the contract of the client. -/
structure ItemBasic where
  id : ℕ
  sku : Varchar 128
  name : Varchar 128
  spec : Option (Varchar 128)
  deriving DecidableEq

/-- `PmsExportUom`: a unit of an item and its size in base units. -/
structure ItemUom where
  id : ℕ
  itemId : ℕ
  uomName : Varchar 32
  ratioToBase : ℕ
  isBase : Bool
  isInboundDefault : Bool
  /-- A unit holds at least one base unit. -/
  ratio_pos : 1 ≤ ratioToBase
  deriving DecidableEq

/-- `BarcodeProbeOut`: what a barcode is bound to. -/
structure BarcodeProbe where
  bound : Bool
  active : Option Bool
  itemId : Option ℕ
  itemUomId : Option ℕ
  deriving DecidableEq

/-- `PmsReadClient`: the questions that the services ask. A call may itself fail. -/
structure PmsClient where
  getItemPolicy : ℕ → Except Err (Option ItemPolicy)
  getItemPolicies : List ℕ → Except Err (ℕ → Option ItemPolicy)
  getItemBasic : ℕ → Except Err (Option ItemBasic)
  getItemBasics : List ℕ → Except Err (ℕ → Option ItemBasic)
  getUom : ℕ → Except Err (Option ItemUom)
  listUoms : List ℕ → Except Err (List ItemUom)
  probeBarcode : String → Except Err BarcodeProbe

/-! ## A product master with plain items -/

/-- The policy of an item without expiry dates and with internal lots. -/
def plainPolicy (itemId : ℕ) : ItemPolicy where
  itemId := itemId
  expiryPolicy := .none
  shelfLifeValue := none
  shelfLifeUnit := none
  lotSourcePolicy := .internalOnly
  derivationAllowed := false
  uomGovernanceEnabled := false
  shelfLife_pos _ h := absurd h (by simp)

/-- The texts of an item. -/
def plainItem (itemId : ℕ) : ItemBasic := ⟨itemId, ⟨"A", by decide⟩, ⟨"apple", by decide⟩, none⟩

/-- The base unit of an item, which has the number of the item. -/
def plainUom (itemId : ℕ) : ItemUom :=
  ⟨itemId, itemId, ⟨"piece", by decide⟩, 1, true, true, le_refl 1⟩

/-- A product master whose items are all alike. -/
def plainPms : PmsClient where
  getItemPolicy itemId := .ok (some (plainPolicy itemId))
  getItemPolicies itemIds := .ok fun itemId =>
    if itemId ∈ itemIds then some (plainPolicy itemId) else none
  getItemBasic itemId := .ok (some (plainItem itemId))
  getItemBasics _ := .ok fun itemId => some (plainItem itemId)
  getUom uomId := .ok (some (plainUom uomId))
  listUoms itemIds := .ok (itemIds.map plainUom)
  probeBarcode _ := .ok ⟨false, none, none, none⟩

end Wms
