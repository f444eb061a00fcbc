import Mathlib

/-!
# Errors

The failures of the services. A service failure leaves the transaction through the
caller's rollback, whichever exception carries it.
-/

namespace Wms

/-- An entry of `details` of a problem. -/
inductive ProblemDetail
  | validation (path : String) (itemIds : List ℕ) (reason : String)
  | batch (path : String) (itemId : ℕ) (reason : String)
  | shortage (itemId : ℕ) (requiredQty availableQty shortQty : ℤ) (reason : String)
  /-- One of the orders that a reference may mean. -/
  | order (id : ℕ) (platform storeCode : String)
  /-- A slot whose balance is not the one that the ledger last recorded. -/
  | balance (warehouseId itemId lotId : ℕ) (ledgerAfterQty : Option ℤ) (stocksLotQty : ℤ)
  /-- A lot code that the policy of its item forbids, or that is missing. -/
  | lotCode (path reason : String)
  deriving DecidableEq, Repr

/-- The exceptions that end a request, with the texts the source gives them. -/
inductive Err
  /-- Python's `ValueError`. -/
  | valueError (message : String)
  /-- Python's `RuntimeError`. -/
  | runtimeError (message : String)
  /-- `HTTPException` with its status code and detail. -/
  | httpException (status : ℕ) (detail : String)
  /-- `raise_problem`. -/
  | problem (status : ℕ) (errorCode message : String) (details : List ProblemDetail)
  /-- `LookupError`. -/
  | lookupError (message : String)
  /-- `NotFoundError` of the user services. -/
  | notFoundError (message : String)
  /-- The 409 answer `count_doc_frozen_for_warehouse`, with the document that froze the
  warehouse. -/
  | warehouseFrozen (warehouseId countDocId : ℕ) (countNo : String) (snapshotAt : ℤ)
  /-- The 409 answer of the service routes, with what belongs to other warehouses under the
  name of its field. -/
  | ownedElsewhere (message : String) (warehouseId : ℕ) (field : String)
      (conflicts : List (String × ℕ))
  /-- A constraint of the database rejects the row. -/
  | integrityError (constraint : String)
  /-- `ON CONFLICT DO UPDATE` would write a row a second time. -/
  | cardinalityViolation
  /-- A text is too long for its `character varying` column. -/
  | dataError (width : ℕ)
  /-- A number is too large for its `numeric` column. -/
  | numericOverflow (precision scale : ℕ)
  /-- Python's `TypeError`. -/
  | typeError (message : String)
  /-- A number is too large for its `integer` column. -/
  | integerOverflow
  /-- Python's `OverflowError`. -/
  | overflowError (message : String)
  /-- Python's `AttributeError`. -/
  | attributeError (message : String)
  /-- `decimal.Overflow`. -/
  | decimalOverflow
  deriving DecidableEq, Repr

/-- A successful sequence of two computations succeeds in both of them. -/
theorem except_bind_eq_ok {α β : Type} {x : Except Err α} {f : α → Except Err β} {b : β} :
    (x >>= f) = .ok b ↔ ∃ a, x = .ok a ∧ f a = .ok b := by
  cases x with
  | error e => exact ⟨nofun, nofun⟩
  | ok a => exact ⟨fun h => ⟨a, rfl, h⟩, fun ⟨_, ha, h⟩ => by cases ha; exact h⟩

end Wms
