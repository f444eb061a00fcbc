import Wms.Database

/-!
# Naming an order

The services accept several forms of an order key: the identifier, the platform, store
and external number separated by colons, or the external number alone when only one
order has it.
-/

namespace Wms

open Foundation

/-- `OrderKey`. -/
structure OrderKey where
  platform : String
  storeCode : String
  extOrderNo : String
  deriving DecidableEq

/-- `s.split(":")`. -/
def splitColons (s : String) : List String := (s.toList.splitOn ':').map String.ofList

/-- The key, unless one of its parts is blank. -/
def orderKey (platform storeCode : String) (ext : List String) : Option OrderKey :=
  let key : OrderKey := ⟨strip platform, strip storeCode, strip (":".intercalate ext)⟩
  if key.platform = "" ∨ key.storeCode = "" ∨ key.extOrderNo = "" then none else some key

/-- `_parse_order_key` of a stripped, nonempty text. -/
def parseOrderKey (s : String) : Option OrderKey :=
  match splitColons s with
  | first :: second :: third :: rest =>
    match rest with
    | [] => orderKey first second [third]
    | _ :: _ =>
      if upper first = "ORD" then orderKey second third rest
      else orderKey first second (third :: rest)
  | _ => none

/-- `s.isdigit()`. -/
def isDigits (s : String) : Bool := s ≠ "" ∧ s.toList.all Char.isDigit

/-- `int(s)`. -/
def digitsValue (s : String) : ℕ := s.toList.foldl (fun n c => 10 * n + (c.toNat - '0'.toNat)) 0

/-- `order_not_found`, by the identifier or by the parts of the key. -/
def orderNotFound (form : String) : Err :=
  .problem 404 "order_not_found" s!"订单不存在（按 {form} 查询）。" []

/-- `resolve_order_id`. -/
def resolveOrderId (db : Database) (orderRef : String) : Except Err ℕ :=
  let s := strip orderRef
  if s = "" then .error (.valueError "order_ref cannot be empty")
  else if isDigits s then
    match db.orders.rows.find? fun o => o.id = digitsValue s with
    | some o => .ok o.id
    | none => .error (orderNotFound "orders.id")
  else
    match parseOrderKey s with
    | some key =>
      match db.orders.rows.find? fun o => o.platform.text = key.platform ∧
          o.storeCode.text = key.storeCode ∧ o.extOrderNo.text = key.extOrderNo with
      | some o => .ok o.id
      | none => .error (orderNotFound "platform/store_code/ext_order_no")
    | none =>
      match (db.orders.rows.filter fun o => o.extOrderNo.text = s).insertionSort
          fun a b => a.id ≤ b.id with
      | [] => .error (orderNotFound "ext_order_no")
      | [o] => .ok o.id
      | o :: o' :: _ => .error (.problem 409 "order_ref_ambiguous"
          "订单引用歧义：仅 ext_order_no 无法唯一定位订单，请传 ORD:PLAT:STORE:EXT。"
          [.order o.id o.platform.text o.storeCode.text,
            .order o'.id o'.platform.text o'.storeCode.text])

/-- What is resolved is a stored order. -/
theorem resolveOrderId_eq_ok {db : Database} {ref : String} {orderId : ℕ}
    (h : resolveOrderId db ref = .ok orderId) : ∃ o ∈ db.orders.rows, o.id = orderId := by
  unfold resolveOrderId at h
  simp only at h
  split at h
  · cases h
  · split at h
    · split at h
      · rename_i o hfind
        exact ⟨o, List.mem_of_find?_eq_some hfind, Except.ok.inj h⟩
      · cases h
    · split at h
      · split at h
        · rename_i o hfind
          exact ⟨o, List.mem_of_find?_eq_some hfind, Except.ok.inj h⟩
        · cases h
      · split at h
        · cases h
        · rename_i o heq
          have hmem : o ∈ (db.orders.rows.filter fun o => o.extOrderNo.text = strip ref).insertionSort
              fun a b => a.id ≤ b.id := by
            rw [heq]
            exact List.mem_singleton_self o
          rw [List.mem_insertionSort] at hmem
          exact ⟨o, (List.mem_filter.mp hmem).1, Except.ok.inj h⟩
        · cases h

example : parseOrderKey "ord:PDD:S1:E:1" = some ⟨"PDD", "S1", "E:1"⟩ := by decide

example : parseOrderKey "PDD:S1: E1" = some ⟨"PDD", "S1", "E1"⟩ := by decide

end Wms
