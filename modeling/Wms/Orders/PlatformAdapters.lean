import Wms.Payload

/-!
# Platform adapters

A platform sends its orders as payloads of its own. An adapter looks for each part of an order
under several keys and converts what it finds to the parts that the ingest takes.
-/

namespace Wms.Orders

/-! ## Conversions -/

/-- `to_int_pos`. -/
def toIntPos (x : PyValue) (default : ℤ) : ℤ :=
  match x.toInt with
  | some v => if 0 < v then v else default
  | none => default

/-- `to_float`. -/
def toFloat (x : PyValue) : PyFloat := x.toFloat.getD (.dec 0)

/-- `parse_dt`. -/
def parseDt (now : PyDateTime) : PyValue → PyDateTime
  | .datetime t => if t.utcOffset = none then { t with utcOffset := some 0 } else t
  | _ => now

/-! ## Adapters -/

/-- The adapters of the platforms. -/
inductive Adapter
  | pdd
  | tb
  | tmall
  | jd
  | red
  | douyin
  | amazon
  | temu
  | shopify
  | aliExp
  deriving DecidableEq

/-- `platform_name`. -/
def Adapter.platformName : Adapter → String
  | pdd => "PDD"
  | tb => "TAOBAO"
  | tmall => "TMALL"
  | jd => "JD"
  | red => "RED"
  | douyin => "DOUYIN"
  | amazon => "AMAZON"
  | temu => "TEMU"
  | shopify => "STOREIFY"
  | aliExp => "ALIEXPRESS"

/-- `_ADAPTERS`. -/
def adapters : List (String × Adapter) :=
  [("PDD", .pdd), ("TAOBAO", .tb), ("TMALL", .tmall), ("JD", .jd), ("RED", .red),
    ("DOUYIN", .douyin), ("AMAZON", .amazon), ("TEMU", .temu), ("STOREIFY", .shopify),
    ("ALIEXPRESS", .aliExp)]

/-- `get_adapter`. -/
def getAdapter (platform : String) : Except Err Adapter :=
  match adapters.lookup (upper platform) with
  | some adapter => .ok adapter
  | none => .error (.valueError ("unsupported platform: " ++ pyText platform))

/-! ## Orders -/

/-- A line of an order. -/
structure NormalizedLine where
  skuId : String
  itemId : PyValue
  title : PyValue
  qty : ℤ
  price : PyFloat
  discount : PyFloat
  amount : PyFloat
  extras : List (String × PyValue)

/-- The address of an order. -/
structure NormalizedAddress where
  receiverName : PyValue
  receiverPhone : PyValue
  province : PyValue
  city : PyValue
  district : PyValue
  detail : PyValue
  zipcode : PyValue

/-- What else an order says. -/
structure NormalizedExtras where
  remark : PyValue
  flags : PyValue
  rawId : PyValue
  channel : PyValue

/-- An order as the ingest takes it. -/
structure NormalizedOrder where
  platform : String
  storeCode : String
  extOrderNo : String
  occurredAt : PyDateTime
  buyerName : PyValue
  buyerPhone : PyValue
  orderAmount : PyFloat
  payAmount : PyFloat
  lines : List NormalizedLine
  address : NormalizedAddress
  extras : NormalizedExtras

section Normalize

variable (repr : PyValue → Except Err String)

/-- The stock keeping unit that a row names. -/
def skuOf (row : List (String × PyValue)) : PyValue :=
  (((lookupValue row "sku_id").or (lookupValue row "spec_id")).or
    (lookupValue row "outer_sku_id")).or (.str "")

/-- The quantity of a row. -/
def qtyOf (row : List (String × PyValue)) : ℤ :=
  toIntPos ((((lookupValue row "quantity").or (lookupValue row "goods_count")).or
    (lookupValue row "qty")).or (.int 1)) 1

/-- The price of a row. -/
def priceOf (row : List (String × PyValue)) : PyFloat :=
  toFloat (((lookupValue row "goods_price").or (lookupValue row "price")).or (.int 0))

/-- The amount of a row. A row without one has the product of two of its keys. -/
def amountOf (row : List (String × PyValue)) : Except Err PyFloat :=
  if (lookupValue row "amount").truthy then .ok (toFloat (lookupValue row "amount"))
  else do
    let product ← ((lookupValue row "goods_price").or (.int 0)).mul
      ((lookupValue row "quantity").or (.int 1))
    return toFloat product

/-- The keys of a row that go on as they are. -/
def extraKeys : List String := ["goods_id", "outer_sku_id", "sku_properties", "asin", "spu_id"]

/-- The line of a row. -/
def normalizeLine (row : List (String × PyValue)) : Except Err NormalizedLine := do
  let skuId ← (skuOf row).pyStr repr
  let amount ← amountOf row
  return {
    skuId
    itemId := lookupValue row "item_id"
    title := ((lookupValue row "goods_name").or (lookupValue row "title")).or (.str "")
    qty := qtyOf row
    price := priceOf row
    discount := toFloat ((lookupValue row "discount").or (.int 0))
    amount
    extras := (extraKeys.filter fun k => (row.lookup k).isSome).map fun k => (k, lookupValue row k)
  }

/-- The rows of a payload. -/
def sourceItems (payload : List (String × PyValue)) : PyValue :=
  ((lookupValue payload "items").or (lookupValue payload "order_items")).or (.list [])

/-- What a payload says about its store. -/
def storeCodeOf (payload : List (String × PyValue)) : PyValue :=
  ((lookupValue payload "store_code").or (lookupValue payload "mall_id")).or (.str "UNKNOWN")

/-- The number that a platform gave an order. -/
def extOrderNoOf (payload : List (String × PyValue)) : PyValue :=
  (((lookupValue payload "order_sn").or (lookupValue payload "order_no")).or
    (lookupValue payload "id")).or (.str "")

/-- The address that a payload has. -/
def addressOf (payload : List (String × PyValue)) : PyValue :=
  (lookupValue payload "address").or (.dict [])

/-- `BaseOrderAdapter.normalize`. -/
def normalize (now : PyDateTime) (adapter : Adapter) (payload : List (String × PyValue)) :
    Except Err NormalizedOrder := do
  let storeCode ← (storeCodeOf payload).pyStr repr
  let extOrderNo ← (extOrderNoOf payload).pyStr repr
  let buyerName := (lookupValue payload "receiver_name").or (lookupValue payload "buyer_name")
  let buyerPhone := (lookupValue payload "receiver_phone").or (lookupValue payload "buyer_phone")
  let rows ← (sourceItems payload).elements
  let lines ← rows.mapM fun row => do normalizeLine repr (← row.mapping)
  let addr ← (addressOf payload).mapping
  return {
    platform := adapter.platformName
    storeCode
    extOrderNo
    occurredAt := parseDt now
      ((lookupValue payload "created_at").or (lookupValue payload "order_create_time"))
    buyerName
    buyerPhone
    orderAmount := toFloat
      (((lookupValue payload "goods_amount").or (lookupValue payload "order_amount")).or (.int 0))
    payAmount := toFloat
      (((lookupValue payload "pay_amount").or (lookupValue payload "order_amount")).or (.int 0))
    lines
    address := {
      receiverName := buyerName
      receiverPhone := buyerPhone
      province := (lookupValue addr "province").or (lookupValue payload "province")
      city := lookupValue addr "city"
      district := lookupValue addr "district"
      detail := (lookupValue addr "detail").or (lookupValue payload "address_detail")
      zipcode := lookupValue addr "zip"
    }
    extras := {
      remark := (lookupValue payload "seller_memo").or (lookupValue payload "note")
      flags := lookupValue payload "flags"
      rawId := lookupValue payload "id"
      channel := lookupValue payload "channel"
    }
  }

end Normalize

end Wms.Orders
