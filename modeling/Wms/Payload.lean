import Wms.Errors
import Wms.Floats

/-!
# Payloads

The values of a payload that nobody has checked, and what Python's operations make of them
whatever their types are. Only the memory for repeated texts and lists has no limit here.
-/

namespace Wms

/-- A `datetime`, with the offset of its time zone where it has one. -/
structure PyDateTime where
  wall : ℤ
  utcOffset : Option ℤ
  deriving DecidableEq

/-- A value of a payload. A mapping has its entries in their order, as far as their keys are
texts. -/
inductive PyValue
  | none
  | bool (b : Bool)
  | int (n : ℤ)
  | float (x : PyFloat)
  | str (s : String)
  | list (xs : List PyValue)
  | dict (entries : List (String × PyValue))
  | datetime (t : PyDateTime)

/-- `entries.get(key)`. -/
def lookupValue (entries : List (String × PyValue)) (key : String) : PyValue :=
  (entries.lookup key).getD .none

namespace PyValue

/-- `type(v).__name__`. -/
def typeName : PyValue → String
  | none => "NoneType"
  | bool _ => "bool"
  | int _ => "int"
  | float _ => "float"
  | str _ => "str"
  | list _ => "list"
  | dict _ => "dict"
  | datetime _ => "datetime.datetime"

/-- `bool(v)`. -/
def truthy : PyValue → Bool
  | none => false
  | bool b => b
  | int n => n ≠ 0
  | float x => x ≠ .dec 0
  | str s => s ≠ ""
  | list xs => !xs.isEmpty
  | dict entries => !entries.isEmpty
  | datetime _ => true

/-- `v or w`. -/
def or (v w : PyValue) : PyValue := if v.truthy then v else w

/-- The entries of a value that has `get`. -/
def mapping : PyValue → Except Err (List (String × PyValue))
  | dict entries => .ok entries
  | v => .error (.attributeError ("'" ++ v.typeName ++ "' object has no attribute 'get'"))

/-- What a loop over a value goes through. -/
def elements : PyValue → Except Err (List PyValue)
  | list xs => .ok xs
  | dict entries => .ok (entries.map fun e => str e.1)
  | str s => .ok (s.toList.map fun c => str (String.singleton c))
  | v => .error (.typeError ("'" ++ v.typeName ++ "' object is not iterable"))

/-! ## Numbers -/

/-- The integer that a value is. -/
def integer : PyValue → Option ℤ
  | bool b => some b.toInt
  | int n => some n
  | _ => Option.none

/-- The float that a number is read as. -/
def real : PyValue → Option PyFloat
  | float x => some x
  | v => v.integer.map fun n => .dec n

/-- `int(v)`, where it is not an error. -/
def toInt : PyValue → Option ℤ
  | float x => x.toInt
  | str s => intText s
  | v => v.integer

/-- `float(v)`, where it is not an error. -/
def toFloat : PyValue → Option PyFloat
  | str s => floatText s
  | v => v.real

/-! ## Products -/

/-- `sys.maxsize`. -/
def maxSize : ℤ := 2 ^ 63 - 1

/-- A sequence times a value. -/
def repeated (sequence : ℤ → Except Err PyValue) (v : PyValue) : Except Err PyValue :=
  match v.integer with
  | some n =>
    if -maxSize - 1 ≤ n ∧ n ≤ maxSize then sequence n
    else .error (.overflowError "cannot fit 'int' into an index-sized integer")
  | Option.none =>
    .error (.typeError ("can't multiply sequence by non-int of type '" ++ v.typeName ++ "'"))

/-- `s * n`. -/
def repeatStr (s : String) (n : ℤ) : Except Err PyValue :=
  if 1 < n ∧ maxSize < s.length * n then .error (.overflowError "repeated string is too long")
  else .ok (str (repeatText n.toNat s))

/-- `xs * n`. -/
def repeatList (xs : List PyValue) (n : ℤ) : Except Err PyValue :=
  .ok (list (List.replicate n.toNat xs).flatten)

/-- `v * w`. -/
def mul (v w : PyValue) : Except Err PyValue :=
  match v.integer, w.integer with
  | some m, some n => .ok (int (m * n))
  | _, _ =>
    match v.real, w.real with
    | some x, some y => .ok (float (x.mul y))
    | _, _ =>
      match v, w with
      | str s, w => repeated (repeatStr s) w
      | list xs, w => repeated (repeatList xs) w
      | v, str s => repeated (repeatStr s) v
      | v, list xs => repeated (repeatList xs) v
      | v, w =>
        .error (.typeError ("unsupported operand type(s) for *: '" ++ v.typeName ++ "' and '" ++
          w.typeName ++ "'"))

/-! ## Texts -/

/-- `str(v)`, where `repr` writes the values that are neither texts nor integers. -/
def pyStr (repr : PyValue → Except Err String) : PyValue → Except Err String
  | str s => .ok s
  | int n =>
    if n.natAbs < 10 ^ maxStrDigits then .ok (toString n)
    else .error (.valueError ("Exceeds the limit (4300 digits) for integer string conversion; " ++
      "use sys.set_int_max_str_digits() to increase the limit"))
  | v => repr v

end PyValue

end Wms
