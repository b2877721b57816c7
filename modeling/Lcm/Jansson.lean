import Lcm.Crc

/-!
# JSON values

The values that `json_loads` makes of the text of a request, with the part of the Jansson library
that the handlers read them with.  An integer is a `json_int_t` of 64 bits; a handler that keeps it
in a narrower variable truncates it.

## Main definitions

* `JsonT` : a value.
* `JsonT.get`, `JsonT.set` : the members of an object.
* `JsonT.integerValue`, `JsonT.stringBytes` : an integer, or 0; the characters of a string.
-/

namespace Lcm

/-- `json_t` -/
inductive JsonT
  | null
  | true
  | false
  | integer (value : BitVec 64)
  | real (text : String)
  | string (value : String)
  | array (elements : List JsonT)
  | object (members : List (String × JsonT))

namespace JsonT

/-- `json_is_object` -/
def isObject : JsonT → Bool
  | object _ => .true
  | _ => .false

/-- `json_is_array` -/
def isArray : JsonT → Bool
  | array _ => .true
  | _ => .false

/-- `json_is_string` -/
def isString : JsonT → Bool
  | string _ => .true
  | _ => .false

/-- `json_is_integer` -/
def isInteger : JsonT → Bool
  | integer _ => .true
  | _ => .false

/-- `json_is_true` -/
def isTrue : JsonT → Bool
  | true => .true
  | _ => .false

/-- `json_is_boolean` -/
def isBoolean : JsonT → Bool
  | true => .true
  | false => .true
  | _ => .false

/-- `json_integer_value` -/
def integerValue : JsonT → BitVec 64
  | integer value => value
  | _ => 0

/-- The members of an object, in the order of `json_object_foreach`. -/
def members : JsonT → List (String × JsonT)
  | object members => members
  | _ => []

/-- The elements of an array. -/
def elements : JsonT → List JsonT
  | array elements => elements
  | _ => []

/-- The characters of a string. -/
def bytesOfString (value : String) : List Byte := value.toUTF8.toList.map UInt8.toBitVec

/-- `json_string_value` -/
def stringBytes : JsonT → List Byte
  | string value => bytesOfString value
  | _ => []

/-- `json_string_value`, as the characters before the terminator. -/
def chars (json : JsonT) : List Byte := json.stringBytes.takeWhile (· ≠ 0)

/-- `json_object_get` -/
def get (json : JsonT) (key : String) : Option JsonT := json.members.lookup key

/-- The member `key` is replaced, or added as the last one. -/
def setMember (key : String) (value : JsonT) : List (String × JsonT) → List (String × JsonT)
  | [] => [(key, value)]
  | (k, v) :: members =>
    if k = key then (k, value) :: members else (k, v) :: setMember key value members

/-- `json_object_set_new`, of an object. -/
def set (json : JsonT) (key : String) (value : JsonT) : JsonT :=
  match json with
  | object members => object (setMember key value members)
  | json => json

theorem lookup_setMember_self (key : String) (value : JsonT) (members : List (String × JsonT)) :
    (setMember key value members).lookup key = some value := by
  induction members with
  | nil => exact List.lookup_cons_self
  | cons a members ih =>
    obtain ⟨k, v⟩ := a
    rw [setMember]
    split
    · rename_i hk
      rw [hk]
      exact List.lookup_cons_self
    · rename_i hk
      rw [List.lookup_cons, beq_eq_false_iff_ne.2 (Ne.symm hk)]
      exact ih

theorem lookup_setMember_ne {key key' : String} (hne : key' ≠ key) (value : JsonT)
    (members : List (String × JsonT)) :
    (setMember key value members).lookup key' = members.lookup key' := by
  induction members with
  | nil =>
    rw [setMember, List.lookup_cons, beq_eq_false_iff_ne.2 hne]
  | cons a members ih =>
    obtain ⟨k, v⟩ := a
    rw [setMember, List.lookup_cons]
    split
    · rename_i hk
      rw [List.lookup_cons, hk, beq_eq_false_iff_ne.2 hne]
    · rw [List.lookup_cons, ih]

/-- A member that is set is got again. -/
theorem get_set_self {json : JsonT} (h : json.isObject = .true) (key : String) (value : JsonT) :
    (json.set key value).get key = some value := by
  cases json with
  | object members => exact lookup_setMember_self key value members
  | _ => cases h

/-- The other members stay as they are. -/
theorem get_set_ne (json : JsonT) {key key' : String} (hne : key' ≠ key) (value : JsonT) :
    (json.set key value).get key' = json.get key' := by
  cases json with
  | object members => exact lookup_setMember_ne hne value members
  | _ => rfl

theorem isObject_of_get {json value : JsonT} {key : String} (h : json.get key = some value) :
    json.isObject = .true := by
  cases json with
  | object members => rfl
  | _ => cases h

end JsonT

end Lcm
