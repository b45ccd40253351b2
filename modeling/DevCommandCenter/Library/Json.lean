import Mathlib.Data.List.Basic

/-! JSON values, with an object as the list of its fields and a number as its text. -/

namespace Library

inductive Value
  | null
  | bool (b : Bool)
  | number (text : String)
  | string (text : String)
  | array (items : List Value)
  | object (fields : List (String × Value))
  deriving Repr, BEq

namespace Value

mutual

def same : Value → Value → Bool
  | null, null => true
  | bool a, bool b => a = b
  | number a, number b => a = b
  | string a, string b => a = b
  | array a, array b => sameItems a b
  | object a, object b => sameFields a b
  | _, _ => false

def sameItems : List Value → List Value → Bool
  | [], [] => true
  | a :: as, b :: bs => same a b && sameItems as bs
  | _, _ => false

def sameFields : List (String × Value) → List (String × Value) → Bool
  | [], [] => true
  | (name, a) :: as, (name', b) :: bs => decide (name = name') && same a b && sameFields as bs
  | _, _ => false

end

mutual

lemma same_iff : (a b : Value) → (same a b = true ↔ a = b)
  | null, b => by cases b <;> simp [same]
  | bool a, b => by cases b <;> simp [same]
  | number a, b => by cases b <;> simp [same]
  | string a, b => by cases b <;> simp [same]
  | array a, b => by cases b <;> simp [same, sameItems_iff a]
  | object a, b => by cases b <;> simp [same, sameFields_iff a]

lemma sameItems_iff : (as bs : List Value) → (sameItems as bs = true ↔ as = bs)
  | [], bs => by cases bs <;> simp [sameItems]
  | a :: as, bs => by cases bs <;> simp [sameItems, same_iff a, sameItems_iff as]

lemma sameFields_iff : (as bs : List (String × Value)) → (sameFields as bs = true ↔ as = bs)
  | [], bs => by cases bs <;> simp [sameFields]
  | (name, a) :: as, bs => by
      cases bs <;> simp [sameFields, same_iff a, sameFields_iff as, Prod.ext_iff]

end

instance : DecidableEq Value := fun a b => decidable_of_iff _ (same_iff a b)

def asObject : Value → Option (List (String × Value))
  | object fields => some fields
  | _ => none

def asStr : Value → Option String
  | string text => some text
  | _ => none

def lookupField (key : String) : List (String × Value) → Option Value
  | [] => none
  | (name, value) :: fields => if name = key then some value else lookupField key fields

def modifyField (key : String) (f : Value → Value) : List (String × Value) → List (String × Value)
  | [] => []
  | (name, value) :: fields =>
      if name = key then (name, f value) :: fields else (name, value) :: modifyField key f fields

def get (value : Value) (key : String) : Option Value :=
  value.asObject.bind (lookupField key)

def index (value : Value) (key : String) : Value :=
  (value.get key).getD .null

def modify (key : String) (f : Value → Value) : Value → Value
  | object fields => object (modifyField key f fields)
  | value => value

@[simp] lemma asStr_eq_some {value : Value} {text : String} :
    value.asStr = some text ↔ value = string text := by
  cases value <;> simp [asStr]

@[simp] lemma asObject_eq_some {value : Value} {fields : List (String × Value)} :
    value.asObject = some fields ↔ value = object fields := by
  cases value <;> simp [asObject]

lemma lookupField_modifyField (key : String) (f : Value → Value) (fields : List (String × Value)) :
    lookupField key (modifyField key f fields) = (lookupField key fields).map f := by
  induction fields with
  | nil => rfl
  | cons field fields ih =>
      obtain ⟨name, value⟩ := field
      by_cases h : name = key
      · simp [lookupField, modifyField, h]
      · simp [lookupField, modifyField, h, ih]

lemma lookupField_modifyField_ne {key key' : String} (h : key' ≠ key) (f : Value → Value)
    (fields : List (String × Value)) :
    lookupField key' (modifyField key f fields) = lookupField key' fields := by
  induction fields with
  | nil => rfl
  | cons field fields ih =>
      obtain ⟨name, value⟩ := field
      by_cases hname : name = key
      · simp [lookupField, modifyField, hname, h.symm]
      · simp [lookupField, modifyField, hname, ih]

lemma get_modify (key : String) (f : Value → Value) (value : Value) :
    (value.modify key f).get key = (value.get key).map f := by
  cases value with
  | object fields => exact lookupField_modifyField key f fields
  | _ => rfl

lemma get_modify_ne {key key' : String} (h : key' ≠ key) (f : Value → Value) (value : Value) :
    (value.modify key f).get key' = value.get key' := by
  cases value with
  | object fields => exact lookupField_modifyField_ne h f fields
  | _ => rfl

end Value

end Library
