/-!
# Values

The domain shared by grammar literals, matcher input and match results. A text
can be present as one string or as a stream of characters, and objects keep
their fields in order.
-/

namespace Heirloom

/-- A value: a scalar, a text, a list of values or an object with named fields. -/
inductive Value
  | undefined
  | null
  | bool (value : Bool)
  | int (value : Int64)
  | char (value : Char)
  | str (value : String)
  | list (items : List Value)
  | object (fields : List (String × Value))
  deriving Inhabited

namespace Value

/-- The least natural number beyond the integers. -/
def intLimit : Nat := 0x8000000000000000

/-- The integer value of a number within the range of integers. -/
def ofInt? (number : Int) : Option Int64 :=
  if -(intLimit : Int) ≤ number ∧ number < intLimit then some (Int64.ofInt number) else none

mutual

/-- Structural equality as a computation. -/
def beq : Value → Value → Bool
  | undefined, undefined => true
  | null, null => true
  | bool left, bool right => left == right
  | int left, int right => left == right
  | char left, char right => left == right
  | str left, str right => left == right
  | list left, list right => beqItems left right
  | object left, object right => beqFields left right
  | _, _ => false

/-- Structural equality of lists of values. -/
def beqItems : List Value → List Value → Bool
  | [], [] => true
  | left :: lefts, right :: rights => beq left right && beqItems lefts rights
  | _, _ => false

/-- Structural equality of object fields, in order. -/
def beqFields : List (String × Value) → List (String × Value) → Bool
  | [], [] => true
  | (leftKey, left) :: lefts, (rightKey, right) :: rights =>
      leftKey == rightKey && (beq left right && beqFields lefts rights)
  | _, _ => false

end

mutual

theorem beq_iff_eq : ∀ left right : Value, beq left right = true ↔ left = right
  | undefined, right => by cases right <;> simp [beq]
  | null, right => by cases right <;> simp [beq]
  | bool _, right => by cases right <;> simp [beq]
  | int _, right => by cases right <;> simp [beq]
  | char _, right => by cases right <;> simp [beq]
  | str _, right => by cases right <;> simp [beq]
  | list items, right => by
      cases right <;> simp [beq, beqItems_iff_eq items]
  | object fields, right => by
      cases right <;> simp [beq, beqFields_iff_eq fields]

theorem beqItems_iff_eq : ∀ left right : List Value,
    beqItems left right = true ↔ left = right
  | [], right => by cases right <;> simp [beqItems]
  | item :: items, right => by
      cases right <;> simp [beqItems, beq_iff_eq item, beqItems_iff_eq items]

theorem beqFields_iff_eq : ∀ left right : List (String × Value),
    beqFields left right = true ↔ left = right
  | [], right => by cases right <;> simp [beqFields]
  | (key, field) :: fields, right => by
      cases right with
      | nil => simp [beqFields]
      | cons head tail =>
          simp [beqFields, beq_iff_eq field, beqFields_iff_eq fields,
            Prod.ext_iff, and_assoc]

end

instance : DecidableEq Value := fun left right =>
  decidable_of_iff (beq left right = true) (beq_iff_eq left right)

/-- The characters of a text as a stream of values. -/
def chars (text : String) : List Value :=
  text.toList.map char

/-- Whether a value is the undefined value. -/
def isUndefined : Value → Bool
  | undefined => true
  | _ => false

/-- The text of a string value. -/
def asText? : Value → Option String
  | str text => some text
  | _ => none

/-- The number of an integer value. -/
def asInt? : Value → Option Int64
  | int number => some number
  | _ => none

/-- The items of a list value. -/
def asList? : Value → Option (List Value)
  | list items => some items
  | _ => none

/-- The first field of an object under a key. -/
def get? (key : String) : Value → Option Value
  | object fields => (fields.find? fun field => field.1 == key).map Prod.snd
  | _ => none

mutual

/-- The text of a character, a string or a list of such values, in order. -/
def toText? : Value → Option String
  | char c => some c.toString
  | str text => some text
  | list items => itemsToText? items
  | _ => none

/-- The joined texts of a list of values, if each has one. -/
def itemsToText? : List Value → Option String
  | [] => some ""
  | item :: items =>
      match toText? item, itemsToText? items with
      | some text, some rest => some (text ++ rest)
      | _, _ => none

end

end Value
end Heirloom
