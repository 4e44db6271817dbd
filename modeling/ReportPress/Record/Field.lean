import ReportPress.Json.Reader
import ReportPress.Record.Check

/-!
Fields of records. A record is an object whose declared fields are given under their JSON names or
under their plain names; the JSON name wins where both are given. All members that give no declared
field are kept beside the fields, in order.
-/

namespace ReportPress

-- powers are those of natural numbers, also where powers in monoids are known
attribute [local instance (2000)] instPowNat

/-- A declared field: its plain name and its name in JSON. -/
structure Field where
  name : String
  jsonName : String
  deriving DecidableEq

namespace Field

/-- The member that gives a field: its key and its value. -/
def given? (field : Field) (members : Members) : Option (String × Json) :=
  match members.get? field.jsonName with
  | some value => some (field.jsonName, value)
  | none => (members.get? field.name).map (field.name, ·)

/-- The value given for a field. -/
def value? (field : Field) (members : Members) : Option Json := (field.given? members).map (·.2)

/-- The check of a field that may be absent. -/
def optional {α : Type} (field : Field) (check : Json → Check α) (members : Members) :
    Check (Option α) :=
  match field.given? members with
  | none => .ok none
  | some (key, value) => ((check value).under (.key key)).map some

/-- The check of a field that must be given. -/
def required {α : Type} (field : Field) (check : Json → Check α) (members : Members) : Check α :=
  match field.given? members with
  | none => .error [⟨[.key field.jsonName], .missing, .obj members⟩]
  | some (key, value) => (check value).under (.key key)

/-- The field as a member under its JSON name, if it has a value. -/
def member (field : Field) (value : Option Json) : Members :=
  (value.map (field.jsonName, ·)).toList

end Field

namespace Record

/-- The members that give none of the declared fields. -/
def others (fields : List Field) (members : Members) : Members :=
  members.filter fun member =>
    fields.all fun field => (field.given? members).all (·.1 != member.1)

/-- The members of a record: the fields that have a value, in order, and then the others. -/
def write (slots : List (Field × Option Json)) (others : Members) : Members :=
  slots.flatMap (fun slot => slot.1.member slot.2) ++ others

/-- How many values may stand in each other, the innermost counted, where no type says what stands
there. -/
def freeDepth : Nat := 255

/-- A value as it is written, if none of those in it that are bound to no type nests too deep. -/
def dump? (free : List Json) (value : Json) : Option Json :=
  if free.all fun part => decide (part.nesting < freeDepth) then some value else none

/-- The check of an object of the model by its members. -/
def object {α : Type} (model : String) (check : Members → Check α) : Json → Check α
  | .obj members => check members
  | value => .fault (.notObject model) value

/-- Any value at all. -/
def any (value : Json) : Check Json := .ok value

/-- A text. -/
def text : Json → Check String
  | .str s => .ok s
  | value => .fault .notText value

/-- A list of items that pass the check. -/
def list {α : Type} (check : Json → Check α) : Json → Check (List α)
  | .arr items => Check.each check 0 items
  | value => .fault .notList value

/-- Null, or a value that passes the check. -/
def nullable {α : Type} (check : Json → Check α) : Json → Check (Option α)
  | .null => .ok none
  | value => (check value).map some

/-- The bound on the size of whole numbers that are given with a fraction of zero. -/
def wholeLimit : Nat := 2 ^ (63 : Nat)

/-- A whole number: given as one, as a number without a fraction, as text, or as a truth value. -/
def whole : Json → Check Int
  | .int n => .ok n
  | .bool b => .ok (if b then 1 else 0)
  | .float x =>
    if !x.isFinite then .fault .notFinite (.float x)
    else
      match x.toInt? with
      | none => .fault .fractional (.float x)
      | some n => if n.natAbs < wholeLimit then .ok n else .fault .wholeTooLong (.float x)
  | .str s =>
    match Text.wholeNumeral s with
    | .value n => .ok n
    | .tooLong => .fault .wholeTooLong (.str s)
    | .unreadable => .fault .unreadableWhole (.str s)
  | value => .fault .notWhole value

/-- A whole number that is not negative. -/
def natural (value : Json) : Check Nat :=
  match whole value with
  | .ok n => if n < 0 then .fault .belowZero value else .ok n.toNat
  | .error faults => .error faults

/-- A number: given as one, as text, or as a truth value. A whole number beyond all numbers with a
fraction is refused in data, and infinite in JSON text. -/
def number (source : Source) : Json → Check Binary64
  | .int n =>
    match Binary64.ofInt? n, source with
    | some x, _ => .ok x
    | none, .data => .fault .notNumber (.int n)
    | none, .text => .ok (.infinite (n < 0))
  | .bool b => .ok ((Binary64.ofInt? (if b then 1 else 0)).getD .zero)
  | .float x => .ok x
  | .str s =>
    match Text.number? s with
    | some x => .ok x
    | none => .fault .unreadableNumber (.str s)
  | value => .fault .notNumber value

/-- A number that is not negative. -/
def price (source : Source) (value : Json) : Check Binary64 :=
  match number source value with
  | .ok x => if x.isNonneg then .ok x else .fault .belowZero value
  | .error faults => .error faults

/-- A record given as data. -/
def ofData {α : Type} (model : String) (check : Json → Check α) (value : Json) :
    Except Rejection α :=
  (check value).mapError (⟨model, .data, ·⟩)

/-- A record given as JSON text. -/
def ofText {α : Type} (model : String) (check : Json → Check α) (text : String) :
    Except Rejection α :=
  match Json.read .records text with
  | .ok value => (check value).mapError (⟨model, .text, ·⟩)
  | .error _ => .error ⟨model, .text, [⟨[], .malformed, .str text⟩]⟩

end Record

end ReportPress
