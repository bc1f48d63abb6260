import RowGraph.Value

/-!
Fitting a value to a class settles it: what a class reads is a value of its own
kind, for which it has no other reading. A value can therefore be fitted as it
is read from a table and again as it is compared, and stays the same.
-/

namespace RowGraph.Value

inductive IsOf : ColumnType → Value → Prop where
  | integer (i : Int64) : IsOf .integer (.int i)
  | real (x : Binary64) : IsOf .real (.float x)
  | text (s : String) : IsOf .text (.text s)
  | boolean (b : Bool) : IsOf .boolean (.bool b)
  | timestamp (t : Instant) : IsOf .timestamp (.timestamp t)
  | whole (i : Int64) : IsOf .numeric (.int i)
  | number (x : Binary64) : IsOf .numeric (.float x)

theorem isOf_toInteger {v w : Value} (h : v.toInteger = some w) : IsOf .integer w := by
  cases v with
  | float x =>
      obtain ⟨i, _, rfl⟩ : ∃ i, x.toInt64? = some i ∧ .int i = w := by simpa [toInteger] using h
      exact IsOf.integer i
  | bool b =>
      obtain rfl : .int (if b then 1 else 0) = w := by simpa [toInteger] using h
      exact IsOf.integer _
  | text s =>
      obtain ⟨i, _, rfl⟩ : ∃ i, readInt64? (Text.trimChars s.toList) = some i ∧ .int i = w := by
        simpa [toInteger] using h
      exact IsOf.integer i
  | _ => cases h

theorem isOf_toReal {v w : Value} (h : v.toReal = some w) : IsOf .real w := by
  cases v with
  | int i =>
      obtain rfl : .float (.ofInt i.toInt) = w := by simpa [toReal] using h
      exact IsOf.real _
  | text s =>
      obtain ⟨x, _, rfl⟩ : ∃ x, Binary64.read? (Text.trimChars s.toList) = some x ∧
          .float x = w := by
        simpa [toReal] using h
      exact IsOf.real x
  | _ => cases h

theorem isOf_toText {v w : Value} (h : v.toText = some w) : IsOf .text w := by
  cases v with
  | int i =>
      obtain rfl : .text (intText i) = w := by simpa [toText] using h
      exact IsOf.text _
  | float x =>
      obtain rfl : .text x.plainText = w := by simpa [toText] using h
      exact IsOf.text _
  | bool b =>
      obtain rfl : .text (boolText b) = w := by simpa [toText] using h
      exact IsOf.text _
  | _ => cases h

theorem isOf_toBool {v w : Value} (h : v.toBool = some w) : IsOf .boolean w := by
  cases v with
  | int i =>
      dsimp only [toBool] at h
      split at h
      · obtain rfl := Option.some.inj h
        exact IsOf.boolean false
      · split at h
        · obtain rfl := Option.some.inj h
          exact IsOf.boolean true
        · cases h
  | text s =>
      obtain ⟨b, _, rfl⟩ : ∃ b, readBool? s = some b ∧ .bool b = w := by simpa [toBool] using h
      exact IsOf.boolean b
  | _ => cases h

theorem isOf_toTimestamp {v w : Value} (h : v.toTimestamp = some w) : IsOf .timestamp w := by
  cases v with
  | text s =>
      obtain ⟨t, _, rfl⟩ : ∃ t, Instant.read? s = some t ∧ .timestamp t = w := by
        simpa [toTimestamp] using h
      exact IsOf.timestamp t
  | _ => cases h

theorem isOf_toNumber {v w : Value} (h : v.toNumber = some w) : IsOf .numeric w := by
  cases v with
  | text s =>
      dsimp only [toNumber] at h
      split at h
      · obtain rfl := Option.some.inj h
        exact IsOf.whole _
      · obtain ⟨x, _, rfl⟩ : ∃ x, Binary64.read? (Text.trimChars s.toList) = some x ∧
            .float x = w := by
          simpa using h
        exact IsOf.number x
  | _ => cases h

/-- What a class reads is a value of its kind. -/
theorem isOf_of_read? {type : ColumnType} {v w : Value} (h : v.read? type = some w) :
    IsOf type w := by
  cases type with
  | integer => exact isOf_toInteger h
  | real => exact isOf_toReal h
  | text => exact isOf_toText h
  | boolean => exact isOf_toBool h
  | timestamp => exact isOf_toTimestamp h
  | numeric => exact isOf_toNumber h
  | blob => cases h

/-- A class has no other reading for a value of its kind. -/
theorem read?_of_isOf {type : ColumnType} {v : Value} (h : IsOf type v) :
    v.read? type = none := by
  cases h <;> rfl

theorem coerce_of_read? {type : ColumnType} {v w : Value} (h : v.read? type = some w) :
    v.coerce type = w := by
  rw [coerce, h, Option.getD_some]

theorem coerce_of_unread {type : ColumnType} {v : Value} (h : v.read? type = none) :
    v.coerce type = v := by
  rw [coerce, h, Option.getD_none]

/-- Fitting a value a second time changes nothing. -/
theorem coerce_coerce (type : ColumnType) (v : Value) :
    (v.coerce type).coerce type = v.coerce type := by
  cases hread : v.read? type with
  | none => rw [coerce_of_unread hread, coerce_of_unread hread]
  | some w =>
      rw [coerce_of_read? hread]
      exact coerce_of_unread (read?_of_isOf (isOf_of_read? hread))

end RowGraph.Value
