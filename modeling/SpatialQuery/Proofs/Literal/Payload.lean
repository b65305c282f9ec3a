import SpatialQuery.Json.Basic
import SpatialQuery.Literal.Basic

namespace SpatialQuery

namespace Json

theorem put_of_notMem {name : String} {value : Json} {members : List (String × Json)}
    (h : name ∉ members.map Prod.fst) : put name value members = members ++ [(name, value)] := by
  induction members with
  | nil => rfl
  | cons member rest ih =>
    obtain ⟨other, old⟩ := member
    rw [List.map_cons, List.mem_cons, not_or] at h
    rw [put, if_neg (Ne.symm h.1), ih h.2]
    rfl

end Json

namespace Literal

mutual

/-- The data of a literal as JSON. Integers and floats both become numbers, strings and enum values both
become strings. -/
def payload : Literal → Json
  | .null => .null
  | .int n => .number (.ofInt64 n)
  | .float x => .ofBinary64 x
  | .string s => .string s
  | .boolean b => .bool b
  | .enum name => .string name
  | .list items => .array (payloadItems items)
  | .object fields => .object (payloadMembers [] fields)

def payloadItems : List Literal → List Json
  | [] => []
  | item :: rest => payload item :: payloadItems rest

/-- Adds members to those that came before. -/
def payloadMembers (before : List (String × Json)) : List (String × Literal) → List (String × Json)
  | [] => before
  | (name, value) :: rest => payloadMembers (Json.put name (payload value) before) rest

end

/-- Literals with finite floats only, and with distinct field names in each object. -/
inductive Regular : Literal → Prop where
  | null : Regular .null
  | int (n : Int64) : Regular (.int n)
  | float (x : Binary64.Finite) : Regular (.float (.finite x))
  | string (s : String) : Regular (.string s)
  | boolean (b : Bool) : Regular (.boolean b)
  | enum (name : String) : Regular (.enum name)
  | list {items : List Literal} (h : ∀ item ∈ items, Regular item) : Regular (.list items)
  | object {fields : List (String × Literal)} (distinct : (fields.map Prod.fst).Nodup)
    (h : ∀ field ∈ fields, Regular field.2) : Regular (.object fields)

theorem payload_list (items : List Literal) : payload (.list items) = .array (items.map payload) := by
  have same : payloadItems items = items.map payload := by
    induction items with
    | nil => rfl
    | cons item rest ih => rw [payloadItems, ih, List.map_cons]
  rw [payload, same]

theorem payloadMembers_eq_append {before : List (String × Json)} {fields : List (String × Literal)}
    (h : (before.map Prod.fst ++ fields.map Prod.fst).Nodup) :
    payloadMembers before fields = before ++ fields.map fun field => (field.1, field.2.payload) := by
  induction fields generalizing before with
  | nil => exact (List.append_nil before).symm
  | cons field rest ih =>
    obtain ⟨name, value⟩ := field
    have fresh : name ∉ before.map Prod.fst := by
      intro hm
      exact (List.nodup_append.mp h).2.2 name hm name (by simp) rfl
    have ordered : ((before ++ [(name, value.payload)]).map Prod.fst ++
        rest.map Prod.fst).Nodup := by
      simpa using h
    rw [payloadMembers, Json.put_of_notMem fresh, ih ordered]
    simp

/-- Fields of distinct names become members in their order. -/
theorem payloadMembers_eq_map {fields : List (String × Literal)} (h : (fields.map Prod.fst).Nodup) :
    payloadMembers [] fields = fields.map fun field => (field.1, field.2.payload) := by
  rw [payloadMembers_eq_append (by simpa using h), List.nil_append]

-- A repeated name keeps its first place but its last value; among fields its first value counts.
example : payload (.object [("a", .int 1), ("b", .null), ("a", .int 2)]) =
    .object [("a", .number (.ofInt64 2)), ("b", .null)] := rfl

theorem lookup_map (f : Literal → Json) (fields : List (String × Literal)) (name : String) :
    (fields.map fun field => (field.1, f field.2)).lookup name = (fields.lookup name).map f := by
  induction fields with
  | nil => rfl
  | cons field rest ih =>
    rw [List.map_cons, List.lookup_cons, List.lookup_cons, ih]
    cases name == field.1 <;> rfl

/-- A field and the member that it becomes are both missing, or both there. -/
theorem Regular.field_cases {fields : List (String × Literal)} (h : Regular (.object fields))
    (name : String) :
    (fields.lookup name = none ∧ (payloadMembers [] fields).lookup name = none) ∨
      ∃ value, value.Regular ∧ fields.lookup name = some value ∧
        (payloadMembers [] fields).lookup name = some value.payload := by
  cases h with
  | object distinct h =>
    have members : (payloadMembers [] fields).lookup name = (fields.lookup name).map payload := by
      rw [payloadMembers_eq_map distinct, lookup_map]
    cases hl : fields.lookup name with
    | none => exact .inl ⟨rfl, by rw [members, hl]; rfl⟩
    | some value =>
      have regular : value.Regular := by
        obtain ⟨before, after, rfl, _⟩ := List.lookup_eq_some_iff.mp hl
        exact h (name, value) (by simp)
      exact .inr ⟨value, regular, rfl, by rw [members, hl]; rfl⟩

theorem eq_object_of_kind {literal : Literal} (h : literal.kind = .object) :
    ∃ fields, literal = .object fields := by
  cases literal with
  | object fields => exact ⟨fields, rfl⟩
  | null | int | float | string | boolean | enum | list => cases h

theorem Regular.isNull_payload {literal : Literal} (h : literal.Regular) :
    literal.payload.isNull = literal.isNull := by
  cases h <;> rfl

end Literal
end SpatialQuery
