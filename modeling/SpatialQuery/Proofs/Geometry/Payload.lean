import SpatialQuery.Proofs.Geometry.Written
import SpatialQuery.Proofs.Literal.Payload

namespace SpatialQuery

open SpatialQuery.Literal (Regular payloadMembers)

namespace Geometry.Nested

theorem ofJson_payload_eq_ok_iff {literal : Literal} (h : literal.Regular) {nested : Nested} :
    ofJson literal.payload = .ok nested ↔ ofLiteral literal = .ok nested := by
  induction h generalizing nested with
  | int n => exact Iff.rfl
  | float x => exact Iff.rfl
  | null | string | boolean | enum | object => exact ⟨nofun, nofun⟩
  | @list items h ih =>
    have items_iff : ∀ nested, (items.map Literal.payload).mapM ofJson = .ok nested ↔
        items.mapM ofLiteral = .ok nested := by
      intro nested
      rw [List.mapM_map]
      exact Outcome.mapM_eq_ok_congr fun item hm _ => ih item hm
    rw [Literal.payload_list, ofJson, ofJsons_eq_mapM, ofLiteral, ofLiterals_eq_mapM]
    simp only [Outcome.map_eq_ok_iff, items_iff]

end Geometry.Nested

namespace GeometryInput

open SpatialQuery.Geometry (Kind Nested typeField coordinatesField sridField)

variable {fields : List (String × Literal)}

theorem typeOfMembers_payload_eq_ok_iff (h : Regular (.object fields)) {name : Option String} :
    typeOfMembers (payloadMembers [] fields) = .ok name ↔
      typeOfLiteral (.object fields) = .ok name := by
  rcases h.field_cases typeField with ⟨hl, hm⟩ | ⟨value, regular, hl, hm⟩
  · simp only [typeOfMembers, typeOfLiteral, Literal.field?, hl, hm]
  · simp only [typeOfMembers, typeOfLiteral, Literal.field?, hl, hm]
    cases regular with
    | null | string | enum => exact Iff.rfl
    | int | float | boolean | list | object => exact ⟨nofun, nofun⟩

theorem nestedOfMembers_payload_eq_ok_iff (h : Regular (.object fields)) {nested : Option Nested} :
    nestedOfMembers (payloadMembers [] fields) = .ok nested ↔
      nestedOfLiteral (.object fields) = .ok nested := by
  rcases h.field_cases coordinatesField with ⟨hl, hm⟩ | ⟨value, regular, hl, hm⟩
  · simp only [nestedOfMembers, nestedOfLiteral, Literal.field?, hl, hm]
  · have read : ((Nested.ofJson value.payload).mapError Flaw.nested >>= fun n => pure (some n)) =
        .ok nested ↔
          ((Nested.ofLiteral value).mapError Flaw.nested >>= fun n => pure (some n)) = .ok nested := by
      simp only [Outcome.bind_eq_ok_iff, Outcome.mapError_eq_ok_iff,
        Nested.ofJson_payload_eq_ok_iff regular]
    simp only [nestedOfMembers, nestedOfLiteral, Literal.field?, hl, hm]
    cases regular with
    | null => exact Iff.rfl
    | int | float | string | boolean | enum | list | object => exact read

theorem sridOfMembers_payload (h : Regular (.object fields)) :
    sridOfMembers (payloadMembers [] fields) = sridOfLiteral (.object fields) := by
  rcases h.field_cases sridField with ⟨hl, hm⟩ | ⟨value, regular, hl, hm⟩
  · simp only [sridOfMembers, sridOfLiteral, Literal.field?, hl, hm]
  · simp only [sridOfMembers, sridOfLiteral, Literal.field?, hl, hm]
    cases regular with
    | int n => simp only [Literal.payload, Json.Number.int64?_ofInt64]
    | null | float | string | boolean | enum | list | object => rfl

/-- A kind reads the same geometry from the fields of a literal and from the members that they become. -/
theorem geometryOfMembers_payload_eq_ok_iff (h : Regular (.object fields)) {kind : Kind}
    {g : Geometry} :
    geometryOfMembers kind (payloadMembers [] fields) = .ok g ↔
      geometryOfLiteral kind (.object fields) = .ok g := by
  rw [geometryOfMembers_eq_assemble, geometryOfLiteral_eq_assemble, assemble_eq_ok_iff,
    assemble_eq_ok_iff, typeOfMembers_payload_eq_ok_iff h, sridOfMembers_payload h]
  simp only [nestedOfMembers_payload_eq_ok_iff h]

end GeometryInput
end SpatialQuery
