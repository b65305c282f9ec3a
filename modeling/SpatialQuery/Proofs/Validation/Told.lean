import Mathlib.Data.List.Forall2
import SpatialQuery.Validation.Error

namespace SpatialQuery

/-- The JSON that tells of a location: an object with its two numbers. -/
inductive Location.Tells : Json → Location → Prop where
  | object {members : List (String × Json)} {line column : UInt32}
    (names : members.map Prod.fst = ["line", "column"])
    (line_is : members.lookup "line" = some (.number (.ofUInt32 line)))
    (column_is : members.lookup "column" = some (.number (.ofUInt32 column))) :
    Tells (.object members) ⟨line, column⟩

namespace ValidationError

/-- What a member lists: nothing if it is not there, and never nothing if it is. -/
inductive Lists : Option Json → List Json → Prop where
  | absent : Lists none []
  | items {items : List Json} (some_item : items ≠ []) : Lists (some (.array items)) items

/-- What a member states under names: nothing if it is not there, and never nothing if it is. -/
inductive States : Option Json → List (String × Json) → Prop where
  | absent : States none []
  | facts {facts : List (String × Json)} (some_fact : facts ≠ []) : States (some (.object facts)) facts

/-- The JSON that tells of an error: an object with its message, its locations and what it states. -/
inductive Tells : Json → ValidationError → Prop where
  | object {members : List (String × Json)} {message : String} {places : List Json}
    {locations : List Location} {extensions : List (String × Json)}
    (names : (members.map Prod.fst).Sublist ["message", "locations", "extensions"])
    (message_is : members.lookup "message" = some (.string message))
    (listed : Lists (members.lookup "locations") places)
    (located : List.Forall₂ Location.Tells places locations)
    (stated : States (members.lookup "extensions") extensions) :
    Tells (.object members) ⟨message, locations, extensions⟩

end ValidationError

theorem Json.Number.ofUInt32_injective : Function.Injective Json.Number.ofUInt32 := by
  intro m n same
  have read := congrArg (fun number => Json.Tree.uint32? (.number number)) same
  simpa only [Json.Tree.uint32?_ofUInt32, Option.some.injEq] using read

theorem Location.tells_rightUnique : Relator.RightUnique Location.Tells := by
  intro _ _ _ h h'
  cases h with
  | object _ line column =>
    cases h' with
    | object _ line' column' =>
      have lines := Json.Number.ofUInt32_injective (by simpa using line.symm.trans line')
      have columns := Json.Number.ofUInt32_injective (by simpa using column.symm.trans column')
      rw [lines, columns]

theorem Location.tells_toJson (location : Location) : Tells location.toJson location :=
  .object rfl rfl rfl

namespace ValidationError

theorem Lists.unique {member : Option Json} {items items' : List Json} (h : Lists member items)
    (h' : Lists member items') : items = items' := by
  cases h <;> cases h' <;> rfl

theorem States.unique {member : Option Json} {facts facts' : List (String × Json)}
    (h : States member facts) (h' : States member facts') : facts = facts' := by
  cases h <;> cases h' <;> rfl

theorem tells_rightUnique : Relator.RightUnique Tells := by
  intro _ _ _ h h'
  cases h with
  | object _ message listed located stated =>
    cases h' with
    | object _ message' listed' located' stated' =>
      obtain rfl := listed.unique listed'
      obtain rfl := stated.unique stated'
      obtain rfl := Location.tells_rightUnique.forall₂ located located'
      cases message.symm.trans message'
      rfl

theorem tells_toJson (error : ValidationError) : Tells error.toJson error := by
  obtain ⟨message, locations, extensions⟩ := error
  have located : List.Forall₂ Location.Tells (locations.map Location.toJson) locations := by
    rw [List.forall₂_map_left_iff]
    exact List.forall₂_same.mpr fun location _ => location.tells_toJson
  -- Each of the two lists may be empty, and then has no member.
  cases locations <;> cases extensions
  · exact .object (show List.Sublist ["message"] _ by decide) rfl .absent located .absent
  · exact .object (show List.Sublist ["message", "extensions"] _ by decide) rfl .absent located
      (.facts nofun)
  · exact .object (show List.Sublist ["message", "locations"] _ by decide) rfl (.items nofun) located
      .absent
  · exact .object (.refl _) rfl (.items nofun) located (.facts nofun)

/-- What is written for errors tells of these errors in their order, and of no others. -/
theorem tells_map_toJson_iff {errors errors' : List ValidationError} :
    List.Forall₂ Tells (errors.map toJson) errors' ↔ errors' = errors := by
  have told : List.Forall₂ Tells (errors.map toJson) errors := by
    rw [List.forall₂_map_left_iff]
    exact List.forall₂_same.mpr fun error _ => error.tells_toJson
  constructor
  · intro h
    exact tells_rightUnique.forall₂ h told
  · rintro rfl
    exact told

end ValidationError
end SpatialQuery
