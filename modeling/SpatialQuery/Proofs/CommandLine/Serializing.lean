import SpatialQuery.CommandLine.Command
import SpatialQuery.Proofs.Scalar.Stability
import SpatialQuery.Texts

namespace SpatialQuery.CommandLine

open Json (Format)

/-- The JSON value that serializing an input as a type comes to. -/
def serialized (format : Format) (around : Surroundings) (type : String) (input : Option String) :
    Except Failure Json := do
  let scalar ← scalar type
  let value ← readJson format around input
  let runtime ← (scalar.deserialize (some (.json value))).mapError (.deserialize type)
  json (← (scalar.serialize runtime).mapError (.serialize type))

theorem perform_serialize (format : Format) (around : Surroundings) (type : String)
    (input output : Option String) :
    perform format around (.serialize type input output) =
      serialized format around type input >>= fun result =>
        deliver around output (format.pretty result) := by
  simp only [perform, serialized, bind_assoc]

/-- The JSON form of a runtime value; absence is null. -/
def written (runtime : Option Value) : Json := runtime.elim .null Value.serialized

theorem json_serializedOf (runtime : Option Value) :
    json (Value.serializedOf runtime) = .ok (written runtime) := by
  cases runtime <;> rfl

theorem orFail_eq_ok_iff {α : Type} {failure : Failure} {found : Option α} {a : α} :
    orFail failure found = .ok a ↔ found = some a := by
  cases found <;> simp [orFail]

theorem eq_of_orFail_eq_error {α : Type} {failure error : Failure} {found : Option α}
    (h : orFail failure found = .error error) : error = failure := by
  cases found with
  | none => cases h; rfl
  | some a => cases h

theorem scalar_eq_ok_iff {type : String} {s : Scalar} :
    scalar type = .ok s ↔ Registry.standard.get? type = some s := orFail_eq_ok_iff

variable {format : Format} {around : Surroundings} {type : String} {input : Option String} {value : Json}
  {s : Scalar} {runtime : Option Value}

/-- A known type serializes whatever it has deserialized, so the stages after that cannot fail. -/
theorem serialized_eq_map (hs : scalar type = .ok s) (hv : readJson format around input = .ok value) :
    serialized format around type input =
      ((s.deserialize (some (.json value))).mapError (.deserialize type)).map written := by
  have known : Scalar.Known s := .registered (scalar_eq_ok_iff.mp hs)
  simp only [serialized, hs, hv, Outcome.ok_bind]
  cases hd : s.deserialize (some (.json value)) with
  | error error => rfl
  | ok runtime =>
    obtain ⟨_, hr, _⟩ := known.serialize_of_deserialize hd
    simp only [Outcome.mapError_ok, Outcome.ok_bind, Outcome.map_ok, hr]
    exact json_serializedOf runtime

theorem serialized_eq_ok_iff {result : Json} :
    serialized format around type input = .ok result ↔
      ∃ s value runtime, scalar type = .ok s ∧ readJson format around input = .ok value ∧
        s.deserialize (some (.json value)) = .ok runtime ∧ written runtime = result := by
  constructor
  · intro h
    obtain ⟨s, hs, h'⟩ := Outcome.bind_eq_ok_iff.mp h
    obtain ⟨value, hv, _⟩ := Outcome.bind_eq_ok_iff.mp h'
    rw [serialized_eq_map hs hv, Outcome.map_eq_ok_iff] at h
    obtain ⟨runtime, hd, hw⟩ := h
    exact ⟨s, value, runtime, hs, hv, Outcome.mapError_eq_ok_iff.mp hd, hw⟩
  · rintro ⟨s, value, runtime, hs, hv, hd, rfl⟩
    rw [serialized_eq_map hs hv, hd]
    rfl

/-- What is written for a runtime value is deserialized to it. -/
theorem deserialize_written (h : Scalar.Known s) {v : Option Value} (hd : s.deserialize v = .ok runtime) :
    s.deserialize (some (.json (written runtime))) = .ok runtime := by
  cases runtime with
  | none => exact (h.conversions_of_absent rfl).1
  | some w => exact (h.serialize_of_deserialize hd).2.2.1

theorem perform_print (hs : scalar type = .ok s) (hv : readJson format around input = .ok value)
    (hd : s.deserialize (some (.json value)) = .ok runtime) :
    perform format around (.print type input) = .ok (.show (Value.literalOf runtime).toString) := by
  have known : Scalar.Known s := .registered (scalar_eq_ok_iff.mp hs)
  have hl : s.parseResult (some (.json value)) = .ok (Value.literalOf runtime) := by
    rw [known.parseResult_eq_parseValue, known.parseValue_eq_map, hd]
    rfl
  simp only [perform, hs, hv, hl, Outcome.ok_bind, Outcome.mapError_ok]
  rfl

/-- The failures of the stages before a value is serialized. -/
inductive Early (type : String) (input : Option String) : Failure → Prop where
  | unknownScalar : Early type input (.unknownScalar type)
  | file {path : String} (h : input = some path) : Early type input (.file path)
  | input (h : input = none) : Early type input .input
  | json : Early type input .json
  | deserialize (cause : CoercionError) : Early type input (.deserialize type cause)

theorem early_of_read {failure : Failure} (h : read around input = .error failure) :
    Early type input failure := by
  cases input with
  | some path =>
    simp only [read] at h
    cases hf : around.file? path with
    | some text => rw [hf] at h; cases h
    | none => rw [hf] at h; cases h; exact .file rfl
  | none =>
    simp only [read] at h
    cases hi : around.input? with
    | some text => rw [hi] at h; cases h
    | none => rw [hi] at h; cases h; exact .input rfl

theorem early_of_readJson {failure : Failure} (h : readJson format around input = .error failure) :
    Early type input failure := by
  rcases Outcome.bind_eq_error_iff.mp h with hr | ⟨text, _, ht⟩
  · exact early_of_read hr
  · rw [eq_of_orFail_eq_error ht]
    exact .json

theorem early_of_serialized {failure : Failure} (h : serialized format around type input = .error failure) :
    Early type input failure := by
  rcases Outcome.bind_eq_error_iff.mp h with hs | ⟨s, hs, h'⟩
  · rw [eq_of_orFail_eq_error hs]
    exact .unknownScalar
  rcases Outcome.bind_eq_error_iff.mp h' with hv | ⟨value, hv, _⟩
  · exact early_of_readJson hv
  rw [serialized_eq_map hs hv] at h
  cases hd : s.deserialize (some (.json value)) with
  | error cause =>
    rw [hd] at h
    cases h
    exact .deserialize cause
  | ok runtime =>
    rw [hd] at h
    cases h

/-- Normalization is stable. What a known type deserializes a value to is deserialized to itself, and is
serialized to absence or to data that stands for the same runtime value, is serialized to itself and
prints alike; and what is serialized once is serialized to itself. On the command line, serializing thus
fails early or not before its text is delivered, leaves its own output as it is, and does not change
what is printed. -/
theorem normalization_stable :
    (∀ s : Scalar, Scalar.Known s → ∀ v runtime : Option Value, s.deserialize v = .ok runtime →
      s.deserialize runtime = .ok runtime ∧
        ∃ u, s.serialize runtime = .ok u ∧ (u = none ∨ ∃ j, u = some (.json j)) ∧
          s.deserialize u = .ok runtime ∧ s.serialize u = .ok u ∧
          s.parseResult u = s.parseResult v) ∧
    (∀ s : Scalar, Scalar.Known s → ∀ v u : Option Value, s.serialize v = .ok u →
      s.serialize u = .ok u) ∧
    ∀ (format : Format) (around : Surroundings) (type : String) (input : Option String),
      (∀ output, perform format around (.serialize type input output) =
        serialized format around type input >>= fun result =>
          deliver around output (format.pretty result)) ∧
      (∀ failure, serialized format around type input = .error failure → Early type input failure) ∧
      ∀ result, serialized format around type input = .ok result →
        ∀ around' input', readJson format around' input' = .ok result →
          serialized format around' type input' = .ok result ∧
            ∃ text, perform format around (.print type input) = .ok (.show text) ∧
              perform format around' (.print type input') = .ok (.show text) := by
  refine ⟨?_, ?_, ?_⟩
  · intro s known v runtime hd
    obtain ⟨hn, hs, hu, hu'⟩ := known.serialize_of_deserialize hd
    refine ⟨hn, Value.serializedOf runtime, hs, ?_, hu, hu', known.parseResult_serializedOf hd⟩
    cases runtime with
    | none => exact .inl rfl
    | some w => exact .inr ⟨w.serialized, rfl⟩
  · intro s known v u hs
    exact known.serialize_again hs
  · intro format around type input
    refine ⟨perform_serialize format around type input, fun failure => early_of_serialized, ?_⟩
    intro result h around' input' hv'
    obtain ⟨s, value, runtime, hs, hv, hd, rfl⟩ := serialized_eq_ok_iff.mp h
    have known : Scalar.Known s := .registered (scalar_eq_ok_iff.mp hs)
    have hd' := deserialize_written known hd
    exact ⟨serialized_eq_ok_iff.mpr ⟨s, _, runtime, hs, hv', hd', rfl⟩, _, perform_print hs hv hd,
      perform_print hs hv' hd'⟩

/-- An integer that one candidate turns into a string, though another would take it as a number. -/
theorem normalization_stable_mixed :
    (∃ s : Scalar, Scalar.Known s ∧
      s.deserialize (some (.json (.number (.ofInt64 5)))) = .ok (some (.json (.string "5"))) ∧
      s.deserialize (some (.json (.string "5"))) = .ok (some (.json (.string "5"))) ∧
      s.serialize (some (.json (.number (.ofInt64 5)))) = .ok (some (.json (.string "5"))) ∧
      s.serialize (some (.json (.string "5"))) = .ok (some (.json (.string "5")))) ∧
    ∃ text,
      perform .standard ⟨fun _ => none, some "5", fun _ => false, fun _ _ => none⟩ (.print "ID" none) =
        .ok (.show text) ∧
      perform .standard ⟨fun _ => none, some "\"5\"", fun _ => false, fun _ _ => none⟩
        (.print "ID" none) = .ok (.show text) := by
  obtain ⟨stable, again, run⟩ := normalization_stable
  constructor
  · let s := Composite.scalar ⟨[Composite.scalar ⟨[Primitive.id.scalar]⟩, Primitive.float.scalar]⟩
    have known : Scalar.Known s := by
      apply Scalar.Known.composite
      intro candidate hm
      simp only [List.mem_cons, List.not_mem_nil, or_false] at hm
      rcases hm with rfl | rfl
      · apply Scalar.Known.composite
        intro candidate hm
        rw [List.mem_singleton.mp hm]
        exact .primitive .id
      · exact .primitive .float
    let five : Option Value := some (.json (.number (.ofInt64 5)))
    exact ⟨s, known, rfl, (stable s known five _ rfl).1, rfl, again s known five _ rfl⟩
  · have hs : scalar "ID" = .ok Primitive.id.scalar :=
      scalar_eq_ok_iff.mpr (Registry.get?_standard_primitive .id)
    let around : Surroundings := { file? := fun _ => none, input? := some "5", isWritable := fun _ => false }
    let around' : Surroundings := { around with input? := some "\"5\"" }
    have hv : readJson .standard around none = .ok (.number (.ofInt64 5)) := rfl
    have result : serialized .standard around "ID" none = .ok (.string "5") :=
      serialized_eq_ok_iff.mpr ⟨_, _, some (.json (.string "5")), hs, hv, rfl, rfl⟩
    exact ((run .standard around "ID" none).2.2 _ result around' none rfl).2

end SpatialQuery.CommandLine
