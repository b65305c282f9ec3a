import SpatialQuery.Proofs.CommandLine.Serializing
import SpatialQuery.Proofs.Validation.Told

/-! What a run tells and leaves behind, in every text form of JSON and in all surroundings. -/
namespace SpatialQuery.CommandLine

open Json (Format Tree)

/-- The JSON that stands in the file at a path, or in the standard input without one. -/
def Surroundings.Holds (format : Format) (around : Surroundings) (path : Option String) (tree : Tree) :
    Prop :=
  ∃ text, path.elim around.input? around.file? = some text ∧ format.tree? text = some tree

/-- All of a text can be written to a file; without one it is shown. -/
def Surroundings.Takes (around : Surroundings) (output : Option String) (text : String) : Prop :=
  ∀ path ∈ output, around.isWritable path = true ∧ around.broken? path text = none

/-- A schema and a document that can be read where a validation looks for them. -/
structure Decodes (format : Format) (around : Surroundings) (schemaPath : String)
    (input : Option String) (schema : Schema) (document : Document) : Prop where
  schema : ∃ tree, around.Holds format (some schemaPath) tree ∧ Schema.ofTree? tree = some schema
  document : ∃ tree, around.Holds format input tree ∧ Document.ofTree? tree = some document

/-- A known type, and a JSON value that can be read where a conversion looks for it. -/
structure Supplies (format : Format) (around : Surroundings) (type : String) (input : Option String)
    (scalar : Scalar) (value : Json) : Prop where
  scalar : Registry.standard.get? type = some scalar
  value : ∃ tree, around.Holds format input tree ∧ tree.toJson? = some value

/-- A text that is the serialized form of what a conversion is supplied with, if that can be
deserialized. -/
def Yields (format : Format) (around : Surroundings) (type : String) (input : Option String)
    (text : String) : Prop :=
  ∃ scalar value runtime, Supplies format around type input scalar value ∧
    scalar.deserialize (some (.json value)) = .ok runtime ∧ format.pretty (written runtime) = text

/-- An outcome that tells of a failure, with nothing shown and nothing written. -/
structure Outcome.Fails (outcome : Outcome) : Prop where
  code : outcome.code ≠ 0
  output : outcome.output = ""
  written : outcome.written = none

variable {format : Format} {around : Surroundings} {command : Command} {type : String}
  {input output : Option String}

theorem read_eq_ok_iff {path : Option String} {text : String} :
    read around path = .ok text ↔ path.elim around.input? around.file? = some text := by
  cases path with
  | some path =>
    rw [read, Option.elim_some]
    cases around.file? path <;> simp
  | none =>
    rw [read, Option.elim_none]
    cases around.input? <;> simp

/-- What is made of the JSON at a path, if it can be read there. -/
theorem read_bind_eq_ok_iff {α : Type} {path : Option String} {ofTree? : Tree → Option α}
    {failure : Failure} {a : α} :
    (read around path >>= fun text => orFail failure (format.read? ofTree? text)) = .ok a ↔
      ∃ tree, around.Holds format path tree ∧ ofTree? tree = some a := by
  simp only [Outcome.bind_eq_ok_iff, read_eq_ok_iff, orFail_eq_ok_iff, Format.read?,
    Option.bind_eq_bind, Option.bind_eq_some_iff, Surroundings.Holds]
  constructor
  · rintro ⟨text, found, tree, parsed, made⟩
    exact ⟨tree, ⟨text, found, parsed⟩, made⟩
  · rintro ⟨tree, ⟨text, found, parsed⟩, made⟩
    exact ⟨text, found, tree, parsed, made⟩

theorem supplies_iff {scalar : Scalar} {value : Json} :
    Supplies format around type input scalar value ↔
      CommandLine.scalar type = .ok scalar ∧ readJson format around input = .ok value := by
  rw [scalar_eq_ok_iff, readJson, read_bind_eq_ok_iff]
  exact ⟨fun h => ⟨h.scalar, h.value⟩, fun h => ⟨h.1, h.2⟩⟩

theorem perform_validate_eq_ok_iff {schemaPath : String} {effect : Effect} :
    perform format around (.validate schemaPath input) = .ok effect ↔
      ∃ schema document, Decodes format around schemaPath input schema document ∧
        effect = .report (document.validate schema.typeSystem) := by
  have stages : perform format around (.validate schemaPath input) =
      (read around (some schemaPath) >>= fun text =>
        orFail (.schema schemaPath) (format.read? Schema.ofTree? text)) >>= fun schema =>
      (read around input >>= fun text => orFail .document (format.read? Document.ofTree? text)) >>=
        fun document => .ok (.report (document.validate schema.typeSystem)) := by
    simp only [perform, bind_assoc]
    rfl
  rw [stages]
  simp only [Outcome.bind_eq_ok_iff (x := _ >>= _), read_bind_eq_ok_iff]
  constructor
  · rintro ⟨schema, hs, document, hd, ⟨⟩⟩
    exact ⟨schema, document, ⟨hs, hd⟩, rfl⟩
  · rintro ⟨schema, document, ⟨hs, hd⟩, rfl⟩
    exact ⟨schema, hs, document, hd, rfl⟩

theorem yields_iff {text : String} :
    Yields format around type input text ↔
      ∃ result, serialized format around type input = .ok result ∧ format.pretty result = text := by
  simp only [Yields, serialized_eq_ok_iff, supplies_iff]
  constructor
  · rintro ⟨scalar, value, runtime, ⟨hs, hv⟩, hd, h⟩
    exact ⟨_, ⟨scalar, value, runtime, hs, hv, hd, rfl⟩, h⟩
  · rintro ⟨_, ⟨scalar, value, runtime, hs, hv, hd, rfl⟩, h⟩
    exact ⟨scalar, value, runtime, ⟨hs, hv⟩, hd, h⟩

/-- Serializing comes to an error of its early stages, or to a text to be delivered. -/
theorem perform_serialize_cases (format : Format) (around : Surroundings) (type : String)
    (input output : Option String) :
    (∃ failure, perform format around (.serialize type input output) = .error failure ∧
        failure.left? = none ∧ ∀ text, ¬ Yields format around type input text) ∨
      ∃ text, (∀ other, Yields format around type input other ↔ other = text) ∧
        perform format around (.serialize type input output) = deliver around output text := by
  rw [perform_serialize]
  cases h : serialized format around type input with
  | error failure =>
    refine .inl ⟨failure, rfl, ?_, fun text yields => ?_⟩
    · cases early_of_serialized h <;> rfl
    · obtain ⟨result, hr, _⟩ := yields_iff.mp yields
      cases hr.symm.trans h
  | ok result =>
    refine .inr ⟨format.pretty result, fun other => ?_, rfl⟩
    rw [yields_iff, h]
    constructor
    · rintro ⟨_, ⟨⟩, rfl⟩
      rfl
    · rintro rfl
      exact ⟨result, rfl, rfl⟩

theorem perform_print_eq_ok_iff {effect : Effect} :
    perform format around (.print type input) = .ok effect ↔
      ∃ scalar value literal, Supplies format around type input scalar value ∧
        scalar.parseResult (some (.json value)) = .ok literal ∧ effect = .show literal.toString := by
  simp only [perform, Outcome.bind_eq_ok_iff, Outcome.mapError_eq_ok_iff, supplies_iff]
  constructor
  · rintro ⟨scalar, hs, value, hv, literal, hl, h⟩
    cases h
    exact ⟨scalar, value, literal, ⟨hs, hv⟩, hl, rfl⟩
  · rintro ⟨scalar, value, literal, ⟨hs, hv⟩, hl, rfl⟩
    exact ⟨scalar, hs, value, hv, literal, hl, rfl⟩

theorem left?_of_read {path : Option String} {failure : Failure} (h : read around path = .error failure) :
    failure.left? = none := by
  have early : Early "" path failure := early_of_read h
  cases early <;> rfl

theorem left?_of_readJson {failure : Failure} (h : readJson format around input = .error failure) :
    failure.left? = none := by
  have early : Early "" input failure := early_of_readJson h
  cases early <;> rfl

/-- A validation leaves nothing behind. -/
theorem left?_of_validate {schemaPath : String} {failure : Failure}
    (h : perform format around (.validate schemaPath input) = .error failure) :
    failure.left? = none := by
  rcases Outcome.bind_eq_error_iff.mp h with unread | ⟨schemaText, _, h⟩
  · exact left?_of_read unread
  rcases Outcome.bind_eq_error_iff.mp h with unmade | ⟨schema, _, h⟩
  · rw [eq_of_orFail_eq_error unmade]
    rfl
  rcases Outcome.bind_eq_error_iff.mp h with unread | ⟨text, _, h⟩
  · exact left?_of_read unread
  rcases Outcome.bind_eq_error_iff.mp h with unmade | ⟨document, _, ⟨⟩⟩
  rw [eq_of_orFail_eq_error unmade]
  rfl

/-- Printing leaves nothing behind. -/
theorem left?_of_print {failure : Failure}
    (h : perform format around (.print type input) = .error failure) : failure.left? = none := by
  rcases Outcome.bind_eq_error_iff.mp h with unknown | ⟨scalar, _, h⟩
  · rw [eq_of_orFail_eq_error unknown]
    rfl
  rcases Outcome.bind_eq_error_iff.mp h with unread | ⟨value, _, h⟩
  · exact left?_of_readJson unread
  rcases Outcome.bind_eq_error_iff.mp h with refused | ⟨literal, _, ⟨⟩⟩
  obtain ⟨cause, _, rfl⟩ := Outcome.mapError_eq_error_iff.mp refused
  rfl

theorem fails_of_error {result : Except Failure Effect} {failure : Failure}
    (h : result = .error failure) : (Outcome.ofResult format result).Fails := by
  rw [h]
  exact ⟨(by decide : (1 : UInt32) ≠ 0), rfl, rfl⟩

/-- What the outcome of a validation tells. -/
structure ValidateReport (format : Format) (around : Surroundings) (schemaPath : String)
    (input : Option String) (outcome : Outcome) : Prop where
  code_eq_zero_iff : outcome.code = 0 ↔ ∃ schema document,
    Decodes format around schemaPath input schema document ∧
      (document.validate schema.typeSystem).toList = []
  /-- The list that is shown tells of the errors of the document, in their order, and of no others. -/
  reports {schema : Schema} {document : Document}
    (h : Decodes format around schemaPath input schema document) :
    ∃ told, outcome.output = line (format.pretty (.array told)) ∧
      ∀ errors, List.Forall₂ ValidationError.Tells told errors ↔
        errors = (document.validate schema.typeSystem).toList
  refuses {schema : Schema} {document : Document}
    (h : Decodes format around schemaPath input schema document)
    (found : (document.validate schema.typeSystem).toList ≠ []) : outcome.code = 1
  fails (h : ∀ schema document, ¬ Decodes format around schemaPath input schema document) :
    outcome.Fails
  written : outcome.written = none
  left : outcome.left = none

/-- What the outcome of serializing tells. The text goes to the output or to a file, never to both. -/
structure SerializeReport (format : Format) (around : Surroundings) (type : String)
    (input output : Option String) (outcome : Outcome) : Prop where
  code_eq_zero_iff : outcome.code = 0 ↔
    ∃ text, Yields format around type input text ∧ around.Takes output text
  delivers {text : String} (h : Yields format around type input text) (success : outcome.code = 0) :
    outcome.output = output.elim (line text) (fun _ => "") ∧ outcome.written = output.map (·, text)
  fails (failure : outcome.code ≠ 0) : outcome.Fails
  left_eq_some_iff {path rest : String} : outcome.left = some (path, rest) ↔
    output = some path ∧ around.isWritable path = true ∧
      ∃ text, Yields format around type input text ∧ around.broken? path text = some rest

/-- What the outcome of printing tells. -/
structure PrintReport (format : Format) (around : Surroundings) (type : String)
    (input : Option String) (outcome : Outcome) : Prop where
  code_eq_zero_iff : outcome.code = 0 ↔ ∃ scalar value literal,
    Supplies format around type input scalar value ∧
      scalar.parseResult (some (.json value)) = .ok literal
  prints {scalar : Scalar} {value : Json} {literal : Literal}
    (h : Supplies format around type input scalar value)
    (hl : scalar.parseResult (some (.json value)) = .ok literal) :
    outcome.output = line literal.toString
  fails (failure : outcome.code ≠ 0) : outcome.Fails
  written : outcome.written = none
  left : outcome.left = none

/-- How a text is delivered. -/
inductive Delivery (around : Surroundings) (text : String) :
    Option String → Except Failure Effect → Prop where
  | shown : Delivery around text none (.ok (.show text))
  | written {path : String} (opened : around.isWritable path = true)
    (whole : around.broken? path text = none) :
    Delivery around text (some path) (.ok (.write path text))
  | broken {path rest : String} (opened : around.isWritable path = true)
    (broke : around.broken? path text = some rest) :
    Delivery around text (some path) (.error (.unwritable path (some rest)))
  | refused {path : String} (closed : around.isWritable path = false) :
    Delivery around text (some path) (.error (.unwritable path none))

theorem delivery_deliver (around : Surroundings) (output : Option String) (text : String) :
    Delivery around text output (deliver around output text) := by
  cases output with
  | none => exact .shown
  | some path =>
    rw [deliver]
    split
    · next opened =>
      split
      · next broke => exact .broken opened broke
      · next whole => exact .written opened whole
    · next closed => exact .refused (Bool.eq_false_iff.mpr closed)

theorem SerializeReport.of_delivery {text : String} {result : Except Failure Effect}
    (yields : ∀ other, Yields format around type input other ↔ other = text)
    (h : Delivery around text output result) :
    SerializeReport format around type input output (.ofResult format result) := by
  have own : Yields format around type input text := (yields text).mpr rfl
  cases h with
  | shown =>
    refine ⟨⟨fun _ => ⟨text, own, nofun⟩, fun _ => rfl⟩, fun h _ => ?_, fun h => absurd rfl h, nofun, ?_⟩
    · cases (yields _).mp h
      exact ⟨rfl, rfl⟩
    · rintro ⟨⟨⟩, _⟩
  | written opened whole =>
    refine ⟨⟨fun _ => ⟨text, own, ?_⟩, fun _ => rfl⟩, fun h _ => ?_, fun h => absurd rfl h, nofun, ?_⟩
    · rintro _ ⟨⟩
      exact ⟨opened, whole⟩
    · cases (yields _).mp h
      exact ⟨rfl, rfl⟩
    · rintro ⟨⟨⟩, _, other, h, broke⟩
      cases (yields _).mp h
      cases whole.symm.trans broke
  | @broken path rest opened broke =>
    have fails : (Outcome.ofResult format (.error (.unwritable path (some rest)))).Fails :=
      fails_of_error rfl
    refine ⟨⟨fun h => absurd h fails.code, ?_⟩, fun _ h => absurd h fails.code, fun _ => fails, ?_, ?_⟩
    · rintro ⟨other, h, takes⟩
      cases (yields _).mp h
      cases broke.symm.trans (takes _ rfl).2
    · rintro ⟨⟩
      exact ⟨rfl, opened, text, own, broke⟩
    · rintro ⟨⟨⟩, _, other, h, broke'⟩
      cases (yields _).mp h
      cases broke.symm.trans broke'
      rfl
  | @refused path closed =>
    have fails : (Outcome.ofResult format (.error (.unwritable path none))).Fails := fails_of_error rfl
    refine ⟨⟨fun h => absurd h fails.code, ?_⟩, fun _ h => absurd h fails.code, fun _ => fails, nofun, ?_⟩
    · rintro ⟨_, _, takes⟩
      cases closed.symm.trans (takes _ rfl).1
    · rintro ⟨⟨⟩, opened, _⟩
      cases closed.symm.trans opened

theorem serialize_tells (format : Format) (around : Surroundings) (type : String)
    (input output : Option String) :
    SerializeReport format around type input output
      ((Command.serialize type input output).run format around) := by
  rw [Command.run]
  rcases perform_serialize_cases format around type input output with
    ⟨failure, failed, left, none⟩ | ⟨text, yields, delivered⟩
  · rw [failed]
    have fails : (Outcome.ofResult format (.error failure)).Fails := fails_of_error rfl
    refine ⟨⟨fun h => absurd h fails.code, ?_⟩, fun h => absurd h (none _), fun _ => fails, ?_, ?_⟩
    · rintro ⟨text, h, _⟩
      exact absurd h (none text)
    · intro h
      cases left.symm.trans h
    · rintro ⟨_, _, text, h, _⟩
      exact absurd h (none text)
  · rw [delivered]
    exact .of_delivery yields (delivery_deliver around output text)

theorem code_report (format : Format) (errors : Array ValidationError) :
    (Outcome.ofEffect format (.report errors)).code = if errors.toList = [] then 0 else 1 := by
  simp only [Outcome.ofEffect, Array.isEmpty_iff, Array.toList_eq_nil_iff]

theorem validate_tells (format : Format) (around : Surroundings) (schemaPath : String)
    (input : Option String) :
    ValidateReport format around schemaPath input
      ((Command.validate schemaPath input).run format around) := by
  have reported {schema : Schema} {document : Document}
      (h : Decodes format around schemaPath input schema document) :
      perform format around (.validate schemaPath input) =
        .ok (.report (document.validate schema.typeSystem)) :=
    perform_validate_eq_ok_iff.mpr ⟨schema, document, h, rfl⟩
  rw [Command.run]
  cases hp : perform format around (.validate schemaPath input) with
  | error failure =>
    have fails : (Outcome.ofResult format (.error failure)).Fails := fails_of_error rfl
    have absent (schema : Schema) (document : Document) :
        ¬ Decodes format around schemaPath input schema document := by
      intro h
      rw [reported h] at hp
      cases hp
    refine ⟨⟨fun h => absurd h fails.code, ?_⟩, fun h => absurd h (absent _ _),
      fun h => absurd h (absent _ _), fun _ => fails, fails.written, ?_⟩
    · rintro ⟨schema, document, h, _⟩
      exact absurd h (absent _ _)
    · exact left?_of_validate hp
  | ok effect =>
    obtain ⟨schema, document, h, rfl⟩ := perform_validate_eq_ok_iff.mp hp
    have same {schema' : Schema} {document' : Document}
        (h' : Decodes format around schemaPath input schema' document') :
        document'.validate schema'.typeSystem = document.validate schema.typeSystem :=
      Effect.report.inj (Except.ok.inj ((reported h').symm.trans (reported h)))
    have code := code_report format (document.validate schema.typeSystem)
    refine ⟨?_, ?_, ?_, fun absent => absurd h (absent _ _), rfl, rfl⟩
    · rw [Outcome.ofResult, code]
      constructor
      · intro h'
        split at h'
        · next none => exact ⟨schema, document, h, none⟩
        · cases h'
      · rintro ⟨schema', document', h', none⟩
        rw [same h'] at none
        rw [if_pos none]
    · intro schema' document' h'
      rw [same h']
      exact ⟨_, rfl, fun errors => ValidationError.tells_map_toJson_iff⟩
    · intro schema' document' h' found
      rw [same h'] at found
      rw [Outcome.ofResult, code, if_neg found]

theorem print_tells (format : Format) (around : Surroundings) (type : String) (input : Option String) :
    PrintReport format around type input ((Command.print type input).run format around) := by
  have shown {scalar : Scalar} {value : Json} {literal : Literal}
      (h : Supplies format around type input scalar value)
      (hl : scalar.parseResult (some (.json value)) = .ok literal) :
      perform format around (.print type input) = .ok (.show literal.toString) :=
    perform_print_eq_ok_iff.mpr ⟨scalar, value, literal, h, hl, rfl⟩
  rw [Command.run]
  cases hp : perform format around (.print type input) with
  | error failure =>
    have fails : (Outcome.ofResult format (.error failure)).Fails := fails_of_error rfl
    have absent {scalar : Scalar} {value : Json} {literal : Literal}
        (h : Supplies format around type input scalar value) :
        scalar.parseResult (some (.json value)) ≠ .ok literal := by
      intro hl
      rw [shown h hl] at hp
      cases hp
    refine ⟨⟨fun h => absurd h fails.code, ?_⟩, fun h hl => absurd hl (absent h), fun _ => fails,
      fails.written, left?_of_print hp⟩
    rintro ⟨scalar, value, literal, h, hl⟩
    exact absurd hl (absent h)
  | ok effect =>
    obtain ⟨scalar, value, literal, h, hl, rfl⟩ := perform_print_eq_ok_iff.mp hp
    refine ⟨⟨fun _ => ⟨scalar, value, literal, h, hl⟩, fun _ => rfl⟩, ?_,
      fun failure => absurd rfl failure, rfl, rfl⟩
    intro scalar' value' literal' h' hl'
    rw [shown h' hl'] at hp
    rw [← hp]
    rfl

theorem line_injective : Function.Injective line := by
  intro text other h
  have chars := congrArg String.toList h
  simp only [line, String.toList_append, List.append_left_inj] at chars
  exact String.toList_injective chars

namespace SerializeReport

variable {outcome : Outcome}

theorem written_eq_some_iff (report : SerializeReport format around type input output outcome)
    {path text : String} :
    outcome.written = some (path, text) ↔
      output = some path ∧ around.Takes output text ∧ Yields format around type input text := by
  constructor
  · intro h
    have success : outcome.code = 0 := by
      by_contra failure
      rw [(report.fails failure).written] at h
      cases h
    obtain ⟨shown, yields, takes⟩ := report.code_eq_zero_iff.mp success
    rw [(report.delivers yields success).2] at h
    obtain ⟨_, rfl, same⟩ := Option.map_eq_some_iff.mp h
    cases same
    exact ⟨rfl, takes, yields⟩
  · rintro ⟨rfl, takes, yields⟩
    exact (report.delivers yields (report.code_eq_zero_iff.mpr ⟨text, yields, takes⟩)).2

/-- Without a file the text is shown. -/
theorem shows_iff (report : SerializeReport format around type input none outcome) {text : String} :
    outcome.code = 0 ∧ outcome.output = line text ↔ Yields format around type input text := by
  constructor
  · rintro ⟨success, shown⟩
    obtain ⟨other, yields, _⟩ := report.code_eq_zero_iff.mp success
    rw [(report.delivers yields success).1] at shown
    rwa [line_injective shown] at yields
  · intro yields
    have success : outcome.code = 0 := report.code_eq_zero_iff.mpr ⟨text, yields, nofun⟩
    exact ⟨success, (report.delivers yields success).1⟩

end SerializeReport

/-- Only serializing writes a file. -/
theorem run_written_iff {path text : String} :
    (command.run format around).written = some (path, text) ↔
      ∃ type input, command = .serialize type input (some path) ∧ around.Takes (some path) text ∧
        Yields format around type input text := by
  cases command with
  | validate schemaPath input => simp [(validate_tells format around schemaPath input).written]
  | print type input => simp [(print_tells format around type input).written]
  | serialize type input output =>
    rw [(serialize_tells format around type input output).written_eq_some_iff]
    constructor
    · rintro ⟨rfl, takes, yields⟩
      exact ⟨type, input, rfl, takes, yields⟩
    · rintro ⟨_, _, ⟨⟩, takes, yields⟩
      exact ⟨rfl, takes, yields⟩

/-- Only serializing leaves anything else in a file, where writing its text breaks off. -/
theorem run_left_iff {path rest : String} :
    (command.run format around).left = some (path, rest) ↔
      ∃ type input text, command = .serialize type input (some path) ∧
        around.isWritable path = true ∧ around.broken? path text = some rest ∧
          Yields format around type input text := by
  cases command with
  | validate schemaPath input => simp [(validate_tells format around schemaPath input).left]
  | print type input => simp [(print_tells format around type input).left]
  | serialize type input output =>
    rw [(serialize_tells format around type input output).left_eq_some_iff]
    constructor
    · rintro ⟨rfl, opened, text, yields, broke⟩
      exact ⟨type, input, text, rfl, opened, broke, yields⟩
    · rintro ⟨_, _, text, ⟨⟩, opened, broke, yields⟩
      exact ⟨rfl, opened, text, yields, broke⟩

/-- What a run tells is so, and a run that fails has written nothing. Its code is zero exactly when all
that its command names can be read, found, converted, delivered and passes; a validation shows the errors
that it has found, and any other run that fails shows nothing. A file is written only by a run that
serializes to it, and holds the text that the same run without a file shows as a line. Where writing
this text breaks off, the run has failed, and what is left of it is in no other file. -/
theorem run_tells (format : Format) (around : Surroundings) :
    (∀ schemaPath input, ValidateReport format around schemaPath input
      ((Command.validate schemaPath input).run format around)) ∧
    (∀ type input output, SerializeReport format around type input output
      ((Command.serialize type input output).run format around)) ∧
    (∀ type input, PrintReport format around type input
      ((Command.print type input).run format around)) ∧
    (∀ (command : Command) path text, (command.run format around).written = some (path, text) ↔
      ∃ type input, command = .serialize type input (some path) ∧ around.Takes (some path) text ∧
        ((Command.serialize type input none).run format around).code = 0 ∧
        ((Command.serialize type input none).run format around).output = line text) ∧
    ∀ (command : Command) path rest, (command.run format around).left = some (path, rest) ↔
      ∃ type input text, command = .serialize type input (some path) ∧
        around.isWritable path = true ∧ around.broken? path text = some rest ∧
        ((Command.serialize type input none).run format around).code = 0 ∧
        ((Command.serialize type input none).run format around).output = line text := by
  have shows (type : String) (input : Option String) (text : String) :
      ((Command.serialize type input none).run format around).code = 0 ∧
          ((Command.serialize type input none).run format around).output = line text ↔
        Yields format around type input text :=
    (serialize_tells format around type input none).shows_iff
  refine ⟨validate_tells format around, serialize_tells format around, print_tells format around,
    fun command path text => ?_, fun command path rest => ?_⟩
  · simp only [shows, run_written_iff]
  · simp only [shows, run_left_iff]

/-- A directive without its condition is reported, and a document without operations passes. An integer
is written to a file as an identifier, is printed as one, and is cut off in a file that is full. -/
theorem run_tells_skip :
    let around (input : String) : Surroundings := {
      file? := fun path => if path = "schema.json" then some "[]" else none
      input? := some input
      isWritable := fun _ => true
      broken? := fun path _ => if path = "full.json" then some "\"" else none }
    let checked : Command := .validate "schema.json" none
    let skipping := checked.run .standard (around "[[[\"query\", null, [[\"skip\"]], []]]]")
    let passing := checked.run .standard (around "[[]]")
    let saved := (Command.serialize "ID" none (some "id.json")).run .standard (around "5")
    let cut := (Command.serialize "ID" none (some "full.json")).run .standard (around "5")
    let printed := (Command.print "ID" none).run .standard (around "5")
    let unknown := (Command.print "Id" none).run .standard (around "5")
    (skipping.code = 1 ∧ ∃ told, skipping.output = line (Format.standard.pretty (.array told)) ∧
      List.Forall₂ ValidationError.Tells told [{
        message := "The argument `if` is required."
        locations := [.unknown]
        extensions := [("directive", .string "skip"), ("argument", .string "if"),
          ("specifiedBy", .string RequiredArguments.specification)] }]) ∧
    (passing.code = 0 ∧ passing.output = "[]\n") ∧
    (saved.code = 0 ∧ saved.written = some ("id.json", "\"5\"") ∧ saved.left = none) ∧
    (cut.Fails ∧ cut.left = some ("full.json", "\"")) ∧
    printed.output = "\"5\"\n" ∧ unknown.Fails := by
  intro around checked skipping passing saved cut printed unknown
  have validates (input : String) := (run_tells .standard (around input)).1 "schema.json" none
  obtain ⟨_, serializes, prints, _, _⟩ := run_tells .standard (around "5")
  have schema : Decodes .standard (around "[[]]") "schema.json" none (Schema.build []) ⟨[]⟩ :=
    ⟨⟨_, ⟨_, rfl, rfl⟩, rfl⟩, ⟨_, ⟨_, rfl, rfl⟩, rfl⟩⟩
  let document : Document := ⟨[{ kind := .query, selections := [], directives := [{ name := "skip" }] }]⟩
  have decodes : Decodes .standard (around "[[[\"query\", null, [[\"skip\"]], []]]]") "schema.json" none
      (Schema.build []) document :=
    ⟨⟨_, ⟨_, rfl, rfl⟩, rfl⟩, ⟨_, ⟨_, rfl, rfl⟩, rfl⟩⟩
  have errors : (document.validate (Schema.build []).typeSystem).toList = [{
      message := "The argument `if` is required."
      locations := [.unknown]
      extensions := [("directive", .string "skip"), ("argument", .string "if"),
        ("specifiedBy", .string RequiredArguments.specification)] }] := by
    have one : document.validate (Schema.build []).typeSystem =
      RequiredArguments.checkArguments (.directive "skip") .unknown [] Schema.condition #[] := rfl
    rw [one, RequiredArguments.checkArguments]
    simp only [RequiredArguments.isSupplied_eq_find?]
    rfl
  have read : readJson .standard (around "5") none = .ok (.number (.ofInt64 5)) := rfl
  have supplies : Supplies .standard (around "5") "ID" none Primitive.id.scalar (.number (.ofInt64 5)) :=
    supplies_iff.mpr ⟨scalar_eq_ok_iff.mpr (Registry.get?_standard_primitive .id), read⟩
  have yields : Yields .standard (around "5") "ID" none "\"5\"" :=
    ⟨_, _, some (.json (.string "5")), supplies, rfl, rfl⟩
  have success : saved.code = 0 := (serializes _ _ _).code_eq_zero_iff.mpr ⟨_, yields, by
    rintro _ ⟨⟩
    exact ⟨rfl, rfl⟩⟩
  refine ⟨⟨?_, ?_⟩, ⟨?_, ?_⟩, ⟨success, ?_, ?_⟩, ⟨?_, ?_⟩, ?_, ?_⟩
  · exact (validates _).refuses decodes (by rw [errors]; exact nofun)
  · obtain ⟨told, shown, tells⟩ := (validates _).reports decodes
    exact ⟨told, shown, (tells _).mpr errors.symm⟩
  · exact (validates _).code_eq_zero_iff.mpr ⟨_, _, schema, rfl⟩
  · obtain ⟨told, shown, tells⟩ := (validates _).reports schema
    cases (tells []).mpr rfl
    exact shown
  · exact ((serializes _ _ _).delivers yields success).2
  · refine Option.eq_none_iff_forall_ne_some.mpr fun ⟨path, rest⟩ left => ?_
    obtain ⟨⟨⟩, _, text, _, broke⟩ := (serializes _ _ _).left_eq_some_iff.mp left
    cases (rfl : (around "5").broken? "id.json" text = none).symm.trans broke
  · refine (serializes _ _ _).fails fun success => ?_
    obtain ⟨text, _, takes⟩ := (serializes _ _ _).code_eq_zero_iff.mp success
    cases (takes "full.json" rfl).2
  · exact (serializes _ _ _).left_eq_some_iff.mpr ⟨rfl, rfl, _, yields, rfl⟩
  · exact ((prints _ _).prints supplies rfl).trans (by decide)
  · refine (prints _ _).fails fun success => ?_
    obtain ⟨scalar, _, _, supplied, _⟩ := (prints _ _).code_eq_zero_iff.mp success
    cases (rfl : Registry.standard.get? "Id" = none).symm.trans supplied.scalar

end SpatialQuery.CommandLine
