import TypeSchema.Command.Program
import TypeSchema.Proofs.Json.Reading
import TypeSchema.Proofs.Schema.Alternatives
import TypeSchema.Proofs.Schema.RoundTrip

/-!
# Compiled forms on paper

What is printed for a schema text is one document, and the same one in both layouts.  Reading
it and decoding what has been read gives the schema of the text again.  A text that is not a
schema leaves nothing on the standard output.
-/

namespace TypeSchema

namespace Schema

mutual

/-- No object in the document repeats a key, and there are no doubles in it. -/
theorem toJson_distinct_integral (schema : Schema) :
    schema.toJson.DistinctKeys ∧ schema.toJson.Integral := by
  cases schema with
  | basic type name =>
      simp [toJson, Json.DistinctKeys, Json.DistinctKeysMembers, Json.Integral,
        Json.IntegralMembers, Json.Entries.Distinct, Json.Entries.keys]
  | array type name =>
      simp [toJson, Json.DistinctKeys, Json.DistinctKeysMembers, Json.Integral,
        Json.IntegralMembers, Json.Entries.Distinct, Json.Entries.keys]
  | union members name =>
      obtain ⟨membersDistinct, membersIntegral⟩ := toJsonAll_distinct_integral members
      simp [toJson, Json.DistinctKeys, Json.DistinctKeysMembers, Json.Integral,
        Json.IntegralMembers, Json.Entries.Distinct, Json.Entries.keys, membersDistinct,
        membersIntegral]

theorem toJsonAll_distinct_integral (schemas : List Schema) :
    Json.DistinctKeysAll (toJsonAll schemas) ∧ Json.IntegralAll (toJsonAll schemas) := by
  cases schemas with
  | nil => exact ⟨trivial, trivial⟩
  | cons schema rest =>
      obtain ⟨firstDistinct, firstIntegral⟩ := toJson_distinct_integral schema
      obtain ⟨restDistinct, restIntegral⟩ := toJsonAll_distinct_integral rest
      exact ⟨⟨firstDistinct, restDistinct⟩, firstIntegral, restIntegral⟩

end

variable {registry : Registry}

theorem RegisteredLeaf.depth_toJson {schema : Schema} (leaf : RegisteredLeaf registry schema) :
    schema.toJson.depth = 1 := by
  cases leaf <;> rfl

theorem depthAll_toJsonAll_le {terms : List (List Char)} {members : List Schema}
    (readAll : List.Forall₂ (fun term member => readTerm registry term = .ok member)
      terms members) : Json.depthAll (toJsonAll members) ≤ 1 := by
  induction readAll with
  | nil => exact Nat.zero_le 1
  | cons read rest ih =>
      rw [toJsonAll, Json.depthAll, (registeredLeaf_of_readTerm read).depth_toJson]
      exact Nat.max_le.mpr ⟨le_refl 1, ih⟩

theorem depth_toJson_union (members : List Schema) (name : String) :
    (union members name).toJson.depth = Json.depthAll (toJsonAll members) + 2 := by
  simp [toJson, Json.depth, Json.depthMembers]

theorem depth_toJson_of_parse {text : String} {schema : Schema}
    (parsed : parse registry text = .ok schema) : schema.toJson.depth ≤ 3 := by
  obtain ⟨members, readAll, rfl⟩ := parse_eq_ok_iff.mp parsed
  have shallow := depthAll_toJsonAll_le readAll
  -- A text nests unions in no other way than a single one around its leaves.
  match members with
  | [] =>
      rw [ofParts, ofMembers, depth_toJson_union]
      · exact Nat.add_le_add_right shallow 2
      · simp
  | [member] =>
      rw [toJsonAll, Json.depthAll] at shallow
      exact (Nat.le_max_left _ _).trans (shallow.trans (by decide))
  | first :: second :: others =>
      rw [ofParts, ofMembers, depth_toJson_union]
      · exact Nat.add_le_add_right shallow 2
      · simp

end Schema

namespace Command

theorem run_parse_of_ok {text : String} {schema : Schema}
    (parsed : Schema.parse .builtIn text = .ok schema) (pretty : Bool) (content : Content) :
    (Request.parse text pretty).run content =
      .success (if pretty then schema.toJson.indented else schema.toJson.compact) := by
  rw [Request.run, compile, parsed]

theorem run_parse_of_error {text : String} {error : SchemaError}
    (failed : Schema.parse .builtIn text = .error error) (pretty : Bool) (content : Content) :
    (Request.parse text pretty).run content =
      ⟨2, "", "Error [" ++ error.code ++ "]: " ++ error.message ++ "\n"⟩ := by
  rw [Request.run, compile, failed]
  rfl

theorem read_output_of_parse {text : String} {schema : Schema}
    (parsed : Schema.parse .builtIn text = .ok schema) (pretty : Bool) (content : Content) :
    Json.read ((Request.parse text pretty).run content).output = .ok schema.toJson := by
  obtain ⟨distinct, integral⟩ := schema.toJson_distinct_integral
  have shallow : schema.toJson.depth ≤ Json.maxDepth :=
    (Schema.depth_toJson_of_parse parsed).trans (by decide)
  rw [run_parse_of_ok parsed]
  cases pretty with
  | true => exact Json.read_indented_line distinct integral shallow
  | false => exact Json.read_compact_line distinct integral shallow

/-- Every text can be asked for, in both layouts: as it is where it does not look like an
option, and behind two dashes in any case. -/
theorem ofArguments?_parse (text : String) :
    (Token.of text = .plain →
      Request.ofArguments? ["parse", text] = some (.parse text false) ∧
      Request.ofArguments? ["parse", "--pretty", text] = some (.parse text true)) ∧
    Request.ofArguments? ["parse", "--", text] = some (.parse text false) ∧
    Request.ofArguments? ["parse", "--pretty", "--", text] = some (.parse text true) := by
  refine ⟨?_, rfl, rfl⟩
  intro plain
  constructor
  · simp [Request.ofArguments?, requestOf?, sort?, plain, Sorted.addPlain?, parseShape,
      Slot.takes, parseRequest?, Sorted.hasFlag]
  · have flag : Token.of "--pretty" = .long "pretty" none := by decide
    simp [Request.ofArguments?, requestOf?, sort?, plain, flag, longEffect?, Sorted.addFlag?,
      Sorted.addPlain?, parseShape, Slot.takes, parseRequest?, Sorted.hasFlag]

/-- A text can be asked for in both layouts.  The run succeeds exactly if the text is a
schema, and otherwise fails with nothing printed.  If it is one, both layouts are texts of
the same document, and decoding this document gives the schema of the text. -/
theorem compile_prints_document (text : String) (content : Content) :
    ((Token.of text = .plain →
      Request.ofArguments? ["parse", text] = some (.parse text false) ∧
      Request.ofArguments? ["parse", "--pretty", text] = some (.parse text true)) ∧
    Request.ofArguments? ["parse", "--", text] = some (.parse text false) ∧
    Request.ofArguments? ["parse", "--pretty", "--", text] = some (.parse text true)) ∧
    (∀ pretty,
      (((Request.parse text pretty).run content).status = 0 ↔
        ∃ schema, Schema.parse .builtIn text = .ok schema) ∧
      ((¬ ∃ schema, Schema.parse .builtIn text = .ok schema) →
        ((Request.parse text pretty).run content).status = 2 ∧
        ((Request.parse text pretty).run content).output = "")) ∧
    ∀ schema, Schema.parse .builtIn text = .ok schema →
      ∃ document, Schema.ofJson document = .ok schema ∧
        ∀ pretty,
          Json.read ((Request.parse text pretty).run content).output = .ok document := by
  refine ⟨ofArguments?_parse text, ?_, ?_⟩
  · intro pretty
    cases result : Schema.parse .builtIn text with
    | error error => simp [run_parse_of_error result]
    | ok schema => simp [run_parse_of_ok result, Report.success]
  · intro schema parsed
    exact ⟨schema.toJson, schema.ofJson_toJson,
      fun pretty => read_output_of_parse parsed pretty content⟩

end Command

end TypeSchema
