import TypeSchema.Proofs.Outcome
import TypeSchema.Proofs.Schema.Nodes
import TypeSchema.Schema.Compiled

/-!
# Which documents are compiled forms

Looking at the tags finds the first node, in the order of `nodes`, whose tag is missing or
unknown.  Where every tag is known, decoding succeeds on the documents that describe a
schema, with the schema that they describe, and on no others.
-/

namespace TypeSchema.Schema

/-- The complaint about the tag of a node, if there is one. -/
def tagFault? (node : Json) : Option SchemaError :=
  match tagOf node with
  | .ok _ => none
  | .error fault => some fault

/-- What is wrong with the tag of a node that has no known one, in words. -/
def tagDetail (node : Json) : String :=
  match textAt? "schemaType" node with
  | none => "missing schemaType"
  | some tag => "unknown schema type \"" ++ tag ++ "\""

theorem tagOf_eq (node : Json) :
    tagOf node =
      match textAt? "schemaType" node with
      | none => .error .noTag
      | some name =>
          match Tag.ofName? name with
          | some tag => .ok tag
          | none => .error (.unknownTag name) :=
  rfl

/-- The name of a tag. -/
def Tag.text : Tag → String
  | .basic => "basic"
  | .array => "array"
  | .union => "union"

theorem ofName?_eq_some_iff {name : String} {tag : Tag} :
    Tag.ofName? name = some tag ↔ name = tag.text := by
  constructor
  · intro found
    unfold Tag.ofName? at found
    split at found
    · cases found
      assumption
    · split at found
      · cases found
        assumption
      · split at found
        · cases found
          assumption
        · cases found
  · rintro rfl
    cases tag <;> rfl

theorem tagOf_eq_ok_iff {node : Json} {tag : Tag} :
    tagOf node = .ok tag ↔ textAt? "schemaType" node = some tag.text := by
  rw [tagOf_eq]
  cases textAt? "schemaType" node with
  | none => simp
  | some name =>
      rw [Option.some.injEq, ← ofName?_eq_some_iff]
      dsimp only
      cases Tag.ofName? name <;> simp

theorem hasTag_iff {node : Json} : HasTag node ↔ ∃ tag, tagOf node = .ok tag := by
  simp only [tagOf_eq_ok_iff]
  constructor
  · intro tagged
    rcases tagged.cases with tag | tag | tag
    · exact ⟨.basic, tag⟩
    · exact ⟨.array, tag⟩
    · exact ⟨.union, tag⟩
  · rintro ⟨tag, found⟩
    exact ⟨tag.text, by cases tag <;> simp [knownTags, Tag.text], found⟩

theorem tagFault?_eq_none_iff {node : Json} : tagFault? node = none ↔ HasTag node := by
  rw [tagFault?, hasTag_iff]
  cases tagOf node <;> simp

theorem message_noTag :
    SchemaError.noTag.message = "invalid schema type: " ++ "missing schemaType" := by
  calc
    SchemaError.noTag.message = "invalid schema type: missing schemaType" := rfl
    _ = _ := by simp

theorem message_unknownTag (tag : String) :
    (SchemaError.unknownTag tag).message =
      "invalid schema type: " ++ ("unknown schema type \"" ++ tag ++ "\"") := by
  calc
    (SchemaError.unknownTag tag).message =
        "invalid schema type: unknown schema type \"" ++ tag ++ "\"" := rfl
    _ = _ := by simp [← String.append_assoc]

/-- A complaint about a tag has the code and the wording of one. -/
theorem code_message_of_tagFault? {node : Json} {fault : SchemaError}
    (faulty : tagFault? node = some fault) :
    fault.code = "INTERNAL_ERROR_INVALID_SCHEMA" ∧
      fault.message = "invalid schema type: " ++ tagDetail node := by
  rw [tagFault?, tagOf_eq] at faulty
  rw [tagDetail]
  cases found : textAt? "schemaType" node with
  | none =>
      obtain rfl : SchemaError.noTag = fault := by simpa [found] using faulty
      exact ⟨rfl, message_noTag⟩
  | some name =>
      cases known : Tag.ofName? name with
      | none =>
          obtain rfl : SchemaError.unknownTag name = fault := by
            simpa [found, known] using faulty
          exact ⟨rfl, message_unknownTag name⟩
      | some tag => simp [found, known] at faulty

theorem checkMemberTags_eq (members : List (String × Json)) :
    checkMemberTags members =
      checkAllTags ((listAt? "subSchemas" (.object members)).getD []) := by
  induction members with
  | nil => rfl
  | cons member rest ih =>
      obtain ⟨key, value⟩ := member
      by_cases same : key = "subSchemas"
      · cases value <;>
          simp [checkMemberTags, same, listAt?, Json.member?, Json.Entries.get?,
            Json.elements?, checkAllTags]
      · have skipped : listAt? "subSchemas" (.object ((key, value) :: rest)) =
            listAt? "subSchemas" (.object rest) := by
          simp [listAt?, Json.member?, Json.Entries.get?, same]
        rw [skipped, ← ih]
        cases value <;> simp [checkMemberTags, same]

/-- To look at the tags is to look at that of the node and then at those below it. -/
theorem checkTags_eq_bind (node : Json) :
    checkTags node = tagOf node >>= fun _ => checkAllTags (subNodes node) := by
  cases node with
  | object members =>
      rw [checkTags]
      cases found : tagOf (.object members) with
      | error fault => rfl
      | ok tag =>
          have tagText := tagOf_eq_ok_iff.mp found
          cases tag with
          | basic =>
              rw [subNodes_of_not_union (by simp [tagText, Tag.text])]
              rfl
          | array =>
              rw [subNodes_of_not_union (by simp [tagText, Tag.text])]
              rfl
          | union =>
              rw [subNodes, if_pos (show _ = some "union" from tagText), ← checkMemberTags_eq]
              rfl
  | _ => rfl

theorem checkAllTags_cons (node : Json) (rest : List Json) :
    checkAllTags (node :: rest) = checkTags node >>= fun _ => checkAllTags rest := by
  rw [checkAllTags]

/-- Looking at the tags finds the first node whose tag is missing or unknown. -/
theorem checkTags_eq_findSome? (node : Json) :
    checkTags node =
      match (nodes node).findSome? tagFault? with
      | some fault => .error fault
      | none => .ok () := by
  induction node using node_induction with
  | step node ih =>
      have below : ∀ subs : List Json,
          (∀ sub ∈ subs, checkTags sub =
            match (nodes sub).findSome? tagFault? with
            | some fault => .error fault
            | none => .ok ()) →
          checkAllTags subs =
            match (subs.flatMap nodes).findSome? tagFault? with
            | some fault => .error fault
            | none => .ok () := by
        intro subs
        induction subs with
        | nil => intro _; rfl
        | cons sub rest restIh =>
            intro each
            rw [checkAllTags_cons, each sub List.mem_cons_self, List.flatMap_cons,
              List.findSome?_append,
              restIh fun later member => each later (List.mem_cons_of_mem _ member)]
            cases (nodes sub).findSome? tagFault? <;> rfl
      rw [checkTags_eq_bind, below _ ih, nodes_eq, List.findSome?_cons, tagFault?]
      cases tagOf node <;> rfl

theorem decodeString_eq_ok_iff {value : Json} {text : String} :
    Json.decodeString value = .ok text ↔ value.text? = some text := by
  cases value <;> simp [Json.decodeString, Json.text?]

/-- A leaf node as decoding leaves it after some of its members. -/
def finishLeaf (typeKey : String) (build : String → String → Schema) (draft : LeafDraft) :
    Json.Decoded Schema := do
  return build (← required typeKey draft.type) (← required "schemaName" draft.name)

theorem finishLeaf_eq_ok_iff {typeKey : String} {build : String → String → Schema}
    {draft : LeafDraft} {schema : Schema} :
    finishLeaf typeKey build draft = .ok schema ↔
      ∃ type name, draft.type = some type ∧ draft.name = some name ∧
        build type name = schema := by
  obtain ⟨type, name⟩ := draft
  cases type <;> cases name <;>
    simp [finishLeaf, required, bind, Except.bind, pure, Except.pure]

private theorem decodeLeaf_from {typeKey : String} {build : String → String → Schema}
    (apart : typeKey ≠ "schemaName") {members : List (String × Json)} {draft : LeafDraft}
    {schema : Schema} :
    members.foldlM (LeafDraft.read typeKey) draft >>= finishLeaf typeKey build =
        .ok schema ↔
      ∃ type name, draft.type.or (textAt? typeKey (.object members)) = some type ∧
        draft.name.or (textAt? "schemaName" (.object members)) = some name ∧
        build type name = schema := by
  induction members generalizing draft with
  | nil =>
      have noText : ∀ key, textAt? key (.object []) = none := fun key => rfl
      simp only [noText, Option.or_none]
      exact finishLeaf_eq_ok_iff
  | cons member rest ih =>
      obtain ⟨key, value⟩ := member
      obtain ⟨type, name⟩ := draft
      rw [List.foldlM_cons, bind_assoc, Except.bind_eq_ok_iff]
      simp only [ih, textAt?_cons, LeafDraft.read]
      -- A key settles what is read under it once; later members with the key are ignored.
      by_cases isType : key = typeKey
      · subst isType
        cases type with
        | none =>
            cases value <;>
              simp [apart, Json.decodeString, Json.text?, bind, Except.bind, pure, Except.pure]
        | some known => simp [apart, pure, Except.pure]
      · by_cases isName : key = "schemaName"
        · subst isName
          cases name with
          | none =>
              cases value <;>
                simp [isType, Json.decodeString, Json.text?, bind, Except.bind, pure,
                  Except.pure]
          | some known => simp [isType, pure, Except.pure]
        · simp [isType, isName, pure, Except.pure]

theorem decodeLeaf_eq_ok_iff {typeKey : String} {build : String → String → Schema}
    (apart : typeKey ≠ "schemaName") {members : List (String × Json)} {schema : Schema} :
    decodeLeaf typeKey build members = .ok schema ↔
      ∃ type name, textAt? typeKey (.object members) = some type ∧
        textAt? "schemaName" (.object members) = some name ∧ build type name = schema := by
  have unfolded : decodeLeaf typeKey build members =
      members.foldlM (LeafDraft.read typeKey) ⟨none, none⟩ >>= finishLeaf typeKey build := rfl
  rw [unfolded, decodeLeaf_from apart]
  simp only [Option.none_or]

theorem decodeUnion_skip {key : String} {value : Json} {rest : List (String × Json)}
    {schemas : Option (List Schema)} {name : Option String}
    (notList : key = "subSchemas" → schemas ≠ none)
    (notName : key = "schemaName" → name ≠ none) :
    decodeUnion ((key, value) :: rest) schemas name = decodeUnion rest schemas name := by
  have noList : ¬ (key = "subSchemas" ∧ schemas.isNone = true) := by
    simpa [Option.isNone_iff_eq_none] using notList
  have noName : ¬ (key = "schemaName" ∧ name.isNone = true) := by
    simpa [Option.isNone_iff_eq_none] using notName
  cases value <;> rw [decodeUnion, if_neg noList, if_neg noName] <;> simp

theorem decodeUnion_list {value : Json} {rest : List (String × Json)} {name : Option String} :
    decodeUnion (("subSchemas", value) :: rest) none name =
      match value.elements? with
      | some inner => do
          let schemas ← decodeNodes inner
          decodeUnion rest (some schemas) name
      | none => .error (.wrongKind value .sequence) := by
  cases value <;> simp [decodeUnion, Json.elements?]

theorem decodeUnion_name {value : Json} {rest : List (String × Json)}
    {schemas : Option (List Schema)} :
    decodeUnion (("schemaName", value) :: rest) schemas none =
      Json.decodeString value >>= fun name => decodeUnion rest schemas (some name) := by
  cases value <;> simp [decodeUnion]

private theorem decodeUnion_from {members : List (String × Json)}
    {schemas : Option (List Schema)} {name : Option String} {schema : Schema} :
    decodeUnion members schemas name = .ok schema ↔
      ∃ all text,
        (schemas = some all ∨ schemas = none ∧ ∃ inner,
          listAt? "subSchemas" (.object members) = some inner ∧ decodeNodes inner = .ok all) ∧
        name.or (textAt? "schemaName" (.object members)) = some text ∧
        .union all text = schema := by
  induction members generalizing schemas name with
  | nil =>
      have noList : listAt? "subSchemas" (.object []) = none := rfl
      have noText : textAt? "schemaName" (.object []) = none := rfl
      cases schemas <;> cases name <;>
        simp [decodeUnion, required, noList, noText, bind, Except.bind, pure, Except.pure]
  | cons member rest ih =>
      obtain ⟨key, value⟩ := member
      rw [textAt?_cons, listAt?_cons]
      by_cases isList : key = "subSchemas"
      · subst isList
        cases schemas with
        | none =>
            rw [decodeUnion_list]
            cases value.elements? with
            | none => simp
            | some inner => simp [Except.bind_eq_ok_iff, ih]
        | some known => simp [decodeUnion_skip, ih]
      · by_cases isName : key = "schemaName"
        · subst isName
          cases name with
          | none =>
              rw [decodeUnion_name, Except.bind_eq_ok_iff]
              simp only [decodeString_eq_ok_iff, ih, if_true, Option.none_or, Option.some_or,
                Option.some.injEq, if_neg isList]
              constructor
              · rintro ⟨text, hasText, all, _, listed, rfl, built⟩
                exact ⟨all, text, listed, hasText, built⟩
              · rintro ⟨all, text, listed, hasText, built⟩
                exact ⟨text, hasText, all, text, listed, rfl, built⟩
          | some known => simp [decodeUnion_skip, ih]
        · simp [decodeUnion_skip, ih, isList, isName]

theorem decodeUnion_eq_ok_iff {members : List (String × Json)} {schema : Schema} :
    decodeUnion members none none = .ok schema ↔
      ∃ inner all name, listAt? "subSchemas" (.object members) = some inner ∧
        decodeNodes inner = .ok all ∧
        textAt? "schemaName" (.object members) = some name ∧ .union all name = schema := by
  rw [decodeUnion_from]
  constructor
  · rintro ⟨all, name, known | ⟨-, inner, listed, decoded⟩, hasName, built⟩
    · cases known
    · exact ⟨inner, all, name, listed, decoded, hasName, built⟩
  · rintro ⟨inner, all, name, listed, decoded, hasName, built⟩
    exact ⟨all, name, .inr ⟨rfl, inner, listed, decoded⟩, hasName, built⟩

theorem decodeNodes_eq_ok_iff {inner : List Json} {all : List Schema} :
    decodeNodes inner = .ok all ↔
      List.Forall₂ (fun node schema => decodeNode node = .ok schema) inner all := by
  induction inner generalizing all with
  | nil => simp [decodeNodes, eq_comm]
  | cons node rest ih =>
      rw [decodeNodes, List.forall₂_cons_left_iff, Except.bind_eq_ok_iff]
      simp only [Except.bind_eq_ok_iff, ih]
      constructor
      · rintro ⟨schema, decoded, others, decodedRest, built⟩
        exact ⟨schema, others, decoded, decodedRest, (Except.ok.inj built).symm⟩
      · rintro ⟨schema, others, decoded, decodedRest, rfl⟩
        exact ⟨schema, decoded, others, decodedRest, rfl⟩

/-- Decoding yields the schema that the node describes, and fails where it describes none. -/
theorem decodeNode_eq_ok_iff {node : Json} {schema : Schema} :
    decodeNode node = .ok schema ↔ Describes node schema := by
  induction node using node_induction generalizing schema with
  | step node ih =>
      cases found : tagOf node with
      | error fault =>
          constructor
          · intro decoded
            cases node <;> simp [decodeNode, found] at decoded
          · intro describes
            obtain ⟨tag, known⟩ := hasTag_iff.mp describes.hasTag
            simp [found] at known
      | ok tag =>
          cases node with
          | object members =>
              have tagText := tagOf_eq_ok_iff.mp found
              rw [decodeNode, found]
              cases tag with
              | basic => rw [describes_basic_iff tagText, decodeLeaf_eq_ok_iff (by decide)]
              | array => rw [describes_array_iff tagText, decodeLeaf_eq_ok_iff (by decide)]
              | union =>
                  rw [describes_union_iff tagText, decodeUnion_eq_ok_iff]
                  refine exists_congr fun inner => exists_congr fun all =>
                    exists_congr fun name => and_congr_right fun listed =>
                      and_congr_left fun _ => ?_
                  rw [subNodes_of_union tagText listed] at ih
                  rw [decodeNodes_eq_ok_iff]
                  exact List.forall₂_congr_of_mem fun sub member image => ih sub member
          | _ => cases found

end TypeSchema.Schema
