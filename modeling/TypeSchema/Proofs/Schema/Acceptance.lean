import Mathlib.Logic.Relation
import TypeSchema.Proofs.Schema.Decoding

/-!
# What reading a compiled form results in

A document whose tags are not all known is reported for the first of them, whatever else is
wrong with it.  With all tags known it is reported as malformed or read, as its nodes have
the members that they need or not.  `Extends` adds a member to a node that does not need it;
what comes of reading stays the same, the report of a mistake included.
-/

namespace TypeSchema.Schema

/-- The keys under which a node with the tag is read, its tag apart. -/
def Tag.keys : Tag → List String
  | .basic => ["type", "schemaName"]
  | .array => ["elementType", "schemaName"]
  | .union => ["subSchemas", "schemaName"]

/-- Nothing is read under the key in a node. -/
def Ignores (node : Json) (key : String) : Prop :=
  key ≠ "schemaType" ∧
    ∀ tag : Tag, textAt? "schemaType" node = some tag.text → key ∉ tag.keys

/-- The second document is the first one with one more member, which the node that it is
added to ignores. -/
inductive Extends : Json → Json → Prop where
  | here {before after : List (String × Json)} {key : String} {value : Json} :
      Ignores (.object (before ++ after)) key →
      Extends (.object (before ++ after)) (.object (before ++ (key, value) :: after))
  | inside {before after : List (String × Json)} {left right : List Json}
      {inner wider : Json} :
      Extends inner wider →
      Extends (.object (before ++ ("subSchemas", .array (left ++ inner :: right)) :: after))
        (.object (before ++ ("subSchemas", .array (left ++ wider :: right)) :: after))

/-- Two ends of a list of members are the same to a node with the tag. -/
def ReadAlike (left right : List (String × Json)) : Tag → Prop
  | .basic => ∀ draft,
      left.foldlM (LeafDraft.read "type") draft = right.foldlM (LeafDraft.read "type") draft
  | .array => ∀ draft,
      left.foldlM (LeafDraft.read "elementType") draft =
        right.foldlM (LeafDraft.read "elementType") draft
  | .union => checkMemberTags left = checkMemberTags right ∧
      ∀ schemas name, decodeUnion left schemas name = decodeUnion right schemas name

theorem read_skip {typeKey key : String} {value : Json} {draft : LeafDraft}
    (notType : key ≠ typeKey) (notName : key ≠ "schemaName") :
    LeafDraft.read typeKey draft (key, value) = .ok draft := by
  simp [LeafDraft.read, notType, notName, pure, Except.pure]

theorem foldlM_read_skip {typeKey key : String} {value : Json}
    {rest : List (String × Json)} {draft : LeafDraft}
    (notType : key ≠ typeKey) (notName : key ≠ "schemaName") :
    ((key, value) :: rest).foldlM (LeafDraft.read typeKey) draft =
      rest.foldlM (LeafDraft.read typeKey) draft := by
  rw [List.foldlM_cons, read_skip notType notName]
  rfl

theorem checkMemberTags_skip {key : String} {value : Json} {rest : List (String × Json)}
    (notList : key ≠ "subSchemas") :
    checkMemberTags ((key, value) :: rest) = checkMemberTags rest := by
  cases value <;> simp [checkMemberTags, notList]

/-- A member that the node ignores makes no difference. -/
theorem readAlike_skip {tag : Tag} {key : String} {value : Json}
    {rest : List (String × Json)} (ignored : key ∉ tag.keys) :
    ReadAlike ((key, value) :: rest) rest tag := by
  cases tag <;> simp only [Tag.keys, List.mem_cons, List.not_mem_nil, or_false, not_or] at ignored
  case basic => exact fun draft => foldlM_read_skip ignored.1 ignored.2
  case array => exact fun draft => foldlM_read_skip ignored.1 ignored.2
  case union =>
      refine ⟨checkMemberTags_skip ignored.1, fun schemas name => ?_⟩
      exact decodeUnion_skip (fun same => absurd same ignored.1)
        (fun same => absurd same ignored.2)

/-- Lists of nodes that are read alike make no difference to the node that has them. -/
theorem readAlike_nodes {tag : Tag} {left right : List Json} {rest : List (String × Json)}
    (sameTags : checkAllTags left = checkAllTags right)
    (sameSchemas : decodeNodes left = decodeNodes right) :
    ReadAlike (("subSchemas", .array left) :: rest) (("subSchemas", .array right) :: rest)
      tag := by
  cases tag with
  | basic =>
      intro draft
      rw [foldlM_read_skip (by decide) (by decide), foldlM_read_skip (by decide) (by decide)]
  | array =>
      intro draft
      rw [foldlM_read_skip (by decide) (by decide), foldlM_read_skip (by decide) (by decide)]
  | union =>
      refine ⟨?_, fun schemas name => ?_⟩
      · simp only [checkMemberTags, if_true]
        exact sameTags
      · cases schemas with
        | none =>
            rw [decodeUnion_list, decodeUnion_list]
            simp only [Json.elements?, sameSchemas]
        | some known =>
            rw [decodeUnion_skip (by simp) (by simp [show "subSchemas" ≠ "schemaName" by decide]),
              decodeUnion_skip (by simp) (by simp [show "subSchemas" ≠ "schemaName" by decide])]

theorem textAt?_append_congr {key : String} {before left right : List (String × Json)}
    (same : textAt? key (.object left) = textAt? key (.object right)) :
    textAt? key (.object (before ++ left)) = textAt? key (.object (before ++ right)) := by
  induction before with
  | nil => exact same
  | cons member rest ih => rw [List.cons_append, List.cons_append, textAt?_cons, textAt?_cons, ih]

theorem checkMemberTags_append_congr {before left right : List (String × Json)}
    (same : checkMemberTags left = checkMemberTags right) :
    checkMemberTags (before ++ left) = checkMemberTags (before ++ right) := by
  induction before with
  | nil => exact same
  | cons member rest ih =>
      obtain ⟨key, value⟩ := member
      cases value <;> simp only [List.cons_append, checkMemberTags, ih]

theorem decodeLeaf_append_congr {typeKey : String} {build : String → String → Schema}
    {before left right : List (String × Json)}
    (same : ∀ draft, left.foldlM (LeafDraft.read typeKey) draft =
      right.foldlM (LeafDraft.read typeKey) draft) :
    decodeLeaf typeKey build (before ++ left) = decodeLeaf typeKey build (before ++ right) := by
  have sameDraft : ∀ draft, (before ++ left).foldlM (LeafDraft.read typeKey) draft =
      (before ++ right).foldlM (LeafDraft.read typeKey) draft := by
    intro draft
    rw [List.foldlM_append, List.foldlM_append]
    simp only [same]
  rw [decodeLeaf, decodeLeaf, sameDraft]

theorem decodeUnion_append_congr {before left right : List (String × Json)}
    {schemas : Option (List Schema)} {name : Option String}
    (same : ∀ schemas name, decodeUnion left schemas name = decodeUnion right schemas name) :
    decodeUnion (before ++ left) schemas name = decodeUnion (before ++ right) schemas name := by
  induction before generalizing schemas name with
  | nil => exact same schemas name
  | cons member rest ih =>
      obtain ⟨key, value⟩ := member
      cases value <;> simp only [List.cons_append, decodeUnion, ih]

/-- Objects with one tag whose members end alike for it are read alike. -/
theorem read_object_congr {before left right : List (String × Json)}
    (sameTag : textAt? "schemaType" (.object left) = textAt? "schemaType" (.object right))
    (alike : ∀ tag : Tag, textAt? "schemaType" (.object (before ++ right)) = some tag.text →
      ReadAlike left right tag) :
    checkTags (.object (before ++ left)) = checkTags (.object (before ++ right)) ∧
      decodeNode (.object (before ++ left)) = decodeNode (.object (before ++ right)) := by
  have tags : tagOf (.object (before ++ left)) = tagOf (.object (before ++ right)) := by
    rw [tagOf_eq, tagOf_eq, textAt?_append_congr sameTag]
  rw [checkTags, checkTags, decodeNode, decodeNode, tags]
  cases found : tagOf (.object (before ++ right)) with
  | error fault => exact ⟨rfl, rfl⟩
  | ok tag =>
      have ends := alike tag (tagOf_eq_ok_iff.mp found)
      cases tag with
      | basic => exact ⟨rfl, decodeLeaf_append_congr ends⟩
      | array => exact ⟨rfl, decodeLeaf_append_congr ends⟩
      | union => exact ⟨checkMemberTags_append_congr ends.1, decodeUnion_append_congr ends.2⟩

theorem checkAllTags_middle_congr {left right : List Json} {inner wider : Json}
    (same : checkTags wider = checkTags inner) :
    checkAllTags (left ++ wider :: right) = checkAllTags (left ++ inner :: right) := by
  induction left with
  | nil => rw [List.nil_append, List.nil_append, checkAllTags_cons, checkAllTags_cons, same]
  | cons node rest ih =>
      rw [List.cons_append, List.cons_append, checkAllTags_cons, checkAllTags_cons, ih]

theorem decodeNodes_middle_congr {left right : List Json} {inner wider : Json}
    (same : decodeNode wider = decodeNode inner) :
    decodeNodes (left ++ wider :: right) = decodeNodes (left ++ inner :: right) := by
  induction left with
  | nil => rw [List.nil_append, List.nil_append, decodeNodes, decodeNodes, same]
  | cons node rest ih => rw [List.cons_append, List.cons_append, decodeNodes, decodeNodes, ih]

/-- Neither pass over a document sees a member that a node of it ignores. -/
theorem Extends.read_eq {node wider : Json} (extended : Extends node wider) :
    checkTags wider = checkTags node ∧ decodeNode wider = decodeNode node := by
  induction extended with
  | @here before after key value ignored =>
      apply read_object_congr
      · rw [textAt?_cons, if_neg ignored.1]
      · intro tag tagged
        exact readAlike_skip (ignored.2 tag tagged)
  | @inside before after left right inner wider _ ih =>
      apply read_object_congr
      · rw [textAt?_cons, textAt?_cons, if_neg (by decide), if_neg (by decide)]
      · intro tag _
        exact readAlike_nodes (checkAllTags_middle_congr ih.1) (decodeNodes_middle_congr ih.2)

theorem Extends.ofJson_eq {node wider : Json} (extended : Extends node wider) :
    ofJson wider = ofJson node := by
  rw [ofJson, ofJson, extended.read_eq.1, extended.read_eq.2]

theorem ofJson_eq_of_extends {node wider : Json}
    (extended : Relation.ReflTransGen Extends node wider) : ofJson wider = ofJson node := by
  induction extended with
  | refl => rfl
  | tail _ last ih => exact last.ofJson_eq.trans ih

/-- The first node without a known tag is the one reported. -/
theorem ofJson_of_untagged {node : Json} (untagged : ∃ inner ∈ nodes node, ¬ HasTag inner) :
    ∃ earlier inner later fault, nodes node = earlier ++ inner :: later ∧
      (∀ other ∈ earlier, HasTag other) ∧ ofJson node = .error fault ∧
      tagFault? inner = some fault := by
  have faulty : (nodes node).findSome? tagFault? ≠ none := by
    obtain ⟨inner, member, noTag⟩ := untagged
    intro noFault
    exact noTag (tagFault?_eq_none_iff.mp (List.findSome?_eq_none_iff.mp noFault inner member))
  obtain ⟨fault, found⟩ := Option.ne_none_iff_exists'.mp faulty
  obtain ⟨earlier, inner, later, split, foundAt, noneEarlier⟩ :=
    List.findSome?_eq_some_iff.mp found
  refine ⟨earlier, inner, later, fault, split, ?_, ?_, foundAt⟩
  · intro other member
    exact tagFault?_eq_none_iff.mp (noneEarlier other member)
  · rw [ofJson, checkTags_eq_findSome?, found]
    rfl

/-- With all tags known, reading is decoding. -/
theorem ofJson_of_tagged {node : Json} (tagged : ∀ inner ∈ nodes node, HasTag inner) :
    ofJson node = (decodeNode node).mapError .malformed := by
  have noFault : (nodes node).findSome? tagFault? = none :=
    List.findSome?_eq_none_iff.mpr fun inner member =>
      tagFault?_eq_none_iff.mpr (tagged inner member)
  rw [ofJson, checkTags_eq_findSome?, noFault]
  rfl

theorem ofJson_of_incomplete {node : Json} (tagged : ∀ inner ∈ nodes node, HasTag inner)
    (incomplete : ∃ inner ∈ nodes node, Incomplete inner) :
    ∃ cause, ofJson node = .error (.malformed cause) := by
  rw [ofJson_of_tagged tagged]
  cases decoded : decodeNode node with
  | error cause => exact ⟨cause, rfl⟩
  | ok schema =>
      obtain ⟨inner, member, lacking⟩ := incomplete
      have complete := exists_describes_iff.mp ⟨schema, decodeNode_eq_ok_iff.mp decoded⟩
      exact absurd lacking (complete inner member).2

theorem ofJson_of_complete {node : Json}
    (complete : ∀ inner ∈ nodes node, HasTag inner ∧ ¬ Incomplete inner) :
    ∃ schema, ofJson node = .ok schema ∧ Describes node schema := by
  obtain ⟨schema, describes⟩ := exists_describes_iff.mpr complete
  refine ⟨schema, ?_, describes⟩
  rw [ofJson_of_tagged fun inner member => (complete inner member).1,
    decodeNode_eq_ok_iff.mpr describes]
  rfl

/-- Reading a document reports the first node without a known tag, else that some node lacks
a member, and else yields the schema that the document mirrors.  Members that a node does not
need change none of this. -/
theorem ofJson_outcome (node : Json) :
    ((∃ inner ∈ nodes node, ¬ HasTag inner) →
      ∃ earlier inner later fault, nodes node = earlier ++ inner :: later ∧
        (∀ other ∈ earlier, HasTag other) ∧ ¬ HasTag inner ∧ ofJson node = .error fault ∧
        fault.code = "INTERNAL_ERROR_INVALID_SCHEMA" ∧
        fault.message = "invalid schema type: " ++ tagDetail inner) ∧
    ((∀ inner ∈ nodes node, HasTag inner) → (∃ inner ∈ nodes node, Incomplete inner) →
      ∃ cause, ofJson node = .error (.malformed cause) ∧
        (SchemaError.malformed cause).code = "INVALID_SCHEMA") ∧
    ((∀ inner ∈ nodes node, HasTag inner ∧ ¬ Incomplete inner) →
      ∃ schema, ofJson node = .ok schema ∧ Describes node schema) ∧
    ∀ wider, Relation.ReflTransGen Extends node wider → ofJson wider = ofJson node := by
  refine ⟨?_, ?_, ofJson_of_complete, fun wider => ofJson_eq_of_extends⟩
  · intro untagged
    obtain ⟨earlier, inner, later, fault, split, tagged, read, foundAt⟩ :=
      ofJson_of_untagged untagged
    have noTag : ¬ HasTag inner := by
      rw [← tagFault?_eq_none_iff, foundAt]
      simp
    exact ⟨earlier, inner, later, fault, split, tagged, noTag, read,
      code_message_of_tagFault? foundAt⟩
  · intro tagged incomplete
    obtain ⟨cause, read⟩ := ofJson_of_incomplete tagged incomplete
    exact ⟨cause, read, rfl⟩

end TypeSchema.Schema
