import BusinessModel.Schema.Basic

/-!
# Schemas written as documents

A schema document is a truth value or a mapping from keywords to their arguments.
`Schema.ofDocument` turns one into a schema; words that are no keywords assert nothing.

`Schema.documentFault?` checks a document against the rules for schema documents first and reports
the first violation, keyword group by keyword group: core, applied schemas, assertions, annotations.
A document that keeps the rules may still assert what schemas here cannot say, by another keyword or
by a reference that is not to one of its own definitions or leads back to itself; such a document is
refused, too.
-/

namespace BusinessModel

mutual

/-- How deep a value is nested. -/
def Value.depth : Value → Nat
  | .list items | .tuple items => depthOfItems items + 1
  | .map entries => depthOfEntries entries + 1
  | _ => 1

def Value.depthOfItems : List Value → Nat
  | [] => 0
  | item :: rest => max item.depth (depthOfItems rest)

def Value.depthOfEntries : List (Scalar × Value) → Nat
  | [] => 0
  | (_, value) :: rest => max value.depth (depthOfEntries rest)

end

namespace Schema

/-! ### Reading -/

/-- A count; whole doubles count too. -/
def count? : Value → Option Nat
  | .int n => if 0 ≤ n then some n.toNat else none
  | .float x => match x.toRatio? with
    | some (num, den) => if 0 ≤ num then some (num.toNat / den) else none
    | none => none
  | _ => none

def types? : Value → Option (List TypeName)
  | .str name => (TypeName.ofName? name).map ([·])
  | .list names => names.mapM fun name => name.str?.bind TypeName.ofName?
  | _ => none

/-- The assertion of a keyword that applies no schemas. -/
def assertion? (keyword : String) (argument : Value) : Option Schema :=
  match keyword, argument with
  | "type", v => (types? v).map .hasType
  | "const", v => some (.exactly v)
  | "enum", .list choices => some (.oneOf choices)
  | "required", .list names => some (.required (Value.texts names))
  | "minItems", v => (count? v).map .minItems
  | "maxItems", v => (count? v).map .maxItems
  | "uniqueItems", .bool true => some .distinctItems
  | "minLength", v => (count? v).map .minLength
  | "maxLength", v => (count? v).map .maxLength
  | "pattern", .str source => (TextPattern.parse? source).map .pattern
  | "minimum", .scalar bound => some (.minimum bound)
  | "exclusiveMinimum", .scalar bound => some (.above bound)
  | "maximum", .scalar bound => some (.maximum bound)
  | _, _ => none

/-- The part of a document that a reference to one of its own definitions names. -/
def definition? (root : Mapping) (ref : String) : Option Value :=
  match ref.splitOn "/" with
  | ["#"] => some (.map root)
  | ["#", group, name] => Mapping.get? (Mapping.get root group).asMapping name
  | _ => none

/-- The schema of a document within a root document, `expanding` being the references on the way.
Nesting is followed down to a depth. -/
def read (root : Mapping) : Nat → List String → Value → Schema
  | 0, _, _ => .anything
  | _ + 1, _, .bool b => if b then .anything else .nothing
  | depth + 1, expanding, .map keywords =>
    let members (v : Value) : List (String × Schema) := v.asMapping.filterMap fun e =>
      match e.1 with
      | .str name => some (name, read root depth expanding e.2)
      | _ => none
    let sub (v : Value) : Schema := read root depth expanding v
    let known := (members (Mapping.get keywords "properties")).map (·.1)
    let leading := (Mapping.get keywords "prefixItems").asList.length
    .all (keywords.filterMap fun e =>
      match e.1, e.2 with
      | .str "$ref", .str ref =>
        if expanding.contains ref then none
        else (definition? root ref).map fun v => read root depth (ref :: expanding) v
      | .str "properties", v => some (.members (members v))
      | .str "additionalProperties", .bool false => some (.noOthers known)
      | .str "additionalProperties", v => some (.others known (sub v))
      | .str "prefixItems", v => some (.leadingItems (v.asList.map sub))
      | .str "items", .bool false => some (.noItemsAfter leading)
      | .str "items", v => some (.items leading (sub v))
      | .str "allOf", v => some (.all (v.asList.map sub))
      | .str "anyOf", v => some (.anyOf (v.asList.map sub))
      | .str "if", v => match Mapping.get? keywords "then" with
        | some consequence => some (.implies (sub v) (sub consequence))
        | none => none
      | .str keyword, v => assertion? keyword v
      | _, _ => none)
  | _, _, _ => .anything

/-- A depth that no part of a document exceeds, even where a reference stands for each of its
definitions, one within the other. -/
def depthLimit (doc : Value) : Nat :=
  let definitions := doc.asMapping.foldl (fun n e => n + e.2.asMapping.length) 1
  doc.depth * (definitions + 1) + 1

/-- The schema that a document describes. -/
def ofDocument (doc : Value) : Schema :=
  read doc.asMapping (depthLimit doc) [] doc

/-- The keywords of assertions that schemas here cannot say. -/
def unsaidKeywords : List String :=
  ["$dynamicRef", "contains", "dependentRequired", "dependentSchemas", "else", "exclusiveMaximum",
    "maxProperties", "minProperties", "multipleOf", "not", "oneOf", "patternProperties",
    "propertyNames", "unevaluatedItems", "unevaluatedProperties"]

/-- Whether a reference is written without escapes. -/
def isPlainRef (ref : String) : Bool :=
  !ref.toList.any fun c => c == '~' || c == '%'

/-- The first keyword by which a document within a root document asserts what schemas here cannot
say.  Parts of a document that name a dialect or a base of their own are not followed. -/
def unsaid? (root : Mapping) : Nat → List String → Value → Option String
  | 0, _, _ => some "$ref"
  | depth + 1, expanding, .map keywords =>
    let within (expanding : List String) (v : Value) : Option String :=
      (["$id", "$schema"].find? (Mapping.hasKey v.asMapping)).or (unsaid? root depth expanding v)
    let sub : Value → Option String := within expanding
    keywords.findSome? fun e =>
      match e.1, e.2 with
      | .str "$ref", .str ref =>
        match definition? root ref with
        | some v =>
          if expanding.contains ref || !isPlainRef ref then some "$ref"
          else within (ref :: expanding) v
        | none => some "$ref"
      | .str "pattern", .str source =>
        if (TextPattern.parse? source).isNone then some "pattern" else none
      | .str keyword, v =>
        if unsaidKeywords.contains keyword then some keyword
        else if keyword = "properties" then v.asMapping.findSome? fun e => sub e.2
        else if ["prefixItems", "allOf", "anyOf"].contains keyword then v.asList.findSome? sub
        else if ["additionalProperties", "items", "if", "then"].contains keyword then sub v
        else none
      | _, _ => none
  | _, _, _ => none

/-! ### Checking -/

/-- What a keyword takes as its argument. -/
inductive Argument where
  | plain (schema : Schema)
  | schema
  | schemas
  | schemaMembers

def nonNegative : Schema := .all [.hasType [.integer], .minimum (.int 0)]

def textItems : Schema :=
  .all [.hasType [.array], .items 0 (.hasType [.string]), .distinctItems]

def typeNames : Schema := .oneOf (["array", "boolean", "integer", "null", "number", "object",
  "string"].map Value.str)

def anchorName : Schema :=
  .all [.hasType [.string], .pattern ⟨"^[A-Za-z_][-A-Za-z0-9._]*$",
    .andThen (.charIn [('A', 'Z'), ('a', 'z'), ('_', '_')] false)
      (.star (.charIn [('-', '-'), ('A', 'Z'), ('a', 'z'), ('0', '9'), ('.', '.'), ('_', '_')]
        false)), true⟩]

/-- The arguments of keywords, group by group in the order in which they are checked. -/
def keywordGroups : List (List (String × Argument)) :=
  let text : Argument := .plain (.hasType [.string])
  let number : Argument := .plain (.hasType [.number])
  let flag : Argument := .plain (.hasType [.boolean])
  let count : Argument := .plain nonNegative
  [[("$id", text), ("$schema", text), ("$ref", text), ("$anchor", .plain anchorName),
      ("$dynamicRef", text), ("$dynamicAnchor", .plain anchorName),
      ("$vocabulary", .plain (.hasType [.object])), ("$comment", text), ("$defs", .schemaMembers)],
    [("prefixItems", .schemas), ("items", .schema), ("contains", .schema),
      ("additionalProperties", .schema), ("properties", .schemaMembers),
      ("patternProperties", .schemaMembers), ("dependentSchemas", .schemaMembers),
      ("propertyNames", .schema), ("if", .schema), ("then", .schema), ("else", .schema),
      ("allOf", .schemas), ("anyOf", .schemas), ("oneOf", .schemas), ("not", .schema)],
    [("unevaluatedItems", .schema), ("unevaluatedProperties", .schema)],
    [("type", .plain (.anyOf [typeNames,
        .all [.hasType [.array], .items 0 typeNames, .minItems 1, .distinctItems]])),
      ("const", .plain .anything), ("enum", .plain (.hasType [.array])),
      ("multipleOf", .plain (.all [.hasType [.number], .above (.int 0)])), ("maximum", number),
      ("exclusiveMaximum", number), ("minimum", number), ("exclusiveMinimum", number),
      ("maxLength", count), ("minLength", count), ("pattern", text), ("maxItems", count),
      ("minItems", count), ("uniqueItems", flag), ("maxContains", count), ("minContains", count),
      ("maxProperties", count), ("minProperties", count), ("required", .plain textItems),
      ("dependentRequired", .plain (.all [.hasType [.object], .others [] textItems]))],
    [("title", text), ("description", text), ("deprecated", flag), ("readOnly", flag),
      ("writeOnly", flag), ("examples", .plain (.hasType [.array]))],
    [("format", text)],
    [("contentEncoding", text), ("contentMediaType", text), ("contentSchema", .schema)]]

/-- The first violation of a schema by a value. -/
def firstFault? (schema : Schema) (v : Value) : Option Fault :=
  (schema.violations v).head?.map (·.fault)

/-- The first violation of the rules for schema documents, down to a depth. -/
def faultWithin : Nat → Value → Option Fault
  | 0, _ => none
  | depth + 1, doc =>
    let ofArgument (argument : Argument) (v : Value) : Option Fault :=
      match argument with
      | .plain schema => firstFault? schema v
      | .schema => faultWithin depth v
      | .schemas =>
        (firstFault? (.all [.hasType [.array], .minItems 1]) v).or
          (v.asList.findSome? (faultWithin depth))
      | .schemaMembers =>
        (firstFault? (.hasType [.object]) v).or
          (v.asMapping.findSome? fun e => faultWithin depth e.2)
    (firstFault? (.hasType [.object, .boolean]) doc).or
      (keywordGroups.findSome? fun group => group.findSome? fun keyword =>
        (Mapping.get? doc.asMapping keyword.1).bind (ofArgument keyword.2))

/-- The first violation of the rules for schema documents, or else the first keyword by which a
document asserts what schemas here cannot say. -/
def documentFault? (doc : Value) : Option Fault :=
  (faultWithin (doc.depth + 1) doc).or
    ((unsaid? doc.asMapping (depthLimit doc) [] doc).map Fault.unsaid)

/-- The title of a schema document. -/
def titleOf (doc : Value) : Value :=
  Mapping.get doc.asMapping "title"

end Schema

end BusinessModel
