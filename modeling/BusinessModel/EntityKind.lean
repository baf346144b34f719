import BusinessModel.Value

/-!
# Kinds of entities

The identifier of an entity carries its kind in front of its first dash: `cs-retail` is a customer
segment, `pain-late` a pain.  The kind of an identifier is looked up from that token alone; whether
the rest is well formed is a separate question (`isValidId`).
-/

namespace BusinessModel

inductive EntityKind where
  | customerSegment
  | valueProposition
  | productService
  | job
  | pain
  | gain
  | fit
  | channel
  | customerRelationship
  | revenueStream
  | keyResource
  | keyActivity
  | keyPartnership
  | cost
  | painReliever
  | gainCreator
  deriving DecidableEq, Repr, Inhabited

namespace EntityKind

def all : List EntityKind :=
  [.customerSegment, .valueProposition, .productService, .job, .pain, .gain, .fit, .channel,
    .customerRelationship, .revenueStream, .keyResource, .keyActivity, .keyPartnership, .cost,
    .painReliever, .gainCreator]

/-- The token in front of the first dash of an identifier of this kind. -/
def token : EntityKind → String
  | customerSegment => "cs"
  | valueProposition => "vp"
  | productService => "ps"
  | job => "job"
  | pain => "pain"
  | gain => "gain"
  | fit => "fit"
  | channel => "ch"
  | customerRelationship => "cr"
  | revenueStream => "rs"
  | keyResource => "kr"
  | keyActivity => "ka"
  | keyPartnership => "kp"
  | cost => "cost"
  | painReliever => "pr"
  | gainCreator => "gc"

/-- The token with its dash. -/
def stem (kind : EntityKind) : String :=
  kind.token ++ "-"

/-- The name used inside a sentence. -/
def label : EntityKind → String
  | customerSegment => "customer segment"
  | valueProposition => "value proposition"
  | productService => "product/service"
  | job => "job"
  | pain => "pain"
  | gain => "gain"
  | fit => "fit"
  | channel => "channel"
  | customerRelationship => "customer relationship"
  | revenueStream => "revenue stream"
  | keyResource => "key resource"
  | keyActivity => "key activity"
  | keyPartnership => "key partnership"
  | cost => "cost"
  | painReliever => "pain reliever"
  | gainCreator => "gain creator"

/-- The kind with a token. -/
def ofToken? (token : List Char) : Option EntityKind :=
  all.find? fun kind => kind.token.toList == token

/-- The kind of an identifier, by the token in front of its first dash. -/
def ofId? (id : String) : Option EntityKind :=
  let chars := id.toList
  if chars.contains '-' then ofToken? (chars.takeWhile (· != '-')) else none

end EntityKind

/-- Characters of the part of an identifier behind its stem. -/
def isIdChar (c : Char) : Bool :=
  ('a' ≤ c && c ≤ 'z') || ('0' ≤ c && c ≤ '9') || c == '-'

/-- Whether a text can stand behind the stem of an identifier: at least one identifier character,
and nothing else but at most one final line feed. -/
def isIdBody (body : List Char) : Bool :=
  let core := if body.getLast? = some '\n' then body.dropLast else body
  !core.isEmpty && core.all isIdChar

namespace Value

/-- The kind that a value carries as an identifier; only texts carry one. -/
def kind? : Value → Option EntityKind
  | .str id => EntityKind.ofId? id
  | _ => none

/-- Whether a value carries the stem of a kind. -/
def isOfKind (v : Value) (kind : EntityKind) : Bool :=
  v.kind? == some kind

/-- Whether a value is a well-formed identifier, of a wanted kind when one is given. -/
def isValidId (v : Value) (wanted : Option EntityKind) : Bool :=
  match v with
  | .str id =>
    match EntityKind.ofId? id with
    | some kind =>
      (wanted == none || wanted == some kind) && isIdBody (id.toList.drop kind.stem.length)
    | none => false
  | _ => false

end Value

end BusinessModel
