import BusinessModel.EntityKind
import BusinessModel.Lint.Rule
import BusinessModel.Pointer
import BusinessModel.Value.Writable

/-!
# Findings

A finding says which rule is broken, where in the document, and how: its fault keeps the values that
are at fault, and the wording of every fault is in `Fault.message`.
-/

namespace BusinessModel.Lint

/-- What a reference should have named. -/
inductive Referent where
  | entity (kind : EntityKind)
  | resourceOrActivity
  deriving DecidableEq, Repr, Inhabited

/-- The name of a referent at the beginning of a sentence. -/
def Referent.label : Referent → String
  | .entity kind => kind.label.capitalize
  | .resourceOrActivity => "Resource or activity"

/-- How a rule is broken. -/
inductive Fault where
  /-- A reference names nothing that the document declares. -/
  | unresolved (referent : Referent) (ref : Value)
  /-- A reference names nothing that its owner, one entity, declares. -/
  | notIn (referent : Referent) (ref : Value) (owner : EntityKind) (ownerId : Value)
  /-- A reference names nothing that one of its owners declares. -/
  | notInAny (referent : Referent) (ref : String) (owner : EntityKind) (ownerIds : List Value)
  /-- A mapping of a fit is not a pair of identifiers. -/
  | notAPair (mapping : Value)
  /-- The left side of a mapping must map to items of another kind than its right side. -/
  | incompatible (left right : String) (leftKind wanted : EntityKind)
  /-- The right side of a mapping is not an item of a customer profile. -/
  | notAProfileItem (left right : String)
  /-- No fit names a declared entity. -/
  | noFits (kind : EntityKind) (id : String)
  /-- No fit uses a declared item. -/
  | unused (kind : EntityKind) (id : String)

/-- The kind of an identifier inside a sentence. -/
def kindLabel (id : String) : String :=
  match EntityKind.ofId? id with
  | some kind => kind.label
  | none => "unknown item"

/-- What fits do with the items of a kind. -/
def useOf : EntityKind → String
  | .pain => "relieved by"
  | .gain => "created by"
  | .job => "addressed by"
  | _ => "used in"

def Fault.message : Fault → String
  | .unresolved referent ref => s!"{referent.label} '{ref.display}' does not exist"
  | .notIn referent ref owner ownerId =>
    s!"{referent.label} '{ref.display}' does not exist in {owner.label} '{ownerId.display}'"
  | .notInAny referent ref owner ownerIds =>
    let owners := commaSeparated (ownerIds.map fun id => s!"'{id.display}'")
    s!"{referent.label} '{ref}' does not exist in {owner.label}(s) {owners}"
  | .notAPair mapping =>
    s!"Mapping must be a [value map item, profile item] pair of ids, got {mapping.inspect}"
  | .incompatible left right leftKind wanted =>
    s!"Type mismatch: {leftKind.label} '{left}' cannot map to {kindLabel right} '{right}'; " ++
      s!"a {leftKind.label} must map to a {wanted.label}"
  | .notAProfileItem left right =>
    s!"Type mismatch: mapping ['{left}', '{right}'] ends in {kindLabel right} '{right}'; " ++
      "the right element must be a pain, gain or job"
  | .noFits kind id => s!"{kind.label.capitalize} '{id}' has no fits defined"
  | .unused kind id => s!"{kind.label.capitalize} '{id}' is never {useOf kind} any fit"

/-- The values that a message shows as they stand in the document. -/
def Fault.shown : Fault → List Value
  | .unresolved _ ref => [ref]
  | .notIn _ ref _ ownerId => [ref, ownerId]
  | .notInAny _ _ _ ownerIds => ownerIds
  | .notAPair mapping => [mapping]
  | _ => []

/-- One broken rule at one place of a document. -/
structure Finding where
  rule : Rule
  place : Pointer
  fault : Fault

/-- Whether everything that a finding shows has a text. -/
def Finding.isWritable (f : Finding) : Bool := f.fault.shown.all Value.isWritable

/-- The references that `resolves` refuses, each at its own index under `place`. -/
def unresolvedRefs (refs : List Value) (resolves : Value → Bool) (rule : Rule) (place : Pointer)
    (referent : Referent) : List Finding :=
  refs.zipIdx.filterMap fun item =>
    if resolves item.1 then none
    else some ⟨rule, place ++ [.index item.2], .unresolved referent item.1⟩

end BusinessModel.Lint
