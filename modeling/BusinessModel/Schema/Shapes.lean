import BusinessModel.EntityKind
import BusinessModel.Schema.Basic

/-!
# Shapes of document schemas

The schemas of both generations are put together from a few shapes: closed records, lists, texts,
choices and identifiers.  `head` describes the head of a document, which is the same in both.
-/

namespace BusinessModel.Schema

/-- A text. -/
def text : Schema := .hasType [.string]

/-- A text of one or more characters. -/
def nonEmptyText : Schema := .all [.hasType [.string], .minLength 1]

/-- One of some texts. -/
def choice (choices : List String) : Schema := .oneOf (choices.map Value.str)

/-- A list whose items all have one schema. -/
def listOf (schema : Schema) : Schema := .all [.hasType [.array], .items 0 schema]

/-- The identifier of an entity of one of some kinds. -/
def idOf (kinds : List EntityKind) : Schema :=
  .all [.hasType [.string], .pattern (.ofIds (kinds.map EntityKind.token))]

/-- A list of identifiers of one kind. -/
def idsOf (kind : EntityKind) : Schema := listOf (idOf [kind])

/-- A mapping with no other members than the given ones, some of them required. -/
def record (requiredNames : List String) (schemas : List (String × Schema)) : Schema :=
  .all [.hasType [.object], .required requiredNames, .noOthers (schemas.map (·.1)),
    .members schemas]

/-- Stages of a business that is being explored. -/
def exploreStages : List String :=
  ["ideation", "discovery", "validation", "acceleration", "transfer"]

/-- Stages of a business that is being exploited. -/
def exploitStages : List String :=
  ["improve", "grow", "sustain", "retire", "transfer"]

/-- In a given portfolio only the given stages are possible. -/
def stagesOf (portfolio : String) (stages : List String) : Schema :=
  .implies
    (.all [.members [("portfolio", .exactly (.str portfolio))], .required ["portfolio"]])
    (.members [("stage", choice stages)])

/-- The head of a document. -/
def head : Schema :=
  .all
    [record ["name", "portfolio", "stage"]
      [("name", nonEmptyText),
        ("tagline", text),
        ("created", text),
        ("updated", text),
        ("portfolio", choice ["explore", "exploit"]),
        ("stage", choice
          ["ideation", "discovery", "validation", "acceleration", "transfer", "improve", "grow",
            "sustain", "retire"]),
        ("derived_from", text)],
      .all [stagesOf "explore" exploreStages, stagesOf "exploit" exploitStages]]

/-- A whole document: its discriminator, its head and its sections. -/
def documentOf (discriminator : String) (sections : List (String × Schema)) : Schema :=
  record ["version", "meta"]
    ([("version", .exactly (.str discriminator)), ("meta", head)] ++ sections)

end BusinessModel.Schema
