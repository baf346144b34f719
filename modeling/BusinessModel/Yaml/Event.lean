import BusinessModel.Yaml.Tag
import BusinessModel.Yaml.Token.Stream

/-!
# Events

The tokens of a stream describe a walk through its documents: every node is entered, and every
collection is left.  What may come next is decided by the state of the walk and by the next token
alone; the states to come back to are kept on a stack.

* `Walk.events` — the walk that a text describes, up to its end or a fault
-/

namespace BusinessModel.Yaml

/-- What is known about a node when it is entered. -/
structure Properties where
  anchor : Option String
  tag : String
  mark : Mark
  deriving DecidableEq, Repr

/-- A step of the walk. -/
inductive Event where
  | documentStart (mark : Mark)
  | documentEnd
  | streamEnd
  | reference (name : String) (mark : Mark)
  | scalar (properties : Properties) (text : String)
  | sequenceStart (properties : Properties)
  | sequenceEnd
  | mappingStart (properties : Properties)
  | mappingEnd
  deriving DecidableEq, Repr

/-- What the walk expects next. -/
inductive Expecting where
  | firstDocument
  | document
  | documentEnd
  | content
  | blockNode
  | blockItem
  | listItem
  | blockKey
  | blockValue
  | flowItem (first : Bool)
  | pairKey
  | pairValue
  | pairEnd
  | flowKey (first : Bool)
  | flowValue
  | flowNoValue
  deriving DecidableEq, Repr

/-- The state of the walk. -/
structure Walk where
  expecting : Expecting
  outer : List Expecting
  tokens : List Token
  /-- The fault behind the last token. -/
  ending : Option Failure
  /-- The stems of tag handles. -/
  handles : List (String × String)

namespace Walk

/-- The handles that every document knows. -/
def commonHandles : List (String × String) := [("!", "!"), ("!!", Tag.coreStem)]

def peek (w : Walk) : Except Failure Token :=
  match w.tokens with
  | token :: _ => .ok token
  | [] => .error (w.ending.getD (.malformed ⟨.unfinished, none⟩))

def advance (w : Walk) : Walk := { w with tokens := w.tokens.tail }

def expect (w : Walk) (next : Expecting) : Walk := { w with expecting := next }

/-- Expect something when the next node is done. -/
def expectLater (w : Walk) (later : Expecting) : Walk :=
  { w with outer := later :: w.outer }

/-- Go on with what was to be expected later. -/
def leave (w : Walk) : Walk :=
  match w.outer with
  | [] => w
  | later :: outer => { w with expecting := later, outer := outer }

/-- The refusal of a token. -/
def refuse {α : Type} (problem : String → Problem) (token : Token) : Except Failure α :=
  .error (.malformed ⟨problem token.word.name, some token.start⟩)

/-- A node of which nothing is written. -/
def emptyNode (mark : Mark) : Event := .scalar ⟨none, Tag.ofText "", mark⟩ ""

/-! ### Nodes -/

/-- A tag with its handle replaced by the stem. -/
def spell (w : Walk) (words : TagWords) (mark : Mark) : Except Failure String :=
  match words.handle with
  | none => .ok words.suffix
  | some handle =>
    match w.handles.lookup handle with
    | some stem => .ok (stem ++ words.suffix)
    | none => .error (.malformed ⟨.undefinedHandle handle, some mark⟩)

/-- The anchor and the tag that are written in front of a node, in either order, and the place of
the first of them. -/
def readProperties (w : Walk) :
    Except Failure (Option String × Option String × Option Mark × Walk) := do
  let first ← w.peek
  match first.word with
  | .anchor name =>
    let w := w.advance
    let second ← w.peek
    match second.word with
    | .tag words =>
      return (some name, some (← w.spell words second.start), some first.start, w.advance)
    | _ => return (some name, none, some first.start, w)
  | .tag words =>
    let w := w.advance
    let second ← w.peek
    let tag ← w.spell words first.start
    match second.word with
    | .anchor name => return (some name, some tag, some first.start, w.advance)
    | _ => return (none, some tag, some first.start, w)
  | _ => return (none, none, none, w)

/-- Enter a node.  Block collections only stand in blocks, and lists without indentation only under
the keys of a block. -/
def enterNode (block list : Bool) (w : Walk) : Except Failure (Event × Walk) := do
  let first ← w.peek
  match first.word with
  | .reference name => return (.reference name first.start, w.advance.leave)
  | _ =>
    let (anchor, tag, place, w) ← w.readProperties
    let token ← w.peek
    let mark := place.getD token.start
    let sequence : Event := .sequenceStart ⟨anchor, Tag.ofCollection tag Tag.seq, mark⟩
    let mapping : Event := .mappingStart ⟨anchor, Tag.ofCollection tag Tag.map, mark⟩
    match token.word, block, list with
    | .blockEntry, _, true => return (sequence, w.expect .listItem)
    | .scalar text plain, _, _ =>
      return (.scalar ⟨anchor, Tag.ofScalar tag plain text, mark⟩ text, w.advance.leave)
    | .flowSequenceStart, _, _ => return (sequence, w.advance.expect (.flowItem true))
    | .flowMappingStart, _, _ => return (mapping, w.advance.expect (.flowKey true))
    | .blockSequenceStart, true, _ => return (sequence, w.advance.expect .blockItem)
    | .blockMappingStart, true, _ => return (mapping, w.advance.expect .blockKey)
    | _, _, _ =>
      if anchor.isSome || tag.isSome then
        return (.scalar ⟨anchor, Tag.ofScalar tag true "", mark⟩ "", w.leave)
      else refuse .noContent token

/-- Behind `token`: a node, or an empty one if one of some words follows; then expect `later`. -/
def enterOptional (enter : Walk → Except Failure (Event × Walk)) (followers : List Word)
    (later : Expecting) (token : Token) (w : Walk) : Except Failure (Event × Walk) := do
  let next ← w.peek
  if followers.contains next.word then return (emptyNode token.stop, w.expect later)
  else enter (w.expectLater later)

/-! ### Documents -/

/-- The directives in front of a document: at most one version, which must be compatible, and one
stem for a handle. -/
def readDirectives (versioned : Bool) (handles : List (String × String)) :
    List Token → Except Failure (List (String × String) × List Token)
  | [] => .ok (handles, [])
  | token :: rest =>
    let refuse (problem : Problem) := .error (.malformed ⟨problem, some token.start⟩)
    match token.word with
    | .directive (.version major _) =>
      if versioned then refuse .repeatedVersion
      else if major ≠ 1 then refuse .incompatibleVersion
      else readDirectives true handles rest
    | .directive (.handle name stem) =>
      if (handles.lookup name).isSome then refuse (.repeatedHandle name)
      else readDirectives versioned (handles ++ [(name, stem)]) rest
    | .directive .unknown => readDirectives versioned handles rest
    | _ => .ok (handles, token :: rest)

/-- Enter a document that begins with its directives and a separator, or end the stream. -/
def enterDocument (w : Walk) : Except Failure (Event × Walk) := do
  let w := { w with tokens := w.tokens.dropWhile fun token => token.word == Word.documentEnd }
  let first ← w.peek
  if first.word = .streamEnd then return (.streamEnd, { w with tokens := [] })
  else
    let (handles, tokens) ← readDirectives false [] w.tokens
    let w := { w with tokens := tokens, handles := handles ++ commonHandles }
    let token ← w.peek
    if token.word = .documentStart then
      return (.documentStart first.start, (w.advance.expectLater .documentEnd).expect .content)
    else refuse .noDocumentStart token

/-- Enter the first document, which may begin with its content. -/
def enterFirst (w : Walk) : Except Failure (Event × Walk) := do
  let token ← w.peek
  match token.word with
  | .directive _ | .documentStart | .streamEnd => w.enterDocument
  | _ =>
    return (.documentStart token.start,
      { (w.expectLater .documentEnd).expect .blockNode with handles := commonHandles })

/-- The content of a document behind its separator. -/
def enterContent (w : Walk) : Except Failure (Event × Walk) := do
  let token ← w.peek
  match token.word with
  | .directive _ | .documentStart | .documentEnd | .streamEnd =>
    return (emptyNode token.start, w.leave)
  | _ => w.enterNode true false

/-! ### Steps -/

/-- One step of the walk. -/
def step (w : Walk) : Except Failure (Event × Walk) := do
  match w.expecting with
  | .firstDocument => w.enterFirst
  | .document => w.enterDocument
  | .documentEnd =>
    let token ← w.peek
    let w := if token.word = .documentEnd then w.advance else w
    return (.documentEnd, w.expect .document)
  | .content => w.enterContent
  | .blockNode => w.enterNode true false
  | .blockItem =>
    let token ← w.peek
    match token.word with
    | .blockEntry =>
      enterOptional (enterNode true false) [.blockEntry, .blockEnd] .blockItem token w.advance
    | .blockEnd => return (.sequenceEnd, w.advance.leave)
    | _ => refuse .noBlockEnd token
  | .listItem =>
    let token ← w.peek
    match token.word with
    | .blockEntry =>
      enterOptional (enterNode true false) [.blockEntry, .key, .value, .blockEnd] .listItem token
        w.advance
    | _ => return (.sequenceEnd, w.leave)
  | .blockKey =>
    let token ← w.peek
    match token.word with
    | .key =>
      enterOptional (enterNode true true) [.key, .value, .blockEnd] .blockValue token w.advance
    | .blockEnd => return (.mappingEnd, w.advance.leave)
    | _ => refuse .noBlockEnd token
  | .blockValue =>
    let token ← w.peek
    match token.word with
    | .value =>
      enterOptional (enterNode true true) [.key, .value, .blockEnd] .blockKey token w.advance
    | _ => return (emptyNode token.start, w.expect .blockKey)
  | .flowItem first =>
    let token ← w.peek
    let w ←
      if token.word = .flowSequenceEnd ∨ first then pure w
      else if token.word = .flowEntry then pure w.advance
      else refuse .noSequenceEnd token
    let token ← w.peek
    match token.word with
    | .flowSequenceEnd => return (.sequenceEnd, w.advance.leave)
    | .key => return (.mappingStart ⟨none, Tag.map, token.start⟩, w.expect .pairKey)
    | _ => (w.expectLater (.flowItem false)).enterNode false false
  | .pairKey =>
    let token ← w.peek
    enterOptional (enterNode false false) [.value, .flowEntry, .flowSequenceEnd] .pairValue token
      w.advance
  | .pairValue =>
    let token ← w.peek
    match token.word with
    | .value =>
      enterOptional (enterNode false false) [.flowEntry, .flowSequenceEnd] .pairEnd token w.advance
    | _ => return (emptyNode token.start, w.expect .pairEnd)
  | .pairEnd =>
    let _ ← w.peek
    return (.mappingEnd, w.expect (.flowItem false))
  | .flowKey first =>
    let token ← w.peek
    let w ←
      if token.word = .flowMappingEnd ∨ first then pure w
      else if token.word = .flowEntry then pure w.advance
      else refuse .noMappingEnd token
    let token ← w.peek
    match token.word with
    | .flowMappingEnd => return (.mappingEnd, w.advance.leave)
    | .key =>
      enterOptional (enterNode false false) [.value, .flowEntry, .flowMappingEnd] .flowValue token
        w.advance
    | _ => (w.expectLater .flowNoValue).enterNode false false
  | .flowValue =>
    let token ← w.peek
    match token.word with
    | .value =>
      enterOptional (enterNode false false) [.flowEntry, .flowMappingEnd] (.flowKey false) token
        w.advance
    | _ => return (emptyNode token.start, w.expect (.flowKey false))
  | .flowNoValue =>
    let token ← w.peek
    return (emptyNode token.start, w.expect (.flowKey false))

/-- The events from a state on (those before, last first), up to the end of the stream or a
failure. -/
def run : Nat → List Event → Walk → List Event × Option Failure
  | 0, past, _ => (past.reverse, none)
  | fuel + 1, past, w =>
    match w.step with
    | .error failure => (past.reverse, some failure)
    | .ok (.streamEnd, _) => ((Event.streamEnd :: past).reverse, none)
    | .ok (event, w) => run fuel (event :: past) w

/-- The walk that a text describes.  At most three events in a row take no token. -/
def events (text : String) : List Event × Option Failure :=
  let (tokens, ending) := Lexer.tokens text
  run (4 * (tokens.length + 2)) [] ⟨.firstDocument, [], tokens, ending, commonHandles⟩

end Walk

end BusinessModel.Yaml
