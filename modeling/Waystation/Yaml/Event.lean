import Waystation.Yaml.Token
/-!
The events of a YAML text: documents, collections and their ends, scalars and aliases, in the order
of the text. Tags come with their handles resolved. Each step of the reader takes some tokens and
gives one event; what is to be read next is a stack of expectations.
-/
namespace Waystation.Yaml

/-- What may stand before a node. -/
structure Properties where
  anchor : Option String := none
  tag : Option String := none
  deriving DecidableEq, Repr

/-- A piece of the structure of a text. -/
inductive Event
  | documentStart
  | documentEnd
  | reference (name : String)
  | scalar (props : Properties) (text : String) (plain : Bool)
  | sequenceStart (props : Properties)
  | sequenceEnd
  | mappingStart (props : Properties)
  | mappingEnd
  | streamEnd
  deriving DecidableEq, Repr

/-- What is to be read next. `first` tells that the opening token is still there. -/
inductive Expectation
  | document (implicit : Bool)
  | content (implicit : Bool)
  | documentEnd
  | blockEntry (first : Bool)
  | indentlessEntry
  | blockKey (first : Bool)
  | blockValue
  | flowEntry (first : Bool)
  | pairKey
  | pairValue
  | pairEnd
  | flowKey (first : Bool)
  | flowValue
  | emptyFlowValue
  deriving DecidableEq, Repr

/-- The tokens still to be read and what is expected of them. -/
structure EventReader where
  tokens : List Token
  expected : List Expectation := [.document true]
  /-- What the tag handles of the document stand for. -/
  handles : List (String × String) := []

namespace EventReader

/-- A node without text. -/
def emptyScalar : Event := .scalar {} "" true

/-- Handles that stand for something without being declared. -/
def defaultHandles : List (String × String) := [("!", "!"), ("!!", "tag:yaml.org,2002:")]

/-- Skips document ends. -/
def skipEnds : List Token → List Token
  | .documentEnd :: rest => skipEnds rest
  | ts => ts

/-- The directives before a document. -/
def readDirectives : List Token → (versioned : Bool) → List (String × String) →
    Option (List (String × String) × List Token)
  | .version major minor :: rest, versioned, handles =>
    if versioned ∨ major ≠ 1 ∨ (minor ≠ 1 ∧ minor ≠ 2) then none
    else readDirectives rest true handles
  | .tagHandle handle start :: rest, versioned, handles =>
    if (handles.lookup handle).isSome then none
    else readDirectives rest versioned (handles ++ [(handle, start)])
  | ts, _, handles => some (handles, ts)

/-- The anchor and the tag before a node, in either order. -/
def readProperties (r : EventReader) : Option (Properties × List Token) := do
  let resolve := fun (handle suffix : String) =>
    if handle = "" then some suffix
    else ((r.handles ++ defaultHandles).lookup handle).map (· ++ suffix)
  match r.tokens with
  | .anchor a :: .tag h s :: rest => return ({ anchor := some a, tag := ← resolve h s }, rest)
  | .tag h s :: .anchor a :: rest => return ({ anchor := some a, tag := ← resolve h s }, rest)
  | .anchor a :: rest => return ({ anchor := some a }, rest)
  | .tag h s :: rest => return ({ tag := ← resolve h s }, rest)
  | ts => return ({}, ts)

/-- The event of a node. A lone exclamation mark as a tag of a scalar is none. -/
def readNode (r : EventReader) (block indentless : Bool) : Option (Event × EventReader) := do
  match r.tokens with
  | .reference name :: tokens => return (.reference name, { r with tokens })
  | _ =>
    let (props, tokens) ← r.readProperties
    let expect := fun (e : Expectation) => { r with tokens, expected := e :: r.expected }
    match tokens with
    | .blockEntry :: _ =>
      if indentless then return (.sequenceStart props, expect .indentlessEntry)
      else if props ≠ {} then return (.scalar props "" true, { r with tokens })
      else none
    | .scalar text plain :: tokens =>
      let props := if props.tag = some "!" then { props with tag := none } else props
      return (.scalar props text plain, { r with tokens })
    | .flowSequenceStart :: _ => return (.sequenceStart props, expect (.flowEntry true))
    | .flowMappingStart :: _ => return (.mappingStart props, expect (.flowKey true))
    | t :: _ =>
      if block ∧ t = .blockSequenceStart then
        return (.sequenceStart props, expect (.blockEntry true))
      else if block ∧ t = .blockMappingStart then
        return (.mappingStart props, expect (.blockKey true))
      else if props ≠ {} then return (.scalar props "" true, { r with tokens })
      else none
    | [] => none

/-- A node, and then what is expected after it; an empty one if the next token is one of
`ends`. -/
def readNodeUnless (r : EventReader) (ends : List Token) (block indentless : Bool)
    (after : Expectation) : Option (Event × EventReader) :=
  let r := { r with expected := after :: r.expected }
  match r.tokens with
  | t :: _ => if t ∈ ends then some (emptyScalar, r) else r.readNode block indentless
  | [] => none

/-- Is the token one that only stands between documents? -/
def betweenDocuments : Token → Bool
  | .version .. | .tagHandle .. | .documentStart | .documentEnd | .streamEnd => true
  | _ => false

/-- The start of a document, or the end of the text. Only the first may come without a mark. -/
def readDocument (r : EventReader) (implicit : Bool) : Option (Event × EventReader) :=
  let tokens := if implicit then r.tokens else skipEnds r.tokens
  match tokens with
  | .streamEnd :: _ => some (.streamEnd, { r with tokens := [] })
  | t :: _ =>
    let explicit := match t with
      | .version .. | .tagHandle .. | .documentStart => true
      | _ => false
    if implicit && !explicit then
      some (.documentStart,
        { tokens, expected := [.content true, .documentEnd], handles := [] })
    else match readDirectives tokens false [] with
      | some (handles, .documentStart :: tokens) =>
        some (.documentStart, { tokens, expected := [.content false, .documentEnd], handles })
      | _ => none
  | [] => none

/-- One event. -/
def step (r : EventReader) : Option (Event × EventReader) :=
  match r.expected with
  | [] => none
  | e :: rest =>
    let r := { r with expected := rest }
    let done := fun (event : Event) (tokens : List Token) => some (event, { r with tokens })
    match e, r.tokens with
    | .document implicit, _ => r.readDocument implicit
    | .content implicit, t :: _ =>
      if !implicit && betweenDocuments t then some (emptyScalar, r) else r.readNode true false
    | .documentEnd, ts =>
      let tokens := match ts with
        | .documentEnd :: ts => ts
        | ts => ts
      some (.documentEnd, { tokens, expected := [.document false] })
    | .blockEntry true, .blockSequenceStart :: .blockEntry :: tokens
    | .blockEntry false, .blockEntry :: tokens =>
      { r with tokens }.readNodeUnless [.blockEntry, .blockEnd] true false (.blockEntry false)
    | .blockEntry true, .blockSequenceStart :: .blockEnd :: tokens
    | .blockEntry false, .blockEnd :: tokens => done .sequenceEnd tokens
    | .indentlessEntry, .blockEntry :: tokens =>
      { r with tokens }.readNodeUnless [.blockEntry, .key, .value, .blockEnd] true false
        .indentlessEntry
    | .indentlessEntry, tokens => done .sequenceEnd tokens
    | .blockKey true, .blockMappingStart :: .key :: tokens
    | .blockKey false, .key :: tokens =>
      { r with tokens }.readNodeUnless [.key, .value, .blockEnd] true true .blockValue
    | .blockKey true, .blockMappingStart :: .blockEnd :: tokens
    | .blockKey false, .blockEnd :: tokens => done .mappingEnd tokens
    | .blockValue, .value :: tokens =>
      { r with tokens }.readNodeUnless [.key, .value, .blockEnd] true true (.blockKey false)
    | .blockValue, _ => some (emptyScalar, { r with expected := .blockKey false :: rest })
    | .flowEntry first, ts =>
      let ts? := if first then some (ts.drop 1) else match ts with
        | .flowSequenceEnd :: _ => some ts
        | .flowEntry :: ts => some ts
        | _ => none
      match ts? with
      | some (.flowSequenceEnd :: tokens) => done .sequenceEnd tokens
      | some (.key :: tokens) =>
        some (.mappingStart {}, { r with tokens, expected := .pairKey :: .flowEntry false :: rest })
      | some tokens => { r with tokens, expected := .flowEntry false :: rest }.readNode false false
      | none => none
    | .pairKey, t :: tokens =>
      if t ∈ [.value, .flowEntry, .flowSequenceEnd] then
        -- the token is passed over, a colon as well as the end
        some (emptyScalar, { r with tokens, expected := .pairValue :: rest })
      else { r with expected := .pairValue :: rest }.readNode false false
    | .pairValue, .value :: tokens =>
      { r with tokens }.readNodeUnless [.flowEntry, .flowSequenceEnd] false false .pairEnd
    | .pairValue, _ => some (emptyScalar, { r with expected := .pairEnd :: rest })
    | .pairEnd, tokens => done .mappingEnd tokens
    | .flowKey first, ts =>
      let ts? := if first then some (ts.drop 1) else match ts with
        | .flowMappingEnd :: _ => some ts
        | .flowEntry :: ts => some ts
        | _ => none
      match ts? with
      | some (.flowMappingEnd :: tokens) => done .mappingEnd tokens
      | some (.key :: tokens) =>
        { r with tokens }.readNodeUnless [.value, .flowEntry, .flowMappingEnd] false false
          .flowValue
      | some tokens =>
        { r with tokens, expected := .emptyFlowValue :: rest }.readNode false false
      | none => none
    | .flowValue, .value :: tokens =>
      { r with tokens }.readNodeUnless [.flowEntry, .flowMappingEnd] false false (.flowKey false)
    | .flowValue, _ => some (emptyScalar, { r with expected := .flowKey false :: rest })
    | .emptyFlowValue, _ => some (emptyScalar, { r with expected := .flowKey false :: rest })
    | _, _ => none

/-- All events up to the end of the stream. -/
def run : (fuel : Nat) → EventReader → List Event → Option (List Event)
  | 0, _, _ => none
  | fuel + 1, r, read =>
    match r.step with
    | none => none
    | some (.streamEnd, _) => some read.reverse
    | some (e, r) => run fuel r (e :: read)

end EventReader

/-- The events of a text. A token gives rise to a few at most. -/
def Event.ofText? (s : String) : Option (List Event) := do
  let tokens ← Token.ofText? s
  EventReader.run (8 * tokens.size + 8) { tokens := tokens.toList } []

end Waystation.Yaml
