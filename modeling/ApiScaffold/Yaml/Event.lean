import ApiScaffold.Yaml.Token

/-!
# Events of YAML text

An event is a scalar, an alias, or the start or end of a collection; a document is a list of events.
They are found from the tokens with a stack that says, for each open collection, what comes next in
it. A part that is left out, such as the value of a key, is an empty plain scalar.
-/

namespace ApiScaffold.Yaml

/-- The anchor and the tag in front of a node. -/
structure Properties where
  anchor : Option String := none
  tag : Option (List UInt8) := none
  deriving DecidableEq, Repr

/-- **An event.** -/
inductive Event where
  | alias (name : String)
  | scalar (properties : Properties) (text : String) (style : ScalarStyle)
  | sequenceStart (properties : Properties)
  | sequenceEnd
  | mappingStart (properties : Properties)
  | mappingEnd
  deriving DecidableEq, Repr

/-- **What comes next** in an open collection. A pair is a mapping of one entry that stands in a
sequence without braces of its own. -/
inductive Expecting where
  | blockItem
  | indentlessItem
  | blockKey
  | blockValue
  | flowItem (first : Bool)
  | pairKey
  | pairValue
  | pairEnd
  | flowKey (first : Bool)
  | flowValue
  | flowNoValue
  deriving DecidableEq, Repr

/-- **State of the parser**: the tokens that are left, the open collections, and the events so far in
reverse. -/
structure Parser where
  tokens : List Token
  stack : List Expecting := []
  events : List Event := []
  /-- What the handles of tags stand for. -/
  handles : List (String × List UInt8) := []

namespace Parser

/-- The next token. -/
def next? (p : Parser) : Option Token := p.tokens.head?

/-- Skips a token. -/
def skip (p : Parser) : Parser := { p with tokens := p.tokens.drop 1 }

/-- Adds an event. -/
def emit (p : Parser) (e : Event) : Parser := { p with events := e :: p.events }

/-- Expects something next. -/
def expect (p : Parser) (e : Expecting) : Parser := { p with stack := e :: p.stack }

/-- Adds a part that was left out. -/
def emitEmpty (p : Parser) : Parser := p.emit (.scalar {} "" .plain)

/-- The tag that a handle and a suffix make. -/
def fullTag? (p : Parser) (handle : String) (suffix : List UInt8) : Option (List UInt8) :=
  if handle.isEmpty then some suffix
  else (p.handles.find? fun (name, _) => name = handle).map fun (_, start) => start ++ suffix

/-- **Properties** in front of a node, in any order. -/
def properties? (p : Parser) : Option (Properties × Parser) :=
  match p.tokens with
  | .anchor a :: .tag handle suffix :: rest | .tag handle suffix :: .anchor a :: rest => do
    return (⟨some a, ← p.fullTag? handle suffix⟩, { p with tokens := rest })
  | .anchor a :: rest => some (⟨some a, none⟩, { p with tokens := rest })
  | .tag handle suffix :: rest => do
    return (⟨none, ← p.fullTag? handle suffix⟩, { p with tokens := rest })
  | _ => some ({}, p)

/-- The properties of a scalar: a lone mark is no tag. -/
def scalarProperties (q : Properties) : Properties :=
  if q.tag = some (octets ['!']) then { q with tag := none } else q

/-- A node of which only the properties are there. -/
def bare? (p : Parser) (q : Properties) : Option Parser :=
  if q = {} then none else some (p.emit (.scalar q "" .plain))

/-- **One node.** Block collections may start only where `block` says so, and a sequence without an
indentation of its own only where `indentless` does. -/
def node? (p : Parser) (block indentless : Bool) : Option Parser :=
  match p.next? with
  | some (.alias name) => some (p.skip.emit (.alias name))
  | _ => do
    let (q, p) ← p.properties?
    match p.next? with
    | some (.scalar text style) => return p.skip.emit (.scalar (scalarProperties q) text style)
    | some .flowSequenceStart => return (p.skip.emit (.sequenceStart q)).expect (.flowItem true)
    | some .flowMappingStart => return (p.skip.emit (.mappingStart q)).expect (.flowKey true)
    | some .blockEntry =>
      if indentless then return (p.emit (.sequenceStart q)).expect .indentlessItem else p.bare? q
    | some .blockSequenceStart =>
      if block then return (p.skip.emit (.sequenceStart q)).expect .blockItem else p.bare? q
    | some .blockMappingStart =>
      if block then return (p.skip.emit (.mappingStart q)).expect .blockKey else p.bare? q
    | _ => p.bare? q

/-- A node, or an empty one where a token of `ends` or nothing follows. -/
def nodeUnless? (p : Parser) (ends : List Token) (block indentless : Bool) : Option Parser :=
  if p.next?.any ends.contains then some p.emitEmpty else p.node? block indentless

/-- A flow collection after its first item: a comma before the next one. -/
def comma? (p : Parser) (first : Bool) : Option Parser :=
  if first then some p else if p.next? = some .flowEntry then some p.skip else none

/-- **One step** in the innermost open collection. -/
def step? (p : Parser) (e : Expecting) : Option Parser :=
  match e with
  | .blockItem =>
    match p.next? with
    | some .blockEntry =>
      (p.skip.expect .blockItem).nodeUnless? [.blockEntry, .blockEnd] true false
    | some .blockEnd => some (p.skip.emit .sequenceEnd)
    | _ => none
  | .indentlessItem =>
    match p.next? with
    | some .blockEntry =>
      (p.skip.expect .indentlessItem).nodeUnless? [.blockEntry, .key, .value, .blockEnd] true false
    | _ => some (p.emit .sequenceEnd)
  | .blockKey =>
    match p.next? with
    | some .key => (p.skip.expect .blockValue).nodeUnless? [.key, .value, .blockEnd] true true
    | some .blockEnd => some (p.skip.emit .mappingEnd)
    | _ => none
  | .blockValue =>
    match p.next? with
    | some .value => (p.skip.expect .blockKey).nodeUnless? [.key, .value, .blockEnd] true true
    | _ => some (p.expect .blockKey).emitEmpty
  | .flowItem first =>
    if p.next? = some .flowSequenceEnd then some (p.skip.emit .sequenceEnd)
    else do
      let p ← p.comma? first
      match p.next? with
      | some .key =>
        return ((p.skip.emit (.mappingStart {})).expect (.flowItem false)).expect .pairKey
      | some .flowSequenceEnd => return p.skip.emit .sequenceEnd
      | _ => (p.expect (.flowItem false)).node? false false
  | .pairKey =>
    match p.next? with
    | some .value | some .flowEntry | some .flowSequenceEnd =>
      some (p.skip.expect .pairValue).emitEmpty
    | _ => (p.expect .pairValue).node? false false
  | .pairValue =>
    match p.next? with
    | some .value =>
      (p.skip.expect .pairEnd).nodeUnless? [.flowEntry, .flowSequenceEnd] false false
    | _ => some (p.expect .pairEnd).emitEmpty
  | .pairEnd => some (p.emit .mappingEnd)
  | .flowKey first =>
    if p.next? = some .flowMappingEnd then some (p.skip.emit .mappingEnd)
    else do
      let p ← p.comma? first
      match p.next? with
      | some .key =>
        (p.skip.expect .flowValue).nodeUnless? [.value, .flowEntry, .flowMappingEnd] false false
      | some .flowMappingEnd => return p.skip.emit .mappingEnd
      | _ => (p.expect .flowNoValue).node? false false
  | .flowValue =>
    match p.next? with
    | some .value =>
      (p.skip.expect (.flowKey false)).nodeUnless? [.flowEntry, .flowMappingEnd] false false
    | _ => some (p.expect (.flowKey false)).emitEmpty
  | .flowNoValue => some (p.expect (.flowKey false)).emitEmpty

/-- Steps until every collection is closed. -/
def run? : Nat → Parser → Option Parser
  | 0, _ => none
  | fuel + 1, p =>
    match p.stack with
    | [] => some p
    | e :: stack => do run? fuel (← { p with stack }.step? e)

/-- The directives before a document: at most one version, of those that are understood, and no
handle twice. -/
def directives? : List Token → Bool → List (String × List UInt8) →
    Option (List (String × List UInt8) × List Token)
  | .directive (.version major minor) :: rest, seen, handles =>
    if seen || major ≠ 1 || (minor ≠ 1 && minor ≠ 2) then none
    else directives? rest true handles
  | .directive (.handle name start) :: rest, seen, handles =>
    if handles.any fun (other, _) => other = name then none
    else directives? rest seen (handles ++ [(name, start)])
  | tokens, _, handles => some (handles, tokens)

/-- The handles that stand for something in every document, unless a directive says otherwise. -/
def commonHandles : List (String × List UInt8) :=
  [("!", octets ['!']), ("!!", octets "tag:yaml.org,2002:".toList)]

/-- Whether a token that is no part of a document follows, or none. -/
def atDocumentEdge (p : Parser) : Bool :=
  match p.next? with
  | none => true
  | some (.directive _) => true
  | some t => t = .documentStart || t = .documentEnd

/-- The root of a document. -/
def root? (tokens : List Token) : Option Parser := do
  let (handles, rest) ← directives? tokens false []
  let p : Parser := { tokens := rest, handles := handles ++ commonHandles }
  let explicit := p.next? = some .documentStart
  if !explicit && rest.length ≠ tokens.length then none
  let p := if explicit then p.skip else p
  if explicit && p.atDocumentEdge then return p.emitEmpty else p.node? true false

end Parser

/-- **Events of the only document** of a text; a text without a document has none. Each event but
those of parts left out takes a token, so the steps are enough. -/
def Event.ofTokens? (tokens : List Token) : Option (List Event) :=
  if tokens.isEmpty then some []
  else do
    let p ← (← Parser.root? tokens).run? (4 * tokens.length + 8)
    if p.tokens.all (· = .documentEnd) then return p.events.reverse else none

end ApiScaffold.Yaml
