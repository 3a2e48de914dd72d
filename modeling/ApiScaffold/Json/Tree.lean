import ApiScaffold.Json.Token

/-!
# Trees of JSON text

A tree is what a text says before its leaves are read: repeated keys are all there, and a leaf or key
that cannot be read is a gap. `Tree.ofTokens?` builds it from tokens with an explicit stack of open
arrays and objects, so the depth of a text is no limit here; `Tree.read?` reads a whole text.
-/

namespace ApiScaffold.Json

/-- **A parsed text.** -/
inductive Tree where
  | null
  | bool (value : Bool)
  | number (value : Option NumberValue)
  | string (value : Option String)
  | array (items : List Tree)
  | object (fields : List (Option String × Tree))
  deriving Inhabited, Repr

namespace Tree

/-- An array or object that is still open; its parts are reversed. -/
inductive Frame where
  | array (items : List Tree)
  | object (fields : List (Option String × Tree))
  | field (fields : List (Option String × Tree)) (key : Option String)

/-- What may come next. -/
inductive Expecting where
  | value
  | valueOrClose
  | keyOrClose
  | key
  | colon
  | commaOrClose
  | nothing (result : Tree)

/-- The state of the builder: what may come next, and the open frames, innermost first. -/
structure Builder where
  expecting : Expecting
  frames : List Frame

/-- Puts a finished value into the innermost frame. -/
def Builder.place (v : Tree) : List Frame → Option Builder
  | [] => some ⟨.nothing v, []⟩
  | .array items :: frames => some ⟨.commaOrClose, .array (v :: items) :: frames⟩
  | .field fields key :: frames => some ⟨.commaOrClose, .object ((key, v) :: fields) :: frames⟩
  | .object _ :: _ => none

/-- The token where a value starts. -/
def Builder.begin (frames : List Frame) : Token → Option Builder
  | .null => place .null frames
  | .bool b => place (.bool b) frames
  | .number n => place (.number n) frames
  | .string s => place (.string s) frames
  | .openArray => some ⟨.valueOrClose, .array [] :: frames⟩
  | .openObject => some ⟨.keyOrClose, .object [] :: frames⟩
  | _ => none

/-- Closes the innermost frame, if the token fits it. -/
def Builder.close : List Frame → Token → Option Builder
  | .array items :: frames, .closeArray => place (.array items.reverse) frames
  | .object fields :: frames, .closeObject => place (.object fields.reverse) frames
  | _, _ => none

/-- The key of a field. -/
def Builder.key : List Frame → Token → Option Builder
  | .object fields :: frames, .string s => some ⟨.colon, .field fields s :: frames⟩
  | _, _ => none

/-- **One token.** -/
def Builder.step (b : Builder) (t : Token) : Option Builder :=
  match b.expecting with
  | .value => begin b.frames t
  | .valueOrClose => if t = .closeArray then close b.frames t else begin b.frames t
  | .keyOrClose => if t = .closeObject then close b.frames t else key b.frames t
  | .key => key b.frames t
  | .colon => if t = .colon then some ⟨.value, b.frames⟩ else none
  | .commaOrClose =>
    if t = .comma then
      match b.frames with
      | .array _ :: _ => some ⟨.value, b.frames⟩
      | .object _ :: _ => some ⟨.key, b.frames⟩
      | _ => none
    else close b.frames t
  | .nothing _ => none

/-- The finished value. -/
def Builder.result? (b : Builder) : Option Tree :=
  match b.expecting with
  | .nothing v => some v
  | _ => none

/-- The tree of exactly one value. -/
def ofTokens? (tokens : List Token) : Option Tree :=
  (tokens.foldlM Builder.step ⟨.value, []⟩).bind Builder.result?

/-- **Tree of a text.** -/
def read? (text : String) : Option Tree := (Token.scan? text.toList).bind ofTokens?

end Tree

end ApiScaffold.Json
