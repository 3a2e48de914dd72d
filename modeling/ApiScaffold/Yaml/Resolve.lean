import ApiScaffold.Data.Decode
import ApiScaffold.Data.Outline
import ApiScaffold.Yaml.Node

/-!
# Types of YAML scalars

A plain scalar without a tag is `null`, a truth value, a number or a text by its spelling, and a
quoted one is a text. `Node.toData?` gives the data of a node as far as an outline looks at it: aliases
are followed, at most so often as the document allows, and collections nest at most so deep as the
limit says.
-/

namespace ApiScaffold.Yaml

/-- The text after an expected start. -/
def after? (start : List Char) (cs : List Char) : Option (List Char) :=
  if start.isPrefixOf cs then some (cs.drop start.length) else none

/-- The natural that digits of a base stand for; there has to be a digit. -/
def digits? (base : Nat) (cs : List Char) : Option Nat :=
  if cs.isEmpty then none
  else
    cs.foldlM
      (fun n c => (hexValue? c).bind fun d => if d < base then some (base * n + d) else none) 0

/-- Whether a text is a number with needless zeros in front, which is no number. -/
def hasNeedlessZeros (cs : List Char) : Bool :=
  let cs := match cs with
    | '-' :: rest => rest
    | '+' :: rest => rest
    | cs => cs
  cs.length > 1 && cs.head? = some '0' && cs.all Char.isDigit

/-- The natural of digits with the mark of their base, or of decimal digits. -/
def basedDigits? (cs : List Char) : Option Nat :=
  (((after? ['0', 'x'] cs).bind (digits? 16)).orElse fun _ =>
    ((after? ['0', 'o'] cs).bind (digits? 8)).orElse fun _ =>
      (after? ['0', 'b'] cs).bind (digits? 2)).orElse fun _ => digits? 10 cs

/-- **The integer** that a text spells. -/
def integer? (cs : List Char) : Option Int :=
  if hasNeedlessZeros cs then none
  else
    match cs with
    | '-' :: rest => (basedDigits? rest).map fun n => -(n : Int)
    | '+' :: rest => (basedDigits? rest).map Int.ofNat
    | _ => (basedDigits? cs).map Int.ofNat

/-- The exponent of a decimal, `0` without one. -/
def exponent? (cs : List Char) : Option Int :=
  match cs with
  | [] => some 0
  | e :: rest =>
    if e = 'e' ∨ e = 'E' then
      match rest with
      | '-' :: ds => (digits? 10 ds).map fun n => -(n : Int)
      | '+' :: ds => (digits? 10 ds).map Int.ofNat
      | ds => (digits? 10 ds).map Int.ofNat
    else none

/-- **The decimal** that a text spells: digits with an optional point among or around them, and an
optional exponent. -/
def decimal? (negative : Bool) (cs : List Char) : Option Binary64 := do
  let whole := cs.takeWhile Char.isDigit
  let rest := cs.dropWhile Char.isDigit
  let (fraction, rest) :=
    match rest with
    | '.' :: rest => (rest.takeWhile Char.isDigit, rest.dropWhile Char.isDigit)
    | rest => ([], rest)
  let digits ← digits? 10 (whole ++ fraction)
  let e ← exponent? rest
  Binary64.ofDecimal? negative digits (e - fraction.length)

/-- Whether a text spells an infinity. -/
def isInfinity (s : String) : Bool := s = ".inf" || s = ".Inf" || s = ".INF"

/-- Whether a text spells a not-a-number. -/
def isNotANumber (s : String) : Bool := s = ".nan" || s = ".NaN" || s = ".NAN"

/-- **The number with a point or exponent** that a text spells; one that is too large is none. -/
def float? (s : String) : Option Leaf :=
  if isNotANumber s || isInfinity s then some .nonFinite
  else
    match s.toList with
    | '-' :: rest =>
      if isInfinity (String.ofList rest) then some .nonFinite else (decimal? true rest).map .float
    | '+' :: rest =>
      if isInfinity (String.ofList rest) then some .nonFinite else (decimal? false rest).map .float
    | cs => (decimal? false cs).map .float

/-- The leaf of an integer: those of 64 bits can be read, those of 128 are known to be integers, and
larger ones are not seen as integers. -/
def integerLeaf? (n : Int) : Option Leaf :=
  if -(twoTo 63 : Int) ≤ n ∧ n < (twoTo 64 : Int) then some (.int n)
  else if -(twoTo 127 : Int) ≤ n ∧ n < (twoTo 128 : Int) then some .unreadable
  else none

/-- The leaf of a text that spells an integer. -/
def integerLeafOf? (s : String) : Option Leaf := (integer? s.toList).bind integerLeaf?

/-- The leaf of a text that spells `null`. -/
def nullLeaf? (s : String) : Option Leaf := if Data.isNullText s then some .null else none

/-- **The leaf of a plain scalar** without a tag. -/
def plainLeaf (s : String) : Leaf :=
  if s.isEmpty then .null
  else
    ((((nullLeaf? s).orElse fun _ => (Data.flagText? s).map .bool).orElse fun _ =>
      integerLeafOf? s).orElse fun _ =>
        if hasNeedlessZeros s.toList then none else float? s).getD (.text s)

/-- What the tags of the common types start with. -/
def commonTag : List UInt8 := octets "tag:yaml.org,2002:".toList

/-- The type that a tag asks for. -/
def typeTag (tag : List UInt8) : TypeTag :=
  if tag = commonTag ++ octets "null".toList then .null
  else if tag = commonTag ++ octets "bool".toList then .bool
  else if tag = commonTag ++ octets "int".toList then .int
  else if tag = commonTag ++ octets "float".toList then .float
  else .other

/-- Whether an application defines a tag. -/
def isLocal (tag : List UInt8) : Bool := (octets ['!']).isPrefixOf tag

/-- The label of a tag that an application defines, if it is a text. -/
def label? (tag : Option (List UInt8)) : Option String :=
  match tag with
  | some tag => if isLocal tag then octetText? (tag.drop 1) else none
  | none => none

/-- Data under the label of its tag. -/
def labelledBy (tag : Option (List UInt8)) (d : Data) : Data :=
  match label? tag with
  | some label => .labelled label d
  | none => d

/-- The leaf of a scalar without a tag. -/
def untaggedLeaf (s : String) (style : ScalarStyle) : Leaf :=
  if style = .plain then plainLeaf s else .text s

/-- **The leaf of a scalar** with a tag: one of a type that its spelling does not suit is unreadable, and
one of a type that spellings do not have is a text. A tag that an application defines asks for none. -/
def taggedLeaf (tag : List UInt8) (s : String) (style : ScalarStyle) : Leaf :=
  match typeTag tag with
  | .bool => ((Data.flagText? s).map Leaf.bool).getD .unreadable
  | .int => (integerLeafOf? s).getD .unreadable
  | .float => (float? s).getD .unreadable
  | .null => (nullLeaf? s).getD .unreadable
  | .other => if isLocal tag then untaggedLeaf s style else .text s

/-- A scalar with the tag that is left when its label is known. -/
def scalarOf (tag : Option (List UInt8)) (s : String) (style : ScalarStyle) : Scalar where
  text := s
  style := style
  tag := tag.map typeTag
  integer := (integerLeafOf? s).bind Data.Leaf.int?
  leaf :=
    match tag with
    | some tag => taggedLeaf tag s style
    | none => untaggedLeaf s style

/-- **Data of a scalar.** -/
def scalarData (tag : Option (List UInt8)) (s : String) (style : ScalarStyle) : Data :=
  match label? tag with
  | some label => .labelled label (.scalar (scalarOf none s style))
  | none => .scalar (scalarOf tag s style)

/-- A key: its text, and whether it is read as a text where any type is welcome. -/
structure Key where
  text : String
  isText : Bool

/-- The key that data is; only scalars are keys. -/
def Key.ofData? : Data → Option Key
  | .scalar { text, leaf := .text _, .. } => some ⟨text, true⟩
  | .scalar s => some ⟨s.text, false⟩
  | .labelled _ (.scalar s) => some ⟨s.text, false⟩
  | _ => none

/-- **Data of a map.** -/
def mapData (fields : List (Key × Data)) : Data :=
  let named := fields.map fun (key, d) => (key.text, d)
  if fields.all fun (key, _) => key.isText then .map .yaml named else .looseMap named

namespace Node

/-- Reading nodes: the state is the number of jumps to anchored nodes that are left. -/
abbrev Reading := StateT Nat Option

/-- The node behind an alias; following one takes one of the jumps that are left. -/
def followed (d : Document) : Node → Reading Node
  | .alias number => do
    match ← get with
    | 0 => failure
    | jumps + 1 =>
      set jumps
      StateT.lift (d.target? number)
  | n => return n

/-- **Data of a node**, as far as an outline looks at it, with the number of levels that may still be
opened. -/
def toData? (d : Document) : Nat → Outline → Node → Reading Data
  | levels, outline, n => do
    match ← followed d n with
    | .alias _ => failure
    | .scalar tag text style => return scalarData tag text style
    | .seq tag items =>
      match levels with
      | 0 => failure
      | levels + 1 => return labelledBy tag (.seq .yaml (← items.mapM (toData? d levels outline.item)))
    | .map tag pairs =>
      match levels with
      | 0 => failure
      | levels + 1 =>
        let fields ← pairs.filterMapM fun (k, v) => do
          let key ← StateT.lift (Key.ofData? (← toData? d levels .all k))
          match outline.field? key.text with
          | none => return none
          | some outline => return some (key, ← toData? d levels outline v)
        return labelledBy tag (mapData fields)

/-- The number of collections that may stand inside one another. -/
def nestingLimit : Nat := 128

/-- The number of jumps to anchored nodes that reading a document may take. -/
def jumpLimit (d : Document) : Nat := 100 * d.eventCount

/-- **Data of a document**, as far as an outline looks at it. -/
def Document.toData? (d : Document) (outline : Outline) : Option Data :=
  (Node.toData? d nestingLimit outline d.root).run' (jumpLimit d)

end Node

end ApiScaffold.Yaml
