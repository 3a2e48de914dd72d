import ApiScaffold.Yaml.Event

/-!
# Nodes of YAML text

A node is a scalar, a collection, or an alias that stands for a node with an anchor. An alias holds
the number that its anchor had: an anchor that is new takes the number of names so far, and one that
is used again takes that number too, which may later be taken by another. `Node.Document` is the root
with the anchored nodes.
-/

namespace ApiScaffold.Yaml

/-- **A node.** -/
inductive Node where
  | alias (anchor : Nat)
  | scalar (tag : Option (List UInt8)) (text : String) (style : ScalarStyle)
  | seq (tag : Option (List UInt8)) (items : List Node)
  | map (tag : Option (List UInt8)) (pairs : List (Node × Node))
  deriving Inhabited, Repr

namespace Node

/-- A collection that is still open: its tag, its place among the events, and its parts in reverse,
where the parts of a mapping are keys and values in turn. -/
structure Frame where
  isMap : Bool
  tag : Option (List UInt8)
  place : Nat
  parts : List Node

/-- **State of composing**: the number of events so far, the open collections, the finished root, the
numbers of names, the place of each number's node, and the finished nodes with an anchor by place. -/
structure Composer where
  place : Nat := 0
  frames : List Frame := []
  root : Option Node := none
  numbers : List (String × Nat) := []
  places : List (Nat × Nat) := []
  nodes : List (Nat × Node) := []

namespace Composer

/-- The number of the latest anchor of a name. -/
def number? (c : Composer) (name : String) : Option Nat :=
  (c.numbers.find? fun (other, _) => other = name).map (·.2)

/-- The number of distinct names. -/
def nameCount (c : Composer) : Nat := c.numbers.length

/-- **Anchors** the node that starts here. -/
def anchor (c : Composer) : Option String → Composer
  | none => c
  | some name =>
    let number := c.nameCount
    { c with
      numbers := (name, number) :: c.numbers.filter fun (other, _) => other ≠ name
      places := (number, c.place) :: c.places }

/-- Puts a finished node into the innermost open collection, and keeps it if it has an anchor. -/
def put (c : Composer) (place : Nat) (n : Node) : Composer :=
  let anchored := c.places.any fun (_, other) => other = place
  let c := if anchored then { c with nodes := (place, n) :: c.nodes } else c
  match c.frames with
  | [] => { c with root := some n }
  | f :: frames => { c with frames := { f with parts := n :: f.parts } :: frames }

/-- Keys and values in turn as pairs. -/
def pairs : List Node → List (Node × Node)
  | key :: value :: rest => (key, value) :: pairs rest
  | _ => []

/-- Closes the innermost collection. -/
def close (c : Composer) : Composer :=
  match c.frames with
  | [] => c
  | f :: frames =>
    let parts := f.parts.reverse
    let n := if f.isMap then Node.map f.tag (pairs parts) else Node.seq f.tag parts
    { c with frames }.put f.place n

/-- **One event**; an alias needs an anchor before it. -/
def step? (c : Composer) (e : Event) : Option Composer := do
  let c ←
    match e with
    | .alias name => (c.number? name).map fun n => c.put c.place (.alias n)
    | .scalar q text style => some ((c.anchor q.anchor).put c.place (.scalar q.tag text style))
    | .sequenceStart q =>
      let c := c.anchor q.anchor
      some { c with frames := ⟨false, q.tag, c.place, []⟩ :: c.frames }
    | .mappingStart q =>
      let c := c.anchor q.anchor
      some { c with frames := ⟨true, q.tag, c.place, []⟩ :: c.frames }
    | .sequenceEnd => some c.close
    | .mappingEnd => some c.close
  return { c with place := c.place + 1 }

end Composer

/-- **A document**: its root, the node of each number, and the number of its events. -/
structure Document where
  root : Node
  anchored : List (Nat × Node)
  eventCount : Nat

/-- The node that a number stands for at the end of the document. -/
def Composer.anchored (c : Composer) : List (Nat × Node) :=
  c.places.filterMap fun (number, place) =>
    (c.nodes.find? fun (other, _) => other = place).map fun (_, n) => (number, n)

/-- **Document of events.** -/
def Document.ofEvents? (events : List Event) : Option Document := do
  let c ← events.foldlM Composer.step? {}
  return ⟨← c.root, c.anchored, events.length⟩

/-- The node of a number. -/
def Document.target? (d : Document) (number : Nat) : Option Node :=
  (d.anchored.find? fun (other, _) => other = number).map (·.2)

end Node

end ApiScaffold.Yaml
