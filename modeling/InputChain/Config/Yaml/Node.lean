import InputChain.Config.Yaml.Token

/-!
# Nodes of a YAML document

A document is a node: a text, or a collection of nodes. A node can have an anchor, and another node
can stand for it.

* `Yaml.Node`, `Yaml.Node.weight`, `Yaml.Node.anchored`.
* `Yaml.Document`, `Yaml.Document.anchored?`.
-/

namespace InputChain.Yaml

/-- A node of a document. Anchors are known by numbers. -/
inductive Node where
  /-- Stands for the node with an anchor. -/
  | alias (anchor : Nat)
  | scalar (anchor : Option Nat) (tag : Option Bytes) (isPlain : Bool) (text : String)
  | sequence (anchor : Option Nat) (items : List Node)
  | mapping (anchor : Option Nat) (entries : List (Node × Node))

namespace Node

mutual

/-- The size of a node: a collection counts for its beginning and its end. -/
def weight : Node → Nat
  | .alias _ => 1
  | .scalar _ _ _ _ => 1
  | .sequence _ items => 2 + weightOfItems items
  | .mapping _ entries => 2 + weightOfEntries entries

/-- The size of some nodes. -/
def weightOfItems : List Node → Nat
  | [] => 0
  | item :: rest => item.weight + weightOfItems rest

/-- The size of the keys and values of some entries. -/
def weightOfEntries : List (Node × Node) → Nat
  | [] => 0
  | (key, value) :: rest => key.weight + value.weight + weightOfEntries rest

end

/-- The anchor of a node. -/
def anchor? : Node → Option Nat
  | .alias _ => none
  | .scalar anchor _ _ _ => anchor
  | .sequence anchor _ => anchor
  | .mapping anchor _ => anchor

mutual

/-- The nodes with anchors in a node, in the order in which they begin. -/
def anchored (node : Node) : List (Nat × Node) :=
  (node.anchor?.toList.map (·, node)) ++
    match node with
    | .alias _ => []
    | .scalar _ _ _ _ => []
    | .sequence _ items => anchoredInItems items
    | .mapping _ entries => anchoredInEntries entries

/-- The nodes with anchors in some nodes. -/
def anchoredInItems : List Node → List (Nat × Node)
  | [] => []
  | item :: rest => item.anchored ++ anchoredInItems rest

/-- The nodes with anchors in some entries. -/
def anchoredInEntries : List (Node × Node) → List (Nat × Node)
  | [] => []
  | (key, value) :: rest => key.anchored ++ value.anchored ++ anchoredInEntries rest

end

end Node

/-- A document. -/
structure Document where
  /-- The node of the document. There is none in a text without any content. -/
  root : Option Node

/-- The node that the anchor of a number has: of several the last one. -/
def Document.anchored? (document : Document) (anchor : Nat) : Option Node :=
  let nodes := (document.root.map Node.anchored).getD []
  nodes.reverse.lookup anchor

/-- The size of a document. -/
def Document.weight (document : Document) : Nat :=
  (document.root.map Node.weight).getD 1

end InputChain.Yaml
