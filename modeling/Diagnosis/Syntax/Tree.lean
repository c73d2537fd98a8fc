/-!
# Syntax trees

A `Tree` describes a text by nested nodes. A node names its kind, the bytes it covers, the role it
has in its parent (its field) and its children in the order of the text. A tree never holds the text
itself.

A tree of a faulty text is still a tree: what could not be understood lies below nodes of kind
`ERROR`, and a token that had to be supposed is `missing`. `Tree.hasError` says whether there is
any such node.
-/

namespace Diagnosis.Syntax

/-- A node and everything below it. -/
structure Tree where
  /-- What the node is, such as `identifier` or `;`. -/
  kind : String
  /-- The offset of its first byte. -/
  start : Nat
  /-- The offset after its last byte. -/
  stop : Nat
  /-- Its role in its parent. -/
  field : Option String := none
  /-- Whether it is a construct of the language; punctuation is not. -/
  named : Bool := true
  /-- Whether it is a token that the text lacks. -/
  missing : Bool := false
  /-- Whether it is marked as faulty for a reason of its own. -/
  faulty : Bool := false
  /-- Its children. -/
  children : List Tree := []
  deriving Inhabited, Repr

namespace Tree

/-- The kind of a node for a stretch of text that fits no construct. -/
def errorKind : String := "ERROR"

mutual

/-- The number of nodes. -/
def size : Tree → Nat
  | ⟨_, _, _, _, _, _, _, children⟩ => sizeList children + 1

/-- The number of nodes of several trees. -/
def sizeList : List Tree → Nat
  | [] => 0
  | t :: ts => size t + sizeList ts

end

/-- Whether the node itself stands for a fault. -/
def isFault (t : Tree) : Bool := t.faulty || t.missing || t.kind == errorKind

mutual

/-- Whether the node or one below it stands for a fault. -/
def hasError : Tree → Bool
  | ⟨kind, _, _, _, _, missing, faulty, children⟩ =>
    faulty || missing || kind == errorKind || anyError children

/-- Whether one of several trees has an error. -/
def anyError : List Tree → Bool
  | [] => false
  | t :: ts => hasError t || anyError ts

end

/-- The first node along the first children that has no children. -/
def firstLeaf : Tree → Tree
  | ⟨kind, start, stop, field, named, missing, faulty, []⟩ =>
    ⟨kind, start, stop, field, named, missing, faulty, []⟩
  | ⟨_, _, _, _, _, _, _, t :: _⟩ => firstLeaf t

/-- The first child that has the given role. -/
def childAt? (t : Tree) (field : String) : Option Tree :=
  t.children.find? (·.field == some field)

/-- The children that are constructs of the language. -/
def namedChildren (t : Tree) : List Tree := t.children.filter (·.named)

/-- A tree has one node more than its children have together. -/
theorem size_eq (t : Tree) : t.size = sizeList t.children + 1 := by
  cases t; simp [size]

end Tree

end Diagnosis.Syntax
