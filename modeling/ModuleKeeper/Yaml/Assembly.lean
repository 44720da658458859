import ModuleKeeper.Value.Slots
import ModuleKeeper.Yaml.Merge

/-!
# Making values of nodes

Scalars are made at once. A collection is announced first and filled later,
when all that was announced before it is filled, so that a collection may hold
itself, and of several troubles the outermost is met first. Keys have to be
scalars; of equal keys the last value counts, at the place of the first.

What was made is a graph like the nodes. In the end it is unfolded to a value.
-/

namespace ModuleKeeper.Yaml

/-- What a node was made to. Collections name their nodes by number. -/
inductive Made where
  | value (v : Value)
  | list (items : List Nat)
  | map (entries : List (Nat × Nat))
  | set (members : List Nat)
  | pairs (pairs : List (Nat × Nat))
  deriving Inhabited

/-- The work on the nodes of a document. -/
structure Assembly where
  nodes : Node.Table
  /-- What was made of the nodes, by number. -/
  made : Array (Option Made)
  /-- The collections that were announced and are not filled, last one first. -/
  waiting : List Nat

namespace Assembly

/-- The start of the work. -/
def start (nodes : Node.Table) : Assembly := ⟨nodes, Array.replicate nodes.size none, []⟩

/-- What was made of a node. -/
def made? (a : Assembly) (n : Nat) : Option Made := (a.made[n]?).join

/-- Notes what was made of a node. -/
def note (a : Assembly) (n : Nat) (m : Made) : Assembly :=
  { a with made := a.made.setIfInBounds n (some m) }

/-! ## Scalars -/

/-- Whether a tag is one of lists of pairs. -/
def isPairsTag (t : Text) : Bool := t = Tag.omap || t = Tag.pairs

/-- The collection without anything in it that a tag asks for, if it asks for one. -/
def emptyOf? (t : Text) : Option Made :=
  if t = Tag.seq then some (.list [])
  else if t = Tag.map then some (.map [])
  else if t = Tag.set then some (.set [])
  else if isPairsTag t then some (.pairs [])
  else none

/-- The text of a node that is used as a scalar: a mapping may name one for itself. -/
def textOf (t : Node.Table) : Nat → Nat → Except Trouble (List CodePoint)
  | 0, _ => .error .endless
  | depth + 1, n =>
    match Node.Table.get t n with
    | .scalar _ cs => .ok cs
    | .mapping _ es =>
      match es.find? fun e => (Node.Table.get t e.1).tag = Tag.value with
      | some e => textOf t depth e.2
      | none => .error .malformed
    | .sequence _ _ => .error .malformed

/--
The value of a node whose tag is none of collections. Its text is looked for only if the
tag is known. A point in time is no mapping.
-/
def scalarValue (t : Node.Table) (n : Nat) : Except Trouble Value :=
  let node := Node.Table.get t n
  if Scalar.knownTags.contains node.tag then do
    let cs ← textOf t (t.size + 1) n
    match node with
    | .mapping tag _ => if tag = Tag.timestamp then .error .wrongType else Scalar.read tag cs
    | _ => Scalar.read node.tag cs
  else .error .malformed

/-! ## Making -/

/-- Makes a node, unless it was made before. -/
def make (a : Assembly) (n : Nat) : Except Trouble Assembly :=
  if (a.made? n).isSome then .ok a
  else
    match emptyOf? (Node.Table.get a.nodes n).tag with
    | some m => .ok { a.note n m with waiting := n :: a.waiting }
    | none => (scalarValue a.nodes n).map fun v => a.note n (.value v)

/-- The value that a node was made to, if it is a scalar. -/
def scalar? (a : Assembly) (n : Nat) : Option Value :=
  match a.made? n with
  | some (.value v) => some v
  | _ => none

/--
Whether a node is no number in a spelling other than the word for that. Then it is the
same as nothing but itself.
-/
def isUnique (a : Assembly) (n : Nat) : Bool :=
  match a.scalar? n, textOf a.nodes (a.nodes.size + 1) n with
  | some (.float .nan), .ok cs => !Scalar.isNanWord cs
  | _, _ => false

/-- Whether two nodes are the same key. -/
def areSame (a : Assembly) (m n : Nat) : Bool :=
  m == n ||
    (match a.scalar? m, a.scalar? n with
      | some v, some w => v.sameKey w && !a.isUnique m && !a.isUnique n
      | _, _ => false)

/-- Sets an entry: in its place if the key is there, at the end otherwise. -/
def put (a : Assembly) (key value : Nat) : List (Nat × Nat) → List (Nat × Nat)
  | [] => [(key, value)]
  | e :: es => if a.areSame e.1 key then (e.1, value) :: es else e :: put a key value es

/-- Makes a key, which must not be a collection, and then the node of its value. -/
def makeEntry (entries : List (Nat × Nat)) (a : Assembly) (e : Nat × Nat) :
    Except Trouble (List (Nat × Nat) × Assembly) := do
  let a ← a.make e.1
  if (a.scalar? e.1).isSome then
    let a ← a.make e.2
    return (a.put e.1 e.2 entries, a)
  else .error .malformed

/-- Makes entries in order, after `entries`. -/
def makeEntries (entries : List (Nat × Nat)) (a : Assembly) :
    List (Nat × Nat) → Except Trouble (List (Nat × Nat) × Assembly)
  | [] => .ok (entries, a)
  | e :: es =>
    match makeEntry entries a e with
    | .error t => .error t
    | .ok (entries, a) => makeEntries entries a es

/-- The single entry of a node in a list of pairs. -/
def pair? (t : Node.Table) (n : Nat) : Except Trouble (Nat × Nat) :=
  match Node.Table.get t n with
  | .mapping _ [e] => .ok e
  | _ => .error .malformed

/-- Makes pairs in order, after `done`, last one first. -/
def makePairs (done : List (Nat × Nat)) (a : Assembly) :
    List Nat → Except Trouble (List (Nat × Nat) × Assembly)
  | [] => .ok (done.reverse, a)
  | n :: ns => do
    let e ← pair? a.nodes n
    let a ← a.make e.1
    let a ← a.make e.2
    makePairs (e :: done) a ns

/-- Fills a collection that was announced. -/
def fill (a : Assembly) (n : Nat) : Except Trouble Assembly :=
  match a.made? n, Node.Table.get a.nodes n with
  | some (.list _), .sequence _ ns => (ns.foldlM make a).map fun a => a.note n (.list ns)
  | some (.pairs _), .sequence _ ns =>
    (makePairs [] a ns).map fun (ps, a) => a.note n (.pairs ps)
  | some (.map _), .mapping _ _ => do
    let nodes ← Node.Table.merged a.nodes n
    let (entries, a) ← makeEntries [] { a with nodes := nodes } (Node.Table.entries nodes n)
    return a.note n (.map entries)
  | some (.set _), .mapping _ _ => do
    let nodes ← Node.Table.merged a.nodes n
    let (entries, a) ← makeEntries [] { a with nodes := nodes } (Node.Table.entries nodes n)
    return a.note n (.set (entries.map (·.1)))
  | some (.value _), _ => .ok a
  | _, _ => .error .malformed

/-- Fills collections, then those that were announced by that, and so on. -/
def fillAll : Nat → List Nat → Assembly → Except Trouble Assembly
  | 0, _, a => .ok a
  | levels + 1, ns, a =>
    if ns.isEmpty then .ok a
    else
      match ns.foldlM fill { a with waiting := [] } with
      | .error t => .error t
      | .ok a => fillAll levels a.waiting.reverse a

/-- Makes a node and all that is in it. -/
def complete (a : Assembly) (n : Nat) : Except Trouble Assembly := do
  let a ← a.make n
  fillAll (a.nodes.size + 1) a.waiting.reverse a

/-! ## Unfolding -/

/-- Values that were unfolded already, by the numbers of their nodes. -/
abbrev Known : Type := Array (Option Value)

/-- An unfolded value, and whether it contains a collection around it. -/
abbrev Unfolded : Type := Value × Bool

/-- The values of keys. -/
def keys (a : Assembly) (ns : List Nat) : List Value := ns.map fun n => (a.scalar? n).getD .null

/-- Unfolds the parts of a collection in order. -/
def unfoldParts (unfold : Nat → Known → Unfolded × Known) (known : Known) :
    List Nat → (List Value × Bool) × Known
  | [] => (([], false), known)
  | n :: ns =>
    let ((v, open1), known) := unfold n known
    let ((vs, open2), known) := unfoldParts unfold known ns
    ((v :: vs, open1 || open2), known)

/--
Unfolds a node. `around` are the lists and maps around it, innermost first, with their
kinds; one of these is not unfolded again. A value without such a place is kept.
-/
def unfold (a : Assembly) : Nat → List (Nat × Bool) → Nat → Known → Unfolded × Known
  | 0, _, _, known => ((.null, false), known)
  | depth + 1, around, n, known =>
    match (known[n]?).join, around.findIdx? (·.1 = n) with
    | some v, _ => ((v, false), known)
    | none, some levels =>
      ((.again levels ((around[levels]?.map (·.2)).getD false), true), known)
    | none, none =>
      let inside (isMap : Bool) (ns : List Nat) : (List Value × Bool) × Known :=
        unfoldParts (unfold a depth ((n, isMap) :: around)) known ns
      let ((v, isOpen), known) : Unfolded × Known :=
        match (a.made? n).getD (.value .null) with
        | .value v => ((v, false), known)
        | .set members => ((.set (Value.ordered (a.keys members)), false), known)
        | .list ns =>
          let ((vs, isOpen), known) := inside false ns
          ((.list vs, isOpen), known)
        | .map entries =>
          let ((vs, isOpen), known) := inside true (entries.map (·.2))
          ((.map ((a.keys (entries.map (·.1))).zip vs), isOpen), known)
        | .pairs ps =>
          let ((ks, open1), known) := inside false (ps.map (·.1))
          let ((vs, open2), known) :=
            unfoldParts (unfold a depth ((n, false) :: around)) known (ps.map (·.2))
          ((.list (List.zipWith .pair ks vs), open1 || open2), known)
      ((v, isOpen), if isOpen then known else known.setIfInBounds n (some v))

/-- The value of a node. The values of a map are unfolded each for itself. -/
def valueOf (a : Assembly) (n : Nat) : Value :=
  let known : Known := Array.replicate a.nodes.size none
  let depth := a.nodes.size + 1
  match a.made? n with
  | some (.map entries) =>
    let ((vs, _), _) := unfoldParts (a.unfold depth []) known (entries.map (·.2))
    .map ((a.keys (entries.map (·.1))).zip vs)
  | _ => (a.unfold depth [] n known).1.1

end Assembly

end ModuleKeeper.Yaml
