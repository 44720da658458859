import ModuleKeeper.Yaml.Scalar
import ModuleKeeper.Yaml.Token

/-!
# Nodes of a document

What tokens describe: scalars, sequences and mappings with their tags. The
nodes of a document are numbered, and collections name their nodes by number,
because a reference is the very node that its anchor names. A collection is
known under its anchor from its start on, so that it may hold a reference to
itself. No anchor is used twice.

Every call of the parser but the first of each kind takes a token, so twice
the number of tokens bounds the calls.

## Main results

* `get_add`, `get_set`: an added or changed node is found under its number.
-/

namespace ModuleKeeper.Yaml

/-- A node with its tag. Collections name their nodes by number. -/
inductive Node where
  | scalar (tag : Text) (text : List CodePoint)
  | sequence (tag : Text) (items : List Nat)
  | mapping (tag : Text) (entries : List (Nat × Nat))
  deriving DecidableEq, Inhabited

namespace Node

/-- The tag of a node. -/
def tag : Node → Text
  | scalar t _ => t
  | sequence t _ => t
  | mapping t _ => t

/-- The node with another tag. -/
def withTag (t : Text) : Node → Node
  | scalar _ cs => scalar t cs
  | sequence _ ns => sequence t ns
  | mapping _ es => mapping t es

/-- The scalar that stands where nothing is written. -/
def blank : Node := scalar Tag.null []

/-- The nodes of a document by their numbers. -/
abbrev Table : Type := Array Node

namespace Table

/-- The node of a number. -/
def get (t : Table) (n : Nat) : Node := t.getD n blank

/-- Adds a node; the result has its number. -/
def add (t : Table) (node : Node) : Nat × Table := (t.size, t.push node)

theorem get_add (t : Table) (node : Node) : get (add t node).2 (add t node).1 = node := by
  simp [get, add, Array.getD]

/-- Changes the node of a number. -/
def set (t : Table) (n : Nat) (node : Node) : Table := t.setIfInBounds n node

theorem get_set {t : Table} {n : Nat} (h : n < t.size) (node : Node) :
    get (set t n node) n = node := by
  simp [get, set, Array.getD, h]

end Table

/-- The state of the parser. -/
structure Parser where
  tokens : List Token
  nodes : Table
  /-- The anchors so far, with the numbers of their nodes. -/
  anchors : List (Text × Nat)
  /-- What the handles in tags stand for. -/
  handles : List (Text × Text)

/-- A step of the parser. -/
abbrev Parse (α : Type) := Except Trouble (α × Parser)

namespace Parser

/-- Drops the next token. -/
def drop (p : Parser) : Parser := { p with tokens := p.tokens.drop 1 }

/-- The failure at a token that does not belong here. -/
def refuse {α : Type} (p : Parser) : Parse α := .error (Token.unexpected p.tokens)

/-- Adds a node. -/
def add (p : Parser) (node : Node) : Nat × Parser :=
  let (n, nodes) := Table.add p.nodes node
  (n, { p with nodes := nodes })

/-- Completes a node. -/
def complete (p : Parser) (n : Nat) (node : Node) : Nat × Parser :=
  (n, { p with nodes := Table.set p.nodes n node })

/-- The node of a reference. -/
def resolve (p : Parser) (name : Text) : Except Trouble Nat :=
  match p.anchors.find? (·.1 = name) with
  | some (_, n) => .ok n
  | none => .error .malformed

/-- Checks that what follows could be read and that an anchor is new. -/
def allowAnchor (p : Parser) (anchor : Option Text) : Except Trouble Unit :=
  match p.tokens, anchor with
  | .broken t :: _, _ => .error t
  | _, none => .ok ()
  | _, some a => if p.anchors.any (·.1 = a) then .error .malformed else .ok ()

/-- Gives an anchor to a node. -/
def bind (p : Parser) (anchor : Option Text) (n : Nat) : Parser :=
  match anchor with
  | none => p
  | some a => { p with anchors := (a, n) :: p.anchors }

/-- Adds a node under an anchor. -/
def name (p : Parser) (anchor : Option Text) (node : Node) : Nat × Parser :=
  let (n, p) := p.add node
  (n, p.bind anchor n)

/-- The full text of a tag. -/
def expand (p : Parser) (handle : Option Text) (suffix : Text) : Except Trouble Text :=
  match handle with
  | none => .ok suffix
  | some h =>
    match p.handles.find? (·.1 = h) with
    | some e => .ok (e.2 ++ suffix)
    | none => .error .malformed

/-- The anchor and the tag before a node, in either order. -/
def properties (p : Parser) : Parse (Option Text × Option Text) :=
  match p.tokens with
  | .anchor a :: .tag h s :: _ => (p.expand h s).map fun t => ((some a, some t), p.drop.drop)
  | .anchor a :: _ => .ok ((some a, none), p.drop)
  | .tag _ _ :: .broken t :: _ => .error t
  | .tag h s :: .anchor a :: _ => (p.expand h s).map fun t => ((some a, some t), p.drop.drop)
  | .tag h s :: _ => (p.expand h s).map fun t => ((none, some t), p.drop)
  | _ => .ok ((none, none), p)

end Parser

/-- The tag of a collection: the one that is written, unless it is missing or says nothing. -/
def collectionTag (written : Option Text) (usual : Text) : Text :=
  match written with
  | none => usual
  | some t => if t = "!" then usual else t

/-- The tag of a scalar: without a written one, it follows from the text. -/
def scalarTag (written : Option Text) (text : List CodePoint) (plain : Bool) : Text :=
  match written with
  | none => if plain then Tag.ofPlain text else Tag.str
  | some t => if t = "!" then Tag.ofPlain text else t

/-- Where a node stands: what may start there. -/
structure Position where
  /-- Whether blocks may start. -/
  block : Bool
  /-- Whether items may start without a block of their own. -/
  items : Bool

/-- Whether a token ends a value or a key of a block. -/
def endsEntry : List Token → Bool
  | .key :: _ => true
  | .value :: _ => true
  | .blockEnd :: _ => true
  | _ => false

/-- Whether a token ends an item of a block. -/
def endsItem : List Token → Bool
  | .dash :: _ => true
  | .blockEnd :: _ => true
  | _ => false

/-- Whether a token ends an item without a block of its own. -/
def endsLooseItem (ts : List Token) : Bool := endsItem ts || endsEntry ts

/-- Whether a token ends an entry between brackets, the closing one being `closing`. -/
def endsFlow (closing : Token) : List Token → Bool
  | .comma :: _ => true
  | t :: _ => t = closing
  | [] => false

mutual

/-- The node at the start of the tokens. -/
def parseAt : Nat → Position → Parser → Parse Nat
  | 0, _, p => p.refuse
  | fuel + 1, position, p =>
    match p.tokens with
    | .reference name :: _ => (p.resolve name).map (·, p.drop)
    | _ =>
      match p.properties with
      | .error t => .error t
      | .ok ((anchor, written), p) =>
        match p.allowAnchor anchor with
        | .error t => .error t
        | .ok () => parseContent fuel position anchor written p

/-- The content of a node behind its anchor and its tag. -/
def parseContent : Nat → Position → Option Text → Option Text → Parser → Parse Nat
  | 0, _, _, _, p => p.refuse
  | fuel + 1, position, anchor, written, p =>
    let items := sequence (collectionTag written Tag.seq)
    let entries := mapping (collectionTag written Tag.map)
    match p.tokens with
    | .scalar text plain :: _ =>
      .ok (p.drop.name anchor (scalar (scalarTag written text plain) text))
    | .flowSequence :: _ =>
      let (n, p) := p.drop.name anchor (items [])
      (parseFlowItems fuel true [] p).map fun (ns, p) => p.complete n (items ns)
    | .flowMapping :: _ =>
      let (n, p) := p.drop.name anchor (entries [])
      (parseFlowEntries fuel true [] p).map fun (es, p) => p.complete n (entries es)
    | t :: _ =>
      if t = .dash && position.items then
        let (n, p) := p.name anchor (items [])
        (parseLooseItems fuel [] p).map fun (ns, p) => p.complete n (items ns)
      else if t = .blockSequence && position.block then
        let (n, p) := p.drop.name anchor (items [])
        (parseItems fuel [] p).map fun (ns, p) => p.complete n (items ns)
      else if t = .blockMapping && position.block then
        let (n, p) := p.drop.name anchor (entries [])
        (parseEntries fuel [] p).map fun (es, p) => p.complete n (entries es)
      else if anchor.isSome || written.isSome then
        .ok (p.name anchor (scalar (scalarTag written [] true) []))
      else p.refuse
    | [] =>
      if anchor.isSome || written.isSome then
        .ok (p.name anchor (scalar (scalarTag written [] true) []))
      else p.refuse

/-- The items of a block up to its end. -/
def parseItems : Nat → List Nat → Parser → Parse (List Nat)
  | 0, _, p => p.refuse
  | fuel + 1, done, p =>
    match p.tokens with
    | .dash :: rest =>
      if endsItem rest then
        let (n, p) := p.drop.add blank
        parseItems fuel (n :: done) p
      else
        match parseAt fuel ⟨true, false⟩ p.drop with
        | .error t => .error t
        | .ok (n, p) => parseItems fuel (n :: done) p
    | .blockEnd :: _ => .ok (done.reverse, p.drop)
    | _ => p.refuse

/-- The items at a place where a block of entries goes on. -/
def parseLooseItems : Nat → List Nat → Parser → Parse (List Nat)
  | 0, _, p => p.refuse
  | fuel + 1, done, p =>
    match p.tokens with
    | .dash :: rest =>
      if endsLooseItem rest then
        let (n, p) := p.drop.add blank
        parseLooseItems fuel (n :: done) p
      else
        match parseAt fuel ⟨true, false⟩ p.drop with
        | .error t => .error t
        | .ok (n, p) => parseLooseItems fuel (n :: done) p
    | _ => .ok (done.reverse, p)

/-- The entries of a block up to its end. Each starts with the mark of a key, written or implied. -/
def parseEntries : Nat → List (Nat × Nat) → Parser → Parse (List (Nat × Nat))
  | 0, _, p => p.refuse
  | fuel + 1, done, p =>
    match p.tokens with
    | .blockEnd :: _ => .ok (done.reverse, p.drop)
    | .key :: _ =>
      match parseHalf fuel p.drop with
      | .error t => .error t
      | .ok (k, p) =>
        match parseValue fuel p with
        | .error t => .error t
        | .ok (v, p) => parseEntries fuel ((k, v) :: done) p
    | _ => p.refuse

/-- The value behind a key of a block; blank if no colon follows. -/
def parseValue : Nat → Parser → Parse Nat
  | 0, p => p.refuse
  | fuel + 1, p =>
    match p.tokens with
    | .value :: _ => parseHalf fuel p.drop
    | _ => .ok (p.add blank)

/-- The key or the value of an entry of a block behind its mark. -/
def parseHalf : Nat → Parser → Parse Nat
  | 0, p => p.refuse
  | fuel + 1, p =>
    if endsEntry p.tokens then .ok (p.add blank) else parseAt fuel ⟨true, true⟩ p

/-- The key or the value of an entry between brackets behind its mark. -/
def parseFlowHalf : Nat → Bool → Token → Parser → Parse Nat
  | 0, _, _, p => p.refuse
  | fuel + 1, isKey, closing, p =>
    if endsFlow closing p.tokens || (isKey && p.tokens.head? = some .value) then .ok (p.add blank)
    else parseAt fuel ⟨false, false⟩ p

/-- The value of an entry between brackets; blank if no colon follows. -/
def parseFlowValue : Nat → Token → Parser → Parse Nat
  | 0, _, p => p.refuse
  | fuel + 1, closing, p =>
    match p.tokens with
    | .value :: _ => parseFlowHalf fuel false closing p.drop
    | _ => .ok (p.add blank)

/-- The items between brackets up to the closing one. An item may be a single entry. -/
def parseFlowItems : Nat → Bool → List Nat → Parser → Parse (List Nat)
  | 0, _, _, p => p.refuse
  | fuel + 1, first, done, p =>
    if p.tokens.head? = some .flowSequenceEnd then .ok (done.reverse, p.drop)
    else if !first && p.tokens.head? != some .comma then p.refuse
    else
      let p := if first then p else p.drop
      match p.tokens with
      | .flowSequenceEnd :: _ => .ok (done.reverse, p.drop)
      | .key :: _ =>
        match parseFlowHalf fuel true .flowSequenceEnd p.drop with
        | .error t => .error t
        | .ok (k, p) =>
          match parseFlowValue fuel .flowSequenceEnd p with
          | .error t => .error t
          | .ok (v, p) =>
            let (n, p) := p.add (mapping Tag.map [(k, v)])
            parseFlowItems fuel false (n :: done) p
      | _ =>
        match parseAt fuel ⟨false, false⟩ p with
        | .error t => .error t
        | .ok (n, p) => parseFlowItems fuel false (n :: done) p

/-- The entries between braces up to the closing one. A key may stand alone. -/
def parseFlowEntries : Nat → Bool → List (Nat × Nat) → Parser → Parse (List (Nat × Nat))
  | 0, _, _, p => p.refuse
  | fuel + 1, first, done, p =>
    if p.tokens.head? = some .flowMappingEnd then .ok (done.reverse, p.drop)
    else if !first && p.tokens.head? != some .comma then p.refuse
    else
      let p := if first then p else p.drop
      match p.tokens with
      | .flowMappingEnd :: _ => .ok (done.reverse, p.drop)
      | .key :: _ =>
        match parseFlowHalf fuel true .flowMappingEnd p.drop with
        | .error t => .error t
        | .ok (k, p) =>
          match parseFlowValue fuel .flowMappingEnd p with
          | .error t => .error t
          | .ok (v, p) => parseFlowEntries fuel false ((k, v) :: done) p
      | _ =>
        match parseAt fuel ⟨false, false⟩ p with
        | .error t => .error t
        | .ok (k, p) =>
          let (v, p) := p.add blank
          parseFlowEntries fuel false ((k, v) :: done) p

end

/-! ## Documents -/

/-- The handles that every document knows. -/
def usualHandles : List (Text × Text) := [("!", "!"), ("!!", Tag.core)]

/-- The directives before a document, with what its handles stand for. -/
def directives (versions : Nat) (handles : List (Text × Text)) :
    List Token → Except Trouble (List (Text × Text) × List Token)
  | .version major :: ts =>
    if versions ≠ 0 || major ≠ 1 then .error .malformed else directives 1 handles ts
  | .handle name expansion :: ts =>
    if handles.any (·.1 = name) then .error .malformed
    else directives versions (handles ++ [(name, expansion)]) ts
  | .directive :: ts => directives versions handles ts
  | ts => .ok (handles ++ usualHandles, ts)

/-- Whether a token stands before or behind a document. -/
def endsDocument : List Token → Bool
  | [] => true
  | .documentStart :: _ => true
  | .documentEnd :: _ => true
  | .version _ :: _ => true
  | .handle _ _ :: _ => true
  | .directive :: _ => true
  | _ => false

/-- Checks that nothing follows a document. Directives that follow are read for that. -/
def nothingAfter (ts : List Token) : Except Trouble Unit :=
  match ts.dropWhile (· = .documentEnd) with
  | [] => .ok ()
  | ts => do
    let (_, ts) ← directives 0 [] ts
    .error (Token.unexpected ts)

/-- The nodes of a document, and the number of the one that is the whole. -/
structure Graph where
  nodes : Table
  root : Nat

/-- The nodes of a document with the handles `handles`. -/
def ofDocument (handles : List (Text × Text)) (ts : List Token) :
    Except Trouble (Option Graph) := do
  let (n, p) ← parseAt (2 * ts.length + 4) ⟨true, false⟩ ⟨ts, #[], [], handles⟩
  nothingAfter p.tokens
  return some ⟨p.nodes, n⟩

/-- The nodes that tokens describe; there are none if there are no tokens. -/
def ofTokens (ts : List Token) : Except Trouble (Option Graph) :=
  match ts with
  | [] => .ok none
  | .documentEnd :: _ => .error .malformed
  | _ =>
    if endsDocument ts then do
      let (handles, ts) ← directives 0 [] ts
      match ts with
      | .documentStart :: ts =>
        if endsDocument ts then
          nothingAfter ts
          return some ⟨#[blank], 0⟩
        else ofDocument handles ts
      | _ => .error (Token.unexpected ts)
    else ofDocument usualHandles ts

end Node

end ModuleKeeper.Yaml
