import ModuleKeeper.Yaml.Assembly
import ModuleKeeper.Yaml.Source
import ModuleKeeper.Yaml.Token.Lexer

/-!
# Documents

The value of a document: its text is cut into tokens, these are put together
to a graph of nodes, and values are made of the nodes.

## Main results

* `read_nil`: an empty document has no value.
-/

namespace ModuleKeeper.Yaml

/-- The value of a graph of nodes. -/
def Node.Graph.value (g : Node.Graph) : Except Trouble Value :=
  ((Assembly.start g.nodes).complete g.root).map (·.valueOf g.root)

/-- The value of a document; there is none if the document is empty. -/
def read (source : Source) : Except Trouble (Option Value) :=
  match Node.ofTokens (Token.ofText source.text source.cut) with
  | .error t => .error t
  | .ok none => .ok none
  | .ok (some g) => g.value.map some

theorem read_nil : read ⟨[], none⟩ = .ok none := rfl

end ModuleKeeper.Yaml
