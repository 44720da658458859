import ModuleKeeper.Yaml.Node

/-!
# Merged mappings

A mapping may have entries under the key for merging. They stand for the
entries of other mappings, which come before its own: those of one mapping, or
those of a sequence of mappings, the last mapping first. Merging changes the
nodes themselves, so that a mapping is seen merged wherever it is referred to,
even by itself. On the way every key that is the sign for a value becomes the
text that it is written as.

Every step takes an entry for merging away and none is ever added, so their
number bounds the steps.

## Main results

* `entries_withEntries`: entries that were set are found.
-/

namespace ModuleKeeper.Yaml.Node

namespace Table

/-- The entries of a mapping; other nodes have none. -/
def entries (t : Table) (n : Nat) : List (Nat × Nat) :=
  match get t n with
  | mapping _ es => es
  | _ => []

/-- The nodes with other entries in a mapping. -/
def withEntries (t : Table) (n : Nat) (es : List (Nat × Nat)) : Table :=
  set t n (mapping (get t n).tag es)

theorem entries_withEntries {t : Table} {n : Nat} (h : n < t.size) (es : List (Nat × Nat)) :
    entries (withEntries t n es) n = es := by
  simp only [entries, withEntries, get_set h]

/-- The nodes with a key as it counts: the sign for a value is a text when it is a key. -/
def countKey (t : Table) (n : Nat) : Table :=
  if (get t n).tag = Tag.value then set t n ((get t n).withTag Tag.str) else t

/-- Whether an entry stands for merged mappings. -/
def isMerge (t : Table) (e : Nat × Nat) : Bool := (get t e.1).tag = Tag.merge

/-- The number of entries that stand for merged mappings. -/
def mergeCount (t : Table) : Nat :=
  (List.range t.size).foldl (fun k n => k + ((entries t n).filter (isMerge t)).length) 0

/-- Collects the entries of mappings in a list, the last mapping first. -/
def collect (merge : Table → Nat → Except Trouble Table) (done : List (Nat × Nat)) (t : Table) :
    List Nat → Except Trouble (List (Nat × Nat) × Table)
  | [] => .ok (done, t)
  | n :: ns =>
    match get t n with
    | mapping _ _ =>
      match merge t n with
      | .error e => .error e
      | .ok t => collect merge (entries t n ++ done) t ns
    | _ => .error .malformed

/--
Merges what the entries of a mapping from `start` on ask for. The entries of the
mappings that were merged already are `done`. The first argument bounds the steps.
-/
def mergeFrom : Nat → Nat → List (Nat × Nat) → Table → Nat → Except Trouble Table
  | 0, _, _, _, _ => .error .endless
  | fuel + 1, start, done, t, n =>
    let es := entries t n
    let passed := (es.drop start).takeWhile fun e => !isMerge t e
    let t := passed.foldl (fun t e => countKey t e.1) t
    let place := start + passed.length
    match es[place]? with
    | none => .ok (if done.isEmpty then t else withEntries t n (done ++ es))
    | some e =>
      let t := withEntries t n (es.eraseIdx place)
      let merge (t : Table) (n : Nat) : Except Trouble Table := mergeFrom fuel 0 [] t n
      let found : Except Trouble (List (Nat × Nat) × Table) :=
        match get t e.2 with
        | mapping _ _ => collect merge [] t [e.2]
        | sequence _ ns => collect merge [] t ns
        | scalar _ _ => .error .malformed
      match found with
      | .error e => .error e
      | .ok (more, t) => mergeFrom fuel place (done ++ more) t n

/-- The nodes after all merging that a mapping asks for. -/
def merged (t : Table) (n : Nat) : Except Trouble Table :=
  if (entries t n).any (isMerge t) then mergeFrom (mergeCount t + 1) 0 [] t n
  else .ok ((entries t n).foldl (fun t e => countKey t e.1) t)

end Table

end ModuleKeeper.Yaml.Node
