import ModuleKeeper.Decimal.Double
import ModuleKeeper.Text.Line
import ModuleKeeper.Text.Utf8
import ModuleKeeper.Yaml.Cursor

/-!
# From bytes to the text of a document

A document is read in portions, as it is needed, and its bytes in chunks, as
the portions ask for them. What cannot be read is met only when its portion is
needed: a document is good up to the start of that portion, and the first two
portions are needed before anything else. Bytes that are no text spoil their
whole chunk, a character that may not stand in a document spoils its portion.

A line break is a single character. A carriage return at the end of a chunk is
held back until it is known what follows it.

## Main results

* `atHand_le`: what is at hand never goes beyond what is asked for.
* `printable_of_all`: a text of allowed characters is good to its end.
-/

namespace ModuleKeeper.Yaml

open ModuleKeeper.Text

/-- Whether a character may stand in a document. -/
def isAllowed (c : CodePoint) : Bool :=
  let n := c.toNat
  n = 0x09 || n = 0x0a || n = 0x0d || (0x20 ≤ n && n ≤ 0x7e) || n = 0x85 ||
    (0xa0 ≤ n && n ≤ 0xfffd) || 0x10000 ≤ n

/-- A text as far as it can be read, with the trouble behind it, if there is any. -/
structure Source where
  text : List CodePoint
  cut : Option Trouble
  deriving DecidableEq, Inhabited

/-! ## Portions -/

/-- The number of characters that are asked for at a time. -/
def portion : Nat := 4096

/-- The number of characters at hand when the one with the number `n` is asked for. -/
def atHand (n : Nat) : Nat := if n < 2 * portion then 0 else n / portion * portion

theorem atHand_le (n : Nat) : atHand n ≤ n := by
  unfold atHand
  split
  · exact Nat.zero_le n
  · exact Nat.div_mul_le_self n portion

namespace Source

/-- The part of a source before the portion of its first character that is not allowed. -/
def printable (s : Source) : Source :=
  match s.text.findIdx? (! isAllowed ·) with
  | none => s
  | some n => ⟨s.text.take (atHand n), some .malformed⟩

theorem printable_of_all {s : Source} (h : s.text.all isAllowed = true) : s.printable = s := by
  unfold printable
  split
  · rfl
  · rename_i n hn
    rw [List.findIdx?_eq_some_iff_getElem] at hn
    obtain ⟨hlt, hp, -⟩ := hn
    simp [List.all_eq_true.1 h _ (List.getElem_mem hlt)] at hp

/-! ## Chunks -/

/-- What was read so far. -/
structure Reading where
  /-- What a started character still expects. -/
  expected : Option Utf8.Expected
  /-- Whether a carriage return is held back. -/
  held : Bool
  /-- The text, last character first. -/
  done : List CodePoint
  /-- The number of characters. -/
  count : Nat
  /-- The numbers of bytes and of characters of the last chunk. -/
  last : Nat × Nat

/-- The start of reading. -/
def Reading.start : Reading := ⟨none, false, [], 0, (0, 0)⟩

/-- The least number of bytes of a chunk. -/
def leastChunk : Nat := 8192

/-- The number of bytes that are likely to hold a number of characters. -/
def likelyBytes (last : Nat × Nat) (wanted : Nat) : Nat :=
  let (bytes, chars) := last
  if chars = 0 ∨ bytes ≤ chars then wanted
  else (((Double.ofRatio false bytes chars).mul (.ofInt wanted)).truncate?.getD 0).toNat

/-- The number of bytes of the next chunk: as many as the rest of the portion may need. -/
def Reading.nextChunk (r : Reading) : Nat :=
  max leastChunk (likelyBytes r.last (portion - r.count % portion))

/-- Bytes read further; there is no result if they are no text. -/
def Reading.decode? (r : Reading) (bs : List UInt8) :
    Option (Option Utf8.Expected × List CodePoint) :=
  let (expected, cs) := bs.foldl (fun (e, done) b => Utf8.step b.toNat e done) (r.expected, [])
  (cs.mapM id).map fun cs => (expected, cs.reverse)

/-- Reads a chunk; there is no result if it is no text. -/
def Reading.next? (r : Reading) (chunk : List UInt8) : Option Reading :=
  (r.decode? chunk).map fun (expected, cs) =>
    if cs.isEmpty then { r with expected := expected, last := (chunk.length, 0) }
    else
      let cs := if r.held then .char '\r' :: cs else cs
      let held := cs.getLast? == some (.char '\r')
      let cs := unifyBreaks (if held then cs.dropLast else cs)
      ⟨expected, held, cs.reverse ++ r.done, r.count + cs.length, (chunk.length, cs.length)⟩

/-- The source when the next bytes are no text. -/
def Reading.broken (r : Reading) : Source :=
  ⟨r.done.reverse.take (atHand r.count), some .badEncoding⟩

/-- The source when no bytes are left. -/
def Reading.finish (r : Reading) : Source :=
  if r.expected.isSome then r.broken
  else ⟨(if r.held then .char '\n' :: r.done else r.done).reverse, none⟩

/-- Reads chunk by chunk. The first argument bounds their number. -/
def readFrom : Nat → Reading → List UInt8 → Source
  | 0, r, _ => r.finish
  | chunks + 1, r, bs =>
    if bs.isEmpty then r.finish
    else
      match r.next? (bs.take r.nextChunk) with
      | none => r.broken
      | some next => readFrom chunks next (bs.drop r.nextChunk)

/-- The source that bytes are. -/
def ofBytes (bs : List UInt8) : Source :=
  (readFrom (bs.length / leastChunk + 1) .start bs).printable

end Source

end ModuleKeeper.Yaml
