import ModuleKeeper.Text

/-!
# Lookalikes of address delimiters

Characters whose compatibility form contains one of the characters that
structure an address: the slash, the question mark, the number sign, the
at sign and the colon. An address whose host part holds one is refused,
because a reader that normalises it would see a different host.
-/

namespace ModuleKeeper.Url

/-- Code points whose compatibility form contains a delimiter. -/
def lookalikes : List Nat :=
  [
    0x2047, 0x2048, 0x2049, 0x2100, 0x2101, 0x2105, 0x2106, 0x2a74,
    0xfe13, 0xfe16, 0xfe55, 0xfe56, 0xfe5f, 0xfe6b, 0xff03, 0xff0f,
    0xff1a, 0xff1f, 0xff20]

/-- Whether a character turns into a delimiter, or a text with one, under normalisation. -/
def isLookalike (c : CodePoint) : Bool := lookalikes.contains c.toNat

end ModuleKeeper.Url
