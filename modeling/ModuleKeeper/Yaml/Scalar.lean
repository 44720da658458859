import ModuleKeeper.Json.Reader
import ModuleKeeper.Yaml.Bytes
import ModuleKeeper.Yaml.Cursor
import ModuleKeeper.Yaml.Stamp

/-!
# Scalars

What the text of a scalar means. A plain scalar gets its tag from the form of
its text: null, truth values, numbers in several bases and in groups of sixty,
dates. A scalar with a tag is read as the tag says, whatever its form.

## Main results

* `readBool_error`: reading a truth value fails only for an unknown word.
* `read_of_unknown`: with a tag that is not known nothing is read.
-/

namespace ModuleKeeper.Yaml

/-! ## Tags -/

namespace Tag

/-- What the tags of the core kinds start with. -/
def core : Text := "tag:yaml.org,2002:"

/-- The tag of nothing. -/
def null : Text := core ++ "null"

/-- The tag of truth values. -/
def bool : Text := core ++ "bool"

/-- The tag of whole numbers. -/
def int : Text := core ++ "int"

/-- The tag of fractions. -/
def float : Text := core ++ "float"

/-- The tag of points in time. -/
def timestamp : Text := core ++ "timestamp"

/-- The tag of bytes. -/
def binary : Text := core ++ "binary"

/-- The tag of texts. -/
def str : Text := core ++ "str"

/-- The tag of lists. -/
def seq : Text := core ++ "seq"

/-- The tag of maps. -/
def map : Text := core ++ "map"

/-- The tag of maps in order, written as lists. -/
def omap : Text := core ++ "omap"

/-- The tag of lists of pairs. -/
def pairs : Text := core ++ "pairs"

/-- The tag of sets, written as maps without values. -/
def set : Text := core ++ "set"

/-- The tag of the key under which other maps are merged in. -/
def merge : Text := core ++ "merge"

/-- The tag of the key whose value stands for the whole map. -/
def value : Text := core ++ "value"

/-- The tag of the marks of the language itself. -/
def mark : Text := core ++ "yaml"

end Tag

namespace Scalar

/-- The text without a line break at its end. -/
def withoutFinalBreak (cs : List CodePoint) : List CodePoint :=
  match cs.reverse with
  | '\n' :: rest => rest.reverse
  | _ => cs

/-! ## Forms of numbers -/

/-- Whether a character is a decimal digit or an underscore. -/
def isDigitOr (c : CodePoint) : Bool := c.isDigit || c = '_'

/-- The text without a sign. -/
def unsigned : List CodePoint → List CodePoint
  | '-' :: cs => cs
  | '+' :: cs => cs
  | cs => cs

/-- The parts of a text between colons, after `part` and the parts `done`, both backwards. -/
def colonPartsFrom (part : List CodePoint) (done : List (List CodePoint)) :
    List CodePoint → List (List CodePoint)
  | [] => (part.reverse :: done).reverse
  | c :: cs =>
    if c = ':' then colonPartsFrom [] (part.reverse :: done) cs
    else colonPartsFrom (c :: part) done cs

/-- The parts of a text between colons. -/
def colonParts (cs : List CodePoint) : List (List CodePoint) := colonPartsFrom [] [] cs

/-- Whether a text is a digit below sixty in a number in groups of sixty. -/
def isSixtieth : List CodePoint → Bool
  | [a] => a.isDigit
  | [a, b] => decide ('0' ≤ a) && decide (a ≤ '5') && b.isDigit
  | _ => false

/-- Whether a text starts as a class says and goes on in digits and underscores. -/
def isRun (first : CodePoint → Bool) : List CodePoint → Bool
  | [] => false
  | c :: cs => first c && cs.all isDigitOr

/-- Whether a character is a digit other than zero. -/
def isNonZero (c : CodePoint) : Bool := c.isDigit && c != '0'

/-- Whether a text has the form of a number in groups of sixty. -/
def isSexagesimal (first : CodePoint → Bool) (cs : List CodePoint) : Bool :=
  match colonParts cs with
  | head :: p :: ps => isRun first head && (p :: ps).all isSixtieth
  | _ => false

/-- Whether a character is a hexadecimal digit or an underscore. -/
def isHexDigitOr (c : CodePoint) : Bool := c = '_' || (Json.hexValue? c).isSome

/-- Whether a character is an octal digit or an underscore. -/
def isOctalDigitOr (c : CodePoint) : Bool := c = '_' || (decide ('0' ≤ c) && decide (c ≤ '7'))

/-- Whether a character is a binary digit or an underscore. -/
def isBinaryDigitOr (c : CodePoint) : Bool := c = '_' || c = '0' || c = '1'

/-- Whether a text has the form of a whole number. -/
def isInt (cs : List CodePoint) : Bool :=
  let body := unsigned cs
  match body with
  | ['0'] => true
  | '0' :: 'b' :: ds => !ds.isEmpty && ds.all isBinaryDigitOr
  | '0' :: 'x' :: ds => !ds.isEmpty && ds.all isHexDigitOr
  | '0' :: ds => ds.all isOctalDigitOr
  | _ => isRun isNonZero body || isSexagesimal isNonZero body

/-- Whether a text has the form of an exponent, or is empty. -/
def isExponent : List CodePoint → Bool
  | [] => true
  | e :: s :: ds =>
    (e = 'e' || e = 'E') && (s = '+' || s = '-') && !ds.isEmpty && ds.all CodePoint.isDigit
  | _ => false

/-- Whether a text has the form of digits with an exponent. -/
def isFraction (cs : List CodePoint) : Bool := isExponent (cs.dropWhile isDigitOr)

/-- The words for infinity, behind their point. -/
def infinityWords : List Text := ["inf", "Inf", "INF"]

/-- The words for what is no number, behind their point. -/
def nanWords : List Text := ["nan", "NaN", "NAN"]

/-- Whether a text has the form of a number with a point. -/
def isFloat (cs : List CodePoint) : Bool :=
  let body := unsigned cs
  let whole := body.takeWhile (· != .char '.')
  match body.dropWhile (· != .char '.') with
  | _ :: places =>
    let word := Text.ofList places
    if whole.isEmpty then
      infinityWords.contains word ||
        (body.length == cs.length &&
          (nanWords.contains word ||
            ((places.headD ' ').isDigit && isFraction places)))
    else
      (isRun CodePoint.isDigit whole && isFraction places) ||
        (isSexagesimal CodePoint.isDigit whole && places.all isDigitOr)
  | [] => false

/-- The words for truth values. -/
def boolWords : List (Text × Bool) :=
  [("yes", true), ("no", false), ("true", true), ("false", false), ("on", true), ("off", false)]

/-- Whether a text is a word for a truth value: small, capital, or with a capital first letter. -/
def isBool (cs : List CodePoint) : Bool :=
  boolWords.any fun w =>
    let small := w.1.toList
    cs == small || cs == small.map CodePoint.toUpper ||
      (match small with
        | c :: rest => cs == c.toUpper :: rest
        | [] => false)

/-- The words for null; nothing at all is one of them. -/
def nullWords : List Text := ["~", "null", "Null", "NULL", ""]

/-- Whether a text is a word for null. -/
def isNull (cs : List CodePoint) : Bool := nullWords.contains (Text.ofList cs)

/-! ## Reading -/

/-- The text without underscores. -/
def withoutUnderscores (cs : List CodePoint) : List CodePoint := cs.filter (· != .char '_')

/-- A truth value from any spelling of its word. -/
def readBool (cs : List CodePoint) : Except Trouble Value :=
  match boolWords.find? fun w => w.1 == Text.ofList (cs.map CodePoint.toLower) with
  | some w => .ok (.bool w.2)
  | none => .error .missingKey

theorem readBool_error {cs : List CodePoint} {t : Trouble} (h : readBool cs = .error t) :
    t = .missingKey := by
  unfold readBool at h
  split at h
  · cases h
  · exact (Except.error.inj h).symm

/-- The absolute value of a whole number whose text has no sign in front. -/
def magnitude? (body : List CodePoint) : Option Int :=
  match body with
  | '0' :: 'b' :: ds => Numeral.readIntIn? 2 ds
  | '0' :: 'x' :: ds => Numeral.readIntIn? 16 ds
  | '0' :: _ => Numeral.readIntIn? 8 body
  | _ =>
    if body.contains ':' then
      ((colonParts body).mapM Numeral.readInt?).map fun ds => ds.foldl (fun n d => n * 60 + d) 0
    else Numeral.readInt? body

/-- A whole number. -/
def readInt (cs : List CodePoint) : Except Trouble Value :=
  let cs := withoutUnderscores cs
  let body := unsigned cs
  if body.isEmpty then .error .outOfRange
  else
    match magnitude? body with
    | some n => .ok (.int (if cs.head? = some '-' then -n else n))
    | none => .error .badValue

/--
The number that groups of sixty amount to, the last group first. The weight of a group is
a whole number, and may be too large for a number with a point.
-/
def sixtieths : Int → List Double → Double → Except Trouble Double
  | _, [], sum => .ok sum
  | weight, d :: ds, sum =>
    match Double.ofInt weight with
    | .infinite _ => .error .overflow
    | w => sixtieths (weight * 60) ds (sum.add (d.mul w))

/-- The text of a number with a point as it is read. -/
def floatText (cs : List CodePoint) : List CodePoint :=
  (withoutUnderscores cs).map CodePoint.toLower

/-- The word for what is no number. -/
def nanWord : List CodePoint := ".nan"

/-- Whether a text is the word for what is no number, and not one of its other spellings. -/
def isNanWord (cs : List CodePoint) : Bool := unsigned (floatText cs) = nanWord

/-- The absolute value of a number with a point whose text has no sign in front. -/
def absolute (body : List CodePoint) : Except Trouble Double :=
  if body = ".inf" then .ok (.infinite false)
  else if body = nanWord then .ok .nan
  else if body.contains ':' then
    match (colonParts body).mapM Numeral.readDouble? with
    | some ds => sixtieths 1 ds.reverse (Double.zero false)
    | none => .error .badValue
  else
    match Numeral.readDouble? body with
    | some x => .ok x
    | none => .error .badValue

/-- A number with a point. -/
def readFloat (cs : List CodePoint) : Except Trouble Value :=
  let cs := floatText cs
  if cs.isEmpty then .error .outOfRange
  else
    (absolute (unsigned cs)).map fun x =>
      .float (if cs.head? = some '-' then x.negated else x)

/-- Bytes in groups of six bits. -/
def readBinary (cs : List CodePoint) : Except Trouble Value :=
  match Bytes.decode? cs with
  | some bs => .ok (.bytes bs)
  | none => .error .malformed

/-- A day or a moment. -/
def readTimestamp (cs : List CodePoint) : Except Trouble Value :=
  match Stamp.ofText? (withoutFinalBreak cs) with
  | none => .error .missingAttribute
  | some stamp =>
    match stamp.value? with
    | some v => .ok v
    | none => .error .badValue

/-- The tags that a scalar can be read with. -/
def knownTags : List Text :=
  [Tag.null, Tag.bool, Tag.int, Tag.float, Tag.binary, Tag.timestamp, Tag.str]

/-- The value of a scalar with a tag. -/
def read (tag : Text) (cs : List CodePoint) : Except Trouble Value :=
  if tag = Tag.null then .ok .null
  else if tag = Tag.bool then readBool cs
  else if tag = Tag.int then readInt cs
  else if tag = Tag.float then readFloat cs
  else if tag = Tag.binary then readBinary cs
  else if tag = Tag.timestamp then readTimestamp cs
  else if tag = Tag.str then .ok (.str (Text.ofList cs))
  else .error .malformed

theorem read_of_unknown {tag : Text} (h : tag ∉ knownTags) (cs : List CodePoint) :
    read tag cs = .error .malformed := by
  simp only [knownTags, List.mem_cons, List.not_mem_nil, or_false, not_or] at h
  simp [read, h]

end Scalar

/-- The tag that a scalar without quotes and without a tag gets from the form of its text. -/
def Tag.ofPlain (cs : List CodePoint) : Text :=
  let form := Scalar.withoutFinalBreak cs
  if Scalar.isNull cs then Tag.null
  else if Scalar.isBool form then Tag.bool
  else if Scalar.isFloat form then Tag.float
  else if Scalar.isInt form then Tag.int
  else if form = "<<" then Tag.merge
  else if !form.isEmpty && Scalar.isNull form then Tag.null
  else if (Stamp.ofText? form).any Stamp.isPlain then Tag.timestamp
  else if form = "=" then Tag.value
  else if form = "!" ∨ form = "&" ∨ form = "*" then Tag.mark
  else Tag.str

end ModuleKeeper.Yaml
