import ModuleKeeper.Log.Format

/-!
# The setup of the log

Which notices are shown and in which form. Until it is configured the log
shows nothing; it can be configured again at any time, and only the last time
counts.

## Main results

* `configure_configure`: only the last configuration counts.
* `shows_mono`: where a notice is shown, a graver one is shown too.
-/

namespace ModuleKeeper.Log

/-- The setup of a log: the least level that is shown, and the form of its lines, if any. -/
structure Setup where
  level : Level
  format : Option Format
  deriving DecidableEq, Inhabited

namespace Setup

/-- The setup before any configuration. -/
def initial : Setup := ⟨.warning, none⟩

/-- The setup for the name of a level; a name that is none asks for warnings. -/
def configure (_ : Setup) (levelName : Text) (asJson : Bool) : Setup :=
  let level := Level.ofRequest levelName
  ⟨level, some (Format.ofLevel level asJson)⟩

/-- The setup without lines; the level stays. -/
def reset (s : Setup) : Setup := { s with format := none }

theorem configure_configure (s : Setup) (a b : Text) (x y : Bool) :
    (s.configure a x).configure b y = s.configure b y := rfl

/-- Whether notices of a level are shown. -/
def shows (s : Setup) (l : Level) : Bool := decide (s.level.rank ≤ l.rank)

theorem shows_mono {s : Setup} {l k : Level} (hl : s.shows l = true) (h : l.rank ≤ k.rank) :
    s.shows k = true := by
  simp only [shows, decide_eq_true_eq] at hl ⊢
  omega

/-- The line of a notice, if it is shown, with the time as the form shows it. -/
def line? (s : Setup) (stamp : List CodePoint) (n : Notice) : Option (List CodePoint) :=
  if s.shows n.level then
    s.format.bind fun f =>
      (f.line stamp (Record.ofNotice n)).toOption.map Text.withSurrogatesShown
  else none

end Setup

end ModuleKeeper.Log
