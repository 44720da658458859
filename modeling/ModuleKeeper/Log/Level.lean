import ModuleKeeper.Text

/-!
# Levels of a log

How grave a notice is, and the names under which a level can be chosen.

## Main results

* `named?_label`: every level can be chosen by its label.
* `rank_injective`: levels of one rank are the same.
-/

namespace ModuleKeeper.Log

/-- How grave a notice is. -/
inductive Level where
  | unset
  | debug
  | info
  | warning
  | error
  | critical
  deriving DecidableEq, Inhabited

namespace Level

/-- The place of a level among the others. -/
def rank : Level → Nat
  | unset => 0
  | debug => 10
  | info => 20
  | warning => 30
  | error => 40
  | critical => 50

/-- The label that a log line shows. -/
def label : Level → Text
  | unset => "NOTSET"
  | debug => "DEBUG"
  | info => "INFO"
  | warning => "WARNING"
  | error => "ERROR"
  | critical => "CRITICAL"

/-- All levels. -/
def all : List Level := [unset, debug, info, warning, error, critical]

/-- The level of a name in capitals; two levels have a second name. -/
def named? (name : Text) : Option Level :=
  if name = "FATAL" then some critical
  else if name = "WARN" then some warning
  else all.find? fun l => l.label = name

theorem named?_label (l : Level) : named? l.label = some l := by cases l <;> decide

theorem rank_injective {l k : Level} (h : l.rank = k.rank) : l = k := by
  cases l <;> cases k <;> first | rfl | cases h

/--
A letter as a capital, as far as the names of levels are concerned: besides the
ASCII letters two letters have an ASCII capital, the dotless i and the long s.
-/
def capital (c : CodePoint) : CodePoint :=
  if c = 'ı' then 'I' else if c = 'ſ' then 'S' else c.toUpper

/-- The level that a user asks for, in any case; a name that is none asks for warnings. -/
def ofRequest (name : Text) : Level :=
  (named? (Text.ofList (name.toList.map capital))).getD warning

end Level

end ModuleKeeper.Log
