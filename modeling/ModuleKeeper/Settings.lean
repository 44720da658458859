import ModuleKeeper.Decimal.Reading
import ModuleKeeper.Task

/-!
# Settings

What the program needs to know before it works: the address of the service,
the token that opens it, a time limit, and two habits. Settings come from a
file, then from the environment, and are checked last. Until then they may
hold any value.

## Main results

* `entries_keep_unknown`: what a file says beyond the known settings is kept in order.
* `given?_map_str`: a variable of the environment counts if it is set to something.
* `timeout_of_check`: the time limit of checked settings is a positive whole number.
-/

namespace ModuleKeeper

/-- The settings of the program. -/
structure Settings where
  address : Value
  token : Value
  timeout : Value
  /-- Whether indirect dependencies are installed too. -/
  transitive : Value
  /-- Whether changes are made without a confirmation. -/
  assumeYes : Value
  /-- The entries of a file that are no settings. -/
  extra : Value
  deriving Inhabited

namespace Settings

/-- The settings where nothing else is said. -/
def default : Settings :=
  ⟨.str "http://localhost:8088", .str "", .int 30, .bool false, .bool false, .map []⟩

/-! ## Names -/

/-- The names of the settings that a file can hold. -/
inductive Name where
  | address
  | token
  | timeout
  | transitive
  | assumeYes
  deriving DecidableEq

namespace Name

/-- All names. -/
def all : List Name := [address, token, timeout, transitive, assumeYes]

/-- The name as it is written in a file. -/
def written : Name → Text
  | address => addressSetting
  | token => "api_token"
  | timeout => "timeout"
  | transitive => "transitive_dependencies"
  | assumeYes => "assume_yes"

/-- The name that is written so. -/
def ofWritten? (s : Text) : Option Name := all.find? (·.written = s)

theorem ofWritten?_written (n : Name) : ofWritten? n.written = some n := by cases n <;> decide

/-- The name that a key of a file is. -/
def ofKey? : Value → Option Name
  | .str s => ofWritten? s
  | _ => none

/-- The environment variable that overrides a setting. -/
def variableOf : Name → Option Text
  | address => some "MODCTL_SERVER_URL"
  | token => some "MODCTL_API_TOKEN"
  | timeout => some "MODCTL_TIMEOUT"
  | transitive => none
  | assumeYes => none

end Name

/-- The settings with one of them changed. -/
def set (s : Settings) (n : Name) (v : Value) : Settings :=
  match n with
  | .address => { s with address := v }
  | .token => { s with token := v }
  | .timeout => { s with timeout := v }
  | .transitive => { s with transitive := v }
  | .assumeYes => { s with assumeYes := v }

/-- One of the settings. -/
def get (s : Settings) : Name → Value
  | .address => s.address
  | .token => s.token
  | .timeout => s.timeout
  | .transitive => s.transitive
  | .assumeYes => s.assumeYes

theorem get_set_self (s : Settings) (n : Name) (v : Value) : (s.set n v).get n = v := by
  cases n <;> rfl

theorem get_set_ne {n k : Name} (h : k ≠ n) (s : Settings) (v : Value) :
    (s.set n v).get k = s.get k := by
  cases n <;> cases k <;> first | rfl | exact absurd rfl h

/-! ## Files -/

/-- The settings with one entry of a file. -/
def enter (s : Settings) (e : Value × Value) : Settings :=
  match Name.ofKey? e.1 with
  | some n => s.set n e.2
  | none => s

/-- The entries of a file that are no settings, in order. -/
def unknown (entries : List (Value × Value)) : List (Value × Value) :=
  entries.filter fun e => (Name.ofKey? e.1).isNone

/-- The settings that a file holds. -/
def ofEntries (entries : List (Value × Value)) : Settings :=
  { entries.foldl enter default with extra := .map (unknown entries) }

theorem entries_keep_unknown (entries : List (Value × Value)) :
    (ofEntries entries).extra = .map (unknown entries) := rfl

/-! ## Fields -/

/-- The name under which the entries that are no settings are kept. -/
def extraName : Text := "extra"

/-- The settings with a field of a given name changed, if there is such a field. -/
def assign? (s : Settings) (name : Text) (v : Value) : Option Settings :=
  if name = extraName then some { s with extra := v }
  else (Name.ofWritten? name).map fun n => s.set n v

/-- The default settings with some fields given; a field of another name is a mistake. -/
def ofFields (fields : List (Text × Value)) : Except Mishap Settings :=
  fields.foldlM (fun s f =>
    match s.assign? f.1 f.2 with
    | some s => .ok s
    | none => .error .wrongType) default

/-- The settings with some fields changed; fields of other names have no effect on them. -/
def assign (s : Settings) (fields : List (Text × Value)) : Settings :=
  fields.foldl (fun s f => (s.assign? f.1 f.2).getD s) s

/-- The fields of settings with their values. -/
def fields (s : Settings) : List (Value × Value) :=
  (Name.all.map fun n => (.str n.written, s.get n)) ++ [(.str extraName, s.extra)]

/-- All settings as a value of their own. A value without an end cannot be copied into it. -/
def toValue (s : Settings) : Except Mishap Value :=
  if Value.anyEndlessEntry s.fields then .error .endless else .ok (.map s.fields)

/-! ## The environment -/

/-- The environment variables of the program with their values. -/
abbrev Environment : Type := List (Text × Text)

/-- The value of a variable that is set to something. -/
def Environment.get? (env : Environment) (name : Text) : Option Text :=
  ((env.find? (·.1 = name)).map (·.2)).filter (! ·.isEmpty)

/-- The value under the name of a variable, if it counts as true. -/
def given? (values : List (Text × Value)) (name : Text) : Option Value :=
  ((values.find? (·.1 = name)).map (·.2)).filter Value.truthy

/-- The settings with one of them overridden by a value under the name of its variable. -/
def override (values : List (Text × Value)) (s : Settings) (n : Name) : Settings :=
  match n.variableOf.bind (given? values) with
  | some v => s.set n v
  | none => s

/-- The settings overridden by values under the names of variables. -/
def applyValues (values : List (Text × Value)) (s : Settings) : Settings :=
  Name.all.foldl (override values) s

/-- The settings overridden by the environment. -/
def applyEnvironment (env : Environment) (s : Settings) : Settings :=
  s.applyValues (env.map fun e => (e.1, .str e.2))

theorem given?_map_str (env : Environment) (name : Text) :
    given? (env.map fun e => (e.1, .str e.2)) name = (env.get? name).map .str := by
  unfold given? Environment.get?
  rw [List.find?_map]
  have h : ((fun x : Text × Value => decide (x.1 = name)) ∘
      fun e : Text × Text => (e.1, Value.str e.2)) = fun e => decide (e.1 = name) := rfl
  rw [h]
  cases env.find? fun e => decide (e.1 = name) with
  | none => rfl
  | some e =>
    simp only [Option.map_some, Option.filter, Value.truthy]
    by_cases hs : (!e.2.isEmpty) = true <;> simp only [hs] <;> rfl

/-! ## Checking -/

/-- Why a value is no whole number. -/
inductive NumberFault where
  /-- The value does not stand for a whole number. -/
  | notWhole
  /-- The value is infinite. -/
  | infinite

/-- The whole number that a value stands for; fractions are cut off. -/
def wholeOf : Value → Except NumberFault Int
  | .bool b => .ok (if b then 1 else 0)
  | .int n => .ok n
  | .float (.infinite _) => .error .infinite
  | .float x =>
    match x.truncate? with
    | some n => .ok n
    | none => .error .notWhole
  | .str s =>
    match Numeral.readInt? s.toList with
    | some n => .ok n
    | none => .error .notWhole
  | .bytes bs =>
    if bs.all (· < 128) then
      match Numeral.readInt? (bs.map fun b => CodePoint.ofNat b.toNat) with
      | some n => .ok n
      | none => .error .notWhole
    else .error .notWhole
  | _ => .error .notWhole

/-- Checks a time limit. A number that is too long to be shown is a mishap. -/
def checkTimeout (v : Value) : Except Failure Int :=
  match wholeOf v with
  | .error .infinite => .error (.mishap .overflow)
  | .error .notWhole =>
    if v.hasLongNumber then .error (.mishap .badValue)
    else .error (.fault (.settings (.timeoutNotWhole v)))
  | .ok n =>
    if 0 < n then .ok n
    else if Nat.pow 10 Numeral.digitLimit ≤ n.natAbs then .error (.mishap .badValue)
    else .error (.fault (.settings (.timeoutNotPositive n)))

/-- The failure that goes with an address that is refused. -/
def addressFailure : Url.Refusal → Failure
  | .notText => .mishap .missingAttribute
  | .notAscii => .mishap .badEncoding
  | .badHost => .mishap .badValue
  | .badScheme scheme address => .fault (.settings (.badScheme scheme address))

/-- Checks settings: the time limit first, then the address. -/
def check (s : Settings) : Except Failure Settings :=
  match checkTimeout s.timeout with
  | .error f => .error f
  | .ok n =>
    match Url.check s.address with
    | .error r => .error (addressFailure r)
    | .ok () => .ok { s with timeout := .int n }

theorem timeout_of_check {s t : Settings} (h : s.check = .ok t) :
    ∃ n : Int, 0 < n ∧ t.timeout = .int n := by
  unfold check at h
  split at h
  · cases h
  · rename_i n hn
    split at h
    · cases h
    · cases h
      refine ⟨n, ?_, rfl⟩
      unfold checkTimeout at hn
      split at hn
      · cases hn
      · split at hn <;> cases hn
      · rename_i k _
        by_cases hk : 0 < k
        · rw [if_pos hk] at hn
          cases hn
          exact hk
        · rw [if_neg hk] at hn
          split at hn <;> cases hn

end Settings

end ModuleKeeper
