import ModuleKeeper.Settings.Path
import ModuleKeeper.Settings.Store

/-!
# The history of the current settings

A program asks for its settings, changes fields of them and loads them anew,
in any order and as often as it likes.  What the settings are at the end is
told by the last load that succeeded and by the changes since then; nothing
before it counts.  A load that fails leaves no trace.

The induction is over the moves behind the last load.  None of them makes
another record the current one, and the changes among them add up, because
fields are assigned one after another.

## Main results

* `Checked.of_outcome`: loaded settings are checked, and checking them again
  changes nothing.
* `Store.shown_after_of_idle`: moves that load nothing keep the record.
* `Store.after_history`: loading is all or nothing.
-/

namespace ModuleKeeper.Settings

/-! ## Checked settings -/

/-- Settings that pass the check as they are. -/
structure Checked (x : Settings) : Prop where
  timeout : ∃ n : Int, 1 ≤ n ∧ x.timeout = .int n
  address : Url.check x.address = .ok ()
  checked : x.check = .ok x

/-- A second check changes nothing. -/
theorem Checked.of_check {x y : Settings} (h : x.check = .ok y) : Checked y := by
  obtain ⟨n, hpos, htimeout⟩ := timeout_of_check h
  have haddress : Url.check y.address = .ok () := by
    unfold check at h
    split at h
    · cases h
    · split at h
      · cases h
      · rename_i hsound
        cases h
        exact hsound
  refine ⟨⟨n, hpos, htimeout⟩, haddress, ?_⟩
  have hlimit : checkTimeout y.timeout = .ok n := by
    rw [htimeout, checkTimeout, wholeOf]
    exact if_pos hpos
  unfold check
  rw [hlimit]
  dsimp only
  rw [haddress, ← htimeout]

/-! ## Moves -/

/-- What settings are loaded from: a place that is named or not, the files, the environment. -/
structure Source where
  named : Option Text
  homes : Path.Homes
  find : Text → File
  environment : Environment

/-- The path that the settings are loaded from. -/
def Source.path (x : Source) : Text := locate x.named x.environment

/-- Where this path leads. -/
def Source.finding (x : Source) : Finding := look (m := Id) x.homes x.find x.path

/-- What loading from a source comes to. -/
def Source.outcome (x : Source) : Except Failure Settings :=
  (Settings.load x.path x.finding x.environment).2

theorem Checked.of_outcome {x : Source} {loaded : Settings} (h : x.outcome = .ok loaded) :
    Checked loaded := by
  unfold Source.outcome Settings.load at h
  cases hfile : (ofFile x.path x.finding).2 with
  | error f =>
      simp only [hfile, Except.bind] at h
      cases h
  | ok y =>
      simp only [hfile, Except.bind] at h
      cases hcheck : (y.applyEnvironment x.environment).check with
      | error f =>
          rw [hcheck] at h
          cases h
      | ok z =>
          rw [hcheck] at h
          obtain rfl : z = loaded := Except.ok.inj h
          exact Checked.of_check hcheck

/-- What a program does with its current settings. -/
inductive Move where
  | ask
  | change (fields : List (Text × Value))
  | load (source : Source)

namespace Move

/-- The settings that a move loads, if it loads any. -/
def loaded? : Move → Option Settings
  | load source => source.outcome.toOption
  | _ => none

/-- The fields that a move changes. -/
def fields : Move → List (Text × Value)
  | change fields => fields
  | _ => []

end Move

namespace Store

/-- The store after a move.  If loading fails, there is no other store. -/
def next (s : Store) : Move → Store
  | .ask => s.now.2
  | .change fields => (s.change fields).2
  | .load x =>
    match (s.load x.path x.finding x.environment).2 with
    | .ok (_, t) => t
    | .error _ => s

/-- The store after moves. -/
def after (s : Store) (moves : List Move) : Store := moves.foldl next s

/-- The number of the current record, and what it holds. -/
def shown (s : Store) : Nat × Settings := (s.now.1, s.now.2.get s.now.1)

theorem after_append (s : Store) (moves moves' : List Move) :
    s.after (moves ++ moves') = (s.after moves).after moves' := List.foldl_append

theorem after_cons (s : Store) (m : Move) (moves : List Move) :
    s.after (m :: moves) = (s.next m).after moves := rfl

/-! ## One move -/

variable {s : Store} {x : Source} {loaded : Settings}

theorem load_source (s : Store) (x : Source) :
    (s.load x.path x.finding x.environment).2 = x.outcome.map s.install := rfl

/-- Where loading fails, nothing happens. -/
theorem next_load_of_error {f : Failure} (h : x.outcome = .error f) : s.next (.load x) = s := by
  simp only [next, load_source, h, Except.map]

theorem next_load_of_ok (h : x.outcome = .ok loaded) : s.next (.load x) = (s.install loaded).2 := by
  simp only [next, load_source, h, Except.map]

theorem shown_of_current {n : Nat} (h : s.current = some n) : s.shown = (n, s.get n) := by
  unfold shown now
  rw [h]

theorem shown_install (s : Store) (loaded : Settings) :
    (s.install loaded).2.shown = (s.records.length, loaded) := by
  rw [shown_of_current rfl]
  exact congrArg _ (get_install s loaded)

/-- A record that is made leaves the others as they are. -/
theorem get_install_of_lt {n : Nat} (h : n < s.records.length) (loaded : Settings) :
    (s.install loaded).2.get n = s.get n := by
  simp [install, get, List.getElem?_append_left h]

theorem shown_now (s : Store) : s.now.2.shown = s.shown := shown_of_current (current_now s)

theorem shown_change (s : Store) (fields : List (Text × Value)) :
    (s.change fields).2.shown = (s.shown.1, s.shown.2.assign fields) := by
  have hcurrent : (s.change fields).2.current = some s.now.1 := current_now s
  have hlt : s.now.1 < s.now.2.records.length := s.now.2.current_lt _ (current_now s)
  rw [shown_of_current hcurrent]
  simp [change, get, shown, hlt]

/-- A move that loads nothing keeps the record and changes the fields that it gives. -/
theorem shown_next_of_idle {m : Move} (h : m.loaded? = none) :
    (s.next m).shown = (s.shown.1, s.shown.2.assign m.fields) := by
  cases m with
  | ask => exact shown_now s
  | change fields => exact shown_change s fields
  | load x =>
      cases hx : x.outcome with
      | error f =>
          rw [next_load_of_error hx]
          rfl
      | ok loaded =>
          rw [Move.loaded?, hx] at h
          cases h

theorem length_records_next_le (s : Store) (m : Move) :
    s.records.length ≤ (s.next m).records.length := by
  have hnow : s.records.length ≤ s.now.2.records.length := by
    unfold now
    split
    · exact Nat.le_refl _
    · simp [install]
  cases m with
  | ask => exact hnow
  | change fields => simpa [next, change] using hnow
  | load x =>
      cases hx : x.outcome with
      | error f => exact Nat.le_of_eq (by rw [next_load_of_error hx])
      | ok loaded => simp [next_load_of_ok hx, install]

/-! ## Many moves -/

theorem length_records_after_le (s : Store) (moves : List Move) :
    s.records.length ≤ (s.after moves).records.length := by
  induction moves generalizing s with
  | nil => exact Nat.le_refl _
  | cons m moves ih => exact Nat.le_trans (length_records_next_le s m) (ih (s.next m))

/-- Moves that load nothing keep the record, and the fields that they change add up. -/
theorem shown_after_of_idle {moves : List Move} (h : ∀ m ∈ moves, m.loaded? = none) :
    (s.after moves).shown = (s.shown.1, s.shown.2.assign (moves.flatMap Move.fields)) := by
  induction moves generalizing s with
  | nil => rfl
  | cons m moves ih =>
      obtain ⟨hm, hmoves⟩ := List.forall_mem_cons.1 h
      rw [after_cons, ih hmoves, shown_next_of_idle hm, List.flatMap_cons]
      simp only [assign, List.foldl_append]

/-- A record that was current once was there before. -/
theorem lt_of_current_after_take {moves : List Move} {k n : Nat}
    (h : (s.after (moves.take k)).current = some n) : n < (s.after moves).records.length := by
  have hmore := length_records_after_le (s.after (moves.take k)) (moves.drop k)
  rw [← after_append, List.take_append_drop] at hmore
  exact Nat.lt_of_lt_of_le ((s.after (moves.take k)).current_lt n h) hmore

/--
**Loading is all or nothing.**  After any moves, a load that fails leaves all as
it is.  A load that succeeds makes a record of its own, which none of the
records that were current before is and which leaves these alone; it holds what
the source alone says, and that is checked.  Until the next load that succeeds,
this is the current record, with the fields that are changed from then on.
Before the first one it is a record of the default settings.
-/
theorem after_history (moves : List Move) :
    (∀ x f, x.outcome = .error f →
      empty.after (moves ++ [.load x]) = empty.after moves) ∧
    (∀ x loaded, x.outcome = .ok loaded → Checked loaded ∧ ∃ n,
      (∀ k old, (empty.after (moves.take k)).current = some old → old < n) ∧
      (∀ old, old < n →
        (empty.after (moves ++ [.load x])).get old = (empty.after moves).get old) ∧
      ∀ later : List Move, (∀ m ∈ later, m.loaded? = none) →
        (empty.after (moves ++ .load x :: later)).shown =
          (n, loaded.assign (later.flatMap Move.fields))) ∧
    ((∀ m ∈ moves, m.loaded? = none) →
      (empty.after moves).shown = (0, Settings.default.assign (moves.flatMap Move.fields))) := by
  refine ⟨fun x f hx => ?_, fun x loaded hx => ?_, fun hidle => ?_⟩
  · rw [after_append]
    exact next_load_of_error hx
  · have hload : (empty.after moves).next (.load x) = ((empty.after moves).install loaded).2 :=
      next_load_of_ok hx
    refine ⟨Checked.of_outcome hx, (empty.after moves).records.length, ?_, ?_, ?_⟩
    · exact fun k old hold => lt_of_current_after_take hold
    · intro old hold
      rw [after_append, after_cons, hload]
      exact get_install_of_lt hold loaded
    · intro later hlater
      rw [after_append, after_cons, hload, shown_after_of_idle hlater, shown_install]
  · rw [shown_after_of_idle hidle]
    rfl

end Store

end ModuleKeeper.Settings
