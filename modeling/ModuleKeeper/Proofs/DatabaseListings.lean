import ModuleKeeper.Proofs.CallEndings
import ModuleKeeper.Proofs.Firsts
import ModuleKeeper.Proofs.ServerSpecified

/-!
# Answers that list databases

A listing of databases is read without a look at its shape: whatever can be gone
through is gone through, and whatever counts as false lists nothing.  This file
says what an answer is gone through as (`Parts`), which name an item has
(`Names`), and which answers cannot be gone through at all (`IsOneThing`): these
are what breaks a listing, where one of modules would be refused with a fault.

## Main results

* `databaseOf_eq_some_iff`: the name of an item.
* `Listed.iff_filterMap`: the names of the items in order.
* `databasesOf_eq_ok_iff`: what an answer lists.
* `databases_endings`: a listing of databases gives names, or one thing breaks it.
* `databases_true`: a single truth value breaks it, and an object lists its keys.
-/

namespace ModuleKeeper.Registry

open ModuleKeeper.Task

/-! ## Names -/

/-- The name that an item gives to a database. -/
inductive Names : Value → Text → Prop
  /-- What is no object is its own name. -/
  | itself {item : Value} (hitem : ∀ entries, item ≠ .map entries) (htrue : item.truthy = true) :
      Names item item.text
  | byAlias {entries : List (Value × Value)} {v : Value}
      (hfield : (Value.map entries).field? "alias" = some v) (htrue : v.truthy = true) :
      Names (.map entries) v.text
  | byName {entries : List (Value × Value)} {v : Value}
      (hno : ∀ a, (Value.map entries).field? "alias" = some a → a.truthy = false)
      (hfield : (Value.map entries).field? "name" = some v) (htrue : v.truthy = true) :
      Names (.map entries) v.text

variable {item v : Value} {items : List Value} {name : Text} {names : List Text}

theorem Names.ne_empty (h : Names item name) : name ≠ "" := by
  cases h with
  | itself _ htrue => exact Value.text_ne_empty_of_truthy htrue
  | byAlias _ htrue => exact Value.text_ne_empty_of_truthy htrue
  | byName _ _ htrue => exact Value.text_ne_empty_of_truthy htrue

/-- A field counts only if its value does. -/
theorem getD_null_eq_iff {field : Option Value} (h : v.truthy = true) :
    field.getD .null = v ↔ field = some v := by
  cases field with
  | some a => simp
  | none =>
      refine iff_of_false ?_ nofun
      rintro rfl
      cases h

theorem eitherField_eq_iff {first second : Text} (h : v.truthy = true) :
    eitherField first second item = v ↔ item.field? first = some v ∨
      (∀ a, item.field? first = some a → a.truthy = false) ∧ item.field? second = some v := by
  unfold eitherField
  cases item.field? first with
  | none => simp [getD_null_eq_iff h]
  | some a =>
      cases ha : a.truthy with
      | true => simp [ha]
      | false =>
          have hne : a ≠ v := by
            rintro rfl
            rw [ha] at h
            cases h
          simp [ha, hne, getD_null_eq_iff h]

theorem databaseOf_eq_some_iff : databaseOf item = some name ↔ Names item name := by
  by_cases hmap : ∃ entries, item = .map entries
  · obtain ⟨entries, rfl⟩ := hmap
    have hnamed : databaseOf (.map entries) = some name ↔
        ∃ v, eitherField "alias" "name" (.map entries) = v ∧ v.truthy = true ∧ v.text = name := by
      simp [databaseOf]
    rw [hnamed]
    constructor
    · rintro ⟨v, hfield, htrue, rfl⟩
      rcases (eitherField_eq_iff htrue).1 hfield with halias | ⟨hno, hname⟩
      · exact .byAlias halias htrue
      · exact .byName hno hname htrue
    · intro h
      cases h with
      | itself hitem => exact absurd rfl (hitem entries)
      | byAlias hfield htrue => exact ⟨_, (eitherField_eq_iff htrue).2 (.inl hfield), htrue, rfl⟩
      | byName hno hfield htrue =>
          exact ⟨_, (eitherField_eq_iff htrue).2 (.inr ⟨hno, hfield⟩), htrue, rfl⟩
  · have hitem : ∀ entries, item ≠ .map entries := fun entries h => hmap ⟨entries, h⟩
    have hself : databaseOf item = if item.truthy then some item.text else none := by
      cases item with
      | map entries => exact absurd rfl (hitem entries)
      | _ => rfl
    rw [hself]
    constructor
    · intro h
      split at h
      · cases h
        exact .itself hitem ‹_›
      · cases h
    · intro h
      cases h with
      | itself _ htrue => rw [if_pos htrue]
      | byAlias => exact absurd rfl (hitem _)
      | byName => exact absurd rfl (hitem _)

/-! ## Listings -/

/-- The names of the items in their order; an item without a name adds nothing. -/
inductive Listed : List Value → List Text → Prop
  | nil : Listed [] []
  | named {item : Value} {items : List Value} {name : Text} {names : List Text}
      (h : Names item name) (hrest : Listed items names) : Listed (item :: items) (name :: names)
  | nameless {item : Value} {items : List Value} {names : List Text}
      (h : ∀ name, ¬Names item name) (hrest : Listed items names) : Listed (item :: items) names

theorem Listed.iff_filterMap : Listed items names ↔ items.filterMap databaseOf = names := by
  induction items generalizing names with
  | nil =>
      constructor
      · rintro ⟨⟩
        rfl
      · rintro rfl
        exact .nil
  | cons item items ih =>
      cases hname : databaseOf item with
      | none =>
          have hno : ∀ name, ¬Names item name := by
            intro name h
            rw [databaseOf_eq_some_iff.2 h] at hname
            cases hname
          rw [List.filterMap_cons_none hname]
          constructor
          · intro h
            cases h with
            | named h => exact absurd h (hno _)
            | nameless _ hrest => exact ih.1 hrest
          · exact fun h => .nameless hno (ih.2 h)
      | some first =>
          rw [List.filterMap_cons_some hname]
          constructor
          · intro h
            cases h with
            | named h hrest =>
                rw [databaseOf_eq_some_iff.2 h] at hname
                rw [ih.1 hrest, Option.some.inj hname]
            | nameless hno => exact absurd (databaseOf_eq_some_iff.1 hname) (hno first)
          · rintro rfl
            exact .named (databaseOf_eq_some_iff.1 hname) (ih.2 rfl)

theorem Listed.ne_empty (h : Listed items names) : ∀ n ∈ names, n ≠ "" := by
  induction h with
  | nil => nofun
  | named h _ ih => exact List.forall_mem_cons.2 ⟨h.ne_empty, ih⟩
  | nameless _ _ ih => exact ih

/-! ## Answers -/

/-- What an answer is gone through as: its items, its characters or its keys. -/
inductive Parts : Value → List Value → Prop
  | nothing {answer : Value} (h : answer.truthy = false) : Parts answer []
  | items (items : List Value) : Parts (.list items) items
  | characters (s : Text) : Parts (.str s) (s.toList.map fun c => .str (Text.ofList [c]))
  | keys (entries : List (Value × Value)) : Parts (.map entries) (entries.map Prod.fst)

/-- The answers that cannot be gone through, although they do not count as false. -/
inductive IsOneThing : Value → Prop
  | yes : IsOneThing (.bool true)
  | int {n : Int} (h : n ≠ 0) : IsOneThing (.int n)
  | float {x : Double} (h : x.isZero = false) : IsOneThing (.float x)

variable {answer : Value} {failure : Failure}

/-- An answer with nothing in it counts as false. -/
theorem parts_iff (h : Json.IsData answer) : Parts answer items ↔
    if answer.truthy then answer.parts? = some items else items = [] := by
  constructor
  · rintro (hfalse | items | s | entries)
    · rw [if_neg (by simp [hfalse])]
    · cases items <;> simp [Value.truthy, Value.parts?]
    · rcases s with ⟨_ | _⟩ <;> simp [Value.truthy, Value.parts?, Text.isEmpty]
    · cases entries <;> simp [Value.truthy, Value.parts?]
  · split
    · intro hparts
      cases h with
      | null | bool | int | float => cases hparts
      | str s =>
          cases hparts
          exact .characters s
      | list =>
          cases hparts
          exact .items items
      | @map entries =>
          cases hparts
          exact .keys entries
    · rename_i hfalse
      rintro rfl
      exact .nothing (by simpa using hfalse)

theorem isOneThing_iff (h : Json.IsData answer) :
    IsOneThing answer ↔ answer.truthy = true ∧ answer.parts? = none := by
  constructor
  · rintro (_ | hne | hne)
    · exact ⟨rfl, rfl⟩
    · exact ⟨by simpa [Value.truthy] using hne, rfl⟩
    · exact ⟨by simp [Value.truthy, hne], rfl⟩
  · rintro ⟨htrue, hnone⟩
    cases h with
    | null => cases htrue
    | bool b =>
        obtain rfl : b = true := htrue
        exact .yes
    | int => exact .int (by simpa [Value.truthy] using htrue)
    | float => exact .float (by simpa [Value.truthy] using htrue)
    | str | list | map => cases hnone

/-- Data lists the names of what it is gone through as. -/
theorem databasesOf_eq_ok_iff (h : Json.IsData answer) : databasesOf answer = .ok names ↔
    ∃ items, Parts answer items ∧ Listed items names := by
  simp only [parts_iff h, Listed.iff_filterMap]
  unfold databasesOf
  cases answer.truthy with
  | false => simp [eq_comm]
  | true => cases answer.parts? <;> simp

theorem databasesOf_eq_error_iff (h : Json.IsData answer) : databasesOf answer = .error failure ↔
    failure = .mishap .wrongType ∧ IsOneThing answer := by
  rw [isOneThing_iff h]
  unfold databasesOf
  cases answer.truthy with
  | false => simp
  | true => cases answer.parts? <;> simp [eq_comm]

/-! ## Runs -/

variable {σ : Type} {r : Registry (StateM σ)} {s s₁ : σ}

/-- What is listed is what the answer lists. -/
theorem fst_runIn_databases (hcall : (r.call databasesCall).runIn s = (.ok answer, s₁)) :
    (r.databases.runIn s).1 = databasesOf answer ∧ Json.IsData answer := by
  obtain ⟨reply, hexchange, hanswer⟩ := exists_reply_of_call hcall
  refine ⟨?_, Gateway.isData_of_interpret hanswer⟩
  rw [fst_runIn_databases_of_exchange hexchange, readDatabases, hanswer]

/--
**What a listing of databases comes to.**  Whatever value the service answers with,
the listing gives names, unless the answer is one thing: true, or a number other than
zero.  One thing breaks it, with a mishap and no fault.  The names are those of the
items of a list, of the characters of a text or of the keys of an object, in their
order, and none for an answer that counts as false; no name is empty.
-/
theorem databases_endings (hcall : (r.call databasesCall).runIn s = (.ok answer, s₁)) :
    ((∃ names, (r.databases.runIn s).1 = .ok names) ↔ ¬IsOneThing answer) ∧
    (∀ failure, (r.databases.runIn s).1 = .error failure ↔
      failure = .mishap .wrongType ∧ IsOneThing answer) ∧
    ∀ names, ((r.databases.runIn s).1 = .ok names ↔
        ∃ items, Parts answer items ∧ Listed items names) ∧
      ((r.databases.runIn s).1 = .ok names → ∀ n ∈ names, n ≠ "") := by
  obtain ⟨hrun, hdata⟩ := fst_runIn_databases hcall
  rw [hrun]
  refine ⟨?_, fun failure => databasesOf_eq_error_iff hdata, fun names =>
    ⟨databasesOf_eq_ok_iff hdata, fun hok => ?_⟩⟩
  · cases hresult : databasesOf answer with
    | ok names =>
        refine iff_of_true ⟨names, rfl⟩ fun hone => ?_
        have herror := (databasesOf_eq_error_iff hdata).2 ⟨rfl, hone⟩
        rw [hresult] at herror
        cases herror
    | error failure =>
        exact iff_of_false nofun (not_not_intro ((databasesOf_eq_error_iff hdata).1 hresult).2)
  · obtain ⟨items, -, hlisted⟩ := (databasesOf_eq_ok_iff hdata).1 hok
    exact hlisted.ne_empty

/-- A service that answers every call with a value. -/
def acceptingWith (v : Value) : Registry (StateM Unit) :=
  replying (.answered 200 "" (Text.Utf8.encode (Json.write v)))

theorem call_acceptingWith {v : Value} (h : Json.Plain v)
    (hwritable : Text.isWritable (Json.write v) = true) :
    ((acceptingWith v).call databasesCall).runIn () = (.ok v, ()) := by
  have hrun : ((acceptingWith v).call databasesCall).runIn () =
      ((Gateway.interpret (.answered 200 "" (Text.Utf8.encode (Json.write v)))).mapError id,
        ()) := by
    rfl
  rw [hrun, interpret_write h hwritable]
  rfl

/-- Items of all kinds: of an object the first field that counts is the name. -/
def mixedListing : Value :=
  .list [.map [(.str "alias", .str "main")], .str "",
    .map [(.str "alias", .str ""), (.str "name", .str "shop")], .map [], .bool true]

theorem databases_endings_mixedListing :
    ((acceptingWith mixedListing).databases.runIn ()).1 = .ok ["main", "shop", "True"] := by
  have hplain : Json.Plain mixedListing :=
    ⟨⟨⟨"alias", rfl, by simp⟩, trivial, trivial⟩, trivial,
      ⟨⟨"alias", rfl, by simp⟩, trivial, ⟨"name", rfl, by simp⟩, trivial, trivial⟩, trivial,
      trivial, trivial⟩
  obtain ⟨-, -, hnames⟩ := databases_endings (call_acceptingWith hplain (by decide))
  exact (hnames _).1.2 ⟨_, .items _, Listed.iff_filterMap.2 rfl⟩

/--
A truth value is neither listed nor refused with a fault of the catalog, and an
object, which is no list, is listed by its keys.
-/
theorem databases_true :
    (((acceptingWith (.bool true)).call databasesCall).runIn ()).1 = .ok (.bool true) ∧
    ¬((∃ names, ((acceptingWith (.bool true)).databases.runIn ()).1 = .ok names) ∨
        ∃ cause, ((acceptingWith (.bool true)).databases.runIn ()).1 =
          .error (.fault (.catalog cause))) ∧
    (((acceptingWith (.map [(.str "main", .null)])).call databasesCall).runIn ()).1 =
      .ok (.map [(.str "main", .null)]) ∧
    ((acceptingWith (.map [(.str "main", .null)])).databases.runIn ()).1 = .ok ["main"] := by
  have htrue := call_acceptingWith (v := .bool true) trivial (by decide)
  have hmap := call_acceptingWith (v := .map [(.str "main", .null)])
    ⟨⟨"main", rfl, by simp⟩, trivial, trivial⟩ (by decide)
  have hbroken : ((acceptingWith (.bool true)).databases.runIn ()).1 =
      .error (.mishap .wrongType) := by
    rw [(fst_runIn_databases htrue).1]
    rfl
  refine ⟨by rw [htrue], ?_, by rw [hmap], ?_⟩
  · rw [hbroken]
    simp
  · rw [(fst_runIn_databases hmap).1]
    rfl

end ModuleKeeper.Registry
