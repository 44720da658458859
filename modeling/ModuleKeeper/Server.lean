import ModuleKeeper.Registry

/-!
# A module service

The service as a state: the modules that it knows and the modules that each
database has. It answers the calls of the registry as the service is specified
to, and it can be told to give another reply to a call instead.

An install appends the names that it is given, even if they are there already;
a removal drops every name that it is given.

## Main results

* `modulesOf_edit_ne`: a change of one database leaves the others alone.
* `modulesOf_edit_self`: what a change makes of its own database.
-/

namespace ModuleKeeper

open ModuleKeeper.Text

/-- The state of a module service. -/
structure Server where
  /-- All modules, in the order in which they are listed. -/
  catalog : List Module
  /-- The names of the modules of each database, in the order of the databases. -/
  installed : List (Text × List Text)
  /-- Replies that are given instead of the service's own, by the key of the call. -/
  replies : List (Text × Reply)
  deriving Inhabited

namespace Server

/-! ## State -/

/-- The names that a database has; none if there is no such database. -/
def modulesOf (s : Server) (database : Text) : List Text :=
  ((s.installed.find? (·.1 = database)).map (·.2)).getD []

/-- What a change makes of the names of a database. -/
def edited (e : Registry.Edit) (names present : List Text) : List Text :=
  match e with
  | .install => present ++ names
  | .remove => present.filter fun n => !names.contains n

/-- Sets the names of a database; a new database comes last. -/
def setModules (database : Text) (names : List Text) :
    List (Text × List Text) → List (Text × List Text)
  | [] => [(database, names)]
  | d :: ds => if d.1 = database then (database, names) :: ds else d :: setModules database names ds

/-- The state after a change. -/
def edit (s : Server) (e : Registry.Edit) (database : Text) (names : List Text) : Server :=
  { s with installed := setModules database (edited e names (s.modulesOf database)) s.installed }

theorem find?_setModules_self (database : Text) (names : List Text)
    (ds : List (Text × List Text)) :
    (setModules database names ds).find? (·.1 = database) = some (database, names) := by
  induction ds with
  | nil => simp [setModules]
  | cons d ds ih =>
    rw [setModules]
    split
    · simp
    · rename_i h
      rw [List.find?_cons_of_neg (by simpa using h)]
      exact ih

theorem find?_setModules_ne {database other : Text} (h : other ≠ database) (names : List Text)
    (ds : List (Text × List Text)) :
    (setModules database names ds).find? (·.1 = other) = ds.find? (·.1 = other) := by
  induction ds with
  | nil => simp [setModules, Ne.symm h]
  | cons d ds ih =>
    rw [setModules]
    split
    · rename_i hd
      rw [List.find?_cons_of_neg (by simpa using Ne.symm h),
        List.find?_cons_of_neg (by rw [hd]; simpa using Ne.symm h)]
    · by_cases hd : d.1 = other
      · rw [List.find?_cons_of_pos (by simpa using hd), List.find?_cons_of_pos (by simpa using hd)]
      · rw [List.find?_cons_of_neg (by simpa using hd), List.find?_cons_of_neg (by simpa using hd),
          ih]

theorem modulesOf_edit_self (s : Server) (e : Registry.Edit) (database : Text)
    (names : List Text) :
    (s.edit e database names).modulesOf database = edited e names (s.modulesOf database) := by
  rw [modulesOf, edit, find?_setModules_self]
  rfl

theorem modulesOf_edit_ne {s : Server} {database other : Text} (h : other ≠ database)
    (e : Registry.Edit) (names : List Text) :
    (s.edit e database names).modulesOf other = s.modulesOf other := by
  rw [modulesOf, edit, find?_setModules_ne h]
  rfl

/-! ## Answers -/

/-- What stands behind the version in an address. -/
def pathOf (url : List CodePoint) : List CodePoint :=
  match url with
  | [] => []
  | c :: cs => if (letters "/v1/").isPrefixOf (c :: cs) then (c :: cs).drop 4 else pathOf cs

/-- The key of a call: its path, and for lists of modules which list is meant. -/
def key (q : Request) : Text :=
  let path := Text.ofList (pathOf q.url.toList)
  if path = "module/list" then
    if ((q.body.field? "all").getD .null).truthy then "module/list?all" else "module/list?installed"
  else path

/-- An accepting reply. -/
def accept (body : List CodePoint) : Reply := .ofText 200 "" body

/-- The database in the body of a call. -/
def databaseIn (q : Request) : Text := ((q.body.field? "dbAlias").getD .null).text

/-- The names in the body of a call. -/
def namesIn (q : Request) : List Text :=
  match q.body.field? "list" with
  | some (.list items) => items.map Value.text
  | _ => []

/-- What the service lists under a name: the first such module, or one that declares nothing. -/
def describe (s : Server) (name : Text) : Module :=
  (s.catalog.find? (·.name = name)).getD ⟨name, []⟩

/-- The body of a list of modules. -/
def listing (ms : List Module) : List CodePoint := Json.write (.list (ms.map Module.toValue))

/-- The service's own reply, and its state after the call. -/
def respond (s : Server) (q : Request) : Reply × Server :=
  let k := key q
  if k = "module/list?all" then (accept (listing s.catalog), s)
  else if k = "module/list?installed" then
    (accept (listing ((s.modulesOf (databaseIn q)).map s.describe)), s)
  else if k = "db/list" then
    (accept (Json.write (.list (s.installed.map fun d => .str d.1))), s)
  else if k = Registry.Edit.install.path then
    (accept [], s.edit .install (databaseIn q) (namesIn q))
  else if k = Registry.Edit.remove.path then
    (accept [], s.edit .remove (databaseIn q) (namesIn q))
  else (accept [], s)

/-- The reply to a call, and the state after it. -/
def answer (s : Server) (q : Request) : Reply × Server :=
  match s.replies.find? (·.1 = key q) with
  | some r => (r.2, s)
  | none => s.respond q

end Server

end ModuleKeeper
