import ModuleKeeper.Proofs.Assembling
import ModuleKeeper.Settings.File
import ModuleKeeper.Text.Utf8

/-!
# The layers of settings

Settings come from three places: the environment, a file, and the program itself.
Each place may leave a setting out, and each has a notion of its own of what that
is.  A file leaves out what it has no entry for, and an entry may well say that there is
nothing; the environment leaves out what is not set, and what is set to nothing.

What a file says beyond the known settings is kept as it is, in order, and the
environment does not touch it.

## Main results

* `get_applyEnvironment`, `get_ofEntries`: where a setting comes from.
* `Environment.get?_overlay`: one environment put over another.
* `textKeysOnce_of_read`: a file says at most one thing about a setting.
* `ofFile_layered`: the layers of settings that come from a file.
-/

namespace ModuleKeeper.Settings

open Yaml.Assembly (TextKeysOnce)

/-! ## Names of settings -/

theorem Name.ofWritten?_eq_some {s : Text} {n : Name} (h : Name.ofWritten? s = some n) :
    n.written = s := by
  have hfound := List.find?_some h
  exact of_decide_eq_true hfound

theorem Name.ofKey?_eq_some_iff {key : Value} {n : Name} :
    Name.ofKey? key = some n ↔ key = .str n.written := by
  constructor
  · intro h
    cases key with
    | str s => rw [Name.ofWritten?_eq_some h]
    | _ => cases h
  · rintro rfl
    exact Name.ofWritten?_written n

/-- The keys of a file that are settings. -/
def IsSetting (key : Value) : Prop := ∃ n : Name, key = .str n.written

theorem isSetting_iff {key : Value} : IsSetting key ↔ (Name.ofKey? key).isSome := by
  rw [Option.isSome_iff_exists]
  exact exists_congr fun n => Name.ofKey?_eq_some_iff.symm

instance (key : Value) : Decidable (IsSetting key) := decidable_of_iff _ isSetting_iff.symm

theorem unknown_eq (entries : List (Value × Value)) :
    unknown entries = entries.filter fun e => ¬IsSetting e.1 := by
  unfold unknown
  refine List.filter_congr ?_
  intro e he
  rw [Bool.eq_iff_iff, decide_eq_true_iff, isSetting_iff]
  simp

/-- Settings that agree in all they hold are the same. -/
theorem ext_get {s t : Settings} (hget : ∀ n, s.get n = t.get n) (hextra : s.extra = t.extra) :
    s = t := by
  obtain ⟨address, token, timeout, transitive, assumeYes, extra⟩ := s
  obtain rfl : address = t.address := hget .address
  obtain rfl : token = t.token := hget .token
  obtain rfl : timeout = t.timeout := hget .timeout
  obtain rfl : transitive = t.transitive := hget .transitive
  obtain rfl : assumeYes = t.assumeYes := hget .assumeYes
  obtain rfl : extra = t.extra := hextra
  rfl

/-! ## The file -/

variable {entries : List (Value × Value)} {n : Name} {v : Value}

/-- An entry changes the setting that is its key, and no other. -/
theorem get_enter (s : Settings) (e : Value × Value) (n : Name) :
    (s.enter e).get n = if Name.ofKey? e.1 = some n then e.2 else s.get n := by
  unfold enter
  cases Name.ofKey? e.1 with
  | none => rfl
  | some k =>
      by_cases hk : n = k
      · subst hk
        rw [if_pos rfl]
        exact get_set_self s n e.2
      · rw [if_neg fun h => hk (Option.some.inj h).symm]
        exact get_set_ne hk s e.2

theorem get_foldl_enter_of_not_mem (h : ∀ v, (.str n.written, v) ∉ entries) (s : Settings) :
    (entries.foldl enter s).get n = s.get n := by
  induction entries generalizing s with
  | nil => rfl
  | cons e es ih =>
      have hne : Name.ofKey? e.1 ≠ some n := by
        intro hkey
        refine h e.2 ?_
        rw [← Name.ofKey?_eq_some_iff.1 hkey]
        exact List.mem_cons_self
      rw [List.foldl_cons, ih fun v hv => h v (List.mem_cons_of_mem _ hv), get_enter, if_neg hne]

/-- Of the entries of a file at most one is about a setting. -/
theorem get_foldl_enter_of_mem (honce : TextKeysOnce entries)
    (h : (.str n.written, v) ∈ entries) (s : Settings) : (entries.foldl enter s).get n = v := by
  induction entries generalizing s with
  | nil => cases h
  | cons e es ih =>
      obtain ⟨hfirst, hrest⟩ := List.pairwise_cons.1 honce
      rw [List.foldl_cons]
      rcases List.mem_cons.1 h with rfl | hmem
      · have hnone : ∀ w, (.str n.written, w) ∉ es := by
          intro w hw
          exact hfirst _ hw n.written rfl rfl
        rw [get_foldl_enter_of_not_mem hnone, get_enter,
          if_pos (Name.ofKey?_eq_some_iff.2 rfl)]
      · exact ih hrest hmem _

theorem get_ofEntries (entries : List (Value × Value)) (n : Name) :
    (ofEntries entries).get n = (entries.foldl enter default).get n := by
  cases n <;> rfl

/-- The entries of a file have no text twice as key. -/
theorem textKeysOnce_of_read {found : Text} {file : File}
    (h : (file.read found).2 = .ok entries) : TextKeysOnce entries := by
  cases file with
  | missing =>
      cases h
      exact .nil
  | directory => cases h
  | blocked => cases h
  | contents bytes =>
      simp only [File.read] at h
      split at h
      · cases h
      · unfold File.entriesOf at h
        split at h
        · cases h
        · cases h
        · cases h
          exact .nil
        · cases h
          exact .nil
        · rename_i entries' hread
          cases h
          unfold Yaml.read at hread
          split at hread
          · cases hread
          · cases hread
          · rename_i g hnodes
            cases hvalue : g.value with
            | error x =>
                rw [hvalue] at hread
                cases hread
            | ok w =>
                rw [hvalue] at hread
                cases hread
                exact g.textKeysOnce_of_value hvalue
        · cases h
          exact .nil

/-! ## The environment -/

theorem get_override (values : List (Text × Value)) (s : Settings) (k n : Name) :
    (override values s k).get n =
      if n = k then (n.variableOf.bind (given? values)).getD (s.get n) else s.get n := by
  unfold override
  by_cases hk : n = k
  · subst hk
    rw [if_pos rfl]
    cases n.variableOf.bind (given? values) with
    | none => rfl
    | some v => exact get_set_self s n v
  · rw [if_neg hk]
    cases k.variableOf.bind (given? values) with
    | none => rfl
    | some v => exact get_set_ne hk s v

theorem get_applyValues (values : List (Text × Value)) (s : Settings) (n : Name) :
    (s.applyValues values).get n = (n.variableOf.bind (given? values)).getD (s.get n) := by
  unfold applyValues Name.all
  simp only [List.foldl_cons, List.foldl_nil, get_override]
  cases n <;> simp only [reduceCtorEq, if_true, if_false]

theorem extra_applyValues (values : List (Text × Value)) (s : Settings) :
    (s.applyValues values).extra = s.extra := by
  have hoverride : ∀ (ns : List Name) (s : Settings),
      (ns.foldl (override values) s).extra = s.extra := by
    intro ns
    induction ns with
    | nil => exact fun _ => rfl
    | cons k ns ih =>
        intro s
        rw [List.foldl_cons, ih]
        unfold override
        split
        · cases k <;> rfl
        · rfl
  exact hoverride Name.all s

/-- What the environment says about a setting. -/
def said? (env : Environment) (n : Name) : Option Text := n.variableOf.bind env.get?

theorem get_applyEnvironment (env : Environment) (s : Settings) (n : Name) :
    (s.applyEnvironment env).get n = ((said? env n).map .str).getD (s.get n) := by
  have hgiven : n.variableOf.bind (given? (env.map fun e => (e.1, .str e.2))) =
      (said? env n).map .str := by
    unfold said?
    rw [Option.map_bind]
    exact congrArg _ (funext fun name => given?_map_str env name)
  rw [applyEnvironment, get_applyValues, hgiven]

theorem extra_applyEnvironment (env : Environment) (s : Settings) :
    (s.applyEnvironment env).extra = s.extra := extra_applyValues _ s

/-! ### One environment over another -/

/-- An environment with the variables of another one, as far as these are set to something. -/
def Environment.overlay (env upper : Environment) : Environment :=
  upper.filter (fun e => (upper.get? e.1).isSome) ++ env

theorem Environment.get?_append (front env : Environment) (name : Text) :
    Environment.get? (front ++ env) name =
      (((front.find? (·.1 = name)).or (env.find? (·.1 = name))).map (·.2)).filter
        (! ·.isEmpty) := by
  rw [Environment.get?, List.find?_append]

theorem Environment.get?_overlay (env upper : Environment) (name : Text) :
    (env.overlay upper).get? name = (upper.get? name).or (env.get? name) := by
  have hupper : (upper.filter fun e => (upper.get? e.1).isSome).find? (·.1 = name) =
      if (upper.get? name).isSome then upper.find? (·.1 = name) else none := by
    rw [List.find?_filter]
    split
    · rename_i hset
      refine congrArg (upper.find? ·) (funext fun e => ?_)
      by_cases hname : e.1 = name
      · simp [hname, hset]
      · simp [hname]
    · rename_i hunset
      refine List.find?_eq_none.2 fun e he hboth => hunset ?_
      obtain ⟨hset, hname⟩ : (upper.get? e.1).isSome ∧ e.1 = name := by simpa using hboth
      rw [← hname]
      exact hset
  rw [overlay, get?_append, hupper]
  cases hset : upper.get? name with
  | none => rfl
  | some text =>
      rw [if_pos Option.isSome_some, Option.some_or]
      unfold get? at hset
      cases hfound : upper.find? (·.1 = name) with
      | none =>
          rw [hfound] at hset
          cases hset
      | some e =>
          rw [hfound] at hset
          exact hset

theorem said?_overlay (env upper : Environment) (n : Name) :
    said? (env.overlay upper) n = (said? upper n).or (said? env n) := by
  unfold said?
  cases n.variableOf with
  | none => rfl
  | some name => exact Environment.get?_overlay env upper name

/-- Two environments one behind the other are the second one over the first. -/
theorem applyEnvironment_applyEnvironment (s : Settings) (env upper : Environment) :
    (s.applyEnvironment env).applyEnvironment upper = s.applyEnvironment (env.overlay upper) := by
  refine ext_get ?_ ?_
  · intro n
    rw [get_applyEnvironment, get_applyEnvironment, get_applyEnvironment, said?_overlay]
    cases said? upper n <;> rfl
  · rw [extra_applyEnvironment, extra_applyEnvironment, extra_applyEnvironment]

/-- The same environment changes nothing for a second time. -/
theorem applyEnvironment_self (s : Settings) (env : Environment) :
    (s.applyEnvironment env).applyEnvironment env = s.applyEnvironment env := by
  refine ext_get ?_ (extra_applyEnvironment env _)
  intro n
  rw [get_applyEnvironment, get_applyEnvironment]
  cases said? env n <;> rfl

/-! ## All layers -/

/-- The value of a setting: from the environment, else from the file, else the default. -/
inductive Layered (env : Environment) (entries : List (Value × Value)) (n : Name) : Value → Prop
  | environment {text : Text} (h : said? env n = some text) : Layered env entries n (.str text)
  | file {v : Value} (hunset : said? env n = none) (h : (.str n.written, v) ∈ entries) :
      Layered env entries n v
  | program (hunset : said? env n = none) (h : ∀ v, (.str n.written, v) ∉ entries) :
      Layered env entries n (default.get n)

theorem get_of_layered (honce : TextKeysOnce entries) {env : Environment}
    (h : Layered env entries n v) : ((ofEntries entries).applyEnvironment env).get n = v := by
  rw [get_applyEnvironment]
  cases h with
  | environment h => rw [h]; rfl
  | file hunset h =>
      rw [hunset, get_ofEntries]
      exact get_foldl_enter_of_mem honce h default
  | program hunset h =>
      rw [hunset, get_ofEntries]
      exact get_foldl_enter_of_not_mem h default

theorem exists_layered (env : Environment) (entries : List (Value × Value)) (n : Name) :
    ∃ v, Layered env entries n v := by
  cases hsaid : said? env n with
  | some text => exact ⟨_, .environment hsaid⟩
  | none =>
      by_cases hmem : ∃ v, (.str n.written, v) ∈ entries
      · obtain ⟨v, hv⟩ := hmem
        exact ⟨v, .file hsaid hv⟩
      · exact ⟨_, .program hsaid fun v hv => hmem ⟨v, hv⟩⟩

/-- Each setting has exactly one value in all layers together. -/
theorem get_eq_iff_layered (honce : TextKeysOnce entries) {env : Environment} :
    ((ofEntries entries).applyEnvironment env).get n = v ↔ Layered env entries n v := by
  constructor
  · intro h
    obtain ⟨w, hw⟩ := exists_layered env entries n
    rw [get_of_layered honce hw] at h
    rwa [← h]
  · exact get_of_layered honce

/--
**The layers of settings lose nothing.**  Where a file yields entries, there are settings from
it.  With any environment each of them has the text of its variable if that is set to
something, else what the file has an entry for, whatever that is, else the default; and the
entries of the file that are no settings are kept in order, with any environment.  An environment
changes nothing for a second time, and two of them one behind the other are the second one
over the first, whose variables count where the second one does not set them to something.
-/
theorem ofFile_layered (path : Text) {found : Text} {file : File}
    (h : (file.read found).2 = .ok entries) :
    ∃ s, (ofFile path (.ok (found, file))).2 = .ok s ∧
      (∀ env n v, (s.applyEnvironment env).get n = v ↔ Layered env entries n v) ∧
      (∀ env, (s.applyEnvironment env).extra = .map (entries.filter fun e => ¬IsSetting e.1)) ∧
      (∀ env, (s.applyEnvironment env).applyEnvironment env = s.applyEnvironment env) ∧
      ∀ env upper : Environment,
        (s.applyEnvironment env).applyEnvironment upper = s.applyEnvironment (env.overlay upper) ∧
          ∀ name, (env.overlay upper).get? name = (upper.get? name).or (env.get? name) := by
  refine ⟨ofEntries entries, ?_, ?_, ?_, applyEnvironment_self _, ?_⟩
  · show ((file.read found).2.mapError (readFailure path)).map ofEntries = _
    rw [h]
    rfl
  · intro env n v
    exact get_eq_iff_layered (textKeysOnce_of_read h)
  · intro env
    rw [extra_applyEnvironment, entries_keep_unknown, unknown_eq]
  · intro env upper
    exact ⟨applyEnvironment_applyEnvironment _ env upper, env.get?_overlay upper⟩

/-- A file with an address of nothing, a key that only looks like a setting, and a number as key. -/
def patchyFile : File :=
  .contents (Text.Utf8.encode (Text.letters "server_url: null\ntimeout: 5\nextra: 1\n7: seven\n"))

/-- What the file says. -/
def patchyEntries : List (Value × Value) :=
  [(.str addressSetting, .null), (.str "timeout", .int 5), (.str extraName, .int 1),
    (.int 7, .str "seven")]

/-- Whether this is what a file says. -/
def arePatchy : List (Value × Value) → Bool
  | [(.str a, .null), (.str b, .int m), (.str c, .int n), (.int k, .str d)] =>
    a = addressSetting && b = "timeout" && m = 5 && c = extraName && n = 1 && k = 7 && d = "seven"
  | _ => false

theorem eq_of_arePatchy (h : arePatchy entries = true) : entries = patchyEntries := by
  unfold arePatchy at h
  split at h
  · simp only [Bool.and_eq_true, decide_eq_true_eq] at h
    obtain ⟨⟨⟨⟨⟨⟨rfl, rfl⟩, rfl⟩, rfl⟩, rfl⟩, rfl⟩, rfl⟩ := h
    rfl
  · cases h

theorem read_patchyFile : (patchyFile.read "config.yml").2 = .ok patchyEntries := by
  have hread : (patchyFile.read "config.yml").2.toOption.any arePatchy = true := by
    decide +kernel
  cases hresult : (patchyFile.read "config.yml").2 with
  | error f =>
      rw [hresult] at hread
      cases hread
  | ok entries =>
      rw [hresult] at hread
      rw [eq_of_arePatchy hread]

theorem ofFile_layered_patchyFile :
    (patchyFile.read "config.yml").2 = .ok patchyEntries ∧
      ∃ s, (ofFile "config.yml" (.ok ("config.yml", patchyFile))).2 = .ok s ∧
        ∀ t, t = s.applyEnvironment [("MODCTL_API_TOKEN", ""), ("MODCTL_TIMEOUT", "9")] →
          t.address = .null ∧ t.token = .str "" ∧ t.timeout = .str "9" ∧
            t.extra = .map [(.str extraName, .int 1), (.int 7, .str "seven")] := by
  obtain ⟨s, hs, hlayers, hextra, -⟩ := ofFile_layered "config.yml" read_patchyFile
  refine ⟨read_patchyFile, s, hs, ?_⟩
  rintro t rfl
  refine ⟨(hlayers _ .address _).2 (.file rfl (by simp [patchyEntries, Name.written])),
    (hlayers _ .token _).2 (.program rfl ?_), (hlayers _ .timeout _).2 (.environment rfl), ?_⟩
  · intro v hv
    simp [patchyEntries, Name.written, addressSetting, extraName] at hv
  · exact hextra _

end ModuleKeeper.Settings
