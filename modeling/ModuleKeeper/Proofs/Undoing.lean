import ModuleKeeper.Proofs.Changes
import ModuleKeeper.Proofs.Exchanges
import ModuleKeeper.Proofs.Removing

/-!
# A removal undoes an install

A plan is made by one rule and a removal is checked by another one.  Where
whatever the catalog declares is in the catalog, and a database needs nothing
that it does not have, the two fit together: all names of a plan are known and
installed afterwards, and what was there before needs none of them.  So the
modules of a plan can be removed again, in whichever order and however often
they are named, and then everything is as it was.

Both conditions are about the removal.  A name that the catalog lacks can be
installed as a dependency, but a removal of it is refused.

## Main results

* `Planned.modules_known`: the modules of a plan are in the catalog.
* `Service.removalFor_of_edited`: after an install its removal is accepted.
* `Service.Edited.undone`: an install and its removal change nothing.
* `Command.undone_of_installs`: both for commands.
-/

namespace ModuleKeeper

open ModuleKeeper.Task

/-! ## The modules of a plan -/

/-- Whatever the catalog declares is in the catalog. -/
def Install.Complete (catalog : Roster) : Prop :=
  ∀ n d, Install.Declares catalog n d → d ∈ catalog.names

/-- What a plan adds is declared, in either mode. -/
theorem Install.known_of_additions {catalog installed : Roster} {transitive : Bool}
    {names added : List Text} (hcomplete : Install.Complete catalog)
    (hknown : ∀ n ∈ names, n ∈ catalog.names)
    (h : Install.additions catalog installed transitive names = .ok added) :
    ∀ d ∈ added, d ∈ catalog.names := by
  intro d hd
  cases transitive with
  | true =>
      rw [Install.eq_closure_of_additions h] at hd
      have hclosed : Install.ClosedUnder catalog installed {n | n ∈ catalog.names} :=
        fun n _ d hdecl _ => hcomplete n d hdecl
      exact Install.mem_of_mem_hull hclosed hknown d (List.mem_append_right _ hd)
  | false =>
      obtain rfl : Install.implied catalog installed names = added := Except.ok.inj h
      obtain ⟨n, -, hdecl⟩ := List.mem_flatMap.1 (Install.mem_unseen_iff.1 hd).1
      exact hcomplete n d (Install.declares_iff.2 hdecl)

theorem Planned.modules_known {catalog installed : Roster} {transitive : Bool}
    {plan : Install.Plan Text} (hcomplete : Install.Complete catalog)
    (h : Planned catalog installed transitive plan) : ∀ n ∈ plan.modules, n ∈ catalog.names := by
  obtain ⟨added, hadded, hmodules⟩ := h.exists_additions
  intro n hn
  rw [hmodules] at hn
  rcases List.mem_append.1 hn with hrequested | himplied
  · exact h.known n hrequested
  · exact Install.known_of_additions hcomplete h.known hadded n himplied

variable {ρ υ : Type} {S : Service ρ} {g : Gateway}

namespace Service

/-! ## What a service records -/

/-- What a service records for a name is what its catalog declares for it. -/
theorem declares_iff_describe {s : ρ} {database n d : Text} :
    Install.Declares (S.roster s database .catalog) n d ↔ d ∈ (S.describe s n).dependencies := by
  rw [Install.declares_iff, Roster.dependenciesOf, roster, Roster.get?_ofModules, shown, describe]
  cases (S.catalog s).find? (·.name = n) <;> rfl

theorem mem_modules_installed {s : ρ} {database : Text} {m : Module}
    (h : m ∈ (S.roster s database .installed).modules) :
    m.name ∈ S.modulesOf s database ∧ m = S.describe s m.name := by
  have hname : m.name ∈ S.modulesOf s database :=
    mem_names_installed.1 (List.mem_map.2 ⟨m, h, rfl⟩)
  have hget := get?_installed (S := S) hname
  rw [Roster.get?_eq_some_iff.2 ⟨h, rfl⟩] at hget
  exact ⟨hname, Option.some.inj hget⟩

/-- A database has whatever the catalog declares for one of its modules. -/
def ClosedAt (S : Service ρ) (s : ρ) (database : Text) : Prop :=
  ∀ n ∈ S.modulesOf s database, ∀ d,
    Install.Declares (S.roster s database .catalog) n d → d ∈ S.modulesOf s database

/-- A service is closed under dependencies if each of its databases is. -/
theorem dependencyClosed_iff {s : ρ} :
    S.DependencyClosed s ↔ ∀ database, S.ClosedAt s database := by
  refine forall_congr' fun database => forall₂_congr fun n _ => ⟨fun h d hdecl => ?_, ?_⟩
  · rw [declares_iff_describe, describe] at hdecl
    cases hfound : (S.catalog s).find? (·.name = n) with
    | none =>
        rw [hfound] at hdecl
        cases hdecl
    | some m =>
        rw [hfound] at hdecl
        exact h m hfound d hdecl
  · exact fun h m hm d hd => h d (declares_of_find? hm hd)

/-! ## An install and its removal -/

variable {s t u : ρ} {database : Text} {transitive : Bool} {plan : Install.Plan Text}

theorem Edited.describe {e : Registry.Edit} {names : List Text}
    (h : S.Edited e database names s t) : S.describe t = S.describe s := by
  funext name
  rw [Service.describe, Service.describe, h.catalog]

/-- After one change, a service shows one thing. -/
theorem Edited.same {e : Registry.Edit} {names : List Text}
    (h : S.Edited e database names s t) (h' : S.Edited e database names s u) : S.Same t u where
  catalog := h'.catalog.trans h.catalog.symm
  modulesOf := by
    intro other
    by_cases hother : other = database
    · rw [hother, h.target, h'.target]
    · rw [h.others other hother, h'.others other hother]

/-- What was there before an install needs none of the names of its plan. -/
theorem unneeded_of_edited
    (hplanned : Planned (S.roster s database .catalog) (S.roster s database .installed) transitive
      plan) (hedited : S.Edited .install database plan.modules s t)
    (hclosed : S.ClosedAt s database) :
    Removal.Unneeded (S.roster t database .installed) plan.modules := by
  intro m hm hstays d hd hgoes
  obtain ⟨hpresent, hrecord⟩ := mem_modules_installed hm
  rw [hedited.target, Server.edited, List.mem_append] at hpresent
  rw [hrecord, hedited.describe] at hd
  have hneeded : d ∈ S.modulesOf s database :=
    hclosed m.name (hpresent.resolve_right hstays) d (declares_iff_describe.2 hd)
  exact hplanned.modules_fresh.2 d hgoes (mem_names_installed.2 hneeded)

/-- **The removal of a plan is accepted**, however its modules are named. -/
theorem removalFor_of_edited
    (hplanned : Planned (S.roster s database .catalog) (S.roster s database .installed) transitive
      plan) (hedited : S.Edited .install database plan.modules s t)
    (hcomplete : Install.Complete (S.roster s database .catalog)) (hclosed : S.ClosedAt s database)
    (hsome : plan.modules ≠ []) {names : List Text} (hnames : ∀ n, n ∈ names ↔ n ∈ plan.modules) :
    Removal.removalFor (S.roster t database .catalog) (S.roster t database .installed) names =
      .ok names.eraseDups := by
  have hcatalog : S.roster t database .catalog = S.roster s database .catalog :=
    congrArg Roster.ofModules hedited.catalog
  have hpresent : ∀ n ∈ plan.modules, n ∈ (S.roster t database .installed).names := by
    intro n hn
    rw [mem_names_installed, hedited.target]
    exact List.mem_append_right _ hn
  refine Removal.removalFor_eq_ok_iff.2 ⟨?_, ?_, ?_, ?_, rfl⟩
  · obtain ⟨n, hn⟩ := List.exists_mem_of_ne_nil _ hsome
    exact List.ne_nil_of_mem (hpresent n hn)
  · intro n hn
    rw [hcatalog]
    exact hplanned.modules_known hcomplete n ((hnames n).1 hn)
  · exact fun n hn => hpresent n ((hnames n).1 hn)
  · exact (unneeded_of_edited hplanned hedited hclosed).congr hnames

/-- What is behind a list goes when its names are taken out of both, if none stands before. -/
theorem edited_remove_install {present added names : List Text}
    (hfresh : ∀ n ∈ added, n ∉ present) (hnames : ∀ n, n ∈ names ↔ n ∈ added) :
    Server.edited .remove names (Server.edited .install added present) = present := by
  have hkept : present.filter (fun n => !names.contains n) = present := by
    rw [List.filter_eq_self]
    intro n hn
    have hstays : n ∉ names := fun hmem => hfresh n ((hnames n).1 hmem) hn
    simpa using hstays
  have hgone : added.filter (fun n => !names.contains n) = [] := by
    rw [List.filter_eq_nil_iff]
    intro n hn
    simpa using (hnames n).2 hn
  simp only [Server.edited]
  rw [List.filter_append, hkept, hgone, List.append_nil]

/-- **An install and the removal of its plan change nothing.** -/
theorem Edited.undone
    (hplanned : Planned (S.roster s database .catalog) (S.roster s database .installed) transitive
      plan) (hinstalled : S.Edited .install database plan.modules s t) {names : List Text}
    (hnames : ∀ n, n ∈ names ↔ n ∈ plan.modules)
    (hremoved : S.Edited .remove database names t u) : S.Same s u where
  catalog := hremoved.catalog.trans hinstalled.catalog
  modulesOf := by
    intro other
    by_cases hother : other = database
    · subst hother
      have hfresh : ∀ n ∈ plan.modules, n ∉ S.modulesOf s other :=
        fun n hn hpresent => hplanned.modules_fresh.2 n hn (mem_names_installed.2 hpresent)
      rw [hremoved.target, hinstalled.target, edited_remove_install hfresh hnames]
    · rw [hremoved.others other hother, hinstalled.others other hother]

end Service

/-! ## Services that oblige -/

/--
Whatever shows the same as the state `s` gives both lists of a database and
makes a change of it.
-/
structure Service.Obliging (S : Service ρ) (g : Gateway) (s : ρ) (e : Registry.Edit)
    (database : Text) (names : List Text) : Prop where
  lists : ∀ t, S.Same s t → ∀ role, ∃ q r,
    g.request (Registry.rosterCall role database).1 (Registry.rosterCall role database).2 = .ok q ∧
      (Registry.readRoster role (S.respond t q).1).2 = .ok r
  change : ∀ t, S.Same s t → ∃ q answer,
    g.request e.path (Registry.Edit.body database names) = .ok q ∧
      Gateway.interpret (S.respond t q).1 = .ok answer

namespace Service.Obliging

variable {start : ρ} {e : Registry.Edit} {database : Text} {names : List Text}

theorem reaches_registry : ((S.registry g : Registry (StateM (Scene ρ υ)))).Reaches S.respond :=
  ⟨rfl, rfl⟩

/-- A list that was asked for is read. -/
theorem read (h : S.Obliging g start e database names) (hS : S.Specified g) {role : Role}
    {s s' : Scene ρ υ} (hs : S.Same start s.service) {x : Except Failure Reply}
    (hx : Exchanged S.respond g (Registry.rosterCall role database) s x s') :
    S.Same start s'.service ∧
      ∃ r, (x.bind fun reply => (Registry.readRoster role reply).2) = .ok r := by
  obtain ⟨q, r, hq, hread⟩ := h.lists s.service hs role
  cases hx with
  | unsent cause _ hcause _ => cases hq.symm.trans hcause
  | sent q' reply _ hq' hspeaks =>
      obtain rfl : q = q' := Except.ok.inj (hq.symm.trans hq')
      obtain ⟨hreply, hstate⟩ := hspeaks.talks
      refine ⟨?_, r, ?_⟩
      · rw [hstate]
        exact hs.trans (hS.lists s.service role database q hq).1
      · rw [← hread, ← hreply]
        rfl

theorem fetchSnapshot (h : S.Obliging g start e database names) (hS : S.Specified g)
    {s : Scene ρ υ} (hs : S.Same start s.service) :
    ∃ rosters taken, ((S.registry g).fetchSnapshot database).runIn s = (.ok rosters, taken) := by
  rcases hrun : ((S.registry g).fetchSnapshot database).runIn s with ⟨o, taken⟩
  obtain ⟨x, s₁, y, hx, hy, ho⟩ := exchanged_fetchSnapshot reaches_registry hrun
  obtain ⟨hs₁, catalog, hcatalog⟩ := h.read hS hs hx
  obtain ⟨-, installed, hinstalled⟩ := h.read hS hs₁ hy
  rw [hcatalog, hinstalled] at ho
  exact ⟨(catalog, installed), taken, by rw [ho]; rfl⟩

/-- A change that needs no confirmation is made. -/
theorem execute (h : S.Obliging g start e database names) {c : Command υ}
    (hyes : c.assumeYes.truthy = true) {s : Scene ρ υ} (hs : S.Same start s.service) :
    ∃ s', ((c.keeper S g).execute e database names).runIn s = (.ok (), s') := by
  have hconfirm : ∀ question declined,
      ((c.keeper S g).confirm question declined).runIn s = (.ok (), s) := by
    intro question declined
    have hassumed : (c.keeper S g).assumeYes.truthy = true := hyes
    unfold Keeper.confirm
    rw [if_pos hassumed]
    rfl
  unfold Keeper.execute
  rw [runIn_bind, hconfirm]
  dsimp only
  rcases happly : ((c.keeper S g).registry.apply e database names).runIn s with ⟨o, s'⟩
  obtain ⟨x, hx, ho⟩ := exchanged_apply (reaches_registry (S := S) (g := g)) happly
  obtain ⟨q, answer, hq, hanswer⟩ := h.change s.service hs
  cases hx with
  | unsent cause _ hcause _ => cases hq.symm.trans hcause
  | sent q' reply _ hq' hspeaks =>
      obtain rfl : q = q' := Except.ok.inj (hq.symm.trans hq')
      have hreply : (S.respond s.service q).1 = reply := hspeaks.talks.1
      rw [← hreply] at ho
      obtain rfl : o = .ok () := by
        rw [ho]
        simp [Except.bind, Except.mapError, Except.map, hanswer]
      rw [runIn_bind, happly]
      exact ⟨_, rfl⟩

end Service.Obliging

/-! ## Commands -/

namespace Command

/--
A command that installs a plan in a database: it found the database, planned,
and made the change.
-/
structure Installs (c : Command υ) (S : Service ρ) (g : Gateway) (database : Text)
    (plan : Install.Plan Text) (before after : Scene ρ υ) : Prop where
  edit : c.edit = .install
  steps : ∃ found planned,
    (c.target.find (c.keeper S g)).runIn before = (.ok database, found) ∧
      ((c.keeper S g).prepareInstall database c.request).runIn found = (.ok plan, planned) ∧
        ((c.keeper S g).executeInstall database plan).runIn planned = (.ok (), after)

/-- Every install that succeeds has installed a plan. -/
theorem installs_of_ok {c : Command υ} (hedit : c.edit = .install) {before after : Scene ρ υ}
    (hrun : (c.task S g).runIn before = (.ok (), after)) :
    ∃ database plan, c.Installs S g database plan before after := by
  unfold task at hrun
  obtain ⟨database, found, hfind, hrun⟩ := runIn_bind_eq_ok.1 hrun
  rw [hedit] at hrun
  obtain ⟨plan, planned, hplan, hexecute⟩ := runIn_bind_eq_ok.1 hrun
  exact ⟨database, plan, hedit, found, planned, hfind, hplan, hexecute⟩

/-- What an install planned, it planned on what the service showed; and it made this change. -/
theorem Installs.planned_edited (hS : S.Specified g) {c : Command υ} {database : Text}
    {plan : Install.Plan Text} {before after : Scene ρ υ}
    (h : c.Installs S g database plan before after) :
    Planned (S.roster before.service database .catalog)
        (S.roster before.service database .installed) c.transitive.truthy plan ∧
      S.Edited .install database plan.modules before.service after.service := by
  obtain ⟨-, found, planned, hfind, hplan, hexecute⟩ := h
  have hfound : S.Same before.service found.service :=
    ((Keeps.find hS before.service c c.target).of_ok (Service.Same.refl _) hfind).2
  obtain ⟨hplanned, hsame⟩ :=
    (Keeps.prepareInstall hS before.service c database).of_ok hfound hplan
  exact ⟨hplanned, edited_of_execute_ok hS hsame hexecute⟩

variable {c r : Command υ} {database : Text} {plan : Install.Plan Text} {names : List Text}
  {before after found : Scene ρ υ}

/-- A removal of the modules of a plan is prepared, once both rosters are there. -/
theorem prepareRemoval_of_removalFor (hS : S.Specified g)
    (haccepted : Removal.removalFor (S.roster after.service database .catalog)
      (S.roster after.service database .installed) names = .ok names.eraseDups)
    (hrequest : r.request = Naming.ofTexts (some names))
    (hfound : S.Same after.service found.service) {rosters : Roster × Roster} {taken : Scene ρ υ}
    (hfetch : ((r.keeper S g).registry.fetchSnapshot database).runIn found =
      (.ok rosters, taken)) :
    ∃ checked, ((r.keeper S g).prepareRemoval database r.request).runIn found =
      (.ok names.eraseDups, checked) := by
  have hrosters := ((Keeps.fetchSnapshot (υ := υ) hS after.service database).of_ok hfound hfetch).1
  obtain ⟨checked, hchecked⟩ :=
    Removal.runIn_resolve_of_removalFor haccepted (r.keeper S g).prompter taken
  refine ⟨checked, ?_⟩
  unfold Keeper.prepareRemoval
  rw [runIn_bind, hfetch, hrosters, hrequest]
  dsimp only
  rw [Removal.resolveRequested_ofTexts]
  exact hchecked

/--
**A removal undoes an install.**  Let whatever the catalog declares be in the
catalog, and let a database need nothing that it does not have.  After an
install of some modules there, direct or transitive, requested or selected, a
removal of all of them is accepted, in whichever order and however often they
are named.  A command for it that needs no confirmation succeeds with a service
that obliges; and whenever one succeeds, the service shows what it showed before
the install.
-/
theorem undone_of_installs (hS : S.Specified g)
    (hinstalls : c.Installs S g database plan before after) (hsome : plan.modules ≠ [])
    (hcomplete : Install.Complete (S.roster before.service database .catalog))
    (hclosed : S.ClosedAt before.service database) (hnames : ∀ n, n ∈ names ↔ n ∈ plan.modules)
    (hedit : r.edit = .remove) (hrequest : r.request = Naming.ofTexts (some names))
    (hfind : (r.target.find (r.keeper S g)).runIn after = (.ok database, found)) :
    (∀ prompter : Option (Prompter (StateM (Scene ρ υ))), ∀ s,
      ((Removal.resolveRequested Scene.note prompter (S.roster after.service database .catalog)
        (S.roster after.service database .installed) r.request).runIn s).1 =
          .ok names.eraseDups) ∧
    (r.assumeYes.truthy = true →
      S.Obliging g after.service .remove database names.eraseDups →
        ∃ final, (r.task S g).runIn after = (.ok (), final)) ∧
    ∀ final, (r.task S g).runIn after = (.ok (), final) →
      S.Same before.service final.service := by
  obtain ⟨hplanned, hedited⟩ := hinstalls.planned_edited hS
  have haccepted := Service.removalFor_of_edited hplanned hedited hcomplete hclosed hsome hnames
  have hfound : S.Same after.service found.service :=
    ((Keeps.find hS after.service r r.target).of_ok (Service.Same.refl _) hfind).2
  have hprepared : ∀ rosters taken,
      ((r.keeper S g).registry.fetchSnapshot database).runIn found = (.ok rosters, taken) →
        ∃ checked, ((r.keeper S g).prepareRemoval database r.request).runIn found =
          (.ok names.eraseDups, checked) :=
    fun _ _ hfetch => prepareRemoval_of_removalFor hS haccepted hrequest hfound hfetch
  have hchecked : ∀ {removed : List Text} {checked : Scene ρ υ},
      ((r.keeper S g).prepareRemoval database r.request).runIn found = (.ok removed, checked) →
        S.Same after.service checked.service :=
    fun hcheck => ((Keeps.prepareRemoval hS after.service r database).of_ok hfound hcheck).2
  refine ⟨fun prompter s => ?_, fun hyes hobliging => ?_, fun final hrun => ?_⟩
  · obtain ⟨s', hs'⟩ := Removal.runIn_resolve_of_removalFor haccepted prompter s
    rw [hrequest, Removal.resolveRequested_ofTexts, hs']
  · obtain ⟨rosters, taken, hfetch⟩ := hobliging.fetchSnapshot (υ := υ) hS hfound
    obtain ⟨checked, hcheck⟩ := hprepared rosters taken hfetch
    obtain ⟨final, hexecute⟩ := hobliging.execute hyes (hchecked hcheck)
    refine ⟨final, ?_⟩
    unfold task
    rw [runIn_bind, hfind, hedit]
    exact runIn_bind_eq_ok.2 ⟨names.eraseDups, checked, hcheck, hexecute⟩
  · unfold task at hrun
    rw [runIn_bind, hfind, hedit] at hrun
    obtain ⟨removed, checked, hcheck, hexecute⟩ := runIn_bind_eq_ok.1 hrun
    -- What is removed is what the request was accepted with.
    obtain ⟨rosters, taken, hfetch, -⟩ := runIn_bind_eq_ok.1 hcheck
    obtain ⟨checked', hcheck'⟩ := hprepared rosters taken hfetch
    obtain ⟨hremoved, -⟩ := Prod.mk.inj (hcheck'.symm.trans hcheck)
    obtain rfl : names.eraseDups = removed := Except.ok.inj hremoved
    have hdistinct : ∀ n, n ∈ names.eraseDups ↔ n ∈ plan.modules :=
      fun n => List.mem_eraseDups.trans (hnames n)
    exact hedited.undone hplanned hdistinct (edited_of_execute_ok hS (hchecked hcheck) hexecute)

/-! ### A report that comes and goes -/

open Service (localGateway shopServer)

/-- Installs the `report` of a shop, which comes with `orders`; the `mail` of these stays out. -/
def reportInstall : Command Unit :=
  ⟨.install, .resolved (some "main"), .list [.str "report"], .bool false, .bool true, none⟩

/-- Removes both again, and names one of them twice. -/
def reportRemoval : Command Unit :=
  ⟨.remove, .given "main", Naming.ofTexts (some ["orders", "report", "orders"]), .bool false,
    .bool true, none⟩

/-- The shop when the database of the install was found. -/
def reportFound : Scene Server Unit :=
  ((reportInstall.target.find (reportInstall.keeper Server.service localGateway)).runIn
    (Scene.start shopServer ())).2

/-- The shop when the install was planned. -/
def reportPlanned : Scene Server Unit :=
  (((reportInstall.keeper Server.service localGateway).prepareInstall "main"
    reportInstall.request).runIn reportFound).2

/-- The shop when the install was made. -/
def reportInstalled : Scene Server Unit :=
  (((reportInstall.keeper Server.service localGateway).executeInstall "main"
    ⟨["report"], ["orders"]⟩).runIn reportPlanned).2

theorem installs_report : reportInstall.Installs Server.service localGateway "main"
    ⟨["report"], ["orders"]⟩ (Scene.start shopServer ()) reportInstalled where
  edit := rfl
  steps := ⟨reportFound, reportPlanned, runIn_eq_ok (by decide +kernel),
    runIn_eq_ok (by decide +kernel), runIn_eq_ok (by decide +kernel)⟩

theorem exists_eq_ok_of_isOk {ε α : Type} {x : Except ε α} (h : x.isOk = true) :
    ∃ a, x = .ok a := by
  cases x with
  | error e => cases h
  | ok a => exact ⟨a, rfl⟩

/-- The shop obliges to remove both. -/
theorem obliging_report : Server.service.Obliging localGateway reportInstalled.service .remove
    "main" ["orders", "report"] := by
  have hg : Server.Recognises localGateway := by decide
  obtain ⟨-, hedited⟩ := installs_report.planned_edited (Server.specified hg)
  have hshop : Server.service.Same (shopServer.edit .install "main" ["report", "orders"])
      reportInstalled.service := (Server.edited_edit shopServer _ _ _).same hedited
  refine ⟨fun t ht role => ?_, fun t _ => ?_⟩
  · obtain ⟨q, hq⟩ : ∃ q, localGateway.request (Registry.rosterCall role "main").1
        (Registry.rosterCall role "main").2 = .ok q := by
      cases role <;> exact ⟨_, rfl⟩
    obtain ⟨r, hr⟩ : ∃ r, (Registry.readRoster role (Server.accept (Server.listing
        (Server.service.shown (shopServer.edit .install "main" ["report", "orders"]) "main"
          role)))).2 = .ok r := by
      refine exists_eq_ok_of_isOk ?_
      cases role <;> decide +kernel
    refine ⟨q, r, hq, ?_⟩
    show (Registry.readRoster role (t.respond q).1).2 = .ok r
    rw [Server.respond_roster hg hq, (hshop.trans ht).shown, hr]
  · obtain ⟨q, hq⟩ : ∃ q, localGateway.request Registry.Edit.remove.path
        (Registry.Edit.body "main" ["orders", "report"]) = .ok q := ⟨_, rfl⟩
    refine ⟨q, .null, hq, ?_⟩
    show Gateway.interpret (t.respond q).1 = .ok .null
    rw [Server.respond_edit (Server.key_edit hg hq)]
    rfl

/-- The shop shows the same before the report came and after it went. -/
theorem undone_of_installs_report :
    ∃ final, (reportRemoval.task Server.service localGateway).runIn reportInstalled =
        (.ok (), final) ∧
      Server.service.Same shopServer final.service := by
  have hdeclared : ∀ m ∈ (Server.service.roster shopServer "main" .catalog).modules,
      ∀ d ∈ m.dependencies, d ∈ (Server.service.roster shopServer "main" .catalog).names := by
    decide +kernel
  have hcomplete : Install.Complete (Server.service.roster shopServer "main" .catalog) := by
    rintro n d ⟨m, hm, rfl, hd⟩
    exact hdeclared m hm d hd
  have hclosed : Server.service.ClosedAt shopServer "main" :=
    Service.dependencyClosed_iff.1 Service.dependencyClosed_shopServer "main"
  have hnames : ∀ n, n ∈ (["orders", "report", "orders"] : List Text) ↔
      n ∈ (Install.Plan.mk ["report"] ["orders"] : Install.Plan Text).modules := by
    intro n
    simp [Install.Plan.modules]
    tauto
  have hdistinct : (["orders", "report", "orders"] : List Text).eraseDups =
      ["orders", "report"] := by decide
  obtain ⟨-, hsucceeds, hundone⟩ := undone_of_installs (Server.specified (by decide))
    installs_report (by decide) hcomplete hclosed hnames (r := reportRemoval) rfl rfl rfl
  rw [hdistinct] at hsucceeds
  obtain ⟨final, hrun⟩ := hsucceeds rfl obliging_report
  exact ⟨final, hrun, hundone final hrun⟩

end Command

end ModuleKeeper
