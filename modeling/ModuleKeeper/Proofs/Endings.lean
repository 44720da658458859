import ModuleKeeper.Proofs.Halts
import ModuleKeeper.Proofs.Sittings

/-!
# What the ending of a session tells

Who calls a program for a change sees its status, what it showed, and its last
words.  A status of zero with the line about a change that was made says that
the change was sent and accepted; a halt shows its hint and changes nothing; a
fault has the status one and says why.

The hint of a halt and the line about a change both come last, so one of them
cannot stand for the other.

## Main results

* `told_carryOut`: what the outcome of a change tells.
* `account_run`: a session in its three parts.
* `run_ending`: what the ending of a session tells.
-/

namespace ModuleKeeper

open ModuleKeeper.Task ModuleKeeper.Text

namespace CommandLine

variable {ρ : Type}

/-! ## Desks -/

/-- What a session meets at a desk, besides a terminal: files that nobody changes meanwhile. -/
structure Desk (ρ : Type) where
  environment : Settings.Environment
  homes : Settings.Path.Homes
  files : Text → Settings.File
  respond : ρ → Request → Reply × ρ

/-- The world at a desk, with a terminal for the user. -/
def Desk.world (d : Desk ρ) : World ρ Terminal where
  environment := d.environment
  homes := d.homes
  find := fun path t => (d.files path, t)
  respond := d.respond
  put := Terminal.write
  ask := Terminal.ask

/-- A text that a terminal shows as it is. -/
def Showable (cs : List CodePoint) : Prop := escapeCharacter ∉ cs ∧ isWritable cs = true

instance (cs : List CodePoint) : Decidable (Showable cs) :=
  inferInstanceAs (Decidable (_ ∧ _))

theorem Showable.append {cs ds : List CodePoint} (hc : Showable cs) (hd : Showable ds) :
    Showable (cs ++ ds) := by
  refine ⟨fun hmem => ?_, ?_⟩
  · exact (List.mem_append.1 hmem).elim hc.1 hd.1
  · rw [isWritable_append, hc.2, hd.2, Bool.and_self]

/-- The line about a change that was made. -/
def doneLine (e : Registry.Edit) : List CodePoint :=
  letters "[完成] " ++ ((Session.doneText e).toList ++ letters "\n")

/-- The line with the hint of a halt. -/
def hintLine (h : Halt) : List CodePoint :=
  letters "[提示] " ++ (h.message.toList ++ letters "\n")

section Showing

variable (d : Desk ρ)

/-- What can be shown as it is, is shown. -/
theorem runIn_put {cs : List CodePoint} (hcs : Showable cs) (s : Scene ρ Terminal) :
    (do
      let result ← Task.act (d.world.session.console.put cs)
      Task.ofExcept Failure.mishap result : Task (StateM (Scene ρ Terminal)) Unit).runIn s =
        (.ok (), { s with user := s.user.put cs }) := by
  have hwrite : (d.world.session.console.put cs).run s =
      (.ok (), { s with user := s.user.put cs }) := by
    show ((s.user.write cs).1, ({ s with user := (s.user.write cs).2 } : Scene ρ Terminal)) = _
    rw [Terminal.write_of_isWritable hcs.2]
  rw [runIn_bind, runIn_act, hwrite]
  rfl

theorem runIn_sayUnder {label text : Text} (hlabel : Showable label.toList)
    (htext : Showable text.toList) (s : Scene ρ Terminal) :
    (d.world.session.sayUnder label text).runIn s =
      (.ok (), { s with user := s.user.put (label.toList ++ (text.toList ++ letters "\n")) }) := by
  have hline : Showable (text.toList ++ letters "\n") := htext.append (by decide)
  unfold Session.sayUnder Session.say Console.start Console.line
  rw [withoutSequences_of_not_mem hlabel.1, withoutSequences_of_not_mem htext.1, runIn_bind,
    runIn_put d hlabel]
  dsimp only
  rw [runIn_put d hline]
  simp [Terminal.put, List.append_assoc]

theorem user_report (notices : List Notice) (s : Scene ρ Terminal) :
    ((Task.report (Scene.note (ρ := ρ) (υ := Terminal)) notices).runIn s).2.user = s.user := by
  unfold Task.report
  rw [runIn_act]
  induction notices generalizing s with
  | nil => rfl
  | cons n ns ih => exact ih { s with notices := s.notices ++ [n] }

/-- Loading the settings shows nothing and asks nothing. -/
theorem user_loadSettings {named : Option Text} {s s' : Scene ρ Terminal}
    {x : Except Failure Settings}
    (hrun : (d.world.session.loadSettings named).runIn s = (x, s')) : s'.user = s.user := by
  have hreported : ∀ (notices : List Notice) (x : Except Failure Settings) (s : Scene ρ Terminal),
      ((do
        Task.report Scene.note notices
        Task.ofExcept id x : Task (StateM (Scene ρ Terminal)) Settings).runIn s).2.user =
          s.user := by
    intro notices x s
    have huser := user_report notices s
    rw [runIn_bind]
    rcases hreport : (Task.report (Scene.note (ρ := ρ) (υ := Terminal)) notices).runIn s with
      ⟨_ | _, s'⟩ <;> (rw [hreport] at huser; exact huser)
  have hlook : ∀ path, ((Settings.look d.world.session.homes d.world.session.find path).run
      s).2.user = s.user := by
    intro path
    unfold Settings.look
    split <;> rfl
  have hfinal : s' = ((d.world.session.loadSettings named).runIn s).2 :=
    (congrArg Prod.snd hrun).symm
  rw [hfinal]
  unfold Session.loadSettings
  rw [runIn_bind, runIn_act]
  exact (hreported _ _ _).trans (hlook _)

end Showing

/-- The halts of a change are told as they are, and none of them looks like a change. -/
theorem told_of_mem_haltsOf : ∀ e, ∀ h ∈ haltsOf e, Showable h.message.toList ∧
    ¬ doneLine e <:+ hintLine h ∧ ¬ hintLine h <:+ doneLine e := by
  intro e
  cases e <;> decide

/-! ## Changes at a desk -/

/-- A request asks for a change, through the gateway of the settings. -/
def World.AsksFor {υ : Type} (w : World ρ υ) (settings : Settings) (e : Registry.Edit)
    (q : Request) : Prop :=
  ∃ k, w.session.keeper settings = .ok k ∧ k.registry.gateway.AsksFor e q

/-- A talk in which a change is asked for and accepted. -/
def World.Accepts {υ : Type} (w : World ρ υ) (settings : Settings) (e : Registry.Edit)
    (talk : List (Request × Reply)) : Prop :=
  ∃ x ∈ talk, w.AsksFor settings e x.1 ∧ ∃ answer, Gateway.interpret x.2 = .ok answer

/-- What the outcome of a change tells about its talk, and what is shown at its end. -/
structure Told (d : Desk ρ) (settings : Settings) (e : Registry.Edit)
    (talk : List (Request × Reply)) (o : Except Failure Unit) (final : Scene ρ Terminal) :
    Prop where
  done_iff : o = .ok () ↔ d.world.Accepts settings e talk
  shown : o = .ok () → doneLine e <:+ final.user.shown
  halted : ∀ h, o = .error (.halt h) →
    h ∈ haltsOf e ∧ ∀ x ∈ talk, ¬ d.world.AsksFor settings e x.1

/-- The keeper of a session asks its user at the terminal. -/
theorem neverHalts_of_keeper {υ : Type} (w : World ρ υ) {settings : Settings}
    {k : Keeper (StateM (Scene ρ υ))} (h : w.session.keeper settings = .ok k) (order : Order) :
    ∀ p ∈ (order.keeper k).prompter, p.NeverHalts := by
  have hprompter : k.prompter = some w.session.console.prompter := by
    unfold Session.keeper Keeper.ofSettings at h
    cases hgateway : Gateway.make settings.address settings.token settings.timeout with
    | error f =>
        rw [hgateway] at h
        cases h
    | ok gateway =>
        rw [hgateway] at h
        rw [← Except.ok.inj h]
  have hkept : (order.keeper k).prompter = k.prompter := by cases order <;> rfl
  rw [hkept, hprompter]
  rintro p ⟨⟩
  exact w.session.console.neverHalts_prompter

/-- The requests for a change are those through the gateway of the keeper. -/
theorem asksFor_iff {υ : Type} (w : World ρ υ) {settings : Settings}
    {k : Keeper (StateM (Scene ρ υ))} (hkeeper : w.session.keeper settings = .ok k) (order : Order)
    (e : Registry.Edit) (q : Request) :
    w.AsksFor settings e q ↔ (order.keeper k).registry.gateway.AsksFor e q := by
  have hregistry : (order.keeper k).registry = k.registry := by cases order <;> rfl
  rw [hregistry]
  constructor
  · rintro ⟨k', hk', hq⟩
    rwa [Except.ok.inj (hkeeper.symm.trans hk')]
  · exact fun hq => ⟨k, hkeeper, hq⟩

/-- Where there is no keeper, nothing is said, and the failure is no halt. -/
theorem told_of_not_keeper (d : Desk ρ) {settings : Settings} {e : Registry.Edit} {f : Failure}
    (hkeeper : d.world.session.keeper settings = .error f) (final : Scene ρ Terminal) :
    Told d settings e [] (.error f) final where
  done_iff := by
    refine ⟨nofun, ?_⟩
    rintro ⟨x, hx, -⟩
    cases hx
  shown := nofun
  halted := by
    rintro h ⟨⟩
    exact absurd hkeeper (Keeper.unhalting_ofSettings _ _ _ _ h)

/-- **What the outcome of a change tells.** -/
theorem told_carryOut (d : Desk ρ) {settings : Settings} {order : Order} {e : Registry.Edit}
    {loaded final : Scene ρ Terminal} {o : Except Failure Unit} (hedit : order.edit? = some e)
    (hrun : (d.world.session.carryOut settings order).runIn loaded = (o, final)) :
    ∃ talk, Speaks d.respond loaded talk final ∧ Told d settings e talk o final := by
  cases hkeeper : d.world.session.keeper settings with
  | error f =>
      rw [runIn_carryOut_of_error d.world order hkeeper] at hrun
      cases hrun
      exact ⟨[], (Still.refl loaded).speaks, told_of_not_keeper d hkeeper loaded⟩
  | ok k =>
      rw [runIn_carryOut d.world hkeeper hedit] at hrun
      obtain ⟨hr, hprivate⟩ := reaches_of_keeper d.world hkeeper order
      obtain ⟨talk, hspeaks, hcourse, hconcluded⟩ :=
        errand_course hr (private_console d.world) hprivate hrun
      have hasks := asksFor_iff d.world hkeeper order e
      have haccepted : d.world.Accepts settings e talk →
          o = .ok () ∧ doneLine e <:+ final.user.shown := by
        rintro ⟨x, hx, hxasks, answer, hanswer⟩
        obtain ⟨executed, hsay⟩ := hconcluded x hx ((hasks x.1).1 hxasks) answer hanswer
        rw [Session.sayDone, runIn_sayUnder d (by decide) (by cases e <;> decide)] at hsay
        cases hsay
        exact ⟨rfl, List.suffix_append _ _⟩
      have hsucceeded : o = .ok () → d.world.Accepts settings e talk := by
        rintro rfl
        obtain ⟨x, hx, hxasks, hanswer⟩ := hcourse.exists_accepted_of_ok
        exact ⟨x, hx, (hasks x.1).2 hxasks, hanswer⟩
      refine ⟨talk, hspeaks, ⟨hsucceeded, fun h => (haccepted h).1⟩,
        fun ho => (haccepted (hsucceeded ho)).2, ?_⟩
      rintro h rfl
      refine ⟨mem_haltsOf_of_errand _ (neverHalts_of_keeper d.world hkeeper order) hrun, ?_⟩
      intro x hx hxasks
      cases hreply : Gateway.interpret x.2 with
      | error f =>
          have hrefusal := hcourse.eq_refusal hx ((hasks x.1).1 hxasks) hreply
          exact absurd (Except.error.inj hrefusal).symm (Registry.within_ne_halt hreply h)
      | ok answer => cases (haccepted ⟨x, hx, hxasks, answer, hreply⟩).1

/-! ## Sessions at a desk -/

/-- What a session shows behind the outcome of its command. -/
def hintOf : Except Failure Unit → List CodePoint
  | .error (.halt h) => hintLine h
  | _ => []

theorem shown_handled_well (d : Desk ρ) {t : Task (StateM (Scene ρ Terminal)) Unit}
    {s s' : Scene ρ Terminal} {o : Except Failure Unit} (hrun : t.runIn s = (o, s'))
    (ho : ∀ h, o = .error (.halt h) → Showable h.message.toList) :
    ((d.world.session.handled t fun _ => pure .well).run s).2.user.shown =
      s'.user.shown ++ hintOf o := by
  cases o with
  | ok u =>
      rw [run_handled_of_ok d.world hrun]
      exact (List.append_nil _).symm
  | error f =>
      rw [run_handled_of_error d.world hrun]
      cases f with
      | fault f => exact (List.append_nil _).symm
      | mishap cause => cases cause <;> exact (List.append_nil _).symm
      | halt h =>
          show ((d.world.session.sayUnder "[提示] " h.message).runIn s').2.user.shown = _
          rw [runIn_sayUnder d (by decide) (ho h rfl)]
          rfl

section Account

variable {υ : Type} (w : World ρ υ) (named : Option Text) (start : Scene ρ υ)

/-- The settings of a session are rejected. -/
def World.Rejects (f : Failure) : Prop :=
  ∃ loaded, (w.session.loadSettings named).runIn start = (.error f, loaded)

/-- A session has settings, and the command for a change comes to an outcome with them. -/
def World.ComesTo (e : Registry.Edit) (args : List Text) (o : Except Failure Unit) : Prop :=
  ∃ settings loaded order final,
    (w.session.loadSettings named).runIn start = (.ok settings, loaded) ∧
      Instruction.read (Command.ofEdit e) args = .order order ∧
        (w.session.carryOut settings order).runIn loaded = (o, final)

/-- A request of a session asks for a change. -/
def World.Writes (e : Registry.Edit) (q : Request) : Prop :=
  ∃ settings loaded, (w.session.loadSettings named).runIn start = (.ok settings, loaded) ∧
    w.AsksFor settings e q

end Account

/--
The three parts of a session for a change: its settings may be rejected, its
arguments may not be read, or its command comes to an outcome.
-/
inductive Account (d : Desk ρ) (e : Registry.Edit) (named : Option Text) (args : List Text)
    (start : Scene ρ Terminal) :
    List (Request × Reply) → Ending → Scene ρ Terminal → Prop where
  | rejected (f : Failure) (loaded final : Scene ρ Terminal)
      (hload : (d.world.session.loadSettings named).runIn start = (.error f, loaded))
      (hf : ∀ h, f ≠ .halt h) : Account d e named args start [] (Ending.of (.error f)) final
  | unread (settings : Settings) (loaded : Scene ρ Terminal) (ending : Ending)
      (hload : (d.world.session.loadSettings named).runIn start = (.ok settings, loaded))
      (hargs : ∀ order, Instruction.read (Command.ofEdit e) args ≠ .order order)
      (huser : loaded.user = start.user) : Account d e named args start [] ending loaded
  | carried (settings : Settings) (loaded body final : Scene ρ Terminal) (order : Order)
      (talk : List (Request × Reply)) (o : Except Failure Unit)
      (hload : (d.world.session.loadSettings named).runIn start = (.ok settings, loaded))
      (horder : Instruction.read (Command.ofEdit e) args = .order order)
      (hcarried : (d.world.session.carryOut settings order).runIn loaded = (o, body))
      (htold : Told d settings e talk o body)
      (hshown : final.user.shown = body.user.shown ++ hintOf o) :
      Account d e named args start talk (Ending.of o) final

/-- **A session has one of these accounts.** -/
theorem account_run (d : Desk ρ) (e : Registry.Edit) {named : Option Text} {args rest : List Text}
    (hargs : Opening.read args = .command named (Command.ofEdit e) rest)
    (start : Scene ρ Terminal) :
    ∃ talk, Speaks d.respond start talk ((d.world.session.run args).run start).2 ∧
      Account d e named rest start talk ((d.world.session.run args).run start).1
        ((d.world.session.run args).run start).2 := by
  rcases hload : (d.world.session.loadSettings named).runIn start with ⟨f | settings, loaded⟩
  · have hstill := (quiet_loadSettings d.world named).still hload
    obtain ⟨hending, hhandled⟩ := run_handle d.world f loaded
    rw [run_of_not_loaded d.world hargs hload, hending]
    refine ⟨[], (hstill.trans hhandled).speaks, .rejected f loaded _ hload ?_⟩
    rintro h rfl
    exact avoids_loadSettings _ named start (congrArg Prod.fst hload)
  have hloaded := (quiet_loadSettings d.world named).still hload
  have huser := user_loadSettings d hload
  cases horder : Instruction.read (Command.ofEdit e) rest with
  | misused =>
      rw [run_of_loaded d.world hargs hload, horder]
      exact ⟨[], hloaded.speaks, .unread settings loaded _ hload (by simp [horder]) huser⟩
  | help =>
      rw [run_of_loaded d.world hargs hload, horder]
      exact ⟨[], hloaded.speaks, .unread settings loaded _ hload (by simp [horder]) huser⟩
  | order order =>
      rw [run_of_loaded d.world hargs hload, horder]
      dsimp only
      rcases hcarried : (d.world.session.carryOut settings order).runIn loaded with ⟨o, body⟩
      obtain ⟨hending, hstill⟩ := run_handled_well d.world hcarried
      obtain ⟨talk, hspeaks, htold⟩ := told_carryOut d (Order.edit?_of_read horder) hcarried
      rw [hending]
      refine ⟨talk, (hloaded.speaks.trans hspeaks).still hstill,
        .carried settings loaded body _ order talk o hload horder hcarried htold ?_⟩
      refine shown_handled_well d hcarried fun h hhalt => ?_
      exact (told_of_mem_haltsOf e h (htold.halted h hhalt).1).1

/-! ### What an account tells -/

section Telling

variable {d : Desk ρ} {e : Registry.Edit} {named : Option Text} {args : List Text}
  {start final : Scene ρ Terminal} {talk : List (Request × Reply)} {ending : Ending}

theorem writes_iff {settings : Settings} {loaded : Scene ρ Terminal}
    (hload : (d.world.session.loadSettings named).runIn start = (.ok settings, loaded))
    (q : Request) : d.world.Writes named start e q ↔ d.world.AsksFor settings e q := by
  constructor
  · rintro ⟨settings', loaded', hload', hasks⟩
    cases hload.symm.trans hload'
    exact hasks
  · exact fun hasks => ⟨settings, loaded, hload, hasks⟩

theorem eq_of_comesTo {settings : Settings} {loaded body : Scene ρ Terminal} {order : Order}
    {o o' : Except Failure Unit}
    (hload : (d.world.session.loadSettings named).runIn start = (.ok settings, loaded))
    (horder : Instruction.read (Command.ofEdit e) args = .order order)
    (hcarried : (d.world.session.carryOut settings order).runIn loaded = (o, body))
    (h : d.world.ComesTo named start e args o') : o = o' := by
  obtain ⟨settings', loaded', order', body', hload', horder', hcarried'⟩ := h
  cases hload.symm.trans hload'
  cases horder.symm.trans horder'
  exact congrArg Prod.fst (hcarried.symm.trans hcarried')

theorem Ending.eq_ok_or_halt_of_status {o : Except Failure Unit}
    (h : (Ending.of o).status = 0) : o = .ok () ∨ ∃ halt, o = .error (.halt halt) := by
  cases o with
  | ok u => exact Or.inl rfl
  | error f =>
      cases f with
      | halt halt => exact Or.inr ⟨halt, rfl⟩
      | fault f => cases h
      | mishap cause => cases cause <;> cases h

/-- The line about a change tells that the change was sent and accepted. -/
theorem Account.done_iff (h : Account d e named args start talk ending final)
    (hstart : start.user.shown = []) :
    (ending.status = 0 ∧ doneLine e <:+ final.user.shown) ↔
      ∃ x ∈ talk, d.world.Writes named start e x.1 ∧
        ∃ answer, Gateway.interpret x.2 = .ok answer := by
  cases h with
  | rejected f loaded _ hload hf =>
      constructor
      · rintro ⟨hstatus, -⟩
        rcases Ending.eq_ok_or_halt_of_status hstatus with hok | ⟨halt, hhalt⟩
        · cases hok
        · exact absurd (Except.error.inj hhalt) (hf halt)
      · rintro ⟨x, hx, -⟩
        cases hx
  | unread settings _ _ hload hargs huser =>
      constructor
      · rintro ⟨-, hdone⟩
        rw [huser, hstart, List.suffix_nil] at hdone
        cases hdone
      · rintro ⟨x, hx, -⟩
        cases hx
  | carried settings loaded body _ order _ o hload horder hcarried htold hshown =>
      simp only [writes_iff hload]
      refine Iff.trans ?_ htold.done_iff
      constructor
      · rintro ⟨hstatus, hdone⟩
        rcases Ending.eq_ok_or_halt_of_status hstatus with hok | ⟨halt, rfl⟩
        · exact hok
        · obtain ⟨-, hleft, hright⟩ := told_of_mem_haltsOf e halt (htold.halted halt rfl).1
          have hhint : hintLine halt <:+ final.user.shown := hshown ▸ List.suffix_append _ _
          rcases List.suffix_or_suffix_of_suffix hdone hhint with h | h
          · exact absurd h hleft
          · exact absurd h hright
      · rintro rfl
        refine ⟨rfl, ?_⟩
        rw [hshown]
        exact (List.append_nil _).symm ▸ htold.shown rfl

/-- A halt ends a session well, shows its hint and changes nothing. -/
theorem Account.of_halt (h : Account d e named args start talk ending final) {halt : Halt}
    (hcomes : d.world.ComesTo named start e args (.error (.halt halt))) :
    ending.status = 0 ∧ hintLine halt <:+ final.user.shown ∧
      ∀ x ∈ talk, ¬ d.world.Writes named start e x.1 := by
  cases h with
  | rejected f loaded _ hload hf =>
      obtain ⟨_, _, _, _, hload', -⟩ := hcomes
      cases hload.symm.trans hload'
  | unread settings _ _ hload hargs huser =>
      obtain ⟨_, _, order, _, -, horder, -⟩ := hcomes
      exact absurd horder (hargs order)
  | carried settings loaded body _ order _ o hload horder hcarried htold hshown =>
      obtain rfl := eq_of_comesTo hload horder hcarried hcomes
      simp only [writes_iff hload]
      exact ⟨rfl, hshown ▸ List.suffix_append _ _, (htold.halted halt rfl).2⟩

/-- A fault ends a session with a complaint, wherever it comes from. -/
theorem Account.of_fault (h : Account d e named args start talk ending final) {f : Fault}
    (hfault : d.world.Rejects named start (.fault f) ∨
      d.world.ComesTo named start e args (.error (.fault f))) :
    ending = .complaint f.message := by
  cases h with
  | rejected f' loaded _ hload hf =>
      rcases hfault with ⟨_, hload'⟩ | ⟨_, _, _, _, hload', -⟩
      · cases hload.symm.trans hload'
        rfl
      · cases hload.symm.trans hload'
  | unread settings _ _ hload hargs huser =>
      rcases hfault with ⟨_, hload'⟩ | ⟨_, _, order, _, -, horder, -⟩
      · cases hload.symm.trans hload'
      · exact absurd horder (hargs order)
  | carried settings loaded body _ order _ o hload horder hcarried htold hshown =>
      rcases hfault with ⟨_, hload'⟩ | hcomes
      · cases hload.symm.trans hload'
      · obtain rfl := eq_of_comesTo hload horder hcarried hcomes
        rfl

/-- A session whose settings are rejected says nothing to the service. -/
theorem Account.of_rejected (h : Account d e named args start talk ending final) {f : Failure}
    (hrejects : d.world.Rejects named start f) : talk = [] := by
  obtain ⟨loaded', hload'⟩ := hrejects
  cases h with
  | rejected => rfl
  | unread => rfl
  | carried settings loaded body _ order _ o hload =>
      cases hload.symm.trans hload'

end Telling

/-- The last words of a complaint that can be shown as it is are the message of the fault. -/
theorem lastWords_complaint {message : Text} (h : Showable message.toList) :
    (Ending.complaint message).lastWords =
      letters "[错误] " ++ (message.toList ++ letters "\n") := by
  have hlabelled : Showable (letters "[错误] " ++ message.toList) := Showable.append (by decide) h
  show withSurrogatesShown (withoutSequences (letters "[错误] " ++ message.toList)) ++
    letters "\n" = _
  rw [withoutSequences_of_not_mem hlabelled.1, withSurrogatesShown_of_isWritable hlabelled.2,
    List.append_assoc]

/--
**What the ending of a session tells.**  Let a session be called for an install
or a removal at a desk where nothing was shown yet, whatever the files, the
environment, the service and what is typed.  The status is zero and the line
about the change comes last exactly if the change was sent and accepted.  A halt
has the status zero, its hint comes last, and no change was sent.  A fault, of
the settings or of the command, has the status one; the last words are its
message, without control sequences and with the numbers of surrogates, and they
are the message as it is where there are none of these.  And where the settings
are rejected, nothing at all was sent.
-/
theorem run_ending (d : Desk ρ) (e : Registry.Edit) {named : Option Text} {args rest : List Text}
    (hargs : Opening.read args = .command named (Command.ofEdit e) rest)
    {start final : Scene ρ Terminal} (hblank : start.user.shown = []) {ending : Ending}
    (hrun : (d.world.session.run args).run start = (ending, final)) :
    ∃ talk, Speaks d.respond start talk final ∧
      ((ending.status = 0 ∧ doneLine e <:+ final.user.shown) ↔
        ∃ x ∈ talk, d.world.Writes named start e x.1 ∧
          ∃ answer, Gateway.interpret x.2 = .ok answer) ∧
      (∀ h, d.world.ComesTo named start e rest (.error (.halt h)) →
        ending.status = 0 ∧ hintLine h <:+ final.user.shown ∧
          ∀ x ∈ talk, ¬ d.world.Writes named start e x.1) ∧
      (∀ f, d.world.Rejects named start (.fault f) ∨
          d.world.ComesTo named start e rest (.error (.fault f)) →
        ending.status = 1 ∧
          ending.lastWords = withSurrogatesShown
            (withoutSequences (letters "[错误] " ++ f.message.toList)) ++ letters "\n" ∧
          (Showable f.message.toList →
            ending.lastWords = letters "[错误] " ++ (f.message.toList ++ letters "\n"))) ∧
      ∀ f, d.world.Rejects named start f → talk = [] := by
  obtain ⟨talk, hspeaks, haccount⟩ := account_run d e hargs start
  rw [hrun] at hspeaks haccount
  refine ⟨talk, hspeaks, haccount.done_iff hblank, fun h => haccount.of_halt,
    fun f hfault => ?_, fun f => haccount.of_rejected⟩
  obtain rfl := haccount.of_fault hfault
  exact ⟨rfl, rfl, lastWords_complaint⟩

/-! ### Two complaints -/

/-- A desk without files where the time limit is set to a word. -/
def hastyDesk : Desk Server where
  environment := [("MODCTL_TIMEOUT", "soon")]
  homes := ⟨some "/root", []⟩
  files := fun _ => .missing
  respond := Server.answer

/-- At this desk a session complains about its settings, and the server hears nothing of it. -/
theorem run_ending_hastyDesk :
    ∃ ending final, (hastyDesk.world.session.run ["install", "lamp"]).run
        (Scene.start lampServer (Terminal.ofInput "y\n" [])) = (ending, final) ∧
      ending.status = 1 ∧ ending.lastWords = letters "[错误] timeout 必须是整数: 'soon'\n" ∧
      final.sent = [] := by
  have hargs : Opening.read ["install", "lamp"] =
      .command none (Command.ofEdit .install) ["lamp"] := by
    rfl
  have hrejects : hastyDesk.world.Rejects none
      (Scene.start lampServer (Terminal.ofInput "y\n" []))
      (.fault (.settings (.timeoutNotWhole (.str "soon")))) := ⟨_, rfl⟩
  rcases hrun : (hastyDesk.world.session.run ["install", "lamp"]).run
    (Scene.start lampServer (Terminal.ofInput "y\n" [])) with ⟨ending, final⟩
  obtain ⟨talk, hspeaks, -, -, hfault, hrejected⟩ := run_ending hastyDesk .install hargs rfl hrun
  obtain ⟨hstatus, hwords, -⟩ := hfault _ (Or.inl hrejects)
  refine ⟨ending, final, rfl, hstatus, ?_, ?_⟩
  · rw [hwords]
    decide +kernel
  · rw [hspeaks.sent, hrejected _ hrejects]
    rfl

/-- The complaint about a module whose name has a control sequence. -/
def redComplaint : Text := "不存在名为 \x1b[31mlamp 的模块"

/-- The session ends with this complaint, but its last words lack the control sequence. -/
theorem lastWords_redComplaint :
    ((deskWorld.session.run ["install", "--db", "main", "-y", "\x1b[31mlamp"]).run
        (Scene.start lampServer (Terminal.ofInput [] []))).1 = .complaint redComplaint ∧
      (Ending.complaint redComplaint).lastWords = letters "[错误] 不存在名为 lamp 的模块\n" ∧
      ¬ redComplaint.toList <:+: (Ending.complaint redComplaint).lastWords := by
  refine ⟨by decide +kernel, by decide +kernel, by decide +kernel⟩

end CommandLine

end ModuleKeeper
