import ModuleKeeper.Install
import ModuleKeeper.Proofs.Firsts
import ModuleKeeper.Removal

/-!
# Screening a request

Before anything is planned or checked, the names of a request are looked up.
An install and a removal do this in the same way: all names in the catalog
first, then all of them in what is installed.  They differ in what the second
look-up refuses, a name that is there or a name that is not.

`Screened` says what becomes of a request, and `Install.explicit_eq_iff` and
`Removal.explicit_eq_iff` say that it is what the program makes of it.

## Main results

* `screen_eq_iff`: the look-ups report the first unknown name, then the first
  refused one, and else give each name at its first place.
* `screened_ok_iff`: which requests are accepted, and as what.
-/

namespace ModuleKeeper

/--
What becomes of a request whose names have to be in the catalog and must not
be `refused`; `reason` is the fault of a refused name.
-/
inductive Screened (catalog : Roster) (refused : Text → Prop) (reason : Value → Fault)
    (request : List Text) : Except Fault (List Text) → Prop where
  /-- A name is not in the catalog.  The first one is reported, whatever is refused. -/
  | unknown (n : Text) (hfirst : IsFirst (· ∉ catalog.names) request n) :
      Screened catalog refused reason request (.error (.unknownModule (.str n)))
  /-- All names are in the catalog, and the first refused one is reported. -/
  | refused (n : Text) (hknown : ∀ n ∈ request, n ∈ catalog.names)
      (hfirst : IsFirst refused request n) :
      Screened catalog refused reason request (.error (reason (.str n)))
  /-- No name is unknown or refused; repetitions are dropped. -/
  | accepted (names : List Text) (hknown : ∀ n ∈ request, n ∈ catalog.names)
      (hfree : ∀ n ∈ request, ¬refused n) (hnames : Firsts request names) :
      Screened catalog refused reason request (.ok names)

/-- The look-ups of a request, in order. -/
def screen (catalog : Roster) (refuses : Text → Bool) (reason : Value → Fault)
    (request : List Text) : Except Fault (List Text) :=
  let names := request.eraseDups
  match names.find? fun n => !catalog.has n with
  | some n => .error (.unknownModule (.str n))
  | none =>
    match names.find? refuses with
    | some n => .error (reason (.str n))
    | none => .ok names

variable {catalog : Roster} {refused : Text → Prop} {reason : Value → Fault}
  {request names : List Text}

theorem screen_eq_iff {refuses : Text → Bool} (hrefused : ∀ n, refuses n = true ↔ refused n)
    {outcome : Except Fault (List Text)} :
    screen catalog refuses reason request = outcome ↔
      Screened catalog refused reason request outcome := by
  have hunknown : ∀ n, (!catalog.has n) = true ↔ n ∉ catalog.names := by simp [Roster.has]
  unfold screen
  simp only [find?_eraseDups]
  constructor
  · rintro rfl
    cases hcat : request.find? fun n => !catalog.has n with
    | some n => exact .unknown n ((isFirst_iff_find? hunknown).2 hcat)
    | none =>
        have hknown : ∀ n ∈ request, n ∈ catalog.names := by simpa [Roster.has] using hcat
        cases hrest : request.find? refuses with
        | some n => exact .refused n hknown ((isFirst_iff_find? hrefused).2 hrest)
        | none =>
            refine .accepted _ hknown (fun n hn => ?_) (firsts_eraseDups request)
            rw [← hrefused]
            exact List.find?_eq_none.1 hrest n hn
  · have hcat : (∀ n ∈ request, n ∈ catalog.names) →
        (request.find? fun n => !catalog.has n) = none := by simp [Roster.has]
    intro h
    cases h with
    | unknown n hfirst => rw [(isFirst_iff_find? hunknown).1 hfirst]
    | refused n hknown hfirst => rw [hcat hknown, (isFirst_iff_find? hrefused).1 hfirst]
    | accepted names hknown hfree hnames =>
        have hrest : request.find? refuses = none :=
          List.find?_eq_none.2 fun n hn => (hrefused n).not.2 (hfree n hn)
        rw [hcat hknown, hrest, firsts_iff.1 hnames]

/-- A request is accepted if all its names are known and none is refused, and as it is. -/
theorem screened_ok_iff :
    Screened catalog refused reason request (.ok names) ↔
      (∀ n ∈ request, n ∈ catalog.names) ∧ (∀ n ∈ request, ¬refused n) ∧
        names = request.eraseDups := by
  constructor
  · rintro (_ | _ | ⟨_, hknown, hfree, hnames⟩)
    exact ⟨hknown, hfree, firsts_iff.1 hnames⟩
  · rintro ⟨hknown, hfree, hnames⟩
    exact .accepted names hknown hfree (firsts_iff.2 hnames)

theorem Screened.mem_iff (h : Screened catalog refused reason request (.ok names)) (n : Text) :
    n ∈ names ↔ n ∈ request := by
  rw [(screened_ok_iff.1 h).2.2, List.mem_eraseDups]

variable {installed : Roster} {outcome : Except Fault (List Text)}

/-! ## Installs -/

namespace Install

theorem explicit_eq_screen (catalog installed : Roster) (request : List Text) :
    explicit catalog installed request =
      screen catalog (fun n => installed.has n) .alreadyInstalled request := rfl

theorem explicit_eq_iff :
    explicit catalog installed request = outcome ↔
      Screened catalog (· ∈ installed.names) .alreadyInstalled request outcome := by
  rw [explicit_eq_screen]
  exact screen_eq_iff fun n => Roster.has_iff

/-- A request is accepted for names of the catalog of which none is installed, and as it is. -/
theorem explicit_eq_ok_iff :
    explicit catalog installed request = .ok names ↔
      (∀ n ∈ request, n ∈ catalog.names) ∧ (∀ n ∈ request, n ∉ installed.names) ∧
        names = request.eraseDups :=
  explicit_eq_iff.trans screened_ok_iff

end Install

/-! ## Removals -/

namespace Removal

theorem explicit_eq_screen (catalog installed : Roster) (request : List Text) :
    explicit catalog installed request =
      screen catalog (fun n => !installed.has n) .notInstalled request := rfl

theorem explicit_eq_iff :
    explicit catalog installed request = outcome ↔
      Screened catalog (· ∉ installed.names) .notInstalled request outcome := by
  rw [explicit_eq_screen]
  exact screen_eq_iff fun n => by simp [Roster.has]

/-- A request is accepted for names of the catalog that are all installed, and as it is. -/
theorem explicit_eq_ok_iff :
    explicit catalog installed request = .ok names ↔
      (∀ n ∈ request, n ∈ catalog.names) ∧ (∀ n ∈ request, n ∈ installed.names) ∧
        names = request.eraseDups := by
  rw [explicit_eq_iff, screened_ok_iff]
  simp only [not_not]

end Removal

end ModuleKeeper
