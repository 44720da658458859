import Mathlib.Data.List.Chain
import Mathlib.Data.Set.Basic
import ModuleKeeper.Install
import ModuleKeeper.Proofs.Rosters

/-!
# The dependency relation

A catalog declares dependencies.  This file states them as a relation on
names, apart from the look-up that the program uses, together with the two
notions that speak about more than one declaration: what a name reaches
without going through installed names, and which sets of names need nothing
from outside.

## Main results

* `declares_iff`: the look-up of the program is the declared relation.
* `ClosedUnder.mem_of_reaches`: a closed set holds whatever its names reach.
-/

namespace ModuleKeeper.Install

/-- The module `n` of the catalog declares `d` among its dependencies. -/
def Declares (catalog : Roster) (n d : Text) : Prop :=
  ∃ m ∈ catalog.modules, m.name = n ∧ d ∈ m.dependencies

theorem declares_iff {catalog : Roster} {n d : Text} :
    Declares catalog n d ↔ d ∈ catalog.dependenciesOf n := by
  unfold Declares Roster.dependenciesOf
  constructor
  · rintro ⟨m, hm, hn, hd⟩
    rw [Roster.get?_eq_some_iff.2 ⟨hm, hn⟩]
    simpa using hd
  · intro h
    cases hget : catalog.get? n with
    | none => simp [hget] at h
    | some m =>
        obtain ⟨hm, hn⟩ := Roster.get?_eq_some_iff.1 hget
        exact ⟨m, hm, hn, by simpa [hget] using h⟩

/-! ## Reaching -/

/--
`d` stands at the end of a non-empty chain of declarations that starts at
`start` and has no installed name between its ends.
-/
def Reaches (catalog installed : Roster) (start d : Text) : Prop :=
  ∃ between : List Text, (∀ n ∈ between, n ∉ installed.names) ∧
    (start :: (between ++ [d])).IsChain (Declares catalog)

theorem Reaches.single {catalog installed : Roster} {start d : Text}
    (h : Declares catalog start d) : Reaches catalog installed start d :=
  ⟨[], by simp, by simpa using h⟩

/-- A chain goes on behind its last name, if that name is not installed. -/
theorem Reaches.tail {catalog installed : Roster} {start n d : Text}
    (h : Reaches catalog installed start n) (hn : n ∉ installed.names)
    (hd : Declares catalog n d) : Reaches catalog installed start d := by
  obtain ⟨between, hfree, hchain⟩ := h
  refine ⟨between ++ [n], ?_, ?_⟩
  · intro x hx
    rcases List.mem_append.1 hx with hx | hx
    · exact hfree x hx
    · rw [List.mem_singleton.1 hx]
      exact hn
  · have hlast : (start :: (between ++ [n]) ++ [d]).IsChain (Declares catalog) := by
      refine hchain.append (List.isChain_singleton d) ?_
      intro x hx y hy
      have hxn : n = x := by
        rw [← List.cons_append, List.getLast?_concat] at hx
        exact Option.mem_some_iff.1 hx
      have hyd : d = y := by simpa using hy
      rw [← hxn, ← hyd]
      exact hd
    simpa using hlast

/-! ## Closed sets -/

/--
A set of names that needs nothing from outside: whatever one of its names
declares is installed or in the set.
-/
def ClosedUnder (catalog installed : Roster) (s : Set Text) : Prop :=
  ∀ n ∈ s, ∀ d, Declares catalog n d → d ∉ installed.names → d ∈ s

theorem ClosedUnder.mem_of_reaches {catalog installed : Roster} {s : Set Text} {start d : Text}
    (hs : ClosedUnder catalog installed s) (hstart : start ∈ s)
    (h : Reaches catalog installed start d) (hd : d ∉ installed.names) : d ∈ s := by
  obtain ⟨between, hfree, hchain⟩ := h
  induction between generalizing start with
  | nil => exact hs start hstart d (by simpa using hchain) hd
  | cons n between ih =>
      obtain ⟨hdecl, hrest⟩ := List.isChain_cons_cons.1 hchain
      have hn : n ∈ s := hs start hstart n hdecl (hfree n (by simp))
      exact ih hn (fun x hx => hfree x (by simp [hx])) hrest

/-- Fewer names have to be in a set that is closed under more installed names. -/
theorem ClosedUnder.mono {catalog installed more : Roster} {s : Set Text}
    (hs : ClosedUnder catalog installed s) (h : ∀ n ∈ installed.names, n ∈ more.names) :
    ClosedUnder catalog more s :=
  fun n hn d hd hmore => hs n hn d hd fun hi => hmore (h d hi)

/-! ## A small catalog -/

/-- The modules of a shop.  `orders` and `mail` declare each other. -/
def shopModules : List Module :=
  [⟨"orders", ["stock", "mail"]⟩, ⟨"stock", ["units"]⟩, ⟨"units", []⟩,
    ⟨"mail", ["orders"]⟩, ⟨"report", ["orders", "units"]⟩]

/-- The catalog of the shop. -/
def shopCatalog : Roster := ⟨shopModules, by decide⟩

/-- A database of the shop that has `mail` only. -/
def mailInstalled : Roster := ⟨[⟨"mail", ["orders"]⟩], by decide⟩

end ModuleKeeper.Install
