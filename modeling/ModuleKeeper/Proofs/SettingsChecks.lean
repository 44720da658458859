import ModuleKeeper.Proofs.JoinedAddresses
import ModuleKeeper.Settings

/-!
# How a check of settings ends

Settings may hold any value before they are checked.  A check either accepts
them or refuses them with a fault of the settings, and this is what those who
load settings can deal with.  But the check asks a time limit for its whole
number and an address for its host, and some values fail there in ways that no
rule of the check covers.  This file says which values these are
(`TimeoutDerails`, `AddressDerails`), so that all others are known to be
accepted or refused.

## Main results

* `checkTimeout_eq_ok_iff`, `checkTimeout_eq_mishap_iff`: what becomes of a time limit.
* `addressFailure_eq_mishap_iff`: the addresses that derail a check.
* `check_endings`: how a check ends.
* `check_infiniteTimeout`: an infinite time limit is enough.
-/

namespace ModuleKeeper

/-! ## Addresses -/

namespace Url

/-- The kinds of values that are judged each in its own way. -/
inductive Form : Value → Prop
  | text (s : Text) : Form (.str s)
  | ascii {bs : List UInt8} (h : ∀ b ∈ bs, b < 128) : Form (.bytes bs)
  | otherBytes {bs : List UInt8} (h : ¬∀ b ∈ bs, b < 128) : Form (.bytes bs)
  | other {v : Value} (htext : ∀ s, v ≠ .str s) (hbytes : ∀ bs, v ≠ .bytes bs) : Form v

theorem form (v : Value) : Form v := by
  cases v with
  | str s => exact .text s
  | bytes bs =>
      by_cases h : ∀ b ∈ bs, b < 128
      · exact .ascii h
      · exact .otherBytes h
  | _ => exact .other nofun nofun

/-- The code points that bytes of ASCII stand for. -/
def asciiChars (bs : List UInt8) : List CodePoint := bs.map fun b => CodePoint.ofNat b.toNat

theorem all_ascii_iff {bs : List UInt8} :
    bs.all (fun b => decide (b < 128)) = true ↔ ∀ b ∈ bs, b < 128 := by
  simp [List.all_eq_true]

theorem check_ascii {bs : List UInt8} (h : ∀ b ∈ bs, b < 128) :
    check (.bytes bs) = match scheme? (asciiChars bs) with
      | none => .error .badHost
      | some scheme =>
        .error (.badScheme (.bytes (scheme.map fun c => UInt8.ofNat c.toNat)) (.bytes bs)) :=
  if_pos (all_ascii_iff.2 h)

theorem check_otherBytes {bs : List UInt8} (h : ¬∀ b ∈ bs, b < 128) :
    check (.bytes bs) = .error .notAscii :=
  if_neg fun hall => h (all_ascii_iff.1 hall)

theorem check_other {v : Value} (htext : ∀ s, v ≠ .str s) (hbytes : ∀ bs, v ≠ .bytes bs) :
    check v = if v.truthy then .error .notText else .error (.badScheme (.bytes []) v) := by
  cases v with
  | str s => exact absurd rfl (htext s)
  | bytes bs => exact absurd rfl (hbytes bs)
  | _ => rfl

/-- The code points of a value that is judged as an address: of a text, or of ASCII bytes. -/
inductive Spells : Value → List CodePoint → Prop
  | text (s : Text) : Spells (.str s) s.toList
  | ascii {bs : List UInt8} (h : ∀ b ∈ bs, b < 128) : Spells (.bytes bs) (asciiChars bs)

/-- The addresses that are neither accepted nor refused for their scheme. -/
inductive AddressDerails : Value → Mishap → Prop
  /-- What is no text but counts as true cannot be taken apart. -/
  | notText {v : Value} (htrue : v.truthy = true) (htext : ∀ s, v ≠ .str s)
      (hbytes : ∀ bs, v ≠ .bytes bs) : AddressDerails v .missingAttribute
  /-- The bytes are not those of an ASCII text. -/
  | notAscii {bs : List UInt8} (h : ¬∀ b ∈ bs, b < 128) : AddressDerails (.bytes bs) .badEncoding
  /-- The host part is not well formed. -/
  | badHost {v : Value} {cs : List CodePoint} (hspells : Spells v cs)
      (h : ¬SoundHost (splitScheme (cleaned cs)).2) : AddressDerails v .badValue

theorem scheme?_eq_none_iff {cs : List CodePoint} :
    scheme? cs = none ↔ ¬SoundHost (splitScheme (cleaned cs)).2 := by
  rw [soundHost_iff]
  unfold scheme?
  dsimp only
  split
  · rename_i h
    exact iff_of_false nofun fun hnot => hnot h
  · rename_i h
    exact iff_of_true rfl h

theorem check_of_scheme?_eq_none {v : Value} {cs : List CodePoint} (hspells : Spells v cs)
    (h : scheme? cs = none) : check v = .error .badHost := by
  cases hspells with
  | text s =>
      unfold check
      dsimp only
      rw [h]
  | ascii hascii => rw [check_ascii hascii, h]

end Url

namespace Settings

open Url

/-- A refusal of an address that is a fault of the settings is no mishap. -/
theorem addressFailure_eq_mishap_of_form {v : Value} {r : Url.Refusal} {m : Mishap}
    (hcheck : Url.check v = .error r) (h : addressFailure r = .mishap m) : AddressDerails v m := by
  cases form v with
  | text s =>
      cases hscheme : scheme? s.toList with
      | none =>
          rw [check_of_scheme?_eq_none (.text s) hscheme] at hcheck
          cases hcheck
          cases h
          exact .badHost (.text s) (scheme?_eq_none_iff.1 hscheme)
      | some scheme =>
          unfold Url.check at hcheck
          dsimp only at hcheck
          rw [hscheme] at hcheck
          dsimp only at hcheck
          split at hcheck
          · cases hcheck
          · cases hcheck
            cases h
  | @ascii bs hascii =>
      cases hscheme : scheme? (asciiChars bs) with
      | none =>
          rw [check_of_scheme?_eq_none (.ascii hascii) hscheme] at hcheck
          cases hcheck
          cases h
          exact .badHost (.ascii hascii) (scheme?_eq_none_iff.1 hscheme)
      | some scheme =>
          rw [check_ascii hascii, hscheme] at hcheck
          cases hcheck
          cases h
  | otherBytes hother =>
      rw [check_otherBytes hother] at hcheck
      cases hcheck
      cases h
      exact .notAscii hother
  | other htext hbytes =>
      rw [check_other htext hbytes] at hcheck
      split at hcheck
      · rename_i htrue
        cases hcheck
        cases h
        exact .notText htrue htext hbytes
      · cases hcheck
        cases h

/-- The addresses that derail a check are known. -/
theorem addressFailure_eq_mishap_iff {v : Value} {m : Mishap} :
    (∃ r, Url.check v = .error r ∧ addressFailure r = .mishap m) ↔ AddressDerails v m := by
  constructor
  · rintro ⟨r, hcheck, hfailure⟩
    exact addressFailure_eq_mishap_of_form hcheck hfailure
  · intro h
    cases h with
    | notText htrue htext hbytes =>
        exact ⟨.notText, by rw [check_other htext hbytes, if_pos htrue], rfl⟩
    | notAscii hother => exact ⟨.notAscii, check_otherBytes hother, rfl⟩
    | badHost hspells hhost =>
        exact ⟨.badHost, check_of_scheme?_eq_none hspells (scheme?_eq_none_iff.2 hhost), rfl⟩

/-! ## Time limits -/

/-- The time limits that are neither accepted nor refused. -/
inductive TimeoutDerails : Value → Mishap → Prop
  /-- An infinite time limit has no whole number. -/
  | infinite (negative : Bool) : TimeoutDerails (.float (.infinite negative)) .overflow
  /-- It is no number, and a number in it is too long to be shown in the refusal. -/
  | unshown {v : Value} (h : wholeOf v = .error .notWhole) (hlong : v.hasLongNumber = true) :
      TimeoutDerails v .badValue
  /-- It is a negative number that is too long to be shown in the refusal. -/
  | farBelow {v : Value} {n : Int} (h : wholeOf v = .ok n) (hneg : n < 0)
      (hlong : Nat.pow 10 Numeral.digitLimit ≤ n.natAbs) : TimeoutDerails v .badValue

theorem wholeOf_eq_infinite_iff {v : Value} :
    wholeOf v = .error .infinite ↔ ∃ negative, v = .float (.infinite negative) := by
  constructor
  · intro h
    unfold wholeOf at h
    split at h
    case h_3 negative => exact ⟨negative, rfl⟩
    all_goals first
      | cases h
      | (split at h <;> first | cases h | (split at h <;> cases h))
  · rintro ⟨negative, rfl⟩
    rfl

theorem checkTimeout_eq_ok_iff {v : Value} {n : Int} :
    checkTimeout v = .ok n ↔ wholeOf v = .ok n ∧ 0 < n := by
  unfold checkTimeout
  split
  · rename_i h
    rw [h]
    exact iff_of_false nofun nofun
  · rename_i h
    rw [h]
    refine iff_of_false ?_ nofun
    split <;> nofun
  · rename_i k h
    rw [h]
    by_cases hpos : 0 < k
    · rw [if_pos hpos]
      constructor
      · rintro ⟨⟩
        exact ⟨rfl, hpos⟩
      · rintro ⟨⟨⟩, -⟩
        rfl
    · rw [if_neg hpos]
      refine iff_of_false ?_ ?_
      · split <;> nofun
      · rintro ⟨⟨⟩, hn⟩
        exact hpos hn

theorem checkTimeout_eq_mishap_iff {v : Value} {m : Mishap} :
    checkTimeout v = .error (.mishap m) ↔ TimeoutDerails v m := by
  constructor
  · intro h
    unfold checkTimeout at h
    split at h
    · rename_i hinfinite
      cases h
      obtain ⟨negative, rfl⟩ := wholeOf_eq_infinite_iff.1 hinfinite
      exact .infinite negative
    · rename_i hwhole
      split at h
      · rename_i hlong
        cases h
        exact .unshown hwhole hlong
      · cases h
    · rename_i n hwhole
      split at h
      · cases h
      · rename_i hpos
        split at h
        · rename_i hlong
          cases h
          -- A number that long is not zero, so it is below zero if it is not above.
          have hpower : ∀ digits, 0 < Nat.pow 10 digits := fun digits => Nat.pow_pos (by decide)
          have hne : n.natAbs ≠ 0 := Nat.ne_of_gt (Nat.lt_of_lt_of_le (hpower _) hlong)
          exact .farBelow hwhole (by omega) hlong
        · cases h
  · intro h
    cases h with
    | infinite negative => rfl
    | unshown hwhole hlong =>
        unfold checkTimeout
        rw [hwhole]
        exact if_pos hlong
    | farBelow hwhole hneg hlong =>
        unfold checkTimeout
        rw [hwhole]
        dsimp only
        rw [if_neg (by omega), if_pos hlong]

/-! ## Settings -/

/-- What a check does to settings that it accepts. -/
structure Accepts (s t : Settings) : Prop where
  limit : ∃ n : Int, 1 ≤ n ∧ wholeOf s.timeout = .ok n ∧ t = { s with timeout := .int n }
  address : ∃ address, s.address = .str address ∧ IsWeb address.toList

/-- The settings that a check can neither accept nor refuse; the time limit comes first. -/
inductive Derails (s : Settings) : Mishap → Prop
  | timeout {m : Mishap} (h : TimeoutDerails s.timeout m) : Derails s m
  | address {m : Mishap} {n : Int} (hlimit : checkTimeout s.timeout = .ok n)
      (h : AddressDerails s.address m) : Derails s m

theorem check_of_checkTimeout {s : Settings} {n : Int} (h : checkTimeout s.timeout = .ok n) :
    s.check = match Url.check s.address with
      | .error r => .error (addressFailure r)
      | .ok () => .ok { s with timeout := .int n } := by
  cases haddress : Url.check s.address with
  | error r => simp only [check, h, haddress]
  | ok u => simp only [check, h, haddress]

theorem check_of_checkTimeout_error {s : Settings} {f : Failure}
    (h : checkTimeout s.timeout = .error f) : s.check = .error f := by
  unfold check
  rw [h]

theorem check_eq_ok_iff {s t : Settings} : s.check = .ok t ↔ Accepts s t := by
  constructor
  · intro h
    cases hlimit : checkTimeout s.timeout with
    | error f =>
        rw [check_of_checkTimeout_error hlimit] at h
        cases h
    | ok n =>
        rw [check_of_checkTimeout hlimit] at h
        obtain ⟨hwhole, hpos⟩ := checkTimeout_eq_ok_iff.1 hlimit
        split at h
        · cases h
        · rename_i haddress
          cases h
          exact ⟨⟨n, hpos, hwhole, rfl⟩, Url.check_eq_ok_iff.1 haddress⟩
  · rintro ⟨⟨n, hpos, hwhole, rfl⟩, haddress⟩
    rw [check_of_checkTimeout (checkTimeout_eq_ok_iff.2 ⟨hwhole, hpos⟩),
      Url.check_eq_ok_iff.2 haddress]

theorem check_eq_mishap_iff {s : Settings} {m : Mishap} :
    s.check = .error (.mishap m) ↔ Derails s m := by
  constructor
  · intro h
    cases hlimit : checkTimeout s.timeout with
    | error f =>
        rw [check_of_checkTimeout_error hlimit] at h
        cases h
        exact .timeout (checkTimeout_eq_mishap_iff.1 hlimit)
    | ok n =>
        rw [check_of_checkTimeout hlimit] at h
        split at h
        · rename_i r haddress
          exact .address hlimit (addressFailure_eq_mishap_iff.1 ⟨r, haddress, Except.error.inj h⟩)
        · cases h
  · intro h
    cases h with
    | timeout h => exact check_of_checkTimeout_error (checkTimeout_eq_mishap_iff.2 h)
    | address hlimit h =>
        obtain ⟨r, haddress, hfailure⟩ := addressFailure_eq_mishap_iff.2 h
        rw [check_of_checkTimeout hlimit, haddress]
        exact congrArg Except.error hfailure

/-- What fails without a mishap is a fault of the settings. -/
theorem exists_fault_of_check {s : Settings} {f : Failure} (h : s.check = .error f)
    (hmishap : ∀ m, f ≠ .mishap m) : ∃ c, f = .fault (.settings c) := by
  cases hlimit : checkTimeout s.timeout with
  | error g =>
      rw [check_of_checkTimeout_error hlimit] at h
      cases h
      unfold checkTimeout at hlimit
      split at hlimit
      · cases hlimit
        exact absurd rfl (hmishap _)
      · split at hlimit
        · cases hlimit
          exact absurd rfl (hmishap _)
        · cases hlimit
          exact ⟨_, rfl⟩
      · split at hlimit
        · cases hlimit
        · split at hlimit
          · cases hlimit
            exact absurd rfl (hmishap _)
          · cases hlimit
            exact ⟨_, rfl⟩
  | ok n =>
      rw [check_of_checkTimeout hlimit] at h
      split at h
      · rename_i r haddress
        cases h
        cases r with
        | badScheme scheme address => exact ⟨_, rfl⟩
        | _ => exact absurd rfl (hmishap _)
      · cases h

/--
**How a check ends.**  Settings are accepted exactly if the time limit stands for a whole
number of at least one and the address is that of a web service; then the time limit is
that number, and all other settings are as they were.  Unless one of them derails the check,
all other settings are refused with a fault of the settings.  The check is derailed by a time
limit that is infinite or that cannot be shown in a refusal, and, behind a time limit that
is accepted, by an address that is no text or whose host part is not well formed.
-/
theorem check_endings (s : Settings) :
    (∀ t, s.check = .ok t ↔ Accepts s t) ∧
      (∀ m, s.check = .error (.mishap m) ↔ Derails s m) ∧
      ((∃ c, s.check = .error (.fault (.settings c))) ↔
        (∀ t, ¬Accepts s t) ∧ ∀ m, ¬Derails s m) := by
  refine ⟨fun t => check_eq_ok_iff, fun m => check_eq_mishap_iff, ?_⟩
  constructor
  · rintro ⟨c, hfault⟩
    constructor
    · intro t haccepts
      rw [check_eq_ok_iff.2 haccepts] at hfault
      cases hfault
    · intro m hderails
      rw [check_eq_mishap_iff.2 hderails] at hfault
      cases hfault
  · rintro ⟨haccepts, hderails⟩
    cases hcheck : s.check with
    | ok t => exact absurd (check_eq_ok_iff.1 hcheck) (haccepts t)
    | error f =>
        have hmishap : ∀ m, f ≠ .mishap m := by
          rintro m rfl
          exact hderails m (check_eq_mishap_iff.1 hcheck)
        obtain ⟨c, rfl⟩ := exists_fault_of_check hcheck hmishap
        exact ⟨c, rfl⟩

/-- An infinite time limit is neither accepted nor refused, and no more is a number as address. -/
theorem check_infiniteTimeout :
    (¬((∃ t, { default with timeout := .float (.infinite false) }.check = .ok t) ∨
        ∃ c, { default with timeout := .float (.infinite false) }.check =
          .error (.fault (.settings c))) ∧
      { default with timeout := .float (.infinite false) }.check = .error (.mishap .overflow)) ∧
    { default with address := .int 8088 }.check = .error (.mishap .missingAttribute) := by
  have hinfinite : { default with timeout := .float (.infinite false) }.check =
      .error (.mishap .overflow) := rfl
  refine ⟨⟨?_, hinfinite⟩, rfl⟩
  rw [hinfinite]
  simp

end Settings

end ModuleKeeper
