import ModuleKeeper.Proofs.Assembling
import ModuleKeeper.Proofs.Lexing
import ModuleKeeper.Proofs.Parsing
import ModuleKeeper.Settings.Path

/-!
# How reading settings from a file ends

A file that cannot be read is a fault of the settings, and this is what those who
load settings can deal with.  Most that can be wrong with a file is such a fault: it is
a directory, it is too large, its bytes are no text, its text is no document.  This
file says what is left: a home directory of a user who is not known, a character with a
number that is too large, and nodes of which no value is made.  All three stages of
reading a document come together here.

## Main results

* `cut_ofBytes`: where a document is cut off.
* `foreseen_or_of_read`: the trouble of a document, stage by stage.
* `ofFile_endings`: how reading settings from a file ends.
* `ofFile_unknownWord`: a truth value that is no word for one is enough.
-/

namespace ModuleKeeper

namespace Yaml

/-! ## Documents -/

namespace Source

theorem cut_readFrom (chunks : Nat) : ∀ {r : Reading} {bs : List UInt8} {t : Trouble},
    (readFrom chunks r bs).cut = some t → t.Foreseen := by
  have hbroken : ∀ {r : Reading} {t : Trouble}, r.broken.cut = some t → t.Foreseen := by
    rintro r t ⟨⟩
    exact .inr (.inr rfl)
  have hfinish : ∀ {r : Reading} {t : Trouble}, r.finish.cut = some t → t.Foreseen := by
    intro r t h
    unfold Reading.finish at h
    split at h
    · exact hbroken h
    · cases h
  induction chunks with
  | zero => exact hfinish
  | succ chunks ih =>
      intro r bs t h
      unfold readFrom at h
      split at h
      · exact hfinish h
      · split at h
        · exact hbroken h
        · exact ih h

/-- A document is cut off by bytes that are no text or by what may not stand in it. -/
theorem cut_ofBytes {bs : List UInt8} {t : Trouble} (h : (ofBytes bs).cut = some t) :
    t.Foreseen := by
  unfold ofBytes printable at h
  split at h
  · exact cut_readFrom _ h
  · cases h
    exact Trouble.foreseen_malformed

end Source

/-- The documents that come to a trouble for which no reader is ready. -/
inductive Derails (source : Source) : Trouble → Prop
  /-- The number of a character is too large. -/
  | escape (h : HasLongEscape source.text) : Derails source .overflow
  /-- The document has nodes, and of some of them no value is made. -/
  | nodes {g : Node.Graph} {t : Trouble}
      (hnodes : Node.ofTokens (Token.ofText source.text source.cut) = .ok (some g))
      (h : Assembly.Stumbles g.nodes t) : Derails source t

/-- The trouble of a document, stage by stage: its tokens, its nodes, its value. -/
theorem foreseen_or_of_read {source : Source} {t : Trouble}
    (hcut : ∀ u, source.cut = some u → u.Foreseen) (h : read source = .error t) :
    t.Foreseen ∨ Derails source t := by
  have htokens := Node.comes_ofTokens (Token.ofText source.text source.cut)
  unfold read at h
  split at h
  · rename_i u hu
    cases h
    rcases htokens.of_error hu with rfl | hbroken
    · exact .inl Trouble.foreseen_malformed
    · rcases Token.explains_of_broken_mem_ofText hbroken with (hforeseen | ⟨rfl, hlong⟩) | hcutoff
      · exact .inl hforeseen
      · exact .inr (.escape hlong)
      · exact .inl (hcut t hcutoff)
  · cases h
  · rename_i g hnodes
    cases hvalue : g.value with
    | ok v =>
        rw [hvalue] at h
        cases h
    | error u =>
        rw [hvalue] at h
        cases h
        rcases g.accounted_of_value hvalue with hforeseen | hstumbles
        · exact .inl hforeseen
        · exact .inr (.nodes hnodes hstumbles)

end Yaml

namespace Settings

/-! ## Files -/

/-- The files from which settings can neither be had nor refused. -/
inductive FileDerails (homes : Path.Homes) (find : Text → File) (path : Text) : Mishap → Prop
  /-- The path starts in the home directory of a user who is not known. -/
  | homeless {user : List CodePoint} {rest : List Text}
      (hpath : Path.ofText path = ⟨"", Text.ofList ('~' :: user) :: rest⟩)
      (huser : homes.find user = .error (.mishap .homeless)) :
      FileDerails homes find path .homeless
  /-- The file can be read, but its document comes to a trouble for which nobody is ready. -/
  | document {p : Path} {bytes : List UInt8} {t : Yaml.Trouble} {m : Mishap}
      (hpath : (Path.ofText path).expand homes = .ok p) (hfile : find p.text = .contents bytes)
      (hsize : bytes.length ≤ fileSizeLimit) (h : Yaml.Derails (.ofBytes bytes) t)
      (hmishap : File.failureOf t = .mishap m) : FileDerails homes find path m

/-- Troubles that every document may have are faults of a file. -/
theorem failureOf_of_foreseen {t : Yaml.Trouble} (h : t.Foreseen) :
    ∃ cause, File.failureOf t = .fault cause := by
  rcases h with rfl | rfl | rfl
  · exact ⟨_, rfl⟩
  · exact ⟨_, rfl⟩
  · exact ⟨_, rfl⟩

theorem derails_of_read {found : Text} {file : File} {m : Mishap}
    (h : (file.read found).2 = .error (.mishap m)) :
    ∃ bytes t, file = .contents bytes ∧ bytes.length ≤ fileSizeLimit ∧
      Yaml.Derails (.ofBytes bytes) t ∧ File.failureOf t = .mishap m := by
  cases file with
  | missing => cases h
  | directory => cases h
  | blocked => cases h
  | contents bytes =>
      simp only [File.read] at h
      split at h
      · cases h
      · rename_i hsize
        unfold File.entriesOf at h
        split at h
        · cases h
        · rename_i t _ hread
          have hfailure : File.failureOf t = .mishap m := Except.error.inj h
          rcases Yaml.foreseen_or_of_read (fun _ => Yaml.Source.cut_ofBytes) hread with
            hforeseen | hderails
          · obtain ⟨cause, hcause⟩ := failureOf_of_foreseen hforeseen
            rw [hcause] at hfailure
            cases hfailure
          · exact ⟨bytes, t, rfl, Nat.le_of_not_lt hsize, hderails, hfailure⟩
        · cases h
        · cases h
        · cases h
        · cases h

theorem find_eq_mishap {homes : Path.Homes} {user : List CodePoint} {m : Mishap}
    (h : homes.find user = .error (.mishap m)) : m = .homeless := by
  unfold Path.Homes.find at h
  split at h
  · cases h
  · dsimp only at h
    split at h
    · cases h
    · cases h
      rfl

/-- A path leads nowhere for a mishap only if it starts in a home that is not known. -/
theorem derails_of_expand {homes : Path.Homes} {find : Text → File} {path : Text} {m : Mishap}
    (h : (Path.ofText path).expand homes = .error (.mishap m)) :
    FileDerails homes find path m := by
  generalize hpath : Path.ofText path = p at h
  obtain ⟨root, parts⟩ := p
  unfold Path.expand at h
  dsimp only at h
  split at h
  · rename_i part rest hroot
    split at h
    · rename_i user hpart
      cases hhome : homes.find user with
      | ok home =>
          rw [hhome] at h
          cases h
      | error f =>
          rw [hhome] at h
          obtain rfl : f = .mishap m := Except.error.inj h
          obtain rfl := find_eq_mishap hhome
          have hwhole : Path.ofText path = ⟨"", Text.ofList ('~' :: user) :: rest⟩ := by
            rw [hpath, Text.isEmpty_iff.1 hroot, ← hpart]
            rfl
          exact .homeless hwhole hhome
    · cases h
  · cases h

/--
**How reading settings from a file ends.**  Whatever a path leads to, there are settings, or
there is a fault of the settings that names the path, or there is a mishap that has one of
these explanations: the path starts in the home directory of a user who is not known; or
the file, which is not too large, holds the number of a character that is too large, or it
describes nodes of which no value is made, because a scalar is not what its tag says or
because a mapping stands for a text that it does not have.
-/
theorem ofFile_endings (homes : Path.Homes) (find : Text → File) (path : Text) :
    (∃ s, (ofFile path (look (m := Id) homes find path)).2 = .ok s) ∨
      (∃ cause, (ofFile path (look (m := Id) homes find path)).2 =
        .error (.fault (.settings (.unreadable path cause)))) ∨
      ∃ m, (ofFile path (look (m := Id) homes find path)).2 = .error (.mishap m) ∧
        FileDerails homes find path m := by
  unfold look
  cases hpath : (Path.ofText path).expand homes with
  | error f =>
      cases f with
      | fault cause => exact .inr (.inl ⟨cause, rfl⟩)
      | mishap m => exact .inr (.inr ⟨m, rfl, derails_of_expand hpath⟩)
  | ok p =>
      have hlook : (ofFile path (Except.ok (p.text, find p.text))).2 =
          (((find p.text).read p.text).2.mapError (readFailure path)).map ofEntries := rfl
      cases hread : ((find p.text).read p.text).2 with
      | ok entries =>
          rw [hread] at hlook
          exact .inl ⟨ofEntries entries, hlook⟩
      | error f =>
          rw [hread] at hlook
          cases f with
          | fault cause => exact .inr (.inl ⟨cause, hlook⟩)
          | mishap m =>
              obtain ⟨bytes, t, hfile, hsize, hderails, hmishap⟩ := derails_of_read hread
              exact .inr (.inr ⟨m, hlook, .document hpath hfile hsize hderails hmishap⟩)

/-- A file with a truth value that is no word for one. -/
def unsureFile : File := .contents (Text.Utf8.encode (Text.letters "timeout: !!bool maybe\n"))

/-- Whether settings are missing because a key is. -/
def lacksKey : Except Failure Settings → Bool
  | .error (.mishap .missingKey) => true
  | _ => false

theorem eq_of_lacksKey {outcome : Except Failure Settings} (h : lacksKey outcome = true) :
    outcome = .error (.mishap .missingKey) := by
  unfold lacksKey at h
  split at h
  · rfl
  · cases h

/-- A truth value that is no word for one is enough: there are no settings, and no fault. -/
theorem ofFile_unknownWord :
    (ofFile "config.yml" (.ok ("config.yml", unsureFile))).2 = .error (.mishap .missingKey) ∧
      ¬((∃ s, (ofFile "config.yml" (.ok ("config.yml", unsureFile))).2 = .ok s) ∨
        ∃ cause, (ofFile "config.yml" (.ok ("config.yml", unsureFile))).2 =
          .error (.fault (.settings cause))) := by
  have houtcome : (ofFile "config.yml" (.ok ("config.yml", unsureFile))).2 =
      .error (.mishap .missingKey) := eq_of_lacksKey (by decide +kernel)
  rw [houtcome]
  simp

end Settings

end ModuleKeeper
