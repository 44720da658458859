import Mathlib.Data.List.DropRight
import ModuleKeeper.Gateway

/-!
# Addresses and what is joined to them

An address is judged as a reader sees it: without controls at its start and
without tabs and line breaks.  But it is joined as it is written, and on the
way the slashes at its end are cut.  So a joined address may have another host
than its base: behind `http:/` and a tab, a second slash makes a host of the
first segment.  It is still accepted, because the first segment of a call is
the version, which is harmless as a host, and because a slash follows that ends
it.  In all other cases the host part stays what it was.

## Main results

* `check_eq_ok_iff`: which values are accepted as addresses.
* `scheme?_joinChars`: a call below an accepted address has its scheme.
* `joinChars_joinChars`, `segments_padded`: slashes at the ends do not matter.
* `urlFor_accepted_and_join_join`: the two together.
-/

namespace ModuleKeeper.Url

open ModuleKeeper.Text

/-! ## Slashes at the ends -/

/-- A run of slashes. -/
def slashes (k : Nat) : List CodePoint := List.replicate k (.char '/')

theorem mem_slashes {k : Nat} {c : CodePoint} (h : c ∈ slashes k) : c = .char '/' :=
  List.eq_of_mem_replicate h

theorem trimEnd_append_slashes (cs : List CodePoint) (k : Nat) :
    trimEnd (cs ++ slashes k) = trimEnd cs := by
  induction k with
  | zero => rw [slashes, List.replicate_zero, List.append_nil]
  | succ k ih =>
      rw [slashes, List.replicate_succ', ← List.append_assoc]
      show ((cs ++ slashes k) ++ [CodePoint.char '/']).rdropWhile (· = .char '/') = _
      rw [List.rdropWhile_concat_pos _ _ _ (by decide)]
      exact ih

theorem exists_eq_trimEnd_append (cs : List CodePoint) : ∃ k, cs = trimEnd cs ++ slashes k := by
  have hslash : ∀ c ∈ cs.reverse.takeWhile (· = .char '/'), c = .char '/' := by
    intro c hc
    have hp := List.mem_takeWhile_imp hc
    exact of_decide_eq_true hp
  have hrun : cs.reverse.takeWhile (· = .char '/') =
      slashes (cs.reverse.takeWhile (· = .char '/')).length :=
    List.eq_replicate_iff.2 ⟨rfl, hslash⟩
  refine ⟨(cs.reverse.takeWhile (· = .char '/')).length, ?_⟩
  calc
    cs = (cs.reverse.takeWhile (· = .char '/') ++
        cs.reverse.dropWhile (· = .char '/')).reverse := by
        rw [List.takeWhile_append_dropWhile, List.reverse_reverse]
    _ = trimEnd cs ++ (cs.reverse.takeWhile (· = .char '/')).reverse := by
        rw [List.reverse_append]
        rfl
    _ = trimEnd cs ++ slashes (cs.reverse.takeWhile (· = .char '/')).length := by
        rw [hrun, slashes, List.reverse_replicate, List.length_replicate]
        rfl

theorem trimEnd_trimEnd (cs : List CodePoint) : trimEnd (trimEnd cs) = trimEnd cs :=
  List.rdropWhile_idempotent _ _

/-- What stands before a text that is not cut is not cut either. -/
theorem trimEnd_append_of_trimmed {cs : List CodePoint} (hne : cs ≠ []) (h : trimEnd cs = cs)
    (ds : List CodePoint) : trimEnd (ds ++ cs) = ds ++ cs := by
  have hlast := List.rdropWhile_eq_self_iff.1 h
  apply List.rdropWhile_eq_self_iff.2
  intro hl
  rw [List.getLast_append_of_ne_nil hl hne]
  exact hlast hne

theorem trim_padded (part : List CodePoint) (i j : Nat) :
    trim (slashes i ++ part ++ slashes j) = trim part := by
  have hfront : (slashes i ++ (part ++ slashes j)).dropWhile (· = .char '/') =
      (part ++ slashes j).dropWhile (· = .char '/') :=
    List.dropWhile_append_of_pos fun c hc => by rw [mem_slashes hc]; decide
  show trimEnd ((slashes i ++ part ++ slashes j).dropWhile (· = .char '/')) = _
  rw [List.append_assoc, hfront, List.dropWhile_append]
  split
  · rename_i hall
    have hnone : (slashes j).dropWhile (· = .char '/') = [] :=
      List.dropWhile_eq_nil_iff.2 fun c hc => by rw [mem_slashes hc]; decide
    rw [hnone]
    show _ = trimEnd (part.dropWhile (· = .char '/'))
    rw [List.isEmpty_iff.1 hall]
  · exact trimEnd_append_slashes _ j

theorem trim_slashes (k : Nat) : trim (slashes k) = [] := by
  have h := trim_padded [] k 0
  rwa [slashes, List.append_nil, slashes, List.replicate_zero, List.append_nil] at h

/-! ## Segments -/

theorem segments_append (p q : List (List CodePoint)) :
    segments (p ++ q) = segments p ++ segments q := by
  rw [segments, List.map_append, List.filter_append]
  rfl

theorem segments_padded (part : List CodePoint) (i j : Nat) :
    segments [slashes i ++ part ++ slashes j] = segments [part] := by
  simp only [segments, List.map_cons, List.map_nil, trim_padded]

theorem segments_slashes (k : Nat) : segments [slashes k] = [] := by
  simp [segments, trim_slashes]

theorem ne_nil_of_mem_segments {parts : List (List CodePoint)} {s : List CodePoint}
    (h : s ∈ segments parts) : s ≠ [] := by
  simpa using (List.mem_filter.1 h).2

theorem trimEnd_of_mem_segments {parts : List (List CodePoint)} {s : List CodePoint}
    (h : s ∈ segments parts) : trimEnd s = s := by
  obtain ⟨part, -, rfl⟩ := List.mem_map.1 (List.mem_filter.1 h).1
  exact trimEnd_trimEnd _

/-- Behind a base that is cut, no end of a path is cut. -/
theorem trimEnd_append_path {base : List CodePoint} (h : trimEnd base = base)
    {path : List (List CodePoint)} (hpath : ∀ s ∈ path, s ≠ [] ∧ trimEnd s = s) :
    trimEnd (base ++ path.flatMap (.char '/' :: ·)) = base ++ path.flatMap (.char '/' :: ·) := by
  induction path generalizing base with
  | nil => simpa using h
  | cons s path ih =>
      obtain ⟨⟨hne, htrim⟩, hrest⟩ := List.forall_mem_cons.1 hpath
      have hstep : trimEnd (base ++ .char '/' :: s) = base ++ .char '/' :: s := by
        rw [List.append_cons]
        exact trimEnd_append_of_trimmed hne htrim _
      rw [List.flatMap_cons, ← List.append_assoc]
      exact ih hstep hrest

theorem trimEnd_joinChars (base : List CodePoint) (parts : List (List CodePoint)) :
    trimEnd (joinChars base parts) = joinChars base parts :=
  trimEnd_append_path (trimEnd_trimEnd base) fun _ hs =>
    ⟨ne_nil_of_mem_segments hs, trimEnd_of_mem_segments hs⟩

theorem joinChars_joinChars (base : List CodePoint) (p q : List (List CodePoint)) :
    joinChars (joinChars base p) q = joinChars base (p ++ q) := by
  rw [joinChars, trimEnd_joinChars, joinChars, joinChars, segments_append, List.flatMap_append,
    List.append_assoc]

theorem joinChars_append_slashes (base : List CodePoint) (k : Nat) (parts : List (List CodePoint)) :
    joinChars (base ++ slashes k) parts = joinChars base parts := by
  rw [joinChars, trimEnd_append_slashes, joinChars]

/-- Only the segments of the parts count. -/
theorem joinChars_congr {p q : List (List CodePoint)} (h : segments p = segments q)
    (base : List CodePoint) : joinChars base p = joinChars base q := by
  rw [joinChars, h, joinChars]

/-! ## What is seen of an address -/

variable {cs scheme front rest : List CodePoint}

/-- What is seen of a text behind its start. -/
def seen (cs : List CodePoint) : List CodePoint :=
  cs.filter fun c => c != '\t' && c != '\r' && c != '\n'

theorem seen_append (cs ds : List CodePoint) : seen (cs ++ ds) = seen cs ++ seen ds :=
  List.filter_append ..

theorem seen_slashes (k : Nat) : seen (slashes k) = slashes k :=
  List.filter_eq_self.2 fun c hc => by rw [mem_slashes hc]; decide

theorem cleaned_append (h : ∃ c ∈ cs, 0x20 < c.toNat) (ds : List CodePoint) :
    cleaned (cs ++ ds) = cleaned cs ++ seen ds := by
  obtain ⟨c, hc, hvisible⟩ := h
  have hne : ¬(cs.dropWhile fun c => decide (c.toNat ≤ 0x20)).isEmpty = true := by
    intro hempty
    have hall := List.dropWhile_eq_nil_iff.1 (List.isEmpty_iff.1 hempty) c hc
    have hle := of_decide_eq_true hall
    omega
  show seen ((cs ++ ds).dropWhile _) = _
  rw [List.dropWhile_append, if_neg hne, seen_append]
  rfl

/-- Of slashes behind controls only the slashes are seen. -/
theorem cleaned_slashes (h : ∀ c ∈ cs, c.toNat ≤ 0x20) (k : Nat) :
    cleaned (cs ++ slashes k) = slashes k := by
  have hskip : (cs ++ slashes k).dropWhile (fun c => decide (c.toNat ≤ 0x20)) =
      (slashes k).dropWhile fun c => decide (c.toNat ≤ 0x20) :=
    List.dropWhile_append_of_pos fun c hc => decide_eq_true (h c hc)
  show seen ((cs ++ slashes k).dropWhile _) = _
  rw [hskip]
  cases k with
  | zero => rfl
  | succ k => exact seen_slashes (k + 1)

/-! ## Schemes -/

/-- What can be a scheme: a letter, and then what may occur in schemes. -/
def IsSchemeName (front : List CodePoint) : Prop :=
  ∃ c cs, front = c :: cs ∧ c.isAlpha = true ∧ front.all isSchemeChar = true

theorem IsSchemeName.ne_colon (h : IsSchemeName front) : ∀ c ∈ front, (c != .char ':') = true := by
  obtain ⟨-, -, -, -, hall⟩ := h
  intro c hc
  have hchar := List.all_eq_true.1 hall c hc
  by_cases hcolon : c = .char ':'
  · rw [hcolon] at hchar
    exact absurd hchar (by decide)
  · simpa using hcolon

theorem splitScheme_of_isSchemeName (h : IsSchemeName front) (rest : List CodePoint) :
    splitScheme (front ++ .char ':' :: rest) = (front.map CodePoint.toLower, rest) := by
  have hnot := h.ne_colon
  obtain ⟨c, cs, rfl, halpha, hall⟩ := h
  unfold splitScheme
  dsimp only
  rw [List.dropWhile_append_of_pos hnot, List.takeWhile_append_of_pos hnot,
    List.dropWhile_cons_of_neg (by decide), List.takeWhile_cons_of_neg (by decide), List.append_nil]
  simp only [halpha, hall, Bool.and_self, if_true]

theorem exists_of_splitScheme (hne : scheme ≠ []) (h : splitScheme cs = (scheme, rest)) :
    ∃ front, IsSchemeName front ∧ front.map CodePoint.toLower = scheme ∧
      cs = front ++ .char ':' :: rest := by
  have hsplit : cs.takeWhile (· != .char ':') ++ cs.dropWhile (· != .char ':') = cs :=
    List.takeWhile_append_dropWhile
  have hempty : ([], cs) ≠ (scheme, rest) := by
    intro heq
    exact hne (congrArg Prod.fst heq).symm
  unfold splitScheme at h
  dsimp only at h
  split at h
  · rename_i d behind c name hbehind hname
    split at h
    · rename_i hfront
      rw [Bool.and_eq_true] at hfront
      obtain ⟨rfl, rfl⟩ := Prod.mk.inj h
      have hcolon : d = .char ':' := by
        have hd := List.head?_dropWhile_not (fun c => c != CodePoint.char ':') cs
        rw [hbehind] at hd
        simpa using hd
      refine ⟨c :: name, ⟨c, name, rfl, hfront.1, ?_⟩, by rw [hname], ?_⟩
      · rw [← hname]
        exact hfront.2
      · rw [← hsplit, hname, hbehind, hcolon]
    · exact absurd h hempty
  · exact absurd h hempty

/-- The host part behind a scheme, if there is one, is well formed. -/
def SoundHost (rest : List CodePoint) : Prop :=
  ∀ host, host? rest = some host → hostFits host = true

theorem soundHost_iff : SoundHost rest ↔ ((host? rest).map hostFits).getD true = true := by
  unfold SoundHost
  cases host? rest with
  | none => simp
  | some host => simp

theorem scheme?_eq_some_iff (hne : scheme ≠ []) : scheme? cs = some scheme ↔
    ∃ front rest, IsSchemeName front ∧ front.map CodePoint.toLower = scheme ∧
      cleaned cs = front ++ .char ':' :: rest ∧ SoundHost rest := by
  unfold scheme?
  dsimp only
  constructor
  · intro h
    split at h
    · rename_i hhost
      obtain ⟨front, hname, hscheme, hcs⟩ :=
        exists_of_splitScheme hne (Prod.ext (Option.some.inj h) rfl)
      exact ⟨front, _, hname, hscheme, hcs, soundHost_iff.2 hhost⟩
    · cases h
  · rintro ⟨front, rest, hname, hscheme, hcs, hhost⟩
    rw [hcs, splitScheme_of_isSchemeName hname, if_pos (soundHost_iff.1 hhost), hscheme]

theorem isAlpha_of_toLower {c : CodePoint} (h : c.toLower.isAlpha = true) : c.isAlpha = true := by
  cases c with
  | surrogate half => cases h
  | char c =>
      by_cases hupper : c.isUpper = true
      · show (c.isUpper || c.isLower) = true
        rw [hupper, Bool.true_or]
      · have hrange : ¬(c.val ≥ 'A'.val ∧ c.val ≤ 'Z'.val) := fun h => hupper (decide_eq_true h)
        have hsame : c.toLower = c := dif_neg hrange
        have halpha : c.toLower.isAlpha = true := h
        rwa [hsame] at halpha

/-- Letters in any case make a scheme. -/
theorem isSchemeName_of_letters (hne : front ≠ [])
    (h : ∀ c ∈ front.map CodePoint.toLower, c.isAlpha = true) : IsSchemeName front := by
  have halpha : ∀ c ∈ front, c.isAlpha = true := by
    intro c hc
    exact isAlpha_of_toLower (h _ (List.mem_map_of_mem hc))
  cases front with
  | nil => exact absurd rfl hne
  | cons c cs =>
      refine ⟨c, cs, rfl, halpha c (by simp), List.all_eq_true.2 ?_⟩
      intro d hd
      have hletter := halpha d hd
      cases d with
      | surrogate half => cases hletter
      | char d =>
          have hd : d.isAlpha = true := hletter
          simp [isSchemeChar, CodePoint.isAlphanum, CodePoint.isCharWith, Char.isAlphanum, hd]

/-! ## Addresses that are accepted -/

/--
What makes a text the address of a web service: as it is seen, it starts with an allowed scheme
in small or capital letters and a colon, and a host part behind that is well formed.
-/
def IsWeb (cs : List CodePoint) : Prop :=
  ∃ front rest, Text.ofList (front.map CodePoint.toLower) ∈ allowedSchemes ∧
    cleaned cs = front ++ .char ':' :: rest ∧ SoundHost rest

theorem letters_of_mem_allowedSchemes (h : Text.ofList scheme ∈ allowedSchemes) :
    scheme ≠ [] ∧ ∀ c ∈ scheme, c.isAlpha = true := by
  simp only [allowedSchemes, List.mem_cons, List.not_mem_nil, or_false] at h
  rcases h with h | h
  all_goals
    obtain rfl := congrArg Text.toList h
    decide

theorem isWeb_iff : IsWeb cs ↔
    ∃ scheme, scheme? cs = some scheme ∧ Text.ofList scheme ∈ allowedSchemes := by
  constructor
  · rintro ⟨front, rest, hallowed, hcs, hhost⟩
    obtain ⟨hne, hletters⟩ := letters_of_mem_allowedSchemes hallowed
    have hname : IsSchemeName front := by
      apply isSchemeName_of_letters _ hletters
      rintro rfl
      exact hne rfl
    exact ⟨_, (scheme?_eq_some_iff hne).2 ⟨front, rest, hname, rfl, hcs, hhost⟩, hallowed⟩
  · rintro ⟨scheme, hscheme, hallowed⟩
    have hne := (letters_of_mem_allowedSchemes hallowed).1
    obtain ⟨front, rest, -, rfl, hcs, hhost⟩ := (scheme?_eq_some_iff hne).1 hscheme
    exact ⟨front, rest, hallowed, hcs, hhost⟩

theorem check_str_eq_ok_iff {s : Text} : check (.str s) = .ok () ↔ IsWeb s.toList := by
  rw [isWeb_iff]
  unfold check
  dsimp only
  cases scheme? s.toList with
  | none => simp
  | some scheme =>
      dsimp only
      by_cases hallowed : allowedSchemes.contains (Text.ofList scheme) = true
      · rw [if_pos hallowed]
        exact iff_of_true rfl ⟨scheme, rfl, List.contains_iff_mem.1 hallowed⟩
      · rw [if_neg hallowed]
        refine iff_of_false nofun ?_
        rintro ⟨scheme', hscheme, hmem⟩
        cases hscheme
        exact hallowed (List.contains_iff_mem.2 hmem)

/-- Only texts are accepted, and only those that are addresses of web services. -/
theorem check_eq_ok_iff {v : Value} : check v = .ok () ↔ ∃ s, v = .str s ∧ IsWeb s.toList := by
  cases v with
  | str s =>
      rw [check_str_eq_ok_iff]
      constructor
      · intro h
        exact ⟨s, rfl, h⟩
      · rintro ⟨_, ⟨⟩, h⟩
        exact h
  | bytes bs =>
      refine iff_of_false ?_ nofun
      unfold check
      dsimp only
      split
      · split <;> nofun
      · nofun
  | _ =>
      refine iff_of_false ?_ nofun
      unfold check
      dsimp only
      split <;> nofun

/-! ## Calls below an address -/

/-- A path that starts with a slash ends the host part before it. -/
theorem takeWhile_host_append (cs : List CodePoint) {ds : List CodePoint}
    (h : ∀ d ∈ ds.head?, d = .char '/') :
    (cs ++ ds).takeWhile (fun c => c != .char '/' && c != .char '?' && c != .char '#') =
      cs.takeWhile fun c => c != .char '/' && c != .char '?' && c != .char '#' := by
  rw [List.takeWhile_append]
  split
  · rename_i hall
    rw [(List.takeWhile_prefix _).eq_of_length hall]
    cases ds with
    | nil => rw [List.takeWhile_nil, List.append_nil]
    | cons d ds =>
        obtain rfl : d = .char '/' := h d rfl
        rw [List.takeWhile_cons_of_neg (by decide), List.append_nil]
  · rfl

/-- The only host that a call can make where there was none is the version. -/
theorem soundHost_append {tail : List CodePoint} (htail : ∀ d ∈ tail.head?, d = .char '/')
    {k : Nat} (h : SoundHost (cs ++ slashes k)) :
    SoundHost (cs ++ .char '/' :: (letters "v1" ++ tail)) := by
  have hslashes : ∀ d ∈ (slashes k).head?, d = .char '/' := by
    intro d hd
    exact mem_slashes (List.mem_of_mem_head? hd)
  intro host hhost
  -- A host stands behind two slashes: with nothing before it the path has one, and with a
  -- slash before it there are two.
  match cs, h with
  | [], _ => cases hhost
  | [c], _ =>
      by_cases hc : c = .char '/'
      · subst hc
        have hversion : host = letters "v1" := by
          have hend : host = (letters "v1" ++ tail).takeWhile
              fun c => c != .char '/' && c != .char '?' && c != .char '#' :=
            (Option.some.inj hhost).symm
          rw [hend, takeWhile_host_append _ htail]
          rfl
        rw [hversion]
        decide
      · unfold host? at hhost
        split at hhost
        · rename_i heq
          exact absurd (List.cons.inj heq).1 hc
        · cases hhost
  | c :: d :: cs, h =>
      by_cases hroot : c = .char '/' ∧ d = .char '/'
      · obtain ⟨rfl, rfl⟩ := hroot
        refine h host ?_
        rw [← hhost]
        show some ((cs ++ slashes k).takeWhile _) =
          some ((cs ++ CodePoint.char '/' :: _).takeWhile _)
        rw [takeWhile_host_append cs hslashes, takeWhile_host_append cs (by rintro d ⟨⟩; rfl)]
      · unfold host? at hhost
        split at hhost
        · rename_i heq
          exact absurd ⟨(List.cons.inj heq).1, (List.cons.inj (List.cons.inj heq).2).1⟩ hroot
        · cases hhost

/-- A scheme is seen before the slashes at the end. -/
theorem exists_of_append_slashes {k : Nat}
    (h : cs ++ slashes k = front ++ .char ':' :: rest) :
    ∃ behind, cs = front ++ .char ':' :: behind ∧ rest = behind ++ slashes k := by
  rw [List.append_cons] at h
  rcases List.append_eq_append_iff.1 h with ⟨more, hfront, hslashes⟩ | ⟨behind, hcs, hrest⟩
  · rcases List.eq_nil_or_concat more with rfl | ⟨init, last, rfl⟩
    · refine ⟨[], ?_, ?_⟩
      · rw [List.append_nil] at hfront
        exact hfront.symm
      · rw [List.nil_append] at hslashes ⊢
        exact hslashes.symm
    · have hlast : last = .char ':' := by
        rw [List.concat_eq_append, ← List.append_assoc] at hfront
        exact (List.append_inj' hfront rfl).2 |> List.cons.inj |>.1 |>.symm
      have hslash : last = .char '/' := by
        apply mem_slashes (k := k)
        rw [hslashes]
        simp
      rw [hlast] at hslash
      cases hslash
  · exact ⟨behind, by rw [hcs, List.append_assoc]; rfl, hrest⟩

/-- A call below an address has the scheme of the address. -/
theorem scheme?_joinChars (hne : scheme ≠ []) (h : scheme? cs = some scheme)
    (parts : List (List CodePoint)) :
    scheme? (joinChars cs (letters "v1" :: parts)) = some scheme := by
  obtain ⟨front, rest, hname, hscheme, hcs, hhost⟩ := (scheme?_eq_some_iff hne).1 h
  obtain ⟨k, hk⟩ := exists_eq_trimEnd_append cs
  -- Were nothing of the base seen but its slashes, there would be no colon.
  have hvisible : ∃ c ∈ trimEnd cs, 0x20 < c.toNat := by
    by_contra hnone
    push Not at hnone
    rw [hk, cleaned_slashes hnone] at hcs
    have hcolon : CodePoint.char ':' ∈ slashes k := by
      rw [hcs]
      simp
    cases mem_slashes hcolon
  rw [hk, cleaned_append hvisible, seen_slashes] at hcs
  obtain ⟨behind, hbehind, rfl⟩ := exists_of_append_slashes hcs
  refine (scheme?_eq_some_iff hne).2
    ⟨front,
      behind ++ .char '/' :: (letters "v1" ++ seen ((segments parts).flatMap (.char '/' :: ·))),
      hname, hscheme, ?_, soundHost_append ?_ hhost⟩
  · show cleaned (trimEnd cs ++ (.char '/' :: (letters "v1" ++ _))) = _
    rw [cleaned_append hvisible, hbehind, List.append_assoc, List.cons_append]
    rfl
  · intro d hd
    cases hpath : segments parts with
    | nil =>
        rw [hpath] at hd
        cases hd
    | cons s path =>
        rw [hpath] at hd
        exact (Option.some.inj hd).symm

/--
**The judgement on an address survives joining.**  Every address of a call of a gateway
that was made is accepted, and with the scheme of the gateway's own address.  Joining in
two steps is joining at once.  Slashes at the end of a base and at the ends of parts do not
matter, and neither do parts that have nothing but slashes in them, or nothing at all.
-/
theorem urlFor_accepted_and_join_join :
    (∀ (address token timeout : Value) (g : Gateway),
      Gateway.make address token timeout = .ok g →
        address = .str g.address ∧ IsWeb g.address.toList ∧
          ∀ path, check (.str (g.urlFor path)) = .ok () ∧
            scheme? (g.urlFor path).toList = scheme? g.address.toList) ∧
    (∀ base p q, join (join base p) q = join base (p ++ q)) ∧
    (∀ base k parts, join (base ++ Text.ofList (slashes k)) parts = join base parts) ∧
    (∀ base before part i j after,
      join base (before ++ (Text.ofList (slashes i) ++ part ++ Text.ofList (slashes j)) :: after) =
        join base (before ++ part :: after)) ∧
    (∀ base before k after,
      join base (before ++ Text.ofList (slashes k) :: after) = join base (before ++ after)) := by
  refine ⟨?_, ?_, ?_, ?_, ?_⟩
  · intro address token timeout g hmake
    have hcheck : check address = .ok () ∧ g.address = address.text := by
      unfold Gateway.make at hmake
      split at hmake
      · cases hmake
      · rename_i hok
        cases hmake
        exact ⟨hok, rfl⟩
    obtain ⟨s, rfl, hweb⟩ := check_eq_ok_iff.1 hcheck.1
    obtain rfl : g.address = s := hcheck.2
    refine ⟨rfl, hweb, ?_⟩
    intro path
    obtain ⟨scheme, hscheme, hallowed⟩ := isWeb_iff.1 hweb
    have hcall : scheme? (g.urlFor path).toList = some scheme :=
      scheme?_joinChars (letters_of_mem_allowedSchemes hallowed).1 hscheme [path.toList]
    exact ⟨check_str_eq_ok_iff.2 (isWeb_iff.2 ⟨scheme, hcall, hallowed⟩), by rw [hcall, hscheme]⟩
  · intro base p q
    show Text.ofList (joinChars (joinChars _ _) _) = _
    rw [joinChars_joinChars, ← List.map_append]
    rfl
  · intro base k parts
    exact congrArg Text.ofList (joinChars_append_slashes _ _ _)
  · intro base before part i j after
    refine congrArg Text.ofList (joinChars_congr ?_ _)
    rw [List.map_append, List.map_cons, List.map_append, List.map_cons, List.append_cons,
      List.append_cons _ part.toList, segments_append, segments_append, segments_append,
      segments_append]
    rw [show segments [(Text.ofList (slashes i) ++ part ++ Text.ofList (slashes j)).toList] =
      segments [part.toList] from segments_padded part.toList i j]
  · intro base before k after
    refine congrArg Text.ofList (joinChars_congr ?_ _)
    rw [List.map_append, List.map_cons, List.map_append, List.append_cons, segments_append,
      segments_append, segments_append, segments_slashes, List.append_nil]

/--
A base with a tab behind its only slash has no host, but with a second slash behind the tab its
calls have one.  They are accepted all the same.
-/
theorem urlFor_accepted_slipperyBase :
    ∃ g, Gateway.make (.str "http:/\t") .null (.int 30) = .ok g ∧
      host? (splitScheme (cleaned g.address.toList)).2 = none ∧
      host? (splitScheme (cleaned (g.urlFor "db/list").toList)).2 = some (letters "v1") ∧
      check (.str (g.urlFor "db/list")) = .ok () := by
  have hmake : Gateway.make (.str "http:/\t") .null (.int 30) =
      .ok ⟨"http:/\t", .null, .int 30⟩ := rfl
  obtain ⟨-, -, hcalls⟩ := urlFor_accepted_and_join_join.1 _ _ _ _ hmake
  exact ⟨_, hmake, rfl, by decide, (hcalls "db/list").1⟩

end ModuleKeeper.Url
