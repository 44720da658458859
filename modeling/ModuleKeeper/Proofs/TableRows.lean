import Mathlib.Data.List.DropRight
import Mathlib.Data.List.Forall2
import Mathlib.Order.Bounds.Basic
import ModuleKeeper.Table
import ModuleKeeper.Text.Blank

/-!
# Rows read back from a table

A table of modules is padded to one width, which the dashes below the first
title show again.  So a reader who has only the lines can cut each of them where
the columns are, and what is cut off the first column is padding, unless the
name itself ends with a blank.

## Main results

* `isGreatest_width`: the width is that of the longest text in the column.
* `shows_line`: where the two texts of a line stand.
* `readRows_lines`: the lines of a table tell its rows.
* `lines_aligned_and_readable`: all of it for every list of modules.
-/

namespace ModuleKeeper.Table

open ModuleKeeper.Text

/-- What a line shows: the texts of its two columns. -/
abbrev Row := List CodePoint × List CodePoint

/-- What a table shows of a module: its name and its dependencies in one text. -/
def row (m : Module) : Row := (m.name.toList, dependencyText m)

/-- A run of blanks. -/
def blanks (k : Nat) : List CodePoint := List.replicate k (.char ' ')

theorem blanks_add (i j : Nat) : blanks (i + j) = blanks i ++ blanks j :=
  List.replicate_append_replicate.symm

/-! ## The width -/

theorem foldl_max_mem (ms : List Module) (w : Nat) :
    ms.foldl (fun w m => max w m.name.toList.length) w = w ∨
      ∃ m ∈ ms, ms.foldl (fun w m => max w m.name.toList.length) w = m.name.toList.length := by
  induction ms generalizing w with
  | nil => exact .inl rfl
  | cons x xs ih =>
      rw [List.foldl_cons]
      rcases ih (max w x.name.toList.length) with hstart | ⟨m, hm, hlength⟩
      · rcases Nat.le_total x.name.toList.length w with hx | hx
        · exact .inl (by rw [hstart, Nat.max_eq_left hx])
        · exact .inr ⟨x, by simp, by rw [hstart, Nat.max_eq_right hx]⟩
      · exact .inr ⟨m, List.mem_cons_of_mem _ hm, hlength⟩

/-- No title and no name is wider than the first column, and one of them is as wide. -/
theorem isGreatest_width (ms : List Module) :
    IsGreatest {n | n = 3 ∨ ∃ m ∈ ms, n = m.name.toList.length} (width ms) := by
  constructor
  · exact foldl_max_mem ms titles.1.length
  · rintro n (rfl | ⟨m, hm, rfl⟩)
    · exact (le_foldl_max ms titles.1.length).1
    · exact le_width hm

/-! ## Where the columns are -/

/--
A line shows a row with a first column of width `w`: the first text starts behind two
blanks and the second one at the code point `4 + w`, and what stands elsewhere before it
is blank.
-/
structure Shows (w : Nat) (r : Row) (l : List CodePoint) : Prop where
  fits : r.1.length ≤ w
  first : (l.drop 2).take r.1.length = r.1
  blank : ∀ i < 4 + w, i < 2 ∨ 2 + r.1.length ≤ i → l[i]? = some (.char ' ')
  second : l.drop (4 + w) = r.2

theorem line_eq (w : Nat) (first second : List CodePoint) :
    line w first second = blanks 2 ++ (first ++ (blanks (w - first.length + 2) ++ second)) := by
  rw [blanks_add, List.append_assoc (blanks _), ← List.append_assoc first]
  exact congrArg (.char ' ' :: .char ' ' :: ·) (List.append_assoc _ (blanks 2) second)

theorem shows_line {w : Nat} {first : List CodePoint} (h : first.length ≤ w)
    (second : List CodePoint) : Shows w (first, second) (line w first second) where
  fits := h
  first := by
    rw [line_eq, List.drop_left' (by rfl), List.take_left]
  blank := by
    intro i hi hplace
    rw [line_eq]
    rcases hplace with hfront | hgap
    · rw [List.getElem?_append_left (by simpa [blanks] using hfront), blanks,
        List.getElem?_replicate, if_pos hfront]
    · have hlength : (blanks 2).length = 2 := rfl
      dsimp only at hgap
      rw [List.getElem?_append_right (by omega), List.getElem?_append_right (by omega), hlength,
        List.getElem?_append_left (by simp [blanks]; omega), blanks, List.getElem?_replicate,
        if_pos (by omega)]
  second := by
    have hlength : (blanks 2 ++ (first ++ blanks (w - first.length + 2))).length = 4 + w := by
      simp [blanks]
      omega
    rw [line_eq, ← List.append_assoc first, ← List.append_assoc, List.drop_left' hlength]

/-! ## Reading a table -/

/-- The width of the first column, as the dashes below its title show it. -/
def shownWidth (table : List (List CodePoint)) : Nat :=
  (((table.getD 1 []).drop 2).takeWhile (· = .char '-')).length

/-- What a line shows with a first column of width `w`, if its name does not end with a blank. -/
def readLine (w : Nat) (l : List CodePoint) : Row :=
  (trimEndBy (· = .char ' ') ((l.drop 2).take w), l.drop (4 + w))

/-- The rows that the lines of a table show below its header. -/
def readRows (table : List (List CodePoint)) : List Row :=
  (table.drop 2).map (readLine (shownWidth table))

theorem trimEndBy_append_blanks {cs : List CodePoint} (h : cs.getLast? ≠ some (.char ' '))
    (k : Nat) : trimEndBy (· = .char ' ') (cs ++ blanks k) = cs := by
  induction k with
  | zero =>
      rw [blanks, List.replicate_zero, List.append_nil]
      refine List.rdropWhile_eq_self_iff.2 fun hne hblank => h ?_
      rw [List.getLast?_eq_some_getLast hne]
      exact congrArg some (of_decide_eq_true hblank)
  | succ k ih =>
      rw [blanks, List.replicate_succ', ← List.append_assoc]
      show ((cs ++ blanks k) ++ [CodePoint.char ' ']).rdropWhile (· = .char ' ') = _
      rw [List.rdropWhile_concat_pos _ _ _ (by decide)]
      exact ih

theorem readLine_line {w : Nat} {first : List CodePoint} (hfits : first.length ≤ w)
    (hend : first.getLast? ≠ some (.char ' ')) (second : List CodePoint) :
    readLine w (line w first second) = (first, second) := by
  have hsecond := (shows_line hfits second).second
  have hfirst : ((line w first second).drop 2).take w = first ++ blanks (w - first.length) := by
    rw [line_eq, List.drop_left' (by rfl), blanks_add, List.append_assoc,
      ← List.append_assoc first]
    exact List.take_left' (by simp [blanks]; omega)
  rw [readLine, hsecond, hfirst, trimEndBy_append_blanks hend]

/-- The dashes end where the first column does, because two blanks follow. -/
theorem shownWidth_lines (ms : List Module) : shownWidth (lines ms) = width ms := by
  show (((line (width ms) (List.replicate (width ms) _) _).drop 2).takeWhile _).length = _
  rw [line_eq, List.drop_left' (by rfl), List.takeWhile_append_of_pos (by simp),
    List.length_append, List.length_replicate, Nat.sub_self]
  rfl

/-- The lines of a table tell its rows, if no name ends with a blank. -/
theorem readRows_lines {ms : List Module}
    (h : ∀ m ∈ ms, m.name.toList.getLast? ≠ some (.char ' ')) :
    readRows (lines ms) = ms.map row := by
  rw [readRows, shownWidth_lines]
  show (ms.map _).map _ = _
  rw [List.map_map]
  refine List.map_congr_left fun m hm => ?_
  exact readLine_line (le_width hm) (h m hm) (dependencyText m)

/--
**Tables are aligned and can be read back.**  A table has two lines of header and then a
line for each module, in order.  There is one width, three or the length of the longest
name, so that in all of these lines the second column starts at the same code point.
Where no name ends with a blank, the lines tell every name and every text of
dependencies, so that lists which differ in one of them have different tables.
-/
theorem lines_aligned_and_readable :
    (∀ ms, ∃ w, IsGreatest {n | n = 3 ∨ ∃ m ∈ ms, n = m.name.toList.length} w ∧
      List.Forall₂ (Shows w)
        (titles :: (List.replicate w (.char '-'), List.replicate 8 (.char '-')) :: ms.map row)
        (lines ms)) ∧
    (∀ ms : List Module, (∀ m ∈ ms, m.name.toList.getLast? ≠ some (.char ' ')) →
      readRows (lines ms) = ms.map row) ∧
    ∀ ms ns : List Module, (∀ m ∈ ms, m.name.toList.getLast? ≠ some (.char ' ')) →
      (∀ n ∈ ns, n.name.toList.getLast? ≠ some (.char ' ')) →
      ms.map row ≠ ns.map row → lines ms ≠ lines ns := by
  refine ⟨fun ms => ⟨width ms, isGreatest_width ms, ?_⟩, fun ms => readRows_lines, ?_⟩
  · have htitle : titles.1.length ≤ width ms := (le_foldl_max ms titles.1.length).1
    refine .cons (shows_line htitle _) (.cons (shows_line (by simp) _) ?_)
    rw [List.forall₂_map_left_iff, List.forall₂_map_right_iff, List.forall₂_same]
    exact fun m hm => shows_line (le_width hm) _
  · intro ms ns hms hns hdiffer hsame
    apply hdiffer
    rw [← readRows_lines hms, ← readRows_lines hns, hsame]

/--
A name that is wider than its title, one that starts with a blank and holds another, and one
that is shorter than its title, before an empty text and texts with commas in them.
-/
theorem lines_aligned_and_readable_threeNames :
    readRows (lines [⟨"warehouse", ["stock, units", "x"]⟩, ⟨" a  b", []⟩, ⟨"仓", ["  "]⟩]) =
        [(letters "warehouse", letters "stock, units, x"), (letters " a  b", []),
          (letters "仓", letters "  ")] ∧
      lines [⟨"仓", []⟩] ≠ lines [⟨"仓", [" "]⟩] := by
  obtain ⟨-, hread, hdiffer⟩ := lines_aligned_and_readable
  refine ⟨?_, hdiffer _ _ (by decide) (by decide) (by decide)⟩
  exact hread [⟨"warehouse", ["stock, units", "x"]⟩, ⟨" a  b", []⟩, ⟨"仓", ["  "]⟩] (by decide)

-- A blank at the end of a name cannot be told from the padding.
example : lines [⟨"a", []⟩] = lines [⟨"a ", []⟩] := by decide

end ModuleKeeper.Table
