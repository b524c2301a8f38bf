import Northstar64.Types
import Northstar64.Library.Lines

namespace Northstar64

def newline : Byte := 0x0a#8

def getline (input : Text) : Option (Text × Text) := Lines.next newline input

structure TraceDifference where
  line : Nat
  left : Text
  right : Text
  deriving DecidableEq, Repr

def compareFrom (lineNumber : Nat) (left right : Text) : Option TraceDifference :=
  match hleft : getline left, getline right with
  | none, none => none
  | some (leftLine, leftRest), some (rightLine, rightRest) =>
    if leftLine ≠ rightLine then some ⟨lineNumber + 1, leftLine, rightLine⟩
    else compareFrom (lineNumber + 1) leftRest rightRest
  | some (leftLine, _), none => some ⟨lineNumber + 1, leftLine, text "<end-of-file>"⟩
  | none, some (rightLine, _) => some ⟨lineNumber + 1, text "<end-of-file>", rightLine⟩
termination_by left.length
decreasing_by exact Lines.next_length hleft

def compareTraceFiles (left right : Text) : Option TraceDifference := compareFrom 0 left right

section Equations
variable {n : Nat} {left right leftLine rightLine leftRest rightRest : Text}

theorem compareFrom_eq (n : Nat) (left right : Text) :
    compareFrom n left right =
      match getline left, getline right with
      | none, none => none
      | some (leftLine, leftRest), some (rightLine, rightRest) =>
        if leftLine ≠ rightLine then some ⟨n + 1, leftLine, rightLine⟩
        else compareFrom (n + 1) leftRest rightRest
      | some (leftLine, _), none => some ⟨n + 1, leftLine, text "<end-of-file>"⟩
      | none, some (rightLine, _) => some ⟨n + 1, text "<end-of-file>", rightLine⟩ := by
  rw [compareFrom]
  split <;> simp only [*]

theorem compareFrom_nil (n : Nat) : compareFrom n [] [] = none := compareFrom_eq n [] []

theorem compareFrom_lines (hleft : getline left = some (leftLine, leftRest))
    (hright : getline right = some (rightLine, rightRest)) :
    compareFrom n left right =
      if leftLine ≠ rightLine then some ⟨n + 1, leftLine, rightLine⟩
      else compareFrom (n + 1) leftRest rightRest := by
  rw [compareFrom_eq, hleft, hright]

theorem compareFrom_left_only (h : left ≠ []) :
    compareFrom n left [] =
      some ⟨n + 1, left.takeWhile (· ≠ newline), text "<end-of-file>"⟩ := by
  have hleft : getline left = some _ := Lines.next_of_ne_nil h
  rw [compareFrom_eq, hleft]
  rfl

theorem compareFrom_right_only (h : right ≠ []) :
    compareFrom n [] right =
      some ⟨n + 1, text "<end-of-file>", right.takeWhile (· ≠ newline)⟩ := by
  have hright : getline right = some _ := Lines.next_of_ne_nil h
  rw [compareFrom_eq, hright]
  rfl

end Equations

def agreedLines (left right : Text) : Nat := (Lines.commonPrefix left right).count newline

structure ComparesBytes (n : Nat) (left right : Text) : Prop where
  none_iff : compareFrom n left right = none ↔ left = right
  line : left ≠ right → ∃ difference, compareFrom n left right = some difference ∧
    difference.line = n + agreedLines left right + 1

def HidesNewline (short long : Text) : Prop :=
  short ≠ [] ∧ short.getLast? ≠ some newline ∧ short ++ [newline] <+: long

section Compare
variable {n : Nat} {left right line rest : Text}

theorem ComparesBytes.of_difference {difference : TraceDifference} (hne : left ≠ right)
    (hcompare : compareFrom n left right = some difference)
    (hline : difference.line = n + agreedLines left right + 1) : ComparesBytes n left right where
  none_iff := by
    rw [hcompare]
    exact iff_of_false (by simp) hne
  line := fun _ => ⟨difference, hcompare, hline⟩

theorem not_hidesNewline_nil_left : ¬ HidesNewline [] right := fun h => h.1 rfl

theorem not_hidesNewline_nil_right : ¬ HidesNewline left [] := by
  rintro ⟨-, -, hprefix⟩
  exact List.append_ne_nil_of_right_ne_nil left (List.cons_ne_nil _ _)
    (List.prefix_nil.mp hprefix)

theorem getLast?_ne_newline (h : newline ∉ line) : line.getLast? ≠ some newline :=
  fun hlast => h (List.mem_of_getLast? hlast)

theorem hidesNewline_cons_line :
    HidesNewline (line ++ newline :: left) (line ++ newline :: right) ↔ HidesNewline left right := by
  have hsplit (tail : Text) : line ++ newline :: tail = (line ++ [newline]) ++ tail := by simp
  rw [hsplit left, hsplit right]
  unfold HidesNewline
  rw [List.append_assoc _ left, List.prefix_append_right_inj]
  cases left with
  | nil => simp
  | cons x xs => simp [List.getLast?_append]

theorem agreedLines_cons_line (hline : newline ∉ line) :
    agreedLines (line ++ newline :: left) (line ++ newline :: right) = agreedLines left right + 1 := by
  have hsplit (tail : Text) : line ++ newline :: tail = (line ++ [newline]) ++ tail := by simp
  rw [agreedLines, hsplit left, hsplit right, Lines.commonPrefix_append, List.count_append, List.count_append,
    List.count_eq_zero_of_not_mem hline, List.count_singleton_self, agreedLines]
  omega

theorem agreedLines_eq_zero (h : newline ∉ left) : agreedLines left right = 0 :=
  List.count_eq_zero_of_not_mem (fun hmem =>
    h ((Lines.commonPrefix_prefix_left left right).subset hmem))

theorem agreedLines_comm : agreedLines left right = agreedLines right left := by
  rw [agreedLines, Lines.commonPrefix_comm, agreedLines]

theorem hidesNewline_unterminated (hne : line ≠ []) (hline : newline ∉ line) :
    HidesNewline line (line ++ newline :: rest) :=
  ⟨hne, getLast?_ne_newline hline, by
    rw [show line ++ newline :: rest = (line ++ [newline]) ++ rest by simp]
    exact List.prefix_append _ _⟩

theorem not_comparesBytes_unterminated (hne : line ≠ []) (hline : newline ∉ line) :
    ¬ ComparesBytes n line (line ++ newline :: rest) := by
  intro h
  have hdiffer : line ≠ line ++ newline :: rest := by simp
  obtain ⟨difference, hcompare, hnumber⟩ := h.line hdiffer
  rw [compareFrom_lines (Lines.next_unterminated hline hne) (Lines.next_terminated hline rest),
    if_neg (by simp)] at hcompare
  rw [agreedLines_eq_zero hline] at hnumber
  by_cases hrest : rest = []
  · rw [hrest, compareFrom_nil] at hcompare
    cases hcompare
  · rw [compareFrom_right_only hrest] at hcompare
    cases hcompare
    simp at hnumber

theorem not_comparesBytes_terminated (hne : line ≠ []) (hline : newline ∉ line) :
    ¬ ComparesBytes n (line ++ newline :: rest) line := by
  intro h
  have hdiffer : line ++ newline :: rest ≠ line := by simp
  obtain ⟨difference, hcompare, hnumber⟩ := h.line hdiffer
  rw [compareFrom_lines (Lines.next_terminated hline rest) (Lines.next_unterminated hline hne),
    if_neg (by simp)] at hcompare
  rw [agreedLines_comm, agreedLines_eq_zero hline] at hnumber
  by_cases hrest : rest = []
  · rw [hrest, compareFrom_nil] at hcompare
    cases hcompare
  · rw [compareFrom_left_only hrest] at hcompare
    cases hcompare
    simp at hnumber

theorem getline_spec (h : getline left = some (line, rest)) :
    newline ∉ line ∧
      (left = line ++ newline :: rest ∨ (left = line ∧ line ≠ [] ∧ rest = [])) := by
  rcases Lines.first_line_cases newline left with rfl | ⟨hne, hmem⟩ | ⟨l, tail, hmem, rfl⟩
  · cases h
  · obtain ⟨rfl, rfl⟩ := Prod.mk.inj (Option.some.inj ((Lines.next_unterminated hmem hne).symm.trans h))
    exact ⟨hmem, .inr ⟨rfl, hne, rfl⟩⟩
  · obtain ⟨rfl, rfl⟩ := Prod.mk.inj (Option.some.inj ((Lines.next_terminated hmem tail).symm.trans h))
    exact ⟨hmem, .inl rfl⟩

theorem getline_of_prefix {tail : Text} (hline : newline ∉ line)
    (h : line ++ newline :: tail <+: left) : ∃ rest, getline left = some (line, rest) := by
  obtain ⟨more, rfl⟩ := h
  rw [List.append_assoc, List.cons_append]
  exact ⟨_, Lines.next_terminated hline _⟩

section FirstLinesDiffer
variable {leftLine rightLine leftRest rightRest : Text}

theorem agreedLines_of_lines_ne (hleft : getline left = some (leftLine, leftRest))
    (hright : getline right = some (rightLine, rightRest)) (hne : leftLine ≠ rightLine) :
    agreedLines left right = 0 := by
  refine List.count_eq_zero_of_not_mem (fun hmem => hne ?_)
  obtain ⟨line, tail, heq, hline⟩ := List.eq_append_cons_of_mem hmem
  have hprefixLeft := Lines.commonPrefix_prefix_left left right
  have hprefixRight := Lines.commonPrefix_prefix_left right left
  rw [Lines.commonPrefix_comm] at hprefixRight
  rw [heq] at hprefixLeft hprefixRight
  obtain ⟨_, hleft'⟩ := getline_of_prefix hline hprefixLeft
  obtain ⟨_, hright'⟩ := getline_of_prefix hline hprefixRight
  rw [hleft] at hleft'
  rw [hright] at hright'
  cases hleft'
  cases hright'
  rfl

theorem not_hidesNewline_of_lines_ne (hleft : getline left = some (leftLine, leftRest))
    (hright : getline right = some (rightLine, rightRest)) (hne : leftLine ≠ rightLine) :
    ¬ HidesNewline left right := by
  rintro ⟨-, -, hprefix⟩
  obtain ⟨hline, hshape⟩ := getline_spec hleft
  have hfirst : ∃ tail, left ++ [newline] = leftLine ++ newline :: tail := by
    rcases hshape with rfl | ⟨rfl, -, -⟩
    · exact ⟨leftRest ++ [newline], by simp⟩
    · exact ⟨[], rfl⟩
  obtain ⟨tail, htail⟩ := hfirst
  rw [htail] at hprefix
  obtain ⟨_, hright'⟩ := getline_of_prefix hline hprefix
  rw [hright] at hright'
  cases hright'
  exact hne rfl

end FirstLinesDiffer

theorem comparesBytes_cons_line (hline : newline ∉ line) :
    ComparesBytes n (line ++ newline :: left) (line ++ newline :: right) ↔
      ComparesBytes (n + 1) left right := by
  have hcompare : compareFrom n (line ++ newline :: left) (line ++ newline :: right) =
      compareFrom (n + 1) left right := by
    rw [compareFrom_lines (Lines.next_terminated hline left) (Lines.next_terminated hline right),
      if_neg (by simp)]
  have hagreed : n + agreedLines (line ++ newline :: left) (line ++ newline :: right) + 1 =
      n + 1 + agreedLines left right + 1 := by
    rw [agreedLines_cons_line hline]
    omega
  have hequal : line ++ newline :: left = line ++ newline :: right ↔ left = right := by simp
  constructor
  · intro h
    refine ⟨by rw [← hcompare, h.none_iff, hequal], fun hne => ?_⟩
    have hdifference := h.line (fun heq => hne (hequal.mp heq))
    rwa [hcompare, hagreed] at hdifference
  · intro h
    refine ⟨by rw [hcompare, h.none_iff, hequal], fun hne => ?_⟩
    rw [hcompare, hagreed]
    exact h.line (fun heq => hne (hequal.mpr heq))

theorem comparesBytes_same_unterminated (hne : line ≠ []) (hline : newline ∉ line) :
    ComparesBytes n line line where
  none_iff := by
    rw [compareFrom_lines (Lines.next_unterminated hline hne) (Lines.next_unterminated hline hne),
      if_neg (by simp), compareFrom_nil]
    exact iff_of_true rfl rfl
  line := fun h => absurd rfl h

theorem not_hidesNewline_self : ¬ HidesNewline left left := by
  rintro ⟨-, -, hprefix⟩
  have hlength := hprefix.length_le
  simp at hlength

theorem comparesBytes_iff (n : Nat) (left right : Text) :
    ComparesBytes n left right ↔ ¬ (HidesNewline left right ∨ HidesNewline right left) := by
  induction hlength : left.length using Nat.strong_induction_on generalizing n left right with
  | _ length ih =>
    by_cases hleft : left = []
    · subst hleft
      have hhidden : ¬ (HidesNewline [] right ∨ HidesNewline right []) :=
        not_or.mpr ⟨not_hidesNewline_nil_left, not_hidesNewline_nil_right⟩
      refine iff_of_true ?_ hhidden
      by_cases hright : right = []
      · subst hright
        exact ⟨iff_of_true (compareFrom_nil n) rfl, fun h => absurd rfl h⟩
      · exact .of_difference (Ne.symm hright) (compareFrom_right_only hright)
          (by rw [agreedLines_eq_zero List.not_mem_nil])
    · by_cases hright : right = []
      · subst hright
        have hhidden : ¬ (HidesNewline left [] ∨ HidesNewline [] left) :=
          not_or.mpr ⟨not_hidesNewline_nil_right, not_hidesNewline_nil_left⟩
        refine iff_of_true ?_ hhidden
        exact .of_difference hleft (compareFrom_left_only hleft)
          (by rw [agreedLines_comm, agreedLines_eq_zero List.not_mem_nil])
      · obtain ⟨⟨leftLine, leftRest⟩, hgetLeft⟩ : ∃ first, getline left = some first :=
          ⟨_, Lines.next_of_ne_nil hleft⟩
        obtain ⟨⟨rightLine, rightRest⟩, hgetRight⟩ : ∃ first, getline right = some first :=
          ⟨_, Lines.next_of_ne_nil hright⟩
        by_cases hlines : leftLine = rightLine
        · subst hlines
          obtain ⟨hline, rfl | ⟨rfl, hne, -⟩⟩ := getline_spec hgetLeft
          · obtain ⟨-, rfl | ⟨rfl, hne, -⟩⟩ := getline_spec hgetRight
            · rw [comparesBytes_cons_line hline, hidesNewline_cons_line, hidesNewline_cons_line]
              exact ih _ (by rw [← hlength, List.length_append, List.length_cons]; omega) _ _ _ rfl
            · exact iff_of_false (not_comparesBytes_terminated hne hline)
                (not_not_intro (.inr (hidesNewline_unterminated hne hline)))
          · obtain ⟨-, rfl | ⟨rfl, -, -⟩⟩ := getline_spec hgetRight
            · exact iff_of_false (not_comparesBytes_unterminated hne hline)
                (not_not_intro (.inl (hidesNewline_unterminated hne hline)))
            · exact iff_of_true (comparesBytes_same_unterminated hne hline)
                (not_or.mpr ⟨not_hidesNewline_self, not_hidesNewline_self⟩)
        · have hhidden : ¬ (HidesNewline left right ∨ HidesNewline right left) :=
            not_or.mpr ⟨not_hidesNewline_of_lines_ne hgetLeft hgetRight hlines,
              not_hidesNewline_of_lines_ne hgetRight hgetLeft (Ne.symm hlines)⟩
          refine iff_of_true ?_ hhidden
          refine .of_difference ?_
            ((compareFrom_lines hgetLeft hgetRight).trans (if_pos hlines))
            (by rw [agreedLines_of_lines_ne hgetLeft hgetRight hlines])
          rintro rfl
          rw [hgetLeft] at hgetRight
          cases hgetRight
          exact hlines rfl

end Compare

structure VerifiesBytes (left right : Text) : Prop where
  identical : compareTraceFiles left right = none ↔ left = right
  line : left ≠ right → ∃ difference, compareTraceFiles left right = some difference ∧
    difference.line = agreedLines left right + 1

theorem verifiesBytes_iff_comparesBytes {left right : Text} :
    VerifiesBytes left right ↔ ComparesBytes 0 left right := by
  constructor
  · intro h
    refine ⟨h.identical, ?_⟩
    rw [Nat.zero_add]
    exact h.line
  · intro h
    refine ⟨h.none_iff, ?_⟩
    have hline := h.line
    rw [Nat.zero_add] at hline
    exact hline

theorem verify_trace_is_byte_equality_iff (left right : Text) :
    VerifiesBytes left right ↔ ¬ (HidesNewline left right ∨ HidesNewline right left) :=
  verifiesBytes_iff_comparesBytes.trans (comparesBytes_iff 0 left right)

theorem missing_final_newline_goes_unseen : ¬ VerifiesBytes [0x61#8] [0x61#8, newline] := by
  rw [verifiesBytes_iff_comparesBytes]
  have hmissing (n : Nat) : ¬ ComparesBytes n [0x61#8] ([0x61#8] ++ newline :: []) :=
    not_comparesBytes_unterminated (by decide) (by decide)
  exact hmissing 0

end Northstar64
