import Mathlib.Data.List.Forall2
import PhraseFilter.Proofs.Text.Split
import PhraseFilter.Proofs.Text.Words
import PhraseFilter.Report.Column

/-!
# The cells of a text table

* `Report.words_lineText` : **the words of a line are its cells**, however wide they are, if each cell is a word;
* `Report.splitAll_lines` : the lines of a table are found again at the line feeds;
* `Report.readCell?` : reads a cell in which a dash stands for what is missing, `Report.readCell?_orDash`;
* `Report.readChoice?` : reads a cell that holds one of the texts of a list.
-/

namespace PhraseFilter.Report

open Text

/-- A line without the line feed at its end. -/
def lineText (cells : List (Nat × String)) (last : String) : List Char :=
  (String.join (cells.map fun (width, s) => padTo width s ++ " ")).toList ++ last.toList

/-! ## Lines -/

section Lines

variable {cells : List (Nat × String)} {last : String} {s : List Char}

theorem toList_line (cells : List (Nat × String)) (last : String) :
    (line cells last).toList = lineText cells last ++ ['\n'] := by
  unfold line lineText
  rw [String.toList_append, String.toList_append]
  rfl

theorem lineText_cons (width : Nat) (s : String) (cells : List (Nat × String)) (last : String) :
    lineText ((width, s) :: cells) last =
      s.toList ++ (List.replicate (width - s.length) ' ' ++ ' ' :: lineText cells last) := by
  simp [lineText, padTo]

theorem words_blanks (n : Nat) (s : List Char) : words (List.replicate n ' ' ++ s) = words s := by
  induction n with
  | zero => rfl
  | succ n ih => rw [List.replicate_succ, List.cons_append, words_cons_of_blank rfl, ih]

theorem startsBlank_blanks (n : Nat) (s : List Char) : StartsBlank (List.replicate n ' ' ++ ' ' :: s) := by
  cases n with
  | zero => exact startsBlank_cons.mpr rfl
  | succ n => exact startsBlank_cons.mpr rfl

/-- **The words of a line are its cells.** A cell that is wider than its column still has a blank after it. -/
theorem words_lineText (hcells : ∀ cell ∈ cells, IsWordText cell.2.toList) (hlast : IsWordText last.toList) :
    words (lineText cells last) = cells.map (fun cell => cell.2.toList) ++ [last.toList] := by
  induction cells with
  | nil => exact words_of_isWordText hlast
  | cons cell cells ih =>
      obtain ⟨width, s⟩ := cell
      have hs : IsWordText s.toList := hcells _ List.mem_cons_self
      have hrest := ih fun cell hcell => hcells cell (List.mem_cons_of_mem _ hcell)
      rw [lineText_cons, words_word_append hs (startsBlank_blanks _ _), words_blanks, words_cons_of_blank rfl, hrest]
      rfl

theorem not_mem_lineText (hcells : ∀ cell ∈ cells, IsWordText cell.2.toList) (hlast : IsWordText last.toList) :
    '\n' ∉ lineText cells last := by
  have hword : ∀ w : List Char, IsWordText w → '\n' ∉ w := by
    intro w hw hmem
    have hblank := hw.2 _ hmem
    cases hblank
  induction cells with
  | nil => exact hword _ hlast
  | cons cell cells ih =>
      obtain ⟨width, s⟩ := cell
      have hs := hword _ (hcells _ List.mem_cons_self)
      have hrest := ih fun cell hcell => hcells cell (List.mem_cons_of_mem _ hcell)
      rw [lineText_cons, List.mem_append, List.mem_append, List.mem_cons, List.mem_replicate]
      simp [hs, hrest]

theorem splitAll_lines (lines : List (List Char)) (h : ∀ l ∈ lines, '\n' ∉ l) :
    splitAll '\n' (lines.flatMap (· ++ ['\n'])) = lines ++ [[]] := by
  induction lines with
  | nil => rfl
  | cons l lines ih =>
      rw [List.flatMap_cons, List.append_assoc, List.singleton_append, splitAll_append_cons,
        splitAll_of_not_mem (h l List.mem_cons_self), ih fun k hk => h k (List.mem_cons_of_mem _ hk)]
      rfl

end Lines

/-! ## Cells -/

section Cells

variable {α : Type}

/-- Reads a cell in which a dash stands for what is missing. -/
def readCell? (read : List Char → Option α) (s : List Char) : Option (Option α) :=
  if s = ['-'] then some none else (read s).map some

/-- Reads a cell that holds one of the texts of a list. -/
def readChoice? (texts : List (String × α)) (s : List Char) : Option α :=
  (texts.find? fun t => t.1.toList == s).map (·.2)

theorem toList_orDash_none : (orDash none).toList = ['-'] := by decide +kernel

/-- What is missing and what is there are told apart in a cell, if a dash alone is nothing that is there. -/
theorem readCell?_orDash {read : List Char → Option α} {text : α → String} {o : Option α} (hdash : read ['-'] = none)
    (h : ∀ a ∈ o, read (text a).toList = some a) : readCell? read (orDash (o.map text)).toList = some o := by
  cases o with
  | none =>
      rw [Option.map_none, readCell?, if_pos toList_orDash_none]
  | some a =>
      have hread := h a rfl
      have hne : (text a).toList ≠ ['-'] := by
        intro heq
        rw [heq, hdash] at hread
        cases hread
      rw [Option.map_some, orDash, Option.getD_some, readCell?, if_neg hne, hread, Option.map_some]

theorem isWordText_orDash {text : α → String} {o : Option α} (h : ∀ a ∈ o, IsWordText (text a).toList) :
    IsWordText (orDash (o.map text)).toList := by
  cases o with
  | none =>
      rw [Option.map_none, toList_orDash_none]
      refine ⟨List.cons_ne_nil _ _, fun c hc => ?_⟩
      rw [List.mem_singleton.mp hc]
      decide
  | some a => exact h a rfl

end Cells

end PhraseFilter.Report
