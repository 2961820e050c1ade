/-! A line ends at a line feed. A carriage return before the line feed stays with the line: every
reader of a line drops the blanks around what it reads, and a carriage return is one of them. For
the same reason the empty line after a final line feed is harmless. -/

namespace Symbolication.Text

/-- The lines of a text, without their line feeds. -/
def lines (cs : List Char) : List (List Char) := cs.splitOn '\n'

/-- The lines of a text with their numbers, counted from 1. -/
def numberedLines (cs : List Char) : List (List Char × Nat) := (lines cs).zipIdx 1

/-- The semicolon-separated fields of a line. -/
def fields (cs : List Char) : List (List Char) := cs.splitOn ';'

/-- A list starts with a piece, which the first mark ends or the list itself. -/
theorem exists_first_piece {α : Type} (x : α) (xs : List α) :
    ∃ first, x ∉ first ∧ (xs = first ∨ ∃ rest, xs = first ++ x :: rest) := by
  by_cases hx : x ∈ xs
  · obtain ⟨first, rest, hxs, hfirst⟩ := List.eq_append_cons_of_mem hx
    exact ⟨first, hfirst, .inr ⟨rest, hxs⟩⟩
  · exact ⟨xs, hx, .inl rfl⟩

theorem exists_last_piece {α : Type} (x : α) (xs : List α) :
    ∃ last, x ∉ last ∧ (xs = last ∨ ∃ rest, xs = rest ++ x :: last) := by
  obtain ⟨first, hfirst, hxs⟩ := exists_first_piece x xs.reverse
  refine ⟨first.reverse, by simpa using hfirst, ?_⟩
  rcases hxs with hxs | ⟨rest, hxs⟩
  · exact .inl (List.reverse_eq_iff.mp hxs)
  · exact .inr ⟨rest.reverse, by simpa using List.reverse_eq_iff.mp hxs⟩

section Pieces

variable {α : Type} [BEq α] [LawfulBEq α] {x : α} {xs piece : List α}

/-- A piece of a longer list is a piece of the rest, or the first one with one more entry. -/
theorem mem_splitOn_cons {y : α} (h : piece ∈ (y :: xs).splitOn x) :
    piece = [] ∨ piece ∈ xs.splitOn x ∨ y ≠ x ∧ ∃ first ∈ xs.splitOn x, piece = y :: first := by
  rw [List.splitOn_cons_eq_if_modifyHead] at h
  split at h
  · rcases List.mem_cons.mp h with rfl | h
    · exact .inl rfl
    · exact .inr (.inl h)
  · next hy =>
    obtain ⟨first, more, hsplit⟩ := List.exists_cons_of_ne_nil (List.splitOn_ne_nil x xs)
    rw [hsplit, List.modifyHead_cons, List.mem_cons] at h
    rw [hsplit]
    rcases h with rfl | h
    · exact .inr (.inr ⟨by simpa using hy, first, List.mem_cons_self, rfl⟩)
    · exact .inr (.inl (List.mem_cons_of_mem first h))

theorem notMem_of_mem_splitOn (h : piece ∈ xs.splitOn x) : x ∉ piece := by
  induction xs generalizing piece with
  | nil => simp_all
  | cons y ys ih =>
    rcases mem_splitOn_cons h with rfl | h | ⟨hy, first, hfirst, rfl⟩
    · exact List.not_mem_nil
    · exact ih h
    · intro hx
      rcases List.mem_cons.mp hx with rfl | hx
      · exact hy rfl
      · exact ih hfirst hx

/-- What a list is cut into is part of it. -/
theorem subset_of_mem_splitOn (h : piece ∈ xs.splitOn x) : piece ⊆ xs := by
  induction xs generalizing piece with
  | nil => simp_all
  | cons y ys ih =>
    rcases mem_splitOn_cons h with rfl | h | ⟨-, first, hfirst, rfl⟩
    · exact List.nil_subset _
    · exact List.subset_cons_of_subset y (ih h)
    · exact List.cons_subset_cons y (ih hfirst)

/-- What is put in between two lists, and holds no mark, comes into one piece of the whole: between
the last piece of the first list and the first piece of the second. -/
theorem exists_splitOn_append_append (x : α) (before after : List α) :
    ∃ above last first below, last <:+ before ∧ first <+: after ∧ x ∉ last ∧ x ∉ first ∧
      ∀ middle, x ∉ middle →
        (before ++ middle ++ after).splitOn x = above ++ (last ++ middle ++ first) :: below := by
  obtain ⟨last, hlast, hbefore⟩ := exists_last_piece x before
  obtain ⟨first, hfirst, hafter⟩ := exists_first_piece x after
  have hpiece {middle : List α} (hmiddle : x ∉ middle) : x ∉ last ++ middle ++ first := by
    simp [hlast, hmiddle, hfirst]
  -- The pieces above and below are the same, whatever is put in.
  obtain ⟨below, hbelow⟩ : ∃ below, ∀ middle, x ∉ middle →
      (last ++ middle ++ after).splitOn x = (last ++ middle ++ first) :: below := by
    rcases hafter with rfl | ⟨rest, rfl⟩
    · exact ⟨[], fun middle hmiddle => List.splitOn_eq_singleton (hpiece hmiddle)⟩
    · refine ⟨rest.splitOn x, fun middle hmiddle => ?_⟩
      rw [← List.splitOn_append_cons_self_of_not_mem (hpiece hmiddle)]
      simp only [List.append_assoc]
  have hprefix : first <+: after := by
    rcases hafter with rfl | ⟨rest, rfl⟩
    · exact List.prefix_refl _
    · exact List.prefix_append _ _
  rcases hbefore with rfl | ⟨rest, rfl⟩
  · exact ⟨[], before, first, below, List.suffix_refl _, hprefix, hlast, hfirst, hbelow⟩
  · refine ⟨rest.splitOn x, last, first, below, ?_, hprefix, hlast, hfirst,
      fun middle hmiddle => ?_⟩
    · exact (List.suffix_cons x last).trans (List.suffix_append _ _)
    · rw [← hbelow middle hmiddle, ← List.splitOn_append_cons_self]
      simp only [List.append_assoc, List.cons_append]

end Pieces

/-- A line feed between two texts parts their lines. -/
theorem lines_append (cs ds : List Char) : lines (cs ++ '\n' :: ds) = lines cs ++ lines ds :=
  List.splitOn_append_cons_self cs ds

/-- Whole lines, each with its line end, are the lines of the text that they make up. -/
theorem lines_flatMap {css : List (List Char)} (h : ∀ cs ∈ css, '\n' ∉ cs) :
    lines (css.flatMap (· ++ ['\n'])) = css ++ [[]] := by
  induction css with
  | nil => rfl
  | cons cs css ih =>
    have hcons : (cs :: css).flatMap (· ++ ['\n']) = cs ++ '\n' :: css.flatMap (· ++ ['\n']) := by
      simp
    rw [lines] at ih ⊢
    rw [hcons, List.splitOn_append_cons_self_of_not_mem (h cs List.mem_cons_self),
      ih fun ds hds => h ds (List.mem_cons_of_mem _ hds), List.cons_append]

end Symbolication.Text
