/-
The fields of a line.

A line is trimmed, cut at its separators, and each piece is trimmed again.
Where the separator is itself white space, the first trimming takes
separators away with it, so the fields are not the trimmed pieces of the
line as it stands: they are these pieces without the empty ones at the two
ends (`fields_eq`). White space around a piece therefore never matters, and
neither do separators before the first or behind the last piece that shows
something. A further piece behind a line only adds fields
(`fields_isPrefix`).
-/
import EarthBins.Text.Blank
import Mathlib.Data.List.DropRight
import Mathlib.Data.List.Infix

namespace EarthBins.Text

variable {c separator : Char} {cs ds : List Char}

-- ============================================================= trimming

theorem trim_eq (cs : List Char) :
    trim cs = (cs.dropWhile isBlank).rdropWhile isBlank :=
  rfl

/-- White space in front does not matter. -/
theorem trim_cons_of_blank (h : isBlank c = true) :
    trim (c :: cs) = trim cs := by
  rw [trim_eq, List.dropWhile_cons_of_pos h, trim_eq]

/-- White space behind does not matter. -/
theorem trim_concat_of_blank (h : isBlank c = true) :
    trim (cs ++ [c]) = trim cs := by
  rw [trim_eq, trim_eq, List.dropWhile_append]
  split
  · rename_i empty
    rw [List.isEmpty_iff.mp empty, List.dropWhile_cons_of_pos h]
    rfl
  · rw [List.rdropWhile_concat_pos _ _ _ h]

/-- A character that is not white space shows. -/
theorem trim_ne_nil_of_mem (hc : c ∈ cs) (h : isBlank c = false) :
    trim cs ≠ [] := by
  rw [trim_eq, ne_eq, List.rdropWhile_eq_nil_iff]
  intro blank
  rw [← List.takeWhile_append_dropWhile (p := isBlank) (l := cs),
    List.mem_append] at hc
  have shown : isBlank c = true :=
    hc.elim List.mem_takeWhile_imp (blank c)
  rw [h] at shown
  cases shown

/-- A trimmed text that is not empty begins with what is not white
space. -/
theorem isBlank_of_trim_eq_cons (h : trim cs = c :: ds) :
    isBlank c = false := by
  have front : c :: ds <+: cs.dropWhile isBlank :=
    h ▸ List.rdropWhile_prefix isBlank _
  obtain ⟨behind, whole⟩ := front
  have first := List.head?_dropWhile_not isBlank cs
  rw [← whole] at first
  exact first

-- ============================================================== cutting

theorem splitOn_ne_nil (separator : Char) (cs : List Char) :
    splitOn separator cs ≠ [] := by
  cases cs with
  | nil => exact List.cons_ne_nil _ _
  | cons c cs =>
      rw [splitOn]
      split
      · exact List.cons_ne_nil _ _
      · split
        · exact List.cons_ne_nil _ _
        · exact List.cons_ne_nil _ _

theorem splitOn_cons_self (separator : Char) (cs : List Char) :
    splitOn separator (separator :: cs) = [] :: splitOn separator cs :=
  if_pos rfl

/-- A character other than the separator goes to the first piece. -/
theorem splitOn_cons_of_ne (h : c ≠ separator) (cs : List Char) :
    ∃ piece pieces, splitOn separator cs = piece :: pieces
      ∧ splitOn separator (c :: cs) = (c :: piece) :: pieces := by
  obtain ⟨piece, pieces, same⟩ :=
    List.exists_cons_of_ne_nil (splitOn_ne_nil separator cs)
  refine ⟨piece, pieces, same, ?_⟩
  rw [splitOn, if_neg h, same]

/-- A separator cuts. -/
theorem splitOn_append (separator : Char) (cs ds : List Char) :
    splitOn separator (cs ++ separator :: ds)
      = splitOn separator cs ++ splitOn separator ds := by
  induction cs with
  | nil => exact splitOn_cons_self separator ds
  | cons c cs ih =>
      rw [List.cons_append]
      by_cases cut : c = separator
      · rw [cut, splitOn_cons_self, splitOn_cons_self, ih, List.cons_append]
      · obtain ⟨piece, pieces, same, more⟩ := splitOn_cons_of_ne cut cs
        obtain ⟨piece', pieces', same', more'⟩ :=
          splitOn_cons_of_ne cut (cs ++ separator :: ds)
        rw [ih, same, List.cons_append] at same'
        cases same'
        rw [more, more', List.cons_append]

/-- A character behind a text goes to the last piece. -/
theorem splitOn_concat_of_ne (h : c ≠ separator) (cs : List Char) :
    ∃ pieces piece, splitOn separator cs = pieces ++ [piece]
      ∧ splitOn separator (cs ++ [c]) = pieces ++ [piece ++ [c]] := by
  induction cs with
  | nil =>
      obtain ⟨piece, pieces, same, more⟩ := splitOn_cons_of_ne h []
      cases same
      exact ⟨[], [], rfl, more⟩
  | cons d cs ih =>
      obtain ⟨pieces, piece, same, more⟩ := ih
      rw [List.cons_append]
      by_cases cut : d = separator
      · rw [cut, splitOn_cons_self, splitOn_cons_self, same, more]
        exact ⟨[] :: pieces, piece, rfl, rfl⟩
      · obtain ⟨first, others, hfirst, hmore⟩ := splitOn_cons_of_ne cut cs
        obtain ⟨first', others', hfirst', hmore'⟩ :=
          splitOn_cons_of_ne cut (cs ++ [c])
        rw [hmore, hmore']
        -- the first piece is the last one, or another
        cases pieces with
        | nil =>
            rw [same] at hfirst
            rw [more] at hfirst'
            cases hfirst
            cases hfirst'
            exact ⟨[], d :: piece, rfl, rfl⟩
        | cons p pieces =>
            rw [same] at hfirst
            rw [more] at hfirst'
            cases hfirst
            cases hfirst'
            exact ⟨(d :: first) :: pieces, piece, rfl, rfl⟩

-- =============================================================== fields

/-- The trimmed pieces of a text as it stands. -/
def pieces (separator : Char) (cs : List Char) : List (List Char) :=
  (splitOn separator cs).map trim

/-- The fields of a line. -/
def fields (separator : Char) (line : List Char) : List (List Char) :=
  pieces separator (trim line)

/-- Pieces without the empty ones in front; one empty piece, if all
are. -/
def dropFront (pieces : List (List Char)) : List (List Char) :=
  match pieces.dropWhile List.isEmpty with
  | [] => [[]]
  | shown => shown

/-- Pieces without the empty ones at the end; one empty piece, if all
are. -/
def dropBack (pieces : List (List Char)) : List (List Char) :=
  match pieces.rdropWhile List.isEmpty with
  | [] => [[]]
  | shown => shown

/-- White space in front of a line takes the empty pieces in front. -/
theorem pieces_dropWhile (blank : isBlank separator = true)
    (cs : List Char) :
    pieces separator (cs.dropWhile isBlank)
      = dropFront (pieces separator cs) := by
  induction cs with
  | nil => rfl
  | cons c cs ih =>
      by_cases hc : isBlank c = true
      · rw [List.dropWhile_cons_of_pos hc, ih]
        by_cases cut : c = separator
        · rw [cut, pieces, pieces, splitOn_cons_self, List.map_cons]
          rfl
        · obtain ⟨piece, others, same, more⟩ := splitOn_cons_of_ne cut cs
          rw [pieces, pieces, same, more, List.map_cons, List.map_cons,
            trim_cons_of_blank hc]
      · have cut : c ≠ separator := by
          rintro rfl
          exact hc blank
        obtain ⟨piece, others, -, more⟩ := splitOn_cons_of_ne cut cs
        have shown : (trim (c :: piece)).isEmpty = false :=
          List.isEmpty_eq_false_iff.mpr
            (trim_ne_nil_of_mem List.mem_cons_self (Bool.not_eq_true _ ▸ hc))
        rw [List.dropWhile_cons_of_neg hc, pieces, more, List.map_cons,
          dropFront, List.dropWhile_cons_of_neg (by rw [shown]; nofun)]

/-- White space behind a line takes the empty pieces at the end. -/
theorem pieces_rdropWhile (blank : isBlank separator = true)
    (cs : List Char) :
    pieces separator (cs.rdropWhile isBlank)
      = dropBack (pieces separator cs) := by
  induction cs using List.reverseRecOn with
  | nil => rfl
  | append_singleton cs c ih =>
      by_cases hc : isBlank c = true
      · rw [List.rdropWhile_concat_pos _ _ _ hc, ih]
        by_cases cut : c = separator
        · rw [cut, pieces, pieces, splitOn_append, List.map_append, dropBack,
            dropBack]
          have last : List.map trim (splitOn separator []) = [[]] := rfl
          rw [last, List.rdropWhile_concat_pos _ _ _ rfl]
        · obtain ⟨others, piece, same, more⟩ := splitOn_concat_of_ne cut cs
          rw [pieces, pieces, same, more, List.map_append, List.map_append,
            List.map_singleton, List.map_singleton, trim_concat_of_blank hc]
      · have cut : c ≠ separator := by
          rintro rfl
          exact hc blank
        obtain ⟨others, piece, -, more⟩ := splitOn_concat_of_ne cut cs
        have shown : (trim (piece ++ [c])).isEmpty = false :=
          List.isEmpty_eq_false_iff.mpr
            (trim_ne_nil_of_mem (List.mem_append_right _ List.mem_cons_self)
              (Bool.not_eq_true _ ▸ hc))
        rw [List.rdropWhile_concat_neg _ _ _ hc, pieces, more,
          List.map_append, List.map_singleton, dropBack,
          List.rdropWhile_concat_neg _ _ _ (by rw [shown]; nofun)]
        split
        · rename_i empty
          exact absurd empty (by simp)
        · rfl

/-- The fields of a line are its pieces without the empty ones at the two
ends. -/
theorem fields_eq (blank : isBlank separator = true) (line : List Char) :
    fields separator line
      = dropBack (dropFront (pieces separator line)) := by
  rw [fields, trim_eq, pieces_rdropWhile blank, pieces_dropWhile blank]

/-- A line and its first field show the same character first. -/
theorem head?_fields (blank : isBlank separator = true) (line : List Char) :
    (fields separator line).head?.bind List.head? = (trim line).head? := by
  cases h : trim line with
  | nil =>
      rw [fields, h]
      rfl
  | cons c cs =>
      have shown := isBlank_of_trim_eq_cons h
      have cut : c ≠ separator := by
        rintro rfl
        rw [blank] at shown
        cases shown
      obtain ⟨piece, others, -, more⟩ := splitOn_cons_of_ne cut cs
      -- what is left of the first piece begins as it does
      have front : trim (c :: piece) <+: c :: piece := by
        rw [trim_eq, List.dropWhile_cons_of_neg (by rw [shown]; nofun)]
        exact List.rdropWhile_prefix isBlank _
      rw [fields, h, pieces, more, List.map_cons, List.head?_cons,
        Option.bind_some, List.head?_cons]
      obtain ⟨behind, whole⟩ := front
      obtain ⟨first, rest, kept⟩ := List.exists_cons_of_ne_nil
        (trim_ne_nil_of_mem List.mem_cons_self shown)
      rw [kept, List.cons_append] at whole
      cases whole
      rw [kept, List.head?_cons]

/-- Dropping from the end of a longer list leaves no less. -/
theorem rdropWhile_isPrefix {β : Type} (p : β → Bool) (as bs : List β) :
    as.rdropWhile p <+: (as ++ bs).rdropWhile p := by
  induction bs using List.reverseRecOn with
  | nil => rw [List.append_nil]
  | append_singleton bs b ih =>
      rw [← List.append_assoc]
      by_cases hb : p b = true
      · rw [List.rdropWhile_concat_pos _ _ _ hb]
        exact ih
      · rw [List.rdropWhile_concat_neg _ _ _ hb, List.append_assoc]
        exact (List.rdropWhile_prefix p as).trans (List.prefix_append _ _)

/-- A separator and more text behind a line that has fields adds to
them. -/
theorem fields_isPrefix (blank : isBlank separator = true)
    {line : List Char} (h : fields separator line ≠ [[]])
    (extra : List Char) :
    fields separator line
      <+: fields separator (line ++ separator :: extra) := by
  have cut : pieces separator (line ++ separator :: extra)
      = pieces separator line ++ pieces separator extra := by
    rw [pieces, splitOn_append, List.map_append]
    rfl
  rw [fields_eq blank] at h ⊢
  rw [fields_eq blank, cut]
  -- some piece of the line shows, so nothing is dropped behind the line
  cases shown : (pieces separator line).dropWhile List.isEmpty with
  | nil =>
      rw [dropFront, shown] at h
      exact absurd rfl h
  | cons field others =>
      have front : dropFront (pieces separator line) = field :: others := by
        rw [dropFront, shown]
      have whole : dropFront (pieces separator line
          ++ pieces separator extra)
            = field :: others ++ pieces separator extra := by
        rw [dropFront, List.dropWhile_append, shown]
        rfl
      have longer := rdropWhile_isPrefix List.isEmpty (field :: others)
        (pieces separator extra)
      rw [front, dropBack] at h ⊢
      rw [whole, dropBack]
      split at h
      · exact absurd rfl h
      · split
        · rename_i empty
          rw [empty, List.prefix_nil] at longer
          contradiction
        · exact longer

end EarthBins.Text
