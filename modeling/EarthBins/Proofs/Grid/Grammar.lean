/-
The grammar of row tables: which texts are read, which rows they hold, and
which error names the place where a text departs from it.

A line shows a row when it has three fields or more, of which the first is
a positive integer of 32 bits and the third a latitude (`Shows`). The
fields are those of the trimmed line, so tabs before the first field do not
count. A text is read when all of its lines that hold rows show them, each
south of the one before, and as many as the resolution asks for. Any other
text has a first line with a fault, or too few or too many rows.

# Shape of the argument

- Line by line: a line shows a row that continues those before it, or has
  a fault (`continues_or_fault`), and the reader finds out which
  (`readRows_cons_of_continues`, `readRows_cons_of_fault`).
- Over a text: reading may begin behind any lines that have been read
  (`readRows_append`), and every text is read through or has a first fault
  (`reads_or_firstFault`). As the reader gives one answer for each,
  each answer belongs to exactly one of the two.
- The reader sees nothing of a line but its fields, nor of a line that
  holds no row but its place. So lines with the same first and third field
  are interchangeable (`readRows_numbered_congr`), and one more line
  without a row moves the numbers of those behind (`read_insert`).
-/
import EarthBins.Grid.Table
import EarthBins.Proofs.Grid.Latitudes
import EarthBins.Proofs.Scalar.Order
import EarthBins.Proofs.Text.Fields
import Mathlib

namespace EarthBins

open Outcome Exact

-- ============================================================== integers

namespace Decimal

/-- The number that digits denote. -/
def ofDigits (digits : List Char) : Nat :=
  Nat.ofDigits 10 (digits.reverse.map fun c => c.toNat - '0'.toNat)

/-- Whether a text denotes a number: digits, behind a plus sign or not. -/
def IsNatural (cs : List Char) (n : Nat) : Prop :=
  ∃ digits, (cs = digits ∨ cs = '+' :: digits) ∧ digits ≠ []
    ∧ (∀ c ∈ digits, c.isDigit = true) ∧ ofDigits digits = n

theorem ofDigits_concat (digits : List Char) (c : Char) :
    ofDigits (digits ++ [c])
      = 10 * ofDigits digits + (c.toNat - '0'.toNat) := by
  rw [ofDigits, List.reverse_append, List.reverse_singleton,
    List.singleton_append, List.map_cons, Nat.ofDigits_cons, Nat.add_comm]
  rfl

theorem foldl_digits (digits : List Char) (n : Nat) :
    digits.foldl (fun acc c => do return 10 * (← acc) + (← digit? c))
        (some 0) = some n
      ↔ (∀ c ∈ digits, c.isDigit = true) ∧ ofDigits digits = n := by
  induction digits using List.reverseRecOn generalizing n with
  | nil => simp [ofDigits]
  | append_singleton digits c ih =>
      rw [List.foldl_concat, ofDigits_concat, List.forall_mem_append,
        List.forall_mem_singleton]
      constructor
      · intro h
        obtain ⟨m, hm, h⟩ := Option.bind_eq_some_iff.mp h
        obtain ⟨d, hd, h⟩ := Option.bind_eq_some_iff.mp h
        obtain ⟨all, rfl⟩ := (ih m).mp hm
        obtain ⟨hc, hd⟩ := Option.ite_none_right_eq_some.mp hd
        cases hd
        cases h
        exact ⟨⟨all, hc⟩, rfl⟩
      · rintro ⟨⟨all, hc⟩, rfl⟩
        refine Option.bind_eq_some_iff.mpr ⟨_, (ih _).mpr ⟨all, rfl⟩, ?_⟩
        exact Option.bind_eq_some_iff.mpr ⟨_, if_pos hc, rfl⟩

theorem natural?_eq_some_iff {cs : List Char} {n : Nat} :
    natural? cs = some n ↔ cs ≠ []
      ∧ (∀ c ∈ cs, c.isDigit = true) ∧ ofDigits cs = n := by
  rw [natural?, Option.ite_none_left_eq_some, List.isEmpty_iff,
    foldl_digits]

/-- A text is read as an integer of 32 bits when it denotes one. -/
theorem word?_eq_some_iff {cs : List Char} {w : UInt32} :
    word? cs = some w ↔ IsNatural cs w.toNat := by
  have read (digits : List Char) :
      ((natural? digits).bind fun n =>
        if n < UInt32.size then some (UInt32.ofNat n) else none) = some w
      ↔ natural? digits = some w.toNat := by
    simp only [Option.bind_eq_some_iff, Option.ite_none_right_eq_some,
      Option.some.injEq]
    constructor
    · rintro ⟨n, hn, short, rfl⟩
      rw [hn, UInt32.toNat_ofNat_of_lt' short]
    · intro h
      exact ⟨_, h, w.toNat_lt, UInt32.ofNat_toNat⟩
  -- a plus sign in front is taken off, and is no digit
  by_cases plus : ∃ digits, cs = '+' :: digits
  · obtain ⟨digits, rfl⟩ := plus
    refine (read digits).trans (natural?_eq_some_iff.trans ?_)
    constructor
    · rintro ⟨shown, all, value⟩
      exact ⟨digits, Or.inr rfl, shown, all, value⟩
    · rintro ⟨digits', rfl | same, shown, all, value⟩
      · exact absurd (all '+' List.mem_cons_self) (by decide)
      · cases same
        exact ⟨shown, all, value⟩
  · have whole : word? cs = (natural? cs).bind fun n =>
        if n < UInt32.size then some (UInt32.ofNat n) else none := by
      unfold word?
      split
      · exact absurd ⟨_, rfl⟩ plus
      · rfl
    rw [whole]
    refine (read cs).trans (natural?_eq_some_iff.trans ?_)
    constructor
    · rintro ⟨shown, all, value⟩
      exact ⟨cs, Or.inl rfl, shown, all, value⟩
    · rintro ⟨digits, rfl | same, shown, all, value⟩
      · exact ⟨shown, all, value⟩
      · exact absurd ⟨digits, same⟩ plus

/-- Whether a text denotes an integer of 32 bits. -/
theorem word?_eq_none_iff {cs : List Char} :
    word? cs = none ↔ ∀ n < 2 ^ 32, ¬ IsNatural cs n := by
  constructor
  · intro h n short isNatural
    have same : (UInt32.ofNat n).toNat = n := UInt32.toNat_ofNat_of_lt' short
    rw [← same, ← word?_eq_some_iff, h] at isNatural
    cases isNatural
  · intro h
    cases hw : word? cs with
    | none => rfl
    | some w => exact absurd (word?_eq_some_iff.mp hw) (h _ w.toNat_lt)

end Decimal

namespace RowTable

open Decimal

-- ================================================================= lines

/-- Whether a line holds a row: it shows something and is no comment. -/
def HoldsRow (line : List Char) : Prop :=
  Text.trim line ≠ [] ∧ (Text.trim line).head? ≠ some '#'

instance (line : List Char) : Decidable (HoldsRow line) :=
  inferInstanceAs (Decidable (_ ∧ _))

/-- The fields of a line. -/
def fieldsOf (line : List Char) : List (List Char) :=
  Text.fields '\t' line

/-- Whether a line shows a row: a positive integer of 32 bits in its first
field, a latitude in its third. -/
def Shows (line : List Char) (row : Nat × Float) : Prop :=
  ∃ columns regular lat rest,
    fieldsOf line = columns :: regular :: lat :: rest
    ∧ IsNatural columns row.1 ∧ 0 < row.1 ∧ row.1 < 2 ^ 32
    ∧ number? lat = some row.2 ∧ -90 ≤ row.2 ∧ row.2 ≤ 90

/-- What keeps a line from showing a row south of the latitude before it.
Where a line has several faults, only the first of this list is one. -/
inductive Fault (north : Option Float) (line : List Char) :
    RowError → Prop
  | tooFewFields (short : (fieldsOf line).length < 3) :
      Fault north line (.tooFewFields (fieldsOf line).length)
  | badColumnCount {columns regular lat rest}
      (fields : fieldsOf line = columns :: regular :: lat :: rest)
      (bad : ∀ n < 2 ^ 32, ¬ IsNatural columns n) :
      Fault north line (.badColumnCount (String.ofList columns))
  | badLatitude {columns regular lat rest n}
      (fields : fieldsOf line = columns :: regular :: lat :: rest)
      (counted : IsNatural columns n ∧ n < 2 ^ 32)
      (bad : number? lat = none) :
      Fault north line (.badLatitude (String.ofList lat))
  | noColumns {columns regular lat rest x}
      (fields : fieldsOf line = columns :: regular :: lat :: rest)
      (zero : IsNatural columns 0) (located : number? lat = some x) :
      Fault north line .noColumns
  | latitudeOutOfRange {columns regular lat rest n x}
      (fields : fieldsOf line = columns :: regular :: lat :: rest)
      (counted : IsNatural columns n ∧ 0 < n ∧ n < 2 ^ 32)
      (located : number? lat = some x) (outside : ¬ (-90 ≤ x ∧ x ≤ 90)) :
      Fault north line (.latitudeOutOfRange x)
  | notDescending {row previous} (shown : Shows line row)
      (before : previous ∈ north) (above : ¬ row.2 < previous) :
      Fault north line .notDescending

/-- Whether lines show rows, each south of the one before and the first
south of a latitude, if one is given. -/
def Reads (north : Option Float) (lines : List (List Char))
    (rows : List (Nat × Float)) : Prop :=
  List.Forall₂ Shows (lines.filter fun line => HoldsRow line) rows
  ∧ (north.toList ++ rows.map Prod.snd).IsChain
      fun north south => south < north

/-- The latitude that rows end with. -/
def lastLat (north : Option Float) (rows : List (Nat × Float)) :
    Option Float :=
  (north.toList ++ rows.map Prod.snd).getLast?

/-- Whether the lines have their first fault at a number, counted from
one. -/
def FirstFault (lines : List (List Char)) (number : Nat)
    (cause : RowError) : Prop :=
  ∃ before line after rows, lines = before ++ line :: after
    ∧ number = before.length + 1 ∧ Reads none before rows
    ∧ HoldsRow line ∧ Fault (lastLat none rows) line cause

-- ========================================================== reading a line

variable {line line' : List Char} {row : Nat × Float} {north : Option Float}

theorem inRange_iff {lat : Float} :
    inRange lat = true ↔ -90 ≤ lat ∧ lat ≤ 90 := by
  rw [inRange, Bool.and_eq_true, decide_eq_true_eq, decide_eq_true_eq]

/-- The latitude of a row is a real number. -/
theorem Shows.isReal (h : Shows line row) : IsReal row.2 := by
  obtain ⟨-, -, -, -, -, -, -, -, -, inside⟩ := h
  exact isReal_of_inRange (inRange_iff.mpr inside)

theorem map_trim_splitOn (line : List Char) :
    (Text.splitOn '\t' (Text.trim line)).map Text.trim = fieldsOf line :=
  rfl

/-- Reading begins with the number of fields. -/
theorem readRow_of_short (short : (fieldsOf line).length < 3) :
    readRow (Text.trim line)
      = .error (.tooFewFields (fieldsOf line).length) := by
  rw [readRow, map_trim_splitOn]
  split
  · rename_i fields
    rw [fields, List.length_cons, List.length_cons, List.length_cons]
      at short
    omega
  · rfl

/-- Three fields are enough to read a row. -/
theorem readRow_of_fields {columns regular lat : List Char}
    {rest : List (List Char)}
    (fields : fieldsOf line = columns :: regular :: lat :: rest) :
    readRow (Text.trim line) =
      match word? columns, number? lat with
      | none, _ => .error (.badColumnCount (String.ofList columns))
      | some _, none => .error (.badLatitude (String.ofList lat))
      | some n, some x =>
        if n = 0 then .error .noColumns
        else if !inRange x then .error (.latitudeOutOfRange x)
        else .ok (n.toNat, x) := by
  rewrite [readRow, map_trim_splitOn, fields]
  rfl

theorem readRow_of_shows (h : Shows line row) :
    readRow (Text.trim line) = .ok row := by
  obtain ⟨columns, regular, lat, rest, fields, isNatural, positive, short,
    located, inside⟩ := h
  have same : (UInt32.ofNat row.1).toNat = row.1 :=
    UInt32.toNat_ofNat_of_lt' short
  rw [← same, ← word?_eq_some_iff] at isNatural
  have nonzero : UInt32.ofNat row.1 ≠ 0 := fun zero => by
    rw [zero] at same
    exact positive.ne same
  rw [readRow_of_fields fields, isNatural, located]
  dsimp only
  rw [if_neg nonzero, inRange_iff.mpr inside, same]
  rfl

theorem readRow_of_fault {cause : RowError} (h : Fault none line cause) :
    readRow (Text.trim line) = .error cause := by
  cases h with
  | tooFewFields short => exact readRow_of_short short
  | badColumnCount fields bad =>
      rw [readRow_of_fields fields, word?_eq_none_iff.mpr bad]
  | badLatitude fields counted bad =>
      rename_i n
      obtain ⟨isNatural, short⟩ := counted
      have same : (UInt32.ofNat n).toNat = n :=
        UInt32.toNat_ofNat_of_lt' short
      rw [← same, ← word?_eq_some_iff] at isNatural
      rw [readRow_of_fields fields, isNatural, bad]
  | noColumns fields zero located =>
      have zero : word? _ = some 0 := word?_eq_some_iff.mpr zero
      rw [readRow_of_fields fields, zero, located]
      rfl
  | latitudeOutOfRange fields counted located outside =>
      rename_i n x
      obtain ⟨isNatural, positive, short⟩ := counted
      have same : (UInt32.ofNat n).toNat = n :=
        UInt32.toNat_ofNat_of_lt' short
      have nonzero : UInt32.ofNat n ≠ 0 := fun zero => by
        rw [zero] at same
        exact positive.ne same
      have outside : inRange x = false := by
        rw [← Bool.not_eq_true, inRange_iff]
        exact outside
      rw [← same, ← word?_eq_some_iff] at isNatural
      rw [readRow_of_fields fields, isNatural, located]
      dsimp only
      rw [if_neg nonzero, outside]
      rfl
  | notDescending _ before _ => cases before

/-- A line shows a row or has a fault of its own. -/
theorem shows_or_fault (line : List Char) :
    (∃ row, Shows line row) ∨ ∃ cause, Fault none line cause := by
  by_cases short : (fieldsOf line).length < 3
  · exact Or.inr ⟨_, .tooFewFields short⟩
  obtain ⟨columns, regular, lat, rest, fields⟩ : ∃ columns regular lat rest,
      fieldsOf line = columns :: regular :: lat :: rest := by
    match h : fieldsOf line with
    | columns :: regular :: lat :: rest => exact ⟨_, _, _, _, rfl⟩
    | [] | [_] | [_, _] => simp [h] at short
  cases counted : word? columns with
  | none =>
      exact Or.inr ⟨_, .badColumnCount fields (word?_eq_none_iff.mp counted)⟩
  | some n =>
      have isNatural := word?_eq_some_iff.mp counted
      have short := n.toNat_lt
      cases located : number? lat with
      | none => exact Or.inr ⟨_, .badLatitude fields ⟨isNatural, short⟩ located⟩
      | some x =>
          rcases Nat.eq_zero_or_pos n.toNat with zero | positive
          · exact Or.inr ⟨_, .noColumns fields (zero ▸ isNatural) located⟩
          by_cases inside : -90 ≤ x ∧ x ≤ 90
          · exact Or.inl ⟨(n.toNat, x), columns, regular, lat, rest, fields,
              isNatural, positive, short, located, inside⟩
          · exact Or.inr ⟨_, .latitudeOutOfRange fields
              ⟨isNatural, positive, short⟩ located inside⟩

/-- A fault of a line by itself is one wherever the line stands. -/
theorem Fault.anywhere {cause : RowError} (h : Fault none line cause)
    (north : Option Float) : Fault north line cause := by
  cases h with
  | tooFewFields short => exact .tooFewFields short
  | badColumnCount fields bad => exact .badColumnCount fields bad
  | badLatitude fields counted bad => exact .badLatitude fields counted bad
  | noColumns fields zero located => exact .noColumns fields zero located
  | latitudeOutOfRange fields counted located outside =>
      exact .latitudeOutOfRange fields counted located outside
  | notDescending _ before _ => cases before

/-- Whether a line shows a row south of a latitude. -/
def Continues (north : Option Float) (line : List Char)
    (row : Nat × Float) : Prop :=
  Shows line row ∧ ∀ previous ∈ north, row.2 < previous

/-- A line continues the rows before it or has a fault. -/
theorem continues_or_fault (north : Option Float) (line : List Char) :
    (∃ row, Continues north line row)
      ∨ ∃ cause, Fault north line cause := by
  rcases shows_or_fault line with ⟨row, shown⟩ | ⟨cause, fault⟩
  · by_cases south : ∀ previous ∈ north, row.2 < previous
    · exact Or.inl ⟨row, shown, south⟩
    · push Not at south
      obtain ⟨previous, before, above⟩ := south
      exact Or.inr ⟨_, .notDescending shown before above⟩
  · exact Or.inr ⟨cause, fault.anywhere north⟩

-- ========================================================= reading on

/-- Lines that hold rows, trimmed, with their numbers counted on from a
first one. -/
def numbered (first : Nat) (lines : List (List Char)) :
    List (Nat × List Char) :=
  (lines.zipIdx first).filterMap fun (line, number) =>
    let trimmed := Text.trim line
    if isSkipped trimmed then none else some (number, trimmed)

variable {lines lines' before after : List (List Char)}
  {rows : List (Nat × Float)} {number first : Nat} {cause : RowError}

theorem rowLines_eq (text : String) :
    rowLines text = numbered 1 (Text.lines text.toList) :=
  rfl

theorem isSkipped_trim (line : List Char) :
    isSkipped (Text.trim line) = true ↔ ¬ HoldsRow line := by
  unfold isSkipped HoldsRow
  split
  · simp_all
  · simp_all

theorem numbered_cons_of_holds (h : HoldsRow line) (first : Nat)
    (lines : List (List Char)) :
    numbered first (line :: lines)
      = (first, Text.trim line) :: numbered (first + 1) lines := by
  have kept : ¬ isSkipped (Text.trim line) = true := fun skipped =>
    (isSkipped_trim line).mp skipped h
  rw [numbered, List.zipIdx_cons]
  exact List.filterMap_cons_some (if_neg kept)

theorem numbered_cons_of_not (h : ¬ HoldsRow line) (first : Nat)
    (lines : List (List Char)) :
    numbered first (line :: lines) = numbered (first + 1) lines := by
  have skipped := (isSkipped_trim line).mpr h
  rw [numbered, List.zipIdx_cons]
  exact List.filterMap_cons_none (if_pos skipped)

theorem numbered_append (first : Nat) (before after : List (List Char)) :
    numbered first (before ++ after)
      = numbered first before ++ numbered (first + before.length) after := by
  rw [numbered, List.zipIdx_append, List.filterMap_append]
  rfl

/-- A row that continues those before it is read, and reading goes on
behind it. -/
theorem readRows_cons_of_continues (real : ∀ lat ∈ north, IsReal lat)
    (h : Continues north line row) (rest : List (Nat × List Char)) :
    readRows north ((number, Text.trim line) :: rest)
      = (row :: ·) <$> readRows (some row.2) rest := by
  obtain ⟨shown, south⟩ := h
  have descends : north.any (fun previous => decide (previous ≤ row.2))
      = false := by
    cases north with
    | none => rfl
    | some previous =>
        rw [Option.any_some, decide_eq_false_iff_not]
        exact fun above => (Binary64.lt_iff.mp (south previous rfl)).2 above
  rw [readRows, readRow_of_shows shown]
  dsimp only
  rw [descends]
  cases readRows (some row.2) rest with
  | error e => rfl
  | ok rows => rfl

/-- A fault ends the reading. -/
theorem readRows_cons_of_fault (real : ∀ lat ∈ north, IsReal lat)
    (h : Fault north line cause) (rest : List (Nat × List Char)) :
    readRows north ((number, Text.trim line) :: rest)
      = .error (.settings (.tableRow number cause)) := by
  have alone (fault : Fault none line cause) :
      readRows north ((number, Text.trim line) :: rest)
        = .error (.settings (.tableRow number cause)) := by
    rw [readRows, readRow_of_fault fault]
  cases h with
  | tooFewFields short => exact alone (.tooFewFields short)
  | badColumnCount fields bad => exact alone (.badColumnCount fields bad)
  | badLatitude fields counted bad =>
      exact alone (.badLatitude fields counted bad)
  | noColumns fields zero located =>
      exact alone (.noColumns fields zero located)
  | latitudeOutOfRange fields counted located outside =>
      exact alone (.latitudeOutOfRange fields counted located outside)
  | notDescending shown before above =>
      have above := (not_lt_of_isReal shown.isReal (real _ before)).mp above
      rw [readRows, readRow_of_shows shown]
      cases before
      dsimp only
      rw [Option.any_some, decide_eq_true above]
      rfl

-- ======================================================== reading through

theorem reads_nil (north : Option Float) : Reads north [] [] := by
  refine ⟨List.Forall₂.nil, ?_⟩
  cases north with
  | none => exact List.isChain_nil
  | some lat => exact List.isChain_singleton lat

theorem reads_cons_of_not (h : ¬ HoldsRow line) :
    Reads north (line :: lines) rows ↔ Reads north lines rows := by
  rw [Reads, Reads, List.filter_cons_of_neg (by simpa using h)]

/-- The first line that holds a row shows the first row. -/
theorem reads_cons_of_holds (h : HoldsRow line) :
    Reads north (line :: lines) rows ↔ ∃ row rest, rows = row :: rest
      ∧ Continues north line row ∧ Reads (some row.2) lines rest := by
  rw [Reads, List.filter_cons_of_pos (by simpa using h),
    List.forall₂_cons_left_iff]
  constructor
  · rintro ⟨⟨row, rest, shown, others, rfl⟩, chain⟩
    refine ⟨row, rest, rfl, ⟨shown, ?_⟩, others, ?_⟩
    · rintro previous rfl
      exact (List.isChain_cons_cons.mp chain).1
    · cases north with
      | none => exact chain
      | some previous => exact (List.isChain_cons_cons.mp chain).2
  · rintro ⟨row, rest, rfl, ⟨shown, south⟩, others, chain⟩
    refine ⟨⟨row, rest, shown, others, rfl⟩, ?_⟩
    cases north with
    | none => exact chain
    | some previous => exact List.isChain_cons_cons.mpr ⟨south _ rfl, chain⟩

/-- The latitude that rows end with, and the first of them. -/
theorem lastLat_cons (north : Option Float) (row : Nat × Float)
    (rows : List (Nat × Float)) :
    lastLat north (row :: rows) = lastLat (some row.2) rows := by
  cases north with
  | none => rfl
  | some lat => exact List.getLast?_cons_cons

theorem lastLat_nil (north : Option Float) : lastLat north [] = north := by
  cases north with
  | none => rfl
  | some lat => rfl

/-- Behind lines that have been read, reading goes on from their last
latitude. -/
theorem readRows_append (real : ∀ lat ∈ north, IsReal lat)
    (h : Reads north before rows) (first : Nat)
    (after : List (List Char)) :
    readRows north (numbered first (before ++ after))
      = (rows ++ ·) <$> readRows (lastLat north rows)
          (numbered (first + before.length) after) := by
  induction before generalizing north rows first with
  | nil =>
      obtain ⟨nothing, -⟩ := h
      cases nothing
      rw [lastLat_nil]
      exact (LawfulFunctor.id_map (readRows north _)).symm
  | cons line before ih =>
      have count : first + (line :: before).length
          = first + 1 + before.length := by
        rw [List.length_cons]
        omega
      rw [List.cons_append, count]
      by_cases holds : HoldsRow line
      · obtain ⟨row, rest, rfl, continues, others⟩ :=
          (reads_cons_of_holds holds).mp h
        have real' : ∀ lat ∈ some row.2, IsReal lat := by
          rintro lat ⟨⟩
          exact continues.1.isReal
        rw [numbered_cons_of_holds holds,
          readRows_cons_of_continues real continues, ih real' others,
          lastLat_cons]
        cases readRows (lastLat (some row.2) rest) _ with
        | error e => rfl
        | ok rows => rfl
      · rw [numbered_cons_of_not holds]
        exact ih real ((reads_cons_of_not holds).mp h) (first + 1)

/-- The rows of lines that show them are read. -/
theorem readRows_of_reads (h : Reads none lines rows) :
    readRows none (numbered 1 lines) = .ok rows := by
  have whole := readRows_append (by simp) h 1 []
  rw [List.append_nil] at whole
  refine whole.trans ?_
  show Except.ok (rows ++ []) = _
  rw [List.append_nil]

theorem isReal_lastLat (h : Reads none before rows) :
    ∀ lat ∈ lastLat none rows, IsReal lat := by
  intro lat hlat
  obtain ⟨row, hrow, rfl⟩ := List.mem_map.mp (List.mem_of_mem_getLast? hlat)
  obtain ⟨i, hi, rfl⟩ := List.getElem_of_mem hrow
  have hi' := h.1.length_eq ▸ hi
  exact (h.1.get hi' hi).isReal

/-- The first fault is reported. -/
theorem readRows_of_firstFault (h : FirstFault lines number cause) :
    readRows none (numbered 1 lines)
      = .error (.settings (.tableRow number cause)) := by
  obtain ⟨before, line, after, rows, rfl, rfl, reads, holds, fault⟩ := h
  rw [readRows_append (by simp) reads, numbered_cons_of_holds holds,
    readRows_cons_of_fault (isReal_lastLat reads) fault,
    Nat.add_comm 1]
  rfl

/-- Lines that have been read, and one more. -/
theorem Reads.concat (h : Reads none before rows) (holds : HoldsRow line)
    (continues : Continues (lastLat none rows) line row) :
    Reads none (before ++ [line]) (rows ++ [row]) := by
  obtain ⟨shown, south⟩ := continues
  refine ⟨?_, ?_⟩
  · rw [List.filter_append]
    refine List.rel_append h.1 ?_
    rw [List.filter_cons_of_pos (by simpa using holds)]
    exact List.Forall₂.cons shown List.Forall₂.nil
  · show (List.map Prod.snd (rows ++ [row])).IsChain _
    rw [List.map_append, List.isChain_append]
    refine ⟨h.2, List.isChain_singleton _, ?_⟩
    intro previous hprevious lat hlat
    cases hlat
    exact south previous hprevious

/-- Lines are read through or have a first fault. -/
theorem reads_or_firstFault (lines : List (List Char)) :
    (∃ rows, Reads none lines rows)
      ∨ ∃ number cause, FirstFault lines number cause := by
  induction lines using List.reverseRecOn with
  | nil => exact Or.inl ⟨[], reads_nil none⟩
  | append_singleton lines line ih =>
      rcases ih with ⟨rows, reads⟩
        | ⟨number, cause, before, faulty, after, rows, rfl, h⟩
      · by_cases holds : HoldsRow line
        · rcases continues_or_fault (lastLat none rows) line with
            ⟨row, continues⟩ | ⟨cause, fault⟩
          · exact Or.inl ⟨_, reads.concat holds continues⟩
          · exact Or.inr ⟨_, cause, lines, line, [], rows, rfl, rfl, reads,
              holds, fault⟩
        · refine Or.inl ⟨rows, ?_⟩
          rw [Reads, List.filter_append,
            List.filter_cons_of_neg (by simpa using holds), List.filter_nil,
            List.append_nil]
          exact reads
      · refine Or.inr ⟨number, cause, before, faulty, after ++ [line], rows,
          ?_, h⟩
        rw [List.append_assoc, List.cons_append]

theorem readRows_eq_ok_iff :
    readRows none (numbered 1 lines) = .ok rows ↔ Reads none lines rows := by
  refine ⟨fun h => ?_, readRows_of_reads⟩
  rcases reads_or_firstFault lines with ⟨rows', reads⟩ | ⟨_, _, fault⟩
  · rw [readRows_of_reads reads] at h
    cases h
    exact reads
  · rw [readRows_of_firstFault fault] at h
    cases h

theorem readRows_eq_error_iff {e : Error} :
    readRows none (numbered 1 lines) = .error e
      ↔ ∃ number cause, FirstFault lines number cause
        ∧ e = .settings (.tableRow number cause) := by
  constructor
  · intro h
    rcases reads_or_firstFault lines with ⟨rows, reads⟩
      | ⟨number, cause, fault⟩
    · rw [readRows_of_reads reads] at h
      cases h
    · rw [readRows_of_firstFault fault] at h
      cases h
      exact ⟨number, cause, fault, rfl⟩
  · rintro ⟨number, cause, fault, rfl⟩
    exact readRows_of_firstFault fault

-- ==================================================== what does not matter

/-- An error with the number of its line put through a function. -/
def renumbered (f : Nat → Nat) : Error → Error
  | .settings (.tableRow number cause) =>
      .settings (.tableRow (f number) cause)
  | e => e

/-- Lines numbered otherwise. -/
theorem map_numbered {f : Nat → Nat} (first first' : Nat)
    {lines : List (List Char)}
    (h : ∀ i < lines.length, f (first + i) = first' + i) :
    (numbered first lines).map (Prod.map f id) = numbered first' lines := by
  induction lines generalizing first first' with
  | nil => rfl
  | cons line lines ih =>
      have behind : ∀ i < lines.length, f (first + 1 + i) = first' + 1 + i :=
        fun i hi => by
          rw [Nat.add_assoc, Nat.add_comm 1, Nat.add_assoc, Nat.add_comm 1]
          exact h (i + 1) (Nat.succ_lt_succ hi)
      by_cases holds : HoldsRow line
      · rw [numbered_cons_of_holds holds, numbered_cons_of_holds holds,
          List.map_cons, ih _ _ behind]
        show (f first, Text.trim line) :: _ = _
        rw [show f first = first' from h 0 (Nat.succ_pos _)]
      · rw [numbered_cons_of_not holds, numbered_cons_of_not holds,
          ih _ _ behind]

theorem numbered_eq_nil (h : ∀ line ∈ lines, ¬ HoldsRow line) (first : Nat) :
    numbered first lines = [] := by
  induction lines generalizing first with
  | nil => rfl
  | cons line lines ih =>
      rw [numbered_cons_of_not (h line List.mem_cons_self)]
      exact ih (fun l hl => h l (List.mem_cons_of_mem _ hl)) _

/-- Numbers of lines only show in errors. -/
theorem readRows_map (f : Nat → Nat) (north : Option Float)
    (lines : List (Nat × List Char)) :
    readRows north (lines.map (Prod.map f id))
      = (readRows north lines).mapError (renumbered f) := by
  induction lines generalizing north with
  | nil => rfl
  | cons line lines ih =>
      obtain ⟨number, line⟩ := line
      rw [List.map_cons, Prod.map_apply, id, readRows, readRows]
      cases readRow line with
      | error cause => rfl
      | ok row =>
          dsimp only
          split
          · rfl
          · rw [ih]
            cases readRows (some row.2) lines with
            | error e => rfl
            | ok rows => rfl

/-- Lines without rows only move the numbers of the lines behind. -/
theorem readRows_insert {extra : List (List Char)}
    (h : ∀ line ∈ extra, ¬ HoldsRow line) (north : Option Float)
    (before after : List (List Char)) :
    readRows north (numbered 1 (before ++ extra ++ after))
      = (readRows north (numbered 1 (before ++ after))).mapError
          (renumbered fun n =>
            if n ≤ before.length then n else n + extra.length) := by
  rw [← readRows_map, List.append_assoc, numbered_append, numbered_append,
    numbered_append, numbered_eq_nil h, List.nil_append, List.map_append,
    map_numbered 1 1, map_numbered _ (1 + before.length + extra.length)]
  · intro i hi
    rw [if_neg (by omega)]
    omega
  · intro i hi
    rw [if_pos (by omega)]

/-- Whether two lines differ in what is not read: in white space around
their fields, in the second field, or in fields behind the third. -/
inductive SameRow (line line' : List Char) : Prop
  | spaces (same : Text.pieces '\t' line = Text.pieces '\t' line')
  | regular {columns regular regular' lat rest}
      (fields : fieldsOf line = columns :: regular :: lat :: rest)
      (fields' : fieldsOf line' = columns :: regular' :: lat :: rest)
  | trailing {more : List Char} (enough : 3 ≤ (fieldsOf line).length)
      (longer : line' = line ++ '\t' :: more)

/-- The fields of such lines are the same, or three and more that agree in
the first and the third. -/
theorem SameRow.fields_cases (h : SameRow line line') :
    fieldsOf line = fieldsOf line'
    ∨ ∃ columns lat regular rest regular' rest',
      fieldsOf line = columns :: regular :: lat :: rest
      ∧ fieldsOf line' = columns :: regular' :: lat :: rest' := by
  cases h with
  | spaces same =>
      left
      rw [fieldsOf, fieldsOf, Text.fields_eq rfl, Text.fields_eq rfl, same]
  | regular fields fields' => exact Or.inr ⟨_, _, _, _, _, _, fields, fields'⟩
  | trailing enough longer =>
      right
      subst longer
      match fields : fieldsOf line with
      | columns :: second :: lat :: rest =>
          have shown : Text.fields '\t' line ≠ [[]] := by
            rw [← fieldsOf, fields]
            simp
          obtain ⟨extra, whole⟩ := Text.fields_isPrefix rfl shown _
          rw [← fieldsOf, fields] at whole
          exact ⟨_, _, _, _, _, _, rfl, whole.symm⟩
      | [] | [_] | [_, _] => simp [fields] at enough

theorem holdsRow_iff (line : List Char) :
    HoldsRow line ↔ ∃ c, (fieldsOf line).head?.bind List.head? = some c
      ∧ c ≠ '#' := by
  rw [fieldsOf, Text.head?_fields rfl, HoldsRow]
  cases Text.trim line with
  | nil => simp
  | cons c cs => simp

/-- Lines that differ in what is not read hold the same row. -/
theorem SameRow.holdsRow_iff (h : SameRow line line') :
    HoldsRow line ↔ HoldsRow line' := by
  rw [RowTable.holdsRow_iff, RowTable.holdsRow_iff]
  rcases h.fields_cases with same | ⟨_, _, _, _, _, _, fields, fields'⟩
  · rw [same]
  · rw [fields, fields', List.head?_cons, List.head?_cons]

theorem SameRow.readRow_eq (h : SameRow line line') :
    readRow (Text.trim line) = readRow (Text.trim line') := by
  rcases h.fields_cases with same | ⟨_, _, _, _, _, _, fields, fields'⟩
  · rw [readRow, readRow, map_trim_splitOn, map_trim_splitOn, same]
  · rw [readRow_of_fields fields, readRow_of_fields fields']

/-- Lines that differ in what is not read are read alike. -/
theorem readRows_numbered_congr (h : List.Forall₂ SameRow lines lines')
    (north : Option Float) (first : Nat) :
    readRows north (numbered first lines)
      = readRows north (numbered first lines') := by
  induction h generalizing north first with
  | nil => rfl
  | @cons line line' lines lines' same _ ih =>
      by_cases holds : HoldsRow line
      · rw [numbered_cons_of_holds holds,
          numbered_cons_of_holds (same.holdsRow_iff.mp holds), readRows,
          readRows, same.readRow_eq]
        simp only [ih]
      · rw [numbered_cons_of_not holds,
          numbered_cons_of_not (mt same.holdsRow_iff.mpr holds), ih]

-- ================================================================ tables

variable {hemisphereRows : Nat} {text text' : String} {g : GaussianGrid}

/-- The column counts and center latitudes of a grid, from north to
south. -/
def table (g : GaussianGrid) : List (Nat × Float) :=
  g.layout.rows.toList.map fun row => (row.columns, row.centerLat)

/-- What a text is refused with: an unknown resolution, its first fault, or
the number of its rows. -/
inductive Refused (hemisphereRows : Nat) (lines : List (List Char)) :
    Error → Prop
  | unsupported (unknown : hemisphereRows ∉ Gaussian.allowedRows) :
      Refused hemisphereRows lines (Gaussian.unsupported hemisphereRows)
  | line {number : Nat} {cause : RowError}
      (known : hemisphereRows ∈ Gaussian.allowedRows)
      (fault : FirstFault lines number cause) :
      Refused hemisphereRows lines (.settings (.tableRow number cause))
  | total {rows : List (Nat × Float)}
      (known : hemisphereRows ∈ Gaussian.allowedRows)
      (reads : Reads none lines rows)
      (off : rows.length ≠ 2 * hemisphereRows) :
      Refused hemisphereRows lines (.settings
        (.tableLength hemisphereRows (2 * hemisphereRows) rows.length))

theorem table_ofRows (n : Nat) (rows : List (Nat × Float)) :
    table ⟨n, RowLayout.ofRows rows⟩ = rows := by
  have placed (first : Nat) :
      (RowLayout.place first rows).map
        (fun row => (row.columns, row.centerLat)) = rows := by
    induction rows generalizing first with
    | nil => rfl
    | cons row rows ih =>
        rw [RowLayout.place, List.map_cons, ih]
  exact placed 0

/-- Rows of a known resolution are read, then counted. -/
theorem read_of_mem (known : hemisphereRows ∈ Gaussian.allowedRows)
    (text : String) :
    read hemisphereRows text
      = readRows none (numbered 1 (Text.lines text.toList)) >>= fun found =>
          if found.length ≠ 2 * hemisphereRows then
            .error (.settings (.tableLength hemisphereRows
              (2 * hemisphereRows) found.length))
          else .ok ⟨hemisphereRows, RowLayout.ofRows found⟩ := by
  have known : (!Gaussian.allowedRows.contains hemisphereRows) = false := by
    rw [Bool.not_eq_false', List.contains_iff_mem]
    exact known
  rw [read, known, rowLines_eq]
  cases readRows none (numbered 1 (Text.lines text.toList)) with
  | error e => rfl
  | ok found =>
      show (if found.length ≠ 2 * hemisphereRows then _ else _) = _
      rw [ok_bind]
      split
      · rfl
      · rfl

theorem read_of_notMem (unknown : hemisphereRows ∉ Gaussian.allowedRows)
    (text : String) :
    read hemisphereRows text
      = .error (Gaussian.unsupported hemisphereRows) := by
  have unknown : (!Gaussian.allowedRows.contains hemisphereRows) = true := by
    rw [Bool.not_eq_true', ← Bool.not_eq_true, List.contains_iff_mem]
    exact unknown
  rw [read, unknown]
  rfl

theorem read_eq_ok_iff :
    read hemisphereRows text = .ok g
      ↔ hemisphereRows ∈ Gaussian.allowedRows
        ∧ g = ⟨hemisphereRows, RowLayout.ofRows (table g)⟩
        ∧ (table g).length = 2 * hemisphereRows
        ∧ Reads none (Text.lines text.toList) (table g) := by
  by_cases known : hemisphereRows ∈ Gaussian.allowedRows
  · rw [read_of_mem known, bind_eq_ok]
    constructor
    · rintro ⟨rows, hrows, h⟩
      split at h
      · cases h
      · rename_i total
        cases h
        rw [table_ofRows]
        exact ⟨known, rfl, not_not.mp total, readRows_eq_ok_iff.mp hrows⟩
    · rintro ⟨-, hg, total, reads⟩
      refine ⟨table g, readRows_of_reads reads, ?_⟩
      rw [if_neg (not_not.mpr total), ← hg]
  · rw [read_of_notMem known]
    exact iff_of_false nofun fun h => known h.1

theorem read_eq_error_iff {e : Error} :
    read hemisphereRows text = .error e
      ↔ Refused hemisphereRows (Text.lines text.toList) e := by
  by_cases known : hemisphereRows ∈ Gaussian.allowedRows
  · rw [read_of_mem known, bind_eq_error, readRows_eq_error_iff]
    constructor
    · rintro (⟨number, cause, fault, rfl⟩ | ⟨rows, hrows, h⟩)
      · exact .line known fault
      · split at h
        · rename_i off
          cases h
          exact .total known (readRows_eq_ok_iff.mp hrows) off
        · cases h
    · intro h
      cases h with
      | unsupported unknown => exact absurd known unknown
      | line _ fault => exact Or.inl ⟨_, _, fault, rfl⟩
      | total _ reads off =>
          exact Or.inr ⟨_, readRows_of_reads reads, if_pos off⟩
  · rw [read_of_notMem known]
    constructor
    · intro h
      cases h
      exact .unsupported known
    · intro h
      cases h with
      | unsupported _ => rfl
      | line known' _ => exact absurd known' known
      | total known' _ _ => exact absurd known' known

/-- Latitudes that descend row by row descend throughout. -/
theorem Reads.pairwise (h : Reads none lines rows) :
    rows.Pairwise fun north south => south.2 < north.2 := by
  have trans : IsTrans Float fun north south => south < north :=
    ⟨fun _ _ _ hab hbc => LawfulScalar.lt_trans hbc hab⟩
  have chain : (rows.map Prod.snd).IsChain fun north south => south < north :=
    h.2
  exact List.pairwise_map.mp (List.isChain_iff_pairwise.mp chain)

theorem Reads.columns_pos (h : Reads none lines rows) :
    ∀ row ∈ rows, 1 ≤ row.1 := by
  intro row hrow
  obtain ⟨i, hi, rfl⟩ := List.getElem_of_mem hrow
  have hi' := h.1.length_eq ▸ hi
  obtain ⟨-, -, -, -, -, -, positive, -⟩ := h.1.get hi' hi
  exact positive

/-- Lines without rows only move the lines behind them. -/
theorem read_insert {before extra after : List (List Char)}
    (skipped : ∀ line ∈ extra, ¬ HoldsRow line)
    (h : Text.lines text.toList = before ++ after)
    (h' : Text.lines text'.toList = before ++ extra ++ after) :
    read hemisphereRows text'
      = (read hemisphereRows text).mapError (renumbered fun n =>
          if n ≤ before.length then n else n + extra.length) := by
  by_cases known : hemisphereRows ∈ Gaussian.allowedRows
  · rw [read_of_mem known, read_of_mem known, h, h', readRows_insert skipped]
    cases readRows none (numbered 1 (before ++ after)) with
    | error e => rfl
    | ok rows =>
        show (Except.ok rows >>= _ : Except Error GaussianGrid) = _
        rw [ok_bind]
        split
        · rfl
        · rfl
  · rw [read_of_notMem known, read_of_notMem known]
    rfl

/-- Texts whose lines differ in what is not read are read alike. -/
theorem read_congr
    (h : List.Forall₂ SameRow (Text.lines text.toList)
      (Text.lines text'.toList)) :
    read hemisphereRows text' = read hemisphereRows text := by
  by_cases known : hemisphereRows ∈ Gaussian.allowedRows
  · rw [read_of_mem known, read_of_mem known, readRows_numbered_congr h]
  · rw [read_of_notMem known, read_of_notMem known]

/-- A text is read, as the grid with the rows that its lines show, when the
resolution is known, all lines that hold rows show them, each south of the
one before, and there are as many as the resolution asks for. Column counts
are positive then, and latitudes descend. Otherwise it is refused with a
configuration error: that of its first fault, by the number of the line
among all lines, or that of its number of rows if no line is at fault. Lines
without rows change nothing but the numbers of the lines behind them, and
white space around fields, the second field and fields behind the third
change nothing. -/
theorem read_exactly (hemisphereRows : Nat) (text : String) :
    (∀ g, read hemisphereRows text = .ok g
      ↔ hemisphereRows ∈ Gaussian.allowedRows
        ∧ g = ⟨hemisphereRows, RowLayout.ofRows (table g)⟩
        ∧ (table g).length = 2 * hemisphereRows
        ∧ Reads none (Text.lines text.toList) (table g))
    ∧ (∀ g, read hemisphereRows text = .ok g →
      (∀ row ∈ table g, 1 ≤ row.1)
      ∧ (table g).Pairwise fun north south => south.2 < north.2)
    ∧ (∀ e, read hemisphereRows text = .error e
      ↔ Refused hemisphereRows (Text.lines text.toList) e)
    ∧ (∀ e, read hemisphereRows text = .error e → e.kind = .config)
    ∧ (∀ text' before extra after,
      Text.lines text.toList = before ++ after →
      Text.lines text'.toList = before ++ extra ++ after →
      (∀ line ∈ extra, ¬ HoldsRow line) →
      read hemisphereRows text'
        = (read hemisphereRows text).mapError (renumbered fun n =>
            if n ≤ before.length then n else n + extra.length))
    ∧ ∀ text', List.Forall₂ SameRow (Text.lines text.toList)
        (Text.lines text'.toList) →
      read hemisphereRows text' = read hemisphereRows text := by
  refine ⟨fun g => read_eq_ok_iff, ?_, fun e => read_eq_error_iff, ?_, ?_,
    fun text' => read_congr⟩
  · intro g h
    obtain ⟨-, -, -, reads⟩ := read_eq_ok_iff.mp h
    exact ⟨reads.columns_pos, reads.pairwise⟩
  · intro e h
    cases read_eq_error_iff.mp h with
    | unsupported _ => rfl
    | line _ _ => rfl
    | total _ _ _ => rfl
  · intro text' before extra after h h' skipped
    exact read_insert skipped h h'

/-- Rows of twenty columns, one for each degree from the north pole down,
with more text behind each. -/
def evenRows (more : List Char) : List (List Char) :=
  (List.range 64).map fun row =>
    ['2', '0', '\t', '8', '0', '\t'] ++ Nat.toDigits 10 (90 - row) ++ more

/-- The text with the given lines. -/
def joined (lines : List (List Char)) : String :=
  String.ofList (['\n'].intercalate lines)

/-- The even rows are read, with a comment in front or fields behind just
the same, and a text without rows is refused. -/
theorem read_exactly_evenRows :
    (∃ g, read 32 (joined (evenRows [])) = .ok g
      ∧ (∀ row ∈ table g, 1 ≤ row.1)
      ∧ (table g).Pairwise fun north south => south.2 < north.2)
    ∧ read 32 (joined (['#'] :: evenRows []))
      = (read 32 (joined (evenRows []))).mapError
          (renumbered fun n => if n ≤ 0 then n else n + 1)
    ∧ read 32 (joined (evenRows ['\t', '?']))
      = read 32 (joined (evenRows []))
    ∧ ∃ e, read 32 (joined []) = .error e ∧ e.kind = .config := by
  have plain : Text.lines (joined (evenRows [])).toList = evenRows [] := by
    rw [joined, String.toList_ofList]
    decide +kernel
  have commented : Text.lines (joined (['#'] :: evenRows [])).toList
      = [] ++ [['#']] ++ evenRows [] := by
    rw [joined, String.toList_ofList]
    decide +kernel
  have longer : Text.lines (joined (evenRows ['\t', '?'])).toList
      = evenRows ['\t', '?'] := by
    rw [joined, String.toList_ofList]
    decide +kernel
  have alike : List.Forall₂ SameRow (evenRows []) (evenRows ['\t', '?']) := by
    rw [evenRows, evenRows, List.forall₂_map_left_iff,
      List.forall₂_map_right_iff, List.forall₂_same]
    intro row hrow
    refine .trailing ?_ (show _ = _ ++ '\t' :: ['?'] by
      rw [List.append_nil])
    revert row
    decide +kernel
  have isOk : (read 32 (joined (evenRows []))).isOk = true := by
    rw [read_of_mem (by decide), plain]
    decide +kernel
  have isError : (read 32 (joined [])).isOk = false := by
    rw [read_of_mem (by decide), joined, String.toList_ofList]
    decide +kernel
  obtain ⟨-, rows, -, -, insert, same⟩ :=
    read_exactly 32 (joined (evenRows []))
  obtain ⟨-, -, -, kind, -, -⟩ := read_exactly 32 (joined [])
  refine ⟨?_, ?_, ?_, ?_⟩
  · cases h : read 32 (joined (evenRows [])) with
    | error e =>
        rw [h] at isOk
        cases isOk
    | ok g => exact ⟨g, rfl, rows g h⟩
  · exact insert _ [] [['#']] _ plain commented (by decide)
  · exact same _ (by rw [plain, longer]; exact alike)
  · cases h : read 32 (joined []) with
    | error e => exact ⟨e, rfl, kind e h⟩
    | ok g =>
        rw [h] at isError
        cases isError

end RowTable

end EarthBins
