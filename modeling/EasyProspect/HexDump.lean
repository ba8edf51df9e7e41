import EasyProspect.Library.HexText

namespace EasyProspect

/-!
# The hex dump

`binary_to_string` reads a buffer sixteen bytes at a time and prints a line for each.  The inner
loop advances the index past the bytes that it reads, and then the outer loop advances it once
more, so that each line after the first begins a byte too late.
-/

namespace HexDump

/-- How wide an `unsigned long` is. -/
inductive DataModel
  | llp64
  | lp64
deriving DecidableEq, Repr

def DataModel.longBits : DataModel -> Nat
  | .llp64 => 32
  | .lp64 => 64

/-- What one round of the outer loop prints: the address, and the offsets of the bytes that were
read into `buf`. -/
structure Line where
  address : Nat
  read : List Nat
deriving DecidableEq, Repr

/-- The loop that fills `buf`, with the room that is left in it. -/
def fillBuf (size : Nat) : Nat -> Nat -> List Nat
  | 0, _ => []
  | room + 1, i => if i < size then i :: fillBuf size room (i + 1) else []

/-- The outer loop. -/
def dumpFrom (model : DataModel) (size addressMax i address : Nat) : List Line :=
  if i < size then
    match fillBuf size 16 i with
    | [] => []
    | read@(_ :: _) =>
        let next := (address + 16) % 2 ^ model.longBits
        ⟨address, read⟩ ::
          if 0 < addressMax ∧ addressMax ≤ next then []
          else dumpFrom model size addressMax (i + read.length + 1) next
  else []
termination_by size - i

/-- Two blanks before every eighth column, and one before each other. -/
def columnGap (j : Nat) : Nat :=
  if j % 8 = 0 then 2 else 1

/-- A plain `char` is signed. -/
def printable (byte : UInt8) : Char :=
  if byte.toInt8 < 32 then '.' else Char.ofUInt8 byte

def showLine (buffer : Nat -> UInt8) (line : Line) : List Char :=
  let buf := line.read.map buffer
  HexText.numeral 8 line.address ++
    HexText.row columnGap (fun j => buf[j]?) (List.range 16) ++
      (' ' :: ' ' :: buf.map printable)

def binaryToString (model : DataModel) (buffer : Nat -> UInt8) (size addressMax : Nat) :
    List Char :=
  HexText.unlines ((dumpFrom model size addressMax 0 0).map (showLine buffer))

/-! ## Reading a dump -/

/-- The hex columns of a line: they follow the address. -/
def readLine (line : List Char) : List UInt8 :=
  HexText.readRow columnGap (List.range 16) (line.dropWhile fun char => char ≠ ' ')

def readDump (text : List Char) : List UInt8 :=
  (text.splitOn '\n').flatMap readLine

/-- How many bytes are to be shown. -/
def shownSize (size addressMax : Nat) : Nat :=
  if 0 < addressMax then min size ((addressMax + 15) / 16 * 16) else size

/-- The line that is to show the bytes from an offset. -/
def lineAt (size k : Nat) : Line :=
  ⟨16 * k, List.range' (16 * k) (min (16 * k + 16) size - 16 * k)⟩

/-- The dump loses nothing. -/
structure Complete (model : DataModel) (buffer : Nat -> UInt8) (size addressMax : Nat) :
    Prop where
  lines : dumpFrom model size addressMax 0 0 =
    (List.range ((shownSize size addressMax + 15) / 16)).map (lineAt size)
  read : forall line, line ∈ dumpFrom model size addressMax 0 0 ->
    forall offset, offset ∈ line.read -> offset < size
  back : readDump (binaryToString model buffer size addressMax) =
    (List.range (shownSize size addressMax)).map buffer

variable {model : DataModel} {buffer : Nat -> UInt8} {size addressMax : Nat}

theorem fillBuf_eq (size room i : Nat) :
    fillBuf size room i = List.range' i (min (i + room) size - i) := by
  induction room generalizing i with
  | zero =>
      have none : min (i + 0) size - i = 0 := by omega
      rw [none]
      rfl
  | succ room before =>
      rw [fillBuf]
      split
      · have more : min (i + (room + 1)) size - i = min (i + 1 + room) size - (i + 1) + 1 := by
          omega
        rw [more, List.range'_succ, before]
      · have none : min (i + (room + 1)) size - i = 0 := by omega
        rw [none]
        rfl

/-- What a round comes to. -/
theorem dumpFrom_eq {i : Nat} (inside : i < size) (address : Nat) :
    dumpFrom model size addressMax i address =
      ⟨address, List.range' i (min (i + 16) size - i)⟩ ::
        if 0 < addressMax ∧ addressMax ≤ (address + 16) % 2 ^ model.longBits then []
        else dumpFrom model size addressMax (min (i + 16) size + 1)
          ((address + 16) % 2 ^ model.longBits) := by
  have more : min (i + 16) size - i = min (i + 16) size - (i + 1) + 1 := by omega
  have next : i + (min (i + 16) size - i) + 1 = min (i + 16) size + 1 := by omega
  rw [dumpFrom, if_pos inside, fillBuf_eq]
  split
  · rename_i none
    rw [more, List.range'_succ] at none
    cases none
  · rename_i read filled
    rw [← filled, List.length_range', next]

theorem dumpFrom_end {i : Nat} (outside : size ≤ i) (address : Nat) :
    dumpFrom model size addressMax i address = [] := by
  rw [dumpFrom, if_neg (by omega)]

/-- The byte after sixteen others is never read. -/
theorem offset_of_dumpFrom {line : Line} {offset : Nat} (room : Nat) :
    forall i address, size ≤ i + room ->
      line ∈ dumpFrom model size addressMax i address -> offset ∈ line.read ->
        offset < size ∧ Exists fun k => i + 17 * k ≤ offset ∧ offset < i + 17 * k + 16 := by
  induction room using Nat.strongRecOn with
  | ind room before =>
      intro i address enough member shown
      by_cases inside : i < size
      · rw [dumpFrom_eq inside] at member
        rcases List.mem_cons.mp member with first | later
        · subst first
          rcases List.mem_range'_1.mp shown with ⟨lower, upper⟩
          exact ⟨by omega, 0, by omega, by omega⟩
        · split at later
          · cases later
          · rcases Nat.lt_or_ge (i + 16) size with whole | short
            · have less : room - 17 < room := by omega
              rcases before (room - 17) less _ _ (by omega) later shown with
                ⟨bound, k, lower, upper⟩
              exact ⟨bound, k + 1, by omega, by omega⟩
            · rw [dumpFrom_end (by omega)] at later
              cases later
      · rw [dumpFrom_end (by omega)] at member
        cases member

/-- The byte at offset 16 is never shown. -/
theorem not_complete (long : 16 < shownSize size addressMax) :
    ¬Complete model buffer size addressMax := by
  intro complete
  have bound : shownSize size addressMax ≤ size := by
    rw [shownSize]
    split
    · exact Nat.min_le_left ..
    · exact Nat.le_refl size
  have second : lineAt size 1 ∈ dumpFrom model size addressMax 0 0 := by
    rw [complete.lines]
    exact List.mem_map_of_mem (List.mem_range.mpr (by omega))
  have shown : 16 ∈ (lineAt size 1).read := List.mem_range'_1.mpr ⟨by omega, by omega⟩
  rcases offset_of_dumpFrom size 0 0 (by omega) second shown with ⟨_, k, lower, upper⟩
  omega

/-! ## What is read back -/

theorem filterMap_getElem? {count : Nat} :
    forall {bytes : List UInt8}, bytes.length ≤ count ->
      (List.range count).filterMap (fun j => bytes[j]?) = bytes := by
  induction count with
  | zero =>
      intro bytes short
      rw [List.length_eq_zero_iff.mp (Nat.le_zero.mp short)]
      rfl
  | succ count before =>
      intro bytes short
      rw [List.range_succ_eq_map]
      cases bytes with
      | nil => exact List.filterMap_eq_nil_iff.mpr fun _ _ => rfl
      | cons byte bytes =>
          rw [List.filterMap_cons_some (by rfl), List.filterMap_map]
          exact congrArg (List.cons byte) (before (Nat.le_of_succ_le_succ short))

theorem printable_ne_newline (byte : UInt8) : printable byte ≠ '\n' := by
  rw [printable]
  split
  · decide
  · rename_i visible
    intro newline
    have value : byte.toNat = 10 := congrArg Char.toNat newline
    have same : byte = 10 := UInt8.toNat_inj.mp value
    subst same
    exact visible (by decide)

theorem newline_not_mem_showLine (buffer : Nat -> UInt8) (line : Line) :
    '\n' ∉ showLine buffer line := by
  intro member
  rcases List.mem_append.mp member with columns | text
  · rcases List.mem_append.mp columns with address | octets
    · exact HexText.not_mem_numeral rfl 8 line.address address
    · exact HexText.newline_not_mem_row columnGap _ _ octets
  · rcases List.mem_cons.mp text with blank | text
    · cases blank
    · rcases List.mem_cons.mp text with blank | printed
      · cases blank
      · rcases List.mem_map.mp printed with ⟨byte, _, same⟩
        exact printable_ne_newline byte same

/-- The hex columns of a line are its bytes. -/
theorem readLine_showLine {line : Line} (short : line.read.length ≤ 16) :
    readLine (showLine buffer line) = line.read.map buffer := by
  have notBlank : forall char, char ∈ HexText.numeral 8 line.address ->
      decide (char ≠ ' ') = true := by
    intro char member
    refine decide_eq_true fun blank => ?_
    subst blank
    exact HexText.not_mem_numeral rfl 8 line.address member
  have opens : Exists fun rest : List Char =>
      HexText.row columnGap (fun j => (line.read.map buffer)[j]?) (List.range 16) = ' ' :: rest :=
    ⟨_, rfl⟩
  rcases opens with ⟨rest, opens⟩
  rw [readLine, showLine, List.append_assoc, List.dropWhile_append_of_pos notBlank, opens,
    List.cons_append, List.dropWhile_cons_of_neg (by decide), ← List.cons_append, ← opens,
    HexText.readRow_row]
  exact filterMap_getElem? (by rwa [List.length_map])

theorem readDump_unlines {lines : List Line}
    (short : forall line, line ∈ lines -> line.read.length ≤ 16) :
    readDump (HexText.unlines (lines.map (showLine buffer))) =
      (lines.flatMap Line.read).map buffer := by
  have whole : forall text, text ∈ lines.map (showLine buffer) -> '\n' ∉ text := by
    intro text member
    rcases List.mem_map.mp member with ⟨line, _, shown⟩
    subst shown
    exact newline_not_mem_showLine buffer line
  have last : [[]].flatMap readLine = [] := rfl
  rw [readDump, HexText.splitOn_unlines whole, List.flatMap_append, last, List.append_nil,
    List.flatMap_map, List.map_flatMap]
  exact List.flatMap_congr fun line member => readLine_showLine (short line member)

theorem flatMap_lineAt (size count : Nat) :
    ((List.range count).map (lineAt size)).flatMap Line.read =
      List.range (min (16 * count) size) := by
  induction count with
  | zero =>
      rw [Nat.mul_zero, Nat.zero_min]
      rfl
  | succ count before =>
      have last : [lineAt size count].flatMap Line.read =
          List.range' (16 * count) (min (16 * count + 16) size - 16 * count) :=
        List.append_nil _
      rw [List.range_succ, List.map_append, List.flatMap_append, before, List.map_singleton, last,
        List.range_eq_range', List.range_eq_range']
      rcases Nat.lt_or_ge (16 * count) size with more | done
      · have start : min (16 * count) size = 16 * count := Nat.min_eq_left (Nat.le_of_lt more)
        have sum : min (16 * (count + 1)) size =
            16 * count + (min (16 * count + 16) size - 16 * count) := by omega
        have joined := List.range'_append_1 (s := 0) (m := 16 * count)
          (n := min (16 * count + 16) size - 16 * count)
        rw [Nat.zero_add] at joined
        rw [start, sum, joined]
      · have none : min (16 * count + 16) size - 16 * count = 0 := by omega
        have same : min (16 * (count + 1)) size = min (16 * count) size := by omega
        rw [none, same]
        exact List.append_nil _

theorem shownSize_lines (size addressMax : Nat) :
    min (16 * ((shownSize size addressMax + 15) / 16)) size = shownSize size addressMax := by
  rw [shownSize]
  split
  · omega
  · omega

theorem lineAt_length (size k : Nat) : (lineAt size k).read.length ≤ 16 := by
  rw [lineAt, List.length_range']
  omega

/-- The lines are what matters. -/
theorem complete_of_lines (lines : dumpFrom model size addressMax 0 0 =
    (List.range ((shownSize size addressMax + 15) / 16)).map (lineAt size)) :
    Complete model buffer size addressMax := by
  refine ⟨lines, ?_, ?_⟩
  · intro line member offset shown
    exact (offset_of_dumpFrom size 0 0 (by omega) member shown).1
  · have short : forall line, line ∈ dumpFrom model size addressMax 0 0 ->
        line.read.length ≤ 16 := by
      intro line member
      rw [lines] at member
      rcases List.mem_map.mp member with ⟨k, _, same⟩
      subst same
      exact lineAt_length size k
    rw [binaryToString, readDump_unlines short, lines, flatMap_lineAt, shownSize_lines]

/-- A dump of one line. -/
theorem complete_of_short (short : size ≤ 16 ∨ 0 < addressMax ∧ addressMax ≤ 16) :
    Complete model buffer size addressMax := by
  apply complete_of_lines
  rcases Nat.eq_zero_or_pos size with empty | some
  · subst empty
    have none : (shownSize 0 addressMax + 15) / 16 = 0 := by
      rw [shownSize]
      split
      · omega
      · omega
    rw [dumpFrom_end (Nat.le_refl 0), none]
    rfl
  · have one : (shownSize size addressMax + 15) / 16 = 1 := by
      rw [shownSize]
      split
      · omega
      · omega
    have next : (0 + 16) % 2 ^ model.longBits = 16 := by
      cases model with
      | llp64 => rfl
      | lp64 => rfl
    rw [dumpFrom_eq some, one, next]
    split
    · rfl
    · rename_i goesOn
      rw [dumpFrom_end (by omega)]
      rfl

theorem complete_iff (model : DataModel) (buffer : Nat -> UInt8) (size addressMax : Nat) :
    Complete model buffer size addressMax <-> size ≤ 16 ∨ 0 < addressMax ∧ addressMax ≤ 16 := by
  constructor
  · intro complete
    by_contra long
    refine not_complete ?_ complete
    rw [shownSize]
    split
    · omega
    · omega
  · exact complete_of_short

theorem seventeenBytes_not_complete : ¬Complete .lp64 (fun _ => 0) 17 0 :=
  not_complete (by decide)

end HexDump

end EasyProspect
