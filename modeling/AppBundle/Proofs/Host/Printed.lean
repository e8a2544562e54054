import AppBundle.Host.Dialogue
import AppBundle.Proofs.Text.Bytes

/-!
# Printed lines

A program prints lines, each ended by a line feed or by a carriage return and a line feed, and may
end in the middle of one. The bytes reach the other side in pieces. Cut where they may be, the lines
read from them are the lines that were printed (`Prints.linesWritten`).
-/

namespace AppBundle

/-! ## Cutting -/

theorem cutLines_of_notMem {tail : List UInt8} (h : 10 ∉ tail) : cutLines tail = ([], tail) := by
  induction tail with
  | nil => rfl
  | cons b tail ih =>
    rw [List.mem_cons, not_or] at h
    rw [cutLines, ih h.2]
    exact if_neg (Ne.symm h.1)

/-- A line feed ends a line, which is cut off in front of the rest. -/
theorem cutLines_line {line : List UInt8} (h : 10 ∉ line) (rest : List UInt8) :
    cutLines (line ++ 10 :: rest) = (line :: (cutLines rest).1, (cutLines rest).2) := by
  induction line with
  | nil =>
    rw [List.nil_append, cutLines]
    exact if_pos rfl
  | cons b line ih =>
    rw [List.mem_cons, not_or] at h
    rw [List.cons_append, cutLines, ih h.2]
    exact if_neg (Ne.symm h.1)

/-- Bytes are lines without a line feed, each ended by one, and the beginning of another. -/
theorem exists_lines (bytes : List UInt8) :
    ∃ (lines : List (List UInt8)) (tail : List UInt8),
      bytes = lines.flatMap (· ++ [10]) ++ tail ∧ (∀ line ∈ lines, 10 ∉ line) ∧ 10 ∉ tail := by
  induction bytes with
  | nil => exact ⟨[], [], rfl, by simp, List.not_mem_nil⟩
  | cons b rest ih =>
    obtain ⟨lines, tail, rfl, hlines, htail⟩ := ih
    by_cases hb : b = 10
    · subst hb
      refine ⟨[] :: lines, tail, rfl, fun line hline => ?_, htail⟩
      rcases List.mem_cons.mp hline with rfl | hline
      · exact List.not_mem_nil
      · exact hlines line hline
    · cases lines with
      | nil =>
        refine ⟨[], b :: tail, rfl, hlines, ?_⟩
        rw [List.mem_cons, not_or]
        exact ⟨Ne.symm hb, htail⟩
      | cons line lines =>
        refine ⟨(b :: line) :: lines, tail, rfl, fun l hl => ?_, htail⟩
        rcases List.mem_cons.mp hl with rfl | hl
        · rw [List.mem_cons, not_or]
          exact ⟨Ne.symm hb, hlines line List.mem_cons_self⟩
        · exact hlines l (List.mem_cons_of_mem line hl)

theorem cutLines_lines {lines : List (List UInt8)} (h : ∀ line ∈ lines, 10 ∉ line)
    (rest : List UInt8) :
    cutLines (lines.flatMap (· ++ [10]) ++ rest) =
      (lines ++ (cutLines rest).1, (cutLines rest).2) := by
  induction lines with
  | nil => rfl
  | cons line lines ih =>
    rw [List.flatMap_cons, List.append_assoc, List.append_assoc, List.singleton_append,
      cutLines_line (h line List.mem_cons_self), ih fun l hl => h l (List.mem_cons_of_mem line hl)]
    rfl

/-- Bytes in two pieces are cut as they come: what the first piece leaves is cut with the second. -/
theorem cutLines_append (front back : List UInt8) :
    cutLines (front ++ back) =
      ((cutLines front).1 ++ (cutLines ((cutLines front).2 ++ back)).1,
        (cutLines ((cutLines front).2 ++ back)).2) := by
  obtain ⟨lines, tail, rfl, hlines, htail⟩ := exists_lines front
  rw [List.append_assoc, cutLines_lines hlines, cutLines_lines hlines, cutLines_of_notMem htail,
    List.append_nil]

/-! ## Lines that are printed -/

/-- A line as it is printed: its text, and whether a carriage return stands in front of the line feed
that ends it. -/
structure PrintedLine where
  /-- The text. -/
  text : String
  /-- Whether a carriage return ends it. -/
  returned : Bool
  /-- It is one line. -/
  feed_notMem : '\n' ∉ text.toList
  /-- A carriage return at the end of a line belongs to what ends it. -/
  no_return : returned = false → text.toList.getLast? ≠ some '\r'

namespace PrintedLine

/-- A line without the line feed that ends it. -/
def chars (l : PrintedLine) : List Char :=
  l.text.toList ++ if l.returned then ['\r'] else []

/-- The bytes of lines. -/
def bytes (ls : List PrintedLine) : List UInt8 :=
  Text.encode (ls.flatMap fun l => l.chars ++ ['\n'])

/-- The texts of lines. -/
def texts (ls : List PrintedLine) : List String := ls.map (·.text)

variable (l : PrintedLine)

theorem feed_notMem_chars : '\n' ∉ l.chars := by
  rw [chars, List.mem_append, not_or]
  refine ⟨l.feed_notMem, ?_⟩
  split <;> simp

/-- A printed line is read as its text. -/
theorem lineText?_encode : lineText? (Text.encode l.chars) = some l.text := by
  have hdecode := Text.decode?_encode (String.ofList l.chars)
  rw [String.toList_ofList] at hdecode
  rw [lineText?, hdecode, Option.map_some, String.toList_ofList]
  cases hreturned : l.returned with
  | true =>
    have hchars : l.chars = l.text.toList ++ ['\r'] := by simp [chars, hreturned]
    rw [hchars, List.getLast?_concat, if_pos rfl, List.dropLast_concat, String.ofList_toList]
  | false =>
    have hchars : l.chars = l.text.toList := by simp [chars, hreturned]
    rw [hchars, if_neg (l.no_return hreturned), String.ofList_toList]

theorem bytes_eq (ls : List PrintedLine) :
    bytes ls = (ls.map fun l => Text.encode l.chars).flatMap (· ++ [10]) := by
  induction ls with
  | nil => rfl
  | cons l ls ih =>
    rw [bytes, List.flatMap_cons, Text.encode_append, Text.encode_append, List.map_cons,
      List.flatMap_cons, ← ih]
    rfl

/-- Printed lines are cut from what follows them. -/
theorem cutLines_bytes (ls : List PrintedLine) (rest : List UInt8) :
    cutLines (bytes ls ++ rest) =
      (ls.map (fun l => Text.encode l.chars) ++ (cutLines rest).1, (cutLines rest).2) := by
  rw [bytes_eq]
  refine cutLines_lines (fun line hline => ?_) rest
  obtain ⟨l, -, rfl⟩ := List.mem_map.mp hline
  exact Text.feed_notMem_encode l.feed_notMem_chars

theorem lineText?_lines (ls : List PrintedLine) :
    (ls.map fun l => Text.encode l.chars).map lineText? = (texts ls).map some := by
  rw [texts, List.map_map, List.map_map]
  exact List.map_congr_left fun l _ => l.lineText?_encode

end PrintedLine

/-! ## All that a program writes -/

/-- The lines of all that a program wrote. When it has ended, a line that it has begun ends too. -/
def linesWritten (bytes : List UInt8) (ended : Bool) : List (Option String) :=
  (cutLines bytes).1.map lineText? ++
    if ended && !(cutLines bytes).2.isEmpty then [Text.decode? (cutLines bytes).2] else []

/-- The lines of what a program wrote in two pieces. -/
theorem linesWritten_append (front back : List UInt8) (ended : Bool) :
    linesWritten (front ++ back) ended =
      linesWritten front false ++ linesWritten ((cutLines front).2 ++ back) ended := by
  simp only [linesWritten, cutLines_append front back, List.map_append, List.append_assoc,
    Bool.false_and, Bool.false_eq_true, if_false, List.nil_append]

/-- The bytes of a program that prints lines of text. -/
inductive Prints : List UInt8 → Bool → List String → Prop where
  /-- It goes on, perhaps in the middle of a line. -/
  | running (ls : List PrintedLine) {tail : List UInt8} (htail : 10 ∉ tail) :
    Prints (PrintedLine.bytes ls ++ tail) false (PrintedLine.texts ls)
  /-- It ended behind a line. -/
  | ended (ls : List PrintedLine) : Prints (PrintedLine.bytes ls) true (PrintedLine.texts ls)
  /-- It ended in the middle of a line. -/
  | cutOff (ls : List PrintedLine) {last : String} (hne : last ≠ "") (hfeed : '\n' ∉ last.toList) :
    Prints (PrintedLine.bytes ls ++ Text.encode last.toList) true (PrintedLine.texts ls ++ [last])

/-- The lines that are printed are the lines that are read. -/
theorem Prints.linesWritten {bytes : List UInt8} {ended : Bool} {lines : List String}
    (h : Prints bytes ended lines) : linesWritten bytes ended = lines.map some := by
  cases h with
  | running ls htail =>
    rw [AppBundle.linesWritten, PrintedLine.cutLines_bytes, cutLines_of_notMem htail,
      List.append_nil, PrintedLine.lineText?_lines]
    exact List.append_nil _
  | ended ls =>
    rw [← List.append_nil (PrintedLine.bytes ls), AppBundle.linesWritten, PrintedLine.cutLines_bytes,
      cutLines, List.append_nil, PrintedLine.lineText?_lines]
    exact List.append_nil _
  | @cutOff ls last hne hfeed =>
    have hsome : (Text.encode last.toList).isEmpty = false := by
      rw [List.isEmpty_eq_false_iff]
      intro hnil
      exact hne (String.toList_eq_nil_iff.mp (Text.encode_eq_nil.mp hnil))
    rw [AppBundle.linesWritten, PrintedLine.cutLines_bytes,
      cutLines_of_notMem (Text.feed_notMem_encode hfeed), List.append_nil,
      PrintedLine.lineText?_lines, List.map_append]
    simp only [hsome, Text.decode?_encode, Bool.not_false, Bool.and_self, if_true, List.map_cons,
      List.map_nil]

end AppBundle
