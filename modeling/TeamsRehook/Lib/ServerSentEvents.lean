import Mathlib.Data.List.Infix
import Mathlib.Tactic.Common

/-!
# Server-sent events

The messages of a `text/event-stream`, written one after the other, and what a reader of the stream makes of its text:
it takes the lines that are complete, gathers the fields of a message, and hands the message out at the blank line that
ends it. What is read of the beginning of a stream is the beginning of the messages that were written (`read_begun`): a
message that has not wholly arrived is not handed out, and the whole text gives them all (`read_write`).
-/

namespace ServerSentEvents

/-- A message. -/
structure Message where
  id : List Char
  event : List Char
  data : List Char
  deriving DecidableEq, Repr

/-- Whether the character ends a line. -/
def endsLine (c : Char) : Bool := c = '\n' || c = '\r'

/-- The fields of the message can be written on a line each, and a reader takes the id. -/
structure Message.Plain (m : Message) : Prop where
  id : ∀ c ∈ m.id, endsLine c = false ∧ c ≠ Char.ofNat 0
  event : ∀ c ∈ m.event, endsLine c = false
  data : ∀ c ∈ m.data, endsLine c = false
  named : m.event ≠ []

/-- The text of a message. -/
def write (m : Message) : List Char :=
  "id: ".toList ++ m.id ++ '\n' :: ("event: ".toList ++ m.event ++ '\n' :: ("data: ".toList ++ m.data ++ ['\n', '\n']))

/-! ## Reading -/

/-- The lines of a text that are complete: each is ended by `\n`, by `\r`, or by both. `line` is the beginning of the
current one, backwards. -/
def completeLines : (line : List Char) → List Char → List (List Char)
  | _, [] => []
  | line, '\r' :: '\n' :: cs => line.reverse :: completeLines [] cs
  | line, c :: cs => if endsLine c then line.reverse :: completeLines [] cs else completeLines (c :: line) cs

/-- The name and the value of a line. One space after the colon does not count. -/
def field (line : List Char) : List Char × List Char :=
  match line.dropWhile (· ≠ ':') with
  | [] => (line, [])
  | _ :: ' ' :: value => (line.takeWhile (· ≠ ':'), value)
  | _ :: value => (line.takeWhile (· ≠ ':'), value)

/-- What the reader has gathered, and the messages it has handed out. -/
structure Reader where
  lastId : List Char := []
  event : List Char := []
  data : List Char := []
  messages : List Message := []
  deriving DecidableEq, Repr

/-- The blank line: a message without data is dropped. -/
def Reader.dispatch (r : Reader) : Reader :=
  if r.data = [] then { r with event := [] }
  else
    { r with
      event := []
      data := []
      messages := r.messages ++ [⟨r.lastId, if r.event = [] then "message".toList else r.event, r.data.dropLast⟩] }

/-- The next line. -/
def Reader.line (r : Reader) (line : List Char) : Reader :=
  if line = [] then r.dispatch
  else
    match field line with
    | (name, value) =>
      if name = "event".toList then { r with event := value }
      else if name = "data".toList then { r with data := r.data ++ value ++ ['\n'] }
      else if name = "id".toList ∧ Char.ofNat 0 ∉ value then { r with lastId := value }
      else r

/-- The messages of a text. -/
def read (text : List Char) : List Message := ((completeLines [] text).foldl Reader.line {}).messages

example : read ": ping\nid: 7\nevent: a.b\ndata: {}\n\nid: 8\ndata: x\ndata: y\n\ndata: cut".toList =
    [⟨"7".toList, "a.b".toList, "{}".toList⟩, ⟨"8".toList, "message".toList, "x\ny".toList⟩] := by decide

/-! ## What is read of what was written -/

/-- The lines of a message, the blank one last. -/
def lines (m : Message) : List (List Char) :=
  ["id: ".toList ++ m.id, "event: ".toList ++ m.event, "data: ".toList ++ m.data, []]

/-- A line feed ends the line. -/
theorem completeLines_line {xs : List Char} (hxs : ∀ c ∈ xs, endsLine c = false) (line cs : List Char) :
    completeLines line (xs ++ '\n' :: cs) = (line.reverse ++ xs) :: completeLines [] cs := by
  induction xs generalizing line with
  | nil => simp [completeLines, endsLine]
  | cons x xs ih =>
    have hx := hxs x List.mem_cons_self
    have hne : x ≠ '\r' := by
      rintro rfl
      simp [endsLine] at hx
    rw [List.cons_append, completeLines.eq_3 _ _ _ (by simp [hne]), if_neg (by simp [hx]), ih fun c hc =>
      hxs c (List.mem_cons_of_mem _ hc)]
    simp

/-- A text that breaks off in a line has the lines before it. -/
theorem completeLines_of_plain {xs : List Char} (hxs : ∀ c ∈ xs, endsLine c = false) (line : List Char) :
    completeLines line xs = [] := by
  induction xs generalizing line with
  | nil => rfl
  | cons x xs ih =>
    have hx := hxs x List.mem_cons_self
    have hne : x ≠ '\r' := by
      rintro rfl
      simp [endsLine] at hx
    rw [completeLines.eq_3 _ _ _ (by simp [hne]), if_neg (by simp [hx]), ih fun c hc => hxs c (List.mem_cons_of_mem _ hc)]

/-- The complete lines of the beginning of a text are the first of its lines. -/
theorem completeLines_begun {ls : List (List Char)} (hls : ∀ l ∈ ls, ∀ c ∈ l, endsLine c = false) {text : List Char}
    (htext : text <+: ls.flatMap (· ++ ['\n'])) : completeLines [] text <+: ls := by
  induction ls generalizing text with
  | nil =>
    rw [List.prefix_nil.1 htext]
    exact List.prefix_rfl
  | cons l ls ih =>
    have hl := hls l List.mem_cons_self
    rw [List.flatMap_cons] at htext
    -- The text breaks off in the first line, or has it whole.
    have hcut : text <+: l ∨ ∃ rest, text = l ++ '\n' :: rest := by
      rcases List.prefix_or_prefix_of_prefix htext (List.prefix_append _ _) with h | ⟨rest, rfl⟩
      · rcases List.prefix_concat_iff.1 h with rfl | h
        · exact .inr ⟨[], rfl⟩
        · exact .inl h
      · exact .inr ⟨rest, by rw [List.append_assoc, List.singleton_append]⟩
    rcases hcut with hcut | ⟨rest, rfl⟩
    · rw [completeLines_of_plain fun c hc => hl c (hcut.subset hc)]
      exact List.nil_prefix
    · rw [List.append_assoc, List.singleton_append, List.prefix_append_right_inj] at htext
      rw [completeLines_line hl]
      exact List.cons_prefix_cons.2
        ⟨rfl, ih (fun l hl => hls l (List.mem_cons_of_mem _ hl)) (List.cons_prefix_cons.1 htext).2⟩

/-- The whole text has them all. -/
theorem completeLines_flatMap {ls : List (List Char)} (hls : ∀ l ∈ ls, ∀ c ∈ l, endsLine c = false) :
    completeLines [] (ls.flatMap (· ++ ['\n'])) = ls := by
  induction ls with
  | nil => rfl
  | cons l ls ih =>
    rw [List.flatMap_cons, List.append_assoc, List.singleton_append, completeLines_line (hls l List.mem_cons_self),
      ih fun l hl => hls l (List.mem_cons_of_mem _ hl)]
    rfl

/-- A field name without an end of line. -/
theorem name_plain {name : List Char} (h : (name.all fun c => !endsLine c) = true) : ∀ c ∈ name, endsLine c = false := by
  intro c hc
  simpa using List.all_eq_true.1 h c hc

/-- The lines of a plain message have no end of line within. -/
theorem lines_plain {m : Message} (hm : m.Plain) : ∀ l ∈ lines m, ∀ c ∈ l, endsLine c = false := by
  intro l hl c hc
  simp only [lines, List.mem_cons, List.not_mem_nil, or_false] at hl
  rcases hl with rfl | rfl | rfl | rfl
  · rcases List.mem_append.1 hc with hc | hc
    · exact name_plain (by decide) c hc
    · exact (hm.id c hc).1
  · rcases List.mem_append.1 hc with hc | hc
    · exact name_plain (by decide) c hc
    · exact hm.event c hc
  · rcases List.mem_append.1 hc with hc | hc
    · exact name_plain (by decide) c hc
    · exact hm.data c hc
  · exact absurd hc List.not_mem_nil

/-- A message is written as its lines. -/
theorem write_eq (m : Message) : write m = (lines m).flatMap (· ++ ['\n']) := by
  simp [write, lines]

/-- The field of an id. -/
theorem field_id (value : List Char) : field ("id: ".toList ++ value) = ("id".toList, value) := rfl

/-- The field of an event type. -/
theorem field_event (value : List Char) : field ("event: ".toList ++ value) = ("event".toList, value) := rfl

/-- The field of data. -/
theorem field_data (value : List Char) : field ("data: ".toList ++ value) = ("data".toList, value) := rfl

/-- A reader that has no message begun. -/
structure Reader.Idle (r : Reader) : Prop where
  event : r.event = []
  data : r.data = []

/-- A line with an id sets the last id. -/
theorem Reader.line_id {m : Message} (hm : m.Plain) (r : Reader) :
    r.line ("id: ".toList ++ m.id) = { r with lastId := m.id } := by
  have hnul : Char.ofNat 0 ∉ m.id := fun h => (hm.id _ h).2 rfl
  rw [Reader.line, if_neg (by simp), field_id]
  dsimp only
  rw [if_neg (by decide), if_neg (by decide), if_pos ⟨rfl, hnul⟩]

/-- A line with an event type sets the type. -/
theorem Reader.line_event (r : Reader) (event : List Char) :
    r.line ("event: ".toList ++ event) = { r with event := event } := by
  rw [Reader.line, if_neg (by simp), field_event]
  dsimp only
  rw [if_pos rfl]

/-- A line of data is added to the data. -/
theorem Reader.line_data (r : Reader) (data : List Char) :
    r.line ("data: ".toList ++ data) = { r with data := r.data ++ data ++ ['\n'] } := by
  rw [Reader.line, if_neg (by simp), field_data]
  dsimp only
  rw [if_neg (by decide), if_pos rfl]

/-- The blank line hands out a message that has an event and data. -/
theorem Reader.dispatch_message {r : Reader} {data : List Char} (hdata : r.data = data ++ ['\n'])
    (hevent : r.event ≠ []) :
    r.dispatch = { r with event := [], data := [], messages := r.messages ++ [⟨r.lastId, r.event, data⟩] } := by
  rw [Reader.dispatch, if_neg (by simp [hdata]), if_neg hevent, hdata, List.dropLast_concat]

/-- The lines of a message hand it out. -/
theorem Reader.foldl_lines {m : Message} (hm : m.Plain) {r : Reader} (hr : r.Idle) :
    (lines m).foldl Reader.line r = { r with lastId := m.id, messages := r.messages ++ [m] } := by
  rw [lines, List.foldl_cons, List.foldl_cons, List.foldl_cons, List.foldl_cons, List.foldl_nil, r.line_id hm,
    Reader.line_event, Reader.line_data, Reader.line, if_pos rfl,
      Reader.dispatch_message (by rw [hr.data, List.nil_append]) hm.named]
  simp only [hr.event, hr.data]

/-- Only a blank line hands out a message. -/
theorem Reader.foldl_of_ne_nil {part : List (List Char)} (hpart : ∀ l ∈ part, l ≠ []) (r : Reader) :
    (part.foldl Reader.line r).messages = r.messages := by
  induction part generalizing r with
  | nil => rfl
  | cons l part ih =>
    have hl : (r.line l).messages = r.messages := by
      rw [Reader.line, if_neg (hpart l List.mem_cons_self)]
      dsimp only
      split
      · rfl
      · split
        · rfl
        · split <;> rfl
    rw [List.foldl_cons, ih (fun l hl => hpart l (List.mem_cons_of_mem _ hl)), hl]

/-- A reader that is given the first lines of some messages hands out the first of the messages. -/
theorem Reader.foldl_begun {ms : List Message} (hms : ∀ m ∈ ms, m.Plain) {r : Reader} (hr : r.Idle)
    {part : List (List Char)} (hpart : part <+: ms.flatMap lines) : (part.foldl Reader.line r).messages <+:
    r.messages ++ ms := by
  induction ms generalizing r part with
  | nil =>
    rw [List.prefix_nil.1 hpart]
    exact List.prefix_append _ _
  | cons m ms ih =>
    have hm := hms m List.mem_cons_self
    rw [List.flatMap_cons] at hpart
    rcases List.prefix_or_prefix_of_prefix hpart (List.prefix_append _ _) with hcut | ⟨rest, rfl⟩
    · have hlast : lines m = (lines m).dropLast ++ [[]] := rfl
      rw [hlast] at hcut
      rcases List.prefix_concat_iff.1 hcut with rfl | hcut
      · rw [← hlast, Reader.foldl_lines hm hr]
        exact (List.prefix_append_right_inj r.messages).2 (List.prefix_append [m] ms)
      · rw [Reader.foldl_of_ne_nil]
        · exact List.prefix_append _ _
        · intro l hl
          have hline := hcut.subset hl
          simp only [lines, List.dropLast, List.mem_cons, List.not_mem_nil, or_false] at hline
          rcases hline with rfl | rfl | rfl <;> simp
    · rw [List.prefix_append_right_inj] at hpart
      have hidle : Reader.Idle { r with lastId := m.id, messages := r.messages ++ [m] } := ⟨hr.event, hr.data⟩
      rw [List.foldl_append, Reader.foldl_lines hm hr, List.append_cons r.messages m ms]
      exact ih (fun m hm => hms m (List.mem_cons_of_mem _ hm)) hidle hpart

/-- All the lines give all the messages. -/
theorem Reader.foldl_flatMap {ms : List Message} (hms : ∀ m ∈ ms, m.Plain) {r : Reader} (hr : r.Idle) :
    ((ms.flatMap lines).foldl Reader.line r).messages = r.messages ++ ms := by
  induction ms generalizing r with
  | nil => exact (List.append_nil _).symm
  | cons m ms ih =>
    have hidle : Reader.Idle { r with lastId := m.id, messages := r.messages ++ [m] } := ⟨hr.event, hr.data⟩
    rw [List.flatMap_cons, List.foldl_append, Reader.foldl_lines (hms m List.mem_cons_self) hr,
      ih (fun m hm => hms m (List.mem_cons_of_mem _ hm)) hidle, ← List.append_cons]

/-- Messages are written as their lines. -/
theorem flatMap_write (ms : List Message) : ms.flatMap write = (ms.flatMap lines).flatMap (· ++ ['\n']) := by
  rw [List.flatMap_assoc]
  exact List.flatMap_congr fun m _ => write_eq m

/-- The lines of plain messages have no end of line within. -/
theorem flatMap_lines_plain {ms : List Message} (hms : ∀ m ∈ ms, m.Plain) :
    ∀ l ∈ ms.flatMap lines, ∀ c ∈ l, endsLine c = false := by
  intro l hl
  obtain ⟨m, hm, hl⟩ := List.mem_flatMap.1 hl
  exact lines_plain (hms m hm) l hl

/-- What is read of the beginning of a stream is the beginning of what was written. -/
theorem read_begun {ms : List Message} (hms : ∀ m ∈ ms, m.Plain) {text : List Char} (htext : text <+: ms.flatMap write) :
    read text <+: ms := by
  rw [flatMap_write] at htext
  exact Reader.foldl_begun hms ⟨rfl, rfl⟩ (completeLines_begun (flatMap_lines_plain hms) htext)

/-- What is read of the whole stream is what was written. -/
theorem read_write {ms : List Message} (hms : ∀ m ∈ ms, m.Plain) : read (ms.flatMap write) = ms := by
  rw [flatMap_write, read, completeLines_flatMap (flatMap_lines_plain hms), Reader.foldl_flatMap hms ⟨rfl, rfl⟩]
  rfl

end ServerSentEvents
