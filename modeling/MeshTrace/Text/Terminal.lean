/-!
# Texts without what steers a terminal

Some characters are not shown by a terminal but steer it, alone or together with the
characters behind them.  A text that is shown elsewhere does without them.  It is read
character by character; a **mode** says what the characters so far have left open.
Where a character lays out the text in the middle of a sequence, the text goes on and
the sequence waits for the next character that is not shown.

* `visible_eq_self` — a text without control characters stays as it is.
* `shows_of_mem_visible` — nothing else than shown characters is left.
-/

namespace MeshTrace.Text

/-- What a terminal takes the next character for. -/
inductive Mode where
  /-- A character of the text. -/
  | text
  /-- The first character behind an escape. -/
  | escape
  /-- The rest of a short sequence, up to its final character. -/
  | short
  /-- The rest of a control sequence, up to its final character. -/
  | control
  /-- A part of a title or another command, up to a bell. -/
  | command
  /-- The first character of a string for a device. -/
  | device
  /-- A part of the numbers in front of such a string. -/
  | deviceNumbers
  /-- A part of the marks in front of such a string. -/
  | deviceMarks
  /-- A part of a string, up to its terminator. -/
  | string
deriving Repr, DecidableEq

/-- The control characters that lay out a text.  They are shown. -/
def isLayout (c : Char) : Bool :=
  c == '\t' || c == '\n' || c == '\x0c' || c == '\r'

/-- The byte that ends a string, also in the middle of a character. -/
def terminator : UInt8 := 0x9c

/-- What a terminal takes the character behind `c` for.  Escape always opens a sequence,
and cancel and substitute end what is open. -/
def Mode.next (mode : Mode) (c : Char) : Mode :=
  if c = '\x1b' then escape
  else if c = '\x18' ∨ c = '\x1a' then text
  else match mode with
  | text => text
  | escape =>
    if c = '[' then control
    else if c = ']' then command
    else if c = 'P' then device
    else if c = 'X' ∨ c = '^' ∨ c = '_' then string
    else if ' ' ≤ c ∧ c ≤ '/' then short
    else if '0' ≤ c ∧ c ≤ '~' then text
    else escape
  | short => if '0' ≤ c ∧ c ≤ '~' then text else short
  | control => if '@' ≤ c ∧ c ≤ '~' then text else control
  | command => if c = '\x07' then text else command
  | device =>
    if ' ' ≤ c ∧ c ≤ '/' then deviceMarks
    else if '0' ≤ c ∧ c ≤ '?' then deviceNumbers
    else if '@' ≤ c ∧ c ≤ '~' then string
    else device
  | deviceNumbers =>
    if ' ' ≤ c ∧ c ≤ '/' then deviceMarks
    else if '<' ≤ c ∧ c ≤ '~' then string
    else deviceNumbers
  | deviceMarks => if '0' ≤ c ∧ c ≤ '~' then string else deviceMarks
  | string => if (String.utf8EncodeChar c).contains terminator then text else string

/-- Whether a character is shown: in the text all but the control characters that do not
lay it out, in an open sequence only those that do, in a string none. -/
def Mode.shows (mode : Mode) (c : Char) : Bool :=
  match mode with
  | text => isLayout c || (' ' ≤ c && c ≠ '\x7f')
  | escape | short | control => isLayout c
  | command | device | deviceNumbers | deviceMarks | string => false

/-- How far a text has been read. -/
structure Reading where
  /-- What has been left open. -/
  mode : Mode := .text
  /-- Whether what is open waits until the text that goes on meanwhile ends. -/
  waits : Bool := false
deriving Repr, DecidableEq

/-- Whether the next character is shown. -/
def Reading.shows (reading : Reading) (c : Char) : Bool :=
  if reading.waits then Mode.text.shows c else reading.mode.shows c

/-- Reads one more character.  What is open waits for the end of the text that is shown,
unless a character beyond ASCII in it makes it forgotten. -/
def Reading.next (reading : Reading) (c : Char) : Reading :=
  if reading.shows c then
    if c.toNat < 0x80 then { reading with waits := true } else {}
  else { mode := reading.mode.next c }

/-- The characters that are shown of those that are still to be read. -/
def visible (reading : Reading) : List Char → List Char
  | [] => []
  | c :: rest =>
    if reading.shows c then c :: visible (reading.next c) rest
    else visible (reading.next c) rest

/-- A text without what would steer a terminal. -/
def withoutControls (s : String) : String :=
  String.ofList (visible {} s.toList)

/-- A character that lays out a text is shown as a part of it. -/
theorem Mode.text_shows_of_isLayout {c : Char} (h : isLayout c = true) :
    text.shows c = true := by
  simp [shows, h]

/-- Whatever is shown in a sequence would be shown in the text. -/
theorem Mode.text_shows_of_shows {mode : Mode} {c : Char} (h : mode.shows c = true) :
    text.shows c = true := by
  cases mode with
  | text => exact h
  | escape | short | control => exact text_shows_of_isLayout h
  | command | device | deviceNumbers | deviceMarks | string => simp [shows] at h

/-- Whatever is shown would be shown in the text. -/
theorem Reading.text_shows_of_shows {reading : Reading} {c : Char}
    (h : reading.shows c = true) : Mode.text.shows c = true := by
  unfold shows at h
  split at h
  · exact h
  · exact Mode.text_shows_of_shows h

/-- As long as nothing is open, a character is shown if it would be in the text. -/
theorem Reading.shows_of_mode_eq_text {reading : Reading} (h : reading.mode = .text) (c : Char) :
    reading.shows c = Mode.text.shows c := by
  simp [shows, h]

/-- A character that is shown opens nothing. -/
theorem Reading.mode_next_of_shows {reading : Reading} {c : Char} (hm : reading.mode = .text)
    (h : reading.shows c = true) : (reading.next c).mode = .text := by
  rw [next, if_pos h]
  split
  · exact hm
  · rfl

/-- A text without control characters stays as it is. -/
theorem visible_eq_self {reading : Reading} {s : List Char} (hm : reading.mode = .text)
    (h : ∀ c ∈ s, Mode.text.shows c = true) : visible reading s = s := by
  induction s generalizing reading with
  | nil => rfl
  | cons c rest ih =>
    have hc : reading.shows c = true := by
      rw [Reading.shows_of_mode_eq_text hm]
      exact h c (by simp)
    rw [visible, if_pos hc, ih (Reading.mode_next_of_shows hm hc) fun d hd => h d (by simp [hd])]

/-- Nothing else than shown characters is left. -/
theorem shows_of_mem_visible {reading : Reading} {s : List Char} {c : Char}
    (h : c ∈ visible reading s) : Mode.text.shows c = true := by
  induction s generalizing reading with
  | nil => simp [visible] at h
  | cons d rest ih =>
    by_cases hd : reading.shows d = true
    · simp only [visible, if_pos hd, List.mem_cons] at h
      rcases h with rfl | h
      · exact Reading.text_shows_of_shows hd
      · exact ih h
    · simp only [visible, if_neg hd] at h
      exact ih h

/-- Colours go, and so does the title of a window. -/
example : visible {} "a\x1b[1;4mb\x1b[m\x1b]0;title\x07c\x07".toList = ['a', 'b', 'c'] := by
  decide +kernel

/-- The end of a line is shown in a sequence, but not in a string. -/
example : visible {} "a\x1b[1\nb\x1bP1\nc".toList = ['a', '\n', 'b'] := by
  decide +kernel

/-- A sequence that waited goes on behind the text. -/
example : visible {} "a\x1b[1\tb\x07mc\x1b[1\té\x07m".toList =
    ['a', '\t', 'b', 'c', '\t', 'é', 'm'] := by
  decide +kernel

end MeshTrace.Text
