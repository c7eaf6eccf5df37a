/-!
Blank characters and trimming. A character is blank when it has the Unicode property White_Space;
the zero-width space and the byte order mark are not blank. The narrower class of ASCII blanks is the
one that separates class tokens and that the page reader skips.
-/
namespace PageBlocks.Text

/-- The code points with the Unicode property White_Space. -/
def isBlank (c : Char) : Bool :=
  let n := c.toNat
  (9 ≤ n && n ≤ 13) || n == 0x20 || n == 0x85 || n == 0xA0 || n == 0x1680 ||
    (0x2000 ≤ n && n ≤ 0x200A) || n == 0x2028 || n == 0x2029 || n == 0x202F || n == 0x205F ||
    n == 0x3000

/-- Tab, line feed, form feed, carriage return and space. -/
def isAsciiBlank (c : Char) : Bool :=
  c == ' ' || c == '\n' || c == '\t' || c == '\r' || c == '\x0c'

theorem isBlank_of_isAsciiBlank {c : Char} (h : isAsciiBlank c = true) : isBlank c = true := by
  simp only [isAsciiBlank, Bool.or_eq_true, beq_iff_eq] at h
  rcases h with (((h | h) | h) | h) | h <;> subst h <;> decide

def trimStartChars (cs : List Char) : List Char := cs.dropWhile isBlank

def trimEndChars (cs : List Char) : List Char := (cs.reverse.dropWhile isBlank).reverse

def trimChars (cs : List Char) : List Char := trimEndChars (trimStartChars cs)

/-- Remove blanks from both ends. -/
def trim (s : String) : String := String.ofList (trimChars s.toList)

/-- Empty or made of blanks only. -/
def isAllBlank (s : String) : Bool := s.toList.all isBlank

/-- The trimmed text, unless nothing is left of it. -/
def trimmed? (s : String) : Option String :=
  let t := trim s
  if t.isEmpty then none else some t

/-- The maximal runs of characters that are not ASCII blanks. -/
def words (s : String) : List String :=
  ((s.toList.splitBy fun a b => isAsciiBlank a == isAsciiBlank b).filter
    fun run => !(run.all isAsciiBlank)).map String.ofList

theorem trimStartChars_of_head {c : Char} {cs : List Char} (h : isBlank c = false) :
    trimStartChars (c :: cs) = c :: cs := by
  simp [trimStartChars, List.dropWhile, h]

end PageBlocks.Text
