/-! White space and the ways a text is cut by it: trimming, words, and pieces between separators.
Texts are lists of characters here, so that each cut is a plain list function. -/
namespace Conform.Text

/-- White space as the character standard defines it. -/
def isBlank (c : Char) : Bool :=
  let n := c.toNat
  (9 ≤ n && n ≤ 13) || n == 0x20 || n == 0x85 || n == 0xA0 || n == 0x1680 ||
    (0x2000 ≤ n && n ≤ 0x200A) || n == 0x2028 || n == 0x2029 || n == 0x202F || n == 0x205F ||
    n == 0x3000

def trimStart (s : List Char) : List Char := s.dropWhile isBlank

def trimEnd (s : List Char) : List Char := (s.reverse.dropWhile isBlank).reverse

def trim (s : List Char) : List Char := trimEnd (trimStart s)

/-- The pieces between the members that `cut` selects; always at least one piece. -/
def pieces (cut : α → Bool) : List α → List (List α)
  | [] => [[]]
  | c :: rest =>
    if cut c then [] :: pieces cut rest
    else match pieces cut rest with
      | [] => [[c]]
      | piece :: others => (c :: piece) :: others

/-- The maximal runs without white space. -/
def words (s : List Char) : List (List Char) := (pieces isBlank s).filter (!·.isEmpty)

/-- The texts between line breaks. -/
def lines (s : List Char) : List (List Char) := pieces (· == '\n') s

theorem pieces_ne_nil (cut : α → Bool) (s : List α) : pieces cut s ≠ [] := by
  cases s with
  | nil => simp [pieces]
  | cons c rest =>
    unfold pieces
    split
    · simp
    · split <;> simp

end Conform.Text
