/-!
Text in pieces between marks. There is always one piece more than there are marks, so pieces can be
empty, and with the marks between them they are the whole text.
-/
namespace CloudKeeper.Text

/-- The pieces of a text between the characters that are marks. -/
def pieces (isMark : Char → Bool) : List Char → List (List Char)
  | [] => [[]]
  | c :: rest =>
    if isMark c then [] :: pieces isMark rest
    else match pieces isMark rest with
      | [] => [[c]]
      | p :: others => (c :: p) :: others

theorem pieces_ne_nil (isMark : Char → Bool) (cs : List Char) : pieces isMark cs ≠ [] := by
  cases cs with
  | nil => simp [pieces]
  | cons c rest =>
    simp only [pieces]
    split
    · simp
    · split <;> simp

theorem pieces_of_unmarked {isMark : Char → Bool} {cs : List Char} (unmarked : ∀ c ∈ cs, isMark c = false) :
    pieces isMark cs = [cs] := by
  induction cs with
  | nil => rfl
  | cons c rest ih =>
    have plain := unmarked c List.mem_cons_self
    simp [pieces, plain, ih fun c member => unmarked c (List.mem_cons_of_mem _ member)]

/-- A mark parts a text into the pieces before it and those behind it. -/
theorem pieces_append_mark {isMark : Char → Bool} {mark : Char} (marks : isMark mark = true)
    (before behind : List Char) :
    pieces isMark (before ++ mark :: behind) = pieces isMark before ++ pieces isMark behind := by
  induction before with
  | nil => simp [pieces, marks]
  | cons c rest ih =>
    by_cases mark : isMark c = true
    · simp [pieces, mark, ih]
    · cases found : pieces isMark rest with
      | nil => exact absurd found (pieces_ne_nil isMark rest)
      | cons p others =>
        rw [found] at ih
        simp [pieces, mark, found, ih]

end CloudKeeper.Text
