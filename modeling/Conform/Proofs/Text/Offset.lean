import Conform.Proofs.Text.Blank

/-! Byte offsets. A text can be cut in two at an offset that lies within it and between two
characters, and nowhere else. -/
namespace Conform.Text

/-- The number of bytes that the text takes. -/
def byteSize (s : List Char) : Nat := (String.ofList s).utf8ByteSize

/-- What stands before the offset and what stands after it. There is no cut past the end of the text
or within a character. -/
def cutAt? (offset : Nat) (s : List Char) : Option (List Char × List Char) :=
  let text := String.ofList s
  if valid : (⟨offset⟩ : String.Pos.Raw).IsValid text then
    let place := text.pos ⟨offset⟩ valid
    some ((text.sliceTo place).copy.toList, (text.sliceFrom place).copy.toList)
  else none

theorem byteSize_cons (c : Char) (s : List Char) : byteSize (c :: s) = c.utf8Size + byteSize s := by
  simp [byteSize]

/-- Behind a beginning of the text there is a cut. -/
theorem cutAt?_append (front rest : List Char) :
    cutAt? (byteSize front) (front ++ rest) = some (front, rest) := by
  have joined : String.ofList (front ++ rest) = String.ofList front ++ String.ofList rest :=
    String.ofList_append
  have valid : (⟨byteSize front⟩ : String.Pos.Raw).IsValid (String.ofList (front ++ rest)) :=
    String.Pos.Raw.isValid_iff_exists_append.mpr ⟨_, _, joined, rfl⟩
  have splits : ((String.ofList (front ++ rest)).pos _ valid).Splits
      (String.ofList front) (String.ofList rest) := ⟨joined, rfl⟩
  obtain ⟨left, right⟩ := splits.eq (String.Pos.splits _)
  simp only [cutAt?, dif_pos valid, ← left, ← right, String.toList_ofList]

example : cutAt? 1 "né".toList = some (['n'], ['é']) ∧ cutAt? 2 "né".toList = none := by decide

end Conform.Text
