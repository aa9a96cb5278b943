import StoryScript.Proofs.Positions
import StoryScript.Script.Marks

/-! Columns and bytes of a line. A column names a place between two characters, or an end of the line,
and so does a byte at which no character is cut in two. Going from one to the other and back leads to
the same place. -/
namespace StoryScript.Text

/-- No character of the line is cut in two at the byte, and so many of them stand before it. -/
def PlacedAt (line : String) (count byte : Nat) : Prop :=
  ∃ before after, line = before ++ after ∧ before.length = count ∧ before.utf8ByteSize = byte

section

variable {line : String} {count byte count' byte' column : Nat}

theorem placedAt_iff : PlacedAt line count byte ↔
    count ≤ line.length ∧ byte = byteLength (line.toList.take count) := by
  constructor
  · rintro ⟨before, after, rfl, rfl, rfl⟩
    rw [String.length_append, String.toList_append, ← String.length_toList, List.take_left,
      byteLength_toList]
    exact ⟨Nat.le_add_right _ _, rfl⟩
  · rintro ⟨inside, rfl⟩
    refine ⟨.ofList (line.toList.take count), .ofList (line.toList.drop count), ?_, ?_, ?_⟩
    · rw [← String.ofList_append, List.take_append_drop, String.ofList_toList]
    · rw [String.length_ofList, List.length_take, String.length_toList, Nat.min_eq_left inside]
    · rw [← byteLength_eq_utf8ByteSize]

theorem isValid_iff_placedAt :
    String.Pos.Raw.IsValid line ⟨byte⟩ ↔ ∃ count, PlacedAt line count byte := by
  rw [String.Pos.Raw.isValid_iff_exists_append]
  constructor
  · rintro ⟨before, after, split, same⟩
    exact ⟨before.length, before, after, split, rfl, (congrArg (·.byteIdx) same).symm⟩
  · rintro ⟨count, before, after, split, -, rfl⟩
    exact ⟨before, after, split, rfl⟩

theorem byteOfColumn_eq_some_iff_placedAt :
    byteOfColumn line column = some byte ↔ 1 ≤ column ∧ PlacedAt line (column - 1) byte := by
  rw [byteOfColumn_eq_some_iff, placedAt_iff]
  constructor
  · rintro ⟨positive, inside, rfl⟩
    exact ⟨positive, by omega, rfl⟩
  · rintro ⟨positive, inside, rfl⟩
    exact ⟨positive, by omega, rfl⟩

theorem PlacedAt.columnOfByte_eq (placed : PlacedAt line count byte) :
    columnOfByte line byte = count + 1 := by
  obtain ⟨before, after, rfl, rfl, rfl⟩ := placed
  rw [columnOfByte, String.toList_append, ← byteLength_toList, charsBefore_append, String.length_toList]

theorem PlacedAt.byte_lt (placed : PlacedAt line count byte) (placed' : PlacedAt line count' byte')
    (less : count < count') : byte < byte' := by
  obtain ⟨-, rfl⟩ := placedAt_iff.mp placed
  obtain ⟨inside, rfl⟩ := placedAt_iff.mp placed'
  exact byteLength_take_lt _ less (by rwa [String.length_toList])

theorem PlacedAt.columnOf_drop (placed : PlacedAt line count byte) :
    Script.columnOf line.toList (line.toList.drop count) = columnOfByte line byte := by
  have inside := (placedAt_iff.mp placed).1
  rw [placed.columnOfByte_eq, Script.columnOf, List.length_drop, String.length_toList]
  omega

end

/-- Columns and bytes are inverse to each other. The columns from the first one up to the one behind the
last character have a byte, which is a boundary with the characters of the columns before it in front
of it. The column of the byte is the column again, whether it is counted over the bytes or as the column
of what is left of the line. Every boundary is the byte of its column, and further columns have larger
bytes. -/
theorem columns_bytes_inverse (line : String) :
    (∀ column, (∃ byte, byteOfColumn line column = some byte) ↔
      1 ≤ column ∧ column ≤ line.length + 1) ∧
    (∀ column byte, byteOfColumn line column = some byte →
      String.Pos.Raw.IsValid line ⟨byte⟩ ∧ PlacedAt line (column - 1) byte ∧
      columnOfByte line byte = column ∧
      Script.columnOf line.toList (dropBytes line.toList byte) = column) ∧
    (∀ byte, String.Pos.Raw.IsValid line ⟨byte⟩ →
      byteOfColumn line (columnOfByte line byte) = some byte) ∧
    ∀ column byte column' byte', byteOfColumn line column = some byte →
      byteOfColumn line column' = some byte' → column < column' → byte < byte' := by
  refine ⟨fun column => ?_, fun column byte found => ?_, fun byte valid => ?_, ?_⟩
  · simp only [byteOfColumn_eq_some_iff, exists_and_left, exists_eq, and_true]
  · obtain ⟨positive, placed⟩ := byteOfColumn_eq_some_iff_placedAt.mp found
    have back : columnOfByte line byte = column := by
      rw [placed.columnOfByte_eq, Nat.sub_add_cancel positive]
    refine ⟨isValid_iff_placedAt.mpr ⟨_, placed⟩, placed, back, ?_⟩
    rw [← back, ← placed.columnOf_drop, (placedAt_iff.mp placed).2, dropBytes_take]
  · obtain ⟨count, placed⟩ := isValid_iff_placedAt.mp valid
    rw [placed.columnOfByte_eq, byteOfColumn_eq_some_iff_placedAt]
    exact ⟨Nat.succ_pos count, placed⟩
  · intro column byte column' byte' found found' less
    obtain ⟨positive, placed⟩ := byteOfColumn_eq_some_iff_placedAt.mp found
    obtain ⟨-, placed'⟩ := byteOfColumn_eq_some_iff_placedAt.mp found'
    exact placed.byte_lt placed' (by omega)

end StoryScript.Text
