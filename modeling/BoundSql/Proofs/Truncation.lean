import BoundSql.Proofs.Operations

/-! Statement text in the log, cut at the last character boundary within the bound. -/

namespace BoundSql.Statement

/-- The first boundary between characters that a search back from a byte comes to. -/
def boundaryBelow (sql : String) : (byte : Nat) → Nat
  | 0 => 0
  | byte + 1 => if String.Pos.Raw.IsValid sql ⟨byte + 1⟩ then byte + 1 else boundaryBelow sql byte

theorem boundaryBelow_eq {sql : String} {last byte : Nat} (hlast : String.Pos.Raw.IsValid sql ⟨last⟩)
    (hle : last ≤ byte)
    (hmax : ∀ p, String.Pos.Raw.IsValid sql p → p.byteIdx ≤ byte → p.byteIdx ≤ last) :
    boundaryBelow sql byte = last := by
  induction byte with
  | zero => exact (Nat.le_zero.mp hle).symm
  | succ byte ih =>
    rw [boundaryBelow]
    split
    · next hvalid => exact Nat.le_antisymm (hmax ⟨byte + 1⟩ hvalid (Nat.le_refl _)) hle
    · next hinside =>
      have hne : last ≠ byte + 1 := fun h => hinside (h ▸ hlast)
      exact ih (by omega) fun p hp hbyte => hmax p hp (Nat.le_succ_of_le hbyte)

theorem eq_append_ofList {s t : String} {cs : List Char} (h : s.toList = t.toList ++ cs) :
    s = t ++ String.ofList cs :=
  String.toList_inj.mp (by rw [String.toList_append, String.toList_ofList, h])

section

variable {bytes : Nat} {sql cut : String}

theorem Cut.exists_append (h : Cut bytes sql cut) : ∃ rest, sql = cut ++ rest := by
  obtain ⟨rest, htext, -⟩ := h
  exact ⟨String.ofList rest, eq_append_ofList htext⟩

theorem Cut.size_le (h : Cut bytes sql cut) : cut.utf8ByteSize ≤ bytes := by
  obtain ⟨-, -, hsize, -⟩ := h
  exact hsize

theorem Cut.isValid (h : Cut bytes sql cut) : String.Pos.Raw.IsValid sql ⟨cut.utf8ByteSize⟩ := by
  obtain ⟨rest, hrest⟩ := h.exists_append
  exact String.Pos.Raw.isValid_iff_exists_append.mpr ⟨cut, rest, hrest, rfl⟩

theorem Cut.boundary_le (h : Cut bytes sql cut) {p : String.Pos.Raw} (hp : p.IsValid sql)
    (hbytes : p.byteIdx ≤ bytes) : p.byteIdx ≤ cut.utf8ByteSize := by
  obtain ⟨rest, htext, -, hnext⟩ := h
  obtain ⟨front, back, rfl, rfl⟩ := String.Pos.Raw.isValid_iff_exists_append.mp hp
  change front.utf8ByteSize ≤ cut.utf8ByteSize
  rw [String.toList_append, List.append_eq_append_iff] at htext
  obtain ⟨cs, hcut, -⟩ | ⟨cs, hfront, hrest⟩ := htext
  · rw [eq_append_ofList hcut, String.utf8ByteSize_append]
    exact Nat.le_add_right _ _
  · cases cs with
    | nil =>
      have hsame : front = cut := by rw [eq_append_ofList hfront, String.ofList_nil, String.append_empty]
      exact Nat.le_of_eq (congrArg String.utf8ByteSize hsame)
    | cons c cs =>
      -- a boundary behind the cut has the next character in front of it, which does not fit
      have hlarge := hnext c (by rw [hrest]; rfl)
      have hfits : front.utf8ByteSize ≤ bytes := hbytes
      rw [eq_append_ofList hfront, String.utf8ByteSize_append, utf8ByteSize_ofList_cons] at hfits
      omega

theorem Cut.bytes_le (h : Cut bytes sql cut) (hlong : bytes < sql.utf8ByteSize) :
    bytes ≤ cut.utf8ByteSize + 3 := by
  obtain ⟨rest, htext, hsize, hnext⟩ := h
  cases rest with
  | nil =>
    rw [eq_append_ofList htext, String.ofList_nil, String.append_empty] at hlong
    omega
  | cons c rest =>
    have hlarge := hnext c rfl
    have hwidth := c.utf8Size_le_four
    omega

theorem Cut.eq_boundaryBelow (h : Cut bytes sql cut) : boundaryBelow sql bytes = cut.utf8ByteSize :=
  boundaryBelow_eq h.isValid h.size_le fun _ hp hbytes => h.boundary_le hp hbytes

end

/-- The text for the log is a beginning of the statement's text, ends between two characters and within
the bound, and no boundary behind it is within the bound; it is the whole text exactly where that fits. -/
theorem truncatedSql_longest (s : Statement) (bytes : Nat) :
    let cut := s.truncatedSql bytes
    ((∃ rest, s.sql = cut ++ rest) ∧ String.Pos.Raw.IsValid s.sql ⟨cut.utf8ByteSize⟩ ∧
        cut.utf8ByteSize ≤ bytes) ∧
      (cut = s.sql ↔ s.sql.utf8ByteSize ≤ bytes) ∧
      (∀ p : String.Pos.Raw, p.IsValid s.sql → p.byteIdx ≤ bytes → p.byteIdx ≤ cut.utf8ByteSize) ∧
      (bytes < s.sql.utf8ByteSize → bytes ≤ cut.utf8ByteSize + 3) ∧
      cut.utf8ByteSize = boundaryBelow s.sql bytes := by
  intro cut
  have hcut : Cut bytes s.sql cut := s.cut_truncatedSql bytes
  have hwhole : cut = s.sql ↔ s.sql.utf8ByteSize ≤ bytes :=
    ⟨fun h => h ▸ hcut.size_le, fun h => if_pos h⟩
  exact ⟨⟨hcut.exists_append, hcut.isValid, hcut.size_le⟩, hwhole, fun p => hcut.boundary_le,
    hcut.bytes_le, hcut.eq_boundaryBelow.symm⟩

example : (Statement.raw "SELECT 'é'").truncatedSql 9 = "SELECT '" := by decide

end BoundSql.Statement
