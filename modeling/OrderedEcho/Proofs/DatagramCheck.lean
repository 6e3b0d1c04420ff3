import OrderedEcho.Probe.Datagram.Lemmas

/-!
# Which datagrams pass the check

A datagram that is long enough is a header and the bytes after it, and the check compares these bytes
with the pattern from the index in the header on (`check_header_append`).  So it accepts what was
filled in for an index (`check_filled`) and nothing else (`eq_of_check_eq_ok`), and after a right
header it finds the first byte that is wrong (`check_eq_corrupted`).
-/

namespace OrderedEcho

namespace Probe.Datagram

variable {data : List UInt8} {size index : Nat}

theorem fill?_of_le (hs : headerSize ≤ size) (index : Nat) :
    fill? size index = some (header index ++ Pattern.bytes index (size - headerSize)) :=
  if_neg (Nat.not_lt.2 hs)

/-- Any bytes that are long enough have a header. -/
theorem exists_eq_header_append (h : headerSize ≤ data.length) :
    ∃ i rest, i < 2 ^ 64 ∧ data = header i ++ rest := by
  have hlen : (data.take headerSize).length = headerSize := by simp [h]
  have hhead := header_readHeader hlen
  refine ⟨readHeader (data.take headerSize), data.drop headerSize, readHeader_lt hlen, ?_⟩
  rw [hhead, List.take_append_drop]

/-- The bytes after a header are compared with the pattern from its index on. -/
theorem check_header_append (hi : index < 2 ^ 64) (rest : List UInt8)
    (hs : headerSize + rest.length = size) :
    check (header index ++ rest) size = (Pattern.firstMismatch rest index).elim (.ok index)
      fun offset => .error (.corrupted index (offset - index + headerSize)) := by
  have hlen : (header index ++ rest).length = size := by simp [hs]
  have htake : (header index ++ rest).take headerSize = header index :=
    List.take_left' (length_header index)
  have hdrop : (header index ++ rest).drop headerSize = rest :=
    List.drop_left' (length_header index)
  have hread : readHeader (header index) = index := by
    rw [readHeader_header, Nat.mod_eq_of_lt hi]
  have hnot : ¬ size < headerSize := by omega
  cases hm : Pattern.firstMismatch rest index <;>
    simp only [check, hlen, ne_eq, not_true_eq_false, hnot, if_false, htake, hdrop, hread, hm,
      Option.elim]

theorem check_filled (hs : headerSize ≤ size) (hi : index < 2 ^ 64) :
    check (header index ++ Pattern.bytes index (size - headerSize)) size = .ok index := by
  have hsize : headerSize + (Pattern.bytes index (size - headerSize)).length = size := by
    rw [Pattern.length_bytes]
    omega
  have hmatch : Pattern.firstMismatch (Pattern.bytes index (size - headerSize)) index = none := by
    rw [Pattern.firstMismatch_eq_none_iff, Pattern.length_bytes]
  rw [check_header_append hi _ hsize, hmatch, Option.elim]

theorem length_of_check_eq_ok (h : check data size = .ok index) : data.length = size := by
  by_contra hne
  rw [check, if_pos hne] at h
  cases h

/-- What passes is the header of the index that is read, and the pattern from there on. -/
theorem eq_of_check_eq_ok (hs : headerSize ≤ size) (h : check data size = .ok index) :
    data = header index ++ Pattern.bytes index (size - headerSize) := by
  have hlen := length_of_check_eq_ok h
  obtain ⟨i, rest, hi, rfl⟩ := exists_eq_header_append (hlen.symm ▸ hs)
  rw [List.length_append, length_header] at hlen
  rw [check_header_append hi rest hlen] at h
  cases hm : Pattern.firstMismatch rest i with
  | some offset =>
    rw [hm] at h
    cases h
  | none =>
    rw [hm] at h
    obtain rfl := Except.ok.inj h
    rw [Pattern.firstMismatch_eq_none_iff] at hm
    rw [show size - headerSize = rest.length by omega, ← hm]

/-- What is wrong after a right header is found where it is. -/
theorem check_eq_corrupted (hi : index < 2 ^ 64) {rest : List UInt8}
    (hs : headerSize + rest.length = size) (h : rest ≠ Pattern.bytes index rest.length) :
    ∃ n, check (header index ++ rest) size = .error (.corrupted index (headerSize + n)) ∧
      rest.take n = (Pattern.bytes index rest.length).take n ∧
      rest[n]? ≠ (Pattern.bytes index rest.length)[n]? := by
  cases hm : Pattern.firstMismatch rest index with
  | none => exact absurd (Pattern.firstMismatch_eq_none_iff.1 hm) h
  | some found =>
    obtain ⟨n, rfl, htake, hdiff⟩ := Pattern.firstMismatch_eq_some_iff.1 hm
    refine ⟨n, ?_, htake, hdiff⟩
    rw [check_header_append hi rest hs, hm, Option.elim, Nat.add_sub_cancel_left, Nat.add_comm n]

/-- The check accepts nothing but the datagram that is filled in for an index.  If the header is right
and the rest is not, it names the first byte that differs.  An index has 64 bits; the offsets of the
pattern may have more. -/
theorem check_ok_iff_filled (hs : headerSize ≤ size) (hi : index < 2 ^ 64) (data : List UInt8) :
    ∃ filled, fill? size index = some filled ∧ filled.length = size ∧
      (check data size = .ok index ↔ data = filled) ∧
      (data.length = size → data.take headerSize = header index →
        data.drop headerSize ≠ Pattern.bytes index (size - headerSize) →
        ∃ position, check data size = .error (.corrupted index position) ∧
          data.take position = filled.take position ∧ data[position]? ≠ filled[position]?) := by
  refine ⟨_, fill?_of_le hs index, by simp [hs], ⟨eq_of_check_eq_ok hs, ?_⟩, ?_⟩
  · rintro rfl
    exact check_filled hs hi
  · intro hlen hhead hrest
    obtain ⟨rest, rfl⟩ : ∃ rest, data = header index ++ rest :=
      ⟨data.drop headerSize, by rw [← hhead, List.take_append_drop]⟩
    rw [List.length_append, length_header] at hlen
    rw [List.drop_left' (length_header index)] at hrest
    rw [show size - headerSize = rest.length by omega] at hrest ⊢
    obtain ⟨n, hcheck, htake, hdiff⟩ := check_eq_corrupted hi hlen hrest
    refine ⟨headerSize + n, hcheck, ?_, ?_⟩
    · simp [List.take_append, htake]
    · simpa [List.getElem?_append_right] using hdiff

/-- A datagram of ten bytes with its last byte changed. -/
theorem check_ok_iff_filled_last :
    headerSize ≤ 10 ∧ 300 < 2 ^ 64 ∧ check (header 300 ++ [49, 50]) 10 = .ok 300 ∧
      ∃ position, check (header 300 ++ [49, 51]) 10 = .error (.corrupted 300 position) := by
  have hs : headerSize ≤ 10 := by decide
  have hi : 300 < 2 ^ 64 := by decide
  obtain ⟨filled, hfill, -, hok, -⟩ := check_ok_iff_filled hs hi (header 300 ++ [49, 50])
  obtain ⟨_, -, -, -, hbad⟩ := check_ok_iff_filled hs hi (header 300 ++ [49, 51])
  obtain ⟨position, hcheck, -⟩ := hbad (by decide) (by decide) (by decide)
  exact ⟨hs, hi, hok.2 (Option.some.inj (hfill.symm.trans (by decide))).symm, position, hcheck⟩

end Probe.Datagram

end OrderedEcho
