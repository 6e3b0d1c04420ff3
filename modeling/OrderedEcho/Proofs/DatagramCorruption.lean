import Mathlib.Data.Nat.ModEq
import OrderedEcho.Proofs.DatagramCheck

/-!
# Datagrams with one byte changed

A byte after the header is compared with the pattern by itself, so a change is found where it is.  A
byte of the header changes the index, and with it all bytes that the check expects: the new index
differs from the old one by a multiple of a power of 256, which has no factor in common with the
period of the pattern.  So the first byte after the header gives the change away
(`readHeader_set_modEq_iff`), unless the byte of the header changed by a whole period.
-/

namespace OrderedEcho

namespace Probe

/-- The bytes are a period of the pattern apart. -/
def PeriodApart (a b : UInt8) : Prop := a.toNat + 251 = b.toNat ∨ b.toNat + 251 = a.toNat
  deriving Decidable

theorem modEq_iff_periodApart {a b : UInt8} (hne : a ≠ b) :
    a.toNat ≡ b.toNat [MOD 251] ↔ PeriodApart a b := by
  have hne : a.toNat ≠ b.toNat := mt UInt8.toNat_inj.1 hne
  have ha := a.toNat_lt
  have hb := b.toNat_lt
  unfold PeriodApart Nat.ModEq
  omega

/-- Bytes that differ in one bit only are not. -/
theorem not_periodApart_of_xor {a b : UInt8} {bit : Nat} (hbit : bit < 8)
    (h : b.toNat = a.toNat ^^^ 2 ^ bit) : ¬ PeriodApart a b := by
  have hup : ∀ n < 5, ∀ bit < 8, n ^^^ 2 ^ bit ≠ n + 251 := by decide
  have hdown : ∀ n < 5, ∀ bit < 8, (n + 251) ^^^ 2 ^ bit ≠ n := by decide
  have ha := a.toNat_lt
  have hb := b.toNat_lt
  rintro (he | he)
  · exact hup a.toNat (by omega) bit hbit (by omega)
  · rw [← he] at h
    exact hdown b.toNat (by omega) bit hbit h.symm

namespace Datagram

variable {filled : List UInt8} {size index position : Nat} {old new : UInt8}

/-- An index that is read with one byte changed follows the pattern like the old one only if the two
bytes do. -/
theorem readHeader_set_modEq_iff {bytes : List UInt8} (hold : bytes[position]? = some old) :
    readHeader bytes ≡ readHeader (bytes.set position new) [MOD 251] ↔
      old.toNat ≡ new.toNat [MOD 251] := by
  obtain ⟨hlt, rfl⟩ := List.getElem?_eq_some_iff.1 hold
  have hsplit : bytes = bytes.take position ++ bytes[position] :: bytes.drop (position + 1) := by
    rw [← List.drop_eq_getElem_cons hlt, List.take_append_drop]
  unfold readHeader
  rw [List.set_eq_take_append_cons_drop, if_pos hlt]
  conv_lhs => lhs; rw [hsplit]
  simp only [List.map_append, List.map_cons]
  exact BigEndian.value_modEq_iff (by decide)

/-- Bytes of the pattern from congruent offsets on. -/
theorem firstMismatch_bytes_of_modEq {i j : Nat} (h : i ≡ j [MOD 251]) (n : Nat) :
    Pattern.firstMismatch (Pattern.bytes i n) j = none := by
  rw [Pattern.firstMismatch_eq_none_iff, Pattern.length_bytes, Pattern.bytes_congr h]

theorem firstMismatch_bytes_of_not_modEq {i j : Nat} (h : ¬ i ≡ j [MOD 251]) {n : Nat}
    (hn : 0 < n) : Pattern.firstMismatch (Pattern.bytes i n) j = some j := by
  obtain ⟨n, rfl⟩ := Nat.exists_eq_succ_of_ne_zero hn.ne'
  rw [Pattern.bytes, Pattern.firstMismatch, if_neg (mt Pattern.byte_eq_iff.1 h)]

/-- A datagram whose header was changed is judged by the index that is now read. -/
theorem check_set_header (hi : index < 2 ^ 64) (hs : headerSize < size)
    (hold : (header index)[position]? = some old) (hne : new ≠ old) :
    let i := readHeader ((header index).set position new)
    check ((header index).set position new ++ Pattern.bytes index (size - headerSize)) size =
      if PeriodApart old new then .ok i else .error (.corrupted i headerSize) := by
  intro i
  have hlen : ((header index).set position new).length = headerSize := by simp
  have hsize : headerSize + (Pattern.bytes index (size - headerSize)).length = size := by
    rw [Pattern.length_bytes]
    omega
  have hread : index ≡ i [MOD 251] ↔ PeriodApart old new := by
    rw [← modEq_iff_periodApart hne.symm, ← readHeader_set_modEq_iff hold, readHeader_header,
      Nat.mod_eq_of_lt hi]
  have hcheck := check_header_append (readHeader_lt hlen) _ hsize
  rw [header_readHeader hlen] at hcheck
  rw [hcheck]
  split
  · next h => rw [firstMismatch_bytes_of_modEq (hread.2 h), Option.elim]
  · next h =>
    rw [firstMismatch_bytes_of_not_modEq (mt hread.1 h) (by omega), Option.elim, Nat.sub_self,
      Nat.zero_add]

/-- A byte after the header that was changed is found. -/
theorem check_set_rest (hi : index < 2 ^ 64) {n : Nat}
    (hold : (Pattern.bytes index n)[position]? = some old) (hne : new ≠ old) :
    check (header index ++ (Pattern.bytes index n).set position new) (headerSize + n) =
      .error (.corrupted index (headerSize + position)) := by
  have hlen : ((Pattern.bytes index n).set position new).length = n := by simp
  have hchanged : (Pattern.bytes index n).set position new ≠ Pattern.bytes index n := by
    intro h
    have hnew := List.getElem?_set_self (a := new) (List.getElem?_eq_some_iff.1 hold).1
    rw [h, hold] at hnew
    exact hne (Option.some.inj hnew).symm
  obtain ⟨k, hcheck, -, hdiff⟩ :=
    check_eq_corrupted hi (congrArg (headerSize + ·) hlen) (by rwa [hlen])
  rw [hlen] at hdiff
  obtain rfl : position = k := by
    by_contra hk
    exact hdiff (List.getElem?_set_ne hk)
  exact hcheck

/-- What the header was changed to is the header of another index. -/
theorem readHeader_set_ne (hold : (header index)[position]? = some old) (hne : new ≠ old) :
    readHeader ((header index).set position new) ≠ index := by
  intro h
  have hlen : ((header index).set position new).length = headerSize := by simp
  have hhead := header_readHeader hlen
  rw [h] at hhead
  have hnew : (header index)[position]? = some new := by
    rw [hhead, List.getElem?_set_self (List.getElem?_eq_some_iff.1 hold).1]
  exact hne (Option.some.inj (hnew.symm.trans hold))

/-- A change of one byte is detected, unless it is a byte of the header that is a period of the
pattern apart from what it was.  After such a change the check accepts the index that is now read,
as far as the offsets from there on are 64-bit numbers.  No change of a single bit is of this kind. -/
theorem altered_byte_detected (hs : headerSize < size) (hi : index + (size - headerSize) ≤ 2 ^ 64)
    (hfill : fill? size index = some filled) (hold : filled[position]? = some old)
    (hne : new ≠ old) :
    let data := filled.set position new
    let i := readHeader (data.take headerSize)
    (¬ (position < headerSize ∧ PeriodApart old new) → check data size =
      .error (if position < headerSize then .corrupted i headerSize
        else .corrupted index position)) ∧
    (position < headerSize → PeriodApart old new → i ≠ index ∧
      (i + (size - headerSize) ≤ 2 ^ 64 → check data size = .ok i)) ∧
    ((∃ bit < 8, new.toNat = old.toNat ^^^ 2 ^ bit) → ∃ e, check data size = .error e) := by
  intro data i
  have hindex : index < 2 ^ 64 := by omega
  rw [fill?_of_le hs.le] at hfill
  obtain rfl := Option.some.inj hfill
  by_cases hp : position < headerSize
  · have hlt : position < (header index).length := by rwa [length_header]
    have hdata : data =
        (header index).set position new ++ Pattern.bytes index (size - headerSize) :=
      List.set_append_left _ _ hlt
    have hi : i = readHeader ((header index).set position new) := by
      show readHeader (data.take headerSize) = _
      rw [hdata, List.take_left' (by simp)]
    rw [List.getElem?_append_left hlt] at hold
    have hcheck := check_set_header hindex hs hold hne
    rw [← hdata, ← hi] at hcheck
    refine ⟨fun h => ?_, fun _ h => ⟨?_, fun _ => ?_⟩, fun ⟨bit, hbit, hxor⟩ => ?_⟩
    · rw [hcheck, if_neg fun hx => h ⟨hp, hx⟩, if_pos hp]
    · rw [hi]
      exact readHeader_set_ne hold hne
    · rw [hcheck, if_pos h]
    · exact ⟨_, hcheck.trans (if_neg (not_periodApart_of_xor hbit hxor))⟩
  · obtain ⟨n, rfl⟩ := Nat.exists_eq_add_of_le (Nat.not_lt.1 hp)
    have hge : (header index).length ≤ headerSize + n := by simp
    have hsub : headerSize + n - (header index).length = n := by simp
    rw [List.getElem?_append_right hge, hsub] at hold
    have hcheck : check data size = .error (.corrupted index (headerSize + n)) := by
      have hdata : data = header index ++ (Pattern.bytes index (size - headerSize)).set n new := by
        show List.set _ _ _ = _
        rw [List.set_append_right _ _ hge, hsub]
      have hrest := check_set_rest hindex hold hne
      rwa [Nat.add_sub_cancel' hs.le, ← hdata] at hrest
    exact ⟨fun _ => by rw [hcheck, if_neg hp], fun h => absurd h hp, fun _ => ⟨_, hcheck⟩⟩

/-- In the header of datagram 300 the byte 1 becomes 252, and the check takes the datagram for
number 64556.  Had only the lowest bit of the byte changed, the check would have noticed. -/
theorem altered_byte_detected_header :
    headerSize < 10 ∧ 300 + (10 - headerSize) ≤ 2 ^ 64 ∧
      fill? 10 300 = some (header 300 ++ [49, 50]) ∧ (header 300 ++ [49, 50])[6]? = some 1 ∧
      check ((header 300 ++ [49, 50]).set 6 252) 10 = .ok 64556 ∧
      ∃ e, check ((header 300 ++ [49, 50]).set 6 0) 10 = .error e := by
  have hs : headerSize < 10 := by decide
  have hi : 300 + (10 - headerSize) ≤ 2 ^ 64 := by decide
  have hfill : fill? 10 300 = some (header 300 ++ [49, 50]) := by decide
  have hold : (header 300 ++ [49, 50])[6]? = some 1 := by decide
  obtain ⟨-, hmasked, -⟩ :=
    altered_byte_detected hs hi hfill hold (show (252 : UInt8) ≠ 1 by decide)
  obtain ⟨-, -, hbit⟩ := altered_byte_detected hs hi hfill hold (show (0 : UInt8) ≠ 1 by decide)
  refine ⟨hs, hi, hfill, hold, ?_, hbit ⟨0, by decide, by decide⟩⟩
  exact (hmasked (by decide) (Or.inl rfl)).2 (by decide)

end Datagram

end Probe

end OrderedEcho
