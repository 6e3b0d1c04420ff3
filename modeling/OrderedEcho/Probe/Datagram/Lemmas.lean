import OrderedEcho.BigEndian.Lemmas
import OrderedEcho.Probe.Datagram

/-!
# Reading the header of a datagram

`Datagram.readHeader_header`: the header of a datagram holds its index, if that fits into 64 bits.
`Datagram.header_readHeader`: any eight bytes are the header of the index that is read from them.
-/

namespace OrderedEcho

namespace Probe.Datagram

theorem readHeader_header (index : Nat) : readHeader (header index) = index % 2 ^ 64 := by
  have h : ((BigEndian.digits 256 headerSize index).map UInt8.ofNat).map UInt8.toNat =
      BigEndian.digits 256 headerSize index := by
    rw [List.map_map]
    refine (List.map_congr_left fun d hd => ?_).trans (List.map_id _)
    have := BigEndian.lt_of_mem_digits (by decide) hd
    simp
    omega
  rw [readHeader, header, h, BigEndian.value_digits]
  rfl

theorem header_readHeader {bytes : List UInt8} (h : bytes.length = headerSize) :
    header (readHeader bytes) = bytes := by
  have hlt : ∀ d ∈ bytes.map UInt8.toNat, d < 256 := by
    intro d hd
    obtain ⟨b, -, rfl⟩ := List.mem_map.1 hd
    exact b.toNat_lt
  have hdigits := BigEndian.digits_value hlt
  rw [List.length_map, h] at hdigits
  rw [header, readHeader, hdigits, List.map_map]
  exact (List.map_congr_left fun b _ => UInt8.ofNat_toNat).trans (List.map_id _)

/-- What is read fits into 64 bits. -/
theorem readHeader_lt {bytes : List UInt8} (h : bytes.length = headerSize) :
    readHeader bytes < 2 ^ 64 := by
  rw [← header_readHeader h, readHeader_header]
  exact Nat.mod_lt _ (by decide)

end Probe.Datagram

end OrderedEcho
