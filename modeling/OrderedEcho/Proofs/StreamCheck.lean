import Mathlib.Order.Bounds.Basic
import OrderedEcho.Probe.Stream

/-!
# How an echo is cut does not matter

An echo arrives in pieces, and each piece is compared with the pattern from the offset on where it
begins.  The first mismatch that is found in this way is the one of the whole echo
(`Pattern.firstMismatchIn_eq`), which is the least offset where the echo differs from the pattern
(`Pattern.firstMismatch_eq_some_iff_isLeast`).

So a probe judges an echo by the bytes that came back, and not by the pieces (`Stream.receive_eq`).
It is content if they are the bytes that it sent (`Stream.report_eq_ok_iff`), and it names the first
byte that differs, if there is one (`Stream.report_eq_differs_iff`).
-/

namespace OrderedEcho

namespace Probe

namespace Pattern

variable {data : List UInt8} {offset position : Nat}

/-! ## The least offset that differs -/

/-- The byte of `data` at the offset `position` is not the one of the pattern, where `data` starts
at `offset`. -/
def DiffersAt (data : List UInt8) (offset position : Nat) : Prop :=
  ∃ i b, data[i]? = some b ∧ position = offset + i ∧ b ≠ byte position

theorem differsAt_iff : DiffersAt data offset position ↔
    ∃ i, position = offset + i ∧ data[i]? ≠ (bytes offset data.length)[i]? := by
  refine exists_congr fun i => ?_
  rw [getElem?_bytes]
  by_cases hi : i < data.length
  · rw [if_pos hi, List.getElem?_eq_getElem hi]
    constructor
    · rintro ⟨b, hb, rfl, hne⟩
      exact ⟨rfl, fun h => hne (Option.some.inj (hb.symm.trans h))⟩
    · rintro ⟨rfl, hne⟩
      exact ⟨data[i], rfl, rfl, fun h => hne (congrArg some h)⟩
  · simp [hi]

/-- The first byte that differs has the least offset. -/
theorem firstMismatch_eq_some_iff_isLeast :
    firstMismatch data offset = some position ↔ IsLeast {p | DiffersAt data offset p} position := by
  rw [firstMismatch_eq_some_iff]
  constructor
  · rintro ⟨n, rfl, htake, hdiff⟩
    refine ⟨differsAt_iff.2 ⟨n, rfl, hdiff⟩, fun p hp => ?_⟩
    obtain ⟨i, rfl, hi⟩ := differsAt_iff.1 hp
    by_contra hlt
    have hin : i < n := by omega
    refine hi ?_
    rw [← List.getElem?_take_of_lt hin, htake, List.getElem?_take_of_lt hin]
  · rintro ⟨hdiff, hleast⟩
    obtain ⟨n, rfl, hn⟩ := differsAt_iff.1 hdiff
    refine ⟨n, rfl, List.ext_getElem? fun i => ?_, hn⟩
    rw [List.getElem?_take, List.getElem?_take]
    split
    · next hin =>
      by_contra hi
      have hle := hleast (differsAt_iff.2 ⟨i, rfl, hi⟩)
      omega
    · rfl

/-! ## Pieces -/

/-- Pieces are searched one after the other, each from the offset on that the pieces before it lead
to.  The first position that is reported counts. -/
def firstMismatchIn : List (List UInt8) → Nat → Option Nat
  | [], _ => none
  | piece :: pieces, offset =>
    (firstMismatch piece offset).or (firstMismatchIn pieces (offset + piece.length))

theorem firstMismatchIn_eq (pieces : List (List UInt8)) (offset : Nat) :
    firstMismatchIn pieces offset = firstMismatch pieces.flatten offset := by
  induction pieces generalizing offset with
  | nil => rfl
  | cons piece pieces ih => rw [firstMismatchIn, ih, List.flatten_cons, firstMismatch_append]

/-- However bytes are cut into pieces, searching the pieces finds what searching all bytes at once
finds: nothing if the bytes are the pattern, and otherwise the least offset where they differ
from it. -/
theorem cut_irrelevant (data : List UInt8) (offset : Nat) :
    (∀ pieces : List (List UInt8), pieces.flatten = data →
      firstMismatchIn pieces offset = firstMismatch data offset) ∧
    (firstMismatch data offset = none ↔ data = bytes offset data.length) ∧
    ∀ position, firstMismatch data offset = some position ↔
      IsLeast {p | DiffersAt data offset p} position := by
  refine ⟨?_, firstMismatch_eq_none_iff, fun position => firstMismatch_eq_some_iff_isLeast⟩
  rintro pieces rfl
  exact firstMismatchIn_eq pieces offset

/-- Three bytes from offset 250 on, in three pieces, of which one is empty.  The last byte should
be 1. -/
theorem cut_irrelevant_three :
    ([[250], [], [0, 7]] : List (List UInt8)).flatten = [250, 0, 7] ∧
      firstMismatchIn [[250], [], [0, 7]] 250 = some 252 ∧
      IsLeast {p | DiffersAt [250, 0, 7] 250 p} 252 := by
  obtain ⟨hcut, -, hleast⟩ := cut_irrelevant [250, 0, 7] 250
  have hwhole : firstMismatch [250, 0, 7] 250 = some 252 := by decide
  have hflatten : [[250], [], [0, 7]].flatten = ([250, 0, 7] : List UInt8) := rfl
  exact ⟨rfl, (hcut _ hflatten).trans hwhole, (hleast 252).1 hwhole⟩

end Pattern

namespace Stream

variable {s : Settings} {ending : Ending} {pieces : List (List UInt8)} {sent : Except IoError Unit}
  {r : Report} {position : Nat}

/-- The sends are the pattern, cut into pieces of one size. -/
theorem flatten_sends (s : Settings) : (sends s).flatten = Pattern.bytes 0 (total s) := by
  unfold sends total
  induction s.sends with
  | zero => rfl
  | succ n ih =>
    rw [List.range_succ, List.map_append, List.flatten_append, ih, Nat.mul_succ, Pattern.bytes_add,
      Nat.mul_comm s.bufferSize n, Nat.zero_add]
    simp

/-- The pieces of an echo are judged like the whole echo. -/
theorem receive_eq (s : Settings) (ending : Ending) (pieces : List (List UInt8)) (echoed : Nat) :
    receive s ending pieces echoed = (Pattern.firstMismatch pieces.flatten echoed).elim
      (finish s ending (echoed + pieces.flatten.length))
      fun position => .error (.differs s.server position) := by
  induction pieces generalizing echoed with
  | nil => rfl
  | cons piece pieces ih =>
    rw [receive, List.flatten_cons, Pattern.firstMismatch_append, List.length_append]
    split
    · next hm => rw [hm, Option.some_or, Option.elim]
    · next hm => rw [hm, Option.none_or, ih, Nat.add_assoc]

theorem finish_eq_ok_iff {echoed n : Nat} :
    finish s ending echoed = .ok n ↔ ending = .closed ∧ n = echoed := by
  cases ending <;> simp [finish, eq_comm]

theorem finish_ne_differs {echoed : Nat} {server : SocketAddress} :
    finish s ending echoed ≠ .error (.differs server position) := by
  cases ending <;> simp [finish]

/-- An echo is read to its end if it is the pattern and the server closes the stream. -/
theorem receive_eq_ok_iff {n : Nat} :
    receive s ending pieces 0 = .ok n ↔ ending = .closed ∧ pieces.flatten = Pattern.bytes 0 n := by
  rw [receive_eq, Nat.zero_add]
  cases hm : Pattern.firstMismatch pieces.flatten 0 with
  | none =>
    rw [Option.elim, finish_eq_ok_iff]
    refine and_congr_right fun _ => ⟨fun hn => ?_, fun h => (Pattern.length_of_eq_bytes h).symm⟩
    rw [hn]
    exact Pattern.firstMismatch_eq_none_iff.1 hm
  | some found =>
    refine ⟨nofun, fun ⟨_, h⟩ => ?_⟩
    have hnone : Pattern.firstMismatch pieces.flatten 0 = none := by
      rw [Pattern.firstMismatch_eq_none_iff, Pattern.length_of_eq_bytes h]
      exact h
    rw [hnone] at hm
    cases hm

theorem receive_eq_differs_iff : receive s ending pieces 0 = .error (.differs s.server position) ↔
    Pattern.firstMismatch pieces.flatten 0 = some position := by
  rw [receive_eq]
  cases Pattern.firstMismatch pieces.flatten 0 with
  | none =>
    rw [Option.elim]
    exact ⟨fun h => absurd h finish_ne_differs, nofun⟩
  | some found => simp

/-- A verdict is about the echo, or about a send that failed, or about the number of bytes. -/
theorem report_cases (s : Settings) (pieces : List (List UInt8)) (ending : Ending)
    (sent : Except IoError Unit) :
    (∃ e, receive s ending pieces 0 = .error e ∧ report s pieces ending sent = .error e) ∨
    ∃ n, receive s ending pieces 0 = .ok n ∧
      ((∃ e, sent = .error e ∧ report s pieces ending sent = .error (.io e)) ∨
        (sent = .ok () ∧ report s pieces ending sent =
          if n = total s then .ok { connections := 1, bytesSent := total s, bytesRead := n }
          else .error (.closed s.server n (total s)))) := by
  unfold report
  cases receive s ending pieces 0 with
  | error e => exact Or.inl ⟨e, rfl, rfl⟩
  | ok n =>
    cases sent with
    | error e => exact Or.inr ⟨n, rfl, Or.inl ⟨e, rfl, rfl⟩⟩
    | ok => exact Or.inr ⟨n, rfl, Or.inr ⟨rfl, rfl⟩⟩

/-- A probe is content with a stream exactly if all its sends came back, and nothing else, and the
stream was closed in order. -/
theorem report_eq_ok_iff : report s pieces ending sent = .ok r ↔
    ending = .closed ∧ sent = .ok () ∧ pieces.flatten = (sends s).flatten ∧
      r = { connections := 1, bytesSent := total s, bytesRead := total s } := by
  rw [flatten_sends]
  rcases report_cases s pieces ending sent with
    ⟨e, hr, hreport⟩ | ⟨n, hr, ⟨e, rfl, hreport⟩ | ⟨rfl, hreport⟩⟩
  · rw [hreport]
    refine ⟨nofun, fun ⟨hend, _, hdata, _⟩ => ?_⟩
    rw [receive_eq_ok_iff.2 ⟨hend, hdata⟩] at hr
    cases hr
  · rw [hreport]
    exact ⟨nofun, nofun⟩
  · obtain ⟨hend, hdata⟩ := receive_eq_ok_iff.1 hr
    have htotal : n = total s ↔ pieces.flatten = Pattern.bytes 0 (total s) :=
      ⟨fun h => h ▸ hdata,
        fun h => (Pattern.length_of_eq_bytes hdata).symm.trans (Pattern.length_of_eq_bytes h)⟩
    rw [hreport]
    split
    · next heq =>
      rw [Except.ok.injEq, heq]
      exact ⟨fun h => ⟨hend, rfl, htotal.1 heq, h.symm⟩, fun ⟨_, _, _, h⟩ => h.symm⟩
    · next hne => exact ⟨nofun, fun ⟨_, _, h, _⟩ => absurd (htotal.2 h) hne⟩

/-- A probe finds the first byte of an echo that is not the one that it sent, however the echo was
cut. -/
theorem report_eq_differs_iff : report s pieces ending sent = .error (.differs s.server position) ↔
    IsLeast {p | Pattern.DiffersAt pieces.flatten 0 p} position := by
  rw [← Pattern.firstMismatch_eq_some_iff_isLeast, ← receive_eq_differs_iff]
  rcases report_cases s pieces ending sent with
    ⟨e, hr, hreport⟩ | ⟨n, hr, ⟨e, -, hreport⟩ | ⟨-, hreport⟩⟩
  · rw [hr, hreport, Except.error.injEq, Except.error.injEq]
  · rw [hr, hreport]
    exact ⟨nofun, nofun⟩
  · rw [hr, hreport]
    split <;> exact ⟨nofun, nofun⟩

end Stream

end Probe

end OrderedEcho
