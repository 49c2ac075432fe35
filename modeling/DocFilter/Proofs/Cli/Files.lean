import DocFilter.Files
import Mathlib.Tactic.Lemma
import Mathlib.Tactic.SplitIfs

/-!
What a run relies on of its files: reading them changes nothing, and a file that was written holds
what was written. A directory does both.
-/

namespace DocFilter

namespace Directory

variable {d d' : Directory} {name path : String} {content : ByteArray}

end Directory

end DocFilter
