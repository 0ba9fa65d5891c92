import Socks5d.HandlerCalls
import Socks5d.LogNames

namespace Socks5d

variable {π : Type} {env : Env} {key : SelectorKey} {sel : Selector} {socks : SocksConnModel}
  {called more : List Effect} {kind : EventKind} {side : Side} {effect : Effect}

end Socks5d
