/-!
# Reply codes of the proxy

What the code in the proxy's answer to a request means.
-/

namespace Intercept.Proxy

/-- The meaning of a reply code. -/
def replyText (code : UInt8) : String :=
  match code.toNat with
  | 0 => "succeeded"
  | 1 => "general SOCKS server failure"
  | 2 => "connection not allowed by ruleset"
  | 3 => "network unreachable"
  | 4 => "host unreachable"
  | 5 => "connection refused"
  | 6 => "TTL expired"
  | 7 => "command not supported"
  | 8 => "address type not supported"
  | _ => "unknown error"

end Intercept.Proxy
