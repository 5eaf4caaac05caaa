import TraefikManager.Foundation.IpNetwork
import TraefikManager.Runtime

/-!
# Upstream addresses

The host and port a service forwards to. Address literals of some ranges are
refused; every other host must look like a host name.
-/

namespace TraefikManager.Domain

open Foundation

/-- The networks whose addresses are refused, in the order they are checked,
with the reason given. -/
def refusedNetworks : List (List Ip.Network × String) :=
  [([.v4 0 32, .v6 0 none 128], "미지정 주소는 upstream으로 사용할 수 없습니다: "),
   ([.v4 0x7f000000 8, .v6 1 none 128], "루프백 주소는 upstream으로 사용할 수 없습니다: "),
   ([.v4 0xa9fe0000 16, .v6 0xfe800000000000000000000000000000 none 10],
    "링크-로컬 주소는 upstream으로 사용할 수 없습니다: "),
   ([.v4 0xe0000000 4, .v6 0xff000000000000000000000000000000 none 8],
    "멀티캐스트 주소는 upstream으로 사용할 수 없습니다: "),
   ([.v4 0xffffffff 32], "브로드캐스트 주소는 upstream으로 사용할 수 없습니다: "),
   ([.v4 0xf0000000 4], "예약된 주소는 upstream으로 사용할 수 없습니다: "),
   ([.v4 0xc0000200 24, .v4 0xc6336400 24, .v4 0xcb007100 24,
      .v6 0x20010db8000000000000000000000000 none 32],
    "문서 예제 주소는 upstream으로 사용할 수 없습니다: "),
   ([.v6 0xfc000000000000000000000000000000 none 7],
    "고유 로컬 IPv6 주소는 upstream으로 사용할 수 없습니다: ")]

/-- `validate_upstream_ip_address`. -/
def validateUpstreamIpAddress (host : String) (address : Ip.Address) : Except PyException Unit :=
  match refusedNetworks.find? fun refused => refused.1.any (·.contains address) with
  | some refused => .error (.valueError (refused.2 ++ host))
  | none => .ok ()

/-- `^[a-zA-Z0-9][a-zA-Z0-9._-]*$`; the final `$` lets one line feed pass. -/
def isHostName (host : String) : Bool :=
  let chars := Text.dropFinalNewline host.toList
  let alphanumeric c := Text.isLetter c || Text.isDigit c
  chars.head?.any alphanumeric ∧
    chars.all fun c => alphanumeric c || c = '.' || c = '_' || c = '-'

/-- `validate_upstream_host`. -/
def validateUpstreamHost (host : String) : Except PyException Unit :=
  match Ip.ipAddress host with
  | some address => validateUpstreamIpAddress host address
  | none =>
      if isHostName host then .ok ()
      else .error (.valueError ("유효하지 않은 upstream 호스트: " ++ host))

/-- The checks of `Upstream.__post_init__`. -/
def validateUpstream (host : String) (port : Int) : Except PyException Unit := do
  if host = "" then throw (.valueError "업스트림 호스트는 필수입니다")
  if ¬(1 ≤ port ∧ port ≤ 65535) then
    throw (.valueError ("유효하지 않은 포트: " ++ toString port))
  validateUpstreamHost host

/-- An upstream that passed its checks. -/
structure Upstream where
  host : String
  port : Int
  valid : validateUpstream host port = .ok ()
  deriving DecidableEq

instance : Repr Upstream := ⟨fun upstream => reprPrec (upstream.host, upstream.port)⟩

/-- `Upstream(host, port)`. -/
def Upstream.make (host : String) (port : Int) : Except PyException Upstream :=
  match valid : validateUpstream host port with
  | .ok () => .ok ⟨host, port, valid⟩
  | .error failure => .error failure

/-- `str(upstream)`. -/
def Upstream.text (upstream : Upstream) : String :=
  upstream.host ++ ":" ++ toString upstream.port

@[simp] theorem Upstream.make_self (upstream : Upstream) :
    Upstream.make upstream.host upstream.port = .ok upstream := by
  have valid := upstream.valid
  unfold Upstream.make
  split
  · rfl
  · rename_i invalid
    rw [valid] at invalid
    cases invalid

end TraefikManager.Domain
