import Labelgate.Go

/-!
# Public-address discovery

`getPublicIP` (`operator/dns/dns.go`), which `resolveTarget` and `UpdateDNSRecord` call for the
targets `auto` and `""`: it asks `api.ipify.org`, `ifconfig.me/ip` and `icanhazip.com` in turn,
reads one buffer of at most 64 bytes from the first that answers 200, cuts its last byte ("Remove
trailing newline if any") and returns the rest if `net.ParseIP` accepts it. The operators read
the outcome through `Env.publicIP`, one discovery per pass.

`net.ParseIP` is Go's (`net/netip.ParseAddr` without a zone) on the bytes of the body: dotted
IPv4 with four decimal fields at most 255 and no leading zero, or IPv6 with at most one `::` and
an optional trailing IPv4.

The cut is unconditional, so an address that an endpoint sends without a trailing newline comes
back one byte short, and often still parses; an empty read panics on the slice.
-/

namespace Labelgate

namespace GoNet

/-- `'0' <= c && c <= '9'` on a byte. -/
def isDigit (c : UInt8) : Bool := 48 ≤ c && c ≤ 57

/-- The loop of `parseIPv4Fields` at a byte: the value and digit count of the current field, the
fields already closed, and whether the previous byte was a dot (or there was none). -/
def ipv4Loop : List UInt8 → Nat → Nat → Nat → Bool → Bool
  | [], _, pos, _, _ => pos = 3
  | c :: rest, val, pos, digLen, prevDot =>
    if isDigit c then
      if digLen = 1 ∧ val = 0 then false
      else
        let val := val * 10 + (c.toNat - 48)
        if val > 255 then false else ipv4Loop rest val pos (digLen + 1) false
    else if c = 46 then
      if prevDot ∨ rest = [] then false
      else if pos = 3 then false
      else ipv4Loop rest 0 (pos + 1) 0 true
    else false

/-- `parseIPv4Fields` over a whole string: four dot-separated decimal fields. -/
def parseIPv4Fields (s : List UInt8) : Bool := ipv4Loop s 0 0 0 true

/-- The value of a hexadecimal digit. -/
def hexVal (c : UInt8) : Option Nat :=
  if 48 ≤ c ∧ c ≤ 57 then some (c.toNat - 48)
  else if 97 ≤ c ∧ c ≤ 102 then some (c.toNat - 87)
  else if 65 ≤ c ∧ c ≤ 70 then some (c.toNat - 55)
  else none

/-- The number of leading hexadecimal digits. -/
def hexDigits (s : List UInt8) : Nat := (s.takeWhile fun c => (hexVal c).isSome).length

/-- The group loop of `parseIPv6` while `i < 16`: `i` bytes of the address are filled and
`ellipsis` is where a `::` stood. It returns what is left of the input with the final `i` and
`ellipsis`, or `none` on a malformed group. Each pass fills two bytes, so eight passes are all
the loop can make. -/
def ipv6Groups : Nat → List UInt8 → Nat → Option Nat → Option (List UInt8 × Nat × Option Nat)
  | 0, s, i, e => some (s, i, e)
  | fuel + 1, s, i, e =>
    if i < 16 then
      let off := hexDigits s
      if off = 0 ∨ off > 4 then none
      else match s.drop off with
        | 46 :: _ =>
          if e.isNone ∧ i ≠ 12 then none
          else if i + 4 > 16 then none
          else if parseIPv4Fields s then some ([], i + 4, e) else none
        | [] => some ([], i + 2, e)
        | c :: rest =>
          if c ≠ 58 then none
          else match rest with
            | [] => none
            | 58 :: rest' =>
              if e.isSome then none
              else if rest' = [] then some ([], i + 2, some (i + 2))
              else ipv6Groups fuel rest' (i + 2) (some (i + 2))
            | rest => ipv6Groups fuel rest (i + 2) e
    else some (s, i, e)

/-- `parseIPv6` as `net.ParseIP` uses it: a zone (`%`) is refused, and the `::` must stand for at
least one group of zeros. -/
def parseIPv6 (s : List UInt8) : Bool :=
  if 37 ∈ s then false
  else
    let (s, e) : List UInt8 × Option Nat := match s with
      | 58 :: 58 :: rest => (rest, some 0)
      | s => (s, none)
    if e.isSome ∧ s = [] then true
    else match ipv6Groups 8 s 0 e with
      | none => false
      | some (rest, i, e) => rest = [] ∧ (if i < 16 then e.isSome else e.isNone)

/-- `net.ParseIP(s) != nil`: the first `.`, `:` or `%` decides the form. -/
def parseIP (s : List UInt8) : Bool :=
  match s.find? fun c => c = 46 ∨ c = 58 ∨ c = 37 with
  | some 46 => parseIPv4Fields s
  | some 58 => parseIPv6 s
  | _ => false

/-- The bytes of an ASCII text. -/
def asciiBytes (s : String) : List UInt8 := s.toList.map (·.toNat.toUInt8)

example : parseIP (asciiBytes "203.0.113.45") ∧ parseIP (asciiBytes "2001:db8::68") ∧
    parseIP (asciiBytes "::ffff:192.0.2.1") ∧ ¬parseIP (asciiBytes "203.0.113.045") ∧
    ¬parseIP (asciiBytes "1.2.3.4\n") ∧ ¬parseIP (asciiBytes "fe80::1%eth0") := by decide

end GoNet

open GoNet

/-! ## The discovery loop -/

/-- One endpoint's answer to `client.Get`: an error, or the status code and the bytes that the
one `Read` into the buffer delivers. -/
inductive Response
  | failed
  | ok (status : Nat) (read : List UInt8)
deriving DecidableEq, Repr

/-- How `getPublicIP` can end: with an address, with its error, or in a runtime panic. -/
inductive PublicIPResult
  | ok (ip : List UInt8)
  | error (msg : String)
  | panic (msg : String)
deriving DecidableEq, Repr

/-- The discovery endpoints, in the order `getPublicIP` asks them. -/
def publicIPServices : List String :=
  ["https://api.ipify.org", "https://ifconfig.me/ip", "https://icanhazip.com"]

/-- The panic of `ip[:len(ip)-1]` on an empty string. -/
def sliceOutOfRange : String := "runtime error: slice bounds out of range [:-1]"

/-- The loop of `getPublicIP` over the endpoints left, each answering as `get` says. -/
def getPublicIPFrom (get : String → Response) : List String → PublicIPResult
  | [] => .error "failed to get public IP"
  | svc :: rest =>
    match get svc with
    | .ok 200 read =>
      let ip := read.take 64
      if ip = [] then .panic sliceOutOfRange
      else if parseIP ip.dropLast then .ok ip.dropLast
      else getPublicIPFrom get rest
    | _ => getPublicIPFrom get rest

/-- `getPublicIP`. -/
def getPublicIP (get : String → Response) : PublicIPResult := getPublicIPFrom get publicIPServices

/-! ## The address the endpoints report -/

/-- ASCII whitespace, all that `strings.TrimSpace` removes from an ASCII body. -/
def isSpaceByte (c : UInt8) : Bool := c = 9 || c = 10 || c = 11 || c = 12 || c = 13 || c = 32

/-- A body with its surrounding whitespace removed. -/
def trimBytes (s : List UInt8) : List UInt8 :=
  ((s.dropWhile isSpaceByte).reverse.dropWhile isSpaceByte).reverse

/-- The address the endpoints report, read as the specification reads them: the trimmed body of
the first endpoint that answers 200 with a body whose trimmed form parses. -/
def reportedIPFrom (get : String → Response) : List String → Option (List UInt8)
  | [] => none
  | svc :: rest =>
    match get svc with
    | .ok 200 read =>
      if parseIP (trimBytes (read.take 64)) then some (trimBytes (read.take 64))
      else reportedIPFrom get rest
    | _ => reportedIPFrom get rest

/-- The reported address over the three endpoints. -/
def reportedIP (get : String → Response) : Option (List UInt8) :=
  reportedIPFrom get publicIPServices

/-! ## The cut -/

/-- The first endpoint decides when it answers 200: an empty read panics, whatever the others
would answer, and a body of at most 64 bytes that is a trimmed address comes back without its
last byte whenever that shorter text still parses, while the reported address is the whole
body. -/
theorem getPublicIP_cuts_reported_ip (get : String → Response) (read : List UInt8)
    (hfirst : get "https://api.ipify.org" = .ok 200 read) :
    (read = [] → getPublicIP get = .panic sliceOutOfRange) ∧
      (read.length ≤ 64 → trimBytes read = read → parseIP read → parseIP read.dropLast →
        reportedIP get = some read ∧ getPublicIP get = .ok read.dropLast ∧ read.dropLast ≠ read) := by
  refine ⟨fun hnil => by simp [getPublicIP, publicIPServices, getPublicIPFrom, hfirst, hnil],
    fun hlen htrim hparse hcut => ?_⟩
  have hne : read ≠ [] := by rintro rfl; exact absurd hparse (by decide)
  have htake : read.take 64 = read := List.take_of_length_le hlen
  refine ⟨by simp [reportedIP, publicIPServices, reportedIPFrom, hfirst, htake, htrim, hparse],
    by simp [getPublicIP, publicIPServices, getPublicIPFrom, hfirst, htake, hne, hcut], ?_⟩
  intro h
  have := congrArg List.length h
  simp only [List.length_dropLast] at this
  exact hne (List.length_eq_zero.1 (by omega))

/-- The endpoints of a run in which only `api.ipify.org` answers, with status 200 and the given
bytes. -/
def ipifyOnly (read : List UInt8) (svc : String) : Response :=
  if svc = "https://api.ipify.org" then .ok 200 read else .failed

/-- `api.ipify.org` answering `203.0.113.45` without a newline yields `203.0.113.4`; an empty
answer panics. -/
theorem ipify_answer_cut :
    getPublicIP (ipifyOnly []) = .panic sliceOutOfRange ∧
      reportedIP (ipifyOnly (asciiBytes "203.0.113.45")) = some (asciiBytes "203.0.113.45") ∧
      getPublicIP (ipifyOnly (asciiBytes "203.0.113.45")) = .ok (asciiBytes "203.0.113.4") :=
  have h := (getPublicIP_cuts_reported_ip (ipifyOnly (asciiBytes "203.0.113.45")) _ rfl).2
    (by decide) (by decide) (by decide) (by decide)
  ⟨(getPublicIP_cuts_reported_ip (ipifyOnly []) [] rfl).1 rfl, h.1, h.2.1⟩

end Labelgate
