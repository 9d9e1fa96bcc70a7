import Labelgate.Cloudflare.Credentials

/-!
# The DNS client

`cloudflare.Client.GetZoneID` with its longest-suffix zone match, and `cloudflare.DNSClient`
(`cloudflare/dns.go`): the request bodies `buildRecordBody` and `buildUpdateRecordBody`, and
the record calls. The remote keeps each record as its body says; it refuses a second record with
the same name and type ("already exists") and answers a call on a missing record id with
"Record does not exist" (HTTP 404, code 81044). The error of a delete quotes the request's URL,
with the zone and record IDs, as cloudflare-go's errors do; it is the one error text of the
client that the program searches for anything an ID could contain.

The zone match walks the hostname's dot-bounded suffixes, longest first, so it finds the longest
zone of the map that is the hostname or ends in `.zone` (`IsLongestZone`), whatever the map's order.
-/

namespace Labelgate

/-- The walk of `matchZoneForHostname`: try `candidate`, then what follows its first dot.
The fuel is the length of the hostname, which bounds the number of labels. -/
def matchZoneLoop (zoneCache : List (String × String)) : Nat → String → String × String
  | 0, _ => ("", "")
  | fuel + 1, candidate =>
    if candidate = "" then ("", "")
    else
      match zoneCache.find? (·.1 == candidate) with
      | some (_, zoneID) => (candidate, zoneID)
      | none =>
        match candidate.toList.dropWhile (· ≠ '.') with
        | [] => ("", "")
        | _ :: rest => matchZoneLoop zoneCache fuel (String.mk rest)

/-- `matchZoneForHostname`: the longest cached zone that is the hostname or one of its parent
domains, with its ID; `("", "")` when there is none. -/
def matchZoneForHostname (zoneCache : List (String × String)) (hostname : String) :
    String × String :=
  let hostname := trimSuffix hostname "."
  matchZoneLoop zoneCache (hostname.length + 1) hostname

/-! ## The longest zone

The walk tries the hostname, then what follows its first dot, and so on: it visits exactly the
dot-bounded suffixes of the hostname, longest first (`zoneCovers_iff_of_dot`), so the first
cached one is the longest cached zone that covers the hostname. -/

/-- A zone covers a hostname when the hostname is the zone or one of its subdomains: it is the
zone, or ends in `.` followed by it. -/
def zoneCovers (hostname zone : String) : Bool := hostname == zone || hasSuffix hostname ("." ++ zone)

theorem hasSuffix_dot_iff {s z : String} :
    hasSuffix s ("." ++ z) = true ↔ ∃ p, s.toList = p ++ '.' :: z.toList := by
  rw [hasSuffix, List.isSuffixOf_iff_suffix]
  exact ⟨fun ⟨p, hp⟩ => ⟨p, hp.symm⟩, fun ⟨p, hp⟩ => ⟨p, hp.symm⟩⟩

/-- Cutting a hostname at its first dot: the zones that cover it are the hostname itself and the
zones that cover what follows the dot. -/
theorem zoneCovers_iff_of_dot {c z : String} {t r : List Char} (hc : c.toList = t ++ '.' :: r)
    (ht : '.' ∉ t) : zoneCovers c z = true ↔ c = z ∨ zoneCovers ⟨r⟩ z = true := by
  have hr : (⟨r⟩ : String) = z ↔ r = z.toList := String.ext_iff
  simp only [zoneCovers, Bool.or_eq_true, beq_iff_eq, hasSuffix_dot_iff, hc, hr]
  constructor
  · rintro (rfl | ⟨p, hp⟩)
    · exact .inl rfl
    · rcases List.append_eq_append_iff.1 hp with ⟨a, rfl, ha⟩ | ⟨a, rfl, ha⟩
      · cases a with
        | nil => exact .inr (.inl (List.cons.inj ha).2)
        | cons x a => exact .inr (.inr ⟨a, (List.cons.inj ha).2⟩)
      · cases a with
        | nil => exact .inr (.inl (List.cons.inj ha).2.symm)
        | cons x a => exact absurd (List.mem_append_right p ((List.cons.inj ha).1 ▸ List.mem_cons_self x a)) ht
  · rintro (rfl | hr | ⟨q, hq⟩)
    · exact .inl rfl
    · exact .inr ⟨t, hr ▸ rfl⟩
    · have hq : r = q ++ '.' :: z.toList := hq
      exact .inr ⟨t ++ '.' :: q, by simp [hq]⟩

theorem zoneCovers_iff_of_no_dot {c z : String} (hc : '.' ∉ c.toList) : zoneCovers c z = true ↔ c = z := by
  simp only [zoneCovers, Bool.or_eq_true, beq_iff_eq, hasSuffix_dot_iff, or_iff_left_iff_imp]
  rintro ⟨p, hp⟩
  exact absurd (hp ▸ List.mem_append_right p (List.mem_cons_self _ _)) hc

theorem zoneCovers_empty {z : String} (hz : z ≠ "") : zoneCovers "" z = false := by
  rw [Bool.eq_false_iff]
  intro h
  simp only [zoneCovers, Bool.or_eq_true, beq_iff_eq, hasSuffix_dot_iff] at h
  rcases h with h | ⟨p, hp⟩
  · exact hz h.symm
  · simp [String.toList] at hp

theorem length_le_of_zoneCovers {c z : String} (h : zoneCovers c z = true) : z.length ≤ c.length := by
  simp only [zoneCovers, Bool.or_eq_true, beq_iff_eq, hasSuffix_dot_iff] at h
  rcases h with rfl | ⟨p, hp⟩
  · exact le_rfl
  · have := congrArg List.length hp
    simp only [List.length_append, List.length_cons] at this
    simp only [String.length, String.toList] at this ⊢
    omega

/-- What the walk answers for a candidate: the longest cached zone that covers it, with its ID,
or `("", "")` when no cached zone covers it. -/
def IsLongestZone (Z : GoMap String) (c : String) (res : String × String) : Prop :=
  (Z.lookup res.1 = some res.2 ∧ zoneCovers c res.1 ∧
    ∀ z ∈ Z.map (·.1), zoneCovers c z → z.length ≤ res.1.length) ∨
  (res = ("", "") ∧ ∀ z ∈ Z.map (·.1), zoneCovers c z = false)

section LongestZone

variable {Z : GoMap String}

/-- The walk answers the longest cached zone, by induction on the fuel: a cached candidate covers
itself and is no shorter than any zone that covers it; an uncached one passes the question to
what follows its first dot. -/
theorem matchZoneLoop_isLongestZone (hZ : ∀ p ∈ Z, p.1 ≠ "") :
    ∀ fuel (c : String), c.length < fuel → IsLongestZone Z c (matchZoneLoop Z fuel c)
  | 0, _, h => absurd h (Nat.not_lt_zero _)
  | fuel + 1, c, hlen => by
    unfold matchZoneLoop
    split_ifs with hc
    · subst hc
      refine .inr ⟨rfl, fun z hz => zoneCovers_empty ?_⟩
      obtain ⟨p, hp, rfl⟩ := List.mem_map.1 hz
      exact hZ p hp
    split
    · rename_i k v hfind
      obtain rfl : k = c := by simpa using List.find?_some hfind
      exact .inl ⟨by simp [GoMap.lookup, hfind], by simp [zoneCovers],
        fun z _ hz => length_le_of_zoneCovers hz⟩
    rename_i hfind
    have hkeys : ∀ z ∈ Z.map (·.1), c ≠ z := by
      rintro z hz rfl
      obtain ⟨p, hp, hpc⟩ := List.mem_map.1 hz
      exact List.find?_eq_none.1 hfind p hp (by simp [hpc])
    split
    · rename_i hdrop
      have hnodot : '.' ∉ c.toList := fun hmem => by
        simpa using List.dropWhile_eq_nil_iff.1 hdrop _ hmem
      exact .inr ⟨rfl, fun z hz =>
        Bool.eq_false_iff.2 fun h => hkeys z hz ((zoneCovers_iff_of_no_dot hnodot).1 h)⟩
    rename_i x rest hdrop
    obtain rfl : x = '.' := by
      have := List.head?_dropWhile_not (· ≠ '.') c.toList
      rw [hdrop] at this
      simpa using this
    have hsplit : c.toList = c.toList.takeWhile (· ≠ '.') ++ '.' :: rest := by
      rw [← hdrop, List.takeWhile_append_dropWhile]
    have ht : '.' ∉ c.toList.takeWhile (· ≠ '.') := fun h => by
      simpa using List.mem_takeWhile_imp h
    have hcov : ∀ z ∈ Z.map (·.1), zoneCovers c z = zoneCovers ⟨rest⟩ z := fun z hz =>
      Bool.eq_iff_iff.2 ((zoneCovers_iff_of_dot hsplit ht).trans (or_iff_right (hkeys z hz)))
    have hrest : (⟨rest⟩ : String).length < fuel := by
      show rest.length < fuel
      have := congrArg List.length hsplit
      simp only [List.length_append, List.length_cons] at this
      simp only [String.length, String.toList] at hlen this
      omega
    rcases matchZoneLoop_isLongestZone hZ fuel ⟨rest⟩ hrest with ⟨hl, hcz, hmax⟩ | ⟨hres, hnone⟩
    · have hmem := (GoMap.isSome_lookup_iff _ _).1 (by rw [hl]; rfl)
      exact .inl ⟨hl, (hcov _ hmem).trans hcz, fun z hz h => hmax z hz ((hcov z hz).symm.trans h)⟩
    · exact .inr ⟨hres, fun z hz => (hcov z hz).trans (hnone z hz)⟩

/-- The walk takes one step per label, so any fuel above the candidate's length gives the same
answer: the fuel never ends it. -/
theorem matchZoneLoop_fuel :
    ∀ fuel fuel' (c : String), c.length < fuel → c.length < fuel' →
      matchZoneLoop Z fuel c = matchZoneLoop Z fuel' c
  | 0, _, _, h, _ => absurd h (Nat.not_lt_zero _)
  | _, 0, _, _, h => absurd h (Nat.not_lt_zero _)
  | fuel + 1, fuel' + 1, c, h, h' => by
    unfold matchZoneLoop
    split_ifs
    · rfl
    split
    · rfl
    split
    · rfl
    rename_i rest hdrop
    have hlt : rest.length < c.length := by
      have := (List.dropWhile_suffix (· ≠ '.') (l := c.toList)).length_le
      rw [hdrop, List.length_cons] at this
      exact this
    exact matchZoneLoop_fuel fuel fuel' ⟨rest⟩ (by show rest.length < fuel; omega)
      (by show rest.length < fuel'; omega)

end LongestZone

/-- `matchZoneForHostname` answers the longest cached zone that covers the hostname, without its
trailing dot, with that zone's ID, and `("", "")` when no cached zone covers it; its walk ends
within the fuel it is given. -/
theorem matchZoneForHostname_longest (Z : GoMap String) (hZ : ∀ p ∈ Z, p.1 ≠ "")
    (hostname : String) :
    let h := trimSuffix hostname "."
    ((∃ z ∈ Z.map (·.1), zoneCovers h z) →
      ∃ z v, matchZoneForHostname Z hostname = (z, v) ∧ Z.lookup z = some v ∧ zoneCovers h z ∧
        ∀ z' ∈ Z.map (·.1), zoneCovers h z' → z'.length ≤ z.length) ∧
    ((∀ z ∈ Z.map (·.1), zoneCovers h z = false) → matchZoneForHostname Z hostname = ("", "")) ∧
    ∀ fuel, h.length < fuel → matchZoneLoop Z fuel h = matchZoneForHostname Z hostname := by
  intro h
  have hspec := matchZoneLoop_isLongestZone hZ (h.length + 1) h (Nat.lt_succ_self _)
  refine ⟨fun ⟨z, hz, hcov⟩ => ?_, fun hnone => ?_,
    fun fuel hfuel => matchZoneLoop_fuel fuel _ h hfuel (Nat.lt_succ_self _)⟩
  · rcases hspec with ⟨hl, hc, hmax⟩ | ⟨_, hnone⟩
    · exact ⟨_, _, rfl, hl, hc, hmax⟩
    · exact absurd (hnone z hz) (by simp [hcov])
  · rcases hspec with ⟨hl, hc, _⟩ | ⟨hres, _⟩
    · exact absurd (hnone _ ((GoMap.isSome_lookup_iff _ _).1 (by rw [hl]; rfl))) (by simp [hc])
    · exact hres

theorem subZone_wins_for_api :
    (∀ p ∈ [("example.com", "zone-1"), ("sub.example.com", "zone-2")], p.1 ≠ "") ∧
    let Z : GoMap String := [("example.com", "zone-1"), ("sub.example.com", "zone-2")]
    let h := trimSuffix "api.sub.example.com." "."
    ((∃ z ∈ Z.map (·.1), zoneCovers h z) →
      ∃ z v, matchZoneForHostname Z "api.sub.example.com." = (z, v) ∧ Z.lookup z = some v ∧
        zoneCovers h z ∧ ∀ z' ∈ Z.map (·.1), zoneCovers h z' → z'.length ≤ z.length) ∧
    ((∀ z ∈ Z.map (·.1), zoneCovers h z = false) →
      matchZoneForHostname Z "api.sub.example.com." = ("", "")) ∧
    ∀ fuel, h.length < fuel → matchZoneLoop Z fuel h = matchZoneForHostname Z "api.sub.example.com." :=
  ⟨by decide, matchZoneForHostname_longest [("example.com", "zone-1"), ("sub.example.com", "zone-2")]
    (by decide) "api.sub.example.com."⟩

example : matchZoneForHostname [("example.com", "zone-1"), ("sub.example.com", "zone-2")]
    "api.sub.example.com." = ("sub.example.com", "zone-2") := by decide

/-- The request body of a record create or update: `content` is absent for CAA, whose value
goes in `data` with flags `0` and tag `issue`; TXT, MX and CAA bodies carry no proxied flag. -/
structure RecordBody where
  name : String
  ttl : Int
  type : String
  content : Option String
  proxied : Option Bool
  priority : Option Int
  comment : String
  data : Option (Int × String × String)
deriving DecidableEq, Repr

/-- `buildRecordBody`, which `buildUpdateRecordBody` repeats case for case. A TTL of `0` or less
is sent as `1`, Cloudflare's "automatic". -/
def buildRecordBody (record : DNSRecord) : Except String RecordBody :=
  let ttl := if record.ttl > 0 then record.ttl else 1
  let body (content : Option String) (proxied : Option Bool) (priority : Option Int)
      (data : Option (Int × String × String)) : RecordBody :=
    ⟨record.name, ttl, record.type, content, proxied, priority, record.comment, data⟩
  match record.type with
  | "A" | "AAAA" | "CNAME" => .ok (body (some record.content) (some record.proxied) none none)
  | "TXT" => .ok (body (some record.content) none none none)
  | "MX" => .ok (body (some record.content) none (some record.priority) none)
  | "CAA" => .ok (body none none none (some (0, "issue", record.content)))
  | t => .error ("unsupported DNS record type: " ++ t)

/-- `buildUpdateRecordBody`. -/
def buildUpdateRecordBody (record : DNSRecord) : Except String RecordBody :=
  buildRecordBody record

/-- A body carries the record's TTL when it is positive, and `1` (automatic) otherwise. -/
theorem buildRecordBody_ttl {record : DNSRecord} {b : RecordBody} (h : buildRecordBody record = .ok b) :
    b.ttl = if record.ttl > 0 then record.ttl else 1 := by
  revert h
  unfold buildRecordBody
  split <;> split <;> intro h <;> cases h <;> simp_all

theorem buildRecordBody_isOk {record : DNSRecord}
    (h : record.type ∈ ["A", "AAAA", "CNAME", "TXT", "MX", "CAA"]) : (buildRecordBody record).isOk := by
  simp only [List.mem_cons, List.mem_singleton, List.not_mem_nil, or_false] at h
  rcases h with h | h | h | h | h | h <;> simp [buildRecordBody, h, Except.isOk, Except.toBool]

/-- The record the remote keeps for a body. -/
def RecordBody.toRecord (b : RecordBody) (id zoneID : String) : DNSRecord :=
  { id, zoneID, name := b.name, type := b.type,
    content := match b.data with
      | some (flags, tag, value) => toString flags ++ " " ++ tag ++ " " ++ value
      | none => b.content.getD "",
    proxied := b.proxied.getD false, ttl := b.ttl, priority := b.priority.getD 0,
    comment := b.comment }

/-- The error the remote returns for a missing record. -/
def recordNotFound : String := "81044: Record does not exist. (404)"

section Client

variable (env : Env)

/-- `GetZoneID`: lists the zones (one remote call) and matches the hostname against them. -/
def getZoneID (hostname : String) : Op String := do
  wrapErr "failed to list zones: " (remoteCall env)
  let (_, zoneID) := matchZoneForHostname (← get).cloud.zones hostname
  if zoneID = "" then throw ("no matching zone found for hostname: " ++ hostname)
  pure zoneID

theorem run_getZoneID (hostname : String) (w : World) : (getZoneID env hostname).run.run w =
    (if env.remoteFails w.remoteTick then .error "failed to list zones: remote call failed"
      else if (matchZoneForHostname w.cloud.zones hostname).2 = "" then
        .error ("no matching zone found for hostname: " ++ hostname)
      else .ok (matchZoneForHostname w.cloud.zones hostname).2,
      { w with remoteTick := w.remoteTick + 1 }) := by
  by_cases h : env.remoteFails w.remoteTick
  · simp [getZoneID, run_bind, h]
  · by_cases hz : (matchZoneForHostname w.cloud.zones hostname).2 = "" <;>
      simp [getZoneID, run_bind, h, hz]

/-- `DNSClient.CreateRecord`. -/
def createRecord (record : DNSRecord) : Op DNSRecord := do
  let zoneID ← if record.zoneID = "" then wrapErr "failed to get zone ID: " (getZoneID env record.name)
    else pure record.zoneID
  let body ← liftExcept (buildRecordBody record)
  wrapErr "failed to create DNS record: " do
    issue env (.dnsCreate record.name record.type)
    if (← get).cloud.records.any fun r => r.name == record.name && r.type == record.type then
      throw "81058: An identical record already exists."
    let created := body.toRecord (← freshID "rec-") zoneID
    modifyCloud fun c => { c with records := c.records ++ [created] }
    pure { created with zoneName := record.zoneName }

/-- A create for a name and type the account already has is refused once its call is issued. -/
theorem run_createRecord_exists (record : DNSRecord) (w : World) (hzone : record.zoneID ≠ "")
    (hbody : (buildRecordBody record).isOk) (hok : env.remoteFails w.remoteTick = false)
    (hex : w.cloud.records.any fun r => r.name == record.name && r.type == record.type) :
    (createRecord env record).run.run w =
      (.error "failed to create DNS record: 81058: An identical record already exists.",
        { w with calls := w.calls ++ [.dnsCreate record.name record.type],
                 remoteTick := w.remoteTick + 1 }) := by
  obtain ⟨b, hb⟩ := exists_eq_ok_of_isOk hbody
  simp only [List.any_eq_true, Bool.and_eq_true, beq_iff_eq] at hex
  simp [createRecord, run_bind, hzone, hb, hok, hex]

/-- `DNSClient.GetRecordByName`: the first record with that name and type in the hostname's
zone, if any. -/
def getRecordByName (hostname type : String) : Op (Option DNSRecord) := do
  let zoneID ← getZoneID env hostname
  wrapErr "failed to list DNS records: " (remoteCall env)
  pure ((← get).cloud.records.find? fun r =>
    r.zoneID == zoneID && r.name == hostname && r.type == type)

theorem run_getRecordByName (hostname type : String) (w : World)
    (hok : env.remoteFails w.remoteTick = false) (hok' : env.remoteFails (w.remoteTick + 1) = false)
    (hzone : (matchZoneForHostname w.cloud.zones hostname).2 ≠ "") :
    (getRecordByName env hostname type).run.run w =
      (.ok (w.cloud.records.find? fun r => r.zoneID == (matchZoneForHostname w.cloud.zones hostname).2 &&
          r.name == hostname && r.type == type), { w with remoteTick := w.remoteTick + 2 }) := by
  simp [getRecordByName, run_bind, run_getZoneID, hok, hok', hzone]

/-- `GetRecordByName` reads: it moves only the remote counter, and a record it finds is a record
of the account with that name and type. -/
theorem getRecordByName_spec (hostname type : String) (w : World) :
    ((getRecordByName env hostname type).run.run w).2 =
        { w with remoteTick := ((getRecordByName env hostname type).run.run w).2.remoteTick } ∧
      ∀ rec, ((getRecordByName env hostname type).run.run w).1 = .ok (some rec) →
        rec ∈ w.cloud.records ∧ rec.name = hostname ∧ rec.type = type := by
  by_cases h1 : env.remoteFails w.remoteTick
  · simp [getRecordByName, run_bind, run_getZoneID, h1]
  by_cases hz : (matchZoneForHostname w.cloud.zones hostname).2 = ""
  · simp [getRecordByName, run_bind, run_getZoneID, h1, hz]
  by_cases h2 : env.remoteFails (w.remoteTick + 1)
  · simp [getRecordByName, run_bind, run_getZoneID, h1, hz, h2]
  simp [getRecordByName, run_bind, run_getZoneID, h1, hz, h2]
  intro rec hrec
  have := List.find?_some hrec
  simp only [Bool.and_eq_true, beq_iff_eq] at this
  exact ⟨List.mem_of_find?_eq_some hrec, this.1.2, this.2⟩

/-- `DNSClient.UpdateRecord`. -/
def updateRecord (record : DNSRecord) : Op DNSRecord := do
  if record.id = "" then throw "record ID is required for update"
  let zoneID ← if record.zoneID = "" then wrapErr "failed to get zone ID: " (getZoneID env record.name)
    else pure record.zoneID
  let body ← liftExcept (buildUpdateRecordBody record)
  wrapErr "failed to update DNS record: " do
    issue env (.dnsUpdate zoneID record.id)
    if !(← get).cloud.records.any fun r => r.id == record.id && r.zoneID == zoneID then
      throw recordNotFound
    let updated := body.toRecord record.id zoneID
    modifyCloud fun c => { c with records := c.records.map fun r => if r.id = record.id then updated else r }
    pure { updated with zoneName := record.zoneName }

/-- An update of a record of the account rewrites it from the body, whatever it held. -/
theorem run_updateRecord (record : DNSRecord) (w : World) (hid : record.id ≠ "")
    (hzone : record.zoneID ≠ "") {b : RecordBody} (hb : buildUpdateRecordBody record = .ok b)
    (hok : env.remoteFails w.remoteTick = false)
    (hex : w.cloud.records.any fun r => r.id == record.id && r.zoneID == record.zoneID) :
    (updateRecord env record).run.run w =
      (.ok { b.toRecord record.id record.zoneID with zoneName := record.zoneName },
        { w with cloud := { w.cloud with records := w.cloud.records.map fun r =>
                   if r.id = record.id then b.toRecord record.id record.zoneID else r },
                 calls := w.calls ++ [.dnsUpdate record.zoneID record.id],
                 remoteTick := w.remoteTick + 1 }) := by
  obtain ⟨r, hr, hrid, hrzone⟩ : ∃ r ∈ w.cloud.records, r.id = record.id ∧ r.zoneID = record.zoneID := by
    simpa using hex
  have hfound : ¬∀ x ∈ w.cloud.records, x.id = record.id → ¬x.zoneID = record.zoneID :=
    fun h => h r hr hrid hrzone
  simp [updateRecord, run_bind, hid, hzone, hb, hok, hfound]

/-- `UpdateRecord` issues its call once the record has an ID and a zone and its body builds,
whatever the remote then answers. -/
theorem updateRecord_calls (record : DNSRecord) (w : World) (hid : record.id ≠ "")
    (hzone : record.zoneID ≠ "") (hbody : (buildUpdateRecordBody record).isOk) :
    ((updateRecord env record).run.run w).2.calls = w.calls ++ [.dnsUpdate record.zoneID record.id] := by
  obtain ⟨b, hb⟩ := exists_eq_ok_of_isOk hbody
  by_cases hf : env.remoteFails w.remoteTick <;> simp [updateRecord, run_bind, hid, hzone, hb, hf]
  split <;> simp

/-- The API URL of a record. cloudflare-go quotes the request's method and URL at the head of
every error of a call, an API error (`DELETE "<url>": 403 Forbidden ...`) or a transport one. -/
def recordURL (zoneID recordID : String) : String :=
  "https://api.cloudflare.com/client/v4/zones/" ++ zoneID ++ "/dns_records/" ++ recordID

/-- `DNSClient.DeleteRecord`; its errors carry the request as cloudflare-go words them. -/
def deleteRecord (zoneID recordID : String) : Op Unit :=
  wrapErr ("failed to delete DNS record: DELETE \"" ++ recordURL zoneID recordID ++ "\": ") do
    issue env (.dnsDelete zoneID recordID)
    if !(← get).cloud.records.any fun r => r.id == recordID && r.zoneID == zoneID then
      throw recordNotFound
    modifyCloud fun c => { c with records := c.records.filter (·.id != recordID) }

theorem run_deleteRecord (zoneID recordID : String) (w : World) :
    (deleteRecord env zoneID recordID).run.run w =
      let w' := { w with calls := w.calls ++ [.dnsDelete zoneID recordID],
                         remoteTick := w.remoteTick + 1 }
      let pfx := "failed to delete DNS record: DELETE \"" ++ recordURL zoneID recordID ++ "\": "
      if env.remoteFails w.remoteTick then (.error (pfx ++ "remote call failed"), w')
      else if w.cloud.records.any fun r => r.id == recordID && r.zoneID == zoneID then
        (.ok (), { w' with cloud := { w.cloud with records := w.cloud.records.filter (·.id != recordID) } })
      else (.error (pfx ++ recordNotFound), w') := by
  by_cases hf : env.remoteFails w.remoteTick
  · simp [deleteRecord, run_bind, hf]
  · by_cases hr : w.cloud.records.any fun r => r.id == recordID && r.zoneID == zoneID <;>
      simp only [deleteRecord, run_wrapErr, run_bind, run_issue, hf, hr] <;> simp [hr]

/-! ## The DNS client touches only records -/

section Frames

variable {β : Type} (g : Cloud → β)

theorem cloudKeeps_getZoneID (hostname : String) :
    Frame (Keeps fun w => g w.cloud) (getZoneID env hostname) := by
  unfold getZoneID; dsimp only
  with_reducible repeat' first
    | apply Frame.bind
    | apply Frame.ite
    | apply Frame.wrapErr
    | intro _
    | exact frame_pure _
    | exact frame_throw _
    | exact frame_get
    | exact cloudKeeps_remoteCall env g

theorem cloudKeeps_getRecordByName (hostname type : String) :
    Frame (Keeps fun w => g w.cloud) (getRecordByName env hostname type) := by
  unfold getRecordByName
  with_reducible repeat' first
    | apply Frame.bind
    | apply Frame.wrapErr
    | intro _
    | exact frame_pure _
    | exact frame_get
    | exact cloudKeeps_remoteCall env g
    | exact cloudKeeps_getZoneID env g _

variable (hg : ∀ c (records : List DNSRecord), g { c with records } = g c)
include hg

theorem cloudKeeps_createRecord (record : DNSRecord) :
    Frame (Keeps fun w => g w.cloud) (createRecord env record) := by
  unfold createRecord; dsimp only
  with_reducible repeat' first
    | apply Frame.bind
    | apply Frame.ite
    | apply Frame.wrapErr
    | intro _
    | exact frame_pure _
    | exact frame_throw _
    | exact frame_get
    | exact frame_liftExcept _
    | exact cloudKeeps_issue env g _
    | exact cloudKeeps_freshID g _
    | exact cloudKeeps_getZoneID env g _
    | exact cloudKeeps_modifyCloud g _ fun c => hg c _

theorem cloudKeeps_updateRecord (record : DNSRecord) :
    Frame (Keeps fun w => g w.cloud) (updateRecord env record) := by
  unfold updateRecord; dsimp only
  with_reducible repeat' first
    | apply Frame.bind
    | apply Frame.ite
    | apply Frame.wrapErr
    | intro _
    | exact frame_pure _
    | exact frame_throw _
    | exact frame_get
    | exact frame_liftExcept _
    | exact cloudKeeps_issue env g _
    | exact cloudKeeps_getZoneID env g _
    | exact cloudKeeps_modifyCloud g _ fun c => hg c _

end Frames

end Client

end Labelgate
