import ProxySteward.Proofs.Host.FileFrame
import ProxySteward.Proofs.Url.Origin
import ProxySteward.Rehearsal.Server
import ProxySteward.Usage.Fetch

/-!
# Client and server agree on the key

A fetch says the management key twice, in the query and in a header, and the server takes it from
either place.  The two places fail on different keys.  A header can be read by the server only if
the key is of printable ASCII, and user information in the address puts another header in front of
it.  The query has no such limits: form encoding brings every text through (`formPairs_queryFor`),
and nothing of the query of the address is left beside it.

So the query alone decides.  Whatever header arrives, the server finds in it the key that stands in
the query, or no key at all (`eq_of_headerKey?`), and `UsageFetch.fetch_accepted_iff` is the same
condition for all headers: the key is not empty, and it is the one that the server asks for.
-/

namespace ProxySteward

open Text

namespace UsageRequest

variable {a : Address} {key value : Text}

/-! ## The query -/

/-- The query of a request. -/
def queryFor (key : Text) : Text := if key.isEmpty then [] else "key=".toList ++ Url.formEncode key

theorem queryFor_of_ne_nil (h : key ≠ []) :
    queryFor key = Url.formEncode "key".toList ++ '=' :: Url.formEncode key := by
  rw [queryFor, if_neg (by simpa using h)]
  rfl

theorem path_plain : ∀ c ∈ path, c ≠ '?' ∧ c ≠ '#' := by
  have hall : path.all (fun c => c != '?' && c != '#') = true := by decide
  intro c hc
  simpa using List.all_eq_true.1 hall c hc

theorem number_sign_not_mem_queryFor (key : Text) : '#' ∉ queryFor key := by
  rw [queryFor]
  split
  · exact List.not_mem_nil
  · rw [List.mem_append, not_or]
    exact ⟨by decide, Url.not_mem_formEncode (by decide) key⟩

theorem targetFor_nil : targetFor [] = path := rfl

theorem targetFor_of_ne_nil (h : key ≠ []) : targetFor key = path ++ '?' :: queryFor key := by
  have hempty : key.isEmpty = false := by simpa using h
  rw [targetFor, queryFor, hempty]
  rfl

/-- **The pairs of the query** are the name `key` with the key, and no other ones. -/
theorem formPairs_queryFor (key : Text) :
    Url.formPairs (queryFor key) = if key = [] then [] else [("key".toList, key)] := by
  split
  · next h =>
    rw [h]
    rfl
  · next h => rw [queryFor_of_ne_nil h, Url.formPairs_formEncode]

theorem queryKey?_queryFor (key : Text) :
    RehearsalServer.queryKey? (queryFor key) = if key = [] then none else some key := by
  rw [RehearsalServer.queryKey?, formPairs_queryFor]
  split
  · rfl
  · rw [List.reverse_singleton, List.find?_cons_of_pos (by simp)]
    rfl

/-- What a server reads of a target, and of the address in full. -/
theorem read_targetFor (key : Text) :
    RequestTarget.read (targetFor key) = ⟨path, queryFor key⟩ := by
  by_cases h : key = []
  · rw [h]
    decide
  · have hread := (RequestTarget.read_append path_plain (number_sign_not_mem_queryFor key)
      (show ∀ c ∈ ([] : Text).head?, c = '#' by simp)).1
    rw [targetFor_of_ne_nil h, ← List.append_nil (path ++ _), hread]
    rfl

theorem isWebScheme_of_isHttp {scheme : Text} (h : isHttp scheme = true) :
    Address.isWebScheme scheme = true := by
  rw [isHttp, Bool.or_eq_true, beq_iff_eq, beq_iff_eq] at h
  rcases h with rfl | rfl <;> decide

/-- Nothing of the path and the query of an address is in the requests that are made to it. -/
theorem read_withTarget_targetFor {baseUrl : Text} (hbase : base? baseUrl = some a)
    (hhttp : isHttp a.scheme = true) (key : Text) :
    RequestTarget.read (a.withTarget (targetFor key)) = ⟨path, queryFor key⟩ := by
  unfold base? at hbase
  dsimp only at hbase
  split at hbase
  · exact absurd hbase (by simp)
  · have hparse := (Option.filter_eq_some_iff.1 hbase).1
    obtain ⟨hquery, hnone⟩ := RequestTarget.read_withTarget hparse (isWebScheme_of_isHttp hhttp)
      (by decide) path_plain (number_sign_not_mem_queryFor key)
    by_cases h : key = []
    · rw [h, targetFor_nil, hnone]
      rfl
    · rw [targetFor_of_ne_nil h, hquery]

/-! ## The header -/

theorem isReadable_bearer (key : Text) :
    RehearsalServer.isReadable (bearer key) = RehearsalServer.isReadable key := by
  have hfront : RehearsalServer.isReadable "Bearer ".toList = true := by decide
  show RehearsalServer.isReadable ("Bearer ".toList ++ key) = _
  rw [RehearsalServer.isReadable, List.all_append, ← RehearsalServer.isReadable, hfront,
    Bool.true_and, ← RehearsalServer.isReadable]

theorem headerKey?_bearer (key : Text) :
    RehearsalServer.headerKey? (bearer key) =
      if RehearsalServer.isReadable key then some key else none := by
  have hcut : dropFront? "Bearer ".toList (bearer key) = some key := dropFront?_append _ key
  simp only [RehearsalServer.headerKey?, isReadable_bearer, hcut]

theorem isReadable_of_not_ascii (h : ∃ c ∈ key, 0x80 ≤ c.toNat) :
    RehearsalServer.isReadable key = false := by
  obtain ⟨c, hc, hascii⟩ := h
  rw [RehearsalServer.isReadable, List.all_eq_false]
  refine ⟨c, hc, ?_⟩
  have htab : (c == '\t') = false := by
    rw [beq_eq_false_iff_ne]
    rintro rfl
    exact absurd hascii (by decide)
  have hhigh : ¬ c.toNat < 0x7F := by omega
  simp [htab, hhigh]

/-- The header of the user information holds no key. -/
theorem headerKey?_basic? {userInfo : Text} (h : basic? userInfo = some value) :
    RehearsalServer.headerKey? value = none := by
  have hvalue : ∀ {missing : Bool} {rest : Text},
      (if missing then none else some ("Basic ".toList ++ rest)) = some value →
        ∃ rest, value = "Basic ".toList ++ rest := by
    intro missing rest h
    split at h
    · exact absurd h (by simp)
    · exact ⟨rest, (Option.some.inj h).symm⟩
  obtain ⟨rest, rfl⟩ : ∃ rest, value = "Basic ".toList ++ rest := by
    unfold basic? at h
    simp only [bind, Option.bind_eq_some_iff] at h
    obtain ⟨name, -, h⟩ := h
    split at h <;> exact hvalue h
  rw [RehearsalServer.headerKey?]
  split <;> rfl

theorem eq_bearer_of_headerKey? (hvalue : value ∈ credentials a key)
    (h : RehearsalServer.headerKey? value ≠ none) : key ≠ [] ∧ value = bearer key := by
  rw [credentials, List.mem_append, Option.mem_toList] at hvalue
  rcases hvalue with hvalue | hvalue
  · exact absurd (headerKey?_basic? hvalue) h
  · split at hvalue
    · exact absurd hvalue List.not_mem_nil
    · next hne => exact ⟨by simpa using hne, List.mem_singleton.1 hvalue⟩

/-- **Headers never disagree with the query**: a key that the server finds in one of them is the
key. -/
theorem eq_of_headerKey? {found : Text} (hvalue : value ∈ credentials a key)
    (h : RehearsalServer.headerKey? value = some found) : key ≠ [] ∧ found = key := by
  obtain ⟨hne, rfl⟩ := eq_bearer_of_headerKey? hvalue (by rw [h]; simp)
  rw [headerKey?_bearer] at h
  split at h
  · exact ⟨hne, (Option.some.inj h).symm⟩
  · exact absurd h (by simp)

/-- **What the server accepts**, whichever of the headers arrives first and also if none does. -/
theorem accepts_queryFor_iff {server : RehearsalServer} {e : Text} (hserver : server.key = some e)
    {header : Option Text} (hheader : ∀ value ∈ header, value ∈ credentials a key) :
    server.accepts (queryFor key) header = true ↔ key ≠ [] ∧ key = e := by
  rw [RehearsalServer.accepts, hserver]
  dsimp only
  rw [queryKey?_queryFor, Bool.or_eq_true, beq_iff_eq, beq_iff_eq]
  constructor
  · rintro (h | h)
    · obtain ⟨value, hvalue, hfound⟩ := Option.bind_eq_some_iff.1 h
      obtain ⟨hne, rfl⟩ := eq_of_headerKey? (hheader value hvalue) hfound
      exact ⟨hne, rfl⟩
    · split at h
      · exact absurd h (by simp)
      · next hne => exact ⟨hne, Option.some.inj h⟩
  · rintro ⟨hne, rfl⟩
    exact Or.inr (if_neg hne)

end UsageRequest

namespace UsageFetch

/-- **Client and server agree on the key.**  Take an address to which requests can be made, a
management key whose trimmed form may stand in a header, and any server.

* One request is sent.  Path and query that the server reads, of the target as of the address in
  full, are the fixed path and the pairs of the key, so nothing of the query of the address is among
  them.  Into the query every text can be put, also one that may not stand in a header, and the
  server finds that text there.
* A header for the user information comes first and holds no key, and no header holds a key that is
  not of ASCII.
* A server that asks for no key accepts the request.  A server that asks for `e` accepts it exactly
  if the trimmed key is not empty and is `e`, and none of the headers makes a difference to that. -/
theorem fetch_accepted_iff (h : Host) (baseUrl managementKey : Text) (a : Address)
    (hbase : UsageRequest.base? baseUrl = some a) (hhttp : UsageRequest.isHttp a.scheme = true)
    (hkey : UsageRequest.isHeaderText (trim managementKey) = true) :
    (∀ t, t ≠ [] → ∃ url, UsageRequest.url? baseUrl t = some url ∧
      Url.formPairs (RequestTarget.read url).query = [("key".toList, t)] ∧
      RehearsalServer.queryKey? (RequestTarget.read url).query = some t) ∧
    ∃ (r : UsageRequest) (query : Text),
      (fetch h baseUrl managementKey).2 = h.did (.requested r) ∧
      RequestTarget.read r.target = ⟨UsageRequest.path, query⟩ ∧
      RequestTarget.read r.url = ⟨UsageRequest.path, query⟩ ∧
      Url.formPairs query =
        (if trim managementKey = [] then [] else [("key".toList, trim managementKey)]) ∧
      (∀ value, UsageRequest.basic? a.userInfo = some value →
        r.authorization.head? = some value ∧ RehearsalServer.headerKey? value = none) ∧
      ((∃ c ∈ trim managementKey, 0x80 ≤ c.toNat) →
        ∀ value ∈ r.authorization, RehearsalServer.headerKey? value = none) ∧
      ∀ (server : RehearsalServer) (header : Option Text),
        (∀ value ∈ header, value ∈ r.authorization) →
        (server.key = none → server.accepts query header = true) ∧
        ∀ e, server.key = some e → trim e ≠ [] →
          (server.accepts query header = true ↔
            trim managementKey ≠ [] ∧ trim managementKey = e) := by
  have hread := UsageRequest.read_withTarget_targetFor hbase hhttp
  refine ⟨fun t hne => ⟨a.withTarget (UsageRequest.targetFor t), ?_, ?_, ?_⟩, ?_⟩
  · rw [UsageRequest.url?, hbase]
    rfl
  · rw [hread, UsageRequest.formPairs_queryFor, if_neg hne]
  · rw [hread, UsageRequest.queryKey?_queryFor, if_neg hne]
  have hof : UsageRequest.of baseUrl managementKey =
      .ok ⟨a.withTarget (UsageRequest.targetFor (trim managementKey)),
        UsageRequest.targetFor (trim managementKey),
        UsageRequest.credentials a (trim managementKey)⟩ := by
    rw [UsageRequest.of, hbase]
    dsimp only
    rw [if_pos (by rw [hhttp, hkey]; rfl)]
  refine ⟨_, UsageRequest.queryFor (trim managementKey), by rw [fetch, hof]; rfl,
    UsageRequest.read_targetFor _, hread _, UsageRequest.formPairs_queryFor _,
    fun value hvalue => ?_, fun hascii value hvalue => ?_,
      fun server header hheader => ⟨fun hnone => ?_, fun e he _ => ?_⟩⟩
  · refine ⟨?_, UsageRequest.headerKey?_basic? hvalue⟩
    rw [UsageRequest.credentials, hvalue]
    rfl
  · by_contra hfound
    obtain ⟨-, rfl⟩ := UsageRequest.eq_bearer_of_headerKey? hvalue hfound
    rw [UsageRequest.headerKey?_bearer, UsageRequest.isReadable_of_not_ascii hascii] at hfound
    exact hfound rfl
  · rw [RehearsalServer.accepts, hnone]
  · exact UsageRequest.accepts_queryFor_iff he hheader

/-- An address with user information and a query of its own, and a key that only the query can
carry. -/
theorem fetch_accepted_iff_lone :
    let h : Host :=
      ⟨FileTree.lone [], "/tmp".toList, 0, false,
        fun _ => ⟨[], false⟩, fun _ => .unreachable, fun _ => none, fun _ => [], 0, []⟩
    let server := RehearsalServer.fresh (some "k&=é".toList)
    ∃ r query, (fetch h "http://u:p@[::1]:8317/x?key=old#f".toList " k&=é ".toList).2 =
        h.did (.requested r) ∧
      RequestTarget.read r.url = ⟨UsageRequest.path, query⟩ ∧
      Url.formPairs query = [("key".toList, "k&=é".toList)] ∧
      server.accepts query r.authorization.head? = true ∧ server.accepts query none = true := by
  intro h server
  have hbase : UsageRequest.base? "http://u:p@[::1]:8317/x?key=old#f".toList =
      some ⟨"http".toList, "u:p".toList, some "[::1]".toList, some 8317, true,
        some "f".toList⟩ := by
    decide +kernel
  obtain ⟨-, r, query, hsent, -, hurl, hpairs, -, -, haccepts⟩ :=
    fetch_accepted_iff h _ " k&=é ".toList _ hbase (by decide) (by decide)
  have hmatch : ∀ header, (∀ value ∈ header, value ∈ r.authorization) →
      server.accepts query header = true := fun header hheader =>
    ((haccepts server header hheader).2 _ rfl (by decide)).2 ⟨by decide, by decide⟩
  refine ⟨r, query, hsent, hurl, hpairs.trans (by decide),
    hmatch _ fun value hvalue => ?_, hmatch _ ?_⟩
  · exact List.mem_of_mem_head? hvalue
  · exact fun value hvalue => absurd hvalue (by simp)

end UsageFetch
end ProxySteward
