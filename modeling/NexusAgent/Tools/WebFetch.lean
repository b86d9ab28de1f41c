import NexusAgent.Lib.Bytes
import NexusAgent.Tools.Types

/-!
# Fetching from the web

`web_fetch` (`internal/tools/builtin/web_fetch.go`) looks at the host of the URL that it is given,
and at the addresses that the host has by then. The client that it hands the request to resolves
the name again and follows redirects, up to ten requests.
-/

namespace NexusAgent.Tools

/-- An address of 32 bits, or of 128. -/
structure IP where
  text : String
  v6 : Bool := false
  bits : ℕ

/-- The addresses that agree with a network in their first `ones` bits. -/
structure IPNet where
  v6 : Bool
  network : ℕ
  ones : ℕ

def IPNet.contains (n : IPNet) (ip : IP) : Bool :=
  let free := (if n.v6 then 128 else 32) - n.ones
  n.v6 = ip.v6 && n.network / 2 ^ free = ip.bits / 2 ^ free

/-- The network `a.b.0.0` with a mask of `ones` bits. -/
def IPNet.v4 (a b ones : ℕ) : IPNet := ⟨false, (a * 256 + b) * 2 ^ 16, ones⟩

def privateBlocks : List IPNet :=
  [.v4 127 0 8, .v4 10 0 8, .v4 172 16 12, .v4 192 168 16, .v4 169 254 16, .v4 0 0 8,
    ⟨true, 1, 128⟩, ⟨true, 0xfc00 * 2 ^ 112, 7⟩, ⟨true, 0xfe80 * 2 ^ 112, 10⟩]

def isPrivateIP (ip : IP) : Bool := privateBlocks.any (·.contains ip)

def hostAllowed (patterns : List String) (host : String) : Bool :=
  patterns.any fun p => p = "*" || p = host ||
    ("*.".toList.isPrefixOf p.toList && Go.hasSuffix host (String.ofList (p.toList.drop 1)))

structure WebFetch where
  allowPrivateNetworks : Bool := false
  allowedHosts : List String := []

structure URL where
  text : String
  hostname : String

/-- What a call finds: how inputs are read and results written, and the network. -/
structure Web where
  unmarshal : String → Except String String
  parse : String → Except String URL
  lookupIP : String → Except String (List IP)
  newRequest : URL → Except String Unit := fun _ => .ok ()
  /-- The address that the client connects to for the URL, unless it cannot. -/
  dialled : Option IP
  /-- The redirects that the servers answer with, and the address it connects to for each. -/
  redirects : List (URL × IP) := []
  /-- The answer to the last request, and its body unless that cannot be read. -/
  response : Except String (ℤ × Except String Bytes)
  marshal : ℤ → Bytes → String

/-- The requests of the client: the host of each, and the address it goes to. -/
def Web.sent (web : Web) (url : URL) : List (String × IP) :=
  match web.dialled with
  | none => []
  | some ip => (url.hostname, ip) :: (web.redirects.take 9).map fun r => (r.1.hostname, r.2)

/-- An error of the client names the request that failed, or the redirect that it did not follow. -/
def clientError (url : URL) (err : String) : String := "Get " ++ Go.quote url.text ++ ": " ++ err

/-- `Do` of the client. -/
def Web.answer (web : Web) (url : URL) : Except String (ℤ × Except String Bytes) :=
  match web.redirects[9]? with
  | some r => .error (clientError r.1 "stopped after 10 redirects")
  | none => web.response.mapError (clientError ((web.redirects.map Prod.fst).getLastD url))

def failed (reason : String) : CallResult := { output := "", isError := true, reason }

/-- What `Call` does before the request: the URL, or what it returns at once. -/
def WebFetch.check (w : WebFetch) (web : Web) (input : String) :
    Except (Except String CallResult) URL :=
  match web.unmarshal input with
  | .error e => .error (.error e)
  | .ok text =>
    match web.parse text with
    | .error e => .error (.ok (failed e))
    | .ok url =>
      if hostAllowed w.allowedHosts url.hostname then
        if w.allowPrivateNetworks then .ok url
        else match web.lookupIP url.hostname with
          | .error e => .error (.ok (failed ("resolve " ++ url.hostname ++ ": " ++ e)))
          | .ok ips =>
            match ips.find? isPrivateIP with
            | some ip => .error (.ok (failed
                ("refuses to fetch private/loopback address " ++ ip.text ++ " (SSRF guard)")))
            | none => .ok url
      else .error (.ok (failed
        ("egress_denied: host " ++ Go.quote url.hostname ++ " is not on the allowlist")))

/-- `Call`: what it returns, and the requests that it sends. -/
def WebFetch.call (w : WebFetch) (web : Web) (input : String) :
    Except String CallResult × List (String × IP) :=
  match w.check web input with
  | .error result => (result, [])
  | .ok url =>
    match web.newRequest url with
    | .error e => (.ok (failed e), [])
    | .ok () =>
      match web.answer url with
      | .error e | .ok (_, .error e) => (.ok (failed e), web.sent url)
      | .ok (status, .ok body) =>
        (.ok { output := web.marshal status (body.take (2 ^ 20)) }, web.sent url)

/-- Only the host of the URL itself is looked at. -/
lemma check_host {w : WebFetch} {web : Web} {input : String} {url : URL}
    (h : w.check web input = .ok url) : hostAllowed w.allowedHosts url.hostname = true := by
  unfold WebFetch.check at h
  grind

/-- Every request of a call goes to an allowed host and to a public address exactly if, for a URL
that is let through, the name stands for a public address when the client connects, and so do all
redirects that it follows, which lead to allowed hosts. -/
theorem fetch_allowed_iff (w : WebFetch) (web : Web) (input : String) :
    (∀ r ∈ (w.call web input).2, hostAllowed w.allowedHosts r.1 = true ∧ isPrivateIP r.2 = false) ↔
      ∀ url, w.check web input = .ok url → web.newRequest url = .ok () → ∀ ip ∈ web.dialled,
        isPrivateIP ip = false ∧ ∀ r ∈ web.redirects.take 9,
          hostAllowed w.allowedHosts r.1.hostname = true ∧ isPrivateIP r.2 = false := by
  unfold WebFetch.call
  cases hcheck : w.check web input with
  | error result => simp
  | ok url =>
    cases hrequest : web.newRequest url with
    | error e => simp [hrequest]
    | ok _ =>
      have hsent : (∀ r ∈ web.sent url, hostAllowed w.allowedHosts r.1 = true ∧
          isPrivateIP r.2 = false) ↔ ∀ ip ∈ web.dialled, isPrivateIP ip = false ∧
            ∀ r ∈ web.redirects.take 9, hostAllowed w.allowedHosts r.1.hostname = true ∧
              isPrivateIP r.2 = false := by
        cases hdialled : web.dialled with
        | none => simp [Web.sent, hdialled]
        | some ip =>
          simp only [Web.sent, hdialled, List.forall_mem_cons, List.forall_mem_map,
            check_host hcheck, true_and, Option.mem_some_iff, forall_eq']
      rcases hanswer : web.answer url with e | ⟨status, e | body⟩ <;>
        simpa [hrequest, hanswer] using hsent

/-- A host that is allowed and public when it is looked at, with these redirects. -/
def redirecting (redirects : List (URL × IP)) : Web :=
  { unmarshal := .ok, parse := fun s => .ok ⟨s, s⟩, lookupIP := fun _ => .ok []
    dialled := some { text := "1.1.1.1", bits := 0x01010101 }, redirects
    response := .ok (200, .ok []), marshal := fun _ _ => "" }

/-- A server of an allowed host sends the client to the metadata service of its own network. -/
theorem redirect_leaves_allowlist :
    ∃ r ∈ (({ allowedHosts := ["a.com"] } : WebFetch).call (redirecting [(⟨"", "169.254.169.254"⟩,
        { text := "169.254.169.254", bits := 0xa9fea9fe })]) "a.com").2,
      hostAllowed ["a.com"] r.1 = false ∧ isPrivateIP r.2 = true := by
  decide +kernel

end NexusAgent.Tools
