import CachePartition.Daemon.Http
import CachePartition.Proofs.AddressTexts
import CachePartition.Reconcile.Address
import Mathlib.Data.List.TakeWhile

/-! Whether a daemon can be spoken to at the address found for it. The address and the port of its pod are put
together as they are, and the request of a call is made for the URL that this begins. That is a URL for
addresses of version 4, and none for those of version 6, which a URL wants in brackets. -/
namespace CachePartition

open Text Url

/-- The port that a URL leads to. -/
def Url.effectivePort? (u : Url) : Option Nat := u.port.or (defaultPort? u.scheme)

/-- The name of a scheme in a URL. -/
def Scheme.name : Scheme → String
  | .http => "http"
  | .https => "https"

/-- A call made at a base address goes to a host and a port. -/
def DaemonCall.Reaches (c : DaemonCall) (base : String) (host : Host) (port : Nat) : Prop :=
  ∃ request, c.requestAt base = .ok request ∧ request.url.host = some host ∧
    request.url.effectivePort? = some port

/-- The port that the first container of a pod names first. -/
def Pod.firstPort? (p : Pod) : Option Int32 :=
  (p.spec.bind (·.containers.head?)).bind fun c => (c.ports.bind (·.head?)).map (·.containerPort)

/-- The characters that name a host and its port. -/
def authorityChars : List Char := '[' :: ']' :: addressChars

section Authority

variable {authority : List Char} {scheme : Scheme}

/-- What is left of the end of a text. -/
def cleanEnd (s : List Char) : List Char :=
  (s.reverse.dropWhile isControlOrSpace).reverse.filter fun c => c ≠ '\t' ∧ c ≠ '\n' ∧ c ≠ '\r'

/-- Solid text stays as it is, and so does what stands before it. -/
theorem cleanEnd_append {s : List Char} (solid : ∀ c ∈ s, isControlOrSpace c = false) (filled : s ≠ [])
    (rest : List Char) : cleanEnd (s ++ rest) = s ++ cleanEnd rest := by
  have back : (rest.reverse ++ s.reverse).dropWhile isControlOrSpace =
      rest.reverse.dropWhile isControlOrSpace ++ s.reverse := by
    obtain ⟨c, l, same⟩ := List.exists_cons_of_ne_nil (List.reverse_ne_nil_iff.mpr filled)
    have last : isControlOrSpace c = false :=
      solid c (List.mem_reverse.mp (same ▸ List.mem_cons_self))
    -- Trimming from the end takes all of the rest and then stops, or stops in it.
    rw [List.dropWhile_append]
    split
    · next none_left =>
      rw [List.isEmpty_iff.mp none_left, same, List.dropWhile_cons_of_neg (by simp [last]), List.nil_append]
    · rfl
  have kept : s.filter (fun c => c ≠ '\t' ∧ c ≠ '\n' ∧ c ≠ '\r') = s := by
    refine List.filter_eq_self.mpr fun c mem => decide_eq_true ⟨?_, ?_, ?_⟩
    all_goals
      rintro rfl
      exact absurd (solid _ mem) (by decide)
  rw [cleanEnd, List.reverse_append, back, List.reverse_append, List.reverse_reverse, List.filter_append, kept]
  rfl

/-- Only what follows solid text is cleaned. -/
theorem clean_append {s : List Char} (solid : ∀ c ∈ s, isControlOrSpace c = false) (filled : s ≠ [])
    (rest : List Char) : clean (s ++ rest) = s ++ cleanEnd rest := by
  have front : (s ++ rest).dropWhile isControlOrSpace = s ++ rest := by
    obtain ⟨c, l, rfl⟩ := List.exists_cons_of_ne_nil filled
    rw [List.cons_append, List.dropWhile_cons_of_neg (by simp [solid c List.mem_cons_self])]
  rw [← cleanEnd_append solid filled, clean, front]
  rfl

theorem readScheme?_text (scheme : Scheme) (rest : List Char) :
    readScheme? (scheme.text.toList ++ rest) = some (scheme.name, '/' :: '/' :: rest) := by
  cases scheme
  · rfl
  · rfl

theorem Scheme.kindOf_name (scheme : Scheme) : kindOf scheme.name = .special := by
  cases scheme
  · decide
  · decide

theorem DaemonCall.path_start (c : DaemonCall) : ∃ rest, c.path.toList = '/' :: rest := by
  cases c <;> simp [DaemonCall.path]

/-- The part of the URL of a call that names the host is the text put behind the scheme. -/
theorem read?_daemonBase (scheme : Scheme) (plain : ∀ c ∈ authority, c ∈ authorityChars)
    (filled : authority ≠ []) (c : DaemonCall) :
    ∃ rest, c.path.toList = '/' :: rest ∧ read? (daemonBase scheme (String.ofList authority) ++ c.path) =
      readAuthority? scheme.name .special (authority ++ '/' :: cleanEnd rest) := by
  obtain ⟨path, start⟩ := c.path_start
  have solid : ∀ x ∈ scheme.text.toList ++ (authority ++ ['/']), isControlOrSpace x = false := by
    have address : ∀ x ∈ authorityChars, isControlOrSpace x = false :=
      List.all_iff_forall_prop.mp (by decide)
    have before : ∀ x ∈ scheme.text.toList, isControlOrSpace x = false :=
      List.all_iff_forall_prop.mp (by cases scheme <;> decide)
    simp only [List.mem_append, List.mem_singleton]
    rintro x (mem | mem | rfl)
    · exact before x mem
    · exact address x (plain x mem)
    · decide
  have text : clean (daemonBase scheme (String.ofList authority) ++ c.path).toList =
      scheme.text.toList ++ (authority ++ '/' :: cleanEnd path) := by
    simpa [daemonBase, start] using clean_append solid (by simp) path
  have slashes : ('/' :: '/' :: (authority ++ '/' :: cleanEnd path)).dropWhile (isSlash .special) =
      authority ++ '/' :: cleanEnd path := by
    have apart : ∀ x ∈ authorityChars, isSlash .special x = false :=
      List.all_iff_forall_prop.mp (by decide)
    obtain ⟨x, l, rfl⟩ := List.exists_cons_of_ne_nil filled
    have first := apart x (plain x List.mem_cons_self)
    rw [List.dropWhile_cons_of_pos (by decide), List.dropWhile_cons_of_pos (by decide), List.cons_append,
      List.dropWhile_cons_of_neg (by simp [first])]
  refine ⟨path, start, ?_⟩
  simp only [read?, text, readScheme?_text, Option.bind_eq_bind, Option.bind_some, scheme.kindOf_name, slashes]

theorem takeWhile_authority (plain : ∀ c ∈ authority, c ∈ authorityChars) (rest : List Char) :
    (authority ++ '/' :: rest).takeWhile (fun c => !endsAuthority .special c) = authority := by
  have inside : ∀ c ∈ authorityChars, (!endsAuthority .special c) = true :=
    List.all_iff_forall_prop.mp (by decide)
  rw [List.takeWhile_append_of_pos fun c mem => inside c (plain c mem),
    List.takeWhile_cons_of_neg (by decide), List.append_nil]

theorem afterLogin_authority (plain : ∀ c ∈ authority, c ∈ authorityChars) :
    afterLogin authority = (authority, false) := by
  have no_login : '@' ∉ authority := fun mem => absurd (plain _ mem) (by decide)
  have all : authority.reverse.takeWhile (· ≠ '@') = authority.reverse := by
    refine List.takeWhile_eq_self_iff.mpr fun c mem => decide_eq_true fun same => ?_
    exact no_login (same ▸ List.mem_reverse.mp mem)
  simp only [afterLogin, all, List.reverse_reverse, no_login, decide_false]

theorem dropWhile_authority (plain : ∀ c ∈ authority, c ∈ authorityChars) (rest : List Char) :
    (authority ++ '/' :: rest).dropWhile (fun c => !endsAuthority .special c) = '/' :: rest := by
  have inside : ∀ c ∈ authorityChars, (!endsAuthority .special c) = true :=
    List.all_iff_forall_prop.mp (by decide)
  rw [List.dropWhile_append_of_pos fun c mem => inside c (plain c mem),
    List.dropWhile_cons_of_neg (by decide)]

/-- An authority names a host and a port. -/
structure Names (authority : List Char) (h : Host) (p : Nat) : Prop where
  plain : ∀ c ∈ authority, c ∈ authorityChars
  filled : authority ≠ []
  named : h ≠ .opaqueText ""
  cut : ∃ host port, splitPort false authority = (host, port) ∧ readHost? host = some h ∧
    readPort? port = some (some p)

/-- The URL of a path at a host and a port. The port of the scheme itself is left out of it. -/
def urlAt (scheme : Scheme) (h : Host) (p : Nat) (path : List Char) : Url where
  scheme := scheme.name
  host := some h
  port := (some p).filter fun p => defaultPort? scheme.name ≠ some p
  path := (readTail .special path).1
  query := (readTail .special path).2

theorem effectivePort?_urlAt {h : Host} {p : Nat} {path : List Char} :
    (urlAt scheme h p path).effectivePort? = some p := by
  have shown := Decidable.em (defaultPort? scheme.name = some p)
  simpa [urlAt, effectivePort?] using shown.symm

/-- A call is made for its path at the host and the port that the authority names. -/
theorem Names.requestAt {h : Host} {p : Nat} (names : Names authority h p) (scheme : Scheme) (c : DaemonCall) :
    ∃ rest request, c.path.toList = '/' :: rest ∧
      c.requestAt (daemonBase scheme (String.ofList authority)) = .ok request ∧
      request.url = urlAt scheme h p ('/' :: cleanEnd rest) := by
  obtain ⟨host, port, parts, readHost, readPort⟩ := names.cut
  obtain ⟨rest, path, url⟩ := read?_daemonBase scheme names.plain names.filled c
  have read : readAuthority? scheme.name .special (authority ++ '/' :: cleanEnd rest) =
      some (urlAt scheme h p ('/' :: cleanEnd rest)) := by
    simp [readAuthority?, takeWhile_authority names.plain, dropWhile_authority names.plain,
      afterLogin_authority names.plain, parts, readHost, readPort, names.named, urlAt]
  have made : c.requestAt (daemonBase scheme (String.ofList authority)) =
      .ok ⟨c.httpMethod, urlAt scheme h p ('/' :: cleanEnd rest), c.body?.map fun _ => "application/json",
        c.body?.elim "" (·.toJson.print)⟩ := by
    rw [DaemonCall.requestAt, url, read]
    cases c.body? <;> simp [urlAt]
  exact ⟨rest, _, path, made, rfl⟩

theorem Names.reaches {h : Host} {p : Nat} (names : Names authority h p) (c : DaemonCall) :
    c.Reaches (daemonBase scheme (String.ofList authority)) h p := by
  obtain ⟨rest, request, -, made, url⟩ := names.requestAt scheme c
  exact ⟨request, made, by rw [url]; rfl, by rw [url, effectivePort?_urlAt]⟩

variable {host port : List Char}

/-- No call is made if what follows the host is no port. -/
theorem requestAt_of_no_port (plain : ∀ c ∈ authority, c ∈ authorityChars) (filled : authority ≠ [])
    (parts : splitPort false authority = (host, port)) (readPort : readPort? port = none)
    (c : DaemonCall) : c.requestAt (daemonBase scheme (String.ofList authority)) = .error .request := by
  obtain ⟨rest, -, url⟩ := read?_daemonBase scheme plain filled c
  have unread : readAuthority? scheme.name .special (authority ++ '/' :: cleanEnd rest) = none := by
    simp [readAuthority?, takeWhile_authority plain, afterLogin_authority plain, parts, readPort]
  rw [DaemonCall.requestAt, url, unread]

end Authority

section Ports

variable {s : List Char}

theorem splitPort_colon (plain : ∀ c ∈ s, c ≠ ':' ∧ c ≠ '[') (rest : List Char) :
    splitPort false (s ++ ':' :: rest) = (s, ':' :: rest) := by
  induction s with
  | nil => simp [splitPort]
  | cons c s ih =>
    obtain ⟨no_colon, no_bracket⟩ := plain c List.mem_cons_self
    have others := ih fun d hd => plain d (List.mem_cons_of_mem _ hd)
    simp [splitPort, no_colon, no_bracket, others]

/-- In brackets a colon does not end the host. -/
theorem splitPort_bracket (closed : ']' ∉ s) (rest : List Char) :
    splitPort false ('[' :: (s ++ [']']) ++ ':' :: rest) = ('[' :: (s ++ [']']), ':' :: rest) := by
  have inside : splitPort true (s ++ ']' :: ':' :: rest) = (s ++ [']'], ':' :: rest) := by
    induction s with
    | nil => simp [splitPort]
    | cons c s ih =>
      rw [List.mem_cons, not_or] at closed
      simp [splitPort, Ne.symm closed.1, ih closed.2]
  simp [splitPort, inside]

theorem readPort?_toDigits {p : Nat} (small : p < 65536) :
    readPort? (':' :: Nat.toDigits 10 p) = some (some p) := by
  have digits := Decimal.all_isDigit_toDigits p
  have value : (Nat.toDigits 10 p).foldl (fun n c => n * 10 + (c.toNat - '0'.toNat)) 0 = p := by
    simpa only [Decimal.digitsValue, Nat.mul_comm] using Decimal.digitsValue_toDigits p
  obtain ⟨c, l, same⟩ := List.exists_cons_of_ne_nil (Nat.toDigits_ne_nil (n := p) (b := 10))
  rw [same] at digits value ⊢
  simp only [readPort?, digits, value, small, if_true]

theorem readPort?_colon (h : ':' ∈ s) : readPort? (':' :: s) = none := by
  have undigited : s.all isDigit = false := List.all_eq_false.mpr ⟨':', h, by decide⟩
  obtain ⟨c, l, rfl⟩ := List.exists_cons_of_ne_nil (List.ne_nil_of_mem h)
  simp only [readPort?, undigited, Bool.false_eq_true, if_false]

end Ports

theorem Pod.hostPort_eq {pod : Pod} {ip : String} {port : Int32} {p : Nat}
    (address : pod.status.bind (·.podIp) = some ip) (filled : ip ≠ "") (first : pod.firstPort? = some port)
    (value : port.toInt = p) : pod.hostPort = .ok (ip ++ ":" ++ decimal p) := by
  obtain ⟨container, held, rest⟩ := Option.bind_eq_some_iff.mp first
  obtain ⟨named, ports, rfl⟩ := Option.map_eq_some_iff.mp rest
  have number : signedDecimal named.containerPort.toInt = decimal p := by
    rw [value, signedDecimal, if_neg (by omega), Int.natAbs_natCast]
  have told : (some ip).filter (fun ip => !ip.isEmpty) = some ip := by simp [filled]
  simp only [hostPort, address, told, held, ports, number]

section Versions

variable {s : List Char} {p : Nat} {scheme : Scheme}

theorem authorityChars_address : ∀ x ∈ addressChars, x ∈ authorityChars ∧ x ≠ '[' ∧ x ≠ ']' :=
  List.all_iff_forall_prop.mp (by decide)

/-- What is put together of characters of addresses and a port names a host. -/
theorem authorityChars_port (plain : ∀ c ∈ s, c ∈ authorityChars) (p : Nat) :
    ∀ c ∈ s ++ ':' :: Nat.toDigits 10 p, c ∈ authorityChars := by
  intro c mem
  rcases List.mem_append.mp mem with mem | mem
  · exact plain c mem
  · rcases List.mem_cons.mp mem with rfl | digit
    · decide
    · have all : ∀ d ∈ decimalDigits, d ∈ authorityChars :=
        List.all_iff_forall_prop.mp (by decide)
      exact all c (mem_decimalDigits_of_mem_toDigits digit)

/-- An address of version 4 is read before the first colon. -/
theorem names_dotted (a b d e : Fin 256) (small : p < 65536) :
    Names (dotted a b d e ++ ':' :: Nat.toDigits 10 p) (.ipv4 (((a * 256 + b) * 256 + d) * 256 + e)) p := by
  have each : ∀ x ∈ '.' :: decimalDigits, x ∈ authorityChars ∧ x ≠ ':' ∧ x ≠ '[' :=
    List.all_iff_forall_prop.mp (by decide)
  have chars : ∀ x ∈ dotted a b d e, x ∈ authorityChars ∧ x ≠ ':' ∧ x ≠ '[' := fun x mem =>
    each x (mem_dotted mem)
  have plain := authorityChars_port (fun x mem => (chars x mem).1) p
  have parts := splitPort_colon (fun x mem => (chars x mem).2) (Nat.toDigits 10 p)
  exact ⟨plain, by simp, Host.noConfusion, _, _, parts, readHost?_dotted a b d e, readPort?_toDigits small⟩

/-- One of version 6 is read between brackets. -/
theorem names_brackets {n : Nat} (h : Ipv6Text s n) (small : p < 65536) :
    Names ('[' :: (s ++ [']']) ++ ':' :: Nat.toDigits 10 p) (.ipv6 n) p := by
  have chars : ∀ x ∈ s, x ∈ authorityChars ∧ x ≠ '[' ∧ x ≠ ']' := fun x mem =>
    authorityChars_address x (h.chars x mem)
  have inside : ∀ x ∈ '[' :: (s ++ [']']), x ∈ authorityChars := by
    simp only [List.mem_cons, List.mem_append, List.not_mem_nil, or_false]
    rintro x (rfl | mem | rfl)
    · decide
    · exact (chars x mem).1
    · decide
  have closed : ']' ∉ s := fun mem => (chars _ mem).2.2 rfl
  exact ⟨authorityChars_port inside p, by simp, Host.noConfusion, _, _, splitPort_bracket closed _, h.readHost?,
    readPort?_toDigits small⟩

theorem reaches_dotted (a b d e : Fin 256) (small : p < 65536) (c : DaemonCall) :
    c.Reaches (daemonBase scheme (String.ofList (dotted a b d e ++ ':' :: Nat.toDigits 10 p)))
      (.ipv4 (((a * 256 + b) * 256 + d) * 256 + e)) p :=
  (names_dotted a b d e small).reaches c

theorem reaches_brackets {n : Nat} (h : Ipv6Text s n) (small : p < 65536) (c : DaemonCall) :
    c.Reaches (daemonBase scheme (String.ofList ('[' :: (s ++ [']']) ++ ':' :: Nat.toDigits 10 p)))
      (.ipv6 n) p :=
  (names_brackets h small).reaches c

/-- Without them its first colon ends the host, and what follows holds another colon. -/
theorem requestAt_without_brackets {n : Nat} (h : Ipv6Text s n) (p : Nat) (c : DaemonCall) :
    c.requestAt (daemonBase scheme (String.ofList (s ++ ':' :: Nat.toDigits 10 p))) = .error .request := by
  have chars : ∀ x ∈ s, x ∈ authorityChars ∧ x ≠ '[' ∧ x ≠ ']' := fun x mem =>
    authorityChars_address x (h.chars x mem)
  have plain := authorityChars_port (fun x mem => (chars x mem).1) p
  obtain ⟨before, after, rfl, first⟩ := List.eq_append_cons_of_mem h.colon
  have host : ∀ x ∈ before, x ≠ ':' ∧ x ≠ '[' := fun x mem =>
    ⟨fun same => first (same ▸ mem), (chars x (List.mem_append_left _ mem)).2.1⟩
  have parts : splitPort false (before ++ ':' :: after ++ ':' :: Nat.toDigits 10 p) =
      (before, ':' :: (after ++ ':' :: Nat.toDigits 10 p)) := by
    rw [List.append_assoc]
    exact splitPort_colon host _
  have second : ':' ∈ after ++ ':' :: Nat.toDigits 10 p := List.mem_append_right _ List.mem_cons_self
  exact requestAt_of_no_port plain (by simp) parts (readPort?_colon second) c

end Versions

/-- Every daemon with an address of version 4 is reached by every call, at the address put together for it.
None with an address of version 6 is: no call on it becomes a request, though each would with brackets. -/
theorem daemons_reached_by_version {pod : Pod} {ip : String} {host : Host} {port : Int32} {p : Nat}
    (address : pod.status.bind (·.podIp) = some ip) (text : AddressText ip host)
    (first : pod.firstPort? = some port) (value : port.toInt = p) (high : p ≤ 65535) :
    pod.hostPort = .ok (ip ++ ":" ++ decimal p) ∧ ∀ (scheme : Scheme) (c : DaemonCall),
      let base := daemonBase scheme (ip ++ ":" ++ decimal p)
      (∀ n, host = .ipv4 n → c.Reaches base host p) ∧
      (∀ n, host = .ipv6 n → c.requestAt base = .error .request ∧
        (∀ network, c.overHttp network base = c.failed .request) ∧
        c.Reaches (daemonBase scheme ("[" ++ ip ++ "]:" ++ decimal p)) host p) := by
  refine ⟨Pod.hostPort_eq address text.filled first value, fun scheme c => ?_⟩
  have small : p < 65536 := Nat.lt_succ_of_le high
  have joined (s : List Char) : String.ofList s ++ ":" ++ decimal p =
      String.ofList (s ++ ':' :: Nat.toDigits 10 p) :=
    String.toList_inj.mp (by simp [decimal])
  cases text with
  | ipv4 a b d e =>
    rw [joined]
    exact ⟨fun _ _ => reaches_dotted a b d e small c, fun _ other => nomatch other⟩
  | @ipv6 s n h =>
    have bracketed : "[" ++ String.ofList s ++ "]:" ++ decimal p =
        String.ofList ('[' :: (s ++ [']']) ++ ':' :: Nat.toDigits 10 p) :=
      String.toList_inj.mp (by simp [decimal])
    have unmade : c.requestAt (daemonBase scheme (String.ofList (s ++ ':' :: Nat.toDigits 10 p))) =
        .error .request :=
      requestAt_without_brackets h p c
    rw [joined, bracketed]
    refine ⟨fun _ other => (nomatch other), fun _ _ => ⟨unmade, fun network => ?_, ?_⟩⟩
    · rw [DaemonCall.overHttp, unmade]
    · exact reaches_brackets h small c

/-- A daemon pod with an address and a port. -/
def daemonPod (ip : String) (port : Int32) : Pod where
  metadata := { name := some "rmd-node-1" }
  spec := some { containers := [{ name := "rmd", ports := some [{ containerPort := port }] }] }
  status := some { podIp := some ip }

theorem addressText_short : AddressText "fd00::10" (.ipv6 (0xfd00 * 65536 ^ 7 + 0x10)) := by
  have before : HexGroup "fd00".toList := by decide
  have after : HexGroup "10".toList := by decide
  exact .ipv6 (.shortened (.groups (.one before)) (.groups (.one after)) (by decide))

/-- The port of a scheme itself is not written, and leads there all the same. -/
theorem daemons_reached_by_version_both :
    let four := daemonPod "10.0.0.1" 443
    let six := daemonPod "fd00::10" 8443
    (AddressText "10.0.0.1" (.ipv4 0x0a000001) ∧ four.firstPort? = some 443 ∧
      four.hostPort = .ok "10.0.0.1:443" ∧
      (DaemonCall.list "https://10.0.0.1:443").Reaches "https://10.0.0.1:443" (.ipv4 0x0a000001) 443) ∧
    (AddressText "fd00::10" (.ipv6 (0xfd00 * 65536 ^ 7 + 0x10)) ∧ six.firstPort? = some 8443 ∧
      six.hostPort = .ok "fd00::10:8443" ∧
      (DaemonCall.list "http://fd00::10:8443").requestAt "http://fd00::10:8443" = .error .request ∧
      (DaemonCall.list "http://fd00::10:8443").Reaches "http://[fd00::10]:8443"
        (.ipv6 (0xfd00 * 65536 ^ 7 + 0x10)) 8443) := by
  intro four six
  have text : AddressText "10.0.0.1" (.ipv4 0x0a000001) := .ipv4 10 0 0 1
  have first : four.firstPort? = some 443 := rfl
  have second : six.firstPort? = some 8443 := rfl
  obtain ⟨joined, plain⟩ := daemons_reached_by_version rfl text first rfl (by decide)
  obtain ⟨joined', colons⟩ := daemons_reached_by_version rfl addressText_short second rfl (by decide)
  obtain ⟨lost, -, bracketed⟩ := (colons .http (.list "http://fd00::10:8443")).2 _ rfl
  exact ⟨⟨text, first, joined, (plain .https _).1 _ rfl⟩,
    addressText_short, second, joined', lost, bracketed⟩

/-- A daemon with an address and a port may be reached by no call. -/
theorem unreached_without_brackets :
    let pod := daemonPod "fd00::10" 8443
    AddressText "fd00::10" (.ipv6 (0xfd00 * 65536 ^ 7 + 0x10)) ∧ pod.status.bind (·.podIp) = some "fd00::10" ∧
    pod.firstPort? = some 8443 ∧ pod.hostPort = .ok "fd00::10:8443" ∧
    (DaemonCall.list "http://fd00::10:8443").requestAt (daemonBase .http "fd00::10:8443") =
      .error .request := by
  refine ⟨addressText_short, rfl, rfl, ?_, ?_⟩
  · decide +kernel
  · decide +kernel

end CachePartition
