import CachePartition.Proofs.DaemonUrls
import CachePartition.Proofs.UrlPaths

/-! Which resource of a daemon an entry's id leads to. The id is put behind the path of all entries as it is, so
it leads to a resource of its own if a URL can hold it that way. Any other id leads to one of these resources, to
all entries or somewhere else. -/
namespace CachePartition

open Text Url

/-- The path of all entries, below which each has its own. -/
def entriesPath : String := "/v1/workloads/"

/-- Ids that a URL holds as they are. -/
structure OwnId (id : String) : Prop where
  filled : id ≠ ""
  plain : Plain id.toList

/-- A host and its port, as a URL gives them. -/
inductive AuthorityText : String → Host → Nat → Prop where
  | ipv4 (a b c d : Fin 256) {p : Nat} (small : p < 65536) :
    AuthorityText (String.ofList (dotted a b c d ++ ':' :: Nat.toDigits 10 p))
      (.ipv4 (((a * 256 + b) * 256 + c) * 256 + d)) p
  | ipv6 {s : List Char} {n p : Nat} (h : Ipv6Text s n) (small : p < 65536) :
    AuthorityText (String.ofList ('[' :: (s ++ [']']) ++ ':' :: Nat.toDigits 10 p)) (.ipv6 n) p

theorem AuthorityText.names {authority : String} {host : Host} {port : Nat}
    (text : AuthorityText authority host port) : Names authority.toList host port := by
  cases text with
  | ipv4 a b c d small =>
    rw [String.toList_ofList]
    exact names_dotted a b c d small
  | ipv6 h small =>
    rw [String.toList_ofList]
    exact names_brackets h small

namespace DaemonCall

/-- The id of the one entry that a call is about. -/
def entryId? : DaemonCall → Option String
  | .update _ id _ => some id
  | .delete _ id => some id
  | _ => none

/-- The URL that a call on a daemon at a base address asks for. -/
def url? (c : DaemonCall) (base : String) : Option Url := (c.requestAt base).toOption.map (·.url)

end DaemonCall

section

variable {scheme : Scheme} {authority : String} {host : Host} {port : Nat} {c : DaemonCall} {id : String}

/-- What an id is made into, behind the slash after the port. -/
def entryPath (id : String) : List Char := "v1/workloads/".toList ++ id.toList

/-- The URL that an id leads to at a host and a port. -/
def entryUrl (scheme : Scheme) (host : Host) (port : Nat) (id : String) : Url :=
  urlAt scheme host port ('/' :: cleanEnd (entryPath id))

theorem url?_entry (text : AuthorityText authority host port) (about : c.entryId? = some id) :
    c.url? (daemonBase scheme authority) = some (entryUrl scheme host port id) := by
  have path : c.path.toList = '/' :: entryPath id := by
    cases c with
    | update _ _ _ =>
      obtain rfl := Option.some.inj about
      exact String.toList_append
    | delete _ _ =>
      obtain rfl := Option.some.inj about
      exact String.toList_append
    | list _ | create _ _ | cacheReport _ => cases about
  obtain ⟨rest, request, start, made, url⟩ := text.names.requestAt scheme c
  obtain rfl := (List.cons.inj (start.symm.trans path)).2
  rw [String.ofList_toList] at made
  rw [DaemonCall.url?, made]
  exact congrArg some url

theorem OwnId.solid (h : OwnId id) : ∀ x ∈ id.toList, isControlOrSpace x = false := by
  intro x mem
  have low := (isPathChar_iff.mp (h.plain.chars x mem)).1
  exact decide_eq_false (Nat.not_le.mpr low)

/-- The path of an own id is cleaned of nothing, whatever follows. -/
theorem OwnId.cleanEnd_append (h : OwnId id) (rest : List Char) :
    cleanEnd (entryPath id ++ rest) = entryPath id ++ cleanEnd rest := by
  have directory : ∀ x ∈ "v1/workloads/".toList, isControlOrSpace x = false :=
    List.all_iff_forall_prop.mp (by decide)
  have filled : entryPath id ≠ [] := List.append_ne_nil_of_left_ne_nil (by decide) _
  refine CachePartition.cleanEnd_append ?_ filled rest
  intro x mem
  rcases List.mem_append.mp mem with mem | mem
  · exact directory x mem
  · exact h.solid x mem

theorem OwnId.cleanEnd_path (h : OwnId id) : cleanEnd (entryPath id) = entryPath id := by
  have whole := h.cleanEnd_append []
  rw [List.append_nil] at whole
  exact whole.trans (List.append_nil _)

theorem OwnId.plain_path (h : OwnId id) : Plain (entryPath id) := by
  have directory : Plain "v1/workloads".toList := by decide
  exact directory.append h.plain

/-- An own id leads to the resource below all entries that is written like the id. -/
theorem OwnId.target (h : OwnId id) : (entryUrl scheme host port id).target = entriesPath ++ id := by
  have path : (entryUrl scheme host port id).path = entriesPath.toList ++ id.toList := by
    rw [entryUrl, h.cleanEnd_path, urlAt, readTail_plain h.plain_path]
    rfl
  have query : (entryUrl scheme host port id).query = none := by
    rw [entryUrl, h.cleanEnd_path, urlAt, readTail_plain h.plain_path]
  rw [Url.target, path, query, Option.elim_none, List.append_nil, String.ofList_append, String.ofList_toList,
    String.ofList_toList]

/-- What follows a number sign after an own id is left out. -/
theorem OwnId.entryUrl_fragment (h : OwnId id) (t : String) :
    entryUrl scheme host port (id ++ "#" ++ t) = entryUrl scheme host port id := by
  have no_sign : '#' ∉ '/' :: entryPath id := by
    intro mem
    rcases List.mem_cons.mp mem with same | mem
    · cases same
    · exact absurd (h.plain_path.chars _ mem) (by decide)
  have sign : cleanEnd ('#' :: t.toList) = '#' :: cleanEnd t.toList :=
    CachePartition.cleanEnd_append (List.forall_mem_singleton.mpr (by decide)) (List.cons_ne_nil _ _) t.toList
  have path : entryPath (id ++ "#" ++ t) = entryPath id ++ '#' :: t.toList := by
    have joined : (id ++ "#" ++ t).toList = id.toList ++ '#' :: t.toList := by simp
    unfold entryPath
    rw [joined, ← List.append_assoc]
  have tail : readTail .special ('/' :: (entryPath id ++ '#' :: cleanEnd t.toList)) =
      readTail .special ('/' :: entryPath id) :=
    readTail_fragment no_sign _
  rw [entryUrl, entryUrl, path, h.cleanEnd_append, sign, h.cleanEnd_path, urlAt, urlAt, tail]

/-- An id leads to all entries, to somewhere else or to the resource of an own id. -/
theorem entryUrl_path_cases (id : String) : (entryUrl scheme host port id).path = entriesPath.toList ∨
    ¬ entriesPath.toList <+: (entryUrl scheme host port id).path ∨
    ∃ other, OwnId other ∧ (entryUrl scheme host port id).path = (entriesPath ++ other).toList := by
  by_cases inside : entriesPath.toList <+: (entryUrl scheme host port id).path
  · obtain ⟨t, path⟩ := inside
    obtain ⟨s, read⟩ := exists_readTail .special ('/' :: cleanEnd (entryPath id))
    have below : readPath .special s = "/v1/workloads".toList ++ '/' :: t := read.symm.trans path.symm
    have plain := plain_of_readPath below
    by_cases empty : t = []
    · rw [empty, List.append_nil] at path
      exact .inl path.symm
    · refine .inr (.inr ⟨String.ofList t, ⟨?_, ?_⟩, ?_⟩)
      · simpa using empty
      · rwa [String.toList_ofList]
      · rw [String.toList_append, String.toList_ofList, path]
  · exact .inr (.inl inside)

end

/-- Calls about entries become requests at the host and the port of the daemon. An own id leads to the resource
that is written like it, another id to all entries, to somewhere else or to the resource of an own id. So own ids
lead to resources of their own, although each of them has others that lead there too. -/
theorem own_ids_have_own_targets {authority : String} {host : Host} {port : Nat}
    (text : AuthorityText authority host port) (scheme : Scheme) :
    (∀ (c : DaemonCall) (id : String), c.entryId? = some id → ∃ url,
      c.url? (daemonBase scheme authority) = some url ∧ url.host = some host ∧ url.effectivePort? = some port ∧
      (OwnId id → url.target = entriesPath ++ id) ∧
      (¬ OwnId id → url.path = entriesPath.toList ∨ ¬ entriesPath.toList <+: url.path ∨
        ∃ other, OwnId other ∧ url.path = (entriesPath ++ other).toList)) ∧
    ∀ (c c' : DaemonCall) (id id' : String) (url url' : Url), c.entryId? = some id → c'.entryId? = some id' →
      c.url? (daemonBase scheme authority) = some url → c'.url? (daemonBase scheme authority) = some url' →
      OwnId id → (OwnId id' → (url.target = url'.target ↔ id = id')) ∧
        ∀ t : String, id' = id ++ "#" ++ t → url' = url := by
  constructor
  · intro c id about
    exact ⟨_, url?_entry text about, rfl, effectivePort?_urlAt, OwnId.target, fun _ => entryUrl_path_cases id⟩
  · intro c c' id id' url url' about about' asks asks' own
    obtain rfl := Option.some.inj ((url?_entry text about).symm.trans asks)
    obtain rfl := Option.some.inj ((url?_entry text about').symm.trans asks')
    constructor
    · intro own'
      rw [own.target, own'.target, String.append_right_inj]
    · rintro t rfl
      exact own.entryUrl_fragment t

theorem authorityText_short : AuthorityText "10.0.0.1:8443" (.ipv4 0x0a000001) 8443 := by
  have small : 8443 < 65536 := by decide
  exact AuthorityText.ipv4 10 0 0 1 small

theorem own_ids_have_own_targets_seven :
    AuthorityText "10.0.0.1:8443" (.ipv4 0x0a000001) 8443 ∧ OwnId "7" ∧ OwnId "a/b%20c" ∧
    (∃ url, (DaemonCall.update "x" "7" {}).url? "http://10.0.0.1:8443" = some url ∧
      url.target = "/v1/workloads/7" ∧
      (DaemonCall.delete "x" "7#a").url? "http://10.0.0.1:8443" = some url) := by
  have seven : OwnId "7" := ⟨by decide, by decide⟩
  have escaped : OwnId "a/b%20c" := ⟨by decide, by decide⟩
  obtain ⟨each, pairs⟩ := own_ids_have_own_targets authorityText_short .http
  obtain ⟨url, asks, -, -, target, -⟩ := each (.update "x" "7" {}) "7" rfl
  obtain ⟨url', asks', -⟩ := each (.delete "x" "7#a") "7#a" rfl
  obtain rfl := (pairs _ _ _ _ _ _ rfl rfl asks asks' seven).2 "a" rfl
  exact ⟨authorityText_short, seven, escaped, url', asks, target seven, asks'⟩

/-- Different ids may lead to one resource, and an id to all entries or to somewhere else. -/
theorem ids_may_share_targets :
    let target? (id : String) := ((DaemonCall.delete "x" id).url? "http://10.0.0.1:8443").map Url.target
    target? "7" = some "/v1/workloads/7" ∧ target? "7#a" = some "/v1/workloads/7" ∧
    target? "" = some "/v1/workloads/" ∧ target? "." = some "/v1/workloads/" ∧ target? ".." = some "/v1/" := by
  decide +kernel

end CachePartition
